import Notifications.Valiant.Validator

/-!
# When the validator panics

The walk over the fields, as the list of its visits: each is a field with the
object that it is looked up in, and a visit to a nested struct is followed by
those to its fields.  A visit may find that a required field is missing, which
ends the walk with an error, or that a nested struct has no object under its
tag, which ends it with a panic.
-/

set_option autoImplicit false

namespace Notifications.Valiant

open Notifications.Lib Notifications.Web

structure Visit where
  field : StructField
  /-- the field is a nested struct -/
  nested : Bool
  parentUntyped : List (String × Json)

/-- The object under a name; any other value has no members. -/
def objectUnder (name : String) (untyped : List (String × Json)) :
    Option (List (String × Json)) :=
  match Json.lookup name untyped with
  | some (.object members) => some members
  | _ => none

theorem objectUnder_cases (name : String) (untyped : List (String × Json)) :
    (objectUnder name untyped = none ∧
      ∀ members, Json.lookup name untyped ≠ some (.object members)) ∨
    ∃ members, objectUnder name untyped = some members ∧
      Json.lookup name untyped = some (.object members) := by
  rw [objectUnder]
  split
  · rename_i members found
    exact .inr ⟨members, rfl, found⟩
  · rename_i stuck
    exact .inl ⟨rfl, stuck⟩

def Fields.visits : Fields → List (String × Json) → List Visit
  | .nil, _ => []
  | .plain field _ rest, untyped =>
      ⟨field, false, untyped⟩ :: rest.visits untyped
  | .struct field nested rest, untyped =>
      ⟨field, true, untyped⟩ ::
        ((match objectUnder field.tag untyped with
          | some members => nested.visits members
          | none => []) ++ rest.visits untyped)

namespace Visit

/-- The field is required, and its name is not there. -/
def Missing (visit : Visit) : Prop :=
  visit.field.required = true ∧
    Json.lookup visit.field.jsonName visit.parentUntyped = none

/-- The field is a struct of which the validator cannot look at the fields. -/
def Unfit (visit : Visit) : Prop :=
  visit.nested = true ∧ (visit.field.exported = false ∨
    objectUnder visit.field.tag visit.parentUntyped = none)

instance (visit : Visit) : Decidable visit.Missing :=
  inferInstanceAs (Decidable (_ ∧ _ = none))

instance (visit : Visit) : Decidable visit.Unfit :=
  inferInstanceAs (Decidable (_ ∧ (_ ∨ _)))

end Visit

/-- Before a visit that would panic, or at it, a required field is missing. -/
def Covered (visits : List Visit) : Prop :=
  ∀ before visit after, visits = before ++ visit :: after → visit.Unfit →
    ∃ earlier ∈ before ++ [visit], earlier.Missing

/-- `Validate` returns. -/
def Returns [Models.Collation] (library : NameLibrary) (fields : Fields)
    (body : Body) (environment : Environment) (world : World) : Prop :=
  ∃ result, ((validate library fields body).run (World.handle environment)
    world).1 = some result

/-- A body that both decoders take is an object whose nested objects are there
as far as the walk goes. -/
def Walkable (library : NameLibrary) (fields : Fields) (body : Body) : Prop :=
  ∀ json, body.first = some json → fields.takes library json = true →
    json.representable library.float64 = true →
      ∃ members, json = .object members ∧ Covered (fields.visits members)

/-! ## The walk -/

def judge : List Visit → Option (Option String)
  | [] => some none
  | visit :: rest =>
      match validateRequiredField visit.field visit.parentUntyped with
      | some text => some (some text)
      | none => if visit.Unfit then none else judge rest

theorem validateRequiredField_eq_none {field : StructField}
    {untyped : List (String × Json)} :
    validateRequiredField field untyped = none ↔
      ¬ (field.required = true ∧ Json.lookup field.jsonName untyped = none) := by
  rw [validateRequiredField]
  simp

theorem Visit.missing_iff {visit : Visit} :
    visit.Missing ↔ ∃ text,
      validateRequiredField visit.field visit.parentUntyped = some text := by
  rw [← Option.isSome_iff_exists, Option.isSome_iff_ne_none, ne_eq,
    validateRequiredField_eq_none, not_not]
  rfl

theorem judge_append (before after : List Visit) :
    judge (before ++ after) =
      match judge before with
      | some none => judge after
      | stopped => stopped := by
  induction before with
  | nil => rfl
  | cons visit rest ih =>
      rw [List.cons_append, judge, judge, ih]
      cases validateRequiredField visit.field visit.parentUntyped with
      | some text => rfl
      | none =>
          dsimp only
          split
          · rfl
          · rfl

/-- The walk stops at the first visit that stops it. -/
theorem validateRequired_eq_judge (fields : Fields)
    (untyped : List (String × Json)) :
    fields.validateRequired untyped = judge (fields.visits untyped) := by
  induction fields generalizing untyped with
  | nil => rfl
  | plain field takes rest ih =>
      rw [Fields.validateRequired, Fields.visits, judge, ih]
      cases validateRequiredField field untyped with
      | some text => rfl
      | none => simp [Visit.Unfit]
  | struct field nested rest inner ih =>
      rw [Fields.validateRequired, Fields.visits, judge]
      cases validateRequiredField field untyped with
      | some text => rfl
      | none =>
          dsimp only
          by_cases exported : field.exported = true
          · rw [if_pos exported]
            rcases objectUnder_cases field.tag untyped with
              ⟨absent, stuck⟩ | ⟨members, found, object⟩
            · rw [if_pos ⟨rfl, .inr absent⟩]
              cases found : Json.lookup field.tag untyped with
              | none => rfl
              | some json =>
                  cases json with
                  | object members => exact absurd found (stuck members)
                  | _ => rfl
            · have fit : ¬ (⟨field, true, untyped⟩ : Visit).Unfit := by
                rintro ⟨_, hidden | absent⟩
                · rw [exported] at hidden
                  cases hidden
                · rw [found] at absent
                  cases absent
              have below :=
                judge_append (nested.visits members) (rest.visits untyped)
              rw [← inner, ← ih] at below
              rw [if_neg fit, found, object]
              exact below.symm
          · rw [if_neg exported,
              if_pos ⟨rfl, .inl (eq_false_of_ne_true exported)⟩]

/-! ## Panics -/

theorem covered_cons {visit : Visit} {rest : List Visit} :
    Covered (visit :: rest) ↔
      visit.Missing ∨ ¬ visit.Unfit ∧ Covered rest := by
  constructor
  · intro covered
    by_cases missing : visit.Missing
    · exact .inl missing
    refine .inr ⟨?_, ?_⟩
    · intro unfit
      obtain ⟨earlier, listed, found⟩ := covered [] visit rest rfl unfit
      rw [List.nil_append, List.mem_singleton] at listed
      rw [listed] at found
      exact missing found
    · intro before other after split unfit
      obtain ⟨earlier, listed, found⟩ :=
        covered (visit :: before) other after (by rw [split]; rfl) unfit
      rcases List.mem_cons.mp listed with rfl | later
      · exact absurd found missing
      · exact ⟨earlier, later, found⟩
  · intro condition before other after split unfit
    cases before with
    | nil =>
        cases split
        rcases condition with missing | ⟨fit, _⟩
        · exact ⟨visit, .head _, missing⟩
        · exact absurd unfit fit
    | cons first between =>
        cases split
        rcases condition with missing | ⟨_, covered⟩
        · exact ⟨visit, .head _, missing⟩
        · obtain ⟨earlier, listed, found⟩ :=
            covered between other after rfl unfit
          exact ⟨earlier, .tail _ listed, found⟩

theorem judge_cases (visits : List Visit) :
    (judge visits = none ∧ ¬ Covered visits) ∨
    ((∃ text, judge visits = some (some text)) ∧ Covered visits ∧
      ∃ visit ∈ visits, visit.Missing) ∨
    judge visits = some none ∧ Covered visits ∧
      ∀ visit ∈ visits, ¬ visit.Missing := by
  induction visits with
  | nil =>
      refine .inr (.inr ⟨rfl, ?_, by simp⟩)
      intro before visit after split
      cases before <;> cases split
  | cons visit rest ih =>
      rw [judge, covered_cons]
      cases required : validateRequiredField visit.field
          visit.parentUntyped with
      | some text =>
          have missing := Visit.missing_iff.mpr ⟨text, required⟩
          exact .inr (.inl ⟨⟨text, rfl⟩, .inl missing,
            visit, .head _, missing⟩)
      | none =>
          have present : ¬ visit.Missing :=
            validateRequiredField_eq_none.mp required
          dsimp only
          by_cases unfit : visit.Unfit
          · rw [if_pos unfit]
            refine .inl ⟨rfl, ?_⟩
            rintro (missing | ⟨fit, _⟩)
            · exact present missing
            · exact fit unfit
          · rw [if_neg unfit]
            rcases ih with ⟨stuck, uncovered⟩ |
              ⟨ends, covered, other, listed, missing⟩ |
              ⟨ends, covered, complete⟩
            · refine .inl ⟨stuck, ?_⟩
              rintro (missing | ⟨_, covered⟩)
              · exact present missing
              · exact uncovered covered
            · exact .inr (.inl ⟨ends, .inr ⟨unfit, covered⟩, other,
                .tail _ listed, missing⟩)
            · refine .inr (.inr ⟨ends, .inr ⟨unfit, covered⟩, ?_⟩)
              intro other listed
              rcases List.mem_cons.mp listed with rfl | later
              · exact present
              · exact complete other later

theorem validateRequired_eq_none_iff {fields : Fields}
    {untyped : List (String × Json)} :
    fields.validateRequired untyped = none ↔
      ¬ Covered (fields.visits untyped) := by
  rw [validateRequired_eq_judge]
  rcases judge_cases (fields.visits untyped) with
    ⟨stuck, uncovered⟩ | ⟨⟨text, ends⟩, covered, _⟩ | ⟨ends, covered, _⟩
  · simp [stuck, uncovered]
  · simp [ends, covered]
  · simp [ends, covered]

section Runs

variable {library : NameLibrary} {fields : Fields} {body : Body}
  {members : List (String × Json)}

theorem run_validate_object [Models.Collation]
    (first : body.first = some (.object members))
    (taken : fields.takes library (.object members) = true)
    (fits : (Json.object members).representable library.float64 = true)
    (environment : Environment) (world : World) :
    ((validate library fields body).run (World.handle environment) world).1 =
      match fields.validateRequired members with
      | none => none
      | some (some text) => some (.error (.required text))
      | some none =>
          match reportExtraKeys library
              (fields.infos.map StructField.jsonName)
              (environment.order (Json.keys members)).1 with
          | some text => some (.error (.extra text))
          | none => some (.ok ()) := by
  rw [validate, first]
  dsimp only
  rw [taken, fits]
  simp only [Bool.and_self, if_true]
  cases fields.validateRequired members with
  | none => rfl
  | some ended =>
      cases ended with
      | some text => rfl
      | none =>
          simp only [Program.perform_bind, Program.run_call, World.handle]
          cases reportExtraKeys library
              (fields.infos.map StructField.jsonName)
              (environment.order (Json.keys members)).1 with
          | some text => rfl
          | none => rfl

/-- The decoder takes `null` for a struct, and nothing else but an object. -/
theorem takes_cases {json : Json}
    (taken : fields.takes library json = true) :
    json = .null ∨ ∃ members, json = .object members := by
  cases json with
  | null => exact .inl rfl
  | object members => exact .inr ⟨members, rfl⟩
  | bool value => cases taken
  | number literal => cases taken
  | string text => cases taken
  | array elements => cases taken

theorem validate_null (first : body.first = some .null)
    (taken : fields.takes library .null = true ∧
      Json.null.representable library.float64 = true) :
    validate library fields body = .panic interfaceConversion := by
  rw [validate, first]
  dsimp only
  rw [taken.1, taken.2]
  rfl

theorem validate_untaken {json : Json} (first : body.first = some json)
    (untaken : ¬ (fields.takes library json = true ∧
      json.representable library.float64 = true)) :
    validate library fields body = pure (.error .decoder) := by
  rw [validate, first]
  dsimp only
  rw [← Bool.and_eq_true] at untaken
  rw [if_neg untaken]

end Runs

/-- `Validate` returns exactly for the bodies that can be walked. -/
theorem returns_iff_walkable [Models.Collation] (library : NameLibrary)
    (fields : Fields) (body : Body) (environment : Environment)
    (world : World) :
    Returns library fields body environment world ↔
      Walkable library fields body := by
  cases first : body.first with
  | none =>
      constructor
      · intro _ json found
        rw [first] at found
        cases found
      · intro _
        rw [Returns, validate, first]
        exact ⟨_, rfl⟩
  | some json =>
      have walkable : Walkable library fields body ↔
          (fields.takes library json = true ∧
            json.representable library.float64 = true →
              ∃ members, json = .object members ∧
                Covered (fields.visits members)) := by
        constructor
        · exact fun walkable facts => walkable json first facts.1 facts.2
        · intro condition other found taken fits
          rw [first] at found
          cases found
          exact condition ⟨taken, fits⟩
      rw [walkable]
      by_cases taken : fields.takes library json = true ∧
          json.representable library.float64 = true
      · rw [forall_prop_of_true taken]
        rcases takes_cases taken.1 with rfl | ⟨members, rfl⟩
        · rw [Returns, validate_null first taken]
          constructor
          · intro returns
            obtain ⟨_, returned⟩ := returns
            cases returned
          · intro walks
            obtain ⟨_, object, _⟩ := walks
            cases object
        · rw [Returns, run_validate_object first taken.1 taken.2]
          have panics := @validateRequired_eq_none_iff fields members
          cases ended : fields.validateRequired members with
          | none =>
              have uncovered := panics.mp ended
              simp [uncovered]
          | some result =>
              rw [ended] at panics
              have covered : Covered (fields.visits members) := by
                by_contra uncovered
                cases panics.mpr uncovered
              refine ⟨fun _ => ⟨members, rfl, covered⟩, fun _ => ?_⟩
              cases result with
              | some text => exact ⟨_, rfl⟩
              | none =>
                  dsimp only
                  split <;> exact ⟨_, rfl⟩
      · rw [Returns, validate_untaken first taken]
        exact ⟨fun _ facts => absurd facts taken, fun _ => ⟨_, rfl⟩⟩

/-! ## Samples -/

/-- A library for samples, where all names are in ASCII. -/
def asciiLibrary : NameLibrary where
  toLibrary := plainLibrary
  fold := Json.foldChar
  lower := Web.Valiant.lowerChar
  validTag _ := true
  quote text := "\"" ++ text ++ "\""

def takesString (json : Json) : Bool := (json.decodeString "").isSome

/-- `struct { Name string "json:name"; Info struct{} "json:TAG" }`. -/
def personFields (tag : String) : Fields :=
  .plain ⟨"Name", true, "name", false⟩ takesString
    (.struct ⟨"Info", true, tag, false⟩ .nil .nil)

def personBody (members : List (String × Json)) : Body :=
  ⟨some (.object members), false⟩

attribute [local instance] Models.Collation.binary

/-- `null`; a nested object that is absent, `null` or spelled in another case;
and a nested field with an option in its tag. -/
theorem validate_panics :
    ¬ Returns asciiLibrary (personFields "info") ⟨some .null, false⟩ .calm
      (.start []) ∧
    ¬ Returns asciiLibrary (personFields "info") (personBody []) .calm
      (.start []) ∧
    ¬ Returns asciiLibrary (personFields "info")
      (personBody [("info", .null)]) .calm (.start []) ∧
    ¬ Returns asciiLibrary (personFields "info")
      (personBody [("Info", .object [])]) .calm (.start []) ∧
    ¬ Returns asciiLibrary (personFields "info,omitempty")
      (personBody [("info", .object [])]) .calm (.start []) := by
  have panics {fields : Fields} {body : Body}
      (ran : ((validate asciiLibrary fields body).run (World.handle .calm)
        (.start [])).1.isSome = false) :
      ¬ Returns asciiLibrary fields body .calm (.start []) := by
    intro returns
    obtain ⟨result, returned⟩ := returns
    rw [returned] at ran
    cases ran
  refine ⟨panics ?_, panics ?_, panics ?_, panics ?_, panics ?_⟩
  · decide +kernel
  · decide +kernel
  · decide +kernel
  · decide +kernel
  · decide +kernel

end Notifications.Valiant
