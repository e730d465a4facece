import Mathlib.Data.List.Induction
import Notifications.Lib.JsonValues
import Notifications.Valiant.Assertions

/-!
# What the validator accepts

The schema of a struct type, under the names that the decoder goes by: a member
in any case, and a nested object that comes twice added up.  The validator looks
a required field up by its very name in the last of the objects, and compares
the other names in lower case.  The two agree on a document where this makes no
difference.
-/

set_option autoImplicit false

namespace Notifications.Valiant

open Notifications.Lib Notifications.Web

section Schema

variable (library : NameLibrary)

/-- The values that are decoded into the field. -/
def valuesOf (all : List StructField) (field : StructField)
    (members : List (String × Json)) : List Json :=
  (members.filter fun member =>
    decodedInto library all field member.1).map Prod.snd

def Fields.RequiredAbsent (all : List StructField) :
    Fields → List (String × Json) → Prop
  | .nil, _ => False
  | .plain field _ rest, members =>
      (field.required = true ∧ valuesOf library all field members = []) ∨
        rest.RequiredAbsent all members
  | .struct field nested rest, members =>
      (field.required = true ∧ valuesOf library all field members = []) ∨
        nested.RequiredAbsent nested.infos
          ((valuesOf library all field members).flatMap Json.members) ∨
        rest.RequiredAbsent all members

instance Fields.decidableRequiredAbsent (all : List StructField) :
    (fields : Fields) → (members : List (String × Json)) →
      Decidable (fields.RequiredAbsent library all members)
  | .nil, _ => inferInstanceAs (Decidable False)
  | .plain _ _ rest, members =>
      have := rest.decidableRequiredAbsent all members
      inferInstanceAs (Decidable ((_ = true ∧ _ = []) ∨ _))
  | .struct _ nested rest, _ =>
      have := nested.decidableRequiredAbsent nested.infos
      have := rest.decidableRequiredAbsent all
      inferInstanceAs (Decidable ((_ = true ∧ _ = []) ∨ _ ∨ _))

/-- A member of the top level is decoded into no field. -/
def ExtraPresent (fields : Fields) (members : List (String × Json)) : Prop :=
  ∃ member ∈ members, ∀ field ∈ fields.infos,
    decodedInto library fields.infos field member.1 = false

instance (fields : Fields) (members : List (String × Json)) :
    Decidable (ExtraPresent library fields members) :=
  inferInstanceAs (Decidable (∃ member ∈ members, _))

/-- `Validate` reports a required field that is absent, or else an extra
member, and accepts everything else. -/
structure JudgedBySchema [Models.Collation] (fields : Fields) (body : Body)
    (members : List (String × Json)) (environment : Environment)
    (world : World) : Prop where
  accepted : ((validate library fields body).run (World.handle environment)
      world).1 = some (.ok ()) ↔
    ¬ fields.RequiredAbsent library fields.infos members ∧
      ¬ ExtraPresent library fields members
  required : (∃ text, ((validate library fields body).run
      (World.handle environment) world).1 =
        some (.error (.required text))) ↔
    fields.RequiredAbsent library fields.infos members
  extra : (∃ text, ((validate library fields body).run
      (World.handle environment) world).1 = some (.error (.extra text))) ↔
    ¬ fields.RequiredAbsent library fields.infos members ∧
      ExtraPresent library fields members

/-- A member has another name than the fields, in lower case too. -/
def ExtraReported (fields : Fields) (members : List (String × Json)) : Prop :=
  ∃ member ∈ members,
    contains library (fields.infos.map StructField.jsonName) member.1 = false

/-- The numbers fit, and the validator's names make no difference: a required
field is missing where it is looked for exactly if one is absent, the objects
that it looks into are there, and a member is extra in lower case exactly if it
is one for the decoder. -/
structure NamesAgree (fields : Fields) (members : List (String × Json)) :
    Prop where
  fits : (Json.object members).representable library.float64 = true
  required : fields.RequiredAbsent library fields.infos members ↔
    ∃ visit ∈ fields.visits members, visit.Missing
  covered : Covered (fields.visits members)
  extra : ¬ fields.RequiredAbsent library fields.infos members →
    (ExtraPresent library fields members ↔
      ExtraReported library fields members)

end Schema

section Reports

variable {library : NameLibrary}

theorem reportExtraKeys_eq_none {expectedTags order : List String} :
    reportExtraKeys library expectedTags order = none ↔
      ∀ tag ∈ order, contains library expectedTags tag = true := by
  induction order with
  | nil => simp [reportExtraKeys]
  | cons tag rest ih =>
      rw [reportExtraKeys, List.forall_mem_cons]
      by_cases known : contains library expectedTags tag = true
      · rw [if_pos known, ih]
        simp [known]
      · rw [if_neg known]
        simp [known]

/-- The order of the map does not decide whether there is an error. -/
theorem reportExtraKeys_keys {fields : Fields}
    {members : List (String × Json)} {order : List String}
    (all : order.Perm (Json.keys members)) :
    (∃ text, reportExtraKeys library (fields.infos.map StructField.jsonName)
      order = some text) ↔ ExtraReported library fields members := by
  rw [← Option.isSome_iff_exists, Option.isSome_iff_ne_none, ne_eq,
    reportExtraKeys_eq_none]
  simp only [all.mem_iff, Json.mem_keys, ExtraReported]
  constructor
  · intro unknown
    by_contra none
    apply unknown
    intro tag facts
    obtain ⟨member, listed, rfl⟩ := facts
    by_contra absent
    exact none ⟨member, listed, eq_false_of_ne_true absent⟩
  · intro facts known
    obtain ⟨member, listed, unknown⟩ := facts
    rw [known member.1 ⟨member, listed, rfl⟩] at unknown
    cases unknown

end Reports

section Judgement

variable [Models.Collation] {library : NameLibrary} {fields : Fields}
  {body : Body} {members : List (String × Json)} {environment : Environment}
  {world : World}

/-- The results for an object that both decoders take. -/
inductive Outcome (library : NameLibrary) (fields : Fields)
    (members : List (String × Json)) : Option (Except Invalid Unit) → Prop
  | panic (uncovered : ¬ Covered (fields.visits members)) :
      Outcome library fields members none
  | required (covered : Covered (fields.visits members))
      (missing : ∃ visit ∈ fields.visits members, visit.Missing)
      (text : String) :
      Outcome library fields members (some (.error (.required text)))
  | extra (covered : Covered (fields.visits members))
      (complete : ¬ ∃ visit ∈ fields.visits members, visit.Missing)
      (reported : ExtraReported library fields members) (text : String) :
      Outcome library fields members (some (.error (.extra text)))
  | accepted (covered : Covered (fields.visits members))
      (complete : ¬ ∃ visit ∈ fields.visits members, visit.Missing)
      (known : ¬ ExtraReported library fields members) :
      Outcome library fields members (some (.ok ()))

theorem validate_outcome (first : body.first = some (.object members))
    (taken : fields.takes library (.object members) = true)
    (fits : (Json.object members).representable library.float64 = true)
    (environment : Environment) (world : World) :
    Outcome library fields members ((validate library fields body).run
      (World.handle environment) world).1 := by
  rw [run_validate_object first taken fits, validateRequired_eq_judge]
  rcases judge_cases (fields.visits members) with
    ⟨stuck, uncovered⟩ | ⟨⟨text, ends⟩, covered, missing⟩ |
    ⟨ends, covered, complete⟩
  · rw [stuck]
    exact .panic uncovered
  · rw [ends]
    exact .required covered missing text
  · rw [ends]
    have present : ¬ ∃ visit ∈ fields.visits members, visit.Missing := by
      rintro ⟨visit, listed, missing⟩
      exact complete visit listed missing
    have reports := @reportExtraKeys_keys library fields members _
      (environment.order (Json.keys members)).2
    dsimp only
    cases reported : reportExtraKeys library
        (fields.infos.map StructField.jsonName)
        (environment.order (Json.keys members)).1 with
    | some text =>
        exact .extra covered present (reports.mp ⟨text, reported⟩) text
    | none =>
        refine .accepted covered present ?_
        intro extra
        obtain ⟨text, found⟩ := reports.mpr extra
        rw [reported] at found
        cases found

/-- The three cases of the schema, with the result of each. -/
theorem judgedBySchema_iff :
    JudgedBySchema library fields body members environment world ↔
      (fields.RequiredAbsent library fields.infos members ∧
        ∃ text, ((validate library fields body).run
          (World.handle environment) world).1 =
            some (.error (.required text))) ∨
      (¬ fields.RequiredAbsent library fields.infos members ∧
        ExtraPresent library fields members ∧
        ∃ text, ((validate library fields body).run
          (World.handle environment) world).1 =
            some (.error (.extra text))) ∨
      ¬ fields.RequiredAbsent library fields.infos members ∧
        ¬ ExtraPresent library fields members ∧
        ((validate library fields body).run (World.handle environment)
          world).1 = some (.ok ()) := by
  constructor
  · intro judged
    by_cases absent : fields.RequiredAbsent library fields.infos members
    · exact .inl ⟨absent, judged.required.mpr absent⟩
    by_cases extra : ExtraPresent library fields members
    · exact .inr (.inl ⟨absent, extra, judged.extra.mpr ⟨absent, extra⟩⟩)
    · exact .inr (.inr ⟨absent, extra,
        judged.accepted.mpr ⟨absent, extra⟩⟩)
  · rintro (⟨absent, text, ran⟩ | ⟨complete, extra, text, ran⟩ |
      ⟨complete, known, ran⟩)
    · constructor
      · simp [ran, absent]
      · simp [ran, absent]
      · simp [ran, absent]
    · constructor
      · simp [ran, complete, extra]
      · simp [ran, complete]
      · simp [ran, complete, extra]
    · constructor
      · simp [ran, complete, known]
      · simp [ran, complete]
      · simp [ran, known]

end Judgement

/-- An object that the decoder takes is judged by the schema exactly if the
names of the validator agree with those of the decoder. -/
theorem judgedBySchema_iff_namesAgree [Models.Collation]
    (library : NameLibrary) (fields : Fields) (body : Body)
    (members : List (String × Json)) (environment : Environment)
    (world : World)
    (first : body.first = some (.object members))
    (decodes : fields.takes library (.object members) = true) :
    JudgedBySchema library fields body members environment world ↔
      NamesAgree library fields members := by
  rw [judgedBySchema_iff]
  by_cases fits :
      (Json.object members).representable library.float64 = true
  · have outcome := validate_outcome first decodes fits environment world
    generalize ((validate library fields body).run (World.handle environment)
      world).1 = result at outcome
    cases outcome with
    | panic uncovered =>
        constructor
        · intro judged
          simp at judged
        · intro agree
          exact absurd agree.covered uncovered
    | required covered missing text =>
        constructor
        · intro judged
          have absent : fields.RequiredAbsent library fields.infos members := by
            simpa using judged
          exact ⟨fits, iff_of_true absent missing, covered,
            fun complete => absurd absent complete⟩
        · intro agree
          exact .inl ⟨agree.required.mpr missing, text, rfl⟩
    | extra covered complete reported text =>
        constructor
        · intro judged
          have extra : ¬ fields.RequiredAbsent library fields.infos members ∧
              ExtraPresent library fields members := by
            simpa using judged
          exact ⟨fits, iff_of_false extra.1 complete, covered,
            fun _ => iff_of_true extra.2 reported⟩
        · intro agree
          have present := mt agree.required.mp complete
          exact .inr (.inl ⟨present, (agree.extra present).mpr reported, text,
            rfl⟩)
    | accepted covered complete known =>
        constructor
        · intro judged
          have fine : ¬ fields.RequiredAbsent library fields.infos members ∧
              ¬ ExtraPresent library fields members := by
            simpa using judged
          exact ⟨fits, iff_of_false fine.1 complete, covered,
            fun _ => iff_of_false fine.2 known⟩
        · intro agree
          have present := mt agree.required.mp complete
          exact .inr (.inr ⟨present, mt (agree.extra present).mp known, rfl⟩)
  · have untaken := @validate_untaken library fields body _ first
      fun facts => fits facts.2
    rw [untaken]
    constructor
    · intro judged
      simp at judged
    · intro agree
      exact absurd agree.fits fits

/-- `struct { Size string "json:size" }`. -/
def sizeFields (required : Bool) : Fields :=
  .plain ⟨"Size", true, "size", required⟩ takesString .nil

section Binary

attribute [local instance] Models.Collation.binary

theorem judgedBySchema_size :
    JudgedBySchema asciiLibrary (sizeFields true)
        (personBody [("size", .string "S")]) [("size", .string "S")] .calm
        (.start []) ↔
      NamesAgree asciiLibrary (sizeFields true) [("size", .string "S")] :=
  judgedBySchema_iff_namesAgree asciiLibrary (sizeFields true)
    (personBody [("size", .string "S")]) [("size", .string "S")] .calm
    (.start []) rfl (by decide +kernel)

/-- A required field under another spelling is reported as missing; a member
that the decoder reads, with a long s, is reported as extra; and one that no
field has, with a dotted capital I, is accepted. -/
theorem misjudged :
    (sizeFields true).takes asciiLibrary
        (.object [("SIZE", .string "S")]) = true ∧
    ¬ JudgedBySchema asciiLibrary (sizeFields true)
      (personBody [("SIZE", .string "S")]) [("SIZE", .string "S")] .calm
      (.start []) ∧
    (sizeFields false).takes asciiLibrary
        (.object [("\u017Fize", .string "S")]) = true ∧
    ¬ JudgedBySchema asciiLibrary (sizeFields false)
      (personBody [("\u017Fize", .string "S")])
      [("\u017Fize", .string "S")] .calm (.start []) ∧
    (sizeFields false).takes asciiLibrary
        (.object [("s\u0130ze", .string "S")]) = true ∧
    ¬ JudgedBySchema asciiLibrary (sizeFields false)
      (personBody [("s\u0130ze", .string "S")])
      [("s\u0130ze", .string "S")] .calm (.start []) := by
  refine ⟨by decide +kernel, ?_, by decide +kernel, ?_, by decide +kernel, ?_⟩
  · intro judged
    have absent := judged.required.mp
      ⟨"Missing required field 'size'", by decide +kernel⟩
    exact absurd absent (by decide +kernel)
  · intro judged
    have extra := judged.extra.mp
      ⟨"Extra field \"\u017Fize\" is not valid", by decide +kernel⟩
    exact absurd extra.2 (by decide +kernel)
  · intro judged
    have fine := judged.accepted.mp (by decide +kernel)
    exact absurd fine.2 (by decide +kernel)

end Binary

/-! ## Documents with the very names -/

section Spelling

variable (library : NameLibrary)

/-- Every name comes once, a member for a field has the very name of the field,
and a nested field has an object under its tag. -/
def Fields.Spelled (all : List StructField) :
    Fields → List (String × Json) → Prop
  | .nil, _ => True
  | .plain field _ rest, members =>
      (∀ member ∈ members, decodedInto library all field member.1 = true ↔
        member.1 = field.jsonName) ∧ rest.Spelled all members
  | .struct field nested rest, members =>
      (∀ member ∈ members, decodedInto library all field member.1 = true ↔
        member.1 = field.jsonName) ∧
      field.exported = true ∧ field.tag = field.jsonName ∧
      (∃ inner, Json.lookup field.tag members = some (.object inner) ∧
        (inner.map Prod.fst).Nodup ∧
          nested.Spelled nested.infos inner) ∧
      rest.Spelled all members

end Spelling

section Spelled

variable {library : NameLibrary} {all : List StructField}
  {field : StructField} {members : List (String × Json)}

theorem filter_name_eq_lookup {name : String}
    (once : (members.map Prod.fst).Nodup) :
    (members.filter fun member => member.1 = name).map Prod.snd =
      (Json.lookup name members).toList := by
  induction members using List.reverseRecOn with
  | nil => rfl
  | append_singleton earlier member ih =>
      rw [List.map_append, List.nodup_append] at once
      obtain ⟨once, _, apart⟩ := once
      rw [List.filter_append, List.map_append, Json.lookup_snoc, ih once]
      by_cases same : member.1 = name
      · have absent : Json.lookup name earlier = none := by
          rw [← Option.not_isSome_iff_eq_none, Json.lookup_isSome_iff,
            Json.mem_keys]
          intro facts
          obtain ⟨other, listed, named⟩ := facts
          exact apart other.1 (List.mem_map_of_mem listed) member.1
            (.head _) (named.trans same.symm)
        simp [absent, same]
      · simp [same, Ne.symm same]

theorem valuesOf_spelled (once : (members.map Prod.fst).Nodup)
    (spelled : ∀ member ∈ members,
      decodedInto library all field member.1 = true ↔
        member.1 = field.jsonName) :
    valuesOf library all field members =
      (Json.lookup field.jsonName members).toList := by
  rw [← filter_name_eq_lookup once, valuesOf]
  congr 1
  apply List.filter_congr
  intro member listed
  rw [Bool.eq_iff_iff, spelled member listed, decide_eq_true_iff]

/-- Where the names are the very names, the walk finds what the schema says. -/
theorem Fields.Spelled.walk {fields : Fields}
    (once : (members.map Prod.fst).Nodup)
    (spelled : fields.Spelled library all members) :
    (fields.RequiredAbsent library all members ↔
      ∃ visit ∈ fields.visits members, visit.Missing) ∧
    ∀ visit ∈ fields.visits members, ¬ visit.Unfit := by
  induction fields generalizing all members with
  | nil => simp [Fields.RequiredAbsent, Fields.visits]
  | plain field takes rest ih =>
      obtain ⟨named, spelled⟩ := spelled
      obtain ⟨absent, fit⟩ := ih once spelled
      rw [Fields.RequiredAbsent, Fields.visits, absent,
        valuesOf_spelled once named]
      refine ⟨?_, ?_⟩
      · simp [Visit.Missing]
      · simp only [List.forall_mem_cons]
        exact ⟨by simp [Visit.Unfit], fit⟩
  | struct field nested rest inner ih =>
      obtain ⟨named, exported, tag, ⟨childUntyped, found, childOnce,
        childSpelled⟩, spelled⟩ := spelled
      obtain ⟨absent, fit⟩ := ih once spelled
      obtain ⟨childAbsent, childFit⟩ := inner childOnce childSpelled
      have values : valuesOf library all field members =
          [.object childUntyped] := by
        rw [valuesOf_spelled once named, ← tag, found]
        rfl
      have child : objectUnder field.tag members = some childUntyped := by
        rw [objectUnder, found]
      have here : ¬ (⟨field, true, members⟩ : Visit).Missing := by
        rintro ⟨_, missing⟩
        rw [← tag, found] at missing
        cases missing
      have fits : ¬ (⟨field, true, members⟩ : Visit).Unfit := by
        rintro ⟨_, hidden | absent⟩
        · rw [exported] at hidden
          cases hidden
        · rw [child] at absent
          cases absent
      rw [Fields.RequiredAbsent, Fields.visits, values, child, absent]
      dsimp only
      rw [List.flatMap_singleton, Json.members, childAbsent]
      constructor
      · simp only [List.exists_mem_cons_iff, here, false_or, List.mem_append,
          or_and_right, exists_or]
        simp
      · intro visit listed
        rcases List.mem_cons.mp listed with rfl | below
        · exact fits
        rcases List.mem_append.mp below with inside | later
        · exact childFit visit inside
        · exact fit visit later

theorem Fields.Spelled.named {fields : Fields}
    (spelled : fields.Spelled library all members) :
    ∀ field ∈ fields.infos, ∀ member ∈ members,
      decodedInto library all field member.1 = true →
        member.1 = field.jsonName := by
  induction fields with
  | nil => simp [Fields.infos]
  | plain field takes rest ih =>
      obtain ⟨named, spelled⟩ := spelled
      rw [Fields.infos, List.forall_mem_cons]
      exact ⟨fun member listed => (named member listed).mp, ih spelled⟩
  | struct field nested rest inner ih =>
      obtain ⟨named, _, _, _, spelled⟩ := spelled
      rw [Fields.infos, List.forall_mem_cons]
      exact ⟨fun member listed => (named member listed).mp, ih spelled⟩

theorem contains_self {values : List String} {element : String}
    (listed : element ∈ values) : contains library values element = true := by
  rw [contains, List.any_eq_true]
  exact ⟨element, listed, by simp⟩

/-- A document whose members have the very names, and no others that only their
lower case makes one of them, is judged by the schema. -/
theorem Fields.Spelled.namesAgree {fields : Fields}
    (fits : (Json.object members).representable library.float64 = true)
    (once : (members.map Prod.fst).Nodup)
    (spelled : fields.Spelled library fields.infos members)
    (known : ∀ member ∈ members,
      contains library (fields.infos.map StructField.jsonName) member.1 =
        true → ∃ field ∈ fields.infos,
          decodedInto library fields.infos field member.1 = true) :
    NamesAgree library fields members where
  fits := fits
  required := (spelled.walk once).1
  covered := by
    intro before visit after split unfit
    refine absurd unfit ((spelled.walk once).2 visit ?_)
    rw [split]
    simp
  extra := by
    intro _
    constructor
    · intro extra
      obtain ⟨member, listed, unread⟩ := extra
      refine ⟨member, listed, eq_false_of_ne_true ?_⟩
      intro lower
      obtain ⟨field, among, read⟩ := known member listed lower
      rw [unread field among] at read
      cases read
    · intro reported
      obtain ⟨member, listed, unknown⟩ := reported
      refine ⟨member, listed, ?_⟩
      intro field among
      apply eq_false_of_ne_true
      intro read
      have named := spelled.named field among member listed read
      rw [named, contains_self (List.mem_map_of_mem among)] at unknown
      cases unknown

end Spelled

end Notifications.Valiant
