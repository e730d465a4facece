import Mathlib.Data.List.TakeWhile
import Notifications.Valiant.Validator
import Notifications.Web.Templates

/-!
# Struct types without nested structs

A template and a builder of preferences have fields of scalars and maps alone,
each with its name as its tag.  For such a type the validator does what its
model for these two endpoints does.
-/

set_option autoImplicit false

namespace Notifications.Valiant

open Notifications.Lib Notifications.Web

section Types

variable {α : Type} (required : String → Bool)

def flatField (field : Json.Field α) : StructField :=
  ⟨field.name, true, field.name, required field.name⟩

/-- The struct type of the fields; `typed` is the value that is filled in. -/
def flat (typed : α) : List (Json.Field α) → Fields
  | [] => .nil
  | field :: rest =>
      .plain (flatField required field)
        (fun json => (field.decode json typed).isSome) (flat typed rest)

/-- Every name is a tag without options, and what a field takes does not depend
on what it holds. -/
structure Flat (fields : List (Json.Field α)) : Prop where
  named : ∀ field ∈ fields,
    field.name ≠ "" ∧ field.name ≠ "-" ∧ ',' ∉ field.name.toList
  once : (fields.map Json.Field.name).Nodup
  steady : ∀ field ∈ fields, ∀ json value other,
    (field.decode json value).isSome = (field.decode json other).isSome

/-- The names as the endpoints' model compares them. -/
def nameLibrary (library : Library) (texts : Web.Valiant.Texts)
    (validTag : String → Bool) : NameLibrary where
  toLibrary := library
  fold := Json.foldChar
  lower := Web.Valiant.lowerChar
  validTag := validTag
  quote := texts.quote

def failureOf (texts : Web.Valiant.Texts) (body : Body) :
    Invalid → Web.Valiant.Failure
  | .decoder => .other (texts.decoder body)
  | .required text => .required text
  | .extra text => .other text

end Types

/-! ## Names -/

section Names

variable {α : Type} {required : String → Bool} {field : Json.Field α}
  {fields : List (Json.Field α)} {library : NameLibrary}

theorem jsonName_flatField (filled : field.name ≠ "")
    (noComma : ',' ∉ field.name.toList) :
    (flatField required field).jsonName = field.name := by
  have uncut : trimSuffix field.name ",omitempty" = field.name := by
    rw [trimSuffix, if_neg]
    intro ends
    apply noComma
    obtain ⟨start, split⟩ := List.isSuffixOf_iff_suffix.mp ends
    rw [← split]
    exact List.mem_append_right _ (by decide)
  rw [StructField.jsonName, flatField]
  dsimp only
  rw [uncut, if_pos filled]

theorem decoderName_flatField (shown : field.name ≠ "-")
    (noComma : ',' ∉ field.name.toList) :
    decoderName library (flatField required field) = some field.name := by
  have whole : (flatField required field).tagName = field.name := by
    rw [StructField.tagName, flatField]
    dsimp only
    rw [List.takeWhile_eq_self_iff.mpr, String.ofList_toList]
    intro char member
    rw [decide_eq_true_iff]
    rintro rfl
    exact noComma member
  rw [decoderName, if_neg (by simp [flatField, shown]), whole]
  exact ite_self _

theorem infos_flat (typed : α) :
    (flat required typed fields).infos = fields.map (flatField required) := by
  induction fields with
  | nil => rfl
  | cons field rest ih => rw [flat, Fields.infos, ih, List.map_cons]

end Names

section Equal

variable {α : Type} {required : String → Bool} {fields : List (Json.Field α)}
  {base : Library} {texts : Web.Valiant.Texts} {validTag : String → Bool}
  {typed : α}

theorem nameFor_flat (key : String) :
    nameFor (nameLibrary base texts validTag)
        (fields.map Json.Field.name) key =
      (Json.fieldFor fields key).map Json.Field.name := by
  rw [nameFor, List.find?_map, List.find?_map, Json.fieldFor, Option.map_or]
  rfl

theorem Flat.decoderName (holds : Flat fields) {field : Json.Field α}
    (listed : field ∈ fields) :
    decoderName (nameLibrary base texts validTag) (flatField required field) =
      some field.name := by
  obtain ⟨_, shown, noComma⟩ := holds.named field listed
  exact decoderName_flatField shown noComma

/-- Other fields have other names, so that every field is known. -/
theorem Flat.dominant (holds : Flat fields) {field : Json.Field α}
    (listed : field ∈ fields) :
    dominant (nameLibrary base texts validTag)
      (fields.map (flatField required)) (flatField required field) = true := by
  rw [Valiant.dominant, holds.decoderName listed, Bool.and_eq_true,
    List.all_eq_true]
  refine ⟨rfl, ?_⟩
  intro info among
  obtain ⟨other, present, rfl⟩ := List.mem_map.mp among
  rw [holds.decoderName present]
  by_cases same : other.name = field.name
  · simp [flatField, same]
  · simp [same]

theorem Flat.decoderNames (holds : Flat fields) :
    decoderNames (nameLibrary base texts validTag)
      (fields.map (flatField required)) = fields.map Json.Field.name := by
  rw [Valiant.decoderNames, List.filter_eq_self.mpr, List.filterMap_map,
    ← List.filterMap_eq_map]
  · apply List.filterMap_congr
    intro field listed
    exact holds.decoderName listed
  · intro info among
    obtain ⟨field, listed, rfl⟩ := List.mem_map.mp among
    exact holds.dominant listed

theorem Flat.decodedInto (holds : Flat fields) {field : Json.Field α}
    (listed : field ∈ fields) (key : String) :
    decodedInto (nameLibrary base texts validTag)
        (fields.map (flatField required)) (flatField required field) key =
      decide ((Json.fieldFor fields key).map Json.Field.name =
        some field.name) := by
  rw [Valiant.decodedInto, holds.dominant listed, holds.decoderNames,
    holds.decoderName listed, nameFor_flat, Bool.true_and]

/-- What the fields take of a member, each asked on its own. -/
theorem takesMember_flat (all : List StructField) (part : List (Json.Field α))
    (member : String × Json) :
    (flat required typed part).takesMember
        (nameLibrary base texts validTag) all member =
      part.all fun field =>
        !decodedInto (nameLibrary base texts validTag) all
          (flatField required field) member.1 ||
            (field.decode member.2 typed).isSome := by
  induction part with
  | nil => rfl
  | cons field rest ih => rw [flat, Fields.takesMember, ih, List.all_cons]

theorem Flat.takesMember (holds : Flat fields) (member : String × Json) :
    (flat required typed fields).takesMember
        (nameLibrary base texts validTag) (fields.map (flatField required))
        member = (Json.decodeMember fields typed member).isSome := by
  rw [takesMember_flat, Json.decodeMember, Bool.eq_iff_iff, List.all_eq_true]
  cases found : Json.fieldFor fields member.1 with
  | none =>
      refine iff_of_true ?_ rfl
      intro field listed
      rw [holds.decodedInto listed, found]
      simp
  | some chosen =>
      have among := Json.mem_of_fieldFor found
      constructor
      · intro each
        have own := each chosen among
        rw [holds.decodedInto among, found] at own
        simpa using own
      · intro taken field listed
        rw [holds.decodedInto listed, found]
        by_cases same : chosen.name = field.name
        · have equal := List.inj_on_of_nodup_map holds.once among listed same
          rw [← equal, taken, Bool.or_true]
        · simp [same]

theorem Flat.decodeMember_steady (holds : Flat fields)
    (member : String × Json) (value other : α) :
    (Json.decodeMember fields value member).isSome =
      (Json.decodeMember fields other member).isSome := by
  rw [Json.decodeMember, Json.decodeMember]
  cases found : Json.fieldFor fields member.1 with
  | none => rfl
  | some field =>
      exact holds.steady field (Json.mem_of_fieldFor found) _ _ _

theorem Flat.foldlM_decodeMember (holds : Flat fields)
    (members : List (String × Json)) (value : α) :
    (members.foldlM (Json.decodeMember fields) value).isSome =
      members.all fun member =>
        (Json.decodeMember fields typed member).isSome := by
  induction members generalizing value with
  | nil => rfl
  | cons member rest ih =>
      rw [List.foldlM_cons, List.all_cons,
        ← holds.decodeMember_steady member value typed]
      cases Json.decodeMember fields value member with
      | none => rfl
      | some next => exact ih next

theorem Flat.takes (holds : Flat fields) (json : Json) :
    (flat required typed fields).takes (nameLibrary base texts validTag)
        json = (Json.decodeStruct fields json typed).isSome := by
  rw [Fields.takes, infos_flat]
  cases json with
  | object members =>
      rw [Json.decodeStruct, @Flat.foldlM_decodeMember _ _ typed holds]
      exact List.all_congr rfl holds.takesMember
  | null => rfl
  | bool value => rfl
  | number literal => rfl
  | string text => rfl
  | array elements => rfl

theorem validateRequired_flat (part : List (Json.Field α))
    (named : ∀ field ∈ part,
      (flatField required field).jsonName = field.name)
    (untyped : List (String × Json)) :
    (flat required typed part).validateRequired untyped =
      some (Web.Valiant.validateRequired
        ((part.map Json.Field.name).filter required) untyped) := by
  induction part with
  | nil => rfl
  | cons field rest ih =>
      have later := ih fun other listed => named other (.tail _ listed)
      rw [flat, Fields.validateRequired, later, validateRequiredField,
        named field (.head _), Web.Valiant.validateRequired,
        Web.Valiant.validateRequired, List.map_cons]
      by_cases needed : required field.name = true
      · rw [List.filter_cons_of_pos needed, List.find?_cons]
        cases Json.lookup field.name untyped with
        | none => simp [flatField, needed]
        | some json => simp
      · rw [List.filter_cons_of_neg needed]
        simp [flatField, needed]

theorem reportExtraKeys_flat (expectedTags order : List String) :
    reportExtraKeys (nameLibrary base texts validTag) expectedTags order =
      Web.Valiant.reportExtraKeys texts expectedTags order := by
  induction order with
  | nil => rfl
  | cons tag rest ih =>
      rw [reportExtraKeys, Web.Valiant.reportExtraKeys, ih]
      rfl

theorem Flat.jsonNames (holds : Flat fields) :
    (flat required typed fields).infos.map StructField.jsonName =
      fields.map Json.Field.name := by
  rw [infos_flat, List.map_map]
  apply List.map_congr_left
  intro field listed
  obtain ⟨filled, _, noComma⟩ := holds.named field listed
  exact jsonName_flatField filled noComma

/-- The validator of the endpoints is the validator at their types. -/
theorem Flat.validate_eq (holds : Flat fields) (body : Body) :
    (do
      let result ← Web.Valiant.validateTyped base texts fields
        ((fields.map Json.Field.name).filter required) body typed
      pure (result.map fun _ => ()) : Prog (Except Web.Valiant.Failure Unit)) =
    (do
      let result ← validate (nameLibrary base texts validTag)
        (flat required typed fields) body
      pure (result.mapError (failureOf texts body))) := by
  rw [Web.Valiant.validateTyped, validate]
  cases first : body.first with
  | none => rfl
  | some json =>
      rw [Option.bind_some]
      dsimp only
      rw [holds.takes]
      cases decoded : Json.decodeStruct fields json typed with
      | none => rfl
      | some value =>
          rw [Option.isSome_some, Bool.true_and]
          cases json with
          | object untyped =>
              have named : ∀ field ∈ fields,
                  (flatField required field).jsonName = field.name := by
                intro field listed
                obtain ⟨filled, _, noComma⟩ := holds.named field listed
                exact jsonName_flatField filled noComma
              dsimp only
              rw [Json.representable, validateRequired_flat fields named,
                holds.jsonNames]
              by_cases fits :
                  Json.membersRepresentable base.float64 untyped = true
              · rw [if_pos fits, if_pos (by exact fits)]
                cases Web.Valiant.validateRequired
                    ((fields.map Json.Field.name).filter required)
                    untyped with
                | some text => rfl
                | none =>
                    dsimp only
                    rw [Program.bind_assoc, Program.bind_assoc]
                    congr 1
                    funext order
                    rw [reportExtraKeys_flat]
                    cases Web.Valiant.reportExtraKeys texts
                        (fields.map Json.Field.name) order.1 with
                    | some text => rfl
                    | none => rfl
              · rw [if_neg fits, if_neg (by exact fits)]
                rfl
          | null => rfl
          | bool flag => cases decoded
          | number literal => cases decoded
          | string text => cases decoded
          | array elements => cases decoded

end Equal

/-! ## The two types -/

theorem decodeString_steady (json : Json) (value other : String) :
    (json.decodeString value).isSome = (json.decodeString other).isSome := by
  cases json <;> rfl

theorem decodeBool_steady (json : Json) (value other : Bool) :
    (json.decodeBool value).isSome = (json.decodeBool other).isSome := by
  cases json <;> rfl

/-- A field that is decoded by itself and then put into the struct. -/
theorem isSome_update {α β : Type} (read : Option β) (put : β → α) :
    (do some (put (← read)) : Option α).isSome = read.isSome := by
  cases read <;> rfl

theorem templateFields_flat : Flat templateFields where
  named := by decide +kernel
  once := by decide +kernel
  steady := by
    intro field listed json value other
    simp only [templateFields, List.mem_cons, List.not_mem_nil,
      or_false] at listed
    rcases listed with rfl | rfl | rfl | rfl | rfl
    · simp only [isSome_update]
      exact decodeString_steady _ _ _
    · simp only [isSome_update]
      exact decodeString_steady _ _ _
    · simp only [isSome_update]
      exact decodeString_steady _ _ _
    · simp only [isSome_update]
      exact decodeString_steady _ _ _
    · rfl

/-- A map takes the same values whatever its entries are. -/
theorem decodeEntries_steady {β : Type} (decode : Json → Option β)
    (json : Json) (entries others : AList fun _ : String => β) :
    (Builder.decodeEntries decode json entries).isSome =
      (Builder.decodeEntries decode json others).isSome := by
  cases json with
  | object members =>
      rw [Builder.decodeEntries, Builder.decodeEntries]
      induction members generalizing entries others with
      | nil => rfl
      | cons member rest ih =>
          rw [List.foldlM_cons, List.foldlM_cons]
          cases decode member.2 with
          | none => rfl
          | some value => exact ih _ _
  | null => rfl
  | bool value => rfl
  | number literal => rfl
  | string text => rfl
  | array elements => rfl

theorem builderFields_flat : Flat Builder.fields where
  named := by decide +kernel
  once := by decide +kernel
  steady := by
    intro field listed json value other
    simp only [Builder.fields, List.mem_cons, List.not_mem_nil,
      or_false] at listed
    rcases listed with rfl | rfl
    · simp only [isSome_update]
      exact decodeBool_steady _ _ _
    · simp only [isSome_update]
      exact decodeEntries_steady _ _ _ _

section Endpoints

variable (base : Library) (texts : Web.Valiant.Texts)
  (validTag : String → Bool) (body : Body)

/-- `NewTemplate` calls the validator at the type of a template. -/
theorem validate_template :
    (do
      let result ← Web.Valiant.validateTyped base texts templateFields
        requiredFields body .zero
      pure (result.map fun _ => ()) : Prog (Except Web.Valiant.Failure Unit)) =
    (do
      let result ← validate (nameLibrary base texts validTag)
        (flat (fun name => decide (name ∈ requiredFields)) .zero
          templateFields) body
      pure (result.mapError (failureOf texts body))) := by
  have marked : (templateFields.map Json.Field.name).filter
      (fun name => decide (name ∈ requiredFields)) = requiredFields := by
    decide +kernel
  have equal := @Flat.validate_eq _
    (fun name => decide (name ∈ requiredFields)) _ base texts validTag .zero
    templateFields_flat body
  rw [marked] at equal
  exact equal

/-- The handlers of the preferences call it at the type of a builder. -/
theorem validate_builder :
    (do
      let result ← Web.Valiant.validateTyped base texts Builder.fields []
        body .new
      pure (result.map fun _ => ()) : Prog (Except Web.Valiant.Failure Unit)) =
    (do
      let result ← validate (nameLibrary base texts validTag)
        (flat (fun _ => false) .new Builder.fields) body
      pure (result.mapError (failureOf texts body))) := by
  have marked : (Builder.fields.map Json.Field.name).filter
      (fun _ => false) = [] := by
    decide +kernel
  have equal := @Flat.validate_eq _ (fun _ => false) _ base texts validTag
    .new builderFields_flat body
  rw [marked] at equal
  exact equal

end Endpoints

end Notifications.Valiant
