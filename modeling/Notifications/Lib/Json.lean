import Mathlib.Algebra.Group.Int.Defs
import Mathlib.Data.List.Dedup
import Mathlib.Data.List.Pairwise

/-!
# Go's JSON decoder

Documents, and what `encoding/json` makes of them: the field of a struct that a
member is decoded into, scalars, arrays over the slice that is already there,
and `interface{}`.  `null` leaves a scalar or a struct as it is.  A member of
the wrong type is an error of the whole decoding, so the value that it leaves
behind is not modelled.
-/

set_option autoImplicit false

namespace Notifications.Lib

/-! ## Loops that may fail -/

section Loops

variable {α β : Type} {step : β → α → Option β}

theorem foldlM_invariant {invariant : β → Prop} {items : List α}
    (preserved : ∀ item ∈ items, ∀ value next, invariant value →
      step value item = some next → invariant next)
    {start final : β} (holds : invariant start)
    (ran : items.foldlM step start = some final) : invariant final := by
  induction items generalizing start with
  | nil =>
      cases ran
      exact holds
  | cons item rest ih =>
      rw [List.foldlM_cons] at ran
      obtain ⟨next, stepped, ran⟩ := Option.bind_eq_some_iff.mp ran
      exact ih (fun other member => preserved other (.tail _ member))
        (preserved item (.head _) start next holds stepped) ran

/-- What a loop that may fail has made of the items so far. -/
theorem foldlM_reads {reads : List α → β → Prop}
    (stepped : ∀ earlier item value next, reads earlier value →
      step value item = some next → reads (earlier ++ [item]) next)
    {items earlier : List α} {start final : β} (holds : reads earlier start)
    (ran : items.foldlM step start = some final) :
    reads (earlier ++ items) final := by
  induction items generalizing earlier start with
  | nil =>
      cases ran
      rw [List.append_nil]
      exact holds
  | cons item rest ih =>
      rw [List.foldlM_cons] at ran
      obtain ⟨next, first, ran⟩ := Option.bind_eq_some_iff.mp ran
      have later := ih (stepped earlier item start next holds first) ran
      rw [List.append_assoc] at later
      exact later

theorem foldlM_each {items : List α} {start final : β}
    (ran : items.foldlM step start = some final) :
    ∀ item ∈ items, ∃ value next, step value item = some next := by
  induction items generalizing start with
  | nil => simp
  | cons item rest ih =>
      rw [List.foldlM_cons] at ran
      obtain ⟨next, first, ran⟩ := Option.bind_eq_some_iff.mp ran
      intro other listed
      rcases List.mem_cons.mp listed with rfl | later
      · exact ⟨start, next, first⟩
      · exact ih ran other later

end Loops

/-! ## Documents -/

/-- A document; members keep their order, and a name may come twice. -/
inductive Json where
  | null
  | bool (value : Bool)
  /-- by its literal -/
  | number (literal : String)
  | string (value : String)
  | array (elements : List Json)
  | object (members : List (String × Json))

namespace Json

/-! ## Scalars -/

def decodeString : Json → String → Option String
  | .string value, _ => some value
  | .null, value => some value
  | _, _ => none

def decodeBool : Json → Bool → Option Bool
  | .bool value, _ => some value
  | .null, value => some value
  | _, _ => none

/-- `strconv.ParseInt(literal, 10, 64)`, on the literals of JSON. -/
def parseInt (literal : String) : Option Int := do
  let (negative, digits) := match literal.toList with
    | '-' :: digits => (true, digits)
    | digits => (false, digits)
  if digits.all Char.isDigit && digits ≠ [] then
    let magnitude := digits.foldl
      (fun value digit => value * 10 + (digit.toNat - '0'.toNat)) 0
    let value : Int := if negative then -magnitude else magnitude
    if -2 ^ 63 ≤ value ∧ value < 2 ^ 63 then some value else none
  else
    none

def decodeInt : Json → Int → Option Int
  | .number literal, _ => parseInt literal
  | .null, value => some value
  | _, _ => none

/-! ## Structs -/

/-- `Char.toLower`, and the two letters outside ASCII that fold to one in it. -/
def foldChar (char : Char) : Char :=
  if char = '\u212A' then 'k'
  else if char = '\u017F' then 's'
  else char.toLower

def equalFold (name key : String) : Bool :=
  name.toList.map foldChar == key.toList.map foldChar

theorem equalFold_refl (name : String) : equalFold name name = true := by
  simp [equalFold]

theorem equalFold_trans {left right key : String}
    (first : equalFold left key = true)
    (second : equalFold right key = true) :
    equalFold left right = true := by
  rw [equalFold, beq_iff_eq] at *
  exact first.trans second.symm

/-- A field of a struct: how a member with its name is decoded into it. -/
structure Field (α : Type) where
  name : String
  decode : Json → α → Option α

section Structs

variable {α : Type}

/-- The field for a member: one with its very name, or else the first with its
name in another case. -/
def fieldFor (fields : List (Field α)) (key : String) : Option (Field α) :=
  (fields.find? fun field => field.name == key).or
    (fields.find? fun field => equalFold field.name key)

theorem mem_of_fieldFor {fields : List (Field α)} {key : String}
    {field : Field α} (found : fieldFor fields key = some field) :
    field ∈ fields := by
  rcases Option.or_eq_some_iff.mp found with same | ⟨_, folded⟩
  · exact List.mem_of_find?_eq_some same
  · exact List.mem_of_find?_eq_some folded

/-- The field for a member has its name, in some case. -/
theorem equalFold_of_fieldFor {fields : List (Field α)}
    {key : String} {field : Field α}
    (found : fieldFor fields key = some field) :
    equalFold field.name key = true := by
  rcases Option.or_eq_some_iff.mp found with same | ⟨_, folded⟩
  · have exactly := List.find?_some same
    rw [← beq_iff_eq.mp exactly]
    exact equalFold_refl field.name
  · have spelled := List.find?_some folded
    exact spelled

/-- Where no two names are the same in another case, the field for a member is
the one with its name. -/
theorem fieldFor_eq {fields : List (Field α)}
    (distinct : fields.Pairwise fun field other =>
      equalFold field.name other.name = false)
    {field : Field α} (listed : field ∈ fields) {key : String}
    (same : equalFold field.name key = true) :
    fieldFor fields key = some field := by
  cases found : fieldFor fields key with
  | none =>
      obtain ⟨_, none⟩ := Option.or_eq_none_iff.mp found
      exact absurd same (List.find?_eq_none.mp none field listed)
  | some other =>
      have folded := equalFold_trans same (equalFold_of_fieldFor found)
      by_contra differs
      have : Std.Symm fun field other : Field α =>
          equalFold field.name other.name = false := by
        constructor
        intro field other unequal
        rw [equalFold, beq_eq_false_iff_ne] at *
        exact unequal.symm
      have unequal := distinct.forall listed (mem_of_fieldFor found)
        fun same => differs (by rw [same])
      rw [folded] at unequal
      cases unequal

def decodeMember (fields : List (Field α)) (value : α)
    (member : String × Json) : Option α :=
  match fieldFor fields member.1 with
  | some field => field.decode member.2 value
  | none => some value

def decodeStruct (fields : List (Field α)) : Json → α → Option α
  | .object members, value => members.foldlM (decodeMember fields) value
  | .null, value => some value
  | _, _ => none

end Structs

/-! ## Slices -/

/-- A slice: the elements of its array, beyond which all are zero, and its
length. -/
structure Slice (α : Type) where
  elements : List α
  length : Nat

def Slice.values {α : Type} (slice : Slice α) : List α :=
  slice.elements.take slice.length

section Slices

variable {α : Type} (zero : α) (decode : Json → α → Option α)

/-- The elements of an earlier array are decoded over, not reset. -/
def decodeElements : List Json → List α → Option (List α)
  | [], elements => some elements
  | json :: rest, elements => do
      let element ← decode json (elements.headD zero)
      let later ← decodeElements rest elements.tail
      some (element :: later)

def decodeSlice : Json → Slice α → Option (Slice α)
  | .array [], _ => some ⟨[], 0⟩
  | .array jsons, slice => do
      let elements ← decodeElements zero decode jsons slice.elements
      some ⟨elements, jsons.length⟩
  | .null, _ => some ⟨[], 0⟩
  | _, _ => none

end Slices

/-! ## `interface{}` -/

mutual

/-- Every number is one that a `float64` can hold. -/
def representable (float64 : String → Bool) : Json → Bool
  | .number literal => float64 literal
  | .array elements => elementsRepresentable float64 elements
  | .object members => membersRepresentable float64 members
  | _ => true

def elementsRepresentable (float64 : String → Bool) : List Json → Bool
  | [] => true
  | element :: rest =>
      representable float64 element && elementsRepresentable float64 rest

def membersRepresentable (float64 : String → Bool) :
    List (String × Json) → Bool
  | [] => true
  | (_, value) :: rest =>
      representable float64 value && membersRepresentable float64 rest

end

/-- The keys of a `map[string]interface{}`. -/
def keys (members : List (String × Json)) : List String :=
  (members.map Prod.fst).dedup

/-- The members of an object; other values have none. -/
def members : Json → List (String × Json)
  | .object members => members
  | _ => []

/-- A member that comes twice has its last value. -/
def lookup (key : String) (members : List (String × Json)) : Option Json :=
  members.reverse.lookup key

/-- Decoding into a `map[string]interface{}`. -/
def decodeMap (float64 : String → Bool) :
    Json → Option (List (String × Json))
  | .object members =>
      if membersRepresentable float64 members then some members else none
  | .null => some []
  | _ => none

end Json

end Notifications.Lib
