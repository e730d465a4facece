import Mathlib.Algebra.Field.Rat
import Mathlib.Data.List.Dedup
import Mathlib.Data.String.Basic
import Notifications.Lib.Json

/-!
# The values of documents

Two documents are equal when their numbers have the same decimal value and
their objects the same last value for every key.  A document that goes through
an `interface{}` is written with other literals and in another order; whether
it stays equal is up to its numbers alone.
-/

set_option autoImplicit false

namespace Notifications.Lib

namespace Json

/-! ## Numbers -/

def natural (digits : List Char) : Nat :=
  digits.foldl (fun value digit => value * 10 + (digit.toNat - '0'.toNat)) 0

/-- What follows the digits of a literal: `e`, a sign and digits. -/
def exponentValue : List Char → Int
  | _ :: '-' :: digits => -natural digits
  | _ :: '+' :: digits => natural digits
  | _ :: digits => natural digits
  | [] => 0

/-- The digits after the point, and what follows them. -/
def fractionOf : List Char → List Char × List Char
  | '.' :: rest => rest.span Char.isDigit
  | rest => ([], rest)

def magnitude (unsigned : List Char) : ℚ :=
  let (whole, rest) := unsigned.span Char.isDigit
  let (fraction, exponent) := fractionOf rest
  natural (whole ++ fraction) *
    (10 : ℚ) ^ (exponentValue exponent - fraction.length)

def literalValue (literal : String) : ℚ :=
  match literal.toList with
  | '-' :: unsigned => -magnitude unsigned
  | unsigned => magnitude unsigned

example : literalValue "-12.50e1" = literalValue "-125" := by decide +kernel

/-! ## Equality -/

inductive Equal : Json → Json → Prop
  | null : Equal .null .null
  | bool (value : Bool) : Equal (.bool value) (.bool value)
  | number {left right : String}
      (same : literalValue left = literalValue right) :
      Equal (.number left) (.number right)
  | string (value : String) : Equal (.string value) (.string value)
  | array {left right : List Json} (length : left.length = right.length)
      (elements : ∀ (index : Nat) (first second : Json),
        left[index]? = some first → right[index]? = some second →
          Equal first second) :
      Equal (.array left) (.array right)
  | object {left right : List (String × Json)}
      (keys : ∀ key, (lookup key left).isSome = (lookup key right).isSome)
      (members : ∀ key first second, lookup key left = some first →
        lookup key right = some second → Equal first second) :
      Equal (.object left) (.object right)

/-- Every number that a reader of the document finds keeps its value; a member
that a later one replaces is not found. -/
inductive Kept (number : String → String) : Json → Prop
  | null : Kept number .null
  | bool (value : Bool) : Kept number (.bool value)
  | number {literal : String}
      (same : literalValue (number literal) = literalValue literal) :
      Kept number (.number literal)
  | string (value : String) : Kept number (.string value)
  | array {elements : List Json}
      (each : ∀ element ∈ elements, Kept number element) :
      Kept number (.array elements)
  | object {members : List (String × Json)}
      (each : ∀ key value, lookup key members = some value →
        Kept number value) :
      Kept number (.object members)

/-! ## Writing an `interface{}` -/

/-- The members of a map, in the order of their keys. -/
def sortedMembers (members : List (String × Json)) : List (String × Json) :=
  ((keys members).mergeSort fun left right => decide (left ≤ right)).filterMap
    fun key => (lookup key members).map (Prod.mk key)

mutual

/-- What is written for a document that was read into an `interface{}`: a
number by the literal of its `float64`. -/
def rewritten (number : String → String) : Json → Json
  | .number literal => .number (number literal)
  | .array elements => .array (elementsRewritten number elements)
  | .object members => .object (sortedMembers (membersRewritten number members))
  | .null => .null
  | .bool value => .bool value
  | .string value => .string value

def elementsRewritten (number : String → String) : List Json → List Json
  | [] => []
  | element :: rest =>
      rewritten number element :: elementsRewritten number rest

def membersRewritten (number : String → String) :
    List (String × Json) → List (String × Json)
  | [] => []
  | (key, value) :: rest =>
      (key, rewritten number value) :: membersRewritten number rest

end

theorem elementsRewritten_eq (number : String → String)
    (elements : List Json) :
    elementsRewritten number elements = elements.map (rewritten number) := by
  induction elements with
  | nil => rfl
  | cons element rest ih => rw [elementsRewritten, ih, List.map_cons]

theorem membersRewritten_eq (number : String → String)
    (members : List (String × Json)) :
    membersRewritten number members =
      members.map (Prod.map id (rewritten number)) := by
  induction members with
  | nil => rfl
  | cons member rest ih =>
      rcases member with ⟨key, value⟩
      rw [membersRewritten, ih, List.map_cons]
      rfl

/-! ## Lookups -/

theorem lookup_isSome_iff {key : String} {members : List (String × Json)} :
    (lookup key members).isSome ↔ key ∈ keys members := by
  rw [lookup, List.lookup_isSome_iff, keys, List.mem_dedup, List.mem_map]
  constructor
  · intro facts
    obtain ⟨member, present, same⟩ := facts
    exact ⟨member, List.mem_reverse.mp present, (eq_of_beq same).symm⟩
  · intro facts
    obtain ⟨member, present, same⟩ := facts
    exact ⟨member, List.mem_reverse.mpr present, beq_iff_eq.mpr same.symm⟩

theorem mem_keys {key : String} {members : List (String × Json)} :
    key ∈ keys members ↔ ∃ member ∈ members, member.1 = key := by
  rw [keys, List.mem_dedup, List.mem_map]

theorem mem_of_lookup {key : String} {members : List (String × Json)}
    {value : Json} (found : lookup key members = some value) :
    (key, value) ∈ members := by
  obtain ⟨before, after, split, _⟩ := List.lookup_eq_some_iff.mp found
  rw [← List.mem_reverse, split]
  simp

theorem lookup_snoc (key : String) (members : List (String × Json))
    (member : String × Json) :
    lookup key (members ++ [member]) =
      if key = member.1 then some member.2 else lookup key members := by
  rw [lookup, List.reverse_append, List.reverse_singleton,
    List.singleton_append, List.lookup_cons]
  by_cases same : key = member.1
  · rw [if_pos same, beq_iff_eq.mpr same]
  · rw [if_neg same, beq_false_of_ne same]
    rfl

theorem lookup_map (values : Json → Json) (key : String)
    (members : List (String × Json)) :
    lookup key (members.map (Prod.map id values)) =
      (lookup key members).map values := by
  rw [lookup, lookup, ← List.map_reverse]
  induction members.reverse with
  | nil => rfl
  | cons member rest ih =>
      rw [List.map_cons, List.lookup_cons, List.lookup_cons, ih, Prod.map_fst,
        id]
      cases key == member.1 with
      | true => rfl
      | false => rfl

/-- A list with a member for every name that has a value. -/
theorem lookup_filterMap (values : String → Option Json) (key : String)
    (names : List String) :
    (names.filterMap fun name => (values name).map (Prod.mk name)).lookup
        key = if key ∈ names then values key else none := by
  induction names with
  | nil => rfl
  | cons name rest ih =>
      by_cases same : key = name
      · subst same
        rw [if_pos (.head _)]
        cases found : values key with
        | none =>
            simp only [List.filterMap_cons, found, Option.map_none, ih, ite_self]
        | some value => simp [found]
      · have elsewhere : key ∈ name :: rest ↔ key ∈ rest := by simp [same]
        simp only [elsewhere, ← ih]
        cases found : values name with
        | none => simp [found]
        | some value =>
            rw [List.filterMap_cons, found, Option.map_some, List.lookup_cons,
              beq_false_of_ne same]

theorem lookup_sortedMembers (key : String) (members : List (String × Json)) :
    lookup key (sortedMembers members) = lookup key members := by
  have listed : key ∈ ((keys members).mergeSort fun left right =>
      decide (left ≤ right)).reverse ↔ key ∈ keys members := by
    simp
  rw [lookup, sortedMembers, ← List.filterMap_reverse, lookup_filterMap]
  simp only [listed, ← lookup_isSome_iff]
  cases lookup key members with
  | none => rfl
  | some value => rfl

/-! ## Round trips -/

variable {number : String → String}

theorem lookup_rewritten (key : String) (members : List (String × Json)) :
    lookup key (sortedMembers (membersRewritten number members)) =
      (lookup key members).map (rewritten number) := by
  rw [lookup_sortedMembers, membersRewritten_eq, lookup_map]

theorem Kept.equal {json : Json} (kept : Kept number json) :
    Equal (rewritten number json) json := by
  induction kept with
  | null => exact .null
  | bool value => exact .bool value
  | number same => exact .number same
  | string value => exact .string value
  | @array elements each ih =>
      rw [rewritten, elementsRewritten_eq]
      refine .array (by simp) ?_
      intro index first second left right
      rw [List.getElem?_map, right, Option.map_some, Option.some.injEq] at left
      subst left
      exact ih second (List.mem_of_getElem? right)
  | @object members each ih =>
      refine .object ?_ ?_
      · intro key
        rw [lookup_rewritten, Option.isSome_map]
      · intro key first second left right
        rw [lookup_rewritten, right, Option.map_some,
          Option.some.injEq] at left
        subst left
        exact ih key second right

theorem Equal.kept {left json : Json} (equal : Equal left json)
    (written : left = rewritten number json) : Kept number json := by
  induction equal with
  | null => exact .null
  | bool value => exact .bool value
  | number same =>
      rw [rewritten, Json.number.injEq] at written
      subst written
      exact .number same
  | string value => exact .string value
  | @array first elements length _ ih =>
      rw [rewritten, elementsRewritten_eq, Json.array.injEq] at written
      subst written
      refine .array ?_
      intro element member
      obtain ⟨index, found⟩ := List.getElem?_of_mem member
      exact ih index _ element (by rw [List.getElem?_map, found]; rfl) found
        rfl
  | @object first members keys _ ih =>
      rw [rewritten, Json.object.injEq] at written
      subst written
      refine .object ?_
      intro key value found
      exact ih key _ value (by rw [lookup_rewritten, found]; rfl) found rfl

/-- A document that was read into an `interface{}` and written again equals
the first one exactly when its numbers keep their values. -/
theorem rewritten_equal_iff {json : Json} :
    Equal (rewritten number json) json ↔ Kept number json :=
  ⟨fun equal => equal.kept rfl, Kept.equal⟩

end Json

end Notifications.Lib
