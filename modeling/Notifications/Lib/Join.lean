import Mathlib.Data.List.Basic

/-!
# Joins

`leftOuterJoin` pairs every row on the left with the rows on the right that
match it, or with nothing when none does.  The two rules used most are that a
condition on the left rows alone may be checked before the join, and that a
join where nothing matches twice is a map.
-/

set_option autoImplicit false

namespace Notifications.Lib

variable {Left Right : Type}

/-- `left LEFT OUTER JOIN right ON matched`. -/
def leftOuterJoin (matched : Left → Right → Bool) (left : List Left)
    (right : List Right) : List (Left × Option Right) :=
  left.flatMap fun row =>
    match right.filter (matched row) with
    | [] => [(row, none)]
    | found => found.map fun partner => (row, some partner)

/-- `left JOIN right ON matched`. -/
def innerJoin (matched : Left → Right → Bool) (left : List Left)
    (right : List Right) : List (Left × Right) :=
  left.flatMap fun row =>
    (right.filter (matched row)).map fun partner => (row, partner)

theorem mem_innerJoin {matched : Left → Right → Bool} {left : List Left}
    {right : List Right} {row : Left} {partner : Right} :
    (row, partner) ∈ innerJoin matched left right ↔
      row ∈ left ∧ partner ∈ right ∧ matched row partner = true := by
  simp only [innerJoin, List.mem_flatMap, List.mem_map, List.mem_filter,
    Prod.mk.injEq]
  constructor
  · rintro ⟨_, member, _, found, rfl, rfl⟩
    exact ⟨member, found⟩
  · rintro ⟨member, found⟩
    exact ⟨row, member, partner, found, rfl, rfl⟩

theorem leftOuterJoin_cons (matched : Left → Right → Bool) (first : Left)
    (rest : List Left) (right : List Right) :
    leftOuterJoin matched (first :: rest) right =
      leftOuterJoin matched [first] right ++
        leftOuterJoin matched rest right := by
  simp [leftOuterJoin]

theorem leftOuterJoin_single (matched : Left → Right → Bool) (row : Left)
    (right : List Right) :
    leftOuterJoin matched [row] right =
      match right.filter (matched row) with
      | [] => [(row, none)]
      | found => found.map fun partner => (row, some partner) := by
  simp [leftOuterJoin]

theorem fst_of_mem_leftOuterJoin {matched : Left → Right → Bool} {row : Left}
    {right : List Right} {joined : Left × Option Right}
    (member : joined ∈ leftOuterJoin matched [row] right) :
    joined.1 = row := by
  rw [leftOuterJoin_single] at member
  split at member
  · simp_all
  · obtain ⟨_, _, rfl⟩ := List.mem_map.mp member
    rfl

theorem mem_leftOuterJoin {matched : Left → Right → Bool} {left : List Left}
    {right : List Right} {row : Left} {partner : Right} :
    (row, some partner) ∈ leftOuterJoin matched left right ↔
      row ∈ left ∧ partner ∈ right ∧ matched row partner = true := by
  simp only [leftOuterJoin, List.mem_flatMap]
  constructor
  · rintro ⟨first, member, joined⟩
    split at joined
    · simp at joined
    · obtain ⟨found, matches', same⟩ := List.mem_map.mp joined
      cases same
      exact ⟨member, List.mem_filter.mp matches'⟩
  · rintro ⟨member, found⟩
    have matches' := List.mem_filter.mpr found
    refine ⟨row, member, ?_⟩
    split
    · rename_i empty
      rw [empty] at matches'
      cases matches'
    · exact List.mem_map.mpr ⟨partner, matches', rfl⟩

theorem exists_mem_leftOuterJoin (matched : Left → Right → Bool)
    {left : List Left} (right : List Right) {row : Left}
    (member : row ∈ left) :
    ∃ partner, (row, partner) ∈ leftOuterJoin matched left right := by
  cases found : right.filter (matched row) with
  | nil =>
      exact ⟨none, List.mem_flatMap.mpr ⟨row, member, by simp [found]⟩⟩
  | cons partner others =>
      have first : partner ∈ right.filter (matched row) := by simp [found]
      exact ⟨some partner,
        mem_leftOuterJoin.mpr ⟨member, List.mem_filter.mp first⟩⟩

theorem leftOuterJoin_single_length (matched : Left → Right → Bool)
    (row : Left) (right : List Right) :
    (leftOuterJoin matched [row] right).length =
      max 1 (right.filter (matched row)).length := by
  rw [leftOuterJoin_single]
  split
  · rename_i empty
    simp [empty]
  · rename_i found some
    have positive : 0 < (right.filter (matched row)).length :=
      List.length_pos_iff.mpr some
    simp only [List.length_map]
    omega

/-- A condition on the left row alone may be checked before the join. -/
theorem leftOuterJoin_filter (matched : Left → Right → Bool)
    (wanted : Left → Bool) (left : List Left) (right : List Right) :
    (leftOuterJoin matched left right).filter (fun joined => wanted joined.1) =
      leftOuterJoin matched (left.filter wanted) right := by
  induction left with
  | nil => rfl
  | cons first rest ih =>
      rw [leftOuterJoin_cons, List.filter_append, ih]
      by_cases hit : wanted first = true
      · have all : ∀ joined ∈ leftOuterJoin matched [first] right,
            wanted joined.1 = true := by
          intro joined member
          rw [fst_of_mem_leftOuterJoin member]
          exact hit
        rw [List.filter_eq_self.mpr all, List.filter_cons_of_pos hit,
          ← leftOuterJoin_cons]
      · have nothing : ∀ joined ∈ leftOuterJoin matched [first] right,
            ¬ wanted joined.1 = true := by
          intro joined member
          rw [fst_of_mem_leftOuterJoin member]
          exact hit
        rw [List.filter_eq_nil_iff.mpr nothing, List.filter_cons_of_neg hit,
          List.nil_append]

theorem leftOuterJoin_of_unique {matched : Left → Right → Bool}
    {left : List Left} {right : List Right} (partner : Left → Option Right)
    (unique : ∀ row ∈ left, right.filter (matched row) =
      (partner row).toList) :
    leftOuterJoin matched left right =
      left.map fun row => (row, partner row) := by
  induction left with
  | nil => rfl
  | cons first rest ih =>
      rw [leftOuterJoin_cons, leftOuterJoin_single,
        ih fun row member => unique row (.tail _ member),
        unique first (.head _), List.map_cons]
      cases partner first <;> rfl

theorem fst_mem_of_mem_leftOuterJoin {matched : Left → Right → Bool}
    {left : List Left} {right : List Right} {joined : Left × Option Right}
    (member : joined ∈ leftOuterJoin matched left right) :
    joined.1 ∈ left := by
  induction left with
  | nil => cases member
  | cons first rest ih =>
      rw [leftOuterJoin_cons] at member
      rcases List.mem_append.mp member with here | later
      · rw [fst_of_mem_leftOuterJoin here]
        exact .head _
      · exact .tail _ (ih later)

/-- Every row on the left is joined to at least as many rows as match it. -/
theorem le_countP_leftOuterJoin {matched : Left → Right → Bool}
    {left : List Left} {right : List Right} {row : Left}
    (member : row ∈ left) {wanted : Left → Bool} (hit : wanted row = true) :
    max 1 (right.filter (matched row)).length ≤
      (leftOuterJoin matched left right).countP
        (fun joined => wanted joined.1) := by
  induction left with
  | nil => cases member
  | cons first rest ih =>
      rw [leftOuterJoin_cons, List.countP_append]
      rcases List.mem_cons.mp member with rfl | later
      · have all : ∀ joined ∈ leftOuterJoin matched [row] right,
            wanted joined.1 = true := by
          intro joined member
          rw [fst_of_mem_leftOuterJoin member]
          exact hit
        rw [List.countP_eq_length.mpr all, leftOuterJoin_single_length]
        omega
      · have there := ih later
        omega

end Notifications.Lib
