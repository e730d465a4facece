import Mathlib.Data.List.Basic
import Mathlib.Data.List.Nodup

/-!
# Tables as lists of rows

The statements a program sends to a table: `updateWhere` and `deleteWhere` are
`UPDATE ... WHERE` and `DELETE ... WHERE`, and `UniqueBy` is a unique key.
-/

set_option autoImplicit false

namespace Notifications.Lib

variable {Row Key : Type}

/-- `UPDATE table SET change WHERE matched`. -/
def updateWhere (matched : Row → Bool) (change : Row → Row)
    (rows : List Row) : List Row :=
  rows.map fun row => if matched row then change row else row

/-- `DELETE FROM table WHERE matched`. -/
def deleteWhere (matched : Row → Bool) (rows : List Row) : List Row :=
  rows.filter fun row => !matched row

def UniqueBy (key : Row → Key) (rows : List Row) : Prop :=
  (rows.map key).Nodup

theorem mem_updateWhere {matched : Row → Bool} {change : Row → Row}
    {rows : List Row} {row : Row} :
    row ∈ updateWhere matched change rows ↔
      (row ∈ rows ∧ matched row = false) ∨
        ∃ old ∈ rows, matched old = true ∧ change old = row := by
  simp only [updateWhere, List.mem_map]
  constructor
  · rintro ⟨old, member, rfl⟩
    by_cases hit : matched old = true
    · exact .inr ⟨old, member, hit, by simp [hit]⟩
    · exact .inl (by simp_all)
  · rintro (⟨member, miss⟩ | ⟨old, member, hit, rfl⟩)
    · exact ⟨row, member, by simp [miss]⟩
    · exact ⟨old, member, by simp [hit]⟩

theorem mem_deleteWhere {matched : Row → Bool} {rows : List Row} {row : Row} :
    row ∈ deleteWhere matched rows ↔ row ∈ rows ∧ matched row = false := by
  simp [deleteWhere]

theorem UniqueBy.eq_of_mem {key : Row → Key} {rows : List Row}
    (unique : UniqueBy key rows) {left right : Row}
    (leftMember : left ∈ rows) (rightMember : right ∈ rows)
    (same : key left = key right) : left = right :=
  List.inj_on_of_nodup_map unique leftMember rightMember same

theorem UniqueBy.filter_eq [BEq Key] [LawfulBEq Key] {key : Row → Key}
    {rows : List Row} (unique : UniqueBy key rows) {row : Row}
    (member : row ∈ rows) :
    rows.filter (fun other => key other == key row) = [row] := by
  induction rows with
  | nil => cases member
  | cons first rest ih =>
      have unique' := List.nodup_cons.mp unique
      rcases List.mem_cons.mp member with rfl | later
      · have others : ∀ other ∈ rest, ¬ (key other == key row) = true := by
          intro other otherMember same
          apply unique'.1
          rw [← beq_iff_eq.mp same]
          exact List.mem_map_of_mem otherMember
        rw [List.filter_cons_of_pos (by simp),
          List.filter_eq_nil_iff.mpr others]
      · have differs : (key first == key row) = false := by
          rw [beq_eq_false_iff_ne]
          intro same
          apply unique'.1
          rw [same]
          exact List.mem_map_of_mem later
        simp only [List.filter_cons, differs]
        exact ih unique'.2 later

theorem UniqueBy.updateWhere {key : Row → Key} {rows : List Row}
    (unique : UniqueBy key rows) {matched : Row → Bool} {change : Row → Row}
    (keeps : ∀ row, matched row = true → key (change row) = key row) :
    UniqueBy key (updateWhere matched change rows) := by
  have same : (Lib.updateWhere matched change rows).map key =
      rows.map key := by
    simp only [Lib.updateWhere, List.map_map]
    apply List.map_congr_left
    intro row _
    by_cases hit : matched row = true
    · simp [hit, keeps row hit]
    · simp [hit]
  rw [UniqueBy, same]
  exact unique

theorem UniqueBy.deleteWhere {key : Row → Key} {rows : List Row}
    (unique : UniqueBy key rows) (matched : Row → Bool) :
    UniqueBy key (deleteWhere matched rows) :=
  List.Nodup.sublist (List.filter_sublist.map key) unique

theorem UniqueBy.append_fresh {key : Row → Key} {rows : List Row}
    (unique : UniqueBy key rows) {row : Row}
    (fresh : ∀ old ∈ rows, key old ≠ key row) :
    UniqueBy key (rows ++ [row]) := by
  simp only [UniqueBy, List.map_append, List.map_cons, List.map_nil]
  refine List.Nodup.append unique (by simp) ?_
  intro value inRows inRow
  obtain ⟨old, member, rfl⟩ := List.mem_map.mp inRows
  simp at inRow
  exact fresh old member inRow

theorem updateWhere_cons (matched : Row → Bool) (change : Row → Row)
    (first : Row) (rest : List Row) :
    updateWhere matched change (first :: rest) =
      (if matched first then change first else first) ::
        updateWhere matched change rest := rfl

theorem updateWhere_of_none {matched : Row → Bool} {change : Row → Row}
    {rows : List Row} (none : ∀ row ∈ rows, matched row = false) :
    updateWhere matched change rows = rows := by
  have same : ∀ row ∈ rows,
      (if matched row then change row else row) = row := by
    intro row member
    simp [none row member]
  exact (List.map_congr_left same).trans (List.map_id rows)

/-- Replacing the row of one identity keeps a key unique that no other row
shares with the new one. -/
theorem UniqueBy.replace {Identity : Type} [DecidableEq Identity]
    {key : Row → Key} {identity : Row → Identity} {rows : List Row}
    (unique : UniqueBy key rows) (identified : UniqueBy identity rows)
    {row : Row}
    (apart : ∀ old ∈ rows, identity old ≠ identity row → key old ≠ key row) :
    UniqueBy key (Lib.updateWhere
      (fun old => identity old == identity row) (fun _ => row) rows) := by
  induction rows with
  | nil => exact unique
  | cons first rest ih =>
      have unique' := List.nodup_cons.mp unique
      have identified' := List.nodup_cons.mp identified
      have kept := ih unique'.2 identified'.2
        fun old member => apart old (.tail _ member)
      by_cases hit : identity first = identity row
      · -- no other row has this identity, so the rest stays as it is
        have others : ∀ old ∈ rest, identity old ≠ identity row := by
          intro old member same
          apply identified'.1
          rw [hit, ← same]
          exact List.mem_map_of_mem member
        have same : Lib.updateWhere
            (fun old => identity old == identity row) (fun _ => row) rest =
              rest :=
          updateWhere_of_none fun old member => by simpa using others old member
        rw [updateWhere_cons, if_pos (by simpa using hit), same, UniqueBy,
          List.map_cons]
        refine List.nodup_cons.mpr ⟨?_, unique'.2⟩
        intro shared
        obtain ⟨old, member, same⟩ := List.mem_map.mp shared
        exact apart old (.tail _ member) (others old member) same
      · rw [updateWhere_cons, if_neg (by simpa using hit), UniqueBy,
          List.map_cons]
        refine List.nodup_cons.mpr ⟨?_, kept⟩
        intro shared
        obtain ⟨old, member, same⟩ := List.mem_map.mp shared
        rcases mem_updateWhere.mp member with ⟨kept, _⟩ | ⟨_, _, _, rfl⟩
        · apply unique'.1
          rw [← same]
          exact List.mem_map_of_mem kept
        · exact apart first (.head _) hit same.symm

end Notifications.Lib
