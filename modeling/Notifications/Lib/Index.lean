import Mathlib.Data.List.AList
import Notifications.Lib.Rows

/-!
# Maps built from rows

A loop that stores every row of a list in a map, under its key.  When the key is
unique the map and the rows say the same.
-/

set_option autoImplicit false

namespace Notifications.Lib

variable {Row Key Value : Type} [DecidableEq Key]

/-- `for row in rows: index[key(row)] = view(row)`. -/
def indexBy (key : Row → Key) (view : Row → Value) (rows : List Row) :
    AList fun _ : Key => Value :=
  rows.foldl (fun index row => index.insert (key row) (view row)) ∅

variable {key : Row → Key} {view : Row → Value} {rows : List Row}

theorem lookup_foldl_insert (unique : UniqueBy key rows)
    (start : AList fun _ : Key => Value) (wanted : Key) (value : Value) :
    (rows.foldl (fun index row => index.insert (key row) (view row))
        start).lookup wanted = some value ↔
      (∃ row ∈ rows, key row = wanted ∧ view row = value) ∨
        (∀ row ∈ rows, key row ≠ wanted) ∧
          start.lookup wanted = some value := by
  induction rows generalizing start with
  | nil => simp
  | cons first rest ih =>
      rw [UniqueBy, List.map_cons, List.nodup_cons] at unique
      rw [List.foldl_cons, ih unique.2]
      by_cases here : key first = wanted
      · subst here
        -- no later row has the key of the first one
        have later : ∀ row ∈ rest, key row ≠ key first := by
          intro row member same
          exact unique.1 (same ▸ List.mem_map_of_mem member)
        simp only [AList.lookup_insert, List.exists_mem_cons_iff, true_and,
          List.forall_mem_cons, ne_eq, not_true_eq_false, false_and, or_false,
          Option.some.injEq]
        constructor
        · intro facts
          rcases facts with found | ⟨_, same⟩
          · exact .inr found
          · exact .inl same
        · intro facts
          rcases facts with same | found
          · exact .inr ⟨later, same⟩
          · exact .inl found
      · rw [AList.lookup_insert_ne (Ne.symm here)]
        simp [here]

/-- An entry of the map is a row, and a row is an entry. -/
theorem lookup_indexBy (unique : UniqueBy key rows) {wanted : Key}
    {value : Value} :
    (indexBy key view rows).lookup wanted = some value ↔
      ∃ row ∈ rows, key row = wanted ∧ view row = value := by
  rw [indexBy, lookup_foldl_insert unique]
  simp

end Notifications.Lib
