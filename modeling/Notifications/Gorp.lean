import Notifications.Lib.Versioned

/-!
# gorp's writes to a versioned table

`DbMap.Insert`, `DbMap.Update` and `DbMap.Delete` for a table with an
auto-increment key and a `Version` field, as `bindInsert`, `bindUpdate`,
`bindDelete` and `createBindInstance` build the statements.  A write whose
`WHERE` hits no row is an `OptimisticLockError` only when the version of the
copy is positive; a copy of version 0 is bumped to 1 before its own `WHERE` is
bound, so it hits rows of version 1 and never fails.
-/

set_option autoImplicit false

namespace Notifications.Gorp

open Notifications.Lib Notifications.Lib.Versioned

variable {Row : Type} [Versioned Row]

inductive WriteError where
  | optimisticLockError
  deriving DecidableEq, Repr

/-- The table after the insert, and the row value the caller is left with.  The
stored version is one above the copy's, which is only told to the caller when
it was 0. -/
def insert (autoIncrement : Nat) (rows : List Row) (row : Row) :
    List Row × Row :=
  let existingVersion := version row
  let newVer := existingVersion + 1
  let keyed := withKey row autoIncrement
  (rows ++ [withVersion keyed newVer],
    if existingVersion = 0 then withVersion keyed newVer else keyed)

/-- The version bound in the `WHERE` of an update. -/
def boundVersion (row : Row) : Nat :=
  if version row = 0 then 1 else version row

def update (rows : List Row) (row : Row) :
    Except WriteError (List Row × Row) :=
  let existingVersion := version row
  let written := withVersion row (existingVersion + 1)
  let hit := matched row (boundVersion row)
  if rows.countP hit = 0 ∧ 0 < existingVersion then
    .error .optimisticLockError
  else
    .ok (updateWhere hit (fun _ => written) rows, written)

def delete (rows : List Row) (row : Row) : Except WriteError (List Row) :=
  let hit := matched row (version row)
  if rows.countP hit = 0 ∧ 0 < version row then
    .error .optimisticLockError
  else
    .ok (deleteWhere hit rows)

theorem boundVersion_of_pos {row : Row} (positive : 0 < version row) :
    boundVersion row = version row := by
  rw [boundVersion, if_neg (by omega)]

theorem countP_matched_eq_zero {rows : List Row} {row : Row} :
    rows.countP (matched row (version row)) = 0 ↔ ¬ Current rows row := by
  rw [List.countP_eq_zero]
  constructor
  · rintro none ⟨old, member, sameKey, sameVersion⟩
    exact none old member (matched_iff.mpr ⟨sameKey, sameVersion⟩)
  · intro notCurrent old member hit
    obtain ⟨sameKey, sameVersion⟩ := matched_iff.mp hit
    exact notCurrent ⟨old, member, sameKey, sameVersion⟩

/-! ## The documented contract

For copies of positive version a write succeeds exactly when a row with the
same key and version exists. -/

theorem update_of_current {rows : List Row} {row : Row}
    (positive : 0 < version row) (current : Current rows row) :
    update rows row = .ok
      (updateWhere (matched row (version row))
        (fun _ => withVersion row (version row + 1)) rows,
        withVersion row (version row + 1)) := by
  have hits : ¬ rows.countP (matched row (version row)) = 0 := by
    rw [countP_matched_eq_zero]
    exact not_not_intro current
  simp only [update, boundVersion_of_pos positive]
  rw [if_neg (fun both => hits both.1)]

theorem update_of_not_current {rows : List Row} {row : Row}
    (positive : 0 < version row) (missing : ¬ Current rows row) :
    update rows row = .error .optimisticLockError := by
  have misses := countP_matched_eq_zero.mpr missing
  simp only [update, boundVersion_of_pos positive]
  rw [if_pos ⟨misses, positive⟩]

theorem delete_of_current {rows : List Row} {row : Row}
    (current : Current rows row) :
    delete rows row = .ok
      (deleteWhere (matched row (version row)) rows) := by
  have hits : ¬ rows.countP (matched row (version row)) = 0 := by
    rw [countP_matched_eq_zero]
    exact not_not_intro current
  simp only [delete]
  rw [if_neg (fun both => hits both.1)]

theorem delete_of_not_current {rows : List Row} {row : Row}
    (positive : 0 < version row) (missing : ¬ Current rows row) :
    delete rows row = .error .optimisticLockError := by
  have misses := countP_matched_eq_zero.mpr missing
  simp only [delete]
  rw [if_pos ⟨misses, positive⟩]

end Notifications.Gorp
