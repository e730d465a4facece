import Notifications.Lib.Rows

/-!
# Versioned rows and stale copies

Optimistic locking in general terms.  Every row has a key and a version, and
clients keep copies of rows.  A copy is `Current` while a row with its key and
version exists, and `Stale` once the row has moved past it or is gone.  As long
as a table only ever `Advances` (versions grow, rows disappear, new rows have
new keys), a stale copy stays stale.
-/

set_option autoImplicit false

namespace Notifications.Lib

/-- Rows with a key and a version number that can be replaced. -/
class Versioned (Row : Type) where
  key : Row → Nat
  version : Row → Nat
  withKey : Row → Nat → Row
  withVersion : Row → Nat → Row
  key_withKey : ∀ row value, key (withKey row value) = value
  version_withKey : ∀ row value, version (withKey row value) = version row
  key_withVersion : ∀ row value, key (withVersion row value) = key row
  version_withVersion : ∀ row value, version (withVersion row value) = value

namespace Versioned

attribute [simp] key_withKey version_withKey key_withVersion version_withVersion

variable {Row : Type} [Versioned Row]

/-- The `WHERE key = ? AND version = ?` of a versioned write. -/
def matched (copy : Row) (wanted : Nat) (row : Row) : Bool :=
  key row == key copy && version row == wanted

def Current (rows : List Row) (copy : Row) : Prop :=
  ∃ row ∈ rows, key row = key copy ∧ version row = version copy

def Stale (rows : List Row) (copy : Row) : Prop :=
  ∀ row ∈ rows, key row = key copy → version copy < version row

def Behind (rows : List Row) (copy : Row) : Prop :=
  ∀ row ∈ rows, key row = key copy → version copy ≤ version row

/-- Versions only grow, and every row without a predecessor has a key that was
not in use before (`fresh` or later). -/
def Advances (fresh : Nat) (before after : List Row) : Prop :=
  ∀ row ∈ after, fresh ≤ key row ∨
    ∃ old ∈ before, key old = key row ∧ version old ≤ version row

theorem matched_iff {copy row : Row} {wanted : Nat} :
    matched copy wanted row = true ↔
      key row = key copy ∧ version row = wanted := by
  simp [matched]

theorem Advances.refl (fresh : Nat) (rows : List Row) :
    Advances fresh rows rows := by
  intro row member
  exact .inr ⟨row, member, rfl, Nat.le_refl _⟩

theorem Stale.advance {fresh : Nat} {before after : List Row} {copy : Row}
    (stale : Stale before copy) (known : key copy < fresh)
    (advances : Advances fresh before after) : Stale after copy := by
  intro row member same
  rcases advances row member with new | ⟨old, oldMember, sameKey, grown⟩
  · omega
  · have behind := stale old oldMember (sameKey.trans same)
    omega

theorem Behind.advance {fresh : Nat} {before after : List Row} {copy : Row}
    (behind : Behind before copy) (known : key copy < fresh)
    (advances : Advances fresh before after) : Behind after copy := by
  intro row member same
  rcases advances row member with new | ⟨old, oldMember, sameKey, grown⟩
  · omega
  · have below := behind old oldMember (sameKey.trans same)
    omega

theorem Stale.not_current {rows : List Row} {copy : Row}
    (stale : Stale rows copy) : ¬ Current rows copy := by
  rintro ⟨row, member, sameKey, sameVersion⟩
  have := stale row member sameKey
  omega

/-! ## Versioned writes -/

theorem mem_updated {rows : List Row} {copy stored value : Row} :
    stored ∈ updateWhere (matched copy (version copy)) (fun _ => value) rows ↔
      (stored ∈ rows ∧
        ¬ (key stored = key copy ∧ version stored = version copy)) ∨
        (Current rows copy ∧ stored = value) := by
  rw [mem_updateWhere]
  constructor
  · intro written
    rcases written with ⟨member, miss⟩ | ⟨old, member, hit, same⟩
    · refine .inl ⟨member, ?_⟩
      intro equal
      rw [matched_iff.mpr equal] at miss
      cases miss
    · obtain ⟨sameKey, sameVersion⟩ := matched_iff.mp hit
      exact .inr ⟨⟨old, member, sameKey, sameVersion⟩, same.symm⟩
  · intro written
    rcases written with ⟨member, differs⟩ | ⟨⟨old, member, equal⟩, same⟩
    · refine .inl ⟨member, ?_⟩
      cases found : matched copy (version copy) stored with
      | false => rfl
      | true => exact absurd (matched_iff.mp found) differs
    · exact .inr ⟨old, member, matched_iff.mpr equal, same.symm⟩

theorem mem_deleted {rows : List Row} {copy stored : Row} :
    stored ∈ deleteWhere (matched copy (version copy)) rows ↔
      stored ∈ rows ∧
        ¬ (key stored = key copy ∧ version stored = version copy) := by
  rw [mem_deleteWhere, ← matched_iff]
  simp

theorem mem_updated_of_key_ne {rows : List Row} {copy stored value : Row}
    (member : stored ∈ rows) (differs : key stored ≠ key copy) :
    stored ∈
      updateWhere (matched copy (version copy)) (fun _ => value) rows :=
  mem_updated.mpr (.inl ⟨member, fun same => differs same.1⟩)

theorem mem_deleted_of_key_ne {rows : List Row} {copy stored : Row}
    (member : stored ∈ rows) (differs : key stored ≠ key copy) :
    stored ∈ deleteWhere (matched copy (version copy)) rows :=
  mem_deleted.mpr ⟨member, fun same => differs same.1⟩

theorem exists_updated {rows : List Row} {copy row value : Row}
    (member : row ∈ rows) (sameKey : key value = key copy) :
    ∃ stored ∈
      updateWhere (matched copy (version copy)) (fun _ => value) rows,
        key stored = key row := by
  by_cases same : key row = key copy ∧ version row = version copy
  · refine ⟨value, mem_updated.mpr (.inr ⟨⟨row, member, same⟩, rfl⟩), ?_⟩
    rw [sameKey, same.1]
  · exact ⟨row, mem_updated.mpr (.inl ⟨member, same⟩), rfl⟩

theorem updated_unique {rows : List Row} {copy value : Row}
    (unique : UniqueBy key rows) (sameKey : key value = key copy) :
    UniqueBy key
      (updateWhere (matched copy (version copy)) (fun _ => value) rows) := by
  apply unique.updateWhere
  intro row hit
  rw [sameKey, (matched_iff.mp hit).1]

theorem updated_advances {rows : List Row} {copy value : Row} (fresh : Nat)
    (sameKey : key value = key copy)
    (grows : version copy ≤ version value) :
    Advances fresh rows
      (updateWhere (matched copy (version copy)) (fun _ => value) rows) := by
  intro stored member
  rcases mem_updated.mp member with ⟨kept, _⟩ | ⟨⟨old, kept, same⟩, written⟩
  · exact .inr ⟨stored, kept, rfl, Nat.le_refl _⟩
  · rw [written]
    refine .inr ⟨old, kept, ?_, ?_⟩
    · rw [sameKey, same.1]
    · rw [same.2]
      exact grows

/-- A write that hits its row leaves every other copy of that row stale. -/
theorem updated_stale {rows : List Row} {copy value other : Row}
    (unique : UniqueBy key rows) (current : Current rows copy)
    (grows : version copy < version value) (same : key other = key copy)
    (behind : Behind rows other) :
    Stale (updateWhere (matched copy (version copy)) (fun _ => value) rows)
      other := by
  obtain ⟨row, member, rowKey, rowVersion⟩ := current
  have below := behind row member (rowKey.trans same.symm)
  intro stored storedMember storedKey
  rcases mem_updated.mp storedMember with ⟨kept, differs⟩ | ⟨_, rfl⟩
  · have equal : stored = row :=
      unique.eq_of_mem kept member (storedKey.trans (same.trans rowKey.symm))
    rw [equal] at differs
    exact absurd ⟨rowKey, rowVersion⟩ differs
  · omega

theorem deleted_advances {rows : List Row} {copy : Row} (fresh : Nat) :
    Advances fresh rows
      (deleteWhere (matched copy (version copy)) rows) := by
  intro stored member
  exact .inr ⟨stored, (mem_deleted.mp member).1, rfl, Nat.le_refl _⟩

theorem appended_advances {rows : List Row} {row : Row} :
    Advances (key row) rows (rows ++ [row]) := by
  intro stored member
  rcases List.mem_append.mp member with kept | new
  · exact .inr ⟨stored, kept, rfl, Nat.le_refl _⟩
  · rw [List.mem_singleton.mp new]
    exact .inl (Nat.le_refl _)

theorem filter_matched {rows : List Row} {copy row : Row}
    (unique : UniqueBy key rows) (member : row ∈ rows)
    (sameKey : key row = key copy) (sameVersion : version row = version copy) :
    rows.filter (matched copy (version copy)) = [row] := by
  have hit : matched copy (version copy) row = true :=
    matched_iff.mpr ⟨sameKey, sameVersion⟩
  have only : ∀ other ∈ rows.filter (matched copy (version copy)),
      other = row := by
    intro other found
    obtain ⟨otherMember, otherHit⟩ := List.mem_filter.mp found
    exact unique.eq_of_mem otherMember member
      ((matched_iff.mp otherHit).1.trans sameKey.symm)
  have distinct : (rows.filter (matched copy (version copy))).Nodup :=
    (List.Nodup.of_map key unique).filter _
  exact List.perm_singleton.mp
    ((List.perm_ext_iff_of_nodup distinct (by simp)).mpr (by
      intro other
      constructor
      · intro found
        simp [only other found]
      · intro found
        rw [List.mem_singleton.mp found]
        exact List.mem_filter.mpr ⟨member, hit⟩))

end Versioned

end Notifications.Lib
