import Mathlib.Data.List.Basic

/-!
# Cutting a list into batches

Each batch takes what fits, and what no longer fits begins the next one.  When
a part of what fits fits as well, no other way to cut the list into batches
that fit needs fewer of them.
-/

set_option autoImplicit false

namespace Notifications.Lib.Batching

variable {α : Type} (fits : List α → Bool)

/-- The batches from the current one on.  The first item of a batch is not
tried. -/
def cut : List α → List α → List (List α)
  | current, [] => [current]
  | current, item :: rest =>
      if fits (current ++ [item]) then cut (current ++ [item]) rest
      else current :: cut [item] rest

variable {fits}

theorem cut_ne_nil (current rest : List α) : cut fits current rest ≠ [] := by
  induction rest generalizing current with
  | nil => simp [cut]
  | cons item rest ih =>
      rw [cut]
      split
      · exact ih _
      · simp

theorem flatten_cut (current rest : List α) :
    (cut fits current rest).flatten = current ++ rest := by
  induction rest generalizing current with
  | nil => simp [cut]
  | cons item rest ih =>
      rw [cut]
      split
      · simp [ih]
      · simp [ih]

/-- Only a batch that cannot be cut further may be too large. -/
theorem fits_of_mem_cut {current rest batch : List α}
    (start : fits current = true ∨ current.length ≤ 1)
    (member : batch ∈ cut fits current rest) :
    fits batch = true ∨ batch.length ≤ 1 := by
  induction rest generalizing current with
  | nil =>
      rw [cut, List.mem_singleton] at member
      rwa [member]
  | cons item rest ih =>
      rw [cut] at member
      split at member
      · rename_i fine
        exact ih (.inl fine) member
      · rcases List.mem_cons.mp member with rfl | later
        · exact start
        · exact ih (.inr (by simp)) later

theorem ne_nil_of_mem_cut {current rest batch : List α}
    (start : current ≠ []) (member : batch ∈ cut fits current rest) :
    batch ≠ [] := by
  induction rest generalizing current with
  | nil =>
      rw [cut, List.mem_singleton] at member
      rwa [member]
  | cons item rest ih =>
      rw [cut] at member
      split at member
      · exact ih (by simp) member
      · rcases List.mem_cons.mp member with rfl | later
        · exact start
        · exact ih (by simp) later

/-- There is an empty batch when there are no items, or when the first one does
not fit alone. -/
theorem nil_mem_cut_iff (items : List α) :
    [] ∈ cut fits [] items ↔
      items = [] ∨ ∃ item rest, items = item :: rest ∧ fits [item] = false := by
  cases items with
  | nil => simp [cut]
  | cons item rest =>
      rw [cut, List.nil_append]
      cases fine : fits [item] with
      | true =>
          have filled : [] ∉ cut fits [item] rest := fun member =>
            ne_nil_of_mem_cut (by simp) member rfl
          simp [filled, fine]
      | false => simp [fine]

/-- Another way to cut, whose batches may begin earlier: as long as they fit,
none of them reaches further. -/
theorem length_cut_le_of_split
    (part : ∀ before items after : List α,
      fits (before ++ items ++ after) = true → fits items = true)
    {lead current rest : List α} {others : List (List α)}
    (some : others ≠ []) (whole : others.flatten = lead ++ current ++ rest)
    (fine : ∀ batch ∈ others, fits batch = true) :
    (cut fits current rest).length ≤ others.length := by
  induction rest generalizing lead current others with
  | nil =>
      have positive := List.length_pos_iff.mpr some
      simp only [cut, List.length_singleton]
      omega
  | cons item rest ih =>
      rw [cut]
      split
      · have grown : others.flatten = lead ++ (current ++ [item]) ++ rest := by
          simp [whole]
        exact ih some grown fine
      · rename_i full
        cases others with
        | nil => exact absurd rfl some
        | cons first others =>
            rw [List.flatten_cons] at whole
            -- the first of the other batches ends before the item
            obtain ⟨tail, same, left⟩ : ∃ tail,
                lead ++ current = first ++ tail ∧
                  others.flatten = tail ++ [item] ++ rest := by
              rcases List.append_eq_append_iff.mp whole with
                ⟨tail, same, left⟩ | ⟨tail, same, left⟩
              · exact ⟨tail, same, by simp [left]⟩
              · cases tail with
                | nil =>
                    exact ⟨[], by simpa using same.symm, by simpa using left.symm⟩
                | cons other tail =>
                    obtain ⟨rfl, _⟩ := List.cons.inj left
                    have inside := fine first (by simp)
                    rw [same] at inside
                    exact absurd (part lead (current ++ [item]) tail
                      (by simpa using inside)) full
            have more : others ≠ [] := by
              rintro rfl
              simp at left
            have shorter := ih more left fun batch member =>
              fine batch (List.mem_cons_of_mem _ member)
            simp only [List.length_cons]
            omega

/-- No way to cut the list into batches that fit needs fewer. -/
theorem length_cut_le
    (part : ∀ before items after : List α,
      fits (before ++ items ++ after) = true → fits items = true)
    {items : List α} {others : List (List α)}
    (some : others ≠ []) (whole : others.flatten = items)
    (fine : ∀ batch ∈ others, fits batch = true) :
    (cut fits [] items).length ≤ others.length := by
  have started : others.flatten = [] ++ [] ++ items := by simp [whole]
  exact length_cut_le_of_split part some started fine

/-! ## Joined batches -/

section Join

variable (separator : List α)

theorem intercalate_suffix (before items : List (List α)) :
    separator.intercalate items <:+
      separator.intercalate (before ++ items) := by
  induction before with
  | nil => exact List.suffix_rfl
  | cons first before ih =>
      rw [List.cons_append]
      by_cases empty : before ++ items = []
      · obtain ⟨rfl, rfl⟩ := List.append_eq_nil_iff.mp empty
        exact List.nil_suffix
      · rw [List.intercalate_cons_of_ne_nil empty]
        exact ih.trans (List.suffix_append _ _)

theorem intercalate_prefix (items after : List (List α)) :
    separator.intercalate items <+:
      separator.intercalate (items ++ after) := by
  induction items with
  | nil => exact List.nil_prefix
  | cons first items ih =>
      cases items with
      | nil =>
          cases after with
          | nil => exact List.prefix_rfl
          | cons next after =>
              rw [List.singleton_append, List.intercalate_singleton,
                List.intercalate_cons_cons, List.append_assoc]
              exact List.prefix_append _ _
      | cons next items =>
          rw [List.cons_append, List.cons_append, List.intercalate_cons_cons,
            List.intercalate_cons_cons]
          exact (List.prefix_append_right_inj _).mpr ih

theorem intercalate_infix (before items after : List (List α)) :
    separator.intercalate items <:+:
      separator.intercalate (before ++ items ++ after) :=
  have later := intercalate_prefix separator (before ++ items) after
  (intercalate_suffix separator before items).isInfix.trans later.isInfix

end Join

end Notifications.Lib.Batching
