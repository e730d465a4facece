import Mathlib.Data.List.Basic

/-!
# Lines up to an empty one

A text of lines, an empty line and a rest, over any alphabet with a separator.
The text can be taken apart again exactly when none of its lines holds the
separator.
-/

set_option autoImplicit false

namespace Notifications.Lib

variable {α : Type} [DecidableEq α]

def headLines (separator : α) (text : List α) : List (List α) :=
  (text.splitOn separator).takeWhile (· ≠ [])

def afterLines (separator : α) (text : List α) : List α :=
  [separator].intercalate
    ((text.splitOn separator).dropWhile (· ≠ [])).tail

def sectioned (separator : α) (lines : List (List α)) (rest : List α) :
    List α :=
  lines.flatMap (· ++ [separator]) ++ separator :: rest

variable {separator : α}

theorem not_mem_of_splitOn (text : List α) :
    ∀ line ∈ text.splitOn separator, separator ∉ line := by
  induction text with
  | nil => simp
  | cons char rest ih =>
      rw [List.splitOn_cons_eq_if_modifyHead]
      split
      · simpa using ih
      · rename_i other
        cases parts : rest.splitOn separator with
        | nil => exact absurd parts (List.splitOn_ne_nil _ _)
        | cons first others =>
            rw [parts] at ih
            intro line member
            rcases List.mem_cons.mp member with rfl | later
            · have kept := ih first List.mem_cons_self
              have differs : separator ≠ char := by
                intro same
                exact other (by simp [same])
              simp [kept, differs]
            · exact ih line (List.mem_cons_of_mem _ later)

theorem not_mem_of_headLines {text line : List α}
    (member : line ∈ headLines separator text) : separator ∉ line :=
  not_mem_of_splitOn text line
    ((List.takeWhile_sublist _).subset member)

theorem splitOn_sectioned {lines : List (List α)} (rest : List α)
    (single : ∀ line ∈ lines, separator ∉ line) :
    (sectioned separator lines rest).splitOn separator =
      lines ++ [] :: rest.splitOn separator := by
  induction lines with
  | nil => simp [sectioned, List.splitOn_cons_eq_if_modifyHead]
  | cons line others ih =>
      have step : sectioned separator (line :: others) rest =
          line ++ separator :: sectioned separator others rest := by
        simp [sectioned]
      rw [step, List.splitOn_append_cons_self_of_not_mem
        (single line List.mem_cons_self),
        ih fun other member => single other (List.mem_cons_of_mem _ member)]
      rfl

/-- A sectioned text falls apart into its lines and its rest exactly when no
line holds the separator. -/
theorem sectioned_iff {lines : List (List α)} {rest : List α}
    (filled : ∀ line ∈ lines, line ≠ []) :
    (headLines separator (sectioned separator lines rest) = lines ∧
      afterLines separator (sectioned separator lines rest) = rest) ↔
      ∀ line ∈ lines, separator ∉ line := by
  constructor
  · intro facts line member
    obtain ⟨same, _⟩ := facts
    rw [← same] at member
    exact not_mem_of_headLines member
  · intro single
    have nonempty : ∀ line ∈ lines, decide (line ≠ []) = true := by
      intro line member
      exact decide_eq_true (filled line member)
    rw [headLines, afterLines, splitOn_sectioned rest single]
    constructor
    · rw [List.takeWhile_append_of_pos nonempty]
      simp
    · rw [List.dropWhile_append_of_pos nonempty]
      simp

end Notifications.Lib
