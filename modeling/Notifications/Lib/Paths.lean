import Notifications.Lib.Lines

/-!
# Rooted paths

Go's `path.Clean`, on a path that starts with a slash.  What is left is made of
proper elements only, and a path of proper elements is left as it is.
-/

set_option autoImplicit false

namespace Notifications.Lib

/-- The elements that are left, the last one first.  Empty ones and `.` go, and
`..` takes the one before it along. -/
def keptElements (kept : List (List Char)) :
    List (List Char) → List (List Char)
  | [] => kept
  | element :: rest =>
      if element = [] ∨ element = ['.'] then
        keptElements kept rest
      else if element = ['.', '.'] then
        keptElements kept.tail rest
      else
        keptElements (element :: kept) rest

/-- The path of these elements; without any it is the root. -/
def rooted (elements : List (List Char)) : List Char :=
  if elements = [] then ['/']
  else elements.flatMap fun element => '/' :: element

/-- `path.Clean`. -/
def cleanRooted (path : List Char) : List Char :=
  rooted (keptElements [] (path.splitOn '/')).reverse

structure Proper (element : List Char) : Prop where
  filled : element ≠ []
  notDot : element ≠ ['.']
  notDots : element ≠ ['.', '.']
  single : '/' ∉ element

/-! ## What is left -/

section Kept

variable {kept elements : List (List Char)}

theorem keptElements_proper (proper : ∀ element ∈ kept, Proper element)
    (single : ∀ element ∈ elements, '/' ∉ element) :
    ∀ element ∈ keptElements kept elements, Proper element := by
  induction elements generalizing kept with
  | nil => exact proper
  | cons first rest ih =>
      have later : ∀ element ∈ rest, '/' ∉ element :=
        fun element member => single element (.tail _ member)
      rw [keptElements]
      split
      · exact ih proper later
      · rename_i plain
        obtain ⟨filled, notDot⟩ := not_or.mp plain
        split
        · apply ih _ later
          intro element member
          exact proper element (List.mem_of_mem_tail member)
        · rename_i notDots
          apply ih _ later
          intro element member
          rcases List.mem_cons.mp member with rfl | old
          · exact ⟨filled, notDot, notDots, single element (.head _)⟩
          · exact proper element old

theorem keptElements_of_proper
    (proper : ∀ element ∈ elements, Proper element) :
    keptElements kept elements = elements.reverse ++ kept := by
  induction elements generalizing kept with
  | nil => rfl
  | cons first rest ih =>
      have here := proper first (.head _)
      rw [keptElements, if_neg (not_or.mpr ⟨here.filled, here.notDot⟩),
        if_neg here.notDots, ih fun element member =>
          proper element (.tail _ member)]
      simp

theorem keptElements_append_nil :
    keptElements kept (elements ++ [[]]) = keptElements kept elements := by
  induction elements generalizing kept with
  | nil => rfl
  | cons first rest ih =>
      rw [List.cons_append, keptElements, keptElements, ih, ih, ih]

end Kept

/-! ## Paths of elements -/

section Rooted

variable {elements : List (List Char)}

theorem rooted_cons (first : List Char) (rest : List (List Char)) :
    rooted (first :: rest) =
      '/' :: first ++ rest.flatMap fun element => '/' :: element := by
  rw [rooted, if_neg (List.cons_ne_nil first rest), List.flatMap_cons]

theorem splitOn_flatMap {first : List Char} (alone : '/' ∉ first)
    (single : ∀ element ∈ elements, '/' ∉ element) :
    (first ++ elements.flatMap fun element => '/' :: element).splitOn '/' =
      first :: elements := by
  induction elements generalizing first with
  | nil =>
      rw [List.flatMap_nil, List.append_nil]
      exact List.splitOn_eq_singleton alone
  | cons second rest ih =>
      rw [List.flatMap_cons, List.cons_append,
        List.splitOn_append_cons_self_of_not_mem alone,
        ih (single second (.head _))
          fun element member => single element (.tail _ member)]

theorem rooted_starts (elements : List (List Char)) :
    (rooted elements).head? = some '/' := by
  cases elements with
  | nil => rfl
  | cons first rest =>
      rw [rooted_cons]
      rfl

/-- The last character is a slash for the root only. -/
theorem rooted_ends (proper : ∀ element ∈ elements, Proper element)
    (more : elements ≠ []) : (rooted elements).getLast? ≠ some '/' := by
  obtain ⟨before, last, rfl⟩ :=
    (List.eq_nil_or_concat' elements).resolve_left more
  have element := proper last (by simp)
  rw [rooted, if_neg more, List.flatMap_append, List.flatMap_singleton,
    List.getLast?_append]
  obtain ⟨start, char, same⟩ :=
    (List.eq_nil_or_concat' last).resolve_left element.filled
  subst same
  have single := element.single
  simp only [List.mem_append, List.mem_singleton, not_or] at single
  simp [List.getLast?_cons, Ne.symm single.2]

theorem cleanRooted_proper (path : List Char) :
    ∃ elements, (∀ element ∈ elements, Proper element) ∧
      cleanRooted path = rooted elements := by
  refine ⟨(keptElements [] (path.splitOn '/')).reverse, ?_, rfl⟩
  intro element member
  have proper := @keptElements_proper [] (path.splitOn '/') (by simp)
    (not_mem_of_splitOn path)
  exact proper element (List.mem_reverse.mp member)

section Clean

variable (proper : ∀ element ∈ elements, Proper element)
include proper

theorem cleanRooted_rooted : cleanRooted (rooted elements) = rooted elements := by
  by_cases root : elements = []
  · subst root
    decide
  · have single : ∀ element ∈ elements, '/' ∉ element :=
      fun element member => (proper element member).single
    have split : (rooted elements).splitOn '/' = [] :: elements := by
      rw [rooted, if_neg root]
      exact @splitOn_flatMap _ [] List.not_mem_nil single
    rw [cleanRooted, split, keptElements, if_pos (Or.inl rfl),
      keptElements_of_proper proper]
    simp

theorem cleanRooted_concat :
    cleanRooted (rooted elements ++ ['/']) = rooted elements := by
  have split : (rooted elements ++ ['/']).splitOn '/' =
      (rooted elements).splitOn '/' ++ [[]] :=
    List.splitOn_append_cons_self (rooted elements) []
  rw [cleanRooted, split, keptElements_append_nil]
  exact cleanRooted_rooted proper

end Clean

end Rooted

end Notifications.Lib
