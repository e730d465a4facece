import Mathlib.Data.List.Basic
import Mathlib.Data.List.TakeWhile

/-!
# Go's regular expressions

Patterns over characters, and all the ways in which one matches the start of a
text, the preferred one first: an earlier alternative comes before a later one,
and a longer repetition before a shorter one.  A search takes the first way at
the leftmost place where there is one.
-/

set_option autoImplicit false

namespace Notifications.Lib

inductive Regexp where
  /-- a character of a class -/
  | one (accepts : Char → Bool)
  /-- `*` after a class -/
  | star (accepts : Char → Bool)
  | seq (first second : Regexp)
  | alt (first second : Regexp)
  | group (number : Nat) (inner : Regexp)

namespace Regexp

abbrev Groups : Type := List (Nat × List Char)

/-- What is left after a repetition, the longest one first. -/
def starRests (accepts : Char → Bool) : List Char → List (List Char)
  | [] => [[]]
  | char :: rest =>
      if accepts char then
        starRests accepts rest ++ [char :: rest]
      else
        [char :: rest]

/-- The ways to match the start of a text, each with its groups and what is left
of the text. -/
def ways : Regexp → List Char → List (Groups × List Char)
  | one _, [] => []
  | one accepts, char :: rest => if accepts char then [([], rest)] else []
  | star accepts, text => (starRests accepts text).map fun rest => ([], rest)
  | seq first second, text =>
      (first.ways text).flatMap fun way =>
        (second.ways way.2).map fun later => (way.1 ++ later.1, later.2)
  | alt first second, text => first.ways text ++ second.ways text
  | group number inner, text =>
      (inner.ways text).map fun way =>
        ((number, text.take (text.length - way.2.length)) :: way.1, way.2)

/-- `FindSubmatch`: the groups of the first match. -/
def find (pattern : Regexp) : List Char → Option Groups
  | [] => (pattern.ways []).head?.map Prod.fst
  | char :: rest =>
      ((pattern.ways (char :: rest)).head?.map Prod.fst).or
        (pattern.find rest)

/-- The text of a group; it is empty for one that did not take part. -/
def submatch (groups : Groups) (number : Nat) : List Char :=
  (groups.lookup number).getD []

/-! ## Searches -/

theorem find_of_ways {pattern : Regexp} {text : List Char} {groups : Groups}
    (first : (pattern.ways text).head?.map Prod.fst = some groups) :
    pattern.find text = some groups := by
  cases text with
  | nil => exact first
  | cons char rest => rw [find, first, Option.some_or]

theorem find_of_no_ways {pattern : Regexp} {char : Char} {rest : List Char}
    (none : pattern.ways (char :: rest) = []) :
    pattern.find (char :: rest) = pattern.find rest := by
  rw [find, none]
  rfl

/-! ## Repetitions -/

section Repetitions

variable {accepts : Char → Bool} (next : Regexp)

theorem ways_star_seq_accepted {char : Char} {rest : List Char}
    (accepted : accepts char = true) :
    ((star accepts).seq next).ways (char :: rest) =
      ((star accepts).seq next).ways rest ++ next.ways (char :: rest) := by
  simp [ways, starRests, accepted]

theorem ways_star_seq_refused {char : Char} {rest : List Char}
    (refused : accepts char = false) :
    ((star accepts).seq next).ways (char :: rest) =
      next.ways (char :: rest) := by
  simp [ways, starRests, refused]

theorem starRests_head (text : List Char) :
    (starRests accepts text).head? = some (text.dropWhile accepts) := by
  induction text with
  | nil => rfl
  | cons char rest ih =>
      rw [starRests, List.dropWhile_cons]
      split
      · rw [List.head?_append, ih, Option.some_or]
      · rfl

theorem mem_starRests {text rest : List Char}
    (member : rest ∈ starRests accepts text) :
    ∃ repeated, text = repeated ++ rest ∧
      ∀ char ∈ repeated, accepts char = true := by
  induction text with
  | nil =>
      rw [starRests, List.mem_singleton] at member
      exact ⟨[], by simp [member], by simp⟩
  | cons char later ih =>
      rw [starRests] at member
      split at member
      · rename_i accepted
        rcases List.mem_append.mp member with earlier | last
        · obtain ⟨repeated, same, all⟩ := ih earlier
          refine ⟨char :: repeated, by rw [same, List.cons_append], ?_⟩
          intro other listed
          rcases List.mem_cons.mp listed with rfl | further
          · exact accepted
          · exact all other further
        · rw [List.mem_singleton] at last
          exact ⟨[], by simp [last], by simp⟩
      · rw [List.mem_singleton] at member
        exact ⟨[], by simp [member], by simp⟩

end Repetitions

/-! ## Up to a character -/

def literal (char : Char) : Regexp := one fun other => other == char

def except (char : Char) (other : Char) : Bool := other != char

theorem except_of_absent {char : Char} {text : List Char}
    (absent : char ∉ text) :
    ∀ other ∈ text, except char other = true := by
  intro other member
  simp only [except, bne_iff_ne]
  intro same
  exact absent (same ▸ member)

theorem takeWhile_dropWhile (accepts : Char → Bool) (text : List Char) :
    (text.dropWhile accepts).takeWhile accepts = [] := by
  induction text with
  | nil => rfl
  | cons char rest ih =>
      rw [List.dropWhile_cons]
      split
      · exact ih
      · rename_i refused
        rw [List.takeWhile_cons, if_neg refused]

section UpTo

variable {char : Char} (next : Regexp)

theorem ways_literal_cons (rest : List Char) :
    ((literal char).seq next).ways (char :: rest) = next.ways rest := by
  simp [literal, ways]

theorem ways_literal_ne {other : Char} {rest : List Char}
    (different : other ≠ char) :
    ((literal char).seq next).ways (other :: rest) = [] := by
  simp [literal, ways, different]

theorem ways_upTo {before rest : List Char} (absent : char ∉ before) :
    ((star (except char)).seq ((literal char).seq next)).ways
      (before ++ char :: rest) = next.ways rest := by
  induction before with
  | nil =>
      rw [List.nil_append, ways_star_seq_refused _ (by simp [except]),
        ways_literal_cons]
  | cons other before ih =>
      have different : other ≠ char := by
        intro same
        exact absent (same ▸ .head _)
      have later : char ∉ before := fun member => absent (.tail _ member)
      rw [List.cons_append,
        ways_star_seq_accepted _ (by simp [except, different]), ih later,
        ways_literal_ne _ different, List.append_nil]

theorem ways_upTo_absent {text : List Char} (absent : char ∉ text) :
    ((star (except char)).seq ((literal char).seq next)).ways text = [] := by
  induction text with
  | nil => simp [ways, starRests, literal]
  | cons other rest ih =>
      have different : other ≠ char := by
        intro same
        exact absent (same ▸ .head _)
      have later : char ∉ rest := fun member => absent (.tail _ member)
      rw [ways_star_seq_accepted _ (by simp [except, different]), ih later,
        ways_literal_ne _ different, List.append_nil]

end UpTo

/-! ## Back to the last occurrence -/

section Back

variable {β : Type} {accepts : Char → Bool} {char : Char}
  {continued : List Char → List β}

/-- Where the rest of the pattern starts with a character that no repetition
comes before. -/
theorem flatMap_starRests_absent
    (starts : ∀ rest, continued rest ≠ [] → ∃ later, rest = char :: later)
    {text : List Char} (absent : char ∉ text.takeWhile accepts)
    (accepted : accepts char = true) :
    (starRests accepts text).flatMap continued = [] := by
  rw [List.flatMap_eq_nil_iff]
  intro rest member
  by_contra goes
  obtain ⟨later, rfl⟩ := starts rest goes
  obtain ⟨repeated, rfl, all⟩ := mem_starRests member
  apply absent
  rw [List.takeWhile_append_of_pos all, List.takeWhile_cons, if_pos accepted]
  simp

/-- A repetition gives back no more than it has to: it ends at the last
occurrence of the character. -/
theorem flatMap_starRests_last
    (starts : ∀ rest, continued rest ≠ [] → ∃ later, rest = char :: later)
    {before later : List Char} (absent : char ∉ later.takeWhile accepts)
    (all : ∀ other ∈ before, accepts other = true)
    (accepted : accepts char = true)
    (goes : continued (char :: later) ≠ []) :
    ((starRests accepts (before ++ char :: later)).flatMap continued).head? =
      (continued (char :: later)).head? := by
  induction before with
  | nil =>
      rw [List.nil_append, starRests, if_pos accepted, List.flatMap_append,
        flatMap_starRests_absent starts absent accepted]
      simp
  | cons other before ih =>
      have rest := ih fun another member => all another (.tail _ member)
      rw [List.cons_append, starRests, if_pos (all other (.head _)),
        List.flatMap_append, List.head?_append, rest]
      cases found : continued (char :: later) with
      | nil => exact absurd found goes
      | cons first others => rfl

end Back

end Regexp

end Notifications.Lib
