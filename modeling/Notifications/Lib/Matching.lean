import Notifications.Lib.Regexp

/-!
# Anchored patterns

A pattern between `^` and `$`, and patterns that start with a text that is
taken literally.  Where the ways to match matter, and not which of them comes
first, they are given by what a pattern takes from the text.
-/

set_option autoImplicit false

namespace Notifications.Lib.Regexp

def empty : Regexp := star fun _ => false

/-- `+` after a class. -/
def plus (accepts : Char → Bool) : Regexp := (one accepts).seq (star accepts)

/-- A text that is quoted, and a pattern after it. -/
def quoted (text : List Char) (next : Regexp) : Regexp :=
  text.foldr (fun char pattern => (literal char).seq pattern) next

/-- `FindSubmatch` of the pattern between `^` and `$`. -/
def findWhole (pattern : Regexp) (text : List Char) : Option Groups :=
  ((pattern.ways text).find? fun way => way.2.isEmpty).map Prod.fst

/-! ## What a pattern takes -/

section Ways

variable {groups : Groups} {text rest : List Char} {accepts : Char → Bool}

theorem mem_ways_empty :
    (groups, rest) ∈ empty.ways text ↔ groups = [] ∧ rest = text := by
  cases text with
  | nil => simp [empty, ways, starRests]
  | cons char later => simp [empty, ways, starRests]

theorem mem_starRests_iff :
    rest ∈ starRests accepts text ↔ ∃ repeated, text = repeated ++ rest ∧
      ∀ char ∈ repeated, accepts char = true := by
  constructor
  · exact mem_starRests
  · rintro ⟨repeated, rfl, all⟩
    induction repeated with
    | nil => cases rest with
      | nil => simp [starRests]
      | cons char later =>
          rw [List.nil_append, starRests]
          split <;> simp
    | cons char repeated ih =>
        rw [List.cons_append, starRests, if_pos (all char (.head _))]
        exact List.mem_append_left _ (ih fun other member =>
          all other (.tail _ member))

theorem mem_ways_star :
    (groups, rest) ∈ (star accepts).ways text ↔ groups = [] ∧
      ∃ repeated, text = repeated ++ rest ∧
        ∀ char ∈ repeated, accepts char = true := by
  rw [← mem_starRests_iff]
  simp only [ways, List.mem_map, Prod.mk.injEq]
  constructor
  · rintro ⟨_, member, rfl, rfl⟩
    exact ⟨rfl, member⟩
  · rintro ⟨rfl, member⟩
    exact ⟨rest, member, rfl, rfl⟩

theorem mem_ways_seq {first second : Regexp} :
    (groups, rest) ∈ (first.seq second).ways text ↔
      ∃ here middle later, (here, middle) ∈ first.ways text ∧
        (later, rest) ∈ second.ways middle ∧ groups = here ++ later := by
  simp only [ways, List.mem_flatMap, List.mem_map, Prod.mk.injEq,
    Prod.exists]
  constructor
  · rintro ⟨here, middle, one, later, _, other, rfl, rfl⟩
    exact ⟨here, middle, later, one, other, rfl⟩
  · rintro ⟨here, middle, later, one, other, rfl⟩
    exact ⟨here, middle, one, later, rest, other, rfl, rfl⟩

theorem mem_ways_one :
    (groups, rest) ∈ (one accepts).ways text ↔ groups = [] ∧
      ∃ char, text = char :: rest ∧ accepts char = true := by
  cases text with
  | nil => simp [ways]
  | cons char later =>
      rw [ways]
      split
      · rename_i accepted
        simp only [List.mem_singleton, Prod.mk.injEq, List.cons.injEq]
        constructor
        · rintro ⟨rfl, rfl⟩
          exact ⟨rfl, char, ⟨rfl, rfl⟩, accepted⟩
        · rintro ⟨rfl, _, ⟨rfl, rfl⟩, _⟩
          exact ⟨rfl, rfl⟩
      · rename_i refused
        constructor
        · simp
        · rintro ⟨_, _, same, accepted⟩
          cases same
          exact absurd accepted refused

theorem mem_ways_plus :
    (groups, rest) ∈ (plus accepts).ways text ↔ groups = [] ∧
      ∃ repeated, text = repeated ++ rest ∧ repeated ≠ [] ∧
        ∀ char ∈ repeated, accepts char = true := by
  rw [plus, mem_ways_seq]
  constructor
  · rintro ⟨here, middle, later, one, more, rfl⟩
    obtain ⟨rfl, char, rfl, accepted⟩ := mem_ways_one.mp one
    obtain ⟨rfl, repeated, rfl, all⟩ := mem_ways_star.mp more
    refine ⟨rfl, char :: repeated, rfl, List.cons_ne_nil _ _, ?_⟩
    intro other member
    rcases List.mem_cons.mp member with rfl | later
    · exact accepted
    · exact all other later
  · rintro ⟨rfl, repeated, rfl, filled, all⟩
    cases repeated with
    | nil => exact absurd rfl filled
    | cons char repeated =>
        refine ⟨[], repeated ++ rest, [], ?_, ?_, rfl⟩
        · exact mem_ways_one.mpr ⟨rfl, char, rfl, all char (.head _)⟩
        · exact mem_ways_star.mpr ⟨rfl, repeated, rfl,
            fun other member => all other (.tail _ member)⟩

theorem mem_ways_group {number : Nat} {inner : Regexp} :
    (groups, rest) ∈ (group number inner).ways text ↔
      ∃ within, (within, rest) ∈ inner.ways text ∧
        groups = (number, text.take (text.length - rest.length)) ::
          within := by
  simp only [ways, List.mem_map, Prod.mk.injEq, Prod.exists]
  constructor
  · rintro ⟨within, _, member, rfl, rfl⟩
    exact ⟨within, member, rfl⟩
  · rintro ⟨within, member, rfl⟩
    exact ⟨within, rest, member, rfl, rfl⟩

/-- A group around a repetition holds what is repeated. -/
theorem mem_ways_group_star {number : Nat} :
    (groups, rest) ∈ (group number (star accepts)).ways text ↔
      ∃ repeated, text = repeated ++ rest ∧ groups = [(number, repeated)] ∧
        ∀ char ∈ repeated, accepts char = true := by
  rw [mem_ways_group]
  constructor
  · rintro ⟨within, member, rfl⟩
    obtain ⟨rfl, repeated, rfl, all⟩ := mem_ways_star.mp member
    exact ⟨repeated, rfl, by simp, all⟩
  · rintro ⟨repeated, rfl, rfl, all⟩
    exact ⟨[], mem_ways_star.mpr ⟨rfl, repeated, rfl, all⟩, by simp⟩

theorem mem_ways_group_plus {number : Nat} :
    (groups, rest) ∈ (group number (plus accepts)).ways text ↔
      ∃ repeated, text = repeated ++ rest ∧ groups = [(number, repeated)] ∧
        repeated ≠ [] ∧ ∀ char ∈ repeated, accepts char = true := by
  rw [mem_ways_group]
  constructor
  · rintro ⟨within, member, rfl⟩
    obtain ⟨rfl, repeated, rfl, filled, all⟩ := mem_ways_plus.mp member
    exact ⟨repeated, rfl, by simp, filled, all⟩
  · rintro ⟨repeated, rfl, rfl, filled, all⟩
    exact ⟨[], mem_ways_plus.mpr ⟨rfl, repeated, rfl, filled, all⟩, by simp⟩

/-- A quoted text is taken away, or nothing matches. -/
theorem ways_quoted (quote : List Char) (next : Regexp) (text : List Char) :
    (quoted quote next).ways text =
      if quote.isPrefixOf text then next.ways (text.drop quote.length)
      else [] := by
  induction quote generalizing text with
  | nil => simp [quoted]
  | cons char quote ih =>
      cases text with
      | nil => simp [quoted, literal, ways]
      | cons other text =>
          by_cases same : other = char
          · subst same
            have step : (quoted (other :: quote) next).ways (other :: text) =
                (quoted quote next).ways text :=
              ways_literal_cons (quoted quote next) text
            rw [step, ih]
            simp [List.isPrefixOf]
          · have step : (quoted (char :: quote) next).ways (other :: text) =
                [] := ways_literal_ne (quoted quote next) same
            rw [step]
            simp [List.isPrefixOf, Ne.symm same]

theorem ways_quoted_append (quote : List Char) (next : Regexp)
    (text : List Char) :
    (quoted quote next).ways (quote ++ text) = next.ways text := by
  rw [ways_quoted, if_pos (by simp [List.isPrefixOf_iff_prefix])]
  simp

end Ways

/-! ## Searches -/

section Find

variable {pattern : Regexp} {text : List Char} {groups : Groups}

/-- Where all matches of the whole text have the same groups. -/
theorem findWhole_eq_some
    (only : ∀ other, (other, []) ∈ pattern.ways text → other = groups)
    (member : (groups, []) ∈ pattern.ways text) :
    pattern.findWhole text = some groups := by
  rw [findWhole]
  cases found : (pattern.ways text).find? fun way => way.2.isEmpty with
  | none =>
      have none := List.find?_eq_none.mp found (groups, []) member
      simp at none
  | some way =>
      have whole := List.find?_some found
      have listed := List.mem_of_find?_eq_some found
      obtain ⟨other, rest⟩ := way
      have nothing : rest = [] := by simpa using whole
      subst nothing
      rw [only other listed]
      rfl

theorem mem_of_findWhole (found : pattern.findWhole text = some groups) :
    (groups, []) ∈ pattern.ways text := by
  rw [findWhole, Option.map_eq_some_iff] at found
  obtain ⟨⟨_, rest⟩, way, rfl⟩ := found
  have whole := List.find?_some way
  have nothing : rest = [] := by simpa using whole
  subst nothing
  exact List.mem_of_find?_eq_some way

theorem exists_of_find (found : pattern.find text = some groups) :
    ∃ before rest later, text = before ++ rest ∧
      (groups, later) ∈ pattern.ways rest := by
  have first : ∀ {place : List Char},
      (pattern.ways place).head?.map Prod.fst = some groups →
        ∃ later, (groups, later) ∈ pattern.ways place := by
    intro place here
    obtain ⟨way, listed, rfl⟩ := Option.map_eq_some_iff.mp here
    exact ⟨way.2, List.mem_of_mem_head? listed⟩
  induction text with
  | nil =>
      obtain ⟨later, way⟩ := first found
      exact ⟨[], [], later, rfl, way⟩
  | cons char rest ih =>
      rw [find] at found
      rcases Option.or_eq_some_iff.mp found with here | ⟨_, further⟩
      · obtain ⟨later, way⟩ := first here
        exact ⟨[], char :: rest, later, rfl, way⟩
      · obtain ⟨before, place, later, same, way⟩ := ih further
        exact ⟨char :: before, place, later, by rw [same, List.cons_append],
          way⟩

end Find

/-! ## The only place to go on -/

/-- Where the rest of a pattern matches at one place only, a repetition before
it ends there. -/
theorem flatMap_starRests_only {β : Type} {accepts : Char → Bool}
    {continued : List Char → List β} {before later : List Char}
    (all : ∀ char ∈ before, accepts char = true)
    (longer : ∀ start, start ≠ [] → start <:+ before →
      continued (start ++ later) = [])
    (shorter : ∀ start rest, start ≠ [] → later = start ++ rest →
      continued rest = []) :
    (starRests accepts (before ++ later)).flatMap continued =
      continued later := by
  induction before with
  | nil =>
      rw [List.nil_append]
      cases later with
      | nil => simp [starRests]
      | cons char rest =>
          have nothing : (starRests accepts rest).flatMap continued = [] := by
            rw [List.flatMap_eq_nil_iff]
            intro place member
            obtain ⟨repeated, same, _⟩ := mem_starRests member
            exact shorter (char :: repeated) place (List.cons_ne_nil _ _)
              (by rw [same, List.cons_append])
          rw [starRests]
          split
          · rw [List.flatMap_append, nothing]
            simp
          · simp
  | cons char before ih =>
      have here := longer (char :: before) (List.cons_ne_nil _ _)
        (List.suffix_refl _)
      rw [List.cons_append, starRests, if_pos (all char (.head _)),
        List.flatMap_append,
        ih (fun other member => all other (.tail _ member))
          fun start filled ends => longer start filled
            (ends.trans (List.suffix_cons _ _))]
      rw [List.cons_append] at here
      simp [here]

end Notifications.Lib.Regexp
