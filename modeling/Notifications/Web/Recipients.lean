import Notifications.Lib.Regexp
import Notifications.Web.ErrorWriter
import Notifications.Web.KindIDs

/-!
# The recipients of `POST /emails`

`formatEmail` takes the address out of the `to` of a request, with a pattern
that need not match all of it, and the validator refuses what has no match.
-/

set_option autoImplicit false

namespace Notifications.Web

open Notifications.Lib

/-! ## The pattern -/

def addressFormat : Regexp :=
  (Regexp.star (Regexp.except '@')).seq
    ((Regexp.literal '@').seq (Regexp.star (Regexp.except '@')))

def bracketedFormat : Regexp :=
  (Regexp.star (Regexp.except '<')).seq ((Regexp.literal '<').seq
    ((Regexp.group 1 addressFormat).seq (Regexp.literal '>')))

def bareFormat : Regexp :=
  Regexp.group 2 ((Regexp.one (Regexp.except '<')).seq addressFormat)

def emailFormat : Regexp := bracketedFormat.alt bareFormat

/-- The first group, or else the second, of the first match. -/
def extracted (text : List Char) : Option (List Char) :=
  (emailFormat.find text).map fun groups =>
    if Regexp.submatch groups 1 ≠ [] then Regexp.submatch groups 1
    else Regexp.submatch groups 2

/-- `formatEmail`, for the value of `To`. -/
def formatEmail (address : String) : String :=
  if address = "" then ""
  else (extracted address.toList).elim invalidEmail String.ofList

example : formatEmail "The User <user@example.com>" = "user@example.com" := by
  decide +kernel

/-! ## The matches at the start of a text -/

/-- The first alternative matches `display<start@rest>later`, and `later` has no
bracket that the second repetition could go on to. -/
inductive Enclosed : List Char → List Char → Prop
  | intro {display start rest later : List Char} (noBracket : '<' ∉ display)
      (noAt : '@' ∉ start) (noOther : '@' ∉ rest)
      (last : '>' ∉ later.takeWhile (Regexp.except '@')) :
      Enclosed (display ++ '<' :: (start ++ '@' :: (rest ++ '>' :: later)))
        (start ++ '@' :: rest)

/-- The second alternative goes on to the second at sign, or to the end. -/
inductive Bare : List Char → List Char → Prop
  | intro {char : Char} {start rest later : List Char}
      (noBracket : char ≠ '<') (noAt : '@' ∉ start) (noOther : '@' ∉ rest)
      (ends : later.takeWhile (Regexp.except '@') = []) :
      Bare (char :: (start ++ '@' :: (rest ++ later)))
        (char :: (start ++ '@' :: rest))

theorem eq_append_of_mem {char : Char} {text : List Char}
    (member : char ∈ text) :
    ∃ before later, text = before ++ char :: later ∧ char ∉ before :=
  List.eq_append_cons_of_mem member

theorem eq_append_last {char : Char} {text : List Char}
    (member : char ∈ text) :
    ∃ before later, text = before ++ char :: later ∧ char ∉ later := by
  obtain ⟨before, later, same, absent⟩ :=
    List.eq_append_cons_of_mem (List.mem_reverse.mpr member)
  refine ⟨later.reverse, before.reverse, ?_, by simpa using absent⟩
  have turned := congrArg List.reverse same
  simpa using turned

theorem take_before (before rest : List Char) :
    (before ++ rest).take ((before ++ rest).length - rest.length) =
      before := by
  rw [List.length_append, Nat.add_sub_cancel]
  exact List.take_left' rfl

/-- The ways of the address in a text whose first at sign is known. -/
theorem ways_addressFormat {start rest : List Char} (noAt : '@' ∉ start) :
    addressFormat.ways (start ++ '@' :: rest) =
      (Regexp.starRests (Regexp.except '@') rest).map fun later =>
        ([], later) :=
  Regexp.ways_upTo _ noAt

theorem ways_addressFormat_absent {text : List Char} (noAt : '@' ∉ text) :
    addressFormat.ways text = [] :=
  Regexp.ways_upTo_absent _ noAt

/-- What the first alternative makes of a text after its first bracket, of which
some is left. -/
def closings (text later : List Char) : List (Regexp.Groups × List Char) :=
  ((Regexp.literal '>').ways later).map fun way =>
    ((1, text.take (text.length - later.length)) :: way.1, way.2)

theorem closings_bracket (text later : List Char) :
    closings text ('>' :: later) =
      [([(1, text.take (text.length - ('>' :: later).length))], later)] :=
  rfl

theorem starts_of_closings (text later : List Char)
    (closes : closings text later ≠ []) :
    ∃ rest, later = '>' :: rest := by
  cases later with
  | nil => exact absurd rfl closes
  | cons char rest =>
      by_cases same : char = '>'
      · exact ⟨rest, by rw [same]⟩
      · simp [closings, Regexp.literal, Regexp.ways, same] at closes

theorem ways_bracketedFormat {display start rest : List Char}
    (noBracket : '<' ∉ display) (noAt : '@' ∉ start) :
    bracketedFormat.ways (display ++ '<' :: (start ++ '@' :: rest)) =
      (Regexp.starRests (Regexp.except '@') rest).flatMap
        (closings (start ++ '@' :: rest)) := by
  rw [bracketedFormat, Regexp.ways_upTo _ noBracket]
  simp only [Regexp.ways, ways_addressFormat noAt, List.map_map,
    List.flatMap_map, Function.comp_def, List.cons_append, List.nil_append]
  rfl

theorem ways_of_enclosed {text address : List Char}
    (enclosed : Enclosed text address) :
    (bracketedFormat.ways text).head?.map Prod.fst =
      some [(1, address)] := by
  obtain ⟨noBracket, noAt, noOther, last⟩ := enclosed
  rename_i display start rest later
  have address := take_before (start ++ '@' :: rest) ('>' :: later)
  rw [List.append_assoc, List.cons_append] at address
  rw [ways_bracketedFormat noBracket noAt,
    Regexp.flatMap_starRests_last (starts_of_closings _) last
      (Regexp.except_of_absent noOther) rfl (by simp [closings_bracket]),
    closings_bracket, address]
  rfl

/-- There is a bracket between an at sign and the next one. -/
theorem enclosed_of_bracket {display start rest : List Char}
    (noBracket : '<' ∉ display) (noAt : '@' ∉ start)
    (bracket : '>' ∈ rest.takeWhile (Regexp.except '@')) :
    ∃ address,
      Enclosed (display ++ '<' :: (start ++ '@' :: rest)) address := by
  obtain ⟨kept, further, same, absent⟩ := eq_append_last bracket
  have all : ∀ char ∈ kept ++ '>' :: further,
      Regexp.except '@' char = true := by
    intro char member
    rw [← same] at member
    exact List.mem_takeWhile_imp member
  have noOther : '@' ∉ kept := by
    intro member
    exact absurd (all '@' (List.mem_append_left _ member)) (by decide)
  have split : rest = kept ++ '>' ::
      (further ++ rest.dropWhile (Regexp.except '@')) := by
    rw [← List.cons_append, ← List.append_assoc, ← same,
      List.takeWhile_append_dropWhile]
  have last : '>' ∉ (further ++ rest.dropWhile
      (Regexp.except '@')).takeWhile (Regexp.except '@') := by
    rw [List.takeWhile_append_of_pos fun char member =>
      all char (List.mem_append_right _ (.tail _ member)),
      Regexp.takeWhile_dropWhile, List.append_nil]
    exact absent
  refine ⟨start ++ '@' :: kept, ?_⟩
  rw [split]
  exact .intro noBracket noAt noOther last

/-- The first alternative matches, or the text has no part between brackets
that it could match. -/
theorem ways_bracketedFormat_nil {text : List Char}
    (none : ∀ address, ¬ Enclosed text address) :
    bracketedFormat.ways text = [] := by
  by_cases bracket : '<' ∈ text
  · obtain ⟨display, inner, rfl, noBracket⟩ := eq_append_of_mem bracket
    by_cases at_sign : '@' ∈ inner
    · obtain ⟨start, rest, rfl, noAt⟩ := eq_append_of_mem at_sign
      rw [ways_bracketedFormat noBracket noAt]
      apply Regexp.flatMap_starRests_absent (starts_of_closings _) ?_ rfl
      intro closed
      obtain ⟨address, enclosed⟩ :=
        enclosed_of_bracket noBracket noAt closed
      exact none address enclosed
    · rw [bracketedFormat, Regexp.ways_upTo _ noBracket]
      simp [Regexp.ways, ways_addressFormat_absent at_sign]
  · exact Regexp.ways_upTo_absent _ bracket

theorem ways_of_bare {text address : List Char} (bare : Bare text address) :
    (bareFormat.ways text).head?.map Prod.fst = some [(2, address)] := by
  obtain ⟨noBracket, noAt, noOther, ends⟩ := bare
  rename_i char start rest later
  have accepted : Regexp.except '<' char = true := by
    simp [Regexp.except, noBracket]
  have longest : (rest ++ later).dropWhile (Regexp.except '@') = later := by
    have split := List.takeWhile_append_dropWhile
      (p := Regexp.except '@') (l := later)
    rw [ends, List.nil_append] at split
    rw [List.dropWhile_append_of_pos (Regexp.except_of_absent noOther), split]
  have address := take_before (char :: (start ++ '@' :: rest)) later
  simp only [List.cons_append, List.append_assoc] at address
  simp only [bareFormat, Regexp.ways, accepted, if_true,
    ways_addressFormat noAt, List.flatMap_cons, List.flatMap_nil,
    List.append_nil, List.map_map, List.head?_map, Regexp.starRests_head,
    longest, Option.map_some, Function.comp_apply, address]

/-- The second alternative matches when there is an at sign after the first
character, which is not a bracket. -/
theorem bare_of_at {char : Char} {rest : List Char} (noBracket : char ≠ '<')
    (at_sign : '@' ∈ rest) : ∃ address, Bare (char :: rest) address := by
  obtain ⟨start, later, rfl, noAt⟩ := eq_append_of_mem at_sign
  refine ⟨char :: (start ++ '@' :: later.takeWhile (Regexp.except '@')), ?_⟩
  have noOther : '@' ∉ later.takeWhile (Regexp.except '@') := by
    intro member
    exact absurd (List.mem_takeWhile_imp member) (by decide)
  have bare := @Bare.intro char start _ _ noBracket noAt noOther
    (Regexp.takeWhile_dropWhile (Regexp.except '@') later)
  rwa [List.takeWhile_append_dropWhile] at bare

/-! ## What is extracted -/

theorem extracted_of_enclosed {text address : List Char}
    (enclosed : Enclosed text address) : extracted text = some address := by
  have first := ways_of_enclosed enclosed
  have nonempty : address ≠ [] := by
    obtain ⟨noBracket, noAt, noOther, last⟩ := enclosed
    simp
  have found : emailFormat.find text = some [(1, address)] := by
    apply Regexp.find_of_ways
    rw [emailFormat, Regexp.ways, List.head?_append, Option.map_or, first,
      Option.some_or]
  simp [extracted, found, Regexp.submatch, nonempty]

theorem extracted_of_bare {text address : List Char}
    (none : ∀ other, ¬ Enclosed text other) (bare : Bare text address) :
    extracted text = some address := by
  have found : emailFormat.find text = some [(2, address)] := by
    apply Regexp.find_of_ways
    rw [emailFormat, Regexp.ways, ways_bracketedFormat_nil none,
      List.nil_append]
    exact ways_of_bare bare
  simp [extracted, found, Regexp.submatch, List.lookup_cons]

def Unmatched (text : List Char) : Prop :=
  (∀ address, ¬ Enclosed text address) ∧ ∀ address, ¬ Bare text address

theorem ways_emailFormat_nil {text : List Char} (unmatched : Unmatched text) :
    emailFormat.ways text = [] := by
  rw [emailFormat, Regexp.ways, ways_bracketedFormat_nil unmatched.1,
    List.nil_append]
  cases text with
  | nil => rfl
  | cons char rest =>
      by_cases bracket : char = '<'
      · simp [bareFormat, Regexp.ways, bracket, Regexp.except]
      · by_cases at_sign : '@' ∈ rest
        · obtain ⟨address, bare⟩ := bare_of_at bracket at_sign
          exact absurd bare (unmatched.2 address)
        · simp [bareFormat, Regexp.ways, ways_addressFormat_absent at_sign,
            Regexp.except, bracket]

theorem extracted_of_unmatched {char : Char} {rest : List Char}
    (unmatched : Unmatched (char :: rest)) :
    extracted (char :: rest) = extracted rest := by
  rw [extracted, Regexp.find_of_no_ways (ways_emailFormat_nil unmatched),
    extracted]

theorem at_mem_of_enclosed {text address : List Char}
    (enclosed : Enclosed text address) : '@' ∈ address := by
  cases enclosed with
  | intro noBracket noAt noOther last => simp

theorem at_mem_of_bare {text address : List Char} (bare : Bare text address) :
    '@' ∈ address := by
  cases bare with
  | intro noBracket noAt noOther ends => simp

theorem unmatched_or_extracted (text : List Char) :
    Unmatched text ∨
      ∃ address, extracted text = some address ∧ '@' ∈ address := by
  by_cases enclosed : ∃ address, Enclosed text address
  · obtain ⟨address, enclosed⟩ := enclosed
    exact .inr ⟨address, extracted_of_enclosed enclosed,
      at_mem_of_enclosed enclosed⟩
  · have none : ∀ address, ¬ Enclosed text address := not_exists.mp enclosed
    by_cases bare : ∃ address, Bare text address
    · obtain ⟨address, bare⟩ := bare
      exact .inr ⟨address, extracted_of_bare none bare, at_mem_of_bare bare⟩
    · exact .inl ⟨none, not_exists.mp bare⟩

theorem at_mem_of_extracted {text address : List Char}
    (found : extracted text = some address) : '@' ∈ address := by
  induction text with
  | nil => cases found
  | cons char rest ih =>
      rcases unmatched_or_extracted (char :: rest) with
        unmatched | ⟨other, here, at_sign⟩
      · rw [extracted_of_unmatched unmatched] at found
        exact ih found
      · rw [here, Option.some.injEq] at found
        exact found ▸ at_sign

theorem extracted_eq_none {text : List Char} :
    extracted text = none ↔ ∀ rest, rest <:+ text → Unmatched rest := by
  constructor
  · intro missing rest ends
    induction text with
    | nil =>
        rw [List.suffix_nil.mp ends]
        rcases unmatched_or_extracted [] with unmatched | ⟨other, here, _⟩
        · exact unmatched
        · cases here
    | cons char later ih =>
        rcases unmatched_or_extracted (char :: later) with
          unmatched | ⟨other, here, _⟩
        · rcases List.suffix_cons_iff.mp ends with rfl | further
          · exact unmatched
          · rw [extracted_of_unmatched unmatched] at missing
            exact ih missing further
        · rw [here] at missing
          cases missing
  · intro all
    induction text with
    | nil => rfl
    | cons char later ih =>
        rw [extracted_of_unmatched (all _ (List.suffix_refl _))]
        apply ih
        intro rest ends
        exact all rest (ends.trans (List.suffix_cons char later))

/-! ## Well-formed addresses -/

theorem bracket_mem_of_enclosed {text address : List Char}
    (enclosed : Enclosed text address) : '<' ∈ text := by
  cases enclosed with
  | intro noBracket noAt noOther last => simp

/-- An address that stands alone is the whole match. -/
theorem extracted_alone {start rest : List Char} (nonempty : start ≠ [])
    (noAt : '@' ∉ start) (noOther : '@' ∉ rest)
    (noBracket : '<' ∉ start ++ '@' :: rest) :
    extracted (start ++ '@' :: rest) = some (start ++ '@' :: rest) := by
  have none : ∀ other, ¬ Enclosed (start ++ '@' :: rest) other :=
    fun _ enclosed => noBracket (bracket_mem_of_enclosed enclosed)
  cases start with
  | nil => exact absurd rfl nonempty
  | cons char start =>
      have different : char ≠ '<' := by
        intro same
        apply noBracket
        simp [same]
      have bare := @Bare.intro char start rest [] different
        (fun member => noAt (.tail _ member)) noOther rfl
      rw [List.append_nil] at bare
      exact extracted_of_bare none bare

theorem formatEmail_of_extracted {address found : String}
    (extracts : extracted address.toList = some found.toList) :
    formatEmail address = found := by
  have nonempty : address ≠ "" := by
    intro empty
    rw [empty] at extracts
    cases extracts
  rw [formatEmail, if_neg nonempty, extracts]
  exact String.ofList_toList

def Plain (text : String) : Prop :=
  ∀ char ∈ text.toList, char ≠ '@' ∧ char ≠ '<' ∧ char ≠ '>'

instance (text : String) : Decidable (Plain text) :=
  List.decidableBAll _ text.toList

theorem Plain.absent {text : String} (plain : Plain text) :
    '@' ∉ text.toList ∧ '<' ∉ text.toList :=
  ⟨fun member => (plain _ member).1 rfl,
    fun member => (plain _ member).2.1 rfl⟩

section WellFormed

variable {display start rest : String}

theorem formatEmail_enclosed (noBracket : '<' ∉ display.toList)
    (plainStart : Plain start) (plainRest : Plain rest) :
    formatEmail (display ++ "<" ++ (start ++ "@" ++ rest) ++ ">") =
      start ++ "@" ++ rest := by
  have enclosed := @Enclosed.intro display.toList start.toList rest.toList []
    noBracket plainStart.absent.1 plainRest.absent.1 (by simp)
  apply formatEmail_of_extracted
  have found := extracted_of_enclosed enclosed
  simpa using found

theorem formatEmail_alone (nonempty : start ≠ "") (plainStart : Plain start)
    (plainRest : Plain rest) :
    formatEmail (start ++ "@" ++ rest) = start ++ "@" ++ rest := by
  have found := @extracted_alone start.toList rest.toList
    (by simpa using nonempty) plainStart.absent.1 plainRest.absent.1
    (by simp [plainStart.absent, plainRest.absent])
  apply formatEmail_of_extracted
  simpa using found

/-- A well-formed address is taken out of what surrounds it, and is left as it
is when it stands alone. -/
theorem formatEmail_exact (display start rest : String)
    (noBracket : '<' ∉ display.toList) (plainStart : Plain start)
    (plainRest : Plain rest) :
    let address := start ++ "@" ++ rest
    let named := display ++ "<" ++ address ++ ">"
    formatEmail named = address ∧
    (start ≠ "" → formatEmail address = address ∧
      ∀ recipient ∈ [named, address],
        formatEmail (formatEmail recipient) = formatEmail recipient) := by
  intro address named
  have taken : formatEmail named = address :=
    formatEmail_enclosed noBracket plainStart plainRest
  refine ⟨taken, ?_⟩
  intro nonempty
  have kept : formatEmail address = address :=
    formatEmail_alone nonempty plainStart plainRest
  refine ⟨kept, ?_⟩
  intro recipient member
  rcases List.mem_cons.mp member with rfl | other
  · rw [taken, kept]
  · rw [List.mem_singleton.mp other, kept, kept]

theorem formatEmail_exact_sample :
    let address := "user" ++ "@" ++ "example.com"
    let named := "The > @ User " ++ "<" ++ address ++ ">"
    formatEmail named = address ∧
    ("user" ≠ "" → formatEmail address = address ∧
      ∀ recipient ∈ [named, address],
        formatEmail (formatEmail recipient) = formatEmail recipient) :=
  formatEmail_exact "The > @ User " "user" "example.com"
    (by decide +kernel) (by decide +kernel) (by decide +kernel)

end WellFormed

/-! ## What the validator lets through -/

/-- An address `start@rest` with two parts, in which nothing could end it. -/
def Plausible (address : List Char) : Prop :=
  ∃ start rest, address = start ++ '@' :: rest ∧ start ≠ [] ∧ rest ≠ [] ∧
    ∀ char ∈ start ++ rest, char ∉ ['@', '<', '>', '\r', '\n']

/-- The text between the first `<` and the next `>`. -/
def bracketedPart (text : List Char) : Option (List Char) :=
  match text.dropWhile (Regexp.except '<') with
  | [] => none
  | _ :: inner =>
      if '>' ∈ inner then some (inner.takeWhile (Regexp.except '>')) else none

/-- The address is plausible, and is all of the recipient or of its part
between brackets. -/
def Proper (recipient address : String) : Prop :=
  Plausible address.toList ∧
    (address = recipient ∨
      bracketedPart recipient.toList = some address.toList)

/-- The answer to a notification that the validator refuses. -/
def refusalCode (validation : Except Refusal NotifyParams) : Option Nat :=
  match validation with
  | .ok _ => none
  | .error refusal => (ErrorWriter.write refusal).map Written.code

/-- What is accepted has a proper address, and every other recipient is invalid
and answered with 422. -/
def AcceptsProper (recipient : String) : Prop :=
  ∀ parameters : NotifyParams,
    let notify := { parameters with toAddress := formatEmail recipient }
    (EmailValidator.validate notify = [] →
      Proper recipient notify.toAddress) ∧
    (recipient ≠ "" → ¬ Proper recipient notify.toAddress →
      notify.toAddress = invalidEmail ∧
        refusalCode (validated .email (.ok notify)) = some 422)

/-- There is no at sign, or there is one, with nothing but opening brackets
before it, and not between two brackets. -/
def Hidden (text : List Char) : Prop :=
  '@' ∉ text ∨ ∃ brackets rest, text = brackets ++ '@' :: rest ∧
    (∀ char ∈ brackets, char = '<') ∧ '@' ∉ rest ∧
    (brackets = [] ∨ '>' ∉ rest)

theorem Plausible.absent {address : List Char} {special : Char}
    (likely : Plausible address)
    (listed : special ∈ ['<', '>', '\r', '\n']) : special ∉ address := by
  obtain ⟨start, rest, rfl, _, _, plain⟩ := likely
  have refused : special ∈ ['@', '<', '>', '\r', '\n'] := .tail _ listed
  have different : special ≠ '@' := by
    intro same
    rw [same] at listed
    exact absurd listed (by decide)
  intro member
  rcases List.mem_append.mp member with left | right
  · exact plain _ (List.mem_append_left _ left) refused
  · rcases List.mem_cons.mp right with same | right
    · exact different same
    · exact plain _ (List.mem_append_right _ right) refused

theorem extracted_whole {text : List Char} (likely : Plausible text) :
    extracted text = some text := by
  have noBracket := @Plausible.absent _ '<' likely (by decide)
  obtain ⟨start, rest, rfl, nonempty, _, plain⟩ := likely
  exact extracted_alone nonempty
    (fun member => plain _ (List.mem_append_left _ member) (by decide))
    (fun member => plain _ (List.mem_append_right _ member) (by decide))
    noBracket

theorem bracketedPart_eq {display inner later : List Char}
    (noBracket : '<' ∉ display) (unclosed : '>' ∉ inner) :
    bracketedPart (display ++ '<' :: (inner ++ '>' :: later)) = some inner := by
  unfold bracketedPart
  rw [List.dropWhile_append_of_pos (Regexp.except_of_absent noBracket),
    List.dropWhile_cons_of_neg (by decide)]
  simp only [List.mem_append, List.mem_cons, true_or, or_true, if_true,
    Option.some.injEq]
  rw [List.takeWhile_append_of_pos (Regexp.except_of_absent unclosed),
    List.takeWhile_cons_of_neg (by decide), List.append_nil]

theorem bracketedPart_some {text inner : List Char}
    (part : bracketedPart text = some inner) :
    ∃ display later, text = display ++ '<' :: (inner ++ '>' :: later) ∧
      '<' ∉ display := by
  by_cases bracket : '<' ∈ text
  · obtain ⟨display, after, rfl, noBracket⟩ := eq_append_of_mem bracket
    by_cases closed : '>' ∈ after
    · obtain ⟨between, later, rfl, unclosed⟩ := eq_append_of_mem closed
      rw [bracketedPart_eq noBracket unclosed, Option.some.injEq] at part
      exact ⟨display, later, by rw [part], noBracket⟩
    · unfold bracketedPart at part
      rw [List.dropWhile_append_of_pos (Regexp.except_of_absent noBracket),
        List.dropWhile_cons_of_neg (by decide)] at part
      simp only [if_neg closed] at part
      cases part
  · unfold bracketedPart at part
    rw [List.dropWhile_eq_nil_iff.mpr (Regexp.except_of_absent bracket)] at part
    cases part

/-- A plausible part between brackets is one for which the first alternative
matches, though it may go on to a later bracket. -/
theorem enclosed_of_part {text inner : List Char}
    (part : bracketedPart text = some inner) (likely : Plausible inner) :
    ∃ address, Enclosed text address := by
  obtain ⟨display, later, rfl, noBracket⟩ := bracketedPart_some part
  obtain ⟨start, rest, rfl, _, _, plain⟩ := likely
  have noAt : '@' ∉ start :=
    fun member => plain _ (List.mem_append_left _ member) (by decide)
  have noOther : '@' ∉ rest :=
    fun member => plain _ (List.mem_append_right _ member) (by decide)
  rw [List.append_assoc, List.cons_append]
  apply enclosed_of_bracket noBracket noAt
  rw [List.takeWhile_append_of_pos (Regexp.except_of_absent noOther),
    List.takeWhile_cons_of_pos (by decide)]
  simp

/-! ## Texts without a match -/

theorem unmatched_of_absent {text : List Char} (absent : '@' ∉ text) :
    Unmatched text := by
  constructor
  · intro address enclosed
    cases enclosed with
    | intro noBracket noAt noOther last => simp at absent
  · intro address bare
    cases bare with
    | intro noBracket noAt noOther ends => simp at absent

/-- Brackets and an at sign, with no closing bracket after it. -/
theorem unmatched_of_brackets {brackets rest : List Char}
    (all : ∀ char ∈ brackets, char = '<') (noOther : '@' ∉ rest)
    (closed : brackets = [] ∨ '>' ∉ rest) :
    Unmatched (brackets ++ '@' :: rest) := by
  have noAt : '@' ∉ brackets := by
    intro member
    exact absurd (all '@' member) (by decide)
  have parts : ∀ before later, brackets ++ '@' :: rest = before ++ '@' :: later →
      brackets = before ∧ rest = later := by
    intro before later same
    obtain ⟨left, _, right⟩ :=
      (List.append_cons_inj_of_notMem noAt noOther).mp same
    exact ⟨left, right⟩
  constructor
  · intro address enclosed
    generalize split : brackets ++ '@' :: rest = text at enclosed
    cases enclosed with
    | @intro display start inner later noBracket _ _ last =>
        rw [← List.cons_append, ← List.append_assoc] at split
        obtain ⟨left, right⟩ := parts _ _ split
        rcases closed with empty | absent
        · simp [empty] at left
        · simp [right] at absent
  · intro address bare
    generalize split : brackets ++ '@' :: rest = text at bare
    cases bare with
    | @intro char start inner later noBracket _ _ ends =>
        rw [← List.cons_append] at split
        obtain ⟨left, _⟩ := parts _ _ split
        exact noBracket (all char (left ▸ .head _))

theorem hidden_of_unmatched {text : List Char}
    (all : ∀ rest, rest <:+ text → Unmatched rest) : Hidden text := by
  by_cases at_sign : '@' ∈ text
  · obtain ⟨brackets, rest, rfl, _⟩ := eq_append_of_mem at_sign
    have own := all ('@' :: rest) (List.suffix_append brackets _)
    have noOther : '@' ∉ rest := by
      intro other
      obtain ⟨address, bare⟩ := @bare_of_at '@' rest (by decide) other
      exact own.2 address bare
    refine .inr ⟨brackets, rest, rfl, ?_, noOther, ?_⟩
    · intro char member
      by_contra noBracket
      obtain ⟨before, later, rfl⟩ := List.append_of_mem member
      obtain ⟨address, bare⟩ := @bare_of_at char (later ++ '@' :: rest)
        noBracket (by simp)
      apply (all _ ?_).2 address bare
      rw [List.append_assoc]
      exact List.suffix_append before _
    · by_cases empty : brackets = []
      · exact .inl empty
      · refine .inr ?_
        intro closed
        obtain ⟨before, last, rfl⟩ :=
          (List.eq_nil_or_concat' brackets).resolve_left empty
        have bracket : last = '<' := by
          by_contra noBracket
          obtain ⟨address, bare⟩ := @bare_of_at last ('@' :: rest) noBracket
            (.head _)
          apply (all _ ?_).2 address bare
          rw [List.append_assoc]
          exact List.suffix_append before _
        have inside : '>' ∈ rest.takeWhile (Regexp.except '@') := by
          rwa [List.takeWhile_eq_self_iff.mpr (Regexp.except_of_absent noOther)]
        obtain ⟨address, enclosed⟩ := @enclosed_of_bracket [] [] rest
          (by simp) (by simp) inside
        apply (all _ ?_).1 address enclosed
        rw [bracket, List.append_assoc]
        exact List.suffix_append before _
  · exact .inl at_sign

theorem extracted_none_iff (text : List Char) :
    extracted text = none ↔ Hidden text := by
  rw [extracted_eq_none]
  refine ⟨hidden_of_unmatched, ?_⟩
  intro hidden rest ends
  rcases hidden with absent | ⟨brackets, later, rfl, all, noOther, closed⟩
  · exact unmatched_of_absent fun member => absent (ends.subset member)
  · rcases List.suffix_or_suffix_of_suffix ends
        (List.suffix_append brackets ('@' :: later)) with inside | around
    · rcases List.suffix_cons_iff.mp inside with rfl | further
      · exact @unmatched_of_brackets [] later (by simp) noOther (.inl rfl)
      · exact unmatched_of_absent fun member => noOther (further.subset member)
    · obtain ⟨kept, rfl⟩ := around
      obtain ⟨before, same⟩ := ends
      rw [← List.append_assoc, List.append_left_inj] at same
      subst same
      refine unmatched_of_brackets
        (fun char member => all char (List.mem_append_right _ member))
        noOther ?_
      rcases closed with empty | absent
      · exact .inl (List.append_eq_nil_iff.mp empty).2
      · exact .inr absent

/-! ## Exactly the proper recipients -/

theorem formatEmail_eq {recipient : String} (nonempty : recipient ≠ "") :
    formatEmail recipient =
      (extracted recipient.toList).elim invalidEmail String.ofList :=
  if_neg nonempty

theorem formatEmail_eq_invalidEmail {recipient : String}
    (nonempty : recipient ≠ "") :
    formatEmail recipient = invalidEmail ↔ Hidden recipient.toList := by
  rw [← extracted_none_iff, formatEmail_eq nonempty]
  cases found : extracted recipient.toList with
  | none => simp
  | some address =>
      have at_sign := at_mem_of_extracted found
      refine iff_of_false ?_ (by simp)
      intro same
      have listed : address = invalidEmail.toList := by
        rw [← same]
        simp
      rw [listed] at at_sign
      exact absurd at_sign (by decide)

theorem bracketedPart_of_enclosed {text address : List Char}
    (enclosed : Enclosed text address) (likely : Plausible address) :
    bracketedPart text = some address := by
  have unclosed := @Plausible.absent _ '>' likely (by decide)
  cases enclosed with
  | @intro display start rest later noBracket _ _ last =>
      have part := @bracketedPart_eq display _ later noBracket unclosed
      rwa [List.append_assoc, List.cons_append] at part

theorem proper_iff {recipient : String} (nonempty : recipient ≠ "") :
    Proper recipient (formatEmail recipient) ↔
      Plausible recipient.toList ∨
        ∃ address, Enclosed recipient.toList address ∧
          Plausible address := by
  constructor
  · intro proper
    obtain ⟨likely, whole | part⟩ := proper
    · rw [whole] at likely
      exact .inl likely
    · obtain ⟨address, enclosed⟩ := enclosed_of_part part likely
      refine .inr ⟨address, enclosed, ?_⟩
      rw [formatEmail_eq nonempty, extracted_of_enclosed enclosed] at likely
      simpa using likely
  · intro recipients
    rcases recipients with likely | ⟨address, enclosed, likely⟩
    · have kept : formatEmail recipient = recipient :=
        formatEmail_of_extracted (extracted_whole likely)
      rw [kept]
      exact ⟨likely, .inl rfl⟩
    · have taken : (formatEmail recipient).toList = address := by
        rw [formatEmail_eq nonempty, extracted_of_enclosed enclosed]
        simp
      rw [Proper, taken]
      exact ⟨likely, .inr (bracketedPart_of_enclosed enclosed likely)⟩

/-- The validator answers an invalid address with 422. -/
theorem validated_invalidEmail {parameters : NotifyParams}
    (invalid : parameters.toAddress = invalidEmail) :
    EmailValidator.validate parameters ≠ [] ∧
      refusalCode (validated .email (.ok parameters)) = some 422 := by
  have errors : EmailValidator.validate parameters ≠ [] := by
    simp [EmailValidator.validate, invalid]
  refine ⟨errors, ?_⟩
  unfold validated validatorOf
  dsimp only
  split
  · rename_i accepted
    exact absurd accepted errors
  · rfl

/-- The validator lets only proper addresses through exactly for the recipients
that have one themselves, and those whose at sign the pattern does not find. -/
theorem acceptsProper_iff (recipient : String) :
    AcceptsProper recipient ↔
      recipient = "" ∨ Hidden recipient.toList ∨
        Plausible recipient.toList ∨
          ∃ address, Enclosed recipient.toList address ∧
            Plausible address := by
  by_cases empty : recipient = ""
  · refine iff_of_true ?_ (.inl empty)
    intro parameters
    refine ⟨?_, fun nonempty => absurd empty nonempty⟩
    intro accepted
    simp [EmailValidator.validate, empty, formatEmail] at accepted
  · rw [← proper_iff empty, ← formatEmail_eq_invalidEmail empty]
    constructor
    · intro accepts
      refine .inr ?_
      by_cases invalid : formatEmail recipient = invalidEmail
      · exact .inl invalid
      · refine .inr ?_
        by_contra improper
        exact invalid ((accepts plainParameters).2 empty improper).1
    · intro recipients parameters
      rcases recipients with wrong | invalid | proper
      · exact absurd wrong empty
      · have refused := @validated_invalidEmail
          { parameters with toAddress := formatEmail recipient } invalid
        exact ⟨fun accepted => absurd accepted refused.1,
          fun _ _ => ⟨invalid, refused.2⟩⟩
      · exact ⟨fun _ => proper, fun _ improper => absurd proper improper⟩

/-- An address without its parts, and one that is cut off before its second at
sign. -/
theorem implausible_accepted :
    (formatEmail "<@>" = "@" ∧ ¬ AcceptsProper "<@>") ∧
    formatEmail "me@example.com@example.org" = "me@example.com" ∧
      ¬ AcceptsProper "me@example.com@example.org" := by
  have bare : formatEmail "<@>" = "@" := by decide +kernel
  have cut : formatEmail "me@example.com@example.org" = "me@example.com" := by
    decide +kernel
  refine ⟨⟨bare, ?_⟩, cut, ?_⟩
  · intro accepts
    have proper := (accepts plainParameters).1 (by rw [bare]; decide)
    rw [bare] at proper
    obtain ⟨start, rest, same, nonempty, _, _⟩ := proper.1
    have long := congrArg List.length same
    have counted : start.length ≠ 0 := by simpa using nonempty
    simp at long
    omega
  · intro accepts
    have proper := (accepts plainParameters).1 (by rw [cut]; decide)
    rw [cut] at proper
    exact absurd proper.2 (by decide +kernel)

end Notifications.Web
