import Notifications.Lib.Escape
import Notifications.Web.Mux
import Notifications.Web.Preferences

/-!
# How the handlers read their paths

No handler asks the router for its variables.  Each takes them from the path
once more: with `strings.TrimPrefix`, with `strings.Split`, or with a regular
expression of its own, in which a dot does not match the end of a line.  One of
them splits the URL, and not the path.
-/

set_option autoImplicit false

namespace Notifications.Lib

/-! ## Splitting at a text -/

/-- What is before the first occurrence of a text, and what is after it. -/
def cut (part : List Char) : List Char → Option (List Char × List Char)
  | [] => if part = [] then some ([], []) else none
  | char :: rest =>
      if part.isPrefixOf (char :: rest) then
        some ([], (char :: rest).drop part.length)
      else
        (cut part rest).map fun parts => (char :: parts.1, parts.2)

/-- `strings.Split(text, part)[1]`; `none` is a panic. -/
def afterCut (part text : List Char) : Option (List Char) :=
  (cut part text).map fun parts =>
    ((cut part parts.2).map Prod.fst).getD parts.2

theorem cut_append (part rest : List Char) (filled : part ≠ []) :
    cut part (part ++ rest) = some ([], rest) := by
  cases part with
  | nil => exact absurd rfl filled
  | cons char part =>
      rw [List.cons_append, cut, if_pos, ← List.cons_append, List.drop_left]
      exact List.isPrefixOf_iff_prefix.mpr ⟨rest, rfl⟩

/-- A text without one of the characters is not cut before its end. -/
theorem cut_skips {part before rest : List Char} {char : Char}
    (starts : part.head? = some char) (absent : char ∉ before) :
    cut part (before ++ rest) =
      (cut part rest).map fun parts => (before ++ parts.1, parts.2) := by
  induction before with
  | nil => simp
  | cons other before ih =>
      have later : char ∉ before := fun member => absent (.tail _ member)
      have differs : ¬ part.isPrefixOf (other :: (before ++ rest)) := by
        intro isFirst
        obtain ⟨suffix, same⟩ := List.isPrefixOf_iff_prefix.mp isFirst
        cases part with
        | nil => cases starts
        | cons first part =>
            cases starts
            rw [List.cons_append, List.cons.injEq] at same
            exact absent (same.1 ▸ .head _)
      rw [List.cons_append, cut, if_neg differs, ih later]
      cases cut part rest <;> rfl

theorem cut_absent {part text : List Char} {char : Char}
    (starts : part.head? = some char) (absent : char ∉ text) :
    cut part text = none := by
  have skipped := @cut_skips part text [] char starts absent
  rw [List.append_nil] at skipped
  rw [skipped, cut, if_neg]
  · rfl
  · rintro rfl
    cases starts

end Notifications.Lib

namespace Notifications.Web

open Notifications.Lib Notifications.Web.Mux

/-! ## The readings -/

/-- `strings.Split(text, part)[1]`; `none` is a panic. -/
def splitAt (part text : String) : Option (List String) :=
  (afterCut part.toList text.toList).map fun after => [String.ofList after]

def dot (char : Char) : Bool := char != '\n'

/-- A template as a handler writes it: `(.*)` for every variable. -/
def wild (number : Nat) : List Token → Regexp
  | [] => .empty
  | .char char :: rest => (Regexp.literal char).seq (wild number rest)
  | .var _ :: rest =>
      (Regexp.group number (.star dot)).seq (wild (number + 1) rest)

/-- The groups of `FindStringSubmatch`; `none` is the panic of `matches[1]`. -/
def submatches (template path : String) : Option (List String) := do
  let tokens ← newRouteRegexp template
  let groups ← (wild 1 tokens).find path.toList
  some ((varsOf (names tokens) 1 groups).map Prod.snd)

/-- `req.URL.String()`, of a request to the server. -/
def urlString (path rawQuery : String) : String :=
  String.ofList (escape pathChar path.toList) ++
    if rawQuery = "" then "" else "?" ++ rawQuery

/-! ## The handlers -/

def NotifyUser.userGUID (path : String) : String := trimPrefix path "/users/"

def NotifySpace.spaceGUID (path : String) : String :=
  trimPrefix path "/spaces/"

def NotifyOrganization.organizationGUID (path : String) : String :=
  trimPrefix path "/organizations/"

def NotifyUAAScope.scope (path : String) : String :=
  trimPrefix path "/uaa_scopes/"

def GetPreferencesForUser.parseGUID (path : String) : String :=
  trimPrefix path "/user_preferences/"

def GetTemplates.templateID (path : String) : Option (List String) :=
  splitAt "/templates/" path

def DeleteTemplates.templateID (path : String) : Option (List String) :=
  splitAt "/templates/" path

/-- The URL is split, escapes and query included. -/
def UpdateTemplates.templateID (path rawQuery : String) :
    Option (List String) :=
  splitAt "/templates/" (urlString path rawQuery)

def GetMessages.messageID (path : String) : Option (List String) :=
  splitAt "/messages/" path

def AssignClientTemplate.clientID (path : String) : Option (List String) :=
  submatches "/clients/{client_id}/template" path

def UpdateNotifications.parseURL (path : String) : Option (List String) :=
  submatches "/clients/{client_id}/notifications/{notification_id}" path

def AssignNotificationTemplate.parseURL (path : String) :
    Option (List String) :=
  submatches "/clients/{client_id}/notifications/{notification_id}/template"
    path

def ListTemplateAssociations.parseTemplateID (path : String) :
    Option (List String) :=
  submatches "/templates/{template_id}/associations" path

/-! ## What a handler's pattern matches -/

section Wild

variable {tokens : List Token} {values : List (List Char)}
  {text rest : List Char} {groups : Regexp.Groups} {number : Nat}

/-- What is matched has as many slashes as the template at least. -/
theorem count_wild (way : (groups, rest) ∈ (wild number tokens).ways text) :
    tokens.count (.char '/') ≤ text.count '/' := by
  induction tokens generalizing number text groups with
  | nil => simp
  | cons token tokens ih =>
      cases token with
      | char char =>
          obtain ⟨here, middle, later, one, more, rfl⟩ :=
            Regexp.mem_ways_seq.mp way
          obtain ⟨rfl, other, rfl, same⟩ := Regexp.mem_ways_one.mp one
          have equal : other = char := by simpa using same
          subst equal
          have fewer := ih more
          rw [List.count_cons, List.count_cons]
          by_cases slash : other = '/'
          · subst slash
            simp only [beq_self_eq_true, if_true]
            omega
          · have differs : (Token.char other == Token.char '/') = false := by
              simp [slash]
            rw [differs]
            simp only [Bool.false_eq_true, if_false]
            omega
      | var name =>
          obtain ⟨here, middle, later, one, more, rfl⟩ :=
            Regexp.mem_ways_seq.mp way
          obtain ⟨value, rfl, _, _⟩ := Regexp.mem_ways_group_star.mp one
          have fewer := ih more
          rw [List.count_append, List.count_cons_of_ne (by simp)]
          omega

theorem count_spells (spelled : Spells tokens values text) :
    text.count '/' = tokens.count (.char '/') := by
  induction spelled with
  | nil => rfl
  | char char rest ih =>
      rw [List.count_cons, List.count_cons, ih]
      by_cases slash : char = '/'
      · subst slash
        simp
      · simp [slash]
  | var name filled single rest ih =>
      rw [List.count_append, List.count_eq_zero.mpr single, ih,
        List.count_cons_of_ne (by simp)]
      omega

/-- The groups of a match are texts in one line, one for each variable. -/
theorem wild_groups (way : (groups, rest) ∈ (wild number tokens).ways text) :
    ∃ others, groups = numbered number others ∧
      (names tokens).length = others.length ∧
      ∀ value ∈ others, '\n' ∉ value := by
  induction tokens generalizing number text groups with
  | nil =>
      obtain ⟨rfl, _⟩ := Regexp.mem_ways_empty.mp way
      exact ⟨[], rfl, rfl, by simp⟩
  | cons token tokens ih =>
      cases token with
      | char char =>
          obtain ⟨here, middle, later, one, more, rfl⟩ :=
            Regexp.mem_ways_seq.mp way
          obtain ⟨rfl, _⟩ := Regexp.mem_ways_one.mp one
          exact ih more
      | var name =>
          obtain ⟨here, middle, later, one, more, rfl⟩ :=
            Regexp.mem_ways_seq.mp way
          obtain ⟨value, _, rfl, all⟩ := Regexp.mem_ways_group_star.mp one
          obtain ⟨others, rfl, same, lines⟩ := ih more
          refine ⟨value :: others, rfl, by simp [names, same], ?_⟩
          intro other member
          rcases List.mem_cons.mp member with rfl | further
          · intro line
            simpa [dot] using all '\n' line
          · exact lines other further

theorem ways_group_star_seq (next : Regexp) :
    ((Regexp.group number (.star dot)).seq next).ways text =
      (Regexp.starRests dot text).flatMap fun rest =>
        (next.ways rest).map fun later =>
          ((number, text.take (text.length - rest.length)) :: later.1,
            later.2) := by
  simp [Regexp.ways, List.flatMap_map]

theorem dots_of_line {value : List Char} (line : '\n' ∉ value) :
    ∀ char ∈ value, dot char = true :=
  Regexp.except_of_absent line

/-- On a text of the template the first match is the one with its values. -/
theorem wild_head (spelled : Spells tokens values text)
    (separated : Separated tokens) (lines : ∀ value ∈ values, '\n' ∉ value) :
    ((wild number tokens).ways text).head? =
      some (numbered number values, []) := by
  induction spelled generalizing number with
  | nil => rfl
  | char char rest ih =>
      rw [wild, Regexp.ways_literal_cons]
      exact ih separated lines
  | @var tokens values text value name filled single spelled ih =>
      have later := @ih (number + 1) separated.2 fun value member =>
        lines value (.tail _ member)
      have dots := dots_of_line (lines value (.head _))
      have whole : (value ++ text).take
          ((value ++ text).length - text.length) = value := by
        simp
      rw [wild, ways_group_star_seq]
      rcases separated.1 with rfl | next
      · -- the longest repetition reaches the end
        cases spelled
        rw [List.append_nil]
        have longest := @Regexp.starRests_head dot value
        rw [List.dropWhile_eq_nil_iff.mpr dots] at longest
        obtain ⟨others, rests⟩ := List.head?_eq_some_iff.mp longest
        rw [rests, List.flatMap_cons, wild]
        simp [Regexp.ways, Regexp.empty, Regexp.starRests, numbered]
      · have slash : ∃ later, text = '/' :: later := by
          cases spelled with
          | nil => cases next
          | char char rest =>
              cases next
              exact ⟨_, rfl⟩
          | var name filled single rest => cases next
        have starts : ∀ place, place.head? ≠ some '/' →
            (wild (number + 1) tokens).ways place = [] := by
          intro place other
          cases tokens with
          | nil => cases next
          | cons token tokens =>
              cases next
              cases place with
              | nil => simp [wild, Regexp.ways, Regexp.literal]
              | cons char place =>
                  exact Regexp.ways_literal_ne _ fun same =>
                    other (by rw [same]; rfl)
        rw [Regexp.flatMap_starRests_only dots]
        · rw [List.head?_map, later, whole]
          rfl
        · intro start some ends
          rw [starts, List.map_nil]
          cases start with
          | nil => exact absurd rfl some
          | cons char start =>
              intro same
              have inside : char ∈ value := ends.subset (.head _)
              cases same
              exact single inside
        · intro start rest some same
          rw [List.map_eq_nil_iff]
          by_contra goes
          obtain ⟨⟨groups, left⟩, others, ways⟩ := List.exists_cons_of_ne_nil goes
          have most := count_wild (ways ▸ List.mem_cons_self : (groups, left) ∈
            (wild (number + 1) tokens).ways rest)
          have exactly := count_spells spelled
          obtain ⟨further, begins⟩ := slash
          rw [same, List.count_append] at exactly
          have one : 0 < start.count '/' := by
            rw [List.count_pos_iff]
            cases start with
            | nil => exact absurd rfl some
            | cons char start =>
                rw [same, List.cons_append, List.cons.injEq] at begins
                exact begins.1 ▸ .head _
          omega

theorem values_of_varsOf {others : List (List Char)}
    (same : (names tokens).length = others.length) :
    (varsOf (names tokens) 1 (numbered 1 others)).map Prod.snd =
      others.map String.ofList := by
  have zipped := @varsOf_numbered (names tokens) others 1 same [] (by simp)
  rw [List.nil_append] at zipped
  rw [zipped, List.map_map]
  have second : (Prod.snd ∘ fun pair : List Char × List Char =>
      (String.ofList pair.1, String.ofList pair.2)) =
        String.ofList ∘ Prod.snd := rfl
  rw [second, ← List.map_map, List.map_snd_zip (by omega)]

/-- The groups are the values exactly when no value has a line end. -/
theorem submatches_iff {template path : String}
    (parsed : newRouteRegexp template = some tokens)
    (separated : Separated tokens)
    (spelled : Spells tokens values path.toList) :
    submatches template path = some (values.map String.ofList) ↔
      ∀ value ∈ values, '\n' ∉ value := by
  rw [submatches, parsed]
  simp only [Option.bind_eq_bind, Option.bind_some]
  constructor
  · intro read
    obtain ⟨groups, found, same⟩ := Option.bind_eq_some_iff.mp read
    obtain ⟨_, _, _, _, way⟩ := Regexp.exists_of_find found
    obtain ⟨others, rfl, length, lines⟩ := wild_groups way
    rw [values_of_varsOf length, Option.some.injEq] at same
    have equal : others = values := by
      refine (List.map_injective_iff.mpr ?_) same
      intro left right equal
      exact String.ofList_injective equal
    rwa [← equal]
  · intro lines
    have first := @wild_head _ _ _ 1 spelled separated lines
    have found : (wild 1 tokens).find path.toList =
        some (numbered 1 values) := Regexp.find_of_ways (by rw [first]; rfl)
    rw [found, Option.bind_some, values_of_varsOf (spells_length spelled)]

end Wild

/-! ## What is cut out of a path -/

section Cuts

variable {value : List Char}

theorem trimPrefix_eq (start : String) (value : List Char) {path : String}
    (same : path.toList = start.toList ++ value) :
    trimPrefix path start = String.ofList value := by
  rw [trimPrefix, same, if_pos, List.drop_left]
  exact List.isPrefixOf_iff_prefix.mpr ⟨value, rfl⟩

theorem splitAt_eq {part text : String} {after rest : List Char}
    (starts : part.toList.head? = some '/') (single : '/' ∉ after)
    (same : text.toList = part.toList ++ (after ++ rest)) :
    splitAt part text = some [String.ofList (after ++
      ((cut part.toList rest).map Prod.fst).getD rest)] := by
  have filled : part.toList ≠ [] := by
    intro none
    rw [none] at starts
    cases starts
  rw [splitAt, afterCut, same, cut_append _ _ filled]
  simp only [Option.map_some, cut_skips starts single]
  cases cut part.toList rest <;> rfl

theorem splitAt_single {part text : String}
    (starts : part.toList.head? = some '/') (single : '/' ∉ value)
    (same : text.toList = part.toList ++ value) :
    splitAt part text = some [String.ofList value] := by
  rw [@splitAt_eq _ _ value [] starts single (by rw [List.append_nil, same]),
    cut_absent starts List.not_mem_nil]
  simp

theorem cut_mem {part text before after : List Char} {char : Char}
    {rest : List Char} (starts : part.head? ≠ some char)
    (same : text = char :: rest) (found : cut part text = some (before, after))
    (filled : part ≠ []) : before ≠ [] := by
  subst same
  rw [cut, if_neg] at found
  · obtain ⟨parts, _, cons⟩ := Option.map_eq_some_iff.mp found
    cases cons
    exact List.cons_ne_nil _ _
  · intro isFirst
    obtain ⟨suffix, same⟩ := List.isPrefixOf_iff_prefix.mp isFirst
    cases part with
    | nil => exact filled rfl
    | cons first part =>
        rw [List.cons_append, List.cons.injEq] at same
        exact starts (by rw [List.head?_cons, same.1])

/-- The URL has the variable of the path only when nothing of it is escaped
and no query follows. -/
theorem splitAt_urlString {part path rawQuery : String}
    (starts : part.toList.head? = some '/')
    (plain : ∀ char ∈ part.toList, pathChar char = true)
    (single : '/' ∉ value) (same : path.toList = part.toList ++ value) :
    splitAt part (urlString path rawQuery) = some [String.ofList value] ↔
      (∀ char ∈ value, pathChar char = true) ∧ rawQuery = "" := by
  have escaped : escape pathChar path.toList =
      part.toList ++ escape pathChar value := by
    rw [same, escape_append, escape_eq_iff.mpr plain]
  have alone : '/' ∉ escape pathChar value :=
    not_mem_escape single (by decide) (by decide)
  have longer := @length_le_escape pathChar value
  by_cases bare : rawQuery = ""
  · subst bare
    rw [splitAt_single starts alone (by simp [urlString, escaped])]
    simp only [Option.some.injEq, List.cons.injEq, and_true]
    rw [← escape_eq_iff]
    constructor
    · exact fun equal => String.ofList_injective equal
    · exact fun equal => congrArg String.ofList equal
  · rw [@splitAt_eq part _ _ ('?' :: rawQuery.toList) starts alone (by
      simp [urlString, escaped, bare, String.toList_append])]
    constructor
    · intro equal
      simp only [Option.some.injEq, List.cons.injEq, and_true] at equal
      have lengths := congrArg List.length (String.ofList_injective equal)
      rw [List.length_append] at lengths
      have more : 0 < (((cut part.toList ('?' :: rawQuery.toList)).map
          Prod.fst).getD ('?' :: rawQuery.toList)).length := by
        rw [List.length_pos_iff]
        cases found : cut part.toList ('?' :: rawQuery.toList) with
        | none => simp
        | some parts =>
            refine @cut_mem _ _ parts.1 parts.2 _ _ ?_ rfl found ?_
            · rw [starts]
              decide
            · intro none
              rw [none] at starts
              cases starts
      omega
    · exact fun both => absurd both.2 bare

end Cuts

section GUID

/-- What a handler takes for a line ends with the line. -/
theorem splitList_head (separator : Char) (text : List Char) :
    (splitList separator text).head? =
      some (text.takeWhile fun char => char != separator) := by
  induction text with
  | nil => rfl
  | cons char rest ih =>
      rw [splitList, List.takeWhile_cons]
      by_cases same : char = separator
      · simp [same]
      · obtain ⟨others, lines⟩ := List.head?_eq_some_iff.mp ih
        simp [same, lines]

theorem count_afterLast {part text after : List Char} {char : Char}
    (found : afterLast part text = some after) :
    part.count char ≤ text.count char := by
  induction text with
  | nil => cases found
  | cons other rest ih =>
      rw [afterLast] at found
      rcases Option.or_eq_some_iff.mp found with later | ⟨_, here⟩
      · have fewer := ih later
        rw [List.count_cons]
        omega
      · split at here
        · rename_i starts
          exact (List.isPrefixOf_iff_prefix.mp starts).sublist.count_le char
        · cases here

/-- The GUID is the variable, up to the end of its line. -/
theorem parseGUID_eq {path : String} {value : List Char}
    (single : '/' ∉ value)
    (same : path.toList = "/user_preferences/".toList ++ value) :
    parseGUID path = some (String.ofList (value.takeWhile dot)) := by
  have first := splitList_head '\n' path.toList
  -- `List.all`: the bounded quantifier may be decided over every character
  rw [same, List.takeWhile_append_of_pos
    (List.all_eq_true.mp (by decide))] at first
  obtain ⟨others, lines⟩ := List.head?_eq_some_iff.mp first
  have alone : '/' ∉ value.takeWhile dot := fun inside =>
    single ((List.takeWhile_prefix dot).subset inside)
  have later : afterLast "/user_preferences/".toList
      ("user_preferences/".toList ++ value.takeWhile dot) = none := by
    by_contra some
    obtain ⟨after, found⟩ := Option.ne_none_iff_exists'.mp some
    have fewer := @count_afterLast _ _ _ '/' found
    rw [List.count_append, List.count_eq_zero.mpr alone] at fewer
    exact absurd fewer (by decide)
  have last : afterLast "/user_preferences/".toList
      ("/user_preferences/".toList ++ value.takeWhile dot) =
        some (value.takeWhile dot) := by
    have split : "/user_preferences/".toList ++ value.takeWhile dot =
        '/' :: ("user_preferences/".toList ++ value.takeWhile dot) := rfl
    rw [split, afterLast, later, Option.none_or, ← split, if_pos,
      List.drop_left]
    exact List.isPrefixOf_iff_prefix.mpr ⟨_, rfl⟩
  have line : (value.takeWhile fun char => char != '\n') =
      value.takeWhile dot := rfl
  rw [line] at lines
  rw [parseGUID, same, lines, matchGUID, last]
  rfl

theorem parseGUID_iff {path : String} {value : List Char}
    (single : '/' ∉ value)
    (same : path.toList = "/user_preferences/".toList ++ value) :
    parseGUID path = some (String.ofList value) ↔ '\n' ∉ value := by
  rw [parseGUID_eq single same, Option.some.injEq]
  constructor
  · intro equal line
    have whole := String.ofList_injective equal
    have dots := List.takeWhile_eq_self_iff.mp whole '\n' line
    simp [dot] at dots
  · intro line
    rw [List.takeWhile_eq_self_iff.mpr (dots_of_line line)]

end GUID

end Notifications.Web
