import Mathlib.Data.List.Perm.Basic
import Notifications.Lib.Matching
import Notifications.Lib.Paths

/-!
# The router library

The vendored gorilla/mux, as far as the service uses it: a template of a path
becomes an anchored pattern, a route matches a method and a path, and a router
tries its routes in the order in which they were registered.  A path that is
not clean is answered with a redirect.

Hosts, prefixes, queries, schemes, subrouters and strict slashes are never
asked for.  Neither is a variable with a pattern of its own.
-/

set_option autoImplicit false

namespace Notifications.Web.Mux

open Notifications.Lib

/-! ## Clean paths -/

def cleanPath (p : List Char) : List Char :=
  if p = [] then ['/']
  else
    let p := if p.head? = some '/' then p else '/' :: p
    let np := cleanRooted p
    if p.getLast? = some '/' ∧ np ≠ ['/'] then np ++ ['/'] else np

/-- What the paths look like that are not redirected. -/
inductive Clean : List Char → Prop
  | rooted {elements : List (List Char)}
      (proper : ∀ element ∈ elements, Proper element) :
      Clean (rooted elements)
  /-- the slash at the end is put back -/
  | slash {elements : List (List Char)}
      (proper : ∀ element ∈ elements, Proper element)
      (some : elements ≠ []) : Clean (rooted elements ++ ['/'])

theorem clean_cleanPath (p : List Char) : Clean (cleanPath p) := by
  rw [cleanPath]
  split
  · exact @Clean.rooted [] (by simp)
  · dsimp only
    generalize (if p.head? = some '/' then p else '/' :: p) = started
    obtain ⟨elements, proper, same⟩ := cleanRooted_proper started
    rw [same]
    split
    · rename_i slash
      refine .slash proper ?_
      rintro rfl
      exact slash.2 rfl
    · exact .rooted proper

theorem cleanPath_of_clean {p : List Char} (clean : Clean p) :
    cleanPath p = p := by
  cases clean with
  | @rooted elements proper =>
      have starts := rooted_starts elements
      have filled : Lib.rooted elements ≠ [] := by
        intro none
        rw [none] at starts
        cases starts
      rw [cleanPath, if_neg filled]
      dsimp only
      rw [if_pos starts, cleanRooted_rooted proper, if_neg]
      rintro ⟨last, more⟩
      apply rooted_ends proper _ last
      rintro rfl
      exact more rfl
  | @slash elements proper some =>
      have starts : (Lib.rooted elements ++ ['/']).head? = Option.some '/' := by
        rw [List.head?_append, rooted_starts, Option.some_or]
      have more : Lib.rooted elements ≠ ['/'] := by
        intro root
        exact rooted_ends proper some (by rw [root]; rfl)
      rw [cleanPath, if_neg (by simp)]
      dsimp only
      rw [if_pos starts, cleanRooted_concat proper,
        if_pos ⟨by simp, more⟩]

/-- A redirect leads to a path that is not redirected again. -/
theorem cleanPath_idempotent (p : List Char) :
    cleanPath (cleanPath p) = cleanPath p :=
  cleanPath_of_clean (clean_cleanPath p)

theorem clean_iff {p : List Char} : cleanPath p = p ↔ Clean p := by
  constructor
  · intro same
    rw [← same]
    exact clean_cleanPath p
  · exact cleanPath_of_clean

/-! ## Templates -/

inductive Token where
  | char (char : Char)
  /-- `[^/]+` -/
  | var (name : List Char)
  deriving DecidableEq, Repr

/-- What stands between braces: a name, and no pattern. -/
def Token.ofBraces (inner : List Char) : Option Token :=
  if inner = [] ∨ ':' ∈ inner then none else some (.var inner)

/-- `braceIndices` and the loop of `newRouteRegexp`, with the braces that are
open and what has been read since the first of them.  `none` is an error. -/
def parseTemplate (level : Nat) (inner : List Char) :
    List Char → Option (List Token)
  | [] => if level = 0 then some [] else none
  | char :: rest =>
      if char = '\x7b' then
        parseTemplate (level + 1) (if level = 0 then [] else inner ++ [char])
          rest
      else if char = '\x7d' then
        if level = 0 then none
        else if level = 1 then do
          let token ← Token.ofBraces inner
          let tokens ← parseTemplate 0 [] rest
          some (token :: tokens)
        else parseTemplate (level - 1) (inner ++ [char]) rest
      else if level = 0 then do
        let tokens ← parseTemplate 0 inner rest
        some (.char char :: tokens)
      else parseTemplate level (inner ++ [char]) rest

/-- `newRouteRegexp`, for a path. -/
def newRouteRegexp (template : String) : Option (List Token) :=
  parseTemplate 0 [] template.toList

/-- The regexp of a template; its groups are numbered in order. -/
def regexp (number : Nat) : List Token → Regexp
  | [] => .empty
  | .char char :: rest => (Regexp.literal char).seq (regexp number rest)
  | .var _ :: rest =>
      (Regexp.group number (.plus (Regexp.except '/'))).seq
        (regexp (number + 1) rest)

/-- `varsN`. -/
def names : List Token → List (List Char)
  | [] => []
  | .char _ :: rest => names rest
  | .var name :: rest => name :: names rest

/-- The variables with the groups of the match, in order. -/
def varsOf (names : List (List Char)) (number : Nat)
    (groups : Regexp.Groups) : List (String × String) :=
  match names with
  | [] => []
  | name :: rest =>
      (String.ofList name, String.ofList (Regexp.submatch groups number)) ::
        varsOf rest (number + 1) groups

/-! ## Routes -/

section Routes

variable {Handler : Type}

structure Route (Handler : Type) where
  /-- `none` is an error; the route never matches then -/
  path : Option (List Token)
  methods : List String
  handler : Handler
  name : String

/-- `Handle(path, handler).Methods(method).Name(name)`. -/
def handle (path : String) (handler : Handler) (method name : String) :
    Route Handler where
  path :=
    if path.toList.head? = some '/' then newRouteRegexp path else none
  methods := [method]
  handler := handler
  name := name

structure RouteMatch (Handler : Type) where
  route : Route Handler
  vars : List (String × String)

def Route.matches (route : Route Handler) (method path : String) :
    Option (RouteMatch Handler) := do
  let tokens ← route.path
  let groups ← (regexp 1 tokens).findWhole path.toList
  if method ∈ route.methods then
    some ⟨route, varsOf (names tokens) 1 groups⟩
  else
    none

/-- `Router.Match`: the first route that matches. -/
def Router.matches (routes : List (Route Handler)) (method path : String) :
    Option (RouteMatch Handler) :=
  routes.findSome? fun route => route.matches method path

/-- What `Router.ServeHTTP` does with a request. -/
inductive Served (Handler : Type) where
  /-- 301, with the path of the `Location` -/
  | moved (path : String)
  | notFound
  | handled (found : RouteMatch Handler)

def Router.serveHTTP (routes : List (Route Handler)) (method path : String) :
    Served Handler :=
  let p := cleanPath path.toList
  if p ≠ path.toList then .moved (String.ofList p)
  else
    match Router.matches routes method path with
    | some found => .handled found
    | none => .notFound

end Routes

/-! ## What a template matches -/

inductive Spells : List Token → List (List Char) → List Char → Prop
  | nil : Spells [] [] []
  | char {tokens : List Token} {values : List (List Char)}
      {text : List Char} (char : Char) (rest : Spells tokens values text) :
      Spells (.char char :: tokens) values (char :: text)
  | var {tokens : List Token} {values : List (List Char)}
      {text value : List Char} (name : List Char) (filled : value ≠ [])
      (single : '/' ∉ value) (rest : Spells tokens values text) :
      Spells (.var name :: tokens) (value :: values) (value ++ text)

def numbered (number : Nat) : List (List Char) → Regexp.Groups
  | [] => []
  | value :: rest => (number, value) :: numbered (number + 1) rest

theorem mem_ways_regexp {tokens : List Token} {number : Nat}
    {text : List Char} {groups : Regexp.Groups} :
    (groups, []) ∈ (regexp number tokens).ways text ↔
      ∃ values, Spells tokens values text ∧ groups = numbered number values := by
  induction tokens generalizing number text groups with
  | nil =>
      rw [regexp, Regexp.mem_ways_empty]
      constructor
      · rintro ⟨rfl, rfl⟩
        exact ⟨[], .nil, rfl⟩
      · rintro ⟨values, spelled, rfl⟩
        cases spelled
        exact ⟨rfl, rfl⟩
  | cons token rest ih =>
      cases token with
      | char char =>
          rw [regexp, Regexp.mem_ways_seq]
          constructor
          · rintro ⟨here, middle, later, one, more, rfl⟩
            obtain ⟨rfl, other, rfl, same⟩ := Regexp.mem_ways_one.mp one
            obtain ⟨values, spelled, rfl⟩ := ih.mp more
            have equal : other = char := by simpa using same
            subst equal
            exact ⟨values, .char other spelled, rfl⟩
          · rintro ⟨values, spelled, rfl⟩
            cases spelled with
            | @char _ _ later _ spelled =>
                refine ⟨[], later, numbered number values, ?_,
                  ih.mpr ⟨values, spelled, rfl⟩, rfl⟩
                exact Regexp.mem_ways_one.mpr ⟨rfl, char, rfl, by simp⟩
      | var name =>
          rw [regexp, Regexp.mem_ways_seq]
          constructor
          · rintro ⟨here, middle, later, one, more, rfl⟩
            obtain ⟨value, rfl, rfl, filled, all⟩ :=
              Regexp.mem_ways_group_plus.mp one
            obtain ⟨values, spelled, rfl⟩ := ih.mp more
            refine ⟨value :: values, .var name filled ?_ spelled, rfl⟩
            intro slash
            simpa [Regexp.except] using all '/' slash
          · rintro ⟨values, spelled, rfl⟩
            cases spelled with
            | @var _ values later value _ filled single spelled =>
                refine ⟨[(number, value)], later,
                  numbered (number + 1) values, ?_,
                  ih.mpr ⟨values, spelled, rfl⟩, rfl⟩
                exact Regexp.mem_ways_group_plus.mpr ⟨value, rfl, rfl, filled,
                  Regexp.except_of_absent single⟩

/-- A variable reaches up to a slash or to the end. -/
def Separated : List Token → Prop
  | [] => True
  | .char _ :: rest => Separated rest
  | .var _ :: rest =>
      (rest = [] ∨ rest.head? = some (.char '/')) ∧ Separated rest

instance decidableSeparated : (tokens : List Token) →
    Decidable (Separated tokens)
  | [] => .isTrue trivial
  | .char _ :: rest => decidableSeparated rest
  | .var _ :: rest =>
      have := decidableSeparated rest
      inferInstanceAs (Decidable
        ((rest = [] ∨ rest.head? = some (.char '/')) ∧ Separated rest))

theorem takeWhile_value {tokens : List Token} {values : List (List Char)}
    {text value : List Char} (single : '/' ∉ value)
    (spelled : Spells tokens values text)
    (next : tokens = [] ∨ tokens.head? = some (.char '/')) :
    (value ++ text).takeWhile (Regexp.except '/') = value := by
  rw [List.takeWhile_append_of_pos (Regexp.except_of_absent single)]
  rcases next with rfl | next
  · cases spelled
    simp
  · cases spelled with
    | nil => cases next
    | char char rest =>
        have slash : char = '/' := by simpa using next
        subst slash
        simp [Regexp.except]
    | var name filled single rest => cases next

theorem spells_unique {tokens : List Token} {values others : List (List Char)}
    {text : List Char} (separated : Separated tokens)
    (spelled : Spells tokens values text)
    (other : Spells tokens others text) : values = others := by
  induction tokens generalizing values others text with
  | nil =>
      cases spelled
      cases other
      rfl
  | cons token rest ih =>
      cases token with
      | char char =>
          cases spelled with
          | char _ spelled =>
              cases other with
              | char _ other => exact ih separated spelled other
      | var name =>
          generalize whole : text = both at other
          cases spelled with
          | @var _ values text value _ filled single spelled =>
              cases other with
              | @var _ others later second _ _ alone other =>
                  have one := takeWhile_value single spelled separated.1
                  have two := takeWhile_value alone other separated.1
                  rw [whole, two] at one
                  subst one
                  have same := List.append_cancel_left whole
                  subst same
                  rw [ih separated.2 spelled other]

/-- The values of a match, under the names of the variables. -/
theorem varsOf_numbered {names values : List (List Char)} {number : Nat}
    (same : names.length = values.length) {before : Regexp.Groups}
    (absent : ∀ group ∈ before, group.1 < number) :
    varsOf names number (before ++ numbered number values) =
      (names.zip values).map fun pair =>
        (String.ofList pair.1, String.ofList pair.2) := by
  induction names generalizing values number before with
  | nil => rfl
  | cons name names ih =>
      cases values with
      | nil => cases same
      | cons value values =>
          have here : Regexp.submatch
              (before ++ numbered number (value :: values)) number = value := by
            have none : before.lookup number = none := by
              rw [List.lookup_eq_none_iff]
              intro group member
              have less := absent group member
              simp
              omega
            rw [Regexp.submatch, List.lookup_append, none, Option.none_or,
              numbered, List.lookup_cons, beq_self_eq_true]
            rfl
          have rest := @ih values (number + 1) (Nat.succ.inj same)
            (before ++ [(number, value)]) (by
              intro group member
              rcases List.mem_append.mp member with old | new
              · have less := absent group old
                omega
              · rw [List.mem_singleton.mp new]
                exact Nat.lt_succ_self number)
          rw [List.append_assoc] at rest
          rw [varsOf, here, numbered]
          simp only [List.zip_cons_cons, List.map_cons]
          rw [← rest]
          rfl

theorem spells_length {tokens : List Token} {values : List (List Char)}
    {text : List Char} (spelled : Spells tokens values text) :
    (names tokens).length = values.length := by
  induction spelled with
  | nil => rfl
  | char char rest ih => exact ih
  | var name filled single rest ih =>
      rw [names, List.length_cons, List.length_cons, ih]

section Matches

variable {Handler : Type} {route : Route Handler} {tokens : List Token}
  {method path : String}

/-- A route matches one of its methods and the texts of its template. -/
theorem matches_iff (parsed : route.path = some tokens)
    (separated : Separated tokens) {found : RouteMatch Handler} :
    route.matches method path = some found ↔ method ∈ route.methods ∧
      ∃ values, Spells tokens values path.toList ∧
        found = ⟨route, ((names tokens).zip values).map fun pair =>
          (String.ofList pair.1, String.ofList pair.2)⟩ := by
  have only {values : List (List Char)}
      (spelled : Spells tokens values path.toList) :
      (regexp 1 tokens).findWhole path.toList = some (numbered 1 values) := by
    apply Regexp.findWhole_eq_some
    · intro groups member
      obtain ⟨others, other, rfl⟩ := mem_ways_regexp.mp member
      rw [spells_unique separated spelled other]
    · exact mem_ways_regexp.mpr ⟨values, spelled, rfl⟩
  have vars {values : List (List Char)}
      (spelled : Spells tokens values path.toList) :=
    @varsOf_numbered (names tokens) values 1 (spells_length spelled) [] nofun
  rw [Route.matches, parsed, Option.bind_eq_bind, Option.bind_some]
  constructor
  · intro success
    obtain ⟨groups, matched, success⟩ := Option.bind_eq_some_iff.mp success
    obtain ⟨values, spelled, rfl⟩ :=
      mem_ways_regexp.mp (Regexp.mem_of_findWhole matched)
    split at success
    · rename_i allowed
      cases success
      refine ⟨allowed, values, spelled, ?_⟩
      rw [← vars spelled]
      rfl
    · cases success
  · rintro ⟨allowed, values, spelled, rfl⟩
    rw [only spelled, Option.bind_eq_bind, Option.bind_some, if_pos allowed,
      ← vars spelled]
    rfl

end Matches

/-! ## Routes that no request has in common -/

/-- What stands between the slashes of a template. -/
def parts (tokens : List Token) : List (List Token) :=
  tokens.splitOn (.char '/')

def fixed : List Token → Option (List Char)
  | [] => some []
  | .char char :: rest => (fixed rest).map fun text => char :: text
  | .var _ :: _ => none

def partsApart (part other : List Token) : Bool :=
  (fixed part).isSome && (fixed other).isSome && fixed part != fixed other

def templatesApart (tokens others : List Token) : Bool :=
  (parts tokens).length != (parts others).length ||
    (List.zipWith partsApart (parts tokens) (parts others)).any id

theorem splitOn_value {value text : List Char} (single : '/' ∉ value) :
    (value ++ text).splitOn '/' =
      (text.splitOn '/').modifyHead fun first => value ++ first := by
  induction value with
  | nil =>
      rw [List.nil_append]
      exact (congrFun List.modifyHead_id (text.splitOn '/')).symm
  | cons char value ih =>
      simp only [List.mem_cons, not_or] at single
      rw [List.cons_append, List.splitOn_cons_eq_if_modifyHead,
        if_neg (by simpa using Ne.symm single.1), ih single.2,
        List.modifyHead_modifyHead]
      rfl

/-- Two lists whose entries correspond, with their heads changed. -/
theorem modifyHead_parts {α β : Type} {related : α → β → Prop}
    {left : List α} {right : List β} {change : α → α} {other : β → β}
    (all : List.Forall₂ related left right)
    (kept : ∀ one two, related one two → related (change one) (other two)) :
    List.Forall₂ related (left.modifyHead change)
      (right.modifyHead other) := by
  cases all with
  | nil => exact .nil
  | cons first others => exact .cons (kept _ _ first) others

/-- The parts of a template match the elements of a path, one by one. -/
theorem spells_parts {tokens : List Token} {values : List (List Char)}
    {text : List Char} (spelled : Spells tokens values text) :
    List.Forall₂ (fun part element => ∃ inner, Spells part inner element)
      (parts tokens) (text.splitOn '/') := by
  induction spelled with
  | nil => exact .cons ⟨[], .nil⟩ .nil
  | @char tokens values text char rest ih =>
      unfold parts at ih ⊢
      rw [List.splitOn_cons_eq_if_modifyHead,
        List.splitOn_cons_eq_if_modifyHead]
      by_cases slash : char = '/'
      · subst slash
        simp only [beq_self_eq_true, if_true]
        exact .cons ⟨[], .nil⟩ ih
      · rw [if_neg (by simpa using slash), if_neg (by simpa using slash)]
        exact modifyHead_parts ih fun part element ⟨inner, here⟩ =>
          ⟨inner, .char char here⟩
  | @var tokens values text value name filled single rest ih =>
      unfold parts at ih ⊢
      rw [List.splitOn_cons_eq_if_modifyHead, if_neg (by simp),
        splitOn_value single]
      exact modifyHead_parts ih fun part element ⟨inner, here⟩ =>
        ⟨value :: inner, .var name filled single here⟩

theorem spells_fixed {part : List Token} {values : List (List Char)}
    {element text : List Char} (alone : fixed part = some text)
    (spelled : Spells part values element) : element = text := by
  induction spelled generalizing text with
  | nil =>
      cases alone
      rfl
  | char char rest ih =>
      obtain ⟨later, inner, rfl⟩ := Option.map_eq_some_iff.mp alone
      rw [ih inner]
  | var name filled single rest ih => cases alone

theorem not_spells_both {tokens others : List Token}
    {values otherValues : List (List Char)} {text : List Char}
    (apart : templatesApart tokens others = true)
    (spelled : Spells tokens values text)
    (other : Spells others otherValues text) : False := by
  have one := spells_parts spelled
  have two := spells_parts other
  rw [templatesApart, Bool.or_eq_true] at apart
  rcases apart with lengths | somewhere
  · have same := one.length_eq.trans two.length_eq.symm
    simp [same] at lengths
  · clear spelled other
    revert somewhere
    generalize text.splitOn '/' = elements at one two
    generalize parts tokens = left at one
    generalize parts others = right at two
    induction one generalizing right with
    | nil => simp
    | @cons first element lefts elements here rest ih =>
        cases two with
        | @cons second _ rights _ there later =>
            rw [List.zipWith_cons_cons, List.any_cons, Bool.or_eq_true]
            rintro (apart | further)
            · obtain ⟨inner, here⟩ := here
              obtain ⟨outer, there⟩ := there
              simp only [id, partsApart, Bool.and_eq_true, bne_iff_ne,
                Option.isSome_iff_exists] at apart
              obtain ⟨⟨⟨text, one⟩, other, two⟩, differ⟩ := apart
              apply differ
              rw [one, two, ← spells_fixed one here, ← spells_fixed two there]
            · exact ih rights later further

theorem partsApart_comm (part other : List Token) :
    partsApart part other = partsApart other part := by
  rw [partsApart, partsApart, Bool.and_comm (fixed part).isSome, bne_comm]

theorem templatesApart_comm (tokens others : List Token) :
    templatesApart tokens others = templatesApart others tokens := by
  rw [templatesApart, templatesApart, bne_comm, List.zipWith_comm]
  simp only [partsApart_comm]

section Apart

variable {Handler : Type}

/-- No request is for both routes: they have no method in common, or their
templates no path. -/
def Route.Apart (route other : Route Handler) : Prop :=
  (∀ method ∈ route.methods, method ∉ other.methods) ∨
    ∀ tokens others, route.path = some tokens → other.path = some others →
      templatesApart tokens others = true

theorem Route.Apart.symm {route other : Route Handler}
    (apart : route.Apart other) : other.Apart route := by
  rcases apart with methods | paths
  · exact Or.inl fun method member other => methods method other member
  · refine Or.inr fun tokens others one two => ?_
    rw [templatesApart_comm]
    exact paths others tokens two one

/-- Every route has a template whose variables are separated. -/
def Route.Parsed (route : Route Handler) : Prop :=
  ∃ tokens, route.path = some tokens ∧ Separated tokens

theorem Route.Apart.not_both {route other : Route Handler}
    (apart : route.Apart other) (parsed : route.Parsed)
    (parsedOther : other.Parsed) (method path : String) :
    route.matches method path = none ∨ other.matches method path = none := by
  obtain ⟨tokens, read, separated⟩ := parsed
  obtain ⟨others, readOther, separatedOther⟩ := parsedOther
  cases one : route.matches method path with
  | none => exact Or.inl rfl
  | some found =>
      cases two : other.matches method path with
      | none => exact Or.inr rfl
      | some second =>
          obtain ⟨allowed, values, spelled, _⟩ :=
            (matches_iff read separated).mp one
          obtain ⟨allowedOther, others, spelledOther, _⟩ :=
            (matches_iff readOther separatedOther).mp two
          rcases apart with methods | paths
          · exact absurd allowedOther (methods method allowed)
          · exact (not_spells_both (paths _ _ read readOther) spelled
              spelledOther).elim

/-- A search that succeeds for one entry at most finds it in every order. -/
theorem findSome?_perm {α β : Type} {search : α → Option β}
    {list other : List α} (perm : list.Perm other)
    (only : list.Pairwise fun one two =>
      search one = none ∨ search two = none) :
    list.findSome? search = other.findSome? search := by
  induction perm with
  | nil => rfl
  | cons first _ ih =>
      rw [List.findSome?_cons, List.findSome?_cons,
        ih (List.pairwise_cons.mp only).2]
  | swap first second rest =>
      have either := (List.pairwise_cons.mp only).1 first (.head _)
      simp only [List.findSome?_cons]
      rcases either with none | none <;> rw [none]
  | trans one _ ih later =>
      rw [ih only]
      exact later (one.pairwise only fun either => either.symm)

/-- The order in which routes are registered does not matter when they are
apart. -/
theorem matches_perm {routes others : List (Route Handler)}
    (perm : routes.Perm others) (parsed : ∀ route ∈ routes, route.Parsed)
    (apart : routes.Pairwise Route.Apart) (method path : String) :
    Router.matches routes method path = Router.matches others method path := by
  apply findSome?_perm perm
  apply apart.imp_of_mem
  intro route other member memberOther apart
  exact apart.not_both (parsed route member) (parsed other memberOther) method
    path

/-- Whichever of the routes matches is the first that does. -/
theorem matches_of_mem {routes : List (Route Handler)}
    {route : Route Handler} {method path : String}
    {found : RouteMatch Handler} (parsed : ∀ route ∈ routes, route.Parsed)
    (apart : routes.Pairwise Route.Apart) (member : route ∈ routes)
    (here : route.matches method path = some found) :
    Router.matches routes method path = some found := by
  obtain ⟨before, after, rfl⟩ := List.append_of_mem member
  rw [matches_perm List.perm_middle parsed apart, Router.matches,
    List.findSome?_cons, here]

theorem serveHTTP_perm {routes others : List (Route Handler)}
    (perm : routes.Perm others) (parsed : ∀ route ∈ routes, route.Parsed)
    (apart : routes.Pairwise Route.Apart) (method path : String) :
    Router.serveHTTP routes method path =
      Router.serveHTTP others method path := by
  rw [Router.serveHTTP, Router.serveHTTP, matches_perm perm parsed apart]

end Apart

end Notifications.Web.Mux
