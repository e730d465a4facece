import Mathlib.Data.List.Induction
import Mathlib.Tactic.Linarith
import Notifications.Lib.Fmt
import Notifications.Lib.Machine
import Notifications.Postal.Utilities
import Notifications.Web.Jwt

/-!
# The token loader

`TokenLoader.Load` and the token that all loaders share.  A mutex is held for
the whole of a load, so loads happen one after the other; each of them reads
the clock and may ask the UAA.  Times on the clock are nanoseconds since 1970.

A token is kept for half a minute after it has expired, unless its time is so
late that the seconds wrap around.  A load that panics lets go of the mutex and
leaves the token where it is.
-/

set_option autoImplicit false

namespace Notifications.Postal

open Notifications.Lib Notifications.Web.Jwt

/-! ## Times -/

/-- `time.Second`. -/
def second : Int := 1000000000

/-- The sum of two `int64`s, with wrap-around. -/
def add64 (left right : Int) : Int := (left + right).bmod (2 ^ 64)

/-- `time.Time`: seconds since the year 1 in an `int64`, and nanoseconds. -/
structure Time where
  sec : Int
  nsec : Int
  deriving DecidableEq, Repr

namespace Time

def unixToInternal : Int := 62135596800

/-- `time.Unix(sec, 0)`. -/
def unix (sec : Int) : Time := ⟨add64 sec unixToInternal, 0⟩

/-- `time.Now()`; no clock is so far from 1970 that the seconds wrap. -/
def ofClock (now : Int) : Time := ⟨now / second + unixToInternal, now % second⟩

def add (time : Time) (duration : Int) : Time :=
  let sec := add64 time.sec (duration.tdiv second)
  let nsec := time.nsec + duration.tmod second
  if second ≤ nsec then ⟨add64 sec 1, nsec - second⟩
  else if nsec < 0 then ⟨add64 sec (-1), nsec + second⟩
  else ⟨sec, nsec⟩

def before (time other : Time) : Bool :=
  time.sec < other.sec || time.sec == other.sec && time.nsec < other.nsec

theorem before_iff {time other : Time} :
    time.before other = true ↔
      time.sec < other.sec ∨
        time.sec = other.sec ∧ time.nsec < other.nsec := by
  simp [before]

end Time

structure UAAToken where
  access : String
  refresh : String
  deriving DecidableEq, Repr

namespace UAAToken

def empty : UAAToken := ⟨"", ""⟩

variable (unmarshal : List UInt8 → Except String Fields)

/-- The expiration time in the second part of the access token; a missing part
and a missing time are panics. -/
def expiration (token : UAAToken) : Option (Except String Int) :=
  match (split token.access '.')[1]? with
  | none => none
  | some segment =>
      match decodeSegment segment with
      | .error _ => some (.error "Failed to decode token")
      | .ok decodedToken =>
          match unmarshal decodedToken with
          | .error _ => some (.error "Failed to parse JSON")
          | .ok parsedJson =>
              match parsedJson.lookup "exp" with
              | some (.number tokenExpiration) => some (.ok tokenExpiration)
              | _ => none

def expiresBefore (token : UAAToken) (timeBuffer now : Int) :
    Option (Except String Bool) :=
  (token.expiration unmarshal).map fun expiration =>
    expiration.map fun seconds =>
      ((Time.unix seconds).add timeBuffer).before (.ofClock now)

end UAAToken

namespace TokenLoader

variable (unmarshal : List UInt8 → Except String Fields)

def toleratedRequestTime : Int := 30 * second

def expired (token : UAAToken) (now : Int) : Option Bool :=
  (token.expiresBefore unmarshal toleratedRequestTime now).map fun result =>
    match result with
    | .error _ => true
    | .ok expired => expired

def newTokenRequired (token : UAAToken) (now : Int) : Option Bool :=
  if token.access = "" then some true else expired unmarshal token now

/-- A load: what the clock shows, what the UAA answers if it is asked, and what
comes of it; no result is a panic. -/
structure Load where
  now : Int
  answer : Except UAAFailure UAAToken
  asked : Bool
  result : Option (Except Error String)
  deriving DecidableEq

def getNewClientToken : Except UAAFailure UAAToken → UAAToken
  | .ok token => token
  | .error _ => .empty

def loadAt (token : UAAToken) (now : Int)
    (answer : Except UAAFailure UAAToken) : Load × UAAToken :=
  match newTokenRequired unmarshal token now with
  | none => (⟨now, answer, false, none⟩, token)
  | some true =>
      (⟨now, answer, true,
        some ((answer.map UAAToken.access).mapError uaaErrorFor)⟩,
        getNewClientToken answer)
  | some false => (⟨now, answer, false, some (.ok token.access)⟩, token)

/-- Loads, one after the other; the state is the shared token. -/
def loads : Machine UAAToken (Int × Except UAAFailure UAAToken) Load where
  step token event :=
    let (load, next) := loadAt unmarshal token event.1 event.2
    some (next, [load])

/-- With a client that answers like this, a load is the one that the dispatches
rely on. -/
theorem load_loadAt (client : UAAClient) (token : UAAToken) (now : Int)
    (answer : Except UAAFailure UAAToken)
    (answers : client.getClientToken = answer.map UAAToken.access)
    (required : Bool)
    (decided : newTokenRequired unmarshal token now = some required) :
    (loadAt unmarshal token now answer).1.result =
      some (load client (if required then none else some token.access)) := by
  rw [loadAt, decided]
  cases required with
  | true => simp [load, answers]
  | false => simp [load]

/-! ## What a load depends on -/

/-- The token of the last load that asked the UAA. -/
def lastToken (loads : List Load) : UAAToken :=
  loads.foldl
    (fun token load =>
      if load.asked then getNewClientToken load.answer else token)
    .empty

def Malformed (token : UAAToken) : Prop :=
  token.access ≠ "" ∧ token.expiration unmarshal = none

/-- The last second that a token with this time is kept for: half a minute later,
as `int64`s count from the year 1. -/
def deadline (seconds : Int) : Int :=
  add64 (add64 seconds Time.unixToInternal) 30 - Time.unixToInternal

def Spent (token : UAAToken) (now : Int) : Prop :=
  token.access = "" ∨
    (∃ text, token.expiration unmarshal = some (.error text)) ∨
    ∃ seconds, token.expiration unmarshal = some (.ok seconds) ∧
      deadline seconds * second < now

variable {unmarshal}

def Plain (seconds : Int) : Prop :=
  -2 ^ 63 ≤ seconds ∧ seconds + Time.unixToInternal + 30 < 2 ^ 63

theorem add64_eq {left right : Int} (low : -2 ^ 63 ≤ left + right)
    (high : left + right < 2 ^ 63) : add64 left right = left + right := by
  rw [add64]
  exact Int.bmod_eq_of_le (by omega) (by omega)

theorem add64_wraps {left right : Int} (low : 2 ^ 63 ≤ left + right)
    (high : left + right < 2 ^ 64 + 2 ^ 63) :
    add64 left right = left + right - 2 ^ 64 := by
  have same : add64 left right = (left + right - 2 ^ 64).bmod (2 ^ 64) := by
    rw [add64]
    exact (Int.sub_bmod_right ..).symm
  rw [same]
  exact Int.bmod_eq_of_le (by omega) (by omega)

theorem deadline_eq {seconds : Int} (plain : Plain seconds) :
    deadline seconds = seconds + 30 := by
  obtain ⟨low, high⟩ := plain
  rw [Time.unixToInternal] at high
  rw [deadline, Time.unixToInternal,
    @add64_eq seconds 62135596800 (by omega) (by omega),
    add64_eq (by omega) (by omega)]
  omega

/-- A time near the end of the `int64`s lies in the distant past. -/
theorem deadline_wraps {seconds : Int} (late : ¬ Plain seconds)
    (low : -2 ^ 63 ≤ seconds) (high : seconds < 2 ^ 63) :
    deadline seconds = seconds + 30 - 2 ^ 64 := by
  rw [Plain, not_and, Time.unixToInternal] at late
  have late := late low
  rw [deadline, Time.unixToInternal]
  by_cases first : seconds + 62135596800 < 2 ^ 63
  · rw [@add64_eq seconds 62135596800 (by omega) first,
      add64_wraps (by omega) (by omega)]
    omega
  · rw [@add64_wraps seconds 62135596800 (by omega) (by omega),
      add64_eq (by omega) (by omega)]
    omega

theorem expires_iff {seconds now : Int} :
    ((Time.unix seconds).add toleratedRequestTime).before (.ofClock now) =
        true ↔
      deadline seconds * second < now := by
  have added : (Time.unix seconds).add toleratedRequestTime =
      ⟨deadline seconds + Time.unixToInternal, 0⟩ := by
    simp [Time.add, Time.unix, deadline, toleratedRequestTime, second]
  rw [added, Time.before_iff]
  simp only [Time.ofClock, second]
  omega

theorem newTokenRequired_none_iff {token : UAAToken} {now : Int} :
    newTokenRequired unmarshal token now = none ↔
      Malformed unmarshal token := by
  by_cases empty : token.access = ""
  · simp [newTokenRequired, Malformed, empty]
  · simp [newTokenRequired, Malformed, empty, expired, UAAToken.expiresBefore]

theorem newTokenRequired_true_iff {token : UAAToken} {now : Int} :
    newTokenRequired unmarshal token now = some true ↔
      Spent unmarshal token now := by
  by_cases empty : token.access = ""
  · simp [newTokenRequired, Spent, empty]
  · rw [newTokenRequired, if_neg empty, expired, UAAToken.expiresBefore]
    cases found : token.expiration unmarshal with
    | none => simp [Spent, empty, found]
    | some expiration =>
        cases expiration with
        | error text => simp [Spent, empty, found, Except.map]
        | ok seconds =>
            simp only [Spent, empty, found, Except.map, toleratedRequestTime,
              Option.map_some, Option.some.injEq, Except.ok.injEq,
              reduceCtorEq, exists_false, false_or, exists_eq_left']
            exact expires_iff

theorem asked_iff {token : UAAToken} {now : Int}
    {answer : Except UAAFailure UAAToken} :
    (loadAt unmarshal token now answer).1.asked = true ↔
      Spent unmarshal token now := by
  rw [← newTokenRequired_true_iff, loadAt]
  cases decided : newTokenRequired unmarshal token now with
  | none => simp
  | some required => cases required <;> simp

theorem result_eq_none_iff {token : UAAToken} {now : Int}
    {answer : Except UAAFailure UAAToken} :
    (loadAt unmarshal token now answer).1.result = none ↔
      Malformed unmarshal token := by
  have asked : newTokenRequired unmarshal token now = none ↔
      Malformed unmarshal token := newTokenRequired_none_iff
  rw [← asked, loadAt]
  cases decided : newTokenRequired unmarshal token now with
  | none => simp
  | some required => cases required <;> simp

theorem not_spent_of_malformed {token : UAAToken}
    (malformed : Malformed unmarshal token) (now : Int) :
    ¬ Spent unmarshal token now := by
  rintro (empty | ⟨text, found⟩ | ⟨seconds, found, _⟩)
  · exact malformed.1 empty
  · rw [malformed.2] at found
    cases found
  · rw [malformed.2] at found
    cases found

/-- A token with a time that late is asked for again at once. -/
theorem spent_of_late {token : UAAToken} {seconds now : Int}
    (found : token.expiration unmarshal = some (.ok seconds))
    (late : ¬ Plain seconds) (low : -2 ^ 63 ≤ seconds)
    (high : seconds < 2 ^ 63) (clock : 0 ≤ now) :
    Spent unmarshal token now := by
  refine .inr (.inr ⟨seconds, found, ?_⟩)
  rw [deadline_wraps late low high, second]
  omega

theorem lastToken_append (before : List Load) (load : Load) :
    lastToken (before ++ [load]) =
      if load.asked then getNewClientToken load.answer
      else lastToken before := by
  simp [lastToken]

/-- The state after a load is what the load itself says. -/
theorem loadAt_next (token : UAAToken) (now : Int)
    (answer : Except UAAFailure UAAToken) :
    (loadAt unmarshal token now answer).2 =
      if (loadAt unmarshal token now answer).1.asked then
        getNewClientToken (loadAt unmarshal token now answer).1.answer
      else
        token := by
  rw [loadAt]
  cases newTokenRequired unmarshal token now with
  | none => rfl
  | some required => cases required <;> rfl

theorem loadAt_self (token : UAAToken) (now : Int)
    (answer : Except UAAFailure UAAToken) :
    loadAt unmarshal token (loadAt unmarshal token now answer).1.now
      (loadAt unmarshal token now answer).1.answer =
        loadAt unmarshal token now answer := by
  have same : (loadAt unmarshal token now answer).1.now = now ∧
      (loadAt unmarshal token now answer).1.answer = answer := by
    rw [loadAt]
    cases newTokenRequired unmarshal token now with
    | none => exact ⟨rfl, rfl⟩
    | some required => cases required <;> exact ⟨rfl, rfl⟩
  rw [same.1, same.2]

/-- Every load is made with the token of the last one that asked. -/
theorem loads_history {events : List (Int × Except UAAFailure UAAToken)}
    {final : UAAToken} {trace : List Load}
    (ran : (loads unmarshal).run events .empty = some (final, trace)) :
    final = lastToken trace ∧ ∀ before load after,
      trace = before ++ load :: after →
        load = (loadAt unmarshal (lastToken before) load.now load.answer).1 := by
  refine (loads unmarshal).run_invariant (fun _ _ => True)
    (fun trace token => token = lastToken trace ∧ ∀ before load after,
      trace = before ++ load :: after →
        load = (loadAt unmarshal (lastToken before) load.now load.answer).1)
    ?_ events [] _ final trace ⟨rfl, by simp⟩
    ((loads unmarshal).guarded_of_forall (fun _ _ _ => trivial) _) ran
  rintro trace token event next shown ⟨rfl, earlier⟩ _ stepped
  cases stepped
  refine ⟨(loadAt_next _ _ _).trans (lastToken_append _ _).symm, ?_⟩
  · intro before load after split
    rcases List.eq_nil_or_concat after with rfl | ⟨others, last, rfl⟩
    · obtain ⟨rfl, same⟩ := List.append_inj' split rfl
      obtain ⟨rfl, _⟩ := List.cons.inj same
      exact (congrArg Prod.fst (loadAt_self _ _ _)).symm
    · have shorter : trace = before ++ load :: others := by
        have cut := congrArg List.dropLast split
        rw [List.dropLast_concat, List.concat_eq_append] at cut
        rw [cut, ← List.cons_append, ← List.append_assoc, List.dropLast_concat]
      exact earlier before load others shorter

theorem result_of_asked {token : UAAToken} {now : Int}
    {answer : Except UAAFailure UAAToken}
    (asked : (loadAt unmarshal token now answer).1.asked = true) :
    (loadAt unmarshal token now answer).1.result =
      some ((answer.map UAAToken.access).mapError uaaErrorFor) := by
  rw [loadAt] at asked ⊢
  cases decided : newTokenRequired unmarshal token now with
  | none => simp [decided] at asked
  | some required =>
      cases required with
      | true => rfl
      | false => simp [decided] at asked

theorem result_of_kept {token : UAAToken} {now : Int}
    {answer : Except UAAFailure UAAToken}
    (kept : (loadAt unmarshal token now answer).1.asked = false)
    (returned : (loadAt unmarshal token now answer).1.result ≠ none) :
    (loadAt unmarshal token now answer).1.result =
      some (.ok token.access) := by
  rw [loadAt] at kept returned ⊢
  cases decided : newTokenRequired unmarshal token now with
  | none => simp [decided] at returned
  | some required =>
      cases required with
      | true => simp [decided] at kept
      | false => rfl

section History

variable {events : List (Int × Except UAAFailure UAAToken)}
  {final : UAAToken} {trace : List Load}

/-- The loader gives nothing new to a load that panics, so the next one panics
too. -/
theorem panics_follow
    (ran : (loads unmarshal).run events .empty = some (final, trace))
    {before after : List Load} {load : Load}
    (split : trace = before ++ load :: after) (panics : load.result = none) :
    ∀ later ∈ after, later.result = none := by
  obtain ⟨_, history⟩ := loads_history ran
  induction after generalizing before load with
  | nil => simp
  | cons next after ih =>
      have made := history before load (next :: after) split
      have malformed : Malformed unmarshal (lastToken before) := by
        rw [← result_eq_none_iff, ← made]
        exact panics
      have kept : load.asked = false := by
        have asks := @asked_iff unmarshal (lastToken before) load.now
          load.answer
        rw [← made] at asks
        rw [Bool.eq_false_iff, ne_eq, asks]
        exact not_spent_of_malformed malformed load.now
      have further : trace = (before ++ [load]) ++ next :: after := by
        simp [split]
      have followed := history (before ++ [load]) next after further
      rw [lastToken_append, kept, if_neg (by simp)] at followed
      have again : next.result = none := by
        rw [followed, result_eq_none_iff]
        exact malformed
      rw [List.forall_mem_cons]
      exact ⟨again, ih further again⟩

/-- Whatever the clocks and the UAA: a load asks if the last token that came is
spent, panics if it is malformed, and hands it out otherwise; and once a load
has panicked all later ones do. -/
theorem loads_follow
    (ran : (loads unmarshal).run events .empty = some (final, trace))
    (before after : List Load) (load : Load)
    (split : trace = before ++ load :: after) :
    (load.asked = true ↔ Spent unmarshal (lastToken before) load.now) ∧
      (load.asked = true → load.result =
        some ((load.answer.map UAAToken.access).mapError uaaErrorFor)) ∧
      (load.result = none ↔ Malformed unmarshal (lastToken before)) ∧
      (load.asked = false → load.result ≠ none →
        load.result = some (.ok (lastToken before).access)) ∧
      (load.result = none → ∀ later ∈ after, later.result = none) := by
  obtain ⟨_, history⟩ := loads_history ran
  have made := history before load after split
  have asks := @asked_iff unmarshal (lastToken before) load.now load.answer
  have fetched := @result_of_asked unmarshal (lastToken before) load.now
    load.answer
  have panics := @result_eq_none_iff unmarshal (lastToken before) load.now
    load.answer
  have keeps := @result_of_kept unmarshal (lastToken before) load.now
    load.answer
  rw [← made] at asks fetched panics keeps
  exact ⟨asks, fetched, panics, keeps, panics_follow ran split⟩

end History

/-! ## How often the UAA is asked -/

variable (unmarshal) in
/-- The UAA answered with a token that is good for that long. -/
def Lasting (life : Nat) (load : Load) : Prop :=
  ∃ token seconds, load.answer = .ok token ∧ token.access ≠ "" ∧
    token.expiration unmarshal = some (.ok seconds) ∧ Plain seconds ∧
      load.now + life ≤ seconds * second

/-- The last load that asked, on a clock that does not go back. -/
theorem exists_last {loads : List Load}
    (clock : (loads.map Load.now).Pairwise (· ≤ ·))
    {one : Load} (member : one ∈ loads) (asked : one.asked = true) :
    ∃ last ∈ loads, last.asked = true ∧
      lastToken loads = getNewClientToken last.answer ∧
      one.now ≤ last.now := by
  induction loads using List.reverseRecOn with
  | nil => cases member
  | append_singleton before load ih =>
      rw [List.map_append, List.pairwise_append] at clock
      rw [lastToken_append]
      cases asks : load.asked with
      | true =>
          refine ⟨load, by simp, asks, rfl, ?_⟩
          rcases List.mem_append.mp member with earlier | here
          · exact clock.2.2 one.now (List.mem_map_of_mem earlier) load.now
              (by simp)
          · rw [List.mem_singleton.mp here]
      | false =>
          have earlier : one ∈ before := by
            rcases List.mem_append.mp member with earlier | here
            · exact earlier
            · rw [List.mem_singleton.mp here, asks] at asked
              cases asked
          obtain ⟨last, listed, rest⟩ := ih clock.1 earlier
          exact ⟨last, List.mem_append_left _ listed, rest⟩

/-- A lasting token is not spent for its life and half a minute more. -/
theorem lt_of_spent {life : Nat} {last : Load} {now : Int}
    (lasting : Lasting unmarshal life last)
    (spent : Spent unmarshal (getNewClientToken last.answer) now) :
    last.now + (life + 30 * second) < now := by
  obtain ⟨token, seconds, answer, filled, found, plain, long⟩ := lasting
  rw [answer] at spent
  rcases spent with empty | ⟨text, other⟩ | ⟨others, other, late⟩
  · exact absurd empty filled
  · rw [getNewClientToken, found] at other
    cases other
  · rw [getNewClientToken, found] at other
    cases other
    rw [deadline_eq plain, second] at late
    rw [second] at long ⊢
    omega

section Rate

variable {events : List (Int × Except UAAFailure UAAToken)}
  {final : UAAToken} {trace : List Load} {life : Nat}

theorem asks_apart
    (ran : (loads unmarshal).run events .empty = some (final, trace))
    (clock : (trace.map Load.now).Pairwise (· ≤ ·))
    (lasting : ∀ load ∈ trace, load.asked = true →
      Lasting unmarshal life load) :
    ((trace.filter Load.asked).map Load.now).Pairwise
      fun one other => one + (life + 30 * second) < other := by
  obtain ⟨_, history⟩ := loads_history ran
  have start : ∀ before after, trace = before ++ after →
      ((before.filter Load.asked).map Load.now).Pairwise
        fun one other => one + (life + 30 * second) < other := by
    intro before
    induction before using List.reverseRecOn with
    | nil => simp
    | append_singleton before load ih =>
        intro after whole
        rw [List.append_assoc, List.singleton_append] at whole
        have made := history before load after whole
        have earlier := ih (load :: after) whole
        cases asks : load.asked with
        | false => simpa [asks] using earlier
        | true =>
            have spent : Spent unmarshal (lastToken before) load.now := by
              refine (@asked_iff unmarshal _ _ load.answer).mp ?_
              rw [← made]
              exact asks
            rw [List.filter_append, List.map_append, List.pairwise_append]
            refine ⟨earlier, by simp [asks], ?_⟩
            intro one member other here
            obtain ⟨first, chosen, rfl⟩ := List.mem_map.mp member
            obtain ⟨listed, asked⟩ := List.mem_filter.mp chosen
            obtain rfl : other = load.now := by simpa [asks] using here
            rw [whole, List.map_append, List.pairwise_append] at clock
            obtain ⟨last, present, wanted, same, order⟩ :=
              exists_last clock.1 listed asked
            rw [same] at spent
            have late := lt_of_spent
              (lasting last (by rw [whole]; simp [present]) wanted) spent
            omega
  exact start trace [] (by simp)

theorem length_of_apart {gap : Nat} {times : List Int} {start finish : Int}
    (apart : times.Pairwise fun one other => one + (gap : Int) < other)
    (within : ∀ time ∈ times, start ≤ time ∧ time ≤ finish)
    (order : start ≤ finish) :
    ((times.length : Int) - 1) * gap ≤ finish - start := by
  induction times generalizing start with
  | nil =>
      simp only [List.length_nil]
      omega
  | cons first rest ih =>
      rw [List.pairwise_cons] at apart
      have here := within first (by simp)
      cases rest with
      | nil =>
          simp only [List.length_singleton]
          omega
      | cons second rest =>
          have inside : ∀ time ∈ second :: rest,
              first + (gap : Int) ≤ time ∧ time ≤ finish := by
            intro time member
            have bound := apart.1 time member
            have upper := (within time (List.mem_cons_of_mem _ member)).2
            omega
          have order : first + (gap : Int) ≤ finish := by
            have inside := inside second (by simp)
            omega
          have later := ih apart.2 inside order
          simp only [List.length_cons, Nat.cast_add, Nat.cast_one] at later ⊢
          linarith

/-- On a clock that does not go back, with a UAA whose tokens last: in a period
the loader asks for one token, and for one more each time that a life and half
a minute go by. -/
theorem asks_rarely
    (ran : (loads unmarshal).run events .empty = some (final, trace))
    (clock : (trace.map Load.now).Pairwise (· ≤ ·))
    (lasting : ∀ load ∈ trace, load.asked = true →
      Lasting unmarshal life load)
    {start finish : Int} (order : start ≤ finish)
    (within : ∀ load ∈ trace, start ≤ load.now ∧ load.now ≤ finish) :
    (((trace.filter Load.asked).length : Int) - 1) * (life + 30 * second) ≤
      finish - start := by
  have apart := asks_apart ran clock lasting
  have count := @length_of_apart (life + 30 * 1000000000)
    ((trace.filter Load.asked).map Load.now) start finish
    (by simpa [second] using apart) (by
      intro time member
      obtain ⟨load, chosen, rfl⟩ := List.mem_map.mp member
      exact within load (List.mem_filter.mp chosen).1) order
  simpa [second] using count

end Rate

/-! ## Three loads, two of them with a question -/

def sampleUnmarshal (bytes : List UInt8) : Except String Fields :=
  if bytes = Bytes.utf8 "\x7b\"exp\":100\x7d" then .ok [("exp", .number 100)]
  else if bytes = Bytes.utf8 "\x7b\"exp\":300\x7d" then
    .ok [("exp", .number 300)]
  else .error "invalid character"

def firstToken : UAAToken := ⟨"e30.eyJleHAiOjEwMH0.c2ln", ""⟩

def secondToken : UAAToken := ⟨"e30.eyJleHAiOjMwMH0.c2ln", ""⟩

def sampleLoads : List (Int × Except UAAFailure UAAToken) :=
  [(0, .ok firstToken), (50 * second, .ok secondToken),
    (131 * second, .ok secondToken)]

def sampleTrace : List Load :=
  [⟨0, .ok firstToken, true, some (.ok firstToken.access)⟩,
    ⟨50 * second, .ok secondToken, false, some (.ok firstToken.access)⟩,
    ⟨131 * second, .ok secondToken, true, some (.ok secondToken.access)⟩]

theorem sample_ran : (loads sampleUnmarshal).run sampleLoads .empty =
    some (secondToken, sampleTrace) := by decide +kernel

theorem sample_kept : ∃ before load after,
    sampleTrace = before ++ load :: after ∧ load.asked = false ∧
      load.result = some (.ok (lastToken before).access) := by
  have follows := loads_follow sample_ran
    [⟨0, .ok firstToken, true, some (.ok firstToken.access)⟩] _ _ rfl
  exact ⟨_, _, _, rfl, rfl, follows.2.2.2.1 rfl nofun⟩

theorem sample_rate :
    (((sampleTrace.filter Load.asked).length : Int) - 1) *
      (60000000000 + 30 * second) ≤ 131 * second - 0 := by
  refine asks_rarely sample_ran (by decide) ?_ (by decide) (by decide)
  intro load member asked
  simp only [sampleTrace, List.mem_cons, List.not_mem_nil, or_false] at member
  rcases member with rfl | rfl | rfl
  · exact ⟨firstToken, 100, rfl, by decide, by decide +kernel,
      ⟨by decide, by decide⟩, by decide⟩
  · cases asked
  · exact ⟨secondToken, 300, rfl, by decide, by decide +kernel,
      ⟨by decide, by decide⟩, by decide⟩

end TokenLoader

end Notifications.Postal
