import Mathlib.Data.List.Chain
import Mathlib.Data.List.Induction
import Notifications.Lib.Escape
import Notifications.Postal.Utilities

/-!
# Pages of users

The lists of users of the vendored rainmaker client.  A list is one page with
the URLs of its neighbours, and `AllUsers` walks to the first page and then to
the last.  Both loops have no bound of their own, and are given one.
-/

set_option autoImplicit false

namespace Notifications.Postal.Pages

open Notifications.Lib

/-! ## Requests -/

/-- A `GET` of a path with an encoded query. -/
structure Request where
  path : String
  query : String
  token : String
  deriving DecidableEq, Repr

/-- The status and the body, or an error before there is a status. -/
abbrev Response : Type := Except RainmakerError (Nat × String)

abbrev Requests (α : Type) : Type := Program Request (fun _ => Response) α

/-- `rainmaker.UsersList`, with the GUIDs of its users. -/
structure UsersList where
  nextURL : String
  prevURL : String
  users : List String
  deriving DecidableEq, Repr

/-- The library functions: `url.Parse` to the path and the encoded query, and
`json.Unmarshal` into a `UsersListResponse`. -/
structure Library where
  parse : String → Except String (String × String)
  unmarshal : String → Except String UsersList

/-- `makeRequest`, where only the status 200 is acceptable. -/
def makeRequest (path query token : String) :
    Requests (Except RainmakerError String) := do
  match ← Program.perform ⟨path, query, token⟩ with
  | .error error => pure (.error error)
  | .ok (status, body) =>
      if status = 404 then
        pure (.error (.notFound body))
      else if status = 401 then
        pure (.error (.unauthorized body))
      else if status = 200 then
        pure (.ok body)
      else
        pure (.error (.unexpectedStatus status body))

variable (library : Library)

/-- `Fetch`; a body that is no list is a panic. -/
def fetch (path query token : String) :
    Requests (Except RainmakerError UsersList) := do
  match ← makeRequest path query token with
  | .error error => pure (.error error)
  | .ok body =>
      match library.unmarshal body with
      | .error text => .panic text
      | .ok list => pure (.ok list)

/-- What `Next` and `Prev` do with their URL. -/
def follow (url token : String) : Requests (Except RainmakerError UsersList) :=
  match library.parse ("http://example.com" ++ url) with
  | .error text => pure (.error (.url text))
  | .ok (path, query) => fetch library path query token

def UsersList.hasNextPage (list : UsersList) : Bool := list.nextURL ≠ ""

def UsersList.hasPrevPage (list : UsersList) : Bool := list.prevURL ≠ ""

def UsersList.next (list : UsersList) (token : String) :
    Requests (Except RainmakerError UsersList) :=
  follow library list.nextURL token

def UsersList.prev (list : UsersList) (token : String) :
    Requests (Except RainmakerError UsersList) :=
  follow library list.prevURL token

/-! ## Walking -/

/-- The first loop of `AllUsers`: the first page, and the users before the list;
nothing when the bound is too small. -/
def back (token : String) : Nat → UsersList → List String →
    Requests (Option (Except RainmakerError (UsersList × List String)))
  | 0, _, _ => pure none
  | bound + 1, l, users =>
      if l.hasPrevPage then do
        match ← l.prev library token with
        | .error error => pure (some (.error error))
        | .ok l => back token bound l (l.users ++ users)
      else
        pure (some (.ok (l, users)))

def forth (token : String) : Nat → UsersList → List String →
    Requests (Option (Except RainmakerError (List String)))
  | 0, _, _ => pure none
  | bound + 1, l, users =>
      if l.hasNextPage then do
        match ← l.next library token with
        | .error error => pure (some (.error error))
        | .ok l => forth token bound l (users ++ l.users)
      else
        pure (some (.ok users))

def UsersList.allUsers (bound : Nat) (list : UsersList) (token : String) :
    Requests (Option (Except RainmakerError (List String))) := do
  match ← back library token bound list [] with
  | none => pure none
  | some (.error error) => pure (some (.error error))
  | some (.ok (l, users)) => forth library token bound l (users ++ list.users)

/-! ## The lists -/

inductive Plan where
  | space (guid : String)
  | users (orgGUID : String)
  | managers (orgGUID : String)
  | auditors (orgGUID : String)
  | billingManagers (orgGUID : String)
  deriving DecidableEq, Repr

def Plan.path : Plan → String
  | space _ => "/v2/users"
  | users orgGUID => "/v2/organizations/" ++ orgGUID ++ "/users"
  | managers orgGUID => "/v2/organizations/" ++ orgGUID ++ "/managers"
  | auditors orgGUID => "/v2/organizations/" ++ orgGUID ++ "/auditors"
  | billingManagers orgGUID =>
      "/v2/organizations/" ++ orgGUID ++ "/billing_managers"

def Plan.query : Plan → String
  | space guid =>
      "q=" ++ String.ofList (queryEscape ("space_guid:" ++ guid).toList)
  | _ => ""

/-- `GetUsersBySpaceGuid` and its siblings. -/
def getUsers (bound : Nat) (plan : Plan) (token : String) :
    Requests (Option (Except RainmakerError (List String))) := do
  match ← fetch library plan.path plan.query token with
  | .error error => pure (some (.error error))
  | .ok list => list.allUsers library bound token

/-! ## The GUIDs of a dispatch -/

/-- The list of an organization's users for a role. -/
def Plan.ofRole (orgGUID role : String) : Plan :=
  if role = "OrgManager" then .managers orgGUID
  else if role = "OrgAuditor" then .auditors orgGUID
  else if role = "BillingManager" then .billingManagers orgGUID
  else .users orgGUID

def Plan.list (client : Rainmaker) (token : String) :
    Plan → Except RainmakerError Postal.UsersList
  | space guid => client.listSpaceUsers guid token
  | users orgGUID => client.listUsers orgGUID token
  | managers orgGUID => client.listManagers orgGUID token
  | auditors orgGUID => client.listAuditors orgGUID token
  | billingManagers orgGUID => client.listBillingManagers orgGUID token

theorem userGUIDsBelongingToOrganization_eq (client : Rainmaker)
    (orgGUID role token : String) :
    FindsUserGUIDs.userGUIDsBelongingToOrganization client orgGUID role token =
      CloudController.users ((Plan.ofRole orgGUID role).list client token) := by
  rw [FindsUserGUIDs.userGUIDsBelongingToOrganization, Plan.ofRole]
  by_cases manager : role = "OrgManager"
  · rw [if_pos manager, if_pos manager]
    rfl
  · rw [if_neg manager, if_neg manager]
    by_cases auditor : role = "OrgAuditor"
    · rw [if_pos auditor, if_pos auditor]
      rfl
    · rw [if_neg auditor, if_neg auditor]
      by_cases billing : role = "BillingManager"
      · rw [if_pos billing, if_pos billing]
        rfl
      · rw [if_neg billing, if_neg billing]
        rfl

/-! ## Every page -/

variable {library} {respond : Request → Response} {token : String}

def At (library : Library) (respond : Request → Response)
    (path query token : String) (page : UsersList) : Prop :=
  ∃ body, respond ⟨path, query, token⟩ = .ok (200, body) ∧
    library.unmarshal body = .ok page

def Leads (library : Library) (respond : Request → Response) (token url : String)
    (page : UsersList) : Prop :=
  url ≠ "" ∧ ∃ path query,
    library.parse ("http://example.com" ++ url) = .ok (path, query) ∧
      At library respond path query token page

def Linked (library : Library) (respond : Request → Response) (token : String)
    (one other : UsersList) : Prop :=
  Leads library respond token one.nextURL other ∧
    Leads library respond token other.prevURL one

/-- The answers do not change while the pages are walked. -/
abbrev serve (respond : Request → Response) (_ : Unit) (request : Request) :
    Response × Unit :=
  (respond request, ())

theorem fetch_run {path query : String} {page : UsersList}
    (here : At library respond path query token page) :
    (fetch library path query token).run (serve respond) () =
      (some (.ok page), ()) := by
  obtain ⟨body, answered, decoded⟩ := here
  simp [fetch, makeRequest, answered, decoded]

theorem follow_run {url : String} {page : UsersList}
    (leads : Leads library respond token url page) :
    (follow library url token).run (serve respond) () =
      (some (.ok page), ()) := by
  obtain ⟨_, path, query, parsed, here⟩ := leads
  rw [follow, parsed]
  exact fetch_run here

/-- The client's lists hold what the walks return. -/
def Walks (library : Library) (respond : Request → Response) (token : String)
    (client : Rainmaker) : Prop :=
  ∀ plan bound users,
    ((getUsers library bound plan token).run (serve respond) ()).1 =
        some (some users) →
      (plan.list client token).bind Postal.UsersList.allUsers = users

structure Book (library : Library) (respond : Request → Response)
    (token : String) (pages : List UsersList) : Prop where
  linked : pages.IsChain (Linked library respond token)
  first : ∀ page ∈ pages.head?, page.prevURL = ""
  last : ∀ page ∈ pages.getLast?, page.nextURL = ""

/-- The first loop comes to the first page, with the users before the one it
started from. -/
theorem back_run {before : List UsersList} {l : UsersList}
    (linked : (before ++ [l]).IsChain (Linked library respond token))
    (first : ∀ page ∈ (before ++ [l]).head?, page.prevURL = "")
    {bound : Nat} (enough : before.length ≤ bound) (users : List String) :
    ∃ page, (before ++ [l]).head? = some page ∧
      (back library token (bound + 1) l users).run (serve respond) () =
        (some (some (.ok (page, before.flatMap UsersList.users ++ users))),
          ()) := by
  induction before using List.reverseRecOn generalizing l users bound with
  | nil =>
      have alone : l.prevURL = "" := first l (by simp)
      exact ⟨l, rfl, by simp [back, UsersList.hasPrevPage, alone]⟩
  | append_singleton before previous ih =>
      rw [List.length_append, List.length_singleton] at enough
      obtain ⟨bound, rfl⟩ : ∃ fewer, bound = fewer + 1 :=
        ⟨bound - 1, by omega⟩
      rw [List.append_assoc, List.singleton_append,
        List.isChain_append_cons_cons] at linked
      obtain ⟨earlier, ⟨_, leads⟩, _⟩ := linked
      have start : (before ++ [previous]).head? =
          (before ++ [previous] ++ [l]).head? := by
        cases before <;> rfl
      have fewer : before.length ≤ bound := by omega
      obtain ⟨page, here, ran⟩ := ih earlier (by rwa [start]) fewer
        (previous.users ++ users)
      refine ⟨page, by rw [← start, here], ?_⟩
      have more : l.hasPrevPage = true := by
        simp [UsersList.hasPrevPage, leads.1]
      rw [back, if_pos more, UsersList.prev,
        Program.run_bind_of _ (follow_run leads)]
      simpa using ran

/-- The second loop adds the users of the pages that follow. -/
theorem forth_run {after : List UsersList} {l : UsersList}
    (linked : (l :: after).IsChain (Linked library respond token))
    (last : ∀ page ∈ (l :: after).getLast?, page.nextURL = "")
    {bound : Nat} (enough : after.length ≤ bound) (users : List String) :
    (forth library token (bound + 1) l users).run (serve respond) () =
      (some (some (.ok (users ++ after.flatMap UsersList.users))), ()) := by
  induction after generalizing l users bound with
  | nil =>
      have alone : l.nextURL = "" := last l (by simp)
      simp [forth, UsersList.hasNextPage, alone]
  | cons next after ih =>
      rw [List.length_cons] at enough
      obtain ⟨bound, rfl⟩ : ∃ fewer, bound = fewer + 1 :=
        ⟨bound - 1, by omega⟩
      rw [List.isChain_cons_cons] at linked
      obtain ⟨⟨leads, _⟩, later⟩ := linked
      have more : l.hasNextPage = true := by
        simp [UsersList.hasNextPage, leads.1]
      rw [forth, if_pos more, UsersList.next,
        Program.run_bind_of _ (follow_run leads)]
      have fewer : after.length ≤ bound := by omega
      have ran := ih later (by simpa using last) fewer (users ++ next.users)
      simpa using ran

section Whole

variable {pages before after : List UsersList} {list : UsersList}

/-- Started from any page, `AllUsers` returns the users up to this page and
then those of all pages but the first. -/
theorem allUsers_run (book : Book library respond token pages)
    (whole : pages = before ++ list :: after) :
    (list.allUsers library (pages.length + 1) token).run (serve respond) () =
      (some (some (.ok ((before ++ [list]).flatMap UsersList.users ++
        pages.tail.flatMap UsersList.users))), ()) := by
  have split : pages = before ++ [list] ++ after := by simp [whole]
  have linked := book.linked
  rw [split, List.isChain_append] at linked
  have heads : (before ++ [list]).head? = pages.head? := by
    rw [split]
    cases before <;> rfl
  have short : before.length ≤ pages.length := by simp [whole]
  obtain ⟨page, first, ran⟩ := back_run linked.1
    (fun page member => book.first page (by rwa [← heads])) short []
  rw [heads] at first
  obtain ⟨rest, rfl⟩ : ∃ rest, pages = page :: rest := by
    cases pages with
    | nil => cases first
    | cons other rest =>
        obtain rfl := Option.some.inj first
        exact ⟨rest, rfl⟩
  have fewer : rest.length ≤ (page :: rest).length := by simp
  rw [UsersList.allUsers, Program.run_bind_of _ ran]
  simp only []
  rw [forth_run book.linked book.last fewer]
  simp

theorem nodup_repeat_iff {α : Type} (first middle last : List α) :
    (first ++ middle ++ (middle ++ last)).Nodup ↔
      (first ++ middle ++ last).Nodup ∧ middle = [] := by
  constructor
  · intro apart
    have none : middle = [] := by
      rw [List.eq_nil_iff_forall_not_mem]
      intro item member
      rw [List.nodup_append] at apart
      exact apart.2.2 item (by simp [member]) item (by simp [member]) rfl
    subst none
    exact ⟨by simpa using apart, rfl⟩
  · rintro ⟨apart, rfl⟩
    simpa using apart

/-- Nobody is returned twice exactly if nobody is on two pages and there are no
users from the second page to the one it starts from. -/
theorem allUsers_nodup_iff :
    ((before ++ [list]).flatMap UsersList.users ++
      (before ++ list :: after).tail.flatMap UsersList.users).Nodup ↔
    ((before ++ list :: after).flatMap UsersList.users).Nodup ∧
      (before ++ [list]).tail.flatMap UsersList.users = [] := by
  cases before with
  | nil => simp
  | cons first before =>
      have repeated := nodup_repeat_iff first.users
        ((before ++ [list]).flatMap UsersList.users)
        (after.flatMap UsersList.users)
      simpa using repeated

/-- From the first page on, every user of every page is returned once, in their
order. -/
theorem getUsers_run {plan : Plan} {first : UsersList} {rest : List UsersList}
    (book : Book library respond token (first :: rest))
    (here : At library respond plan.path plan.query token first) :
    (getUsers library (rest.length + 2) plan token).run (serve respond) () =
      (some (some (.ok ((first :: rest).flatMap UsersList.users))), ()) := by
  have walked := @allUsers_run library respond token _ [] rest first book rfl
  rw [getUsers, Program.run_bind_of _ (fetch_run here)]
  simpa using walked

theorem users_of_walk {client : Rainmaker} {plan : Plan} {first : UsersList}
    {rest : List UsersList}
    (book : Book library respond token (first :: rest))
    (here : At library respond plan.path plan.query token first)
    (walks : Walks library respond token client) :
    CloudController.users (plan.list client token) =
      .ok ((first :: rest).flatMap UsersList.users) := by
  have returned := walks plan (rest.length + 2) _
    (congrArg Prod.fst (getUsers_run book here))
  rw [CloudController.users, returned]
  rfl

/-- The list that a plan asks for begins with the first page, and then every
user of every page is found for a dispatch, in their order.  Started from a
later page, `AllUsers` returns the users from the second page to this one
twice. -/
theorem users_of_pages {client : Rainmaker} {first : UsersList}
    {rest : List UsersList}
    (book : Book library respond token (first :: rest))
    (walks : Walks library respond token client) :
    (∀ plan : Plan, At library respond plan.path plan.query token first →
      (getUsers library (rest.length + 2) plan token).run (serve respond) () =
          (some (some (.ok ((first :: rest).flatMap UsersList.users))), ()) ∧
        (∀ spaceGUID, plan = .space spaceGUID →
          FindsUserGUIDs.userGUIDsBelongingToSpace client spaceGUID token =
            .ok ((first :: rest).flatMap UsersList.users)) ∧
        ∀ orgGUID role, plan = Plan.ofRole orgGUID role →
          FindsUserGUIDs.userGUIDsBelongingToOrganization client orgGUID role
            token = .ok ((first :: rest).flatMap UsersList.users)) ∧
      ∀ before list after, first :: rest = before ++ list :: after →
        ∃ users, (list.allUsers library (rest.length + 2) token).run
            (serve respond) () = (some (some (.ok users)), ()) ∧
          users = (before ++ [list]).flatMap UsersList.users ++
            rest.flatMap UsersList.users ∧
          (users.Nodup ↔
            ((first :: rest).flatMap UsersList.users).Nodup ∧
              (before ++ [list]).tail.flatMap UsersList.users = []) := by
  constructor
  · intro plan here
    have found := users_of_walk book here walks
    refine ⟨getUsers_run book here, ?_, ?_⟩
    · rintro spaceGUID rfl
      exact found
    · rintro orgGUID role rfl
      rw [userGUIDsBelongingToOrganization_eq]
      exact found
  · intro before list after whole
    refine ⟨_, allUsers_run book whole, rfl, ?_⟩
    have twice := @allUsers_nodup_iff before after list
    rwa [← whole] at twice

end Whole

/-! ## Two pages of a space -/

def sampleFirst : UsersList := ⟨"/v2/users?page=2", "", ["user-1"]⟩

def sampleSecond : UsersList := ⟨"", "/v2/users?page=1", ["user-2"]⟩

def sampleBodies : List (String × UsersList) :=
  [("\x7b\"prev_url\":null,\"next_url\":\"/v2/users?page=2\"," ++
      "\"resources\":[\x7b\"metadata\":\x7b\"guid\":\"user-1\"\x7d\x7d]\x7d",
    sampleFirst),
    ("\x7b\"prev_url\":\"/v2/users?page=1\",\"next_url\":null," ++
      "\"resources\":[\x7b\"metadata\":\x7b\"guid\":\"user-2\"\x7d\x7d]\x7d",
    sampleSecond)]

def sampleLibrary : Library where
  parse url :=
    if url = "http://example.com/v2/users?page=1" then .ok ("/v2/users", "page=1")
    else if url = "http://example.com/v2/users?page=2" then
      .ok ("/v2/users", "page=2")
    else .error "invalid URL"
  unmarshal body :=
    match sampleBodies.lookup body with
    | some list => .ok list
    | none => .error "invalid character"

def sampleRespond (request : Request) : Response :=
  if request.path = "/v2/users" then
    if request.query = "page=2" then
      .ok (200, (sampleBodies.map Prod.fst).getD 1 "")
    else
      .ok (200, (sampleBodies.map Prod.fst).getD 0 "")
  else
    .ok (404, "")

theorem sample_book :
    Book sampleLibrary sampleRespond "token" [sampleFirst, sampleSecond] where
  linked := by
    rw [List.isChain_cons_cons]
    refine ⟨⟨⟨by decide, "/v2/users", "page=2", by decide +kernel, _,
      rfl, by decide +kernel⟩, ⟨by decide, "/v2/users", "page=1",
      by decide +kernel, _, rfl, by decide +kernel⟩⟩, List.isChain_singleton _⟩
  first := by decide
  last := by decide

def sampleList (plan : Plan) : Except RainmakerError Postal.UsersList :=
  if plan.path = "/v2/users" then .ok ⟨.ok ["user-1", "user-2"]⟩
  else .error (.notFound "")

def sampleClient : Rainmaker where
  getSpace _ _ := .error (.notFound "")
  listSpaceUsers guid _ := sampleList (.space guid)
  getOrganization _ _ := .error (.notFound "")
  listUsers guid _ := sampleList (.users guid)
  listManagers guid _ := sampleList (.managers guid)
  listAuditors guid _ := sampleList (.auditors guid)
  listBillingManagers guid _ := sampleList (.billingManagers guid)

theorem sample_space (guid : String) :
    sampleRespond ⟨"/v2/users", (Plan.space guid).query, "token"⟩ =
      sampleRespond ⟨"/v2/users", "page=1", "token"⟩ := by
  have other : (Plan.space guid).query ≠ "page=2" := by
    intro same
    simpa [Plan.query] using congrArg String.toList same
  simp [sampleRespond, other]

theorem sample_found (guid : String) :
    At sampleLibrary sampleRespond "/v2/users" (Plan.space guid).query "token"
      sampleFirst := by
  rw [At, sample_space]
  exact ⟨_, rfl, by decide +kernel⟩

theorem sample_missing {path query : String} (other : path ≠ "/v2/users") :
    (fetch sampleLibrary path query "token").run (serve sampleRespond) () =
      (some (.error (.notFound "")), ()) := by
  simp [fetch, makeRequest, sampleRespond, other]

/-- With less than two steps the walk does not come to its end. -/
theorem sample_walk (bound : Nat) :
    ((sampleFirst.allUsers sampleLibrary bound "token").run
        (serve sampleRespond) ()).1 =
      if bound ≤ 1 then some none
      else some (some (.ok ["user-1", "user-2"])) := by
  match bound with
  | 0 => rfl
  | 1 => decide +kernel
  | bound + 2 =>
      have enough : [sampleSecond].length ≤ bound + 1 := by simp
      have walked := forth_run sample_book.linked sample_book.last enough
        sampleFirst.users
      have started : (back sampleLibrary "token" (bound + 2) sampleFirst []).run
          (serve sampleRespond) () = (some (some (.ok (sampleFirst, []))), ()) :=
        rfl
      rw [UsersList.allUsers, Program.run_bind_of _ started]
      simp only [List.nil_append]
      rw [walked, if_neg (by omega)]
      rfl

theorem path_long {plan : Plan} (other : ∀ guid, plan ≠ .space guid) :
    18 ≤ plan.path.length := by
  have long (one other : String) :
      18 ≤ ("/v2/organizations/" ++ one ++ other).length := by
    rw [String.append_assoc, String.length_append]
    exact Nat.le_add_right 18 _
  cases plan with
  | space guid => exact absurd rfl (other guid)
  | users orgGUID => exact long orgGUID "/users"
  | managers orgGUID => exact long orgGUID "/managers"
  | auditors orgGUID => exact long orgGUID "/auditors"
  | billingManagers orgGUID => exact long orgGUID "/billing_managers"

theorem sample_walks :
    Walks sampleLibrary sampleRespond "token" sampleClient := by
  intro plan bound users ran
  by_cases space : ∃ guid, plan = .space guid
  · obtain ⟨guid, rfl⟩ := space
    have started : (fetch sampleLibrary (Plan.space guid).path
        (Plan.space guid).query "token").run (serve sampleRespond) () =
          (some (.ok sampleFirst), ()) := fetch_run (sample_found guid)
    rw [getUsers, Program.run_bind_of (serve sampleRespond) started] at ran
    simp only [sample_walk] at ran
    split at ran
    · simp at ran
    · obtain rfl : .ok ["user-1", "user-2"] = users := by simpa using ran
      rfl
  · have other : plan.path ≠ "/v2/users" := by
      intro same
      have long := path_long (not_exists.mp space)
      rw [same] at long
      exact absurd long (by decide +kernel)
    rw [getUsers, Program.run_bind_of (serve sampleRespond)
      (sample_missing other)] at ran
    obtain rfl : .error (.notFound "") = users := by simpa using ran
    cases plan with
    | space guid => exact absurd ⟨guid, rfl⟩ space
    | users | managers | auditors | billingManagers =>
      simp [Plan.list, sampleClient, sampleList, other]
      rfl

theorem sample_users :
    FindsUserGUIDs.userGUIDsBelongingToSpace sampleClient "space-1" "token" =
      .ok ["user-1", "user-2"] :=
  ((users_of_pages sample_book sample_walks).1 (.space "space-1")
    ⟨_, rfl, by decide +kernel⟩).2.1 _ rfl

end Notifications.Postal.Pages
