import Notifications.Lib.Batching
import Notifications.Lib.Escape
import Notifications.Postal.Dropping
import Notifications.Postal.Utilities
import Notifications.Web.Jwt

/-!
# The UAA client

The queries for users of the vendored `uaa-sso-golang`.  A request is a call
that the UAA answers; `url.Parse` and `json.Unmarshal` are parameters.  The
fields of a user that nothing reads are left out, and so are the users that
come along with an error.

`AllUsers` asks for one page after the other as long as there are more users
than it has.  Its loop has no bound of its own, and is given one.
-/

set_option autoImplicit false

namespace Notifications.Postal.Uaa

open Notifications.Lib Notifications.Web.Jwt

/-! ## Requests -/

structure Request where
  method : String
  host : String
  path : String
  authorization : String
  deriving DecidableEq, Repr

/-- What `MakeRequest` returns: the status and the body. -/
abbrev Response : Type := Except UAAFailure (Nat × String)

abbrev Requests (α : Type) : Type := Program Request (fun _ => Response) α

/-- `uaa.UAA`, with the library functions it calls. -/
structure Config where
  uaaURL : String
  accessToken : String
  /-- `url.Parse`: the scheme and host, and `RequestURI` -/
  parse : String → Except String (String × String)
  /-- `json.Unmarshal` into a map -/
  unmarshal : String → Except String Fields

def userFromResource (resource : Fields) : User where
  id := match resource.lookup "id" with
    | some (.string id) => id
    | _ => ""
  emails := match resource.lookup "emails" with
    | some (.array emails) => emails.filterMap fun email =>
        match email with
        | .object fields =>
            match fields.lookup "value" with
            | some (.string value) => some value
            | _ => none
        | _ => none
    | _ => []

/-- The type assertions on the resources; one that fails is a panic. -/
def usersFromResources (response : Fields) : Requests (List User) :=
  match response.lookup "resources" with
  | some (.array resources) =>
      match resources.mapM fun resource => match resource with
        | .object fields => some (userFromResource fields)
        | _ => none with
      | some users => pure users
      | none => .panic "interface conversion"
  | _ => .panic "interface conversion"

variable (u : Config)

/-- What `UsersFromQuery` and `PaginatedUsersFromQuery` begin with. -/
def query (uri : String) : Requests (Except UAAFailure Fields) :=
  match u.parse uri with
  | .error text => pure (.error (.url text))
  | .ok (host, path) => do
      match ← Program.perform ⟨"GET", host, path,
          "Bearer " ++ u.accessToken⟩ with
      | .error failure => pure (.error failure)
      | .ok (code, body) =>
          if code > 399 then
            pure (.error (.failure code body))
          else
            match u.unmarshal body with
            | .error text => pure (.error (.other text))
            | .ok response => pure (.ok response)

/-! ## Users by their IDs -/

def usersFromQuery (uri : String) :
    Requests (Except UAAFailure (List User)) := do
  match ← query u uri with
  | .error failure => pure (.error failure)
  | .ok response =>
      let users ← usersFromResources response
      pure (.ok users)

def maxQueryLength : Nat := 8000

/-- ``fmt.Sprintf(`Id eq "%s"`, id)``. -/
def filter (id : String) : String := "Id eq \"" ++ id ++ "\""

def usersEmailsQueryURIFromParts (host : String) (filters : List String) :
    String :=
  host ++ "/Users?attributes=emails,id&filter=" ++
    String.ofList (queryEscape
      (" or ".toList.intercalate (filters.map String.toList)))

def fits (length : Nat) (ids : List String) : Bool :=
  decide ((usersEmailsQueryURIFromParts u.uaaURL (ids.map filter)).utf8ByteSize
    ≤ length)

def uris (length : Nat) (ids : List String) : List String :=
  (Batching.cut (fits u length) [] ids).map fun batch =>
    usersEmailsQueryURIFromParts u.uaaURL (batch.map filter)

def usersFromURIs (users : List User) :
    List String → Requests (Except UAAFailure (List User))
  | [] => pure (.ok users)
  | uri :: rest => do
      match ← usersFromQuery u uri with
      | .error failure => pure (.error failure)
      | .ok usersToAdd => usersFromURIs (users ++ usersToAdd) rest

def usersEmailsByIDsWithMaxLength (length : Nat) (ids : List String) :
    Requests (Except UAAFailure (List User)) :=
  usersFromURIs u [] (uris u length ids)

def usersEmailsByIDs (ids : List String) :
    Requests (Except UAAFailure (List User)) :=
  usersEmailsByIDsWithMaxLength u maxQueryLength ids

/-! ## All users -/

def paginatedUsersFromQuery (uri : String) :
    Requests (Except UAAFailure (List User × Int)) := do
  match ← query u uri with
  | .error failure => pure (.error failure)
  | .ok response =>
      let users ← usersFromResources response
      match response.lookup "totalResults" with
      | some (.number totalResults) => pure (.ok (users, totalResults))
      | _ => .panic "interface conversion"

def usersQueryURIFromStartIndex (host : String) (startIndex : Nat) : String :=
  host ++ "/Users?startIndex=" ++ toString startIndex

def thereAreMorePages (users : List User) (totalResults : Int) : Bool :=
  (users.length : Int) < totalResults

/-- The loop of `AllUsers`; nothing when the bound is too small. -/
def moreUsers : Nat → List User → Int →
    Requests (Option (Except UAAFailure (List User)))
  | 0, _, _ => pure none
  | bound + 1, users, totalResults =>
      if thereAreMorePages users totalResults then do
        let nextStartIndex := users.length + 1
        match ← paginatedUsersFromQuery u
            (usersQueryURIFromStartIndex u.uaaURL nextStartIndex) with
        | .error failure => pure (some (.error failure))
        | .ok (more, totalResults) => moreUsers bound (users ++ more) totalResults
      else
        pure (some (.ok users))

def allUsers (bound : Nat) :
    Requests (Option (Except UAAFailure (List User))) := do
  let bareUsersURL := u.uaaURL ++ "/Users"
  match ← paginatedUsersFromQuery u bareUsersURL with
  | .error failure => pure (some (.error failure))
  | .ok (users, totalResults) => moreUsers u bound users totalResults

/-! ## The queries -/

theorem utf8ByteSize_mono {part text : List Char} (inside : part <:+: text) :
    (String.ofList part).utf8ByteSize ≤ (String.ofList text).utf8ByteSize := by
  obtain ⟨before, after, rfl⟩ := inside
  rw [String.ofList_append, String.ofList_append, String.utf8ByteSize_append,
    String.utf8ByteSize_append]
  omega

theorem queryEscape_part {part text : List Char} (inside : part <:+: text) :
    queryEscape part <:+: queryEscape text := by
  obtain ⟨before, after, rfl⟩ := inside
  rw [queryEscape_append, queryEscape_append]
  exact ⟨_, _, rfl⟩

variable {u}

/-- What can be asked about in one query can be asked about in part. -/
theorem fits_part {length : Nat} {before ids after : List String}
    (whole : fits u length (before ++ ids ++ after) = true) :
    fits u length ids = true := by
  have joined := Batching.intercalate_infix " or ".toList
    (before.map (String.toList ∘ filter)) (ids.map (String.toList ∘ filter))
    (after.map (String.toList ∘ filter))
  have shorter := utf8ByteSize_mono (queryEscape_part joined)
  simp only [fits, decide_eq_true_eq, usersEmailsQueryURIFromParts,
    String.utf8ByteSize_append, List.map_append, List.map_map] at whole ⊢
  omega

/-- Whatever the IDs and the limit: the queries ask about all IDs, in their
order and each once.  Only a query about a single ID or about none is too long,
only the first can ask about none, and it does when the first ID is too long for
a query.  No other way to cut the list into queries that are not too long needs
fewer. -/
theorem uris_batches (length : Nat) (ids : List String) :
    ∃ batches : List (List String),
      uris u length ids = batches.map (fun batch =>
        usersEmailsQueryURIFromParts u.uaaURL (batch.map filter)) ∧
      batches.flatten = ids ∧
      (∀ batch ∈ batches, fits u length batch = true ∨ batch.length ≤ 1) ∧
      ([] ∈ batches ↔ ids = [] ∨
        ∃ id rest, ids = id :: rest ∧ fits u length [id] = false) ∧
      ∀ others : List (List String), others ≠ [] → others.flatten = ids →
        (∀ batch ∈ others, fits u length batch = true) →
        (uris u length ids).length ≤ others.length := by
  refine ⟨Batching.cut (fits u length) [] ids, rfl, ?_, ?_, ?_, ?_⟩
  · simpa using Batching.flatten_cut [] ids
  · intro batch member
    exact Batching.fits_of_mem_cut (.inr (by simp)) member
  · exact Batching.nil_mem_cut_iff ids
  · intro others some whole fine
    rw [uris, List.length_map]
    exact Batching.length_cut_le (fun _ _ _ => fits_part) some whole fine

/-! ## Answers -/

variable (u)

/-- A body that lists the users and has the number of all of them. -/
def Lists (body : String) (users : List User) (totalResults : Nat) : Prop :=
  ∃ (response : Fields) (resources : List Fields),
    u.unmarshal body = .ok response ∧
    response.lookup "resources" = some (.array (resources.map Web.Jwt.Json.object)) ∧
    resources.map userFromResource = users ∧
    response.lookup "totalResults" = some (.number totalResults)

def Gives (respond : Request → Response) (uri : String) (users : List User)
    (totalResults : Nat) : Prop :=
  ∃ host path body, u.parse uri = .ok (host, path) ∧
    respond ⟨"GET", host, path, "Bearer " ++ u.accessToken⟩ = .ok (200, body) ∧
    Lists u body users totalResults

variable {u} {State : Type} {serve : State → Request → Response × State}
  {state : State} {uri : String} {users : List User} {totalResults : Nat}

theorem mapM_objects (resources : List Fields) :
    ((resources.map Web.Jwt.Json.object).mapM fun resource => match resource with
      | .object fields => some (userFromResource fields)
      | _ => none) = some (resources.map userFromResource) := by
  induction resources with
  | nil => rfl
  | cons first rest ih => simp [ih]

theorem usersFromResources_eq {response : Fields} {resources : List Fields}
    (listed : response.lookup "resources" =
      some (.array (resources.map Web.Jwt.Json.object))) :
    usersFromResources response =
      .ret (resources.map userFromResource) := by
  rw [usersFromResources, listed]
  simp only [mapM_objects, Program.pure_eq]

theorem query_run {host path body : String} {response : Fields}
    (parsed : u.parse uri = .ok (host, path))
    (answered : (serve state ⟨"GET", host, path,
      "Bearer " ++ u.accessToken⟩).1 = .ok (200, body))
    (decoded : u.unmarshal body = .ok response) :
    (query u uri).run serve state = (some (.ok response),
      (serve state ⟨"GET", host, path, "Bearer " ++ u.accessToken⟩).2) := by
  rw [query, parsed]
  simp only [Program.perform_bind, Program.run_call, answered, decoded]
  rfl

theorem paginatedUsersFromQuery_run
    (gives : Gives u (fun request => (serve state request).1) uri users
      totalResults) :
    ∃ request, (paginatedUsersFromQuery u uri).run serve state =
      (some (.ok (users, (totalResults : Int))), (serve state request).2) := by
  obtain ⟨host, path, body, parsed, answered, response, resources, decoded,
    listed, rfl, total⟩ := gives
  refine ⟨⟨"GET", host, path, "Bearer " ++ u.accessToken⟩, ?_⟩
  rw [paginatedUsersFromQuery,
    Program.run_bind_of serve (query_run parsed answered decoded)]
  simp only [usersFromResources_eq listed, Program.ret_bind, total]
  rfl

theorem usersFromQuery_run
    (gives : Gives u (fun request => (serve state request).1) uri users
      totalResults) :
    ∃ request, (usersFromQuery u uri).run serve state =
      (some (.ok users), (serve state request).2) := by
  obtain ⟨host, path, body, parsed, answered, response, resources, decoded,
    listed, rfl, _⟩ := gives
  refine ⟨⟨"GET", host, path, "Bearer " ++ u.accessToken⟩, ?_⟩
  rw [usersFromQuery, Program.run_bind_of serve (query_run parsed answered decoded)]
  simp only [usersFromResources_eq listed, Program.ret_bind]
  rfl

/-! ## Every page -/

variable (u serve)

/-- A UAA with users that join while it is asked, up to a bound, and pages of
any size. -/
structure Pages (directory : State → List User) (bound : Nat) : Prop where
  first : ∀ state, ∃ size > 0,
    Gives u (fun request => (serve state request).1) (u.uaaURL ++ "/Users")
      ((directory state).take size) (directory state).length
  later : ∀ state (start : Nat), ∃ size > 0,
    Gives u (fun request => (serve state request).1)
      (usersQueryURIFromStartIndex u.uaaURL (start + 1))
      (((directory state).drop start).take size) (directory state).length
  joins : ∀ state request,
    directory state <+: directory (serve state request).2
  bounded : ∀ state, (directory state).length ≤ bound

variable {u serve} {directory : State → List User} {bound : Nat}

/-- What was received so far, and the number of all users at the last
request. -/
theorem moreUsers_run (pages : Pages u serve directory bound)
    {last : State} (received : users <+: directory last)
    (joined : directory last <+: directory state)
    {fuel : Nat} (enough : bound + 1 ≤ fuel + users.length) :
    ∃ result after, (moreUsers u fuel users (directory last).length).run serve
        state = (some (some (.ok result)), after) ∧
      directory last <+: result ∧ result <+: directory after := by
  induction fuel generalizing users last state with
  | zero =>
      have most := pages.bounded last
      have short := received.length_le
      omega
  | succ fuel ih =>
      rw [moreUsers]
      by_cases more : users.length < (directory last).length
      · have asks : thereAreMorePages users (directory last).length = true := by
          simp [thereAreMorePages, more]
        rw [if_pos asks]
        obtain ⟨size, positive, gives⟩ := pages.later state users.length
        obtain ⟨request, ran⟩ := paginatedUsersFromQuery_run gives
        rw [Program.run_bind_of serve ran]
        -- the next page follows what was received
        obtain ⟨rest, whole⟩ := received.trans joined
        have page : ((directory state).drop users.length).take size =
            rest.take size := by rw [← whole, List.drop_left]
        have grown : users ++ rest.take size <+: directory state :=
          ⟨rest.drop size, by rw [List.append_assoc, List.take_append_drop, whole]⟩
        have filled : 0 < (rest.take size).length := by
          have lengths := congrArg List.length whole
          have longer := joined.length_le
          rw [List.length_append] at lengths
          rw [List.length_take]
          omega
        rw [page]
        obtain ⟨result, after, finished, all, real⟩ := @ih
          (serve state request).2 (users ++ rest.take size) state grown
          (pages.joins state request) (by rw [List.length_append]; omega)
        exact ⟨result, after, finished, joined.trans all, real⟩
      · have stops : thereAreMorePages users (directory last).length = false := by
          simp [thereAreMorePages, more]
        rw [if_neg (by simp [stops])]
        have whole : users = directory last := by
          apply received.eq_of_length
          have short := received.length_le
          omega
        exact ⟨users, state, rfl, whole ▸ List.prefix_rfl,
          received.trans joined⟩

/-- As long as users only join, and whatever the size of each page: `AllUsers`
ends, returns everyone who was there in the beginning, and nobody twice or who
is not there at the end. -/
theorem allUsers_complete (pages : Pages u serve directory bound)
    (state : State) :
    ∃ result after, (allUsers u (bound + 1)).run serve state =
        (some (some (.ok result)), after) ∧
      directory state <+: result ∧ result <+: directory after := by
  obtain ⟨size, positive, gives⟩ := pages.first state
  obtain ⟨request, ran⟩ := paginatedUsersFromQuery_run gives
  rw [allUsers, Program.run_bind_of serve ran]
  exact moreUsers_run pages (List.take_prefix _ _) (pages.joins state request)
    (by omega)

/-! ## Loading users -/

section Loading

variable {respond : Request → Response}

theorem usersFromURIs_run {uri : List String → String}
    {page : List String → List User} {batches : List (List String)}
    (gives : ∀ batch ∈ batches, ∃ totalResults,
      Gives u respond (uri batch) (page batch) totalResults)
    (users : List User) :
    (usersFromURIs u users (batches.map uri)).run
        (fun (_ : Unit) request => (respond request, ())) () =
      (some (.ok (users ++ batches.flatMap page)), ()) := by
  induction batches generalizing users with
  | nil => simp [usersFromURIs]
  | cons batch batches ih =>
      obtain ⟨totalResults, here⟩ := gives batch (by simp)
      obtain ⟨request, ran⟩ := @usersFromQuery_run u Unit
        (fun _ request => (respond request, ())) () _ _ _ here
      rw [List.map_cons, usersFromURIs, Program.run_bind_of _ ran,
        List.flatMap_cons, ← List.append_assoc]
      exact ih (fun other member => gives other (List.mem_cons_of_mem _ member)) _

end Loading

/-! ## One user on each page, and a third one who joins -/

def sampleUsers : List User :=
  [⟨"user-1", []⟩, ⟨"user-2", []⟩, ⟨"user-3", []⟩]

def sampleJoining (asked : Bool) : List User :=
  if asked then sampleUsers else sampleUsers.take 2

def sampleBody (users : List User) (total : Nat) : String :=
  "\x7b\"resources\":[" ++ String.join (users.map fun user =>
    "\x7b\"id\":\"" ++ user.id ++ "\"\x7d") ++ "],\"totalResults\":" ++
      toString total ++ "\x7d"

def sampleResources (users : List User) : List Fields :=
  users.map fun user => [("id", .string user.id)]

def samplePage (users : List User) (total : Nat) : Fields :=
  [("resources", .array ((sampleResources users).map Web.Jwt.Json.object)),
    ("totalResults", .number total)]

def sampleKnown : List (List User × Nat) :=
  [2, 3].flatMap fun total =>
    ([] :: sampleUsers.map fun user => [user]).map fun users => (users, total)

def sampleConfig : Config where
  uaaURL := "https://uaa.example.com"
  accessToken := "token"
  parse uri := .ok ("https://uaa.example.com",
    String.ofList (uri.toList.drop "https://uaa.example.com".length))
  unmarshal text :=
    match sampleKnown.find? fun page => text = sampleBody page.1 page.2 with
    | some (users, total) => .ok (samplePage users total)
    | none => .error "invalid character"

def sampleServe (asked : Bool) (request : Request) : Response × Bool :=
  let digits := request.path.toList.drop "/Users?startIndex=".length
  let users := (sampleJoining asked).drop (Nat.ofDigitChars 10 digits 0 - 1)
  (.ok (200, sampleBody (users.take 1) (sampleJoining asked).length), true)

theorem sample_decodes {users : List User} {total : Nat}
    (known : (users, total) ∈ sampleKnown) :
    Lists sampleConfig (sampleBody users total) users total := by
  have found : ∀ page ∈ sampleKnown, sampleKnown.find? (fun other =>
      sampleBody page.1 page.2 = sampleBody other.1 other.2) = some page := by
    decide +kernel
  have read : ∀ page ∈ sampleKnown,
      (sampleResources page.1).map userFromResource = page.1 := by
    decide +kernel
  refine ⟨samplePage users total, sampleResources users, ?_, rfl,
    read _ known, rfl⟩
  have decoded := found _ known
  simp only [sampleConfig]
  rw [decoded]

theorem sample_known (asked : Bool) (start : Nat) :
    (((sampleJoining asked).drop start).take 1,
      (sampleJoining asked).length) ∈ sampleKnown := by
  match asked, start with
  | false, 0 => decide
  | false, 1 => decide
  | false, start + 2 =>
      have none : (sampleJoining false).drop (start + 2) = [] := by
        simp [sampleJoining, sampleUsers]
      rw [none]
      decide
  | true, 0 => decide
  | true, 1 => decide
  | true, 2 => decide
  | true, start + 3 =>
      have none : (sampleJoining true).drop (start + 3) = [] := by
        simp [sampleJoining, sampleUsers]
      rw [none]
      decide

theorem sample_pages :
    Pages sampleConfig sampleServe sampleJoining 3 where
  first asked := ⟨1, by decide, "https://uaa.example.com", "/Users", _,
    by decide, rfl, sample_decodes (sample_known asked 0)⟩
  later asked start := by
    refine ⟨1, by decide, "https://uaa.example.com",
      "/Users?startIndex=" ++ toString (start + 1), _, ?_, ?_,
      sample_decodes (sample_known asked start)⟩
    · have apart : sampleConfig.uaaURL ++ "/Users?startIndex=" ++
          toString (start + 1) = "https://uaa.example.com" ++
            ("/Users?startIndex=" ++ toString (start + 1)) :=
        String.append_assoc
      simp only [sampleConfig, usersQueryURIFromStartIndex] at apart ⊢
      rw [apart, String.toList_append,
        List.drop_left' String.length_toList, String.ofList_toList]
    · have digits : ("/Users?startIndex=" ++ toString (start + 1)).toList.drop
          "/Users?startIndex=".length = Nat.toDigits 10 (start + 1) := by
        rw [String.toList_append, List.drop_left' String.length_toList]
        exact Nat.toList_repr
      simp only [sampleServe, digits]
      rw [Nat.ofDigitChars_toDigits (by decide) (by decide)]
      rfl
  joins asked _ := by
    cases asked with
    | false => exact List.take_prefix 2 sampleUsers
    | true => exact List.prefix_rfl
  bounded asked := by cases asked <;> decide

/-- Two users are there in the beginning and three in the end. -/
theorem sample_allUsers :
    ∃ result after, (allUsers sampleConfig 4).run sampleServe false =
        (some (some (.ok result)), after) ∧
      sampleUsers.take 2 <+: result ∧ result <+: sampleJoining after :=
  allUsers_complete sample_pages false

end Notifications.Postal.Uaa
