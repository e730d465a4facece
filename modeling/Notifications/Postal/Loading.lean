import Mathlib.Data.List.Infix
import Mathlib.Data.List.Perm.Subperm
import Notifications.Postal.Uaa

/-!
# Loading users

`UserLoader.Load` over the UAA client.  The UAA answers a query with the users
that match it, but with one page of them only, and the client does not ask for
another.
-/

set_option autoImplicit false

namespace Notifications.Postal

open Notifications.Lib

namespace Uaa

def Config.setToken (u : Config) (token : String) : Config :=
  { u with accessToken := token }

/-- The UAA of these users, asked about a part of the GUIDs: the first ones of
those that match the filter are on the page.  A quotation mark would end an ID
in a filter. -/
structure Answers (u : Config) (respond : Request → Response)
    (directory : List User) (pageSize : Nat) (guids : List String) : Prop where
  distinct : (directory.map User.id).Nodup
  answers : ∀ ids : List String, ids ≠ [] → ids <:+: guids →
    (∀ id ∈ ids, '"' ∉ id.toList) → fits u maxQueryLength ids = true →
    Gives u respond
      (usersEmailsQueryURIFromParts u.uaaURL (ids.map filter))
      ((directory.filter fun user => user.id ∈ ids).take pageSize)
      (directory.filter fun user => user.id ∈ ids).length

variable {u : Config} {respond : Request → Response} {directory : List User}
  {pageSize : Nat} {ids : List String}

/-- All users that match are on the page if not more are asked for. -/
theorem Answers.page {guids : List String}
    (uaa : Answers u respond directory pageSize guids) (few : ids.length ≤ pageSize) :
    (directory.filter fun user => user.id ∈ ids).take pageSize =
      directory.filter fun user => user.id ∈ ids := by
  apply List.take_of_length_le
  have apart : ((directory.filter fun user => user.id ∈ ids).map
      User.id).Nodup := uaa.distinct.sublist (List.filter_sublist.map _)
  have inside : ((directory.filter fun user => user.id ∈ ids).map
      User.id).length ≤ ids.length := by
    refine (List.Nodup.subperm apart ?_).length_le
    intro id member
    obtain ⟨user, matching, rfl⟩ := List.mem_map.mp member
    simpa using (List.mem_filter.mp matching).2
  rw [List.length_map] at inside
  omega

theorem usersEmailsByIDs_run (uaa : Answers u respond directory pageSize ids)
    (some : ids ≠ []) (few : ids.length ≤ pageSize)
    (plain : ∀ id ∈ ids, '"' ∉ id.toList)
    (short : ∀ id ∈ ids, fits u maxQueryLength [id] = true) :
    ∃ users, (usersEmailsByIDs u ids).run
        (fun (_ : Unit) request => (respond request, ())) () =
          (Option.some (.ok users), ()) ∧
      ∀ user, user ∈ users ↔ user ∈ directory ∧ user.id ∈ ids := by
  have whole := @Batching.flatten_cut _ (fits u maxQueryLength) [] ids
  have inside : ∀ batch ∈ Batching.cut (fits u maxQueryLength) [] ids,
      ∀ id ∈ batch, id ∈ ids := by
    intro batch member id listed
    rw [List.nil_append] at whole
    rw [← whole]
    exact List.mem_flatten.mpr ⟨batch, member, listed⟩
  have gives : ∀ batch ∈ Batching.cut (fits u maxQueryLength) [] ids,
      ∃ totalResults, Gives u respond
        (usersEmailsQueryURIFromParts u.uaaURL (batch.map filter))
        (directory.filter fun user => user.id ∈ batch) totalResults := by
    intro batch member
    have filled : batch ≠ [] := by
      rintro rfl
      rcases (Batching.nil_mem_cut_iff ids).mp member with
        rfl | ⟨id, rest, rfl, long⟩
      · exact some rfl
      · rw [short id (by simp)] at long
        cases long
    have fine : fits u maxQueryLength batch = true := by
      rcases Batching.fits_of_mem_cut (.inr (by simp)) member with
        fine | single
      · exact fine
      · match batch, filled with
        | [id], _ => exact short id (inside _ member id (by simp))
        | _ :: _ :: _, _ =>
            simp only [List.length_cons] at single
            omega
    have fewer : batch.length ≤ pageSize := by
      have part := (List.sublist_flatten_of_mem member).length_le
      rw [whole, List.nil_append] at part
      omega
    have part : batch <:+: ids := by
      rw [List.nil_append] at whole
      rw [← whole]
      exact List.infix_of_mem_flatten member
    have page := uaa.answers batch filled part
      (fun id listed => plain id (inside batch member id listed)) fine
    rw [uaa.page fewer] at page
    exact ⟨_, page⟩
  refine ⟨_, usersFromURIs_run gives [], ?_⟩
  intro user
  rw [List.nil_append] at whole
  simp only [List.nil_append, List.mem_flatMap, List.mem_filter,
    decide_eq_true_eq]
  constructor
  · rintro ⟨batch, member, present, listed⟩
    exact ⟨present, inside batch member _ listed⟩
  · rintro ⟨present, listed⟩
    rw [← whole] at listed
    obtain ⟨batch, member, here⟩ := List.mem_flatten.mp listed
    exact ⟨batch, member, present, here⟩

end Uaa

/-! ## The map -/

namespace UserLoader

theorem lookup_pad_all (guids : List String) (users : Users) (guid : String) :
    (pad guids users).lookup guid =
      if guid ∈ guids then some ((users.lookup guid).getD noUser)
      else users.lookup guid := by
  induction guids generalizing users with
  | nil => simp [pad]
  | cons first rest ih =>
      rw [pad, List.foldl_cons, ← pad, ih]
      by_cases present : first ∈ users
      · rw [if_pos present]
        by_cases same : guid = first
        · subst same
          obtain ⟨user, found⟩ :=
            Option.isSome_iff_exists.mp (AList.lookup_isSome.mpr present)
          simp [found]
        · simp [same]
      · rw [if_neg present]
        by_cases same : guid = first
        · subst same
          simp [AList.lookup_eq_none.mpr present]
        · rw [AList.lookup_insert_ne same]
          simp [same]

/-- With distinct IDs it does not matter in which order they are searched. -/
theorem recordOf_eq_find {directory records : List User} {guid : String}
    (distinct : (directory.map User.id).Nodup)
    (same : ∀ user, user.id = guid → (user ∈ records ↔ user ∈ directory)) :
    recordOf records guid =
      directory.find? fun user => user.id = guid := by
  cases found : recordOf records guid with
  | none =>
      symm
      rw [List.find?_eq_none]
      intro user member
      simp only [decide_eq_true_eq]
      intro named
      have absent := List.find?_eq_none.mp found user
        (List.mem_reverse.mpr ((same user named).mpr member))
      simp [named] at absent
  | some record =>
      have member := List.mem_reverse.mp (List.mem_of_find?_eq_some found)
      have named : record.id = guid := by
        simpa using List.find?_some found
      have listed := (same record named).mp member
      cases search : directory.find? fun user => user.id = guid with
      | none =>
          have absent := List.find?_eq_none.mp search record listed
          simp [named] at absent
      | some user =>
          have other : user.id = guid := by simpa using List.find?_some search
          have one := List.inj_on_of_nodup_map distinct listed
            (List.mem_of_find?_eq_some search) (named.trans other.symm)
          rw [one]

end UserLoader

end Notifications.Postal

namespace Notifications

open Notifications.Lib

/-- The environment in which this UAA answers the queries for users. -/
def Environment.withUAA (environment : Environment) (u : Postal.Uaa.Config)
    (respond : Postal.Uaa.Request → Postal.Uaa.Response) : Environment :=
  { environment with
    serve := fun number service =>
      match service, environment.serve number service with
      | .usersEmailsByIDs token guids, other =>
          ((Postal.Uaa.usersEmailsByIDs (u.setToken token) guids).run
            (fun (_ : Unit) request => (respond request, ())) ()).1.getD other
      | _, other => other }

namespace Postal

variable {u : Uaa.Config} {respond : Uaa.Request → Uaa.Response}
  {directory : List User} {pageSize : Nat} {token : String}

/-- As long as there are not more GUIDs than users on a page: everyone who is
asked for is loaded, as the UAA has them or as nobody, and nobody else. -/
theorem UserLoader.load_finds [Models.Collation] {guids : List String}
    (uaa : Uaa.Answers (u.setToken token) respond directory pageSize guids)
    (some : guids ≠ []) (few : guids.length ≤ pageSize)
    (plain : ∀ guid ∈ guids, '"' ∉ guid.toList)
    (short : ∀ guid ∈ guids, Uaa.fits u Uaa.maxQueryLength [guid] = true)
    (environment : Environment) (world : World) :
    ∃ users after, (UserLoader.load guids token).run
        (World.handle (environment.withUAA u respond)) world =
          (Option.some (.ok users), after) ∧
      ∀ guid, users.lookup guid =
        if guid ∈ guids then
          Option.some ((directory.find? fun user => user.id = guid).getD noUser)
        else
          none := by
  obtain ⟨records, ran, found⟩ :=
    Uaa.usersEmailsByIDs_run uaa some few plain short
  refine ⟨UserLoader.pad guids (UserLoader.collect records),
    { world with services := world.services + 1 }, ?_, ?_⟩
  · rw [UserLoader.load, Program.perform_bind, Program.run_call]
    simp only [World.handle, Environment.withUAA, ran]
    rfl
  · intro guid
    rw [UserLoader.lookup_pad_all, UserLoader.lookup_collect]
    by_cases asked : guid ∈ guids
    · rw [if_pos asked, if_pos asked, UserLoader.recordOf_eq_find uaa.distinct]
      intro user named
      rw [found, named]
      exact and_iff_left asked
    · rw [if_neg asked, if_neg asked]
      refine List.find?_eq_none.mpr ?_
      intro user member
      have listed := ((found user).mp (List.mem_reverse.mp member)).2
      simp only [beq_iff_eq]
      rintro rfl
      exact asked listed

/-! ## Two users, on a host with a name so long that each needs a query -/

attribute [local instance] Models.Collation.binary

def sampleDirectory : List User :=
  [⟨"user-1", ["user-1@example.com"]⟩, ⟨"user-2", ["user-2@example.com"]⟩]

def sampleListing (id : String) : String :=
  "\x7b\"resources\":[\x7b\"id\":\"" ++ id ++ "\",\"emails\":" ++
    "[\x7b\"value\":\"" ++ id ++
    "@example.com\"\x7d]\x7d],\"totalResults\":1\x7d"

def sampleResource (id : String) : Web.Jwt.Fields :=
  [("id", .string id),
    ("emails", .array [.object [("value", .string (id ++ "@example.com"))]])]

def sampleResponse (id : String) : Web.Jwt.Fields :=
  [("resources", .array [.object (sampleResource id)]),
    ("totalResults", .number 1)]

def sampleHost : String :=
  "https://uaa.example.com/" ++ String.ofList (List.replicate 7920 'a')

def sampleUAA (host : String) : Uaa.Config where
  uaaURL := host
  accessToken := ""
  parse uri := .ok (host, String.ofList (uri.toList.drop host.length))
  unmarshal text :=
    match ["user-1", "user-2"].find? fun id => text = sampleListing id with
    | some id => .ok (sampleResponse id)
    | none => .error "invalid character"

def samplePath (id : String) : String :=
  "/Users?attributes=emails,id&filter=" ++
    String.ofList (queryEscape
      (" or ".toList.intercalate ([Uaa.filter id].map String.toList)))

def sampleRespond (request : Uaa.Request) : Uaa.Response :=
  match ["user-1", "user-2"].find? fun id =>
      request.path == samplePath id &&
        request.authorization == "Bearer token" with
  | some id => .ok (200, sampleListing id)
  | none => .ok (404, "")

theorem utf8ByteSize_replicate (count : Nat) :
    (String.ofList (List.replicate count 'a')).utf8ByteSize = count := by
  induction count with
  | zero => rfl
  | succ count ih =>
      have one : (String.ofList ['a']).utf8ByteSize = 1 := by decide
      rw [List.replicate_succ, ← List.singleton_append, String.ofList_append,
        String.utf8ByteSize_append, ih, one, Nat.add_comm]

theorem utf8ByteSize_sampleHost : sampleHost.utf8ByteSize = 7944 := by
  have start : "https://uaa.example.com/".utf8ByteSize = 24 := by
    decide +kernel
  have parts : sampleHost.utf8ByteSize =
      "https://uaa.example.com/".utf8ByteSize +
        (String.ofList (List.replicate 7920 'a')).utf8ByteSize :=
    String.utf8ByteSize_append ..
  exact parts.trans (congrArg₂ _ start (utf8ByteSize_replicate _))

section Sample

variable {host : String}

theorem sample_cut (size : host.utf8ByteSize = 7944) :
    (∀ id ∈ ["user-1", "user-2"],
      Uaa.fits (sampleUAA host) Uaa.maxQueryLength [id] = true) ∧
      Uaa.fits (sampleUAA host) Uaa.maxQueryLength ["user-1", "user-2"] =
        false := by
  have fits (ids : List String) :
      Uaa.fits (sampleUAA host) Uaa.maxQueryLength ids =
        decide (7944 + ("/Users?attributes=emails,id&filter=".utf8ByteSize +
          (String.ofList (queryEscape (" or ".toList.intercalate
            ((ids.map Uaa.filter).map String.toList)))).utf8ByteSize) ≤
              8000) := by
    rw [Uaa.fits, Uaa.usersEmailsQueryURIFromParts, sampleUAA,
      String.utf8ByteSize_append, String.utf8ByteSize_append, size,
      Nat.add_assoc, Uaa.maxQueryLength]
  rw [fits]
  simp only [fits]
  decide +kernel

theorem sample_gives {id : String} (known : id = "user-1" ∨ id = "user-2") :
    Uaa.Gives ((sampleUAA host).setToken "token") sampleRespond
      (Uaa.usersEmailsQueryURIFromParts host [Uaa.filter id])
      [⟨id, [id ++ "@example.com"]⟩] 1 := by
  refine ⟨host, samplePath id, sampleListing id, ?_, ?_,
    sampleResponse id, [sampleResource id], ?_, rfl, rfl, rfl⟩
  · have whole : Uaa.usersEmailsQueryURIFromParts host [Uaa.filter id] =
        host ++ samplePath id :=
      String.append_assoc
    simp only [Uaa.Config.setToken, sampleUAA, whole, String.toList_append,
      List.drop_left' String.length_toList, String.ofList_toList]
  · have found : ["user-1", "user-2"].find? (fun known =>
        samplePath id == samplePath known &&
          "Bearer " ++ "token" == "Bearer token") = some id := by
      rcases known with rfl | rfl <;> decide +kernel
    simp only [sampleRespond, Uaa.Config.setToken, found]
  · have found : ["user-1", "user-2"].find? (fun known =>
        sampleListing id = sampleListing known) = some id := by
      rcases known with rfl | rfl <;> decide +kernel
    simp only [sampleUAA, Uaa.Config.setToken, found]

theorem sample_answers (size : host.utf8ByteSize = 7944) :
    Uaa.Answers ((sampleUAA host).setToken "token") sampleRespond
      sampleDirectory 100 ["user-1", "user-2"] where
  distinct := by decide
  answers ids filled part _ fine := by
    have cases : ids = ["user-1"] ∨ ids = ["user-2"] ∨
        ids = ["user-1", "user-2"] := by
      simp only [List.infix_cons_iff, List.prefix_cons_iff, List.infix_nil,
        List.prefix_nil] at part
      grind
    rcases cases with rfl | rfl | rfl
    · exact sample_gives (.inl rfl)
    · exact sample_gives (.inr rfl)
    · cases fine.symm.trans (sample_cut size).2

end Sample

/-- Two queries are needed, and both users are loaded. -/
theorem sample_load :
    Uaa.fits (sampleUAA sampleHost) Uaa.maxQueryLength ["user-1", "user-2"] =
      false ∧
    ∃ users after, (UserLoader.load ["user-1", "user-2"] "token").run
        (World.handle (Environment.calm.withUAA (sampleUAA sampleHost)
          sampleRespond))
        (World.start []) = (some (.ok users), after) ∧
      ∀ guid, users.lookup guid =
        if guid ∈ ["user-1", "user-2"] then
          some ((sampleDirectory.find? fun user => user.id = guid).getD noUser)
        else
          none :=
  ⟨(sample_cut utf8ByteSize_sampleHost).2,
    UserLoader.load_finds (sample_answers utf8ByteSize_sampleHost) (by decide)
      (by decide) (by decide) (sample_cut utf8ByteSize_sampleHost).1 _ _⟩

end Postal

end Notifications
