import Notifications.Web.ErrorWriter
import Notifications.Web.Patching
import Notifications.Web.RoundTrip

/-!
# The two `PATCH` endpoints against each other

What a client gets from `UpdatePreferences` and from
`UpdateSpecificUserPreferences`, with the status codes of the error writer.
They differ in what becomes of an error of `ToPreferences`, for which the error
writer has a case in one of them only, and in how they come by the user.
-/

set_option autoImplicit false

namespace Notifications.Web

open Notifications.Lib Notifications.Models Notifications.Services

/-! ## The handlers, with their answers -/

/-- What the handlers give to the error writer; the error of a commit is told
apart from those of the updater. -/
inductive Complaint where
  | objection (objection : Objection)
  /-- `models.TransactionCommitError` -/
  | transactionCommit (error : Error)
  deriving DecidableEq, Repr

/-- What is left when a commit is not told apart. -/
def Complaint.objected : Complaint → Objection
  | .objection objected => objected
  | .transactionCommit error => .failed error

/-- The updater in a transaction, as both handlers run it. -/
def updateInTransaction (body : Prog (Option Error)) :
    Prog (Option Complaint) := do
  let _ ← Program.perform Op.begin
  match ← body with
  | some error =>
      let _ ← rollback
      pure (some (.objection (.ofError error)))
  | none =>
      match ← commit with
      | .error error => pure (some (.transactionCommit error))
      | .ok _ => pure none

/-- The status code and the texts of an error; `none` is the panic of the
error writer. -/
def Complaint.write : Complaint → Option Written
  | .objection (.missingUserToken text) => some ⟨422, [text]⟩
  | .objection (.validation texts) => ErrorWriter.write (.validation texts)
  | .objection (.plain _) => none
  | .objection (.failed error) => ErrorWriter.write (.failed error)
  | .transactionCommit error => some ⟨500, [error.text]⟩

inductive Response where
  /-- 204 -/
  | noContent
  | written (answer : Written)
  /-- the handler of panics answers -/
  | panicked
  deriving DecidableEq, Repr

def respond : Option (Option Complaint) → Response
  | none => .panicked
  | some none => .noContent
  | some (some complaint) =>
      match complaint.write with
      | some answer => .written answer
      | none => .panicked

section Collated

variable [Collation]

section Handlers

variable (library : Library) (texts : Valiant.Texts)

def complain (userID : String) (body : Body)
    (unconvertible : String → Objection) : Prog (Option Complaint) := do
  match ← Valiant.validate library texts Builder.fields [] body .new with
  | .error text => pure (some (.objection (.validation [text])))
  | .ok builder =>
      match ← builder.toPreferences with
      | .error text => pure (some (.objection (unconvertible text)))
      | .ok preferences =>
          updateInTransaction (PreferenceUpdater.execute .transaction
            preferences builder.globalUnsubscribe userID)

def UpdatePreferences.execute (claims : Jwt.Fields) (body : Body) :
    Prog (Option Complaint) :=
  withUserID claims (fun objection => pure (some (.objection objection)))
    fun userID =>
      complain library texts userID body fun text => .validation [text]

def UpdateSpecificUserPreferences.execute (path : String) (body : Body) :
    Prog (Option Complaint) :=
  match parseGUID path with
  | none => .panic "runtime error: index out of range"
  | some userGUID => complain library texts userGUID body .plain

end Handlers

omit [Collation] in
theorem inTransaction_eq (body : Prog (Option Error)) :
    (inTransaction body >>= fun err => pure (err.map Objection.ofError)) =
      updateInTransaction body >>= fun complaint =>
        pure (complaint.map Complaint.objected) := by
  simp only [inTransaction, updateInTransaction, Program.bind_assoc]
  congr 1
  funext started
  congr 1
  funext err
  cases err with
  | some error =>
      simp only [Program.bind_assoc]
      rfl
  | none =>
      simp only [commit, Program.perform_bind, Program.call_bind]
      congr 1
      funext answer
      cases answer <;> rfl

theorem updateFor_eq (library : Library) (texts : Valiant.Texts)
    (userID : String) (body : Body) (unconvertible : String → Objection) :
    updateFor library texts userID body unconvertible =
      complain library texts userID body unconvertible >>= fun complaint =>
        pure (complaint.map Complaint.objected) := by
  rw [updateFor, complain, Program.bind_assoc]
  congr 1
  funext validated
  cases validated with
  | error text => rfl
  | ok builder =>
      simp only
      rw [Program.bind_assoc]
      congr 1
      funext flattened
      cases flattened with
      | error text => rfl
      | ok preferences => exact inTransaction_eq _

/-! ## What both do -/

/-- The validator lets the body through, as this builder. -/
def Validated (library : Library) (body : Body)
    (decoded : PreferencesBuilder) : Prop :=
  ∃ members, body.first = some (.object members) ∧
    Json.decodeStruct Builder.fields (.object members) .new = some decoded ∧
    Json.membersRepresentable library.float64 members = true ∧
    ∀ key ∈ Json.keys members,
      Valiant.contains (Builder.fields.map Json.Field.name) key = true

section Runs

variable (library : Library) (texts : Valiant.Texts)
  (environment : Environment) (world : World) (body : Body)

theorem run_validate_iff :
    ∃ result,
      (Valiant.validate library texts Builder.fields [] body .new).run
        (World.handle environment) world = (result, world) ∧
      ∀ decoded, result = some (.ok decoded) ↔
        Validated library body decoded := by
  rw [Valiant.validate]
  cases first : body.first with
  | none => exact ⟨_, rfl, by simp [Validated, first]⟩
  | some json =>
      cases decodes : Json.decodeStruct Builder.fields json .new with
      | none =>
          simp only [Option.bind_some, decodes]
          refine ⟨_, rfl, ?_⟩
          intro decoded
          constructor
          · intro wrong
            cases wrong
          · intro facts
            obtain ⟨members, same, success, _⟩ := facts
            rw [first, Option.some.injEq] at same
            rw [same, success] at decodes
            cases decodes
      | some builder =>
          simp only [Option.bind_some, decodes]
          cases json with
          | object members =>
              have accepted (decoded : PreferencesBuilder) :
                  Validated library body decoded ↔ builder = decoded ∧
                    Json.membersRepresentable library.float64 members =
                      true ∧
                    ∀ key ∈ Json.keys members, Valiant.contains
                      (Builder.fields.map Json.Field.name) key = true := by
                simp [Validated, first, decodes]
              simp only [accepted]
              split
              · rename_i representable
                simp only [Valiant.validateRequired, List.find?_nil,
                  Option.map_none, Program.perform_bind, Program.run_call,
                  World.handle]
                have listed : ∀ key,
                    key ∈ (environment.order (Json.keys members)).1 ↔
                      key ∈ Json.keys members :=
                  fun key => (environment.order _).2.mem_iff
                cases extra : Valiant.reportExtraKeys texts
                    (Builder.fields.map Json.Field.name)
                    (environment.order (Json.keys members)).1 with
                | some text =>
                    refine ⟨_, rfl, ?_⟩
                    intro decoded
                    constructor
                    · intro wrong
                      cases wrong
                    · intro facts
                      obtain ⟨_, _, known⟩ := facts
                      rw [reportExtraKeys_eq_none.mpr fun key member =>
                        known key ((listed key).mp member)] at extra
                      cases extra
                | none =>
                    refine ⟨_, rfl, ?_⟩
                    intro decoded
                    have known := reportExtraKeys_eq_none.mp extra
                    simp only [listed] at known
                    constructor
                    · intro same
                      cases same
                      exact ⟨rfl, representable, known⟩
                    · intro facts
                      obtain ⟨rfl, _⟩ := facts
                      rfl
              · rename_i unrepresentable
                refine ⟨_, rfl, ?_⟩
                simp [unrepresentable]
          | null => exact ⟨none, rfl, by simp [Validated, first]⟩
          | bool flag => exact ⟨none, rfl, by simp [Validated, first]⟩
          | number literal => exact ⟨none, rfl, by simp [Validated, first]⟩
          | string text => exact ⟨none, rfl, by simp [Validated, first]⟩
          | array elements => exact ⟨none, rfl, by simp [Validated, first]⟩

variable {library texts environment world body}

theorem run_complain_rejected {result : Option (Except String PreferencesBuilder)}
    (ran : (Valiant.validate library texts Builder.fields [] body .new).run
      (World.handle environment) world = (result, world))
    (rejected : ∀ decoded, result ≠ some (.ok decoded)) :
    ∃ outcome, ∀ userID unconvertible,
      (complain library texts userID body unconvertible).run
        (World.handle environment) world = (outcome, world) := by
  cases result with
  | none => exact ⟨none, fun _ _ => Program.run_bind_none _ ran⟩
  | some validated =>
      cases validated with
      | error text => exact ⟨_, fun _ _ => Program.run_bind_of _ ran⟩
      | ok decoded => exact absurd rfl (rejected decoded)

/-- A complete builder is not reported, so that it does not matter how. -/
theorem run_complain_complete {decoded : PreferencesBuilder}
    (ran : (Valiant.validate library texts Builder.fields [] body .new).run
      (World.handle environment) world = (some (.ok decoded), world))
    (complete : PreferencesBuilder.Complete decoded.clients)
    (userID : String) :
    ∃ preferences,
      (∀ preference ∈ preferences,
        PreferencesBuilder.Entered decoded.clients preference) ∧
      ∀ unconvertible,
        (complain library texts userID body unconvertible).run
            (World.handle environment) world =
          (updateInTransaction (PreferenceUpdater.execute .transaction
            preferences decoded.globalUnsubscribe userID)).run
              (World.handle environment) world := by
  obtain ⟨result, flattened, entered, converts⟩ :=
    PreferencesBuilder.run_toPreferences environment world decoded
  obtain ⟨preferences, rfl⟩ := converts complete
  refine ⟨preferences, entered preferences rfl, ?_⟩
  intro unconvertible
  rw [complain, Program.run_bind_of _ ran]
  exact Program.run_bind_of _ flattened

/-- An incomplete one is, by what the handler makes of the error. -/
theorem run_complain_incomplete {decoded : PreferencesBuilder}
    (ran : (Valiant.validate library texts Builder.fields [] body .new).run
      (World.handle environment) world = (some (.ok decoded), world))
    (incomplete : ¬ PreferencesBuilder.Complete decoded.clients) :
    ∃ text, ∀ userID unconvertible,
      (complain library texts userID body unconvertible).run
        (World.handle environment) world =
          (some (some (.objection (unconvertible text))), world) := by
  obtain ⟨result, flattened, _, _⟩ :=
    PreferencesBuilder.run_toPreferences environment world decoded
  cases result with
  | ok preferences =>
      exact absurd (PreferencesBuilder.complete_of_toPreferences flattened)
        incomplete
  | error text =>
      refine ⟨text, ?_⟩
      intro userID unconvertible
      rw [complain, Program.run_bind_of _ ran]
      exact Program.run_bind_of _ flattened

end Runs

end Collated

/-! ## The user in the path -/

theorem splitList_prefix {separator : Char} {start : List Char}
    (plain : separator ∉ start) (rest : List Char) :
    ∃ first others, splitList separator (start ++ rest) =
      (start ++ first) :: others := by
  induction start with
  | nil =>
      cases rest with
      | nil => exact ⟨[], [], rfl⟩
      | cons char rest =>
          simp only [List.nil_append, splitList]
          split
          · exact ⟨_, _, rfl⟩
          · split <;> exact ⟨_, _, rfl⟩
  | cons char start ih =>
      rw [List.mem_cons, not_or] at plain
      obtain ⟨first, others, split⟩ := ih plain.2
      refine ⟨first, others, ?_⟩
      rw [List.cons_append, splitList, if_neg (Ne.symm plain.1), split]
      rfl

theorem afterLast_prefix {part : List Char} (filled : part ≠ [])
    (rest : List Char) : afterLast part (part ++ rest) ≠ none := by
  cases part with
  | nil => exact absurd rfl filled
  | cons char start =>
      rw [List.cons_append, afterLast, if_pos (by simp)]
      cases afterLast (char :: start) (start ++ rest) <;> simp

def userPreferencesPath (userID : String) : String :=
  "/user_preferences/" ++ userID

theorem parseGUID_path (userID : String) :
    ∃ userGUID, parseGUID (userPreferencesPath userID) = some userGUID := by
  have oneLine : '\n' ∉ "/user_preferences/".toList := by decide
  have filled : "/user_preferences/".toList ≠ [] := by decide
  obtain ⟨first, others, lines⟩ := splitList_prefix oneLine userID.toList
  have matched := afterLast_prefix filled first
  unfold parseGUID userPreferencesPath
  rw [String.toList_append, lines]
  unfold matchGUID
  cases last : afterLast "/user_preferences/".toList
      ("/user_preferences/".toList ++ first) with
  | none => exact absurd last matched
  | some userGUID => exact ⟨String.ofList userGUID, rfl⟩

section Collated

variable [Collation]

/-! ## Worlds in which an update succeeds -/

def NoCritical (tables : Tables) : Prop :=
  ∀ key (kind : Kind), tables.lookup .kinds key = some kind →
    kind.critical = false

theorem exists_kind {database : Database} {id clientID : String}
    (free : database.tables.lookup .kinds
      (Collation.key [id, clientID]) = none) :
    ∃ (filled : Database) (row : Kind),
      Tables.Puts .kinds row database.tables filled.tables ∧
      row.id = id ∧ row.clientID = clientID ∧ row.critical = false := by
  have absent : database.tables.lookup .kinds (Table.kinds.uniqueKey
      ⟨0, id, "", false, clientID, 0, 0, ""⟩) = none := free
  exact ⟨_, _, (Database.insert_puts absent).2, rfl, rfl, rfl⟩

/-- Kinds can be added until every preference is about one of them. -/
theorem exists_changeable (preferences : List Services.Preference)
    (database : Database) (plain : NoCritical database.tables) :
    ∃ filled : Database, NoCritical filled.tables ∧
      (∀ preference ∈ preferences, (filled.tables.lookup .kinds
        (Collation.key [preference.kindID, preference.clientID])).isSome =
          true) ∧
      ∀ key, filled.tables.lookup .globalUnsubscribes key =
        database.tables.lookup .globalUnsubscribes key := by
  induction preferences with
  | nil => exact ⟨database, plain, by simp, fun _ => rfl⟩
  | cons preference rest ih =>
      obtain ⟨filled, plain, all, globals⟩ := ih
      cases found : filled.tables.lookup .kinds
          (Collation.key [preference.kindID, preference.clientID]) with
      | some kind =>
          refine ⟨filled, plain, ?_, globals⟩
          rw [List.forall_mem_cons, found]
          exact ⟨rfl, all⟩
      | none =>
          obtain ⟨fuller, row, puts, named, client, ordinary⟩ :=
            exists_kind found
          have key : Table.kinds.uniqueKey row =
              Collation.key [preference.kindID, preference.clientID] := by
            rw [← named, ← client]
            rfl
          refine ⟨fuller, ?_, ?_, ?_⟩
          · intro key kind stored
            rw [puts.lookup] at stored
            split at stored
            · cases stored
              exact ordinary
            · exact plain key kind stored
          · rw [List.forall_mem_cons]
            refine ⟨by rw [← key, puts.stored]; rfl, ?_⟩
            intro other member
            rw [puts.lookup]
            split
            · rfl
            · exact all other member
          · intro key
            rw [Tables.lookup_congr (puts.others .globalUnsubscribes
              (by decide)), globals]

/-- A world in which the preferences can be changed, and in which the user is
globally unsubscribed or not. -/
theorem exists_world (preferences : List Services.Preference)
    (userID : String) (globalUnsubscribe : Bool) :
    ∃ world : World,
      (∀ preference ∈ preferences,
        PreferenceUpdater.Changeable world.database.tables preference) ∧
      (world.database.tables.lookup .globalUnsubscribes
        (Collation.key [userID])).isSome =
        globalUnsubscribe := by
  have start : ∃ database : Database, NoCritical database.tables ∧
      (database.tables.lookup .globalUnsubscribes
        (Collation.key [userID])).isSome =
        globalUnsubscribe := by
    have empty : NoCritical (Database.after []).tables := by
      intro key kind stored
      cases stored
    cases globalUnsubscribe with
    | false => exact ⟨.after [], empty, rfl⟩
    | true =>
        have absent : (Database.after []).tables.lookup .globalUnsubscribes
            (Table.globalUnsubscribes.uniqueKey ⟨0, userID, 0⟩) = none := rfl
        have puts := (Database.insert_puts absent).2
        refine ⟨_, ?_, by
          have stored := puts.stored
          rw [Table.uniqueKey_numbered] at stored
          exact Option.isSome_iff_exists.mpr ⟨_, stored⟩⟩
        intro key kind stored
        rw [Tables.lookup_congr (puts.others .kinds (by decide))] at stored
        exact empty key kind stored
  obtain ⟨database, plain, global⟩ := start
  obtain ⟨filled, ordinary, all, globals⟩ :=
    exists_changeable preferences database plain
  refine ⟨{ World.start [] with database := filled }, ?_, by
    rw [← global]
    exact congrArg Option.isSome (globals (Collation.key [userID]))⟩
  intro preference member
  obtain ⟨kind, stored⟩ := Option.isSome_iff_exists.mp (all preference member)
  exact ⟨kind, stored, ordinary _ kind stored⟩

/-- The kinds in a builder, each in a preference. -/
def kindsIn (clients : ClientsMap) : List Services.Preference :=
  clients.entries.flatMap fun client =>
    client.2.keys.map fun kindID => ⟨client.1, kindID, true⟩

theorem changeable_of_entered {clients : ClientsMap} {tables : Tables}
    (all : ∀ preference ∈ kindsIn clients,
      PreferenceUpdater.Changeable tables preference)
    {preference : Services.Preference}
    (entered : PreferencesBuilder.Entered clients preference) :
    PreferenceUpdater.Changeable tables preference := by
  obtain ⟨kinds, kind, found, stored, _⟩ := entered
  have client := AList.mem_lookup_iff.mp found
  have listed : preference.kindID ∈ kinds.keys := by
    rw [← AList.mem_keys, ← AList.lookup_isSome, stored]
    rfl
  exact all ⟨preference.clientID, preference.kindID, true⟩
    (List.mem_flatMap.mpr ⟨_, client, List.mem_map_of_mem listed⟩)

section Updates

variable {library : Library} {texts : Valiant.Texts}
  {environment : Environment} {world : World} {body : Body} {userID : String}
  {unconvertible : String → Objection}

theorem run_updateFor_success {decoded : PreferencesBuilder}
    (faultless : Faultless environment)
    (ran : (Valiant.validate library texts Builder.fields [] body .new).run
      (World.handle environment) world = (some (.ok decoded), world))
    (complete : PreferencesBuilder.Complete decoded.clients)
    (all : ∀ preference ∈ kindsIn decoded.clients,
      PreferenceUpdater.Changeable world.database.tables preference) :
    ∃ after,
      (updateFor library texts userID body unconvertible).run
        (World.handle environment) world = (some none, after) := by
  obtain ⟨result, flattened, entered, converts⟩ :=
    PreferencesBuilder.run_toPreferences environment world decoded
  obtain ⟨preferences, rfl⟩ := converts complete
  obtain ⟨between, _, runs⟩ := @PreferenceUpdater.run_execute _ environment
    .transaction world.database faultless (begun world) rfl
    decoded.globalUnsubscribe userID
  obtain ⟨err, working, count, executed, success, _⟩ := runs preferences
  cases success.mpr fun preference member =>
    changeable_of_entered all (entered preferences rfl preference member)
  obtain ⟨after, ended, _⟩ := run_inTransaction_faultless faultless executed
  refine ⟨after, ?_⟩
  rw [updateFor, Program.run_bind_of _ ran]
  simp only
  rw [Program.run_bind_of _ flattened]
  simp only
  rw [Program.run_bind_of _ ended]
  rfl

theorem run_updateFor_none {after : World} :
    (updateFor library texts userID body unconvertible).run
        (World.handle environment) world = (some none, after) ↔
      (complain library texts userID body unconvertible).run
        (World.handle environment) world = (some none, after) := by
  rw [updateFor_eq, Program.run_bind]
  rcases (complain library texts userID body unconvertible).run
    (World.handle environment) world with ⟨result, final⟩
  cases result with
  | none => simp
  | some complaint => cases complaint <;> simp

/-- An update that succeeds has switched the user's global unsubscribe, and
nobody else's. -/
theorem switched_of_complain {after : World} {decoded : PreferencesBuilder}
    (accepted : Validated library body decoded)
    (success : (complain library texts userID body unconvertible).run
      (World.handle environment) world = (some none, after)) :
    (after.database.tables.lookup .globalUnsubscribes
      (Collation.key [userID])).isSome =
        decoded.globalUnsubscribe ∧
      ∀ other, ¬ Collation.equal other userID →
        after.database.tables.lookup .globalUnsubscribes
          (Collation.key [other]) =
          world.database.tables.lookup .globalUnsubscribes
            (Collation.key [other]) := by
  obtain ⟨json, builder, preferences, between, first, struct, _, toggled,
    applied⟩ := updateFor_accepted (run_updateFor_none.mpr success)
  obtain ⟨members, listed, decodes, _⟩ := accepted
  rw [listed, Option.some.injEq] at first
  rw [← first, decodes, Option.some.injEq] at struct
  have globals := Tables.lookup_congr
    (applied.others .globalUnsubscribes (by decide))
  refine ⟨by rw [globals, toggled.present, struct], ?_⟩
  intro other different
  rw [globals, toggled.elsewhere (Collation.key [other])
    (by simpa using different)]

end Updates

/-! ## Agreement -/

omit [Collation] in
theorem noContent_of_respond {outcome : Option (Option Complaint)}
    (same : respond outcome = .noContent) : outcome = some none := by
  cases outcome with
  | none => cases same
  | some complaint =>
      cases complaint with
      | none => rfl
      | some complaint =>
          rw [respond] at same
          split at same <;> cases same

/-- For the user and the body, the endpoints answer alike and leave the same
rows, whatever is stored and whichever statements fail. -/
def EndpointsAgree (library : Library) (texts : Valiant.Texts)
    (userID : String) (body : Body) : Prop :=
  ∀ claims : Jwt.Fields, claims.lookup "user_id" = some (.string userID) →
    ∀ environment world,
      let own := (UpdatePreferences.execute library texts claims body).run
        (World.handle environment) world
      let specific := (UpdateSpecificUserPreferences.execute library texts
        (userPreferencesPath userID) body).run (World.handle environment)
          world
      respond own.1 = respond specific.1 ∧
        own.2.database = specific.2.database

/-- The ID that is read from the user's path is no other spelling of it. -/
def Unmistakable (userID : String) : Prop :=
  ∀ other, parseGUID (userPreferencesPath userID) = some other →
    Collation.equal other userID → other = userID

/-- Where they agree, an accepted body is complete, and the user is read back
from the path. -/
theorem EndpointsAgree.condition {library : Library}
    {texts : Valiant.Texts} {userID : String} {body : Body}
    (unmistakable : Unmistakable userID)
    (agree : EndpointsAgree library texts userID body)
    {decoded : PreferencesBuilder}
    (accepted : Validated library body decoded) :
    PreferencesBuilder.Complete decoded.clients ∧
      parseGUID (userPreferencesPath userID) = some userID := by
  obtain ⟨userGUID, parsed⟩ := parseGUID_path userID
  obtain ⟨world, all, global⟩ := exists_world (kindsIn decoded.clients)
    userID (!decoded.globalUnsubscribe)
  obtain ⟨result, ran, accepts⟩ := run_validate_iff library texts .calm
    world body
  have validated := (accepts decoded).mpr accepted
  subst validated
  have claimed : ([("user_id", .string userID)] : Jwt.Fields).lookup
      "user_id" = some (.string userID) := rfl
  have both := agree _ claimed .calm world
  simp only [UpdatePreferences.execute, withUserID, claimed,
    UpdateSpecificUserPreferences.execute, parsed] at both
  have complete : PreferencesBuilder.Complete decoded.clients := by
    by_contra incomplete
    obtain ⟨text, runs⟩ := run_complain_incomplete ran incomplete
    rw [runs, runs] at both
    cases both.1
  refine ⟨complete, ?_⟩
  rw [parsed, Option.some.injEq]
  by_contra misread
  have different : ¬ Collation.equal userID userGUID := by
    intro same
    rw [Collation.equal_iff] at same
    exact misread (unmistakable userGUID parsed
      (Collation.equal_iff.mpr same.symm))
  have success : ∃ after, (updateFor library texts userID body
      fun text => .validation [text]).run (World.handle .calm) world =
        (some none, after) :=
    run_updateFor_success (fun _ => rfl) ran complete all
  obtain ⟨after, success⟩ := success
  have own := run_updateFor_none.mp success
  rw [own] at both
  rcases specific : (complain library texts userGUID body .plain).run
    (World.handle .calm) world with ⟨outcome, later⟩
  rw [specific] at both
  cases noContent_of_respond both.1.symm
  have switched := (switched_of_complain accepted own).1
  have kept := (switched_of_complain accepted specific).2 userID different
  rw [both.2, kept, global] at switched
  simp at switched

/-- The validator refuses the body, or it is complete and the user is read
back from the path. -/
def AnsweredAlike (library : Library) (userID : String) (body : Body) :
    Prop :=
  ∀ decoded, Validated library body decoded →
    PreferencesBuilder.Complete decoded.clients ∧
      parseGUID (userPreferencesPath userID) = some userID

theorem endpointsAgree_of_answeredAlike {library : Library}
    {texts : Valiant.Texts} {userID : String} {body : Body}
    (alike : AnsweredAlike library userID body) :
    EndpointsAgree library texts userID body := by
  obtain ⟨userGUID, parsed⟩ := parseGUID_path userID
  intro claims claimed environment world
  obtain ⟨result, ran, accepts⟩ := run_validate_iff library texts environment
    world body
  simp only [UpdatePreferences.execute, withUserID, claimed,
    UpdateSpecificUserPreferences.execute, parsed]
  by_cases rejected : ∀ decoded, result ≠ some (.ok decoded)
  · obtain ⟨outcome, runs⟩ := run_complain_rejected ran rejected
    rw [runs, runs]
    exact ⟨rfl, rfl⟩
  · obtain ⟨decoded, same⟩ := not_forall_not.mp rejected
    have accepted := (accepts decoded).mp same
    obtain ⟨complete, back⟩ := alike decoded accepted
    rw [parsed, Option.some.injEq] at back
    subst back same
    obtain ⟨preferences, _, runs⟩ := run_complain_complete ran complete
      userGUID
    rw [runs, runs]
    exact ⟨rfl, rfl⟩

/-- They agree on the bodies that the validator refuses, and on those that are
complete, for users whose ID is read back from the path; and on no others,
unless what is read is the same user to the tables. -/
theorem endpoints_agree_iff (library : Library) (texts : Valiant.Texts)
    (userID : String) (body : Body) :
    (AnsweredAlike library userID body →
      EndpointsAgree library texts userID body) ∧
    (Unmistakable userID →
      (EndpointsAgree library texts userID body ↔
        AnsweredAlike library userID body)) := by
  refine ⟨endpointsAgree_of_answeredAlike, fun unmistakable => ?_⟩
  constructor
  · intro agree decoded accepted
    exact agree.condition unmistakable accepted
  · exact endpointsAgree_of_answeredAlike

end Collated

attribute [local instance] Collation.binary

theorem unmistakable_binary (userID : String) : Unmistakable userID :=
  fun _ _ same => Collation.equal_iff.mp same

theorem endpoints_agree_on_nothing :
    EndpointsAgree plainLibrary plainTexts "user"
      ⟨some (.object []), false⟩ := by
  refine ((endpoints_agree_iff plainLibrary plainTexts "user" _).2
    (unmistakable_binary "user")).mpr ?_
  intro decoded accepted
  obtain ⟨members, listed, decodes, _⟩ := accepted
  cases listed
  cases decodes
  refine ⟨?_, by decide +kernel⟩
  intro clientID kinds found
  cases found

/-- A client without kinds is a 422 for one endpoint and a crash for the
other. -/
theorem missing_kinds_crash_one_endpoint :
    ¬ EndpointsAgree plainLibrary plainTexts "user"
      ⟨some (.object [("clients", .object [("client", .object [])])]),
        false⟩ := by
  intro agree
  have accepted : Validated plainLibrary
      ⟨some (.object [("clients", .object [("client", .object [])])]), false⟩
      ⟨false, AList.singleton "client" ∅⟩ := by
    refine ⟨_, rfl, rfl, by decide, by decide⟩
  have complete := (agree.condition (unmistakable_binary "user")
    accepted).1 "client" ∅ rfl
  exact complete.1 rfl

end Notifications.Web
