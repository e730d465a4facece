import Notifications.Web.Assigning
import Notifications.Web.System

/-!
# Who can make a kind critical

Five kinds of requests write whole rows of `kinds`, some of them from a copy
that was read long before.  A request whose token has neither
`critical_notifications.write` nor `notifications.manage` never writes a
critical row, whatever the answers to its calls are, and so does not depend on
its copies being current.
-/

set_option autoImplicit false

namespace Notifications.Web

open Notifications.Lib Notifications.Models Notifications.Services
open Notifications.Strategies

def Holds (claims : Jwt.Fields) (scope : String) : Prop :=
  ∃ scopes, claims.lookup "scope" = some (.array scopes) ∧
    Jwt.Json.string scope ∈ scopes

def Privileged (claims : Jwt.Fields) : Prop :=
  Holds claims "critical_notifications.write" ∨
    Holds claims "notifications.manage"

section Collated

variable [Collation]

def CriticalKind (database : Database) (id clientID : String) : Prop :=
  ∃ kind : Kind, kind ∈ database.tables.rows .kinds ∧ kind.id = id ∧
    kind.clientID = clientID ∧ kind.critical = true

instance (database : Database) (id clientID : String) :
    Decidable (CriticalKind database id clientID) :=
  inferInstanceAs (Decidable (∃ kind ∈ database.tables.rows .kinds,
    kind.id = id ∧ kind.clientID = clientID ∧ kind.critical = true))

/-! ## Statements that make nothing critical -/

def ModestStatement : Statement → Prop
  | .insert .kinds row => row.critical = false
  | .update .kinds row => row.critical = false
  | _ => True

def Modest : Op → Prop
  | .sql _ statement => ModestStatement statement
  | _ => True

def ModestChange : Change → Prop
  | .inserted .kinds row => row.critical = false
  | .updated .kinds row => row.critical = false
  | _ => True

def ModestTxn (txn : Models.Txn) : Prop :=
  ∀ change ∈ txn.changes, ModestChange change

omit [Collation] in
theorem modestStatement_of_table {statement : Statement}
    (other : statement.table ≠ .kinds) : ModestStatement statement := by
  cases statement with
  | insert table row => cases table <;> trivial
  | update table row => cases table <;> trivial
  | _ => exact trivial

def NothingNew (before after : Database) : Prop :=
  ∀ kind : Kind, kind ∈ after.tables.rows .kinds → kind.critical = true →
    kind ∈ before.tables.rows .kinds

section Statements

variable {before after : Database}

theorem NothingNew.refl (database : Database) :
    NothingNew database database :=
  fun _ member _ => member

theorem NothingNew.trans {middle : Database}
    (first : NothingNew before middle) (second : NothingNew middle after) :
    NothingNew before after :=
  fun kind member critical =>
    first kind (second kind member critical) critical

theorem nothingNew_of_same
    (same : after.tables.rows .kinds = before.tables.rows .kinds) :
    NothingNew before after := by
  intro kind member _
  rwa [same] at member

theorem nothingNew_insert {kind : Kind} (modest : kind.critical = false) :
    NothingNew before (before.execute (.insert .kinds kind)).2 := by
  intro row member critical
  simp only [Database.execute, Statement.execute] at member
  split at member
  · exact member
  · simp only [Tables.insert, Tables.bump_rows, Tables.set_rows_same,
      List.mem_append, List.mem_singleton] at member
    rcases member with old | rfl
    · exact old
    · simp [Table.numbered, modest] at critical

theorem nothingNew_update {kind : Kind} (modest : kind.critical = false) :
    NothingNew before (before.execute (.update .kinds kind)).2 := by
  intro row member critical
  simp only [Database.execute, Statement.execute] at member
  split at member
  · exact member
  · simp only [Tables.update, Tables.set_rows_same] at member
    rcases mem_updateWhere.mp member with ⟨old, _⟩ | ⟨_, _, _, rfl⟩
    · exact old
    · simp [modest] at critical

theorem nothingNew_delete (kind : Kind) :
    NothingNew before (before.execute (.delete .kinds kind)).2 := by
  intro row member _
  simp only [Database.execute, Statement.execute, Tables.delete,
    Tables.set_rows_same] at member
  exact (mem_deleteWhere.mp member).1

theorem nothingNew_of_other {statement : Statement}
    (other : statement.table ≠ .kinds) :
    NothingNew before (before.execute statement).2 :=
  nothingNew_of_same (statement.execute_other before.tables other.symm)

theorem nothingNew_execute {statement : Statement}
    (modest : ModestStatement statement) :
    NothingNew before (before.execute statement).2 := by
  by_cases other : statement.table = .kinds
  · cases statement with
    | select table wanted => exact .refl before
    | insert table row =>
        cases other
        exact nothingNew_insert modest
    | update table row =>
        cases other
        exact nothingNew_update modest
    | delete table row =>
        cases other
        exact nothingNew_delete row
    | upsertReceipt receipt => cases other
    | selectPreferences userGUID => exact .refl before
  · exact nothingNew_of_other other

/-! ## Transactions -/

theorem nothingNew_apply {change : Change} (modest : ModestChange change) :
    NothingNew before (before.apply change) := by
  cases change with
  | inserted table row =>
      rcases before.apply_inserted table row with same | adopted
      · rw [same]
        exact .refl before
      · intro kind member critical
        rw [adopted] at member
        by_cases same : Table.kinds = table
        · subst same
          rw [Tables.adopt_rows_same] at member
          rcases List.mem_append.mp member with old | new
          · exact old
          · have equal : kind = row := List.mem_singleton.mp new
            have plain : row.critical = false := modest
            rw [equal, plain] at critical
            cases critical
        · rwa [Tables.adopt_rows_other _ _ same] at member
  | updated table row =>
      apply nothingNew_execute
      cases table <;> exact modest
  | removed table row => exact nothingNew_execute trivial

theorem nothingNew_on {txn : Models.Txn} (modest : ModestTxn txn) :
    NothingNew before (txn.on before) := by
  unfold Models.Txn.on
  unfold ModestTxn at modest
  generalize txn.changes = changes at modest
  induction changes generalizing before with
  | nil => exact .refl before
  | cons change rest ih =>
      have first := @nothingNew_apply _ before change (modest change (.head _))
      exact first.trans (ih fun later member =>
        modest later (.tail _ member))

omit [Collation] in
theorem modestChange_of_records {statement : Statement} {change : Change}
    (modest : ModestStatement statement)
    (records : Models.Txn.Records statement change) : ModestChange change := by
  cases records with
  | insert table row number => cases table <;> exact modest
  | update table row => cases table <;> exact modest
  | delete table row => exact trivial

theorem modestTxn_execute {txn moved : Models.Txn} {statement : Statement}
    {result : Except String statement.Result}
    (modest : ModestTxn txn) (fine : ModestStatement statement)
    (executed : txn.execute before statement = some (result, moved, after)) :
    ModestTxn moved ∧ NothingNew before after := by
  obtain ⟨same, changes⟩ := Models.Txn.execute_cases executed
  refine ⟨?_, nothingNew_of_same (congrFun same .kinds)⟩
  intro change member
  rcases changes with kept | ⟨new, records, added⟩
  · rw [kept] at member
    exact modest change member
  · rw [added] at member
    rcases List.mem_append.mp member with old | last
    · exact modest change old
    · rw [List.mem_singleton.mp last]
      exact modestChange_of_records fine records

/-- One call of a request that writes no critical row. -/
theorem Effect.modest {op : Op} {transaction final : Option Models.Txn}
    (effect : Effect before transaction op final after) (fine : Modest op)
    (modest : ∀ txn ∈ transaction, ModestTxn txn) :
    NothingNew before after ∧ ∀ txn ∈ final, ModestTxn txn := by
  cases effect with
  | idle => exact ⟨.refl before, modest⟩
  | closed => exact ⟨.refl before, by simp⟩
  | opened =>
      refine ⟨.refl before, ?_⟩
      intro txn member
      cases member
      intro change none
      cases none
  | direct statement => exact ⟨nothingNew_execute fine, modest⟩
  | inside statement current executed =>
      obtain ⟨kept, nothing⟩ :=
        modestTxn_execute (modest _ current) fine executed
      refine ⟨nothing, ?_⟩
      intro txn member
      cases member
      exact kept
  | committed current =>
      exact ⟨nothingNew_on (modest _ current), by simp⟩

end Statements

end Collated

/-! ## The scopes that the handlers look at -/

theorem mem_of_hasCriticalWrite {scopes : List Jwt.Json}
    (found : hasCriticalWrite scopes = some true) :
    Jwt.Json.string "critical_notifications.write" ∈ scopes := by
  induction scopes with
  | nil => cases found
  | cons first rest ih =>
      cases first with
      | string scope =>
          obtain ⟨later, inRest, same⟩ := Option.bind_eq_some_iff.mp found
          cases later with
          | true => exact .tail _ (ih inRest)
          | false =>
              have here : scope = "critical_notifications.write" := by
                simpa using same
              rw [here]
              exact .head _
      | _ => cases found

theorem mem_of_containsElement {key : String} {elements : List Jwt.Json}
    (found : Authenticator.containsElement key elements = some true) :
    Jwt.Json.string key ∈ elements := by
  induction elements with
  | nil => cases found
  | cons first rest ih =>
      cases first with
      | string element =>
          rw [Authenticator.containsElement] at found
          split at found
          · rename_i same
            rw [same]
            exact .head _
          · exact .tail _ (ih found)
      | _ => cases found

theorem holds_of_contains {claims : Jwt.Fields} {elements : Jwt.Json}
    {scope : String} (stored : claims.lookup "scope" = some elements)
    (found : Authenticator.contains elements scope = some true) :
    Holds claims scope := by
  cases elements with
  | array scopes => exact ⟨scopes, stored, mem_of_containsElement found⟩
  | _ => cases found

theorem holds_of_authenticated {claims : Jwt.Fields} {scope : String}
    (passed : (Authenticator.mk [scope] "").containsATokenScope claims =
      some true) : Holds claims scope := by
  unfold Authenticator.containsATokenScope at passed
  split at passed
  · rename_i elements stored
    apply holds_of_contains stored
    simp only [Authenticator.containsAny] at passed
    split at passed
    · cases passed
    · exact passed
  · cases passed

section Collated

variable [Collation]

/-! ## The handlers -/

section Handlers

variable {claims : Jwt.Fields} (unprivileged : ¬ Privileged claims)

include unprivileged

omit [Collation] in
theorem validated_not_critical {kinds validated : List Kind} {client : Client}
    (ok : validateCriticalScopes claims kinds client =
      some (.ok validated)) :
    ∀ kind ∈ validated, kind.critical = false := by
  unfold validateCriticalScopes at ok
  split at ok
  · rename_i scopes stored
    obtain ⟨critical, found, ok⟩ := Option.bind_eq_some_iff.mp ok
    cases critical with
    | true =>
        exact absurd (Or.inl ⟨scopes, stored, mem_of_hasCriticalWrite found⟩)
          unprivileged
    | false =>
        obtain ⟨rfl, plain⟩ := validatedKinds_ok (Option.some.inj ok)
        intro kind member
        obtain ⟨sent, listed, rfl⟩ := List.mem_map.mp member
        exact plain rfl sent listed
  · cases ok

omit [Collation] in
/-- A critical kind is only notified about with the scope. -/
theorem not_critical_of_allowed {kind : Kind}
    (allowed : allowedKind claims kind = some true) :
    kind.critical = false := by
  by_contra critical
  rw [Bool.not_eq_false] at critical
  rw [allowedKind, if_pos critical] at allowed
  obtain ⟨elements, stored, found⟩ := Option.bind_eq_some_iff.mp allowed
  exact unprivileged (Or.inl (holds_of_contains stored found))

omit unprivileged in
theorem registerAndDispatch_modest {kind : Kind}
    (plain : kind.critical = false) (marshal : Postal.Delivery → String)
    (strategy : Strategy) (guid : String) (parameters : NotifyParams)
    (client : Client) (clientID : String) :
    (registerAndDispatch marshal strategy guid parameters client kind
      clientID).Only Modest := by
  have messages : ∀ op, Messaging op → Modest op := by
    intro op fine
    cases op with
    | sql conn statement =>
        have same : statement.table = .messages := fine
        exact modestStatement_of_table (by rw [same]; decide)
    | _ => exact trivial
  have copied : ∀ other ∈ [kind], ∀ row, KindsRepo.Copies other row →
      row.critical = false := by
    intro other member row copies
    rw [List.mem_singleton.mp member] at copies
    exact copies.critical.trans plain
  apply Program.only_bind (register_only trivial (fun _ => trivial)
    copied copied (fun _ => trivial) (fun _ => trivial)
    (fun _ => trivial))
  intro err
  cases err with
  | some error => exact trivial
  | none =>
      apply Program.only_bind
        ((dispatch_messaging marshal _ _ _ strategy).weaken messages)
      intro result
      cases result <;> exact trivial

theorem executeRegistration_modest (description : String) (kinds : List Kind)
    (prune : Bool) :
    (executeRegistration claims description kinds prune).Only Modest := by
  apply executeRegistration_only trivial trivial trivial
  intro clientID validated _ ok
  have plain := validated_not_critical unprivileged ok
  refine registration_only trivial (fun _ => trivial) ?_ ?_
    (fun _ => trivial) (fun _ => trivial) (fun _ => trivial)
    (fun _ => trivial)
  · intro kind member row copies
    exact copies.critical.trans (plain kind member)
  · intro kind member row copies
    exact copies.critical.trans (plain kind member)

theorem registerNotifications_modest (library : Library) (body : Body) :
    (registerNotifications library claims body).Only Modest := by
  rw [registerNotifications]
  split
  · exact trivial
  · split
    · exact trivial
    · exact executeRegistration_modest unprivileged _ _ _

theorem registerClientWithNotifications_modest (library : Library)
    (body : Body) :
    (registerClientWithNotifications library claims body).Only Modest := by
  have iterates : ∀ op, Iterates op → Modest op := by
    intro op fine
    cases op with
    | sql conn statement => exact fine.elim
    | _ => exact trivial
  apply Program.only_bind
    ((newClientRegistration_iterates library body).weaken iterates)
  intro parsed
  cases parsed with
  | error refusal => exact trivial
  | ok parameters =>
      apply Program.only_bind
        ((validate_iterates parameters).weaken iterates)
      intro refusal
      cases refusal with
      | some refusal => exact trivial
      | none =>
          apply Program.only_perform trivial
          intro order
          exact executeRegistration_modest unprivileged _ _ _

theorem notify_modest (marshal : Postal.Delivery → String)
    (strategy : Strategy) (guid : String)
    (parsed : Except Refusal NotifyParams) :
    (notify marshal claims strategy guid parsed).Only Modest := by
  unfold Web.notify
  split
  · exact trivial
  · split
    · exact trivial
    · apply Program.only_bind (NotificationsFinder.clientAndKind_only _ _
        (fun _ _ => trivial))
      rintro (error | ⟨client, kind⟩)
      · exact trivial
      · simp only
        split
        · exact trivial
        · exact trivial
        · rename_i allowed
          exact registerAndDispatch_modest (not_critical_of_allowed
            unprivileged allowed) _ _ _ _ _ _

end Handlers

/-! ## Requests about templates -/

section Templates

variable {allowed : Op → Prop} (clock : allowed .now)
  (writes : ∀ {conn : Conn} (statement : Statement),
    statement.table = .templates → allowed (.sql conn statement))

include writes

theorem deleteTemplates_only (templateID : String) :
    (deleteTemplates templateID).Only allowed :=
  Program.only_bind (TemplatesRepo.destroy_only writes _) fun _ => trivial

include clock

theorem updateTemplates_only (templateID : String)
    (parsed : Except Refusal TemplateParams) :
    (updateTemplates templateID parsed).Only allowed := by
  unfold updateTemplates
  split
  · exact trivial
  · exact Program.only_bind (Program.only_bind (TemplatesRepo.update_only
      clock writes _ _) fun _ => trivial) fun _ => trivial

omit [Collation] in
theorem createTemplate_only (draws : allowed (.service .newGUID))
    (parsed : Except Refusal TemplateParams) :
    (createTemplate parsed).Only allowed := by
  unfold createTemplate
  split
  · exact trivial
  · refine Program.only_bind (Program.only_bind (TemplatesRepo.create_only
      clock writes draws _) ?_) ?_
    · rintro ⟨template, err⟩
      cases err <;> exact trivial
    · intro created
      cases created <;> exact trivial

end Templates

omit [Collation] in
theorem templates_modest {conn : Conn} (statement : Statement)
    (same : statement.table = .templates) : Modest (.sql conn statement) :=
  modestStatement_of_table (by rw [same]; decide)

omit [Collation] in
theorem authenticated_only {allowed : Op → Prop} {scopes : List String}
    {claims : Jwt.Fields} {handler : Prog (Option Refusal)}
    (only : (Authenticator.mk scopes "").containsATokenScope claims =
      some true → handler.Only allowed) :
    (authenticated scopes claims handler).Only allowed := by
  unfold authenticated
  split
  · exact trivial
  · exact trivial
  · rename_i passed
    exact only passed

theorem serve_modest (setup : Setup) {request : Request}
    (unprivileged : ¬ Privileged request.claims) :
    (request.serve setup).Only Modest := by
  refine authenticated_only fun passed => ?_
  have held := holds_of_authenticated passed
  unfold Request.handler
  cases endpoint : request.endpoint with
  | registration body => exact registerNotifications_modest unprivileged _ _
  | notifications body =>
      exact registerClientWithNotifications_modest unprivileged _ _
  | notify strategy guid parsed => exact notify_modest unprivileged _ _ _ _
  | updateNotifications clientID notificationID parsed =>
      rw [endpoint] at held
      exact absurd (Or.inr held) unprivileged
  | assignClientTemplate clientID body =>
      rw [endpoint] at held
      exact absurd (Or.inr held) unprivileged
  | assignNotificationTemplate clientID notificationID body =>
      rw [endpoint] at held
      exact absurd (Or.inr held) unprivileged
  | createTemplate parsed =>
      exact createTemplate_only trivial templates_modest trivial parsed
  | updateTemplates templateID parsed =>
      exact updateTemplates_only trivial templates_modest templateID parsed
  | updateDefaultTemplate parsed =>
      exact updateTemplates_only trivial templates_modest defaultTemplateID
        parsed
  | deleteTemplates templateID =>
      exact deleteTemplates_only templates_modest templateID

/-! ## Runs -/

/-- What a party without authority has left to do makes nothing critical. -/
structure Party.Harmless (party : Party) : Prop where
  program : party.program.Only Modest
  transaction : ∀ txn ∈ party.transaction, ModestTxn txn

structure Contained (requests : List Request) (state : State) : Prop where
  requests : state.parties.map Party.request = requests
  harmless : ∀ party ∈ state.parties, ¬ Privileged party.request.claims →
    party.Harmless

theorem contained_initial (setup : Setup) (server : Server)
    (requests : List Request) :
    Contained requests (.initial setup server requests) := by
  constructor
  · simp [State.initial, Party.arrived, Function.comp_def]
  · intro party member unprivileged
    obtain ⟨request, _, rfl⟩ := List.mem_map.mp member
    refine ⟨serve_modest setup unprivileged, ?_⟩
    intro txn none
    cases none

/-- The output shows no kind becoming critical, or the request may do that. -/
def Output.Authorized (requests : List Request) (output : Output) : Prop :=
  ∀ id clientID, CriticalKind output.after id clientID →
    ¬ CriticalKind output.before id clientID →
      ∃ request, requests[output.party]? = some request ∧
        Privileged request.claims

theorem map_request_set {parties : List Party} {index : Nat}
    {party moved : Party} (present : parties[index]? = some party)
    (same : moved.request = party.request) :
    (parties.set index moved).map Party.request =
      parties.map Party.request := by
  rw [List.map_set, same]
  apply List.ext_getElem?
  intro position
  rw [List.getElem?_set]
  split
  · rename_i here
    subst here
    obtain ⟨inside, stored⟩ := List.getElem?_eq_some_iff.mp present
    simp [inside, stored]
  · rfl

theorem step_authorized {requests : List Request} {state next : State}
    {event : Event} {shown : List Output} (contained : Contained requests state)
    (stepped : system.step state event = some (next, shown)) :
    Contained requests next ∧
      ∀ output ∈ shown, output.Authorized requests := by
  obtain ⟨party, op, rest, answer, transaction, server, called, rfl, rfl⟩ :=
    step_called stepped
  have member := List.mem_of_getElem? called.present
  have effect := call_effect called.called
  have harmless : ¬ Privileged party.request.claims →
      NothingNew state.server.database server.database ∧
        (party.moved op (rest answer) transaction).Harmless := by
    intro unprivileged
    obtain ⟨program, modest⟩ := contained.harmless party member unprivileged
    rw [called.running] at program
    obtain ⟨nothing, kept⟩ := effect.modest program.1 modest
    exact ⟨nothing, program.2 answer, kept⟩
  refine ⟨⟨?_, ?_⟩, ?_⟩
  · have same : (party.moved op (rest answer) transaction).request =
        party.request := rfl
    exact (map_request_set called.present same).trans contained.requests
  · intro other otherMember unprivileged
    rcases List.mem_or_eq_of_mem_set otherMember with old | rfl
    · exact contained.harmless other old unprivileged
    · exact (harmless unprivileged).2
  · intro output isShown
    rw [List.mem_singleton.mp isShown]
    rintro id clientID ⟨kind, stored, sameID, sameClient, critical⟩ absent
    refine ⟨party.request, ?_, ?_⟩
    · rw [← contained.requests, List.getElem?_map, called.present]
      rfl
    · by_contra unprivileged
      have old := (harmless unprivileged).1 kind stored critical
      exact absent ⟨kind, old, sameID, sameClient, critical⟩

theorem critical_kinds_need_authority (setup : Setup) (server : Server)
    (requests : List Request) (events : List Event) (final : State)
    (trace : List Output)
    (ran : system.run events (.initial setup server requests) =
      some (final, trace)) :
    ∀ output ∈ trace, ∀ id clientID,
      CriticalKind output.after id clientID →
        ¬ CriticalKind output.before id clientID →
          ∃ request, requests[output.party]? = some request ∧
            (Holds request.claims "critical_notifications.write" ∨
              Holds request.claims "notifications.manage") := by
  have safe := system.run_invariant (fun _ _ => True)
    (fun trace state => Contained requests state ∧
      ∀ output ∈ trace, output.Authorized requests) ?_ events [] _ final trace
    ⟨contained_initial setup server requests, by simp⟩
    (system.guarded_of_forall (fun _ _ _ => trivial) _) ran
  · exact safe.2
  · intro before state event next shown contained _ stepped
    obtain ⟨kept, authorized⟩ := step_authorized contained.1 stepped
    refine ⟨kept, ?_⟩
    intro output member
    rcases List.mem_append.mp member with earlier | now
    · exact contained.2 output earlier
    · exact authorized output now

def criticalClaims : Jwt.Fields :=
  [("client_id", .string "client"),
    ("scope", .array [.string "notifications.write",
      .string "critical_notifications.write"])]

/-- `{"source_description":"S","kinds":[{"id":"kind","description":"K",
"critical":true}]}`. -/
def criticalBody : Body where
  first := some (.object [("source_description", .string "S"),
    ("kinds", .array [.object [("id", .string "kind"),
      ("description", .string "K"), ("critical", .bool true)]])])
  trailing := false

def anySetup : Setup := ⟨anyLibrary, fun _ => ""⟩

def emptyServer : Server := ⟨.after [], [], 1⟩

/-- This party's next calls, with nothing going wrong. -/
def calls (party count : Nat) : List Event :=
  List.replicate count ⟨party, .calm⟩

def criticalRun : Option (State × List Output) :=
  system.run (calls 0 9) (.initial anySetup emptyServer
    [⟨criticalClaims, .registration criticalBody⟩])

end Collated

attribute [local instance] Collation.binary

theorem registration_makes_critical :
    ∃ final trace, criticalRun = some (final, trace) ∧
      ∃ output ∈ trace, CriticalKind output.after "kind" "client" ∧
        ¬ CriticalKind output.before "kind" "client" ∧
        ∃ request : Request,
          [⟨criticalClaims, .registration criticalBody⟩][output.party]? =
            some request ∧
          (Holds request.claims "critical_notifications.write" ∨
            Holds request.claims "notifications.manage") := by
  have finished : criticalRun.isSome = true := by decide +kernel
  obtain ⟨⟨final, trace⟩, ran⟩ := Option.isSome_iff_exists.mp finished
  have becomes : ∃ output ∈ (criticalRun.map Prod.snd).getD [],
      CriticalKind output.after "kind" "client" ∧
        ¬ CriticalKind output.before "kind" "client" := by decide +kernel
  rw [ran] at becomes
  obtain ⟨output, member, after, before⟩ := becomes
  exact ⟨final, trace, ran, output, member, after, before,
    critical_kinds_need_authority anySetup emptyServer _ (calls 0 9) final
      trace ran output member "kind" "client" after before⟩

end Notifications.Web
