import Notifications.Web.Privacy

/-!
# No transaction is left open

The handlers commit or roll back on all of their paths, and nothing panics in
between: the only panic there is the nil pointer of a transaction that could
not be opened.  So whatever requests are served next to each other and whatever
fails, a request that has been answered holds no transaction, and no request
begins one while it has another.
-/

set_option autoImplicit false

namespace Notifications.Lib.Program

variable {Op : Type} {Answer : Op → Type} {α : Type}

/-- The program does not panic, whatever the answers. -/
def Total : Program Op Answer α → Prop
  | .ret _ => True
  | .panic _ => False
  | .call _ next => ∀ answer, Total (next answer)

def halted : Program Op Answer α → Bool
  | .call _ _ => false
  | _ => true

theorem total_recover (handler : String → α)
    (program : Program Op Answer α) : (recover handler program).Total := by
  induction program with
  | ret value => trivial
  | panic message => trivial
  | call op next ih => exact ih

end Notifications.Lib.Program

namespace Notifications.Web.Serving

open Notifications.Lib Notifications.Models Notifications.Services
open Notifications.Strategies

/-! ## Keeping track of the transaction -/

/-- Whether a transaction is open after an answer. -/
def openAfter (opened : Bool) : (op : Op) → Answer op → Bool
  | .begin, .ok _ => true
  | .begin, .error _ => false
  | .commit, _ => false
  | .rollback, _ => false
  | .sql .transaction _, .nilPointer => false
  | _, _ => opened

def closing : Contract Op Answer Bool where
  may opened op := op = .begin → opened = false
  possible _ _ := True
  learn := openAfter

/-- From a closed state to a closed state, however the program ends. -/
def Settled {α : Type} (program : Prog α) : Prop :=
  (Program.attempt program).Meets closing (fun opened _ => opened = false)
    false

/-- What may be done in a transaction: a panic has found it closed. -/
def Steady {α : Type} (program : Prog α) : Prop :=
  ∀ opened, (Program.attempt program).Meets closing
    (fun later result => result = none → later = false) opened

section Rules

variable {α β : Type}

theorem settled_bind {program : Prog α} {rest : α → Prog β}
    (first : Settled program) (later : ∀ value, Settled (rest value)) :
    Settled (program >>= rest) := by
  apply Program.meets_attempt_bind
  refine first.weaken fun opened result closed => ?_
  cases result with
  | none => exact closed
  | some value =>
      rw [closed]
      exact later value

theorem closes_of_plain {program : Prog α} (plain : program.Only Plain) :
    program.Meets closing (fun opened _ => opened = false) false := by
  refine @Program.meets_of_kept _ _ _ _ _ Plain (fun opened => opened = false)
    _ _ _ (fun _ _ closed _ _ => closed) ?_ plain rfl
    fun _ _ closed => closed
  intro opened op answer closed direct
  cases op with
  | sql conn statement =>
      cases conn with
      | connection => cases answer <;> exact closed
      | transaction => exact direct.elim
  | begin => exact direct.elim
  | commit => rfl
  | rollback => rfl
  | enqueue job => exact closed
  | now => exact closed
  | service service => exact closed
  | iterate keys => exact closed

theorem settled_of_plain {program : Prog α} (plain : program.Only Plain) :
    Settled program :=
  closes_of_plain (Program.only_attempt plain)

theorem settled_pure (value : α) : Settled (pure value) := rfl

theorem settled_service {service : Service} {rest : service.Reply → Prog α}
    (later : ∀ answer, Settled (rest answer)) :
    Settled (Program.perform (Op.service service) >>= rest) :=
  settled_bind (settled_of_plain ⟨trivial, fun _ => trivial⟩) later

theorem steady_pure (value : α) : Steady (pure value) := by
  intro opened panicked
  cases panicked

theorem steady_bind {program : Prog α} {rest : α → Prog β}
    (first : Steady program) (later : ∀ value, Steady (rest value)) :
    Steady (program >>= rest) := by
  intro opened
  apply Program.meets_attempt_bind
  refine (first opened).weaken fun opened result closed => ?_
  cases result with
  | none => exact fun _ => closed rfl
  | some value => exact later value opened

theorem steady_sql (statement : Statement) :
    Steady (sql .transaction statement) := by
  intro opened
  refine ⟨nofun, fun answer _ => ?_⟩
  cases answer with
  | ok value =>
      intro panicked
      cases panicked
  | failed text =>
      intro panicked
      cases panicked
  | nilPointer => exact fun _ => rfl

theorem steady_perform {op : Op} (opens : op ≠ .begin) :
    Steady (Program.perform op : Prog (Answer op)) := by
  intro opened
  refine ⟨fun begins => absurd begins opens, fun answer _ panicked => ?_⟩
  cases panicked

theorem steady_selectOne (table : Table) (wanted : table.Row → Bool) :
    Steady (selectOne .transaction table wanted) :=
  steady_bind (steady_sql _) fun _ => steady_pure _

theorem steady_nowTruncated : Steady nowTruncated :=
  steady_bind (steady_perform (by simp)) fun _ => steady_pure _

theorem steady_deleteAll {table : Table} (rows : List table.Row) :
    Steady (deleteAll .transaction table rows) := by
  induction rows with
  | nil => exact steady_pure _
  | cons row rest ih =>
      refine steady_bind (steady_sql _) fun result => ?_
      cases result with
      | error error => exact steady_pure _
      | ok deleted =>
          refine steady_bind ih fun later => ?_
          rcases later with ⟨count, _ | error⟩ <;> exact steady_pure _

theorem settled_end {op : Op} (ends : op = .commit ∨ op = .rollback)
    {rest : Answer op → Prog α} (opened : Bool)
    (later : ∀ answer, Settled (rest answer)) :
    (Program.attempt (Program.perform op >>= rest)).Meets closing
      (fun opened _ => opened = false) opened := by
  rcases ends with rfl | rfl
  · exact ⟨nofun, fun answer _ => later answer⟩
  · exact ⟨nofun, fun answer _ => later answer⟩

theorem settled_dereference {γ : Type} (reply : Reply γ) :
    Settled (dereference reply) := by
  cases reply <;> exact rfl

/-- The body of a transaction, and the end that its result calls for. -/
theorem settled_transaction {body : Prog (Option Error)}
    {failed : Error → Except Error Unit → Prog α}
    {finished : Except Error Unit → Prog α} (steady : Steady body)
    (undone : ∀ error result, Settled (failed error result))
    (done : ∀ result, Settled (finished result)) :
    Settled (do
      let _ ← Program.perform Op.begin
      match ← body with
      | some error =>
          let result ← rollback
          failed error result
      | none =>
          let result ← commit
          finished result : Prog α) := by
  refine ⟨fun _ => rfl, fun begun _ =>
    @Program.meets_attempt_bind _ _ _ _ _ _ _ _ body _ ?_⟩
  refine (steady _).weaken fun opened result closed => ?_
  cases result with
  | none => exact closed rfl
  | some err =>
      cases err with
      | some error =>
          dsimp only [Option.elim_some]
          rw [rollback, Program.bind_assoc]
          exact settled_end (Or.inr rfl) opened fun reply =>
            settled_bind (settled_dereference reply) (undone error)
      | none =>
          dsimp only [Option.elim_some]
          rw [commit, Program.bind_assoc]
          exact settled_end (Or.inl rfl) opened fun reply =>
            settled_bind (settled_dereference reply) done

end Rules

section Collated

variable [Collation]

/-! ## The bodies -/

section Bodies

theorem steady_findKind (id clientID : String) :
    Steady (KindsRepo.find .transaction id clientID) :=
  steady_bind (steady_selectOne _ _) fun _ => steady_pure _

theorem steady_upsertKind (kind : Kind) :
    Steady (KindsRepo.upsert .transaction kind) := by
  refine steady_bind (steady_findKind _ _) fun found => ?_
  rcases found with ⟨existing, err⟩
  dsimp only
  split
  · refine steady_bind steady_nowTruncated fun now =>
      steady_bind (steady_sql _) fun result => ?_
    cases result <;> exact steady_pure _
  · refine steady_bind (steady_findKind _ _) fun again => ?_
    rcases again with ⟨stored, _ | error⟩
    · refine steady_bind steady_nowTruncated fun now =>
        steady_bind (steady_sql _) fun result => ?_
      cases result with
      | error error => exact steady_pure _
      | ok _ => exact steady_findKind _ _
    · exact steady_pure _
  · exact steady_pure _

theorem steady_upsertClient (client : Client) :
    Steady (ClientsRepo.upsert .transaction client) := by
  have finds : ∀ id, Steady (ClientsRepo.find .transaction id) :=
    fun _ => steady_bind (steady_selectOne _ _) fun _ => steady_pure _
  have stores : ∀ client, Steady (ClientsRepo.store .transaction client) := by
    intro client
    refine steady_bind (steady_sql _) fun result => ?_
    cases result with
    | error error => exact steady_pure _
    | ok _ => exact finds _
  refine steady_bind (finds _) fun found => ?_
  rcases found with ⟨existing, err⟩
  dsimp only
  split
  · refine steady_bind steady_nowTruncated fun now =>
      steady_bind (steady_sql _) fun result => ?_
    cases result <;> exact steady_pure _
  · rw [ClientsRepo.update]
    split
    · refine steady_bind (finds _) fun again => ?_
      rcases again with ⟨stored, _ | error⟩
      · exact stores _
      · exact steady_pure _
    · exact stores _
  · exact steady_pure _

theorem steady_registerKinds (kinds : List Kind) :
    Steady (Registrar.registerKinds .transaction kinds) := by
  induction kinds with
  | nil => exact steady_pure _
  | cons kind rest ih =>
      rw [Registrar.registerKinds]
      split
      · exact ih
      · refine steady_bind (steady_upsertKind kind) fun result => ?_
        rcases result with ⟨stored, _ | error⟩
        · exact ih
        · exact steady_pure _

theorem steady_registration (client : Client) (kinds : List Kind)
    (prune : Bool) :
    Steady (registration client kinds prune .transaction) := by
  refine steady_bind (steady_bind (steady_upsertClient client) ?_) ?_
  · rintro ⟨stored, _ | error⟩
    · exact steady_registerKinds kinds
    · exact steady_pure _
  · rintro (_ | error)
    · dsimp only
      split
      · refine steady_bind (steady_bind (steady_sql _) ?_) fun _ =>
          steady_pure _
        rintro (error | rows)
        · exact steady_pure _
        · exact steady_deleteAll _
      · exact steady_pure _
    · exact steady_pure _

theorem steady_setGlobalUnsubscribe (userGUID : String)
    (unsubscribe : Bool) :
    Steady (GlobalUnsubscribesRepo.set .transaction userGUID
      unsubscribe) := by
  have changes : ∀ row, Steady
      (GlobalUnsubscribesRepo.change .transaction row unsubscribe) := by
    intro row
    rw [GlobalUnsubscribesRepo.change]
    split
    · refine steady_bind (steady_sql _) fun result => ?_
      cases result <;> exact steady_pure _
    · split
      · refine steady_bind (steady_sql _) fun result => ?_
        cases result <;> exact steady_pure _
      · exact steady_pure _
  refine steady_bind (steady_selectOne _ _) fun found => ?_
  rcases found with ⟨row, err⟩
  split
  · exact steady_bind (steady_perform (by simp)) fun _ => changes _
  · exact steady_pure _
  · exact changes _

theorem steady_apply (userID : String) (preference : Services.Preference) :
    Steady (PreferenceUpdater.apply .transaction userID preference) := by
  have finds : ∀ clientID kindID userID, Steady
      (UnsubscribesRepo.find .transaction clientID kindID userID) :=
    fun _ _ _ => steady_bind (steady_selectOne _ _) fun _ => steady_pure _
  rw [PreferenceUpdater.apply]
  split
  · refine steady_bind (steady_bind (finds _ _ _) ?_) fun _ => steady_pure _
    rintro ⟨found, err⟩
    split
    · refine steady_bind steady_nowTruncated fun now =>
        steady_bind (steady_sql _) fun result => ?_
      cases result <;> exact steady_pure _
    · exact steady_pure _
    · exact steady_pure _
  · refine steady_bind (steady_bind (finds _ _ _) ?_) fun _ => steady_pure _
    rintro ⟨found, err⟩
    split
    · exact steady_pure _
    · exact steady_pure _
    · exact steady_deleteAll _

theorem steady_applyAll (userID : String)
    (preferences : List Services.Preference) :
    Steady (PreferenceUpdater.applyAll .transaction userID preferences) := by
  induction preferences with
  | nil => exact steady_pure _
  | cons preference rest ih =>
      refine steady_bind (steady_bind (steady_findKind _ _) ?_) ?_
      · rintro ⟨kind, _ | error⟩
        · dsimp only
          split <;> exact steady_pure _
        · exact steady_pure _
      · rintro (_ | error)
        · refine steady_bind (steady_apply userID preference) ?_
          rintro (_ | error)
          · exact ih
          · exact steady_pure _
        · exact steady_pure _

theorem steady_execute (preferences : List Services.Preference)
    (globalUnsubscribe : Bool) (userID : String) :
    Steady (PreferenceUpdater.execute .transaction preferences
      globalUnsubscribe userID) := by
  refine steady_bind (steady_setGlobalUnsubscribe _ _) ?_
  rintro (_ | error)
  · exact steady_applyAll userID preferences
  · exact steady_pure _

omit [Collation] in
theorem steady_upsertMessage (message : Message) :
    Steady (MessagesRepo.upsert .transaction message) := by
  have finds : ∀ id, Steady (MessagesRepo.findByID .transaction id) := by
    intro id
    refine steady_bind (steady_selectOne _ _) fun found => ?_
    rcases found with ⟨row, _ | error⟩ <;> exact steady_pure _
  refine steady_bind (finds _) fun found => ?_
  rcases found with ⟨row, err⟩
  split
  · refine steady_bind steady_nowTruncated fun now =>
      steady_bind (steady_sql _) fun result => ?_
    cases result <;> exact steady_pure _
  · refine steady_bind steady_nowTruncated fun now =>
      steady_bind (steady_sql _) fun result => ?_
    cases result with
    | error error => exact steady_pure _
    | ok _ => exact finds _
  · exact steady_pure _

omit [Collation] in
/-- The loop of the mailer leaves its transaction open when it has queued
everything, and only then. -/
theorem queueAll_closes (entries : List (String × Gobble.Job))
    (opened : Bool) :
    (Program.attempt (Mailer.queueAll entries)).Meets closing
      (fun later result => result = some true ∨ later = false) opened := by
  have undone : ∀ opened, (Program.attempt (do
      let _ ← rollback
      pure false : Prog Bool)).Meets closing
        (fun later result => result = some true ∨ later = false)
          opened := by
    refine fun opened => ⟨nofun, fun reply _ => ?_⟩
    cases reply <;> exact Or.inr rfl
  induction entries generalizing opened with
  | nil => exact Or.inl rfl
  | cons entry rest ih =>
      refine ⟨nofun, fun enqueued _ => ?_⟩
      cases enqueued with
      | error text => exact undone opened
      | ok job =>
          refine @Program.meets_attempt_bind _ _ _ _ _ _ _ _
            (MessagesRepo.upsert .transaction _) _ ?_
          refine (steady_upsertMessage _ _).weaken fun later result closed =>
            ?_
          cases result with
          | none => exact Or.inr (closed rfl)
          | some stored =>
              rcases stored with ⟨message, _ | error⟩
              · exact ih later
              · exact undone later

omit [Collation] in
theorem settled_queue (jobs : Jobs) (responses : List Strategies.Response) :
    Settled (Mailer.queue jobs responses) := by
  refine ⟨fun _ => rfl, fun begun _ => ⟨nofun, fun order _ => ?_⟩⟩
  refine @Program.meets_attempt_bind _ _ _ _ _ _ _ _ (Mailer.queueAll _) _ ?_
  refine (queueAll_closes _ _).weaken fun later result closed => ?_
  cases result with
  | none => exact closed.resolve_left (by simp)
  | some queued =>
      cases queued with
      | false =>
          have shut := closed.resolve_left (by simp)
          rw [shut]
          exact settled_pure _
      | true =>
          refine ⟨nofun, fun reply _ => ?_⟩
          cases reply <;> exact rfl

omit [Collation] in
theorem settled_deliver (marshal : Postal.Delivery → String)
    (request : Strategies.Request) (users : List Recipient) :
    Settled (Strategy.deliver marshal request users) := by
  refine settled_bind (settled_bind (settled_of_plain (prepare_only trivial
    marshal request users ∅)) fun prepared => ?_) fun _ => settled_pure _
  exact settled_queue prepared.1 prepared.2

omit [Collation] in
/-- Every strategy asks services, and then delivers. -/
theorem settled_dispatch (marshal : Postal.Delivery → String)
    (strategy : Strategy) (clientID guid : String)
    (options : Postal.Options) :
    Settled (strategy.dispatch marshal clientID guid options) := by
  cases strategy with
  | user => exact settled_deliver _ _ _
  | email => exact settled_deliver _ _ _
  | space =>
      refine settled_service fun token => ?_
      rcases token with error | token
      · exact settled_pure _
      · refine settled_service fun guids => ?_
        rcases guids with error | guids
        · exact settled_pure _
        · refine settled_service fun space => ?_
          rcases space with error | space
          · exact settled_pure _
          · refine settled_service fun organization => ?_
            rcases organization with error | organization
            · exact settled_pure _
            · exact settled_deliver _ _ _
  | organization =>
      refine settled_service fun token => ?_
      rcases token with error | token
      · exact settled_pure _
      · refine settled_service fun organization => ?_
        rcases organization with error | organization
        · exact settled_pure _
        · refine settled_service fun guids => ?_
          rcases guids with error | guids
          · exact settled_pure _
          · exact settled_deliver _ _ _
  | everyone =>
      refine settled_service fun token => ?_
      rcases token with error | token
      · exact settled_pure _
      · refine settled_service fun guids => ?_
        rcases guids with error | guids
        · exact settled_pure _
        · exact settled_deliver _ _ _
  | uaaScope =>
      rw [Strategy.dispatch, Strategy.dispatchUAAScope]
      split
      · exact settled_pure _
      · refine settled_service fun token => ?_
        rcases token with error | token
        · exact settled_pure _
        · refine settled_service fun guids => ?_
          rcases guids with error | guids
          · exact settled_pure _
          · exact settled_deliver _ _ _

end Bodies

/-! ## The handlers -/

section Handlers

omit [Collation] in
theorem settled_panic {α : Type} (message : String) :
    Settled (.panic message : Prog α) := rfl

omit [Collation] in
theorem settled_withToken {context : Context}
    {handler : Jwt.Fields → Prog Recorder}
    (settled : ∀ claims, Settled (handler claims)) :
    Settled (withToken context handler) := by
  rw [withToken]
  split
  · exact settled_panic _
  · exact settled _

omit [Collation] in
theorem settled_inTransaction {body : Prog (Option Error)}
    (steady : Steady body) : Settled (inTransaction body) :=
  @settled_transaction (Option Error) body _ _ steady
    (fun _ _ => settled_pure _)
    fun result => by cases result <;> exact settled_pure _

omit [Collation] in
theorem settled_updateInTransaction {body : Prog (Option Error)}
    (steady : Steady body) : Settled (updateInTransaction body) :=
  @settled_transaction (Option Complaint) body _ _ steady
    (fun _ _ => settled_pure _)
    fun result => by cases result <;> exact settled_pure _

theorem notifyHandler_settled (mother : Mother) (strategy : Strategy)
    (guid : HttpRequest → String) (request : HttpRequest)
    (context : Context) :
    Settled (notifyHandler mother strategy guid request context) := by
  rw [notifyHandler]
  split
  · exact settled_panic _
  · refine settled_withToken fun claims => settled_bind ?_ fun result =>
      settled_of_plain (documented_only _ result)
    unfold Notify.execute
    split
    · exact settled_pure _
    · split
      · exact settled_panic _
      · refine settled_bind (settled_of_plain
          (NotificationsFinder.clientAndKind_only _ _
            fun _ _ => Or.inl rfl)) ?_
        rintro (error | ⟨client, kind⟩)
        · exact settled_pure _
        · dsimp only
          split
          · exact settled_panic _
          · exact settled_pure _
          · refine settled_bind (settled_of_plain (register_only trivial
              (fun _ => Or.inl rfl) (fun _ _ _ _ => Or.inr trivial)
              (fun _ _ _ _ => Or.inr trivial) (fun _ => Or.inl rfl)
              (fun _ => Or.inr trivial) fun _ => Or.inr trivial)) ?_
            rintro (_ | error)
            · refine settled_bind (settled_dispatch _ _ _ _ _) ?_
              rintro (error | responses) <;> exact settled_pure _
            · exact settled_pure _

theorem executeRegistration_settled (claims : Jwt.Fields)
    (description : String) (kinds : List Kind) (prune : Bool) :
    Settled (executeRegistration claims description kinds prune) := by
  rw [executeRegistration]
  split
  · exact settled_panic _
  · dsimp only
    split
    · exact settled_panic _
    · exact settled_pure _
    · exact settled_bind (settled_inTransaction (steady_registration _ _ _))
        fun _ => settled_pure _

theorem registerNotifications_settled (mother : Mother)
    (request : HttpRequest) (context : Context) :
    Settled (RegisterNotifications.serveHTTP mother request context) := by
  refine settled_withToken fun claims => settled_bind ?_ ?_
  · rw [registerNotifications]
    split
    · exact settled_pure _
    · split
      · exact settled_pure _
      · exact executeRegistration_settled _ _ _ _
  · rintro (_ | refusal)
    · exact settled_pure _
    · exact settled_of_plain (writeError_only _)

omit [Collation] in
theorem plain_of_iterates {op : Op} (iterates : Iterates op) : Plain op := by
  cases op with
  | iterate keys => trivial
  | now => trivial
  | service service => trivial
  | _ => exact iterates.elim

theorem registerClientWithNotifications_settled (mother : Mother)
    (request : HttpRequest) (context : Context) :
    Settled (RegisterClientWithNotifications.serveHTTP mother request
      context) := by
  refine settled_withToken fun claims => settled_bind ?_ fun refusal =>
    settled_of_plain (statusOnly_only _ refusal)
  refine settled_bind (settled_of_plain
    ((newClientRegistration_iterates _ _).weaken fun _ =>
      plain_of_iterates)) ?_
  rintro (refusal | parameters)
  · exact settled_pure _
  · refine settled_bind (settled_of_plain
      ((validate_iterates parameters).weaken fun _ => plain_of_iterates)) ?_
    rintro (_ | refusal)
    · exact settled_bind (settled_of_plain ⟨trivial, fun _ => trivial⟩)
        fun order => executeRegistration_settled _ _ _ _
    · exact settled_pure _

theorem complain_settled (library : Library) (texts : Valiant.Texts)
    (userID : String) (body : Body) (unconvertible : String → Objection) :
    Settled (complain library texts userID body unconvertible) := by
  refine settled_bind (settled_of_plain (validate_only (fun _ => trivial) _ _
    _ _ _ _)) ?_
  rintro (text | builder)
  · exact settled_pure _
  · refine settled_bind (settled_of_plain (Program.only_perform trivial
      fun _ => clientPreferences_only (fun _ => trivial) _ _)) ?_
    rintro (text | preferences)
    · exact settled_pure _
    · exact settled_updateInTransaction (steady_execute _ _ _)

theorem updatePreferences_settled (mother : Mother) (request : HttpRequest)
    (context : Context) :
    Settled (UpdatePreferences.serveHTTP mother request context) := by
  refine settled_withToken fun claims => settled_bind ?_ fun complaint =>
    settled_of_plain (patched_only complaint)
  rw [UpdatePreferences.execute, withUserID]
  split
  · exact settled_pure _
  · exact complain_settled _ _ _ _ _
  · exact settled_panic _

theorem updateSpecificUserPreferences_settled (mother : Mother)
    (request : HttpRequest) (context : Context) :
    Settled (UpdateSpecificUserPreferences.serveHTTP mother request
      context) := by
  refine settled_bind ?_ fun complaint =>
    settled_of_plain (patched_only complaint)
  rw [UpdateSpecificUserPreferences.execute]
  split
  · exact settled_panic _
  · exact complain_settled _ _ _ _ _

theorem serveHTTP_closes {mother : Mother} (router : Router mother)
    (request : HttpRequest) :
    (router.serveHTTP request).Meets closing (fun opened _ => opened = false)
      false := by
  rw [Router.serveHTTP]
  split
  · exact rfl
  · exact rfl
  · rename_i found served
    obtain ⟨_, member, _⟩ := Router.dispatched served
    have listed := router.entries_perm.subset (entry_of_route member).1
    by_cases transacts : found.route.name ∈ transacting
    · have transparent : ∀ ware ∈ [logging,
          requestCounter (namedRoutes methodPaths)], Transparent ware := by
        simp [logging_transparent, requestCounter_transparent]
      have shared : ∀ ware ∈ [logging,
          requestCounter (namedRoutes methodPaths), cors mother.corsOrigin],
          Transparent ware := by
        simp [logging_transparent, requestCounter_transparent,
          cors_transparent]
      have clock : closing.may false .now := fun begins => by cases begins
      have guarded {handler : Handler} {scopes : List String}
          (settled : ∀ context, Settled (handler request context)) :
          (Stack.serveHTTP ⟨handler, [logging,
            requestCounter (namedRoutes methodPaths),
            mother.authenticator scopes]⟩ request).Meets closing
              (fun opened _ => opened = false) false :=
        @guarded_meets _ _ _ _ (fun opened => opened = false) _ _ [logging,
          requestCounter (namedRoutes methodPaths)] _ transparent rfl clock
          (fun _ => rfl) fun context _ _ => settled context
      have patching {handler : Handler} {scopes : List String}
          (settled : ∀ context, Settled (handler request context)) :
          (Stack.serveHTTP ⟨handler, [logging,
            requestCounter (namedRoutes methodPaths), cors mother.corsOrigin,
            mother.authenticator scopes]⟩ request).Meets closing
              (fun opened _ => opened = false) false :=
        @guarded_meets _ _ _ _ (fun opened => opened = false) _ _ [logging,
          requestCounter (namedRoutes methodPaths), cors mother.corsOrigin] _
          shared rfl clock (fun _ => rfl) fun context _ _ => settled context
      generalize found.route.name = name at listed transacts
      generalize found.route.handler = stack at listed
      simp only [transacting, patches, List.cons_append, List.nil_append,
        List.mem_cons, List.not_mem_nil, or_false] at transacts
      simp only [stackMap, List.mem_cons, List.not_mem_nil, or_false,
        Prod.mk.injEq] at listed
      rcases transacts with rfl | rfl | rfl | rfl | rfl | rfl | rfl | rfl |
        rfl | rfl
      all_goals
        simp only [String.reduceEq, false_and, false_or, true_and, or_false]
          at listed
        subst listed
      · exact guarded (notifyHandler_settled _ _ _ _)
      · exact guarded (notifyHandler_settled _ _ _ _)
      · exact guarded (notifyHandler_settled _ _ _ _)
      · exact guarded (notifyHandler_settled _ _ _ _)
      · exact guarded (notifyHandler_settled _ _ _ _)
      · exact guarded (notifyHandler_settled _ _ _ _)
      · exact guarded (registerNotifications_settled _ _)
      · exact guarded (registerClientWithNotifications_settled _ _)
      · exact patching (updatePreferences_settled _ _)
      · exact patching (updateSpecificUserPreferences_settled _ _)
    · have behaves := stackMap_behaves mother request
        (requestCounter_transparent _) _ listed
      exact closes_of_plain (behaves.plain transacts)

theorem serveHTTP_total {mother : Mother} (router : Router mother)
    (request : HttpRequest) : (router.serveHTTP request).Total := by
  rw [Router.serveHTTP]
  split
  · trivial
  · trivial
  · exact Program.total_recover _ _

end Handlers

/-! ## Runs -/

/-- A request that keeps track of its transaction. -/
structure Exchange.Tracked (exchange : Exchange) : Prop where
  program : ∃ opened : Bool,
    exchange.program.Meets closing (fun opened _ => opened = false) opened ∧
      (opened = false → exchange.transaction = none)
  total : exchange.program.Total

/-- What a call does to the transaction is what its answer says. -/
theorem call_tracks {environment : Environment} {others : List Models.Txn}
    {server after : Server} {transaction final : Option Models.Txn} {op : Op}
    {answer : Answer op} {opened : Bool}
    (tracked : opened = false → transaction = none)
    (called : server.call environment others transaction op =
      some (answer, final, after)) (closed : openAfter opened op answer = false) :
    final = none := by
  cases op with
  | sql conn statement =>
      cases conn with
      | connection =>
          obtain ⟨⟨reply, changed⟩, _, called⟩ :=
            Option.bind_eq_some_iff.mp called
          cases called
          exact tracked closed
      | transaction =>
          cases transaction with
          | none =>
              cases called
              rfl
          | some txn =>
              have still : opened = true := by
                cases opened with
                | true => rfl
                | false => cases tracked rfl
              cases answer with
              | ok value => cases closed.symm.trans still
              | failed text => cases closed.symm.trans still
              | nilPointer =>
                  -- an open transaction is no nil pointer
                  simp only [Server.call, Server.inTxn] at called
                  split at called
                  · cases called
                  · split at called
                    · cases called
                    · obtain ⟨⟨result, kept, committed⟩, _, called⟩ :=
                        Option.bind_eq_some_iff.mp called
                      cases result <;> cases called
  | begin =>
      simp only [Server.call] at called
      split at called
      · cases called
        rfl
      · cases called
        cases closed
  | commit =>
      have ended := Option.some.inj called
      simp only [Server.finish] at ended
      split at ended
      · cases ended
        rfl
      · split at ended <;> cases ended <;> rfl
  | rollback =>
      have ended := Option.some.inj called
      simp only [Server.finish] at ended
      split at ended
      · cases ended
        rfl
      · split at ended <;> cases ended <;> rfl
  | enqueue job =>
      simp only [Server.call] at called
      split at called <;> cases called <;> exact tracked closed
  | now =>
      cases called
      exact tracked closed
  | service service =>
      cases called
      exact tracked closed
  | iterate keys =>
      cases called
      exact tracked closed

theorem step_tracked {mother : Mother} {router : Router mother}
    {state next : State} {event : Event} {shown : List Output}
    (tracked : ∀ exchange ∈ state.exchanges, exchange.Tracked)
    (stepped : (system router).step state event = some (next, shown)) :
    ∀ exchange ∈ next.exchanges, exchange.Tracked := by
  obtain ⟨request, rfl, rfl, rfl⟩ | ⟨index, environment, exchange, op, rest,
    answer, transaction, server, rfl, called, rfl, rfl⟩ := step_cases stepped
  · intro exchange member
    rcases List.mem_append.mp member with old | new
    · exact tracked exchange old
    · rw [List.mem_singleton.mp new]
      exact ⟨⟨false, serveHTTP_closes router request, fun _ => rfl⟩,
        serveHTTP_total router request⟩
  · have held := tracked exchange (List.mem_of_getElem? called.present)
    obtain ⟨opened, meets, tracks⟩ := held.program
    have total := held.total
    rw [called.running] at meets total
    intro other member
    rcases List.mem_or_eq_of_mem_set member with old | rfl
    · exact tracked other old
    · exact ⟨⟨_, meets.2 answer trivial,
        call_tracks tracks called.called⟩, total answer⟩

/-- Whatever is served next to it, and whatever fails: a request that makes no
further call has been answered and holds no transaction, and a request that is
about to begin a transaction has none yet. -/
theorem transactions_end {mother : Mother} (router : Router mother)
    (server : Server) (events : List Event) (final : State)
    (trace : List Output)
    (ran : (system router).run events ⟨server, []⟩ = some (final, trace)) :
    ∀ exchange ∈ final.exchanges,
      ((∀ op next, exchange.program ≠ .call op next) →
        (∃ response, exchange.program = .ret response) ∧
          exchange.transaction = none) ∧
      ∀ next, exchange.program = .call .begin next →
        exchange.transaction = none := by
  have tracked := (system router).run_state_invariant (fun _ _ => True)
    (fun state => ∀ exchange ∈ state.exchanges, exchange.Tracked)
    (fun _ _ _ _ tracked _ stepped => step_tracked tracked stepped)
    (by simp) ((system router).guarded_of_forall (fun _ _ _ => trivial) _) ran
  intro exchange member
  obtain ⟨⟨opened, meets, tracks⟩, total⟩ := tracked exchange member
  constructor
  · intro ended
    cases left : exchange.program with
    | ret response =>
        rw [left] at meets
        exact ⟨⟨response, rfl⟩, tracks meets⟩
    | panic message =>
        rw [left] at total
        exact total.elim
    | call op next => exact absurd left (ended op next)
  · intro next left
    rw [left] at meets
    exact tracks (meets.1 rfl)

end Collated

section Binary

attribute [local instance] Collation.binary

def sampleFailure : List Event :=
  .arrive samplePatching :: List.replicate 6 (.call 0 .calm) ++
    [.call 0 (.failing 0), .call 0 .calm]

theorem failed_update_ends :
    ∃ final trace, (system sampleRouter).run sampleFailure
        ⟨sampleServer, []⟩ = some (final, trace) ∧
      ∃ exchange ∈ final.exchanges,
        (∃ response, exchange.program = .ret response) ∧
          exchange.transaction = none := by
  have finished : (((system sampleRouter).run sampleFailure
      ⟨sampleServer, []⟩).any fun result =>
        result.1.exchanges.any fun exchange => exchange.program.halted) =
          true := by
    rw [sampleFailure, List.cons_append, run_arrive samplePatching_served]
    decide +kernel
  obtain ⟨⟨final, trace⟩, ran, ended⟩ := (Option.any_eq_true _ _).mp finished
  obtain ⟨exchange, member, ended⟩ := List.any_eq_true.mp ended
  refine ⟨final, trace, ran, exchange, member,
    (transactions_end sampleRouter sampleServer sampleFailure final trace ran
      exchange member).1 fun op next left => ?_⟩
  rw [left] at ended
  cases ended

end Binary

end Notifications.Web.Serving
