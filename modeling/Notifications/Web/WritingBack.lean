import Notifications.Web.Authority
import Notifications.Web.Watching

/-!
# Notifications next to other requests

`Notify.Execute` looks up the client and the kind, and registers what it has
found: it writes both rows back as it has read them, outside any transaction.
A change that another request makes in between is undone.  When the others
leave the two rows alone between the read and the write, what they set stays.
-/

set_option autoImplicit false

namespace Notifications.Web

open Notifications.Lib Notifications.Models Notifications.Services
open Notifications.Strategies

/-! ## Rules of the contract -/

def Aside (table : Table) : Op → Prop
  | .sql _ statement => statement.table ≠ table
  | _ => True

section Collated

variable [Collation]

namespace Watch

variable {watch : Watch} {α : Type} {done : Knowledge → α → Prop}

theorem meets_refuted (program : Prog α) (all : ∀ value, done .refuted value) :
    program.Meets watch.contract done .refuted := by
  induction program with
  | ret value => exact all value
  | panic message => trivial
  | call op next ih =>
      refine ⟨Or.inl rfl, ?_⟩
      intro answer _
      exact ih answer

theorem fits_of_aside {op : Op} (aside : Aside watch.table op)
    (knowledge : Knowledge) : watch.fits knowledge op := by
  cases op with
  | sql conn statement =>
      cases statement with
      | select table wanted => exact fun same => absurd same aside
      | insert table row => exact fun same => absurd same aside
      | update table row => exact fun same => absurd same aside
      | delete table row => exact aside
      | upsertReceipt receipt => exact aside
      | selectPreferences userGUID => trivial
  | _ => trivial

theorem learn_of_aside {op : Op} (aside : Aside watch.table op)
    (knowledge : Knowledge) (answer : Answer op) :
    watch.contract.learn knowledge op answer = knowledge := by
  by_cases informed : knowledge = .refuted
  · rw [informed]
    rfl
  · rw [contract_learn informed]
    apply learn_of_other
    · cases op with
      | sql conn statement =>
          cases statement with
          | insert table row => exact decide_eq_false aside
          | update table row => exact decide_eq_false aside
          | _ => rfl
      | _ => rfl
    · cases op with
      | sql conn statement =>
          cases statement with
          | select table wanted => exact decide_eq_false aside
          | _ => rfl
      | _ => rfl

theorem meets_aside {knowledge : Knowledge} {program : Prog α}
    (only : program.Only (Aside watch.table))
    (all : ∀ value, done knowledge value) :
    program.Meets watch.contract done knowledge :=
  Program.meets_of_only
    (fun _ aside => Or.inr (fits_of_aside aside knowledge))
    (fun _ answer aside => learn_of_aside aside knowledge answer) only all

def noticed (watch : Watch) (knowledge : Knowledge) (found : Option Facts) :
    Knowledge :=
  if watch.active then knowledge.seen found else knowledge

theorem learn_select {conn : Conn} {wanted : watch.table.Row → Bool}
    (knowledge : Knowledge) (rows : List watch.table.Row) :
    watch.contract.learn knowledge (.sql conn (.select watch.table wanted))
      (.ok rows) =
        watch.noticed knowledge (rows.head?.map (factsOf watch.table)) := by
  by_cases informed : knowledge = .refuted
  · rw [informed, noticed]
    split <;> rfl
  · rw [contract_learn informed]
    simp [learn, noticed]

theorem meets_selectOne {knowledge : Knowledge}
    {wanted : watch.table.Row → Bool}
    {done : Knowledge → watch.table.Row × Option Error → Prop}
    (byKey : ∀ row, wanted row = (watch.table.uniqueKey row == watch.key))
    (failed : ∀ learned text,
      done learned (watch.table.zero, some (.sql text)))
    (missing : done (watch.noticed knowledge none)
      (watch.table.zero, some .noRows))
    (found : ∀ row, watch.table.uniqueKey row = watch.key →
      done (watch.noticed knowledge (some (factsOf watch.table row)))
        (row, none)) :
    (selectOne .connection watch.table wanted).Meets watch.contract done
      knowledge := by
  refine Program.meets_bind (Program.meets_perform
    (Or.inr fun _ => ⟨rfl, byKey⟩) ?_)
  intro answer possible
  cases answer with
  | failed text => exact failed _ text
  | nilPointer => trivial
  | ok rows =>
      rw [learn_select]
      match rows, possible with
      | [], _ => exact missing
      | [row], wantedAll =>
          apply found row
          have hit := wantedAll row (.head _)
          rw [byKey] at hit
          exact beq_iff_eq.mp hit
      | _ :: _ :: _, _ => exact failed _ _

omit [Collation] in
/-- A second read tells the same or refutes the first. -/
theorem noticed_read (active : watch.active = true) (copy found : Option Facts) :
    watch.noticed (.read copy) found =
      if copy = found then .read copy else .refuted := by
  rw [noticed, if_pos active]
  rfl

/-- After a second read nothing is left to show but the case that it tells the
same. -/
theorem meets_again {program : Prog α} {copy found : Option Facts}
    (active : watch.active = true) (all : ∀ value, done .refuted value)
    (same : copy = found →
      program.Meets watch.contract done (.read copy)) :
    program.Meets watch.contract done (watch.noticed (.read copy) found) := by
  rw [noticed_read active]
  split
  · rename_i agreed
    exact same agreed
  · exact meets_refuted program all

end Watch

/-! ## The client -/

def clientWatch (clientID : String) : Watch :=
  ⟨.clients, Collation.key [clientID], true⟩

theorem clientWatch_congr {id clientID : String}
    (own : Collation.key [id] = Collation.key [clientID]) :
    clientWatch clientID = clientWatch id := by
  rw [clientWatch, clientWatch, own]

/-- The copy has the settings of the row, if there is one. -/
def Copied (table : Table) (row : table.Row) (copy : Option Facts) : Prop :=
  ∀ stored ∈ copy, stored.2 = settingsOf table row

section Clients

variable {clientID : String} {knowledge : Knowledge}
  {done : Knowledge → Client × Option Error → Prop}

theorem findClient_meets
    (failed : ∀ learned text,
      done learned (Table.clients.zero, some (.sql text)))
    (missing : done ((clientWatch clientID).noticed knowledge none)
      (Table.clients.zero, some (ClientsRepo.missing clientID)))
    (found : ∀ row : Client, Collation.key [row.id] =
        Collation.key [clientID] →
      done ((clientWatch clientID).noticed knowledge
        (some (factsOf .clients row))) (row, none)) :
    (ClientsRepo.find .connection clientID).Meets
      (clientWatch clientID).contract done knowledge := by
  refine Program.meets_bind (@Watch.meets_selectOne _ (clientWatch clientID) _
    _ _ ?_ ?_ ?_ ?_)
  · intro row
    simp [clientWatch, Table.uniqueKey]
  · intro learned text
    exact failed learned text
  · exact missing
  · intro row keyed
    exact found row keyed

variable (all : ∀ learned result, done learned result)

include all

theorem storeClient_meets {client : Client}
    (own : Collation.key [client.id] = Collation.key [clientID])
    {copy : Option Facts} (agreed : copy = some (factsOf .clients client)) :
    (ClientsRepo.store .connection client).Meets
      (clientWatch clientID).contract done (.read copy) := by
  refine Program.meets_bind (Program.meets_bind (Program.meets_perform
    (Or.inr fun _ => ⟨rfl, own, ?_⟩) ?_))
  · rw [agreed]
  · intro answer _
    cases answer with
    | ok _ =>
        rw [clientWatch_congr own]
        exact findClient_meets (fun _ _ => all _ _) (all _ _)
          fun _ _ => all _ _
    | failed text => exact all _ _
    | nilPointer => trivial

theorem updateClient_meets {client : Client}
    (own : Collation.key [client.id] = Collation.key [clientID])
    {copy : Option Facts} (agreed : copy = some (factsOf .clients client)) :
    (ClientsRepo.update .connection client).Meets
      (clientWatch clientID).contract done (.read copy) := by
  rw [clientWatch_congr own, ClientsRepo.update]
  split
  · refine Program.meets_bind (findClient_meets ?_ ?_ ?_)
    · intro learned text
      exact all _ _
    · exact all _ _
    · intro row _
      apply Watch.meets_again rfl (fun _ => all _ _)
      intro same
      refine storeClient_meets all ?_ ?_
      · rfl
      · have settings := (Prod.mk.inj (Option.some.inj (agreed ▸ same))).2
        have template : client.templateID = row.templateID :=
          congrArg Settings.templateID settings
        rw [agreed, ← template]
  · exact storeClient_meets all rfl agreed

theorem createClient_meets {client : Client}
    (own : Collation.key [client.id] = Collation.key [clientID]) :
    (ClientsRepo.create .connection client).Meets
      (clientWatch clientID).contract done (.read none) := by
  refine Program.meets_bind (Watch.meets_aside
    (nowTruncated_only trivial) ?_)
  intro now
  refine Program.meets_bind (Program.meets_bind (Program.meets_perform
    (Or.inr fun _ => ⟨rfl, ?_, rfl⟩) ?_))
  · split <;> exact own
  · intro answer _
    cases answer with
    | ok row => exact all _ _
    | failed text => exact all _ _
    | nilPointer => trivial

/-- The client is written as it was read, unless it has been refuted. -/
theorem upsertClient_meets {client : Client}
    (own : Collation.key [client.id] = Collation.key [clientID])
    {copy : Option Facts} (copied : Copied .clients client copy) :
    (ClientsRepo.upsert .connection client).Meets
      (clientWatch clientID).contract done (.read copy) := by
  rw [clientWatch_congr own]
  refine Program.meets_bind (findClient_meets ?_ ?_ ?_)
  · intro learned text
    exact all _ _
  · apply Watch.meets_again rfl (fun _ => all _ _)
    rintro rfl
    exact createClient_meets all rfl
  · intro row _
    apply Watch.meets_again rfl (fun _ => all _ _)
    intro same
    refine updateClient_meets all ?_ ?_
    · rfl
    · have settings := copied _ same
      rw [same]
      exact congrArg (fun settings => some (Table.clients.primaryKey row,
        settings)) settings

end Clients

/-! ## The kind -/

def kindWatch (active : Bool) (kindID clientID : String) : Watch :=
  ⟨.kinds, Collation.key [kindID, clientID], active⟩

theorem kindWatch_congr {active : Bool} {id client kindID clientID : String}
    (own : Collation.key [id, client] = Collation.key [kindID, clientID]) :
    kindWatch active kindID clientID = kindWatch active id client := by
  rw [kindWatch, kindWatch, own]

section Kinds

variable {active : Bool} {kindID clientID : String} {knowledge : Knowledge}
  {done : Knowledge → Kind × Option Error → Prop}

theorem findKind_meets
    (failed : ∀ learned text,
      done learned (Table.kinds.zero, some (.sql text)))
    (missing : done ((kindWatch active kindID clientID).noticed knowledge none)
      (Table.kinds.zero, some (KindsRepo.missing kindID clientID)))
    (found : ∀ row : Kind, Collation.key [row.id, row.clientID] =
        Collation.key [kindID, clientID] →
      done ((kindWatch active kindID clientID).noticed knowledge
        (some (factsOf .kinds row))) (row, none)) :
    (KindsRepo.find .connection kindID clientID).Meets
      (kindWatch active kindID clientID).contract done knowledge := by
  refine Program.meets_bind (@Watch.meets_selectOne _
    (kindWatch active kindID clientID) _ _ _ ?_ ?_ ?_ ?_)
  · intro row
    simp [kindWatch, Table.uniqueKey]
  · intro learned text
    exact failed learned text
  · exact missing
  · intro row keyed
    exact found row keyed

variable (all : ∀ learned result, done learned result)
  {kind : Kind} (own : Collation.key [kind.id, kind.clientID] =
    Collation.key [kindID, clientID])

include all own

theorem createKind_meets :
    (KindsRepo.create .connection kind).Meets
      (kindWatch active kindID clientID).contract done (.read none) := by
  refine Program.meets_bind (Watch.meets_aside
    (nowTruncated_only trivial) ?_)
  intro now
  refine Program.meets_bind (Program.meets_bind (Program.meets_perform
    (Or.inr fun _ => ⟨rfl, ?_, rfl⟩) ?_))
  · split <;> exact own
  · intro answer _
    cases answer with
    | ok row => exact all _ _
    | failed text => exact all _ _
    | nilPointer => trivial

theorem updateKind_meets {copy : Option Facts}
    (copied : Copied .kinds kind copy) :
    (KindsRepo.update .connection kind).Meets
      (kindWatch true kindID clientID).contract done (.read copy) := by
  rw [kindWatch_congr own]
  refine Program.meets_bind (findKind_meets ?_ ?_ ?_)
  · intro learned text
    exact all _ _
  · exact all _ _
  · intro row _
    apply Watch.meets_again rfl (fun _ => all _ _)
    intro same
    have settings : settingsOf .kinds row = settingsOf .kinds kind :=
      copied _ same
    have template : row.templateID = kind.templateID :=
      congrArg Settings.templateID settings
    refine Program.meets_bind (Watch.meets_aside
      (nowTruncated_only trivial) ?_)
    intro now
    refine Program.meets_bind (Program.meets_bind (Program.meets_perform
      (Or.inr fun _ => ⟨rfl, ?_, ?_⟩) ?_))
    · split <;> rfl
    · rw [same, template]
      have facts : factsOf .kinds row =
          (Table.kinds.primaryKey row, settingsOf .kinds kind) :=
        congrArg (Prod.mk _) settings
      rw [facts]
      split <;> rfl
    · intro answer _
      cases answer with
      | ok _ =>
          -- the row has the ID and the client of the kind either way
          have again (learned : Knowledge) :
              (KindsRepo.find .connection kind.id kind.clientID).Meets
                (kindWatch true kind.id kind.clientID).contract done learned :=
            findKind_meets (fun _ _ => all _ _) (all _ _)
              fun _ _ => all _ _
          split <;> exact again _
      | failed text => exact all _ _
      | nilPointer => trivial

/-- The kind is written as it was read, unless it has been refuted. -/
theorem upsertKind_meets {copy : Option Facts}
    (copied : Copied .kinds kind copy) :
    (KindsRepo.upsert .connection kind).Meets
      (kindWatch true kindID clientID).contract done (.read copy) := by
  rw [kindWatch_congr own]
  refine Program.meets_bind (findKind_meets ?_ ?_ ?_)
  · intro learned text
    exact all _ _
  · apply Watch.meets_again rfl (fun _ => all _ _)
    rintro rfl
    exact createKind_meets all rfl
  · intro row _
    apply Watch.meets_again rfl (fun _ => all _ _)
    intro same
    refine updateKind_meets all ?_ ?_
    · rfl
    · exact copied

end Kinds

/-! ## `Notify.Execute` -/

section Notify

variable {claims : Jwt.Fields} {clientID : String}
  {done : Knowledge → Option Refusal → Prop}

omit [Collation] in
theorem dispatch_aside {table : Table} (other : Table.messages ≠ table)
    (marshal : Postal.Delivery → String) (strategy : Strategy)
    (guid : String) (options : Postal.Options) :
    (strategy.dispatch marshal clientID guid options).Only (Aside table) := by
  apply (dispatch_messaging marshal clientID guid options strategy).weaken
  intro op messaging
  cases op with
  | sql conn statement =>
      have same : statement.table = .messages := messaging
      intro here
      exact other (same.symm.trans here)
  | _ => trivial

theorem dispatch_meets {watch : Watch} {knowledge : Knowledge}
    (other : Table.messages ≠ watch.table)
    (marshal : Postal.Delivery → String) (strategy : Strategy)
    (guid : String) (options : Postal.Options)
    (all : ∀ learned refusal, done learned refusal) :
    (do
      match ← strategy.dispatch marshal clientID guid options with
      | .error error => pure (some (.failed error))
      | .ok _ => pure none : Prog (Option Refusal)).Meets watch.contract done
        knowledge := by
  refine Program.meets_bind (Watch.meets_aside
    (dispatch_aside other marshal strategy guid options) ?_)
  intro result
  cases result <;> exact all _ _

theorem lookupClient_meets {done : Knowledge → Except Error Client → Prop}
    (failed : ∀ learned error, done learned (.error error))
    (found : ∀ copy client,
      Collation.key [client.id] = Collation.key [clientID] →
      Copied .clients client copy → done (.read copy) (.ok client)) :
    (NotificationsFinder.client clientID).Meets
      (clientWatch clientID).contract done .unread := by
  refine Program.meets_bind (findClient_meets ?_ ?_ ?_)
  · intro learned text
    exact failed _ _
  · apply found none _ rfl
    intro stored none
    cases none
  · intro row own
    apply found (some (factsOf .clients row)) row own
    intro stored same
    cases same
    rfl

theorem registerAndDispatch_meets_client
    (marshal : Postal.Delivery → String) (strategy : Strategy)
    (guid : String) (parameters : NotifyParams) {client : Client}
    (kind : Kind)
    (own : Collation.key [client.id] = Collation.key [clientID])
    {copy : Option Facts}
    (copied : Copied .clients client copy)
    (all : ∀ learned refusal, done learned refusal) :
    (registerAndDispatch marshal strategy guid parameters client kind
      clientID).Meets (clientWatch clientID).contract done (.read copy) := by
  refine Program.meets_bind (Program.meets_bind
    (upsertClient_meets ?_ own copied))
  rintro learned ⟨stored, err⟩
  cases err with
  | some error => exact all _ _
  | none =>
      refine Watch.meets_aside (registerKinds_only trivial ?_ ?_ ?_) ?_
      · intro wanted same
        cases same
      · intro kind _ row _ same
        cases same
      · intro kind _ row _ same
        cases same
      · intro err
        cases err with
        | some error => exact all _ _
        | none =>
            exact dispatch_meets Table.noConfusion marshal strategy guid _ all

theorem notify_meets_client (identified : clientIDOf claims = some clientID)
    (marshal : Postal.Delivery → String) (strategy : Strategy)
    (guid : String) (parameters : NotifyParams)
    (all : ∀ learned refusal, done learned refusal) :
    (notify marshal claims strategy guid (.ok parameters)).Meets
      (clientWatch clientID).contract done .unread := by
  simp only [notify, identified]
  refine Program.meets_bind (Program.meets_bind (lookupClient_meets ?_ ?_))
  · intro learned error
    exact all _ _
  · intro copy client own copied
    refine Program.meets_bind (Watch.meets_aside
      (NotificationsFinder.kind_only _ _ ?_) ?_)
    · intro wanted same
      cases same
    · intro kind
      cases kind with
      | error error => exact all _ _
      | ok kind =>
          simp only [pure, Program.Meets]
          split
          · trivial
          · exact all _ _
          · exact registerAndDispatch_meets_client marshal strategy guid
              parameters kind own copied all

theorem lookupKind_meets {active : Bool} {kindID : String}
    {done : Knowledge → Except Error Kind → Prop}
    (failed : ∀ learned error, done learned (.error error))
    (found : ∀ learned kind, Collation.key [kind.id, kind.clientID] =
        Collation.key [kindID, clientID] →
      (active = true → ∃ copy, learned = .read copy ∧
        Copied .kinds kind copy) → done learned (.ok kind)) :
    (NotificationsFinder.kind clientID kindID).Meets
      (kindWatch active kindID clientID).contract done .unread := by
  have opened (writes : active = true) (row : Option Facts) :
      (kindWatch active kindID clientID).noticed .unread row = .read row :=
    if_pos writes
  refine Program.meets_bind (findKind_meets ?_ ?_ ?_)
  · intro learned text
    exact failed _ _
  · apply found _ _ rfl
    intro writes
    refine ⟨none, opened writes none, ?_⟩
    intro stored none
    cases none
  · intro row own
    apply found _ row own
    intro writes
    refine ⟨some (factsOf .kinds row), opened writes _, ?_⟩
    intro stored same
    cases same
    rfl

theorem registerAndDispatch_meets_kind
    (marshal : Postal.Delivery → String) (strategy : Strategy)
    (guid : String) (parameters : NotifyParams) (client : Client)
    {active : Bool} {kindID : String} {kind : Kind}
    (own : Collation.key [kind.id, kind.clientID] =
      Collation.key [kindID, clientID])
    (writes : kind.id ≠ "" → active = true) {knowledge : Knowledge}
    (known : active = true → ∃ copy, knowledge = .read copy ∧
      Copied .kinds kind copy)
    (all : ∀ learned refusal, done learned refusal) :
    (registerAndDispatch marshal strategy guid parameters client kind
      clientID).Meets (kindWatch active kindID clientID).contract done
        knowledge := by
  refine Program.meets_bind (Program.meets_bind (Watch.meets_aside
    (ClientsRepo.upsert_only trivial ?_ ?_ ?_) ?_))
  · intro wanted same
    cases same
  · intro row same
    cases same
  · intro row same
    cases same
  · rintro ⟨stored, err⟩
    cases err with
    | some error => exact all _ _
    | none =>
        simp only [Registrar.registerKinds]
        split
        · exact dispatch_meets Table.noConfusion marshal strategy guid _ all
        · rename_i named
          have active := writes named
          subst active
          obtain ⟨copy, rfl, copied⟩ := known rfl
          refine Program.meets_bind (upsertKind_meets ?_ own copied)
          rintro learned ⟨stored, err⟩
          cases err with
          | some error => exact all _ _
          | none => exact dispatch_meets Table.noConfusion marshal strategy guid _ all

theorem notify_meets_kind (identified : clientIDOf claims = some clientID)
    (marshal : Postal.Delivery → String) (strategy : Strategy)
    (guid : String) (parameters : NotifyParams) {active : Bool}
    (registrable : Registrable parameters.kindID → active = true)
    (all : ∀ learned refusal, done learned refusal) :
    (notify marshal claims strategy guid (.ok parameters)).Meets
      (kindWatch active parameters.kindID clientID).contract done
        .unread := by
  simp only [notify, identified]
  refine Program.meets_bind (Program.meets_bind (Watch.meets_aside
    (NotificationsFinder.client_only _ ?_) ?_))
  · intro wanted same
    cases same
  · intro client
    cases client with
    | error error => exact all _ _
    | ok client =>
        refine Program.meets_bind (lookupKind_meets ?_ ?_)
        · intro learned error
          exact all _ _
        · intro learned kind own known
          simp only [pure, Program.Meets]
          split
          · trivial
          · exact all _ _
          · refine registerAndDispatch_meets_kind marshal strategy guid
              parameters client own ?_ known all
            intro named
            refine registrable ⟨kind.id, named, ?_⟩
            simpa using (List.cons.inj own).1

end Notify

/-! ## Over whole runs -/

def notifyRequest (claims : Jwt.Fields) (strategy : Strategy) (guid : String)
    (parameters : NotifyParams) : Request :=
  ⟨claims, .notify strategy guid (.ok parameters)⟩

/-- The others leave the client's row alone between the read and the write, and
the kind's row if it can be one with an ID. -/
def LeftAlone (clientID kindID : String) (state : State) (event : Event) :
    Prop :=
  (clientWatch clientID).Undisturbed state event ∧
    (Registrable kindID →
      (kindWatch true kindID clientID).Undisturbed state event)

/-- A row that is there has the settings that another request has given it, or
those that it has had from the start. -/
def Watch.Kept (watch : Watch) (start : Database) (trace : List Output)
    (final : Database) : Prop :=
  ∀ settings, watch.lastSet (watch.settings start) trace = some settings →
    watch.settings final = some settings

theorem serve_meets {setup : Setup} {request : Request} {watch : Watch}
    {done : Knowledge → Option Refusal → Prop}
    (all : ∀ learned refusal, done learned refusal)
    (meets : (request.handler setup).Meets watch.contract done .unread) :
    (request.serve setup).Meets watch.contract done .unread := by
  unfold Request.serve authenticated
  split
  · trivial
  · exact all _ _
  · exact meets

theorem notify_keeps_settings (setup : Setup) (server : Server)
    (claims : Jwt.Fields) (clientID : String) (strategy : Strategy)
    (guid : String) (parameters : NotifyParams) (others : List Request)
    (events : List Event) (final : State) (trace : List Output)
    (identified : clientIDOf claims = some clientID)
    (guarded : system.Guarded (LeftAlone clientID parameters.kindID) events
      (.initial setup server
        (notifyRequest claims strategy guid parameters :: others)))
    (ran : system.run events (.initial setup server
        (notifyRequest claims strategy guid parameters :: others)) =
      some (final, trace)) :
    (clientWatch clientID).Kept server.database trace
        final.server.database ∧
      (kindWatch true parameters.kindID clientID).Kept server.database trace
        final.server.database := by
  constructor
  · intro settings last
    refine Watch.kept_of_meets (serve_meets (fun _ _ => trivial) ?_)
      (guarded.weaken fun _ _ both => both.1) ran last
    exact notify_meets_client identified _ _ _ _ fun _ _ => trivial
  · intro settings last
    by_cases registrable : Registrable parameters.kindID
    · refine Watch.kept_of_meets (serve_meets (fun _ _ => trivial) ?_)
        (guarded.weaken fun _ _ both => both.2 registrable) ran last
      exact notify_meets_kind identified _ _ _ _ (fun _ => rfl)
        fun _ _ => trivial
    -- without an ID the kind is not written, whatever the others do
    · have idle : ∀ state event,
          (kindWatch false parameters.kindID clientID).Undisturbed state
            event :=
        fun _ _ _ wrong => absurd wrong Bool.false_ne_true
      refine Watch.kept_of_meets (serve_meets (fun _ _ => trivial) ?_)
        (guarded.weaken fun state event _ => idle state event) ran last
      exact notify_meets_kind identified _ _ _ _
        (fun found => absurd found registrable) fun _ _ => trivial

def Party.result (party : Party) : Option (Option Refusal) :=
  match party.program with
  | .ret refusal => some refusal
  | _ => none

def managerClaims : Jwt.Fields :=
  [("client_id", .string "manager"),
    ("scope", .array [.string "notifications.manage"])]

/-- A registered client with one kind, and a second template. -/
def registeredServer : Server :=
  ⟨.after [
    .insert .templates ⟨0, "default", "", "", "", "", "", 0, 0, false⟩,
    .insert .templates ⟨0, "mine", "", "", "", "", "", 0, 0, false⟩,
    .insert .clients ⟨0, "client", "S", 0, "default"⟩,
    .insert .kinds ⟨0, "kind", "K", false, "client", 0, 0, "default"⟩], [], 1⟩

end Collated

attribute [local instance] Collation.binary

def sampleParams : NotifyParams :=
  ⟨"", "subject", "text", ⟨"", "", "", ""⟩, "kind", "", ""⟩

def racingRequests : List Request :=
  [ notifyRequest writerClaims .user "user" sampleParams,
    ⟨managerClaims, .assignClientTemplate "client"
      ⟨some (.object [("template", .string "mine")]), false⟩⟩ ]

def undoingEvents : List Event := calls 0 2 ++ calls 1 4 ++ calls 0 16

theorem notify_undoes_assignment :
    ∃ final trace,
      system.run undoingEvents
          (.initial anySetup registeredServer racingRequests) =
        some (final, trace) ∧
      final.parties.map Party.result = [some none, some none] ∧
      (clientWatch "client").lastSet
          ((clientWatch "client").settings registeredServer.database) trace =
        some ⟨"S", false, "mine"⟩ ∧
      (clientWatch "client").settings final.server.database =
        some ⟨"S", false, "default"⟩ := by
  have undone : (system.run undoingEvents
      (.initial anySetup registeredServer racingRequests)).any fun after =>
        decide (after.1.parties.map Party.result = [some none, some none] ∧
          (clientWatch "client").lastSet
            ((clientWatch "client").settings registeredServer.database)
              after.2 = some ⟨"S", false, "mine"⟩ ∧
          (clientWatch "client").settings after.1.server.database =
            some ⟨"S", false, "default"⟩) := by
    decide +kernel
  obtain ⟨⟨final, trace⟩, ran, undone⟩ := (Option.any_eq_true _ _).mp undone
  exact ⟨final, trace, ran, of_decide_eq_true undone⟩

def politeEvents : List Event :=
  calls 1 2 ++ calls 0 4 ++ calls 1 2 ++ calls 0 14

theorem notify_keeps_assignment :
    ∃ final trace,
      system.run politeEvents
          (.initial anySetup registeredServer racingRequests) =
        some (final, trace) ∧
      final.parties.map Party.result = [some none, some none] ∧
      (clientWatch "client").lastSet
          ((clientWatch "client").settings registeredServer.database) trace =
        some ⟨"S", false, "mine"⟩ ∧
      (clientWatch "client").Kept registeredServer.database trace
        final.server.database ∧
      (kindWatch true "kind" "client").Kept registeredServer.database trace
        final.server.database := by
  have ended : (system.run politeEvents
      (.initial anySetup registeredServer racingRequests)).any fun after =>
        decide (after.1.parties.map Party.result = [some none, some none] ∧
          (clientWatch "client").lastSet
            ((clientWatch "client").settings registeredServer.database)
              after.2 = some ⟨"S", false, "mine"⟩) := by
    decide +kernel
  have guarded : system.Guarded (fun state event =>
      (clientWatch "client").Undisturbed state event ∧
        (kindWatch true "kind" "client").Undisturbed state event) politeEvents
      (.initial anySetup registeredServer racingRequests) := by
    decide +kernel
  obtain ⟨⟨final, trace⟩, ran, ended⟩ := (Option.any_eq_true _ _).mp ended
  obtain ⟨results, last⟩ := of_decide_eq_true ended
  exact ⟨final, trace, ran, results, last,
    notify_keeps_settings anySetup registeredServer writerClaims "client"
      .user "user" sampleParams _ politeEvents final trace rfl
      (guarded.weaken fun _ _ both => ⟨both.1, fun _ => both.2⟩) ran⟩

end Notifications.Web
