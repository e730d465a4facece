import Notifications.Lib.Contract
import Notifications.Web.Assigning

/-!
# Requests that refer to templates

A client and a kind name their template by its ID, which is no foreign key.
While a request runs alone, the rows that it reads refer to existing templates;
here is what follows for the rows that it writes.

The contract is for requests that leave the templates themselves alone.
-/

set_option autoImplicit false

namespace Notifications.Web

open Notifications.Lib Notifications.Models Notifications.Services
open Notifications.Strategies

variable [Collation]

def Names (templates : List Template) (id : String) : Prop :=
  ∃ template ∈ templates, Collation.equal (Template.id template) id

/-- The template ID in a row: that of the template it refers to, or its own. -/
def reference : (table : Table) → table.Row → Option String
  | .clients, row => some row.templateID
  | .kinds, row => some row.templateID
  | .templates, row => some row.id
  | _, _ => none

/-- The ID in the row, if it has one, is that of one of the templates. -/
def Refers (templates : List Template) (table : Table) (row : table.Row) :
    Prop :=
  ∀ id ∈ reference table row, Names templates id

/-- The tables have these templates, and refer to no others. -/
structure Referring (templates : List Template) (tables : Tables) : Prop where
  same : tables.rows .templates = templates
  refers : ∀ table, ∀ row ∈ tables.rows table, Refers templates table row

def referringContract (templates : List Template) :
    Contract Op Answer Unit where
  may _ op :=
    match op with
    | .sql _ (.insert table row) =>
        table ≠ .templates ∧ Refers templates table row
    | .sql _ (.update table row) =>
        table ≠ .templates ∧ Refers templates table row
    | .sql _ (.delete table _) => table ≠ .templates
    | _ => True
  possible op answer :=
    match op, answer with
    | .sql _ (.select table wanted), .ok rows => ∀ row ∈ rows,
        wanted row = true ∧ Refers templates table row
    | _, _ => True
  learn _ _ _ := ()

/-! ## What the statements keep -/

section Statements

variable {templates : List Template} {tables : Tables}

theorem refers_numbered {table : Table} {row : table.Row} {number : Nat}
    (refers : Refers templates table row) :
    Refers templates table (table.numbered row number) := by
  cases table <;> exact refers

theorem refers_receipt (receipt : Receipt) :
    Refers templates .receipts receipt := by
  intro id member
  cases member

theorem Referring.set (referring : Referring templates tables) {table : Table}
    {rows : List table.Row} (other : table ≠ .templates)
    (refers : ∀ row ∈ rows, Refers templates table row) :
    Referring templates (tables.set table rows) := by
  constructor
  · rw [tables.set_rows_other rows other.symm]
    exact referring.same
  · intro changed row member
    by_cases same : changed = table
    · subst same
      rw [Tables.set_rows_same] at member
      exact refers row member
    · rw [tables.set_rows_other rows same] at member
      exact referring.refers changed row member

theorem Referring.insert (referring : Referring templates tables)
    {table : Table} {row : table.Row} (other : table ≠ .templates)
    (refers : Refers templates table row) :
    Referring templates (tables.insert table row) := by
  have longer : Referring templates (tables.set table
      (tables.rows table ++
        [table.numbered row (tables.autoIncrement table)])) := by
    apply referring.set other
    intro stored member
    rcases List.mem_append.mp member with old | new
    · exact referring.refers table stored old
    · rw [List.mem_singleton.mp new]
      exact refers_numbered refers
  exact ⟨longer.same, longer.refers⟩

theorem Referring.execute (referring : Referring templates tables)
    {conn : Conn} {statement : Statement}
    (may : (referringContract templates).may () (.sql conn statement)) :
    Referring templates (statement.execute tables).2 := by
  cases statement with
  | select table wanted => exact referring
  | insert table row =>
      simp only [Statement.execute]
      split
      · exact referring
      · exact referring.insert may.1 may.2
  | update table row =>
      simp only [Statement.execute]
      split
      · exact referring
      · apply referring.set may.1
        intro stored member
        rcases mem_updateWhere.mp member with ⟨kept, _⟩ | ⟨_, _, _, rfl⟩
        · exact referring.refers table stored kept
        · exact may.2
  | delete table row =>
      apply referring.set may
      intro stored member
      exact referring.refers table stored (mem_deleteWhere.mp member).1
  | upsertReceipt receipt =>
      simp only [Statement.execute]
      split
      · exact referring.set (by decide) fun row _ => refers_receipt row
      · exact referring.insert (by decide) (refers_receipt receipt)
  | selectPreferences userGUID => exact referring

end Statements

/-! ## Running alone -/

/-- The committed tables and those of the open transaction refer to the
templates. -/
structure WorldRefers (templates : List Template) (world : World) : Prop where
  database : Referring templates world.database.tables
  transaction : ∀ database ∈ world.transaction,
    Referring templates database.tables

section Worlds

variable {templates : List Template} {world : World}
  {environment : Environment}

theorem WorldRefers.read (refers : WorldRefers templates world) {conn : Conn}
    {database : Database} (present : world.read conn = some database) :
    Referring templates database.tables := by
  cases conn with
  | connection =>
      cases present
      exact refers.database
  | transaction => exact refers.transaction database present

theorem WorldRefers.write (refers : WorldRefers templates world)
    {database : Database} (conn : Conn)
    (referring : Referring templates database.tables) :
    WorldRefers templates (world.write database conn) := by
  cases conn with
  | connection => exact ⟨referring, refers.transaction⟩
  | transaction =>
      refine ⟨refers.database, ?_⟩
      intro stored same
      cases same
      exact referring

theorem WorldRefers.attempt {α : Type} {failure : String → α}
    {success : α × World} (refers : WorldRefers templates world)
    (succeeded : WorldRefers templates success.2) :
    WorldRefers templates
      (world.attempt environment failure success).2 := by
  rw [World.attempt]
  split
  · exact ⟨refers.database, refers.transaction⟩
  · exact ⟨succeeded.database, succeeded.transaction⟩

theorem WorldRefers.closed (refers : WorldRefers templates world) :
    WorldRefers templates { world with transaction := none } :=
  ⟨refers.database, by simp⟩

/-- The rows of an answer were asked for and refer to the templates. -/
theorem possible_execute {conn : Conn} {statement : Statement}
    {database : Database} (referring : Referring templates database.tables) :
    (referringContract templates).possible (.sql conn statement)
      (World.reply (database.execute statement).1) := by
  cases statement with
  | select table wanted =>
      intro row member
      obtain ⟨stored, hit⟩ := List.mem_filter.mp member
      exact ⟨hit, referring.refers table row stored⟩
  | _ => trivial

theorem possible_failed {conn : Conn} {statement : Statement}
    (text : String) :
    (referringContract templates).possible (.sql conn statement)
      (.failed text) := by
  cases statement <;> trivial

theorem handle_sql_refers {conn : Conn} {statement : Statement}
    (refers : WorldRefers templates world)
    (may : (referringContract templates).may () (.sql conn statement)) :
    (referringContract templates).possible (.sql conn statement)
        (world.handle environment (.sql conn statement)).1 ∧
      WorldRefers templates
        (world.handle environment (.sql conn statement)).2 := by
  simp only [World.handle]
  cases present : world.read conn with
  | none =>
      refine ⟨?_, refers⟩
      cases statement <;> trivial
  | some database =>
      have referring := refers.read present
      constructor
      · simp only [World.attempt]
        split
        · exact possible_failed _
        · exact possible_execute referring
      · exact refers.attempt (refers.write conn (referring.execute may))

theorem handle_refers (op : Op) (refers : WorldRefers templates world)
    (may : (referringContract templates).may () op) :
    (referringContract templates).possible op
        (world.handle environment op).1 ∧
      WorldRefers templates (world.handle environment op).2 := by
  cases op with
  | sql conn statement => exact handle_sql_refers refers may
  | begin =>
      refine ⟨trivial, refers.closed.attempt ⟨refers.database, ?_⟩⟩
      intro database same
      cases same
      exact refers.database
  | commit =>
      refine ⟨trivial, ?_⟩
      simp only [World.handle]
      split
      · exact refers
      · rename_i database current
        exact refers.closed.attempt
          ⟨refers.transaction database current, by simp⟩
  | rollback =>
      refine ⟨trivial, ?_⟩
      simp only [World.handle]
      split
      · exact refers
      · exact refers.closed.attempt refers.closed
  | enqueue job =>
      exact ⟨trivial, refers.attempt ⟨refers.database, refers.transaction⟩⟩
  | now => exact ⟨trivial, refers⟩
  | service service =>
      exact ⟨trivial, refers.database, refers.transaction⟩
  | iterate keys => exact ⟨trivial, refers⟩

theorem run_refers {α : Type} {program : Prog α} {done : Unit → α → Prop}
    (refers : WorldRefers templates world)
    (meets : program.Meets (referringContract templates) done ()) :
    WorldRefers templates
      (program.run (World.handle environment) world).2 := by
  obtain ⟨_, after⟩ := Program.run_of_meets (World.handle environment)
    (fun world _ => WorldRefers templates world)
    (fun _ _ op refers may => handle_refers op refers may) meets refers
  exact after

end Worlds

/-! ## What the repositories write -/

/-- The program meets the contract; what it returns does not matter. -/
def Keeps {α : Type} (templates : List Template) (program : Prog α) : Prop :=
  program.Meets (referringContract templates) (fun _ _ => True) ()

/-- The template is left open or is one of these. -/
def Fits (templates : List Template) (templateID : String) : Prop :=
  templateID = "" ∨ Names templates templateID

section Programs

variable {templates : List Template} {conn : Conn} {α β : Type}

theorem keeps_of_only {program : Prog α}
    (only : program.Only ((referringContract templates).may ())) :
    Keeps templates program :=
  Program.meets_of_only (fun _ may => may) (fun _ _ _ => rfl) only
    fun _ => trivial

theorem keeps_bind {program : Prog α} {rest : α → Prog β}
    (first : Keeps templates program)
    (second : ∀ value, Keeps templates (rest value)) :
    Keeps templates (program >>= rest) :=
  Program.meets_bind (Program.Meets.weaken first fun _ value _ => second value)

theorem keeps_of_known {program : Prog α} {rest : α → Prog β}
    {known : α → Prop}
    (first : program.Meets (referringContract templates)
      (fun _ value => known value) ())
    (second : ∀ value, known value → Keeps templates (rest value)) :
    Keeps templates (program >>= rest) :=
  Program.meets_bind (first.weaken fun _ value fact => second value fact)

theorem keeps_sql {statement : Statement}
    (may : (referringContract templates).may () (.sql conn statement)) :
    Keeps templates (sql conn statement) :=
  keeps_of_only (sql_only may)

theorem keeps_now : Keeps templates nowTruncated :=
  keeps_of_only (nowTruncated_only trivial)

/-- A row that was found refers to one of the templates. -/
theorem selectOne_meets {table : Table} {wanted : table.Row → Bool} :
    (selectOne conn table wanted).Meets (referringContract templates)
      (fun _ result => result.2 = none →
        wanted result.1 = true ∧ Refers templates table result.1) () := by
  refine Program.meets_bind (Program.meets_perform trivial ?_)
  intro answer possible
  cases answer with
  | failed text => exact nofun
  | nilPointer => trivial
  | ok rows =>
      match rows, possible with
      | [], _ => exact nofun
      | [row], asked => exact fun _ => asked row (.head _)
      | _ :: _ :: _, _ => exact nofun

theorem findKind_refers (id clientID : String) :
    (KindsRepo.find conn id clientID).Meets (referringContract templates)
      (fun _ result => result.2 = none →
        Names templates result.1.templateID) () := by
  refine Program.meets_bind (selectOne_meets.weaken ?_)
  intro _ facts found
  obtain ⟨kind, err⟩ := facts
  cases err with
  | some error => exact nofun
  | none => exact fun _ => (found rfl).2 kind.templateID rfl

theorem findClient_refers (id : String) :
    (ClientsRepo.find conn id).Meets (referringContract templates)
      (fun _ result => result.2 = none →
        Names templates result.1.templateID) () := by
  refine Program.meets_bind (selectOne_meets.weaken ?_)
  intro _ facts found
  obtain ⟨client, err⟩ := facts
  cases err with
  | some error => exact nofun
  | none => exact fun _ => (found rfl).2 client.templateID rfl

theorem findTemplate_refers (templateID : String) :
    (TemplatesRepo.findByID conn templateID).Meets
      (referringContract templates)
      (fun _ result => result.2 = none → Names templates templateID) () := by
  refine Program.meets_bind (selectOne_meets.weaken ?_)
  intro _ facts found
  obtain ⟨template, err⟩ := facts
  cases err with
  | some error => exact nofun
  | none =>
      intro _
      obtain ⟨asked, refers⟩ := found rfl
      obtain ⟨stored, member, named⟩ := refers template.id rfl
      refine ⟨stored, member, ?_⟩
      rw [Collation.equal_iff] at named asked ⊢
      exact named.trans asked

theorem refers_client {client : Client}
    (named : Names templates client.templateID) :
    Refers templates .clients client := by
  intro id member
  cases member
  exact named

theorem refers_kind {kind : Kind}
    (named : Names templates kind.templateID) :
    Refers templates .kinds kind := by
  intro id member
  cases member
  exact named

theorem Fits.names {templateID : String} (fits : Fits templates templateID)
    (set : templateID ≠ "") : Names templates templateID :=
  fits.resolve_left set

theorem updateKind_keeps {kind : Kind} (fits : Fits templates kind.templateID) :
    Keeps templates (KindsRepo.update conn kind) := by
  apply keeps_of_known (findKind_refers _ _)
  intro facts found
  obtain ⟨existingKind, err⟩ := facts
  cases err with
  | some error => trivial
  | none =>
      apply keeps_bind keeps_now
      intro now
      refine keeps_bind (keeps_sql ⟨by decide, refers_kind ?_⟩) ?_
      · split
        · exact found rfl
        · rename_i set
          exact fits.names set
      · intro result
        cases result with
        | error error => trivial
        | ok _ =>
            exact (findKind_refers _ _).weaken fun _ _ _ => trivial

theorem storeClient_keeps {client : Client}
    (named : Names templates client.templateID) :
    Keeps templates (ClientsRepo.store conn client) := by
  refine keeps_bind (keeps_sql ⟨by decide, refers_client named⟩) ?_
  intro result
  cases result with
  | error error => trivial
  | ok _ => exact (findClient_refers _).weaken fun _ _ _ => trivial

theorem updateClient_keeps {client : Client}
    (fits : Fits templates client.templateID) :
    Keeps templates (ClientsRepo.update conn client) := by
  rw [ClientsRepo.update]
  split
  · apply keeps_of_known (findClient_refers _)
    intro result found
    obtain ⟨existingClient, err⟩ := result
    cases err with
    | some error => trivial
    | none => exact storeClient_keeps (found rfl)
  · rename_i set
    exact storeClient_keeps (fits.names set)

variable (fallback : Names templates defaultTemplateID)

include fallback

theorem createKind_keeps {kind : Kind} (fits : Fits templates kind.templateID) :
    Keeps templates (KindsRepo.create conn kind) := by
  apply keeps_bind keeps_now
  intro now
  refine keeps_bind (keeps_sql ⟨by decide, refers_kind ?_⟩) ?_
  · split
    · exact fallback
    · rename_i set
      exact fits.names set
  · intro result
    cases result <;> trivial

theorem upsertKind_keeps {kind : Kind} (fits : Fits templates kind.templateID) :
    Keeps templates (KindsRepo.upsert conn kind) := by
  apply keeps_of_known (findKind_refers _ _)
  intro result _
  obtain ⟨existingKind, err⟩ := result
  simp only
  split
  · apply createKind_keeps fallback
    exact fits
  · apply updateKind_keeps
    exact fits
  · trivial

theorem createClient_keeps {client : Client}
    (fits : Fits templates client.templateID) :
    Keeps templates (ClientsRepo.create conn client) := by
  apply keeps_bind keeps_now
  intro now
  refine keeps_bind (keeps_sql ⟨by decide, refers_client ?_⟩) ?_
  · split
    · exact fallback
    · rename_i set
      exact fits.names set
  · intro result
    cases result <;> trivial

theorem upsertClient_keeps {client : Client}
    (fits : Fits templates client.templateID) :
    Keeps templates (ClientsRepo.upsert conn client) := by
  apply keeps_of_known (findClient_refers _)
  intro result _
  obtain ⟨existingClient, err⟩ := result
  simp only
  split
  · apply createClient_keeps fallback
    exact fits
  · apply updateClient_keeps
    exact fits
  · trivial

/-! ## What the services write -/

theorem registerKinds_keeps {kinds : List Kind}
    (fits : ∀ kind ∈ kinds, Fits templates kind.templateID) :
    Keeps templates (Registrar.registerKinds conn kinds) := by
  induction kinds with
  | nil => trivial
  | cons kind rest ih =>
      have later := ih fun other member => fits other (.tail _ member)
      rw [Registrar.registerKinds]
      split
      · exact later
      · apply keeps_bind (upsertKind_keeps fallback (fits kind (.head _)))
        intro result
        obtain ⟨stored, err⟩ := result
        cases err with
        | some error => trivial
        | none => exact later

theorem register_keeps {client : Client} {kinds : List Kind}
    (fitsClient : Fits templates client.templateID)
    (fits : ∀ kind ∈ kinds, Fits templates kind.templateID) :
    Keeps templates (Registrar.register conn client kinds) := by
  apply keeps_bind (upsertClient_keeps fallback fitsClient)
  intro result
  obtain ⟨stored, err⟩ := result
  cases err with
  | some error => trivial
  | none => exact registerKinds_keeps fallback fits

theorem registration_keeps {client : Client} {kinds : List Kind}
    {prune : Bool} (fitsClient : Fits templates client.templateID)
    (fits : ∀ kind ∈ kinds, Fits templates kind.templateID) :
    Keeps templates (registration client kinds prune conn) := by
  apply keeps_bind (register_keeps fallback fitsClient fits)
  intro err
  cases err with
  | some error => trivial
  | none =>
      cases prune with
      | false => trivial
      | true =>
          refine keeps_of_only (Program.only_bind (KindsRepo.trim_only _ _
            (fun _ => trivial) ?_) fun _ => trivial)
          intro row same
          cases same

omit fallback in
theorem inTransaction_keeps {body : Prog (Option Error)}
    (keeps : Keeps templates body) :
    Keeps templates (inTransaction body) := by
  apply Program.meets_perform trivial
  intro begun _
  apply keeps_bind keeps
  intro err
  cases err with
  | some error =>
      refine keeps_of_only (Program.only_bind (Program.only_perform trivial
        ?_) fun _ => trivial)
      intro reply
      cases reply <;> trivial
  | none =>
      refine keeps_of_only (Program.only_bind (Program.only_perform trivial
        ?_) ?_)
      · intro reply
        cases reply <;> trivial
      · intro result
        cases result <;> trivial

omit fallback in
theorem checkedTemplate_refers (templateID : String) :
    (TemplateAssigner.findTemplate conn templateID).Meets
      (referringContract templates)
      (fun _ err => err = none → Fits templates templateID) () := by
  rw [TemplateAssigner.findTemplate]
  split
  · rename_i unset
    exact fun _ => Or.inl unset
  · refine Program.meets_bind ((findTemplate_refers templateID).weaken ?_)
    intro _ result found
    obtain ⟨template, err⟩ := result
    cases err with
    | none => exact fun _ => Or.inr (found rfl)
    | some error =>
        cases error with
        | recordNotFound format arguments => exact nofun
        | _ => exact nofun

omit fallback in
theorem assignToClient_keeps (clientID templateID : String) :
    Keeps templates
      (TemplateAssigner.assignToClient clientID templateID) := by
  apply keeps_bind ((findClient_refers _).weaken fun _ _ _ => trivial)
  intro result
  obtain ⟨client, err⟩ := result
  cases err with
  | some error => trivial
  | none =>
      apply keeps_of_known (checkedTemplate_refers _)
      intro err checked
      cases err with
      | some error => trivial
      | none =>
          refine keeps_bind (updateClient_keeps ?_) fun _ => trivial
          exact checked rfl

omit fallback in
theorem assignToNotification_keeps
    (clientID notificationID templateID : String) :
    Keeps templates (TemplateAssigner.assignToNotification clientID
      notificationID templateID) := by
  apply keeps_bind ((findClient_refers _).weaken fun _ _ _ => trivial)
  intro result
  obtain ⟨client, err⟩ := result
  cases err with
  | some error => trivial
  | none =>
      apply keeps_bind
        ((findKind_refers _ _).weaken fun _ _ _ => trivial)
      intro result
      obtain ⟨kind, err⟩ := result
      cases err with
      | some error => trivial
      | none =>
          apply keeps_of_known (checkedTemplate_refers _)
          intro err checked
          cases err with
          | some error => trivial
          | none =>
              refine keeps_bind (updateKind_keeps ?_) fun _ => trivial
              exact checked rfl

omit fallback in
theorem foundClient_refers (clientID : String) :
    (NotificationsFinder.client clientID).Meets (referringContract templates)
      (fun _ result => ∀ client, result = .ok client →
        Fits templates client.templateID) () := by
  refine Program.meets_bind ((findClient_refers clientID).weaken ?_)
  intro _ facts found
  obtain ⟨client, err⟩ := facts
  cases err with
  | none =>
      intro _ facts
      cases facts
      exact Or.inr (found rfl)
  | some error =>
      cases error with
      | recordNotFound format arguments =>
          intro _ facts
          cases facts
          exact Or.inl rfl
      | _ => nofun

omit fallback in
theorem foundKind_refers (clientID kindID : String) :
    (NotificationsFinder.kind clientID kindID).Meets
      (referringContract templates)
      (fun _ result => ∀ kind, result = .ok kind →
        Fits templates kind.templateID) () := by
  refine Program.meets_bind ((findKind_refers kindID clientID).weaken ?_)
  intro _ facts found
  obtain ⟨kind, err⟩ := facts
  cases err with
  | none =>
      intro _ facts
      cases facts
      exact Or.inr (found rfl)
  | some error =>
      cases error with
      | recordNotFound format arguments =>
          intro _ facts
          cases facts
          exact Or.inl rfl
      | _ => nofun

omit fallback in
theorem foundBoth_refers (clientID kindID : String) :
    (NotificationsFinder.clientAndKind clientID kindID).Meets
      (referringContract templates)
      (fun _ result => ∀ client kind, result = .ok (client, kind) →
        Fits templates client.templateID ∧
          Fits templates kind.templateID) () := by
  refine Program.meets_bind ((foundClient_refers clientID).weaken ?_)
  intro _ client fitsClient
  cases client with
  | error error => nofun
  | ok client =>
      refine Program.meets_bind ((foundKind_refers clientID kindID).weaken ?_)
      intro _ kind fitsKind
      cases kind with
      | error error => nofun
      | ok kind =>
          intro _ _ facts
          cases facts
          exact ⟨fitsClient client rfl, fitsKind kind rfl⟩

/-! ## The handlers -/

omit fallback in
theorem dispatch_keeps (marshal : Postal.Delivery → String)
    (clientID guid : String) (options : Postal.Options)
    (strategy : Strategy) :
    Keeps templates (strategy.dispatch marshal clientID guid options) := by
  refine keeps_of_only ((dispatch_messaging marshal clientID guid options
    strategy).weaken ?_)
  intro op messaging
  cases op with
  | sql conn statement =>
      cases statement with
      | insert table row =>
          cases messaging
          exact ⟨by decide, nofun⟩
      | update table row =>
          cases messaging
          exact ⟨by decide, nofun⟩
      | delete table row =>
          cases messaging
          exact nofun
      | _ => trivial
  | _ => trivial

theorem executeRegistration_keeps_references (claims : Jwt.Fields)
    (description : String) {kinds : List Kind} (prune : Bool)
    (fits : ∀ kind ∈ kinds, Fits templates kind.templateID) :
    Keeps templates (executeRegistration claims description kinds prune) := by
  rw [executeRegistration]
  split
  · trivial
  · simp only
    split
    · trivial
    · trivial
    · rename_i validated ok
      refine keeps_bind (inTransaction_keeps (registration_keeps fallback
        (Or.inl rfl) ?_)) fun _ => trivial
      intro kind member
      rw [validateCriticalScopes_ok ok] at member
      obtain ⟨sent, listed, rfl⟩ := List.mem_map.mp member
      exact fits sent listed

theorem notify_keeps (marshal : Postal.Delivery → String)
    (claims : Jwt.Fields) (strategy : Strategy) (guid : String)
    (parsed : Except Refusal NotifyParams) :
    Keeps templates (notify marshal claims strategy guid parsed) := by
  unfold Web.notify
  split
  · trivial
  · split
    · trivial
    · apply keeps_of_known (foundBoth_refers _ _)
      intro found fits
      cases found with
      | error error => trivial
      | ok both =>
          obtain ⟨client, kind⟩ := both
          obtain ⟨fitsClient, fitsKind⟩ := fits client kind rfl
          simp only
          split
          · trivial
          · trivial
          · refine keeps_bind (register_keeps fallback fitsClient ?_) ?_
            · intro other member
              rwa [List.mem_singleton.mp member]
            · intro err
              cases err with
              | some error => trivial
              | none =>
                  apply keeps_bind (dispatch_keeps _ _ _ _ _)
                  intro result
                  cases result <;> trivial

theorem registerNotifications_keeps {library : Library} (claims : Jwt.Fields)
    {body : Body}
    (fits : ∀ parameters, newRegistration library body = .ok parameters →
      ∀ kind ∈ parameters.kinds.values, Fits templates kind.templateID) :
    Keeps templates (registerNotifications library claims body) := by
  rw [registerNotifications]
  split
  · trivial
  · rename_i parameters parsed
    split
    · trivial
    · exact executeRegistration_keeps_references fallback claims _ _
        (fits parameters parsed)

theorem registerClientWithNotifications_keeps (library : Library)
    (claims : Jwt.Fields) (body : Body) :
    Keeps templates
      (registerClientWithNotifications library claims body) := by
  have iterates : ∀ op, Iterates op →
      (referringContract templates).may () op := by
    intro op fine
    cases op with
    | sql conn statement => exact fine.elim
    | _ => trivial
  apply keeps_bind (keeps_of_only
    ((newClientRegistration_iterates library body).weaken iterates))
  intro parsed
  cases parsed with
  | error refusal => trivial
  | ok parameters =>
      apply keeps_bind (keeps_of_only
        ((validate_iterates parameters).weaken iterates))
      intro refusal
      cases refusal with
      | some refusal => trivial
      | none =>
          apply Program.meets_perform trivial
          intro order _
          apply executeRegistration_keeps_references fallback claims _ _
          intro kind member
          exact Or.inl (generatedKinds_unset member).1

omit fallback in
theorem updateNotifications_keeps (clientID notificationID : String)
    {parsed : Except Refusal NotificationUpdateParams}
    (fits : ∀ parameters, parsed = .ok parameters →
      Fits templates parameters.templateID) :
    Keeps templates
      (updateNotifications clientID notificationID parsed) := by
  unfold Web.updateNotifications
  split
  · trivial
  · rename_i parameters
    refine keeps_bind (keeps_bind (updateKind_keeps ?_) fun _ => trivial)
      fun _ => trivial
    exact fits parameters rfl

omit fallback in
theorem assignClientTemplate_keeps (clientID : String) (body : Body) :
    Keeps templates (assignClientTemplate clientID body) := by
  unfold Web.assignClientTemplate
  split
  · trivial
  · exact keeps_bind (assignToClient_keeps _ _) fun _ => trivial

omit fallback in
theorem assignNotificationTemplate_keeps (clientID notificationID : String)
    (body : Body) :
    Keeps templates
      (assignNotificationTemplate clientID notificationID body) := by
  unfold Web.assignNotificationTemplate
  split
  · trivial
  · exact keeps_bind (assignToNotification_keeps _ _ _) fun _ => trivial

end Programs

end Notifications.Web
