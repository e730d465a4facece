import Notifications.Postal.DeliveryWorker
import Notifications.Web.Referring
import Notifications.Web.WritingBack

/-!
# References to templates over whole histories

Requests are executed one at a time, from a database that `Seed` has filled.
`TemplateAssigner` looks a template up before it assigns it, but deleting a
template looks at no references, and neither a notification update nor a
registration looks up the template that it is given.  When the requests take
care of that themselves, every client and every kind has an existing template,
and `LoadTemplates` finds it.
-/

set_option autoImplicit false

namespace Notifications.Web

open Notifications.Lib Notifications.Models Notifications.Services
open Notifications.Postal

/-! ## One request after the other -/

structure Session where
  request : Request
  environment : Environment

section Collated

variable [Collation]

def Server.enter (server : Server) : World where
  database := server.database
  transaction := none
  jobs := server.jobs
  nextJobID := server.nextJobID
  statements := 0
  services := 0

/-- What a request leaves behind; a transaction that it has left open is
lost. -/
def leave (world : World) : Server where
  database := world.database
  jobs := world.jobs
  nextJobID := world.nextJobID

def serial (setup : Setup) : Machine Server Session Unit where
  step server session :=
    some (leave ((session.request.serve setup).run
      (World.handle session.environment) server.enter).2, [])

/-! ## Templates in use -/

structure Intact (tables : Tables) : Prop where
  referring : Referring (tables.rows .templates) tables
  fallback : Names (tables.rows .templates) defaultTemplateID

/-- No client and no kind has the template, and new ones will not get it. -/
structure Unused (tables : Tables) (templateID : String) : Prop where
  notDefault : ¬ Collation.equal templateID defaultTemplateID
  clients : ∀ client : Client, client ∈ tables.rows .clients →
    ¬ Collation.equal client.templateID templateID
  kinds : ∀ kind : Kind, kind ∈ tables.rows .kinds →
    ¬ Collation.equal kind.templateID templateID

section Changes

variable {before after : Tables}

/-- A statement changes templates; the IDs that go are unused. -/
theorem Intact.execute (intact : Intact before) {statement : Statement}
    (about : statement.table = .templates)
    (named : ∀ id, Names (before.rows .templates) id →
      Names ((statement.execute before).2.rows .templates) id ∨
        Unused before id) :
    Intact (statement.execute before).2 := by
  have others (table : Table) (other : table ≠ .templates) :
      (statement.execute before).2.rows table = before.rows table :=
    statement.execute_other before (by rwa [about])
  have kept {id : String} (known : Names (before.rows .templates) id)
      (used : ¬ Unused before id) :
      Names ((statement.execute before).2.rows .templates) id :=
    (named id known).resolve_right used
  refine ⟨⟨rfl, ?_⟩, ?_⟩
  · intro table row member id named
    cases table with
    | clients =>
        rw [others .clients (by decide)] at member
        apply kept (intact.referring.refers .clients row member id named)
        intro unused
        cases named
        exact unused.clients row member (Collation.equal_self _)
    | kinds =>
        rw [others .kinds (by decide)] at member
        apply kept (intact.referring.refers .kinds row member id named)
        intro unused
        cases named
        exact unused.kinds row member (Collation.equal_self _)
    | templates =>
        cases named
        exact ⟨row, member, Collation.equal_self _⟩
    | _ => cases named
  · exact kept intact.fallback fun unused =>
      unused.notDefault (Collation.equal_self _)

theorem Unused.of_same {id : String} (unused : Unused before id)
    (others : ∀ table, table ≠ .templates →
      after.rows table = before.rows table) : Unused after id := by
  refine ⟨unused.notDefault, ?_, ?_⟩
  · rw [others .clients (by decide)]
    exact unused.clients
  · rw [others .kinds (by decide)]
    exact unused.kinds

theorem Unused.congr {id other : String} (unused : Unused before id)
    (same : Collation.equal id other) : Unused before other := by
  obtain ⟨notDefault, clients, kinds⟩ := unused
  simp only [Collation.equal_iff] at same notDefault clients kinds
  rw [same] at notDefault clients kinds
  constructor
  · simpa using notDefault
  · simpa using clients
  · simpa using kinds

theorem intact_insert (intact : Intact before) (row : Template) :
    Intact (Statement.execute (.insert .templates row) before).2 := by
  apply intact.execute rfl
  intro id facts
  obtain ⟨template, member, same⟩ := facts
  left
  simp only [Statement.execute]
  split
  · exact ⟨template, member, same⟩
  · refine ⟨template, ?_, same⟩
    simp only [Tables.insert, Tables.bump_rows, Tables.set_rows_same]
    exact List.mem_append_left _ member

theorem intact_update (sound : before.Sound) (intact : Intact before)
    {row old : Template} (stored : old ∈ before.rows .templates)
    (primary : row.primary = old.primary) (sameID : row.id = old.id) :
    Intact (Statement.execute (.update .templates row) before).2 := by
  apply intact.execute rfl
  intro id facts
  obtain ⟨template, member, same⟩ := facts
  left
  simp only [Statement.execute]
  split
  · exact ⟨template, member, same⟩
  · simp only [Tables.update, Tables.set_rows_same]
    by_cases hit : Tables.hits .templates row template = true
    · have keyed : template = old := by
        apply (sound.primaryKey .templates).eq_of_mem member stored
        rw [Tables.hits_iff.mp hit]
        exact congrArg PrimaryKey.number primary
      refine ⟨row, mem_updateWhere.mpr (Or.inr ⟨template, member, hit,
        rfl⟩), ?_⟩
      rw [sameID, ← keyed]
      exact same
    · refine ⟨template, mem_updateWhere.mpr (Or.inl ⟨member, ?_⟩), same⟩
      simpa using hit

theorem intact_delete (sound : before.Sound) (intact : Intact before)
    {row : Template} (stored : row ∈ before.rows .templates)
    (unused : Unused before row.id) :
    Intact (Statement.execute (.delete .templates row) before).2 := by
  apply intact.execute rfl
  intro id facts
  obtain ⟨template, member, same⟩ := facts
  simp only [Statement.execute, Tables.delete, Tables.set_rows_same]
  by_cases hit : Tables.hits .templates row template = true
  · right
    have keyed : template = row :=
      (sound.primaryKey .templates).eq_of_mem member stored
        (Tables.hits_iff.mp hit)
    subst keyed
    exact unused.congr same
  · left
    refine ⟨template, mem_deleteWhere.mpr ⟨member, ?_⟩, same⟩
    simpa using hit

end Changes

/-! ## Requests that change templates -/

/-- What is known is the template that was read last.  It may be changed under
its ID, and deleted if that is unused. -/
def curatingContract (unused : String → Prop) :
    Contract Op Answer (Option Template) where
  may knowledge op :=
    match op with
    | .sql .connection (.select .templates _) => True
    | .sql .connection (.insert .templates _) => True
    | .sql .connection (.update .templates row) =>
        ∃ old ∈ knowledge, row.primary = old.primary ∧ row.id = old.id
    | .sql .connection (.delete .templates row) =>
        knowledge = some row ∧ unused row.id
    | .now => True
    | .service _ => True
    | _ => False
  possible op answer :=
    match op, answer with
    | .sql _ (.select .templates wanted), .ok rows =>
        ∀ row ∈ rows, wanted row = true
    | _, _ => True
  learn knowledge op answer :=
    match op, answer with
    | .sql _ (.select .templates _), .ok rows => rows.head?
    | .sql _ (.select .templates _), _ => knowledge
    | .sql _ _, _ => none
    | _, _ => knowledge

structure Curated (unused : String → Prop) (world : World)
    (knowledge : Option Template) : Prop where
  intact : Intact world.database.tables
  unused : ∀ id, unused id → Unused world.database.tables id
  known : ∀ old ∈ knowledge, old ∈ world.database.tables.rows .templates

section Curating

variable {unused : String → Prop} {world : World}
  {environment : Environment} {knowledge : Option Template}

/-- A write leaves the references intact, and what was read may be old. -/
theorem Curated.write (curated : Curated unused world knowledge)
    {statement : Statement} (about : statement.table = .templates)
    (intact : Intact (statement.execute world.database.tables).2) :
    Curated unused
      (world.handle environment (.sql .connection statement)).2 none := by
  simp only [World.handle, World.read, World.attempt]
  split
  · exact ⟨curated.intact, curated.unused, by simp⟩
  · refine ⟨intact, ?_, by simp⟩
    intro id free
    apply (curated.unused id free).of_same
    intro table other
    apply statement.execute_other world.database.tables
    rwa [about]

theorem handle_curated (op : Op) (curated : Curated unused world knowledge)
    (may : (curatingContract unused).may knowledge op) :
    (curatingContract unused).possible op (world.handle environment op).1 ∧
      Curated unused (world.handle environment op).2
        ((curatingContract unused).learn knowledge op
          (world.handle environment op).1) := by
  have sound := world.database.sound
  match op, may with
  | .sql .connection (.select .templates wanted), _ =>
      simp only [World.handle, World.read, World.attempt]
      split
      · exact ⟨trivial, curated.intact, curated.unused, curated.known⟩
      · refine ⟨?_, curated.intact, curated.unused, ?_⟩
        · intro row member
          exact (List.mem_filter.mp member).2
        · intro old first
          exact (List.mem_filter.mp (List.mem_of_mem_head? first)).1
  | .sql .connection (.insert .templates row), _ =>
      exact ⟨trivial, curated.write rfl (intact_insert curated.intact row)⟩
  | .sql .connection (.update .templates row), ⟨old, read, primary, sameID⟩ =>
      exact ⟨trivial, curated.write rfl (intact_update sound curated.intact
        (curated.known old read) primary sameID)⟩
  | .sql .connection (.delete .templates row), ⟨read, free⟩ =>
      exact ⟨trivial, curated.write rfl (intact_delete sound curated.intact
        (curated.known row read) (curated.unused row.id free))⟩
  | .now, _ => exact ⟨trivial, curated⟩
  | .service service, _ =>
      exact ⟨trivial, curated.intact, curated.unused, curated.known⟩

theorem run_curated {α : Type} {program : Prog α}
    {done : Option Template → α → Prop}
    (curated : Curated unused world knowledge)
    (meets : program.Meets (curatingContract unused) done knowledge) :
    Intact (program.run (World.handle environment) world).2.database.tables
      := by
  obtain ⟨_, after⟩ := Program.run_of_meets (World.handle environment)
    (Curated unused) (fun _ _ op curated may => handle_curated op curated may)
    meets curated
  exact after.intact

/-- The program meets the contract, whatever is known. -/
def Curates {α : Type} (unused : String → Prop) (program : Prog α) : Prop :=
  ∀ knowledge, program.Meets (curatingContract unused) (fun _ _ => True)
    knowledge

omit [Collation] in
theorem curates_bind {α β : Type} {program : Prog α} {rest : α → Prog β}
    (first : Curates unused program)
    (second : ∀ value, Curates unused (rest value)) :
    Curates unused (program >>= rest) := by
  intro knowledge
  exact Program.meets_bind ((first knowledge).weaken
    fun learned value _ => second value learned)

omit [Collation] in
theorem curates_ret {α : Type} (value : α) :
    Curates unused (pure value : Prog α) :=
  fun _ => trivial

theorem findTemplate_curated (templateID : String) :
    (TemplatesRepo.findByID .connection templateID).Meets
      (curatingContract unused)
      (fun learned result => result.2 = none →
        learned = some result.1 ∧
          Collation.equal result.1.id templateID) knowledge := by
  refine Program.meets_bind (Program.meets_bind (Program.meets_bind
    (Program.meets_perform trivial ?_)))
  intro answer possible
  cases answer with
  | failed text => exact nofun
  | nilPointer => trivial
  | ok rows =>
      match rows, possible with
      | [], _ => exact nofun
      | [row], asked =>
          intro _
          exact ⟨rfl, asked row (.head _)⟩
      | _ :: _ :: _, _ => exact nofun

theorem updateTemplate_curates (templateID : String) (template : Template) :
    Curates unused (TemplatesRepo.update .connection templateID template) := by
  intro knowledge
  refine Program.meets_bind ((findTemplate_curated templateID).weaken ?_)
  intro learned result found
  obtain ⟨existingTemplate, err⟩ := result
  cases err with
  | some error => cases error <;> trivial
  | none =>
      obtain ⟨rfl, _⟩ := found rfl
      apply Program.meets_perform trivial
      intro now _
      refine Program.meets_bind (Program.meets_perform
        ⟨existingTemplate, rfl, rfl, rfl⟩ ?_)
      intro answer _
      cases answer <;> trivial

omit [Collation] in
theorem createTemplate_curates (template : Template) :
    Curates unused (TemplatesRepo.create .connection template) := by
  intro knowledge
  apply Program.meets_perform trivial
  intro drawn _
  cases drawn with
  | error text => trivial
  | ok id =>
      refine curates_bind ?_ ?_ _
      · intro knowledge
        rw [TemplatesRepo.setTemplateTimestamps]
        split
        · exact Program.meets_perform trivial fun _ _ => trivial
        · trivial
      · intro stamped knowledge
        refine Program.meets_bind (Program.meets_perform trivial ?_)
        intro answer _
        cases answer <;> trivial

theorem destroyTemplate_curates {templateID : String}
    (free : ∀ id, Collation.equal id templateID → unused id) :
    Curates unused (TemplatesRepo.destroy .connection templateID) := by
  intro knowledge
  refine Program.meets_bind ((findTemplate_curated templateID).weaken ?_)
  intro learned result found
  obtain ⟨template, err⟩ := result
  cases err with
  | some error => trivial
  | none =>
      obtain ⟨rfl, same⟩ := found rfl
      refine Program.meets_bind (Program.meets_bind (Program.meets_perform
        ⟨rfl, free template.id same⟩ ?_))
      intro answer _
      cases answer <;> trivial

omit [Collation] in
theorem createTemplates_curates (parsed : Except Refusal TemplateParams) :
    Curates unused (createTemplate parsed) := by
  unfold Web.createTemplate
  split
  · exact curates_ret _
  · refine curates_bind (curates_bind (createTemplate_curates _) ?_) ?_
    · intro result
      obtain ⟨template, err⟩ := result
      cases err <;> exact curates_ret _
    · intro created
      cases created <;> exact curates_ret _

theorem updateTemplates_curates (templateID : String)
    (parsed : Except Refusal TemplateParams) :
    Curates unused (updateTemplates templateID parsed) := by
  unfold Web.updateTemplates
  split
  · exact curates_ret _
  · exact curates_bind (curates_bind (updateTemplate_curates _ _)
      fun _ => curates_ret _) fun _ => curates_ret _

end Curating

/-! ## Careful requests -/

/-- The templates that a request names and nobody looks up. -/
def Endpoint.unchecked (library : Library) : Endpoint → List String
  | .registration body =>
      match newRegistration library body with
      | .error _ => []
      | .ok parameters => parameters.kinds.values.map Kind.templateID
  | .updateNotifications _ _ parsed =>
      match parsed with
      | .error _ => []
      | .ok parameters => [parameters.templateID]
  | _ => []

def Endpoint.deleted : Endpoint → Option String
  | .deleteTemplates templateID => some templateID
  | _ => none

/-- A request that gets past the authenticator names no template that is
missing, and deletes none that is in use. -/
def Careful (setup : Setup) (server : Server) (session : Session) : Prop :=
  (Authenticator.mk [session.request.endpoint.scope] "").containsATokenScope
      session.request.claims = some true →
    (∀ id ∈ session.request.endpoint.unchecked setup.library,
      Fits (server.database.tables.rows .templates) id) ∧
    ∀ id ∈ session.request.endpoint.deleted,
      Unused server.database.tables id

instance (templates : List Template) (id : String) :
    Decidable (Names templates id) :=
  inferInstanceAs (Decidable (∃ template ∈ templates,
    Collation.equal (Template.id template) id = true))

instance (templates : List Template) (id : String) :
    Decidable (Fits templates id) :=
  inferInstanceAs (Decidable (_ ∨ _))

instance (tables : Tables) (templateID : String) :
    Decidable (Unused tables templateID) :=
  decidable_of_iff (¬ Collation.equal templateID defaultTemplateID ∧
      (∀ client ∈ tables.rows .clients,
        ¬ Collation.equal (Client.templateID client) templateID) ∧
      ∀ kind ∈ tables.rows .kinds,
        ¬ Collation.equal (Kind.templateID kind) templateID)
    ⟨fun all => ⟨all.1, all.2.1, all.2.2⟩,
      fun unused => ⟨unused.notDefault, unused.clients, unused.kinds⟩⟩

instance (setup : Setup) (server : Server) (session : Session) :
    Decidable (Careful setup server session) :=
  inferInstanceAs (Decidable (_ → _ ∧ _))

section Requests

variable {setup : Setup} {server : Server} {environment : Environment}

theorem intact_of_keeps {α : Type} {program : Prog α}
    (intact : Intact server.database.tables)
    (keeps : Keeps (server.database.tables.rows .templates) program) :
    Intact (program.run (World.handle environment)
      server.enter).2.database.tables := by
  have refers : WorldRefers (server.database.tables.rows .templates)
      server.enter := ⟨intact.referring, nofun⟩
  have after := (@run_refers _ _ _ environment _ _ _ refers keeps).database
  have same := after.same
  refine ⟨?_, ?_⟩
  · rw [same]
    exact after
  · rw [same]
    exact intact.fallback

theorem intact_of_curates {α : Type} {program : Prog α}
    {unused : String → Prop} (intact : Intact server.database.tables)
    (free : ∀ id, unused id → Unused server.database.tables id)
    (curates : Curates unused program) :
    Intact (program.run (World.handle environment)
      server.enter).2.database.tables := by
  have curated : Curated unused server.enter none := ⟨intact, free, nofun⟩
  exact run_curated curated (curates none)

theorem handler_intact {request : Request}
    (intact : Intact server.database.tables)
    (fits : ∀ id ∈ request.endpoint.unchecked setup.library,
      Fits (server.database.tables.rows .templates) id)
    (free : ∀ id ∈ request.endpoint.deleted,
      Unused server.database.tables id) :
    Intact ((request.handler setup).run (World.handle environment)
      server.enter).2.database.tables := by
  have fallback := intact.fallback
  unfold Request.handler
  cases endpoint : request.endpoint with
  | registration body =>
      rw [endpoint, Endpoint.unchecked] at fits
      refine intact_of_keeps intact
        (registerNotifications_keeps fallback _ ?_)
      intro parameters parsed kind member
      rw [parsed] at fits
      exact fits kind.templateID (List.mem_map_of_mem member)
  | notifications body =>
      exact intact_of_keeps intact
        (registerClientWithNotifications_keeps fallback _ _ _)
  | notify strategy guid parsed =>
      exact intact_of_keeps intact (notify_keeps fallback _ _ _ _ _)
  | updateNotifications clientID notificationID parsed =>
      rw [endpoint] at fits
      refine intact_of_keeps intact (updateNotifications_keeps _ _ ?_)
      intro parameters ok
      subst ok
      exact fits parameters.templateID (.head _)
  | assignClientTemplate clientID body =>
      exact intact_of_keeps intact (assignClientTemplate_keeps _ _)
  | assignNotificationTemplate clientID notificationID body =>
      exact intact_of_keeps intact (assignNotificationTemplate_keeps _ _ _)
  | createTemplate parsed =>
      exact @intact_of_curates _ _ _ _ _ (fun _ => False) intact nofun
        (createTemplates_curates parsed)
  | updateTemplates templateID parsed =>
      exact @intact_of_curates _ _ _ _ _ (fun _ => False) intact nofun
        (updateTemplates_curates templateID parsed)
  | updateDefaultTemplate parsed =>
      exact @intact_of_curates _ _ _ _ _ (fun _ => False) intact nofun
        (updateTemplates_curates defaultTemplateID parsed)
  | deleteTemplates templateID =>
      rw [endpoint] at free
      refine @intact_of_curates _ _ _ _ _
        (fun id => Collation.equal id templateID) intact ?_
        (curates_bind (destroyTemplate_curates fun _ same => same) fun _ =>
          curates_ret _)
      intro id same
      apply (free templateID rfl).congr
      simpa using (Collation.equal_iff.mp same).symm

theorem step_intact {next : Server} {session : Session} {shown : List Unit}
    (intact : Intact server.database.tables)
    (careful : Careful setup server session)
    (stepped : (serial setup).step server session = some (next, shown)) :
    Intact next.database.tables := by
  cases stepped
  simp only [leave, Request.serve, authenticated]
  split
  · exact intact
  · exact intact
  · rename_i passed
    obtain ⟨fits, free⟩ := careful passed
    exact handler_intact intact fits free

end Requests

/-! ## Loading -/

/-- The rows that `LoadTemplates` wants are there. -/
structure RowsPresent (tables : Tables) (clientID kindID : String) : Prop where
  client : (tables.lookup .clients (Collation.key [clientID])).isSome = true
  kind : kindID ≠ "" → (tables.lookup .kinds
    (Collation.key [kindID, clientID])).isSome = true

/-- The template of the kind, unless it is the default template; else that of
the client. -/
def effectiveTemplate (tables : Tables) (clientID kindID : String) : String :=
  if kindID ≠ "" ∧ kindTemplate tables kindID clientID ≠ defaultTemplateID then
    kindTemplate tables kindID clientID
  else
    clientTemplate tables clientID

def loaded (tables : Tables) (templateID : String) : Except Error Templates :=
  match tables.lookup .templates (Collation.key [templateID]) with
  | none => .error (TemplatesRepo.missing templateID)
  | some template => .ok ⟨template.subject, template.text, template.html⟩

section Loading

variable {environment : Environment} (faultless : Faultless environment)

include faultless

theorem run_loadTemplate (templateID : String) (world : World) :
    ((TemplatesLoader.loadTemplate templateID).run (World.handle environment)
      world).1 = some (loaded world.database.tables templateID) := by
  have read : world.read .connection = some world.database := rfl
  have ran := @TemplatesRepo.run_findByID _ environment _ _ _ read templateID
  rw [faultless world.statements] at ran
  rw [TemplatesLoader.loadTemplate, Program.run_bind_of _ ran, loaded]
  cases world.database.tables.lookup .templates
    (Collation.key [templateID]) <;> rfl

theorem run_loadClientTemplate {clientID : String} (world : World)
    (registered : (world.database.tables.lookup .clients
      (Collation.key [clientID])).isSome = true) :
    ((TemplatesLoader.loadClientTemplate clientID).run
      (World.handle environment) world).1 =
        some (loaded world.database.tables
          (clientTemplate world.database.tables clientID)) := by
  obtain ⟨client, found⟩ := Option.isSome_iff_exists.mp registered
  have read : world.read .connection = some world.database := rfl
  have ran := @ClientsRepo.run_find _ environment _ _ _ read clientID
  rw [faultless world.statements, found] at ran
  rw [TemplatesLoader.loadClientTemplate, Program.run_bind_of _ ran,
    clientTemplate, found]
  exact run_loadTemplate faultless client.templateID world.counted

theorem run_loadTemplates {clientID kindID : String} (world : World)
    (rows : RowsPresent world.database.tables clientID kindID) :
    ((TemplatesLoader.loadTemplates clientID kindID).run
      (World.handle environment) world).1 =
        some (loaded world.database.tables
          (effectiveTemplate world.database.tables clientID kindID)) := by
  rw [TemplatesLoader.loadTemplates, effectiveTemplate]
  by_cases named : kindID ≠ ""
  · obtain ⟨kind, found⟩ := Option.isSome_iff_exists.mp (rows.kind named)
    have read : world.read .connection = some world.database := rfl
    have ran := @KindsRepo.run_find _ environment _ _ _ read kindID clientID
    rw [faultless world.statements, found] at ran
    have given : kindTemplate world.database.tables kindID clientID =
        kind.templateID := by
      rw [kindTemplate, found]
      rfl
    rw [if_pos named, Program.run_bind_of _ ran, given]
    simp only [sought]
    by_cases own : kind.templateID ≠ defaultTemplateID
    · rw [if_pos own, if_pos ⟨named, own⟩]
      exact run_loadTemplate faultless kind.templateID world.counted
    · rw [if_neg own, if_neg fun both => own both.2]
      exact run_loadClientTemplate faultless world.counted rows.client
  · rw [if_neg named, if_neg fun both => named both.1]
    exact run_loadClientTemplate faultless world rows.client

end Loading

theorem loaded_of_names {database : Database} {templateID : String}
    (named : Names (database.tables.rows .templates) templateID) :
    ∃ templates, loaded database.tables templateID = .ok templates := by
  obtain ⟨template, member, same⟩ := named
  have found : database.tables.lookup .templates
      (Collation.key [templateID]) = some template :=
    database.sound.lookup_iff.mpr ⟨member, Collation.key_congr same⟩
  rw [loaded, found]
  exact ⟨_, rfl⟩

theorem Intact.effective {tables : Tables} (intact : Intact tables)
    (clientID kindID : String) :
    Names (tables.rows .templates)
      (effectiveTemplate tables clientID kindID) := by
  rw [effectiveTemplate]
  split
  · rw [kindTemplate]
    cases found : tables.lookup .kinds (Collation.key [kindID, clientID]) with
    | none => exact intact.fallback
    | some kind =>
        exact intact.referring.refers .kinds kind
          (Tables.lookup_eq_some found).1 _ rfl
  · rw [clientTemplate]
    cases found : tables.lookup .clients (Collation.key [clientID]) with
    | none => exact intact.fallback
    | some client =>
        exact intact.referring.refers .clients client
          (Tables.lookup_eq_some found).1 _ rfl

/-! ## Seeding -/

/-- `Seed` has filled the empty database. -/
structure Seeded (template : DefaultTemplate) (environment : Environment)
    (server : Server) : Prop where
  finished : ((seed template).run (World.handle environment)
    (World.start [])).1 = some ()
  stored : server.database = ((seed template).run (World.handle environment)
    (World.start [])).2.database

/-- `insert` of a template without a time of its own: it returns without an
error only when there is a row with its ID. -/
theorem run_insertTemplate {environment : Environment} {world : World}
    {template : Template} (fresh : template.createdAt = Gobble.zeroTime) :
    ∃ row : Template, row.id = template.id ∧
      ((∃ error, (TemplatesRepo.insert .connection template).run
          (World.handle environment) world =
            (some (Table.templates.zero, some error), world.counted)) ∨
        ∃ result, (TemplatesRepo.insert .connection template).run
          (World.handle environment) world =
            (some result, world.advance .connection
              (world.database.execute (.insert .templates row)).2 1)) := by
  let now := environment.clock world.statements -
    environment.clock world.statements % 1000000000
  let row := { template with createdAt := now, updatedAt := now }
  have read : world.read .connection = some world.database := rfl
  have ran := @run_sql _ environment _ _ _ read (.insert .templates row)
  have stamped : (TemplatesRepo.setTemplateTimestamps template).run
      (World.handle environment) world = (some row, world) := by
    rw [TemplatesRepo.setTemplateTimestamps, if_pos fresh]
    rfl
  refine ⟨row, rfl, ?_⟩
  rw [TemplatesRepo.insert, Program.run_bind_of _ stamped]
  cases fault : environment.faults world.statements with
  | some text =>
      rw [fault] at ran
      left
      rw [Program.run_bind_of _ ran]
      exact ⟨_, rfl⟩
  | none =>
      rw [fault] at ran
      right
      rw [Program.run_bind_of _ ran]
      cases (world.database.execute (.insert .templates row)).1 <;>
        exact ⟨_, rfl⟩

theorem intact_first {row : Template} (named : row.id = defaultTemplateID) :
    Intact ((World.start []).database.execute
      (.insert .templates row)).2.tables := by
  have rows : ((World.start []).database.execute
      (.insert .templates row)).2.tables.rows .templates =
        [Table.templates.numbered row 1] := rfl
  have others (table : Table) (other : table ≠ .templates) :
      ((World.start []).database.execute
        (.insert .templates row)).2.tables.rows table = [] :=
    Statement.execute_other _ _ other
  refine ⟨⟨rfl, ?_⟩, ?_⟩
  · intro table stored member
    by_cases same : table = .templates
    · subst same
      intro id named
      cases named
      exact ⟨stored, member, Collation.equal_self _⟩
    · rw [others table same] at member
      cases member
  · rw [rows]
    exact ⟨_, .head _,
      Collation.equal_iff.mpr (congrArg Collation.weight named)⟩

theorem seeded_intact {template : DefaultTemplate}
    {environment : Environment} {server : Server}
    (seeded : Seeded template environment server) :
    Intact server.database.tables := by
  have read : (World.start []).read .connection =
    some (World.start []).database := rfl
  have looked := @TemplatesRepo.run_findByID _ environment _ _ _ read
    defaultTemplateID
  have absent : (World.start []).database.tables.lookup .templates
    (Collation.key [defaultTemplateID]) = none := rfl
  have finished := seeded.finished
  have stored := seeded.stored
  rw [seed, Program.run_bind_of _ looked, absent] at finished stored
  cases fault : environment.faults (World.start []).statements with
  | some text =>
      rw [fault] at finished
      cases finished
  | none =>
      rw [fault] at finished stored
      simp only [sought, TemplatesRepo.missing] at finished stored
      obtain ⟨row, sameID, ⟨error, failed⟩ | ⟨⟨_, err⟩, stores⟩⟩ :=
        @run_insertTemplate _ environment (World.start []).counted
          { Table.templates.zero with
            id := defaultTemplateID
            name := template.name
            subject := template.subject
            html := template.html
            text := template.text
            metadata := template.metadata } rfl
      · rw [Program.run_bind_of _ failed] at finished
        cases finished
      · rw [Program.run_bind_of _ stores] at stored
        have database : server.database =
            ((World.start []).database.execute (.insert .templates row)).2 := by
          cases err <;> exact stored
        rw [database]
        exact intact_first sameID

/-! ## Whole histories -/

/-- Every template that a client or a kind refers to exists, and is found for
every client with or without one of its kinds. -/
structure Resolved (server : Server) : Prop where
  clients : ∀ client : Client,
    client ∈ server.database.tables.rows .clients →
      Names (server.database.tables.rows .templates) client.templateID
  kinds : ∀ kind : Kind, kind ∈ server.database.tables.rows .kinds →
    Names (server.database.tables.rows .templates) kind.templateID
  loads : ∀ environment, Faultless environment → ∀ client : Client,
    client ∈ server.database.tables.rows .clients → ∀ kindID : String,
      (kindID = "" ∨ ∃ kind : Kind,
        kind ∈ server.database.tables.rows .kinds ∧
          Collation.equal kind.id kindID ∧
          Collation.equal kind.clientID client.id) →
        ∃ templates, ((TemplatesLoader.loadTemplates client.id kindID).run
          (World.handle environment) server.enter).1 = some (.ok templates)

theorem Intact.resolved {server : Server}
    (intact : Intact server.database.tables) : Resolved server where
  clients client member :=
    intact.referring.refers .clients client member _ rfl
  kinds kind member := intact.referring.refers .kinds kind member _ rfl
  loads environment faultless client member kindID listed := by
    obtain ⟨templates, ok⟩ := loaded_of_names (intact.effective client.id
      kindID)
    refine ⟨templates, ?_⟩
    rw [run_loadTemplates faultless server.enter ?_]
    · exact congrArg some ok
    · have sound := server.database.sound
      constructor
      · exact Option.isSome_of_mem
          ((lookup_clients_iff sound).mpr ⟨member, Collation.equal_self _⟩)
      · intro named
        obtain ⟨kind, stored, own⟩ := listed.resolve_left named
        exact Option.isSome_of_mem
          ((lookup_kinds_iff sound).mpr ⟨stored, own⟩)

theorem references_never_dangle (setup : Setup) (template : DefaultTemplate)
    (environment : Environment) (server : Server)
    (seeded : Seeded template environment server) (sessions : List Session)
    (final : Server) (trace : List Unit)
    (guarded : (serial setup).Guarded (Careful setup) sessions server)
    (ran : (serial setup).run sessions server = some (final, trace)) :
    Resolved final := by
  have intact := (serial setup).run_state_invariant (Careful setup)
    (fun server => Intact server.database.tables)
    (fun _ _ _ _ intact careful stepped =>
      step_intact intact careful stepped)
    (seeded_intact seeded) guarded ran
  exact intact.resolved

def curatorClaims : Jwt.Fields :=
  [("client_id", .string "curator"),
    ("scope", .array [.string "notification_templates.write"])]

def plainBody : Body where
  first := some (.object [("source_description", .string "S"),
    ("kinds", .array [.object [("id", .string "kind"),
      ("description", .string "K")]])])
  trailing := false

end Collated

attribute [local instance] Collation.binary

def sampleTemplate : DefaultTemplate := ⟨"Default", "", "", "", ""⟩

def seededServer : Server :=
  leave ((seed sampleTemplate).run (World.handle .calm) (World.start [])).2

theorem seededServer_seeded :
    Seeded sampleTemplate .calm seededServer :=
  ⟨by decide +kernel, rfl⟩

def assigningSessions : List Session :=
  [ ⟨⟨curatorClaims, .createTemplate (.ok ⟨"Mine", "", "html", "", ""⟩)⟩,
      .calm⟩,
    ⟨⟨writerClaims, .registration plainBody⟩, .calm⟩,
    ⟨⟨managerClaims, .assignClientTemplate "client"
      ⟨some (.object [("template", .string "guid")]), false⟩⟩, .calm⟩ ]

def updatingSession : Session :=
  ⟨⟨managerClaims, .updateNotifications "client" "kind"
    (.ok ⟨"K", false, "guid"⟩)⟩, .calm⟩

theorem references_resolved_sample :
    ∃ final trace,
      (serial anySetup).run (assigningSessions ++ [updatingSession])
          seededServer = some (final, trace) ∧
      (final.database.tables.rows .clients).map Client.templateID =
        ["guid"] ∧
      (final.database.tables.rows .kinds).map Kind.templateID = ["guid"] ∧
      Resolved final := by
  have guarded : (serial anySetup).Guarded (Careful anySetup)
      (assigningSessions ++ [updatingSession]) seededServer := by
    decide +kernel
  have given : ((serial anySetup).run (assigningSessions ++ [updatingSession])
      seededServer).any fun after =>
        decide ((after.1.database.tables.rows .clients).map
            Client.templateID = ["guid"] ∧
          (after.1.database.tables.rows .kinds).map Kind.templateID =
            ["guid"]) := by
    decide +kernel
  obtain ⟨⟨final, trace⟩, ran, given⟩ := (Option.any_eq_true _ _).mp given
  obtain ⟨client, kind⟩ := of_decide_eq_true given
  exact ⟨final, trace, ran, client, kind,
    references_never_dangle anySetup sampleTemplate .calm seededServer
      seededServer_seeded _ final trace guarded ran⟩

def deletingSession : Session :=
  ⟨⟨curatorClaims, .deleteTemplates "guid"⟩, .calm⟩

theorem deletion_leaves_reference :
    Seeded sampleTemplate .calm seededServer ∧
    ∃ final trace,
      (serial anySetup).run (assigningSessions ++ [deletingSession])
          seededServer = some (final, trace) ∧
      (final.database.tables.rows .clients).map Client.templateID =
        ["guid"] ∧
      ¬ Names (final.database.tables.rows .templates) "guid" ∧
      ((TemplatesLoader.loadTemplates "client" "kind").run
        (World.handle .calm) final.enter).1 =
          some (.error (TemplatesRepo.missing "guid")) ∧
      ¬ Resolved final := by
  have left : ((serial anySetup).run (assigningSessions ++ [deletingSession])
      seededServer).any fun after =>
        decide ((after.1.database.tables.rows .clients).map
            Client.templateID = ["guid"] ∧
          ¬ Names (after.1.database.tables.rows .templates) "guid" ∧
          ((TemplatesLoader.loadTemplates "client" "kind").run
            (World.handle .calm) after.1.enter).1 =
              some (.error (TemplatesRepo.missing "guid"))) := by
    decide +kernel
  refine ⟨seededServer_seeded, ?_⟩
  obtain ⟨⟨final, trace⟩, ran, left⟩ := (Option.any_eq_true _ _).mp left
  obtain ⟨clients, missing, failed⟩ := of_decide_eq_true left
  refine ⟨final, trace, ran, clients, missing, failed, ?_⟩
  intro resolved
  have listed : "guid" ∈ (final.database.tables.rows .clients).map
      Client.templateID := by
    rw [clients]
    exact .head _
  obtain ⟨client, member, same⟩ := List.mem_map.mp listed
  have named := resolved.clients client member
  rw [same] at named
  exact missing named

end Notifications.Web
