import Notifications.Lib.Machine
import Notifications.Models.Storing

/-!
# The default template over its history

`Seed` runs at every boot and writes the operator's file into the row of the
default template, unless that row is overridden.  `Update` overrides it, and a
row that `Seed` creates is not overridden.  So the row has the contents of the
last update since it was created, and without an update those of the last file.
-/

set_option autoImplicit false

namespace Notifications.Models

open Notifications.Lib

/-! ## Calls, one after the other -/

inductive TemplateCall where
  /-- `DB.Seed` with this file -/
  | seed (file : DefaultTemplate)
  | update (templateID : String) (template : Template)
  | create (template : Template)
  | destroy (templateID : String)

section Collated

variable [Collation]

def TemplateCall.program : TemplateCall → Prog Unit
  | seed file => Models.seed file
  | update templateID template => do
      let _ ← TemplatesRepo.update .connection templateID template
  | create template => do
      let _ ← TemplatesRepo.create .connection template
  | destroy templateID => do
      let _ ← TemplatesRepo.destroy .connection templateID

structure TemplateEvent where
  call : TemplateCall
  environment : Environment

/-- The world of a call that finds this database. -/
def Database.alone (database : Database) : World where
  database := database
  transaction := none
  jobs := []
  nextJobID := 1
  statements := 0
  services := 0

def templating : Machine Database TemplateEvent Unit where
  step database event :=
    some ((event.call.program.run (World.handle event.environment)
      database.alone).2.database, [])

/-- No statement fails, and a new template does not get the ID of the default
template. -/
structure Untroubled (event : TemplateEvent) : Prop where
  faultless : Faultless event.environment
  other : ∀ template guid, event.call = .create template →
    event.environment.serve 0 .newGUID = .ok guid →
      ¬ Collation.equal guid defaultTemplateID

/-! ## What the history says -/

def Template.contents (template : Template) : DefaultTemplate where
  name := template.name
  subject := template.subject
  text := template.text
  html := template.html
  metadata := template.metadata

/-- The default template since its row was created. -/
structure Standing where
  /-- the last file that was seeded -/
  seeded : DefaultTemplate
  /-- the last update, if there was one -/
  updated : Option DefaultTemplate

def Standing.contents (standing : Standing) : DefaultTemplate :=
  standing.updated.getD standing.seeded

/-- How a call changes the standing; `none` is a template without a row. -/
def TemplateCall.stand : TemplateCall → Option Standing → Option Standing
  | seed file, none => some ⟨file, none⟩
  | seed file, some standing => some { standing with seeded := file }
  | update templateID template, standing =>
      if Collation.equal templateID defaultTemplateID then
        standing.map fun standing =>
          { standing with updated := some template.contents }
      else standing
  | create _, standing => standing
  | destroy templateID, standing =>
      if Collation.equal templateID defaultTemplateID then none else standing

def standingAfter (events : List TemplateEvent) : Option Standing :=
  events.foldl (fun standing event => event.call.stand standing) none

def Tables.defaultTemplate (tables : Tables) : Option Template :=
  tables.lookup .templates (Collation.key [defaultTemplateID])

def Stands (tables : Tables) : Option Standing → Prop
  | none => tables.defaultTemplate = none
  | some standing => ∃ row, tables.defaultTemplate = some row ∧
      row.contents = standing.contents ∧
      row.overridden = standing.updated.isSome

def Database.seeded (database : Database) (file : DefaultTemplate)
    (environment : Environment) : Database :=
  ((seed file).run (World.handle environment) database.alone).2.database

def Template.untimed (template : Template) : Template :=
  { template with updatedAt := 0 }

/-- The tables differ in nothing but the `updated_at` of templates. -/
structure SameUntimed (before after : Tables) : Prop where
  templates : ∀ key, (after.lookup .templates key).map Template.untimed =
    (before.lookup .templates key).map Template.untimed
  others : ∀ table, table ≠ .templates → after.rows table = before.rows table

/-- What no call but `Destroy` takes from a row. -/
structure SameIdentity (old row : Template) : Prop where
  primary : row.primary = old.primary
  id : row.id = old.id
  createdAt : row.createdAt = old.createdAt

/-! ## What one call does -/

/-- The row that `Seed` writes over a row. -/
def Template.reseeded (old : Template) (file : DefaultTemplate) (now : Int) :
    Template :=
  { old with
    name := file.name
    subject := file.subject
    html := file.html
    text := file.text
    metadata := file.metadata
    updatedAt := now }

omit [Collation] in
@[simp] theorem Template.reseeded_id (old : Template) (file : DefaultTemplate)
    (now : Int) : (old.reseeded file now).id = old.id := rfl

/-- The row that `Update` writes over a row. -/
def Template.replacing (template old : Template) (now : Int) : Template :=
  { template with
    primary := old.primary
    id := old.id
    createdAt := old.createdAt
    updatedAt := now
    overridden := true }

omit [Collation] in
@[simp] theorem Template.replacing_id (template old : Template) (now : Int) :
    (template.replacing old now).id = old.id := rfl

inductive Seeds (file : DefaultTemplate) (before : Tables) : Tables → Prop
  | created {row : Template} {after : Tables}
      (absent : before.defaultTemplate = none)
      (puts : Tables.Puts .templates row before after)
      (named : row.id = defaultTemplateID) (contents : row.contents = file)
      (plain : row.overridden = false) : Seeds file before after
  | kept {old : Template} (found : before.defaultTemplate = some old)
      (overridden : old.overridden = true) : Seeds file before before
  | reseeded {old : Template} {after : Tables} (now : Int)
      (found : before.defaultTemplate = some old)
      (plain : old.overridden = false)
      (puts : Tables.Puts .templates (old.reseeded file now) before after) :
      Seeds file before after

inductive Updates (templateID : String) (template : Template)
    (before : Tables) : Tables → Prop
  | missing (absent : before.lookup .templates
    (Collation.key [templateID]) = none) :
      Updates templateID template before before
  | written {old : Template} {after : Tables} (now : Int)
      (found : before.lookup .templates (Collation.key [templateID]) = some old)
      (puts : Tables.Puts .templates (template.replacing old now) before
        after) : Updates templateID template before after

structure Destroys (templateID : String) (before after : Tables) : Prop where
  lookups : ∀ key, after.lookup .templates key =
    if key = Collation.key [templateID] then none
    else before.lookup .templates key
  others : ∀ table, table ≠ .templates → after.rows table = before.rows table

/-- `insert` of a template without a time of its own. -/
theorem insertTemplate_stores {environment : Environment}
    {database : Database} {template : Template}
    (fresh : template.createdAt = Gobble.zeroTime)
    (free : database.tables.lookup .templates
      (Collation.key [template.id]) = none) :
    Achieves environment .connection
      (TemplatesRepo.insert .connection template) database
      (Stores environment .templates database fun row => ∃ number now,
        row = { template with
          primary := number, createdAt := now, updatedAt := now }) := by
  rw [TemplatesRepo.insert, TemplatesRepo.setTemplateTimestamps, if_pos fresh,
    Program.bind_assoc]
  refine achieves_now fun now => achieves_insert free (fun text faulty => ?_) ?_
  · refine achieves_pure ⟨?_, fun faultless => absurd faultless faulty⟩
    intro wrong
    cases wrong
  · intro number after puts
    refine achieves_pure ⟨fun _ => ⟨_, ⟨number, now, rfl⟩, puts⟩, ?_⟩
    intro _
    rfl

section Calls

variable {environment : Environment} (faultless : Faultless environment)
  {database : Database}

include faultless

theorem findTemplate_achieves (templateID : String) :
    Achieves environment .connection
      (TemplatesRepo.findByID .connection templateID) database
      fun result after => after = database ∧
        ((database.tables.lookup .templates
          (Collation.key [templateID]) = none ∧
          result = (Table.templates.zero,
            some (TemplatesRepo.missing templateID))) ∨
        ∃ row, database.tables.lookup .templates
          (Collation.key [templateID]) = some row ∧
          result = (row, none)) := by
  refine (achieves_found .templates fun world reads =>
    TemplatesRepo.run_findByID reads templateID).weaken ?_
  intro result after facts
  rcases facts with ⟨⟨text, faulty, _⟩ | found, same⟩
  · exact absurd faultless faulty
  · exact ⟨same, found⟩

theorem insertTemplate_achieves {template : Template}
    (fresh : template.createdAt = Gobble.zeroTime)
    (free : database.tables.lookup .templates
      (Collation.key [template.id]) = none) :
    Achieves environment .connection
      (TemplatesRepo.insert .connection template) database
      fun result after => result.2 = none ∧ ∃ number now,
        Tables.Puts .templates { template with
          primary := number, createdAt := now, updatedAt := now }
          database.tables after.tables := by
  refine (insertTemplate_stores fresh free).weaken ?_
  intro result after facts
  obtain ⟨stored, succeeds⟩ := facts
  obtain ⟨_, ⟨number, now, rfl⟩, puts⟩ := stored (succeeds faultless)
  exact ⟨succeeds faultless, number, now, puts⟩

theorem seed_achieves (file : DefaultTemplate) :
    Achieves environment .connection (seed file) database
      fun _ after => Seeds file database.tables after.tables := by
  refine achieves_bind (findTemplate_achieves faultless _) ?_
  intro _ between facts
  rcases facts with ⟨rfl, ⟨absent, rfl⟩ | ⟨old, found, rfl⟩⟩
  · refine achieves_bind (insertTemplate_achieves faultless rfl absent) ?_
    intro result after facts
    obtain ⟨_, err⟩ := result
    obtain ⟨rfl, number, now, puts⟩ := facts
    exact achieves_pure (.created absent puts rfl rfl rfl)
  · dsimp only
    have named : Collation.key [old.id] = Collation.key [defaultTemplateID] :=
      (Tables.lookup_eq_some found).2
    split
    · rename_i overridden
      exact achieves_pure (.kept found overridden)
    · rename_i plain
      refine achieves_now fun now => ?_
      refine @achieves_update _ _ _ _ _ .templates (old.reseeded file now) old
        _ _ ?_ rfl (fun text faulty => absurd faultless faulty) ?_
      · exact (congrArg _ named).trans found
      · intro after puts
        exact achieves_pure (.reseeded now found (by simpa using plain) puts)

theorem updateTemplate_achieves (templateID : String) (template : Template) :
    Achieves environment .connection
      (TemplatesRepo.update .connection templateID template) database
      fun _ after => Updates templateID template database.tables
        after.tables := by
  refine achieves_bind (findTemplate_achieves faultless templateID) ?_
  intro _ between facts
  rcases facts with ⟨rfl, ⟨absent, rfl⟩ | ⟨old, found, rfl⟩⟩
  · exact achieves_pure (.missing absent)
  · have named : Collation.key [old.id] = Collation.key [templateID] :=
      (Tables.lookup_eq_some found).2
    refine achieves_now fun now => ?_
    refine @achieves_update _ _ _ _ _ .templates (template.replacing old now)
      old _ _ ?_ rfl (fun text faulty => absurd faultless faulty) ?_
    · exact (congrArg _ named).trans found
    · intro after puts
      exact achieves_pure (.written now found puts)

theorem destroyTemplate_achieves (templateID : String) :
    Achieves environment .connection
      (TemplatesRepo.destroy .connection templateID) database
      fun _ after => Destroys templateID database.tables after.tables := by
  refine achieves_bind (findTemplate_achieves faultless templateID) ?_
  intro _ between facts
  rcases facts with ⟨rfl, ⟨absent, rfl⟩ | ⟨old, found, rfl⟩⟩
  · refine achieves_pure ⟨fun key => ?_, fun _ _ => rfl⟩
    split
    · rename_i same
      rw [same, absent]
    · rfl
  · refine achieves_bind (deleteAll_achieves [old] _) ?_
    intro result after facts
    obtain ⟨count, err⟩ := result
    obtain ⟨deleted, calm⟩ := facts
    refine achieves_pure ⟨fun key => ?_, (deleted (calm faultless)).2⟩
    rw [(deleted (calm faultless)).1 key]
    obtain ⟨member, named⟩ := Tables.lookup_eq_some found
    cases stored : between.tables.lookup .templates key with
    | none => simp
    | some row =>
        obtain ⟨rowMember, keyed⟩ := Tables.lookup_eq_some stored
        by_cases same : key = Collation.key [templateID]
        · subst same
          rw [found, Option.some.injEq] at stored
          simp [stored, Tables.hits, Option.filter]
        · have apart : ¬ Tables.hits .templates old row = true := by
            intro hit
            have equal := (between.sound.primaryKey .templates).eq_of_mem
              rowMember member (Tables.hits_iff.mp hit)
            rw [← keyed, equal, named] at same
            exact same rfl
          simp [same, apart, Option.filter]

omit faultless in
theorem setTemplateTimestamps_achieves (template : Template) :
    Achieves environment .connection
      (TemplatesRepo.setTemplateTimestamps template) database
      fun row after => after = database ∧ row.id = template.id := by
  rw [TemplatesRepo.setTemplateTimestamps]
  split
  · exact achieves_now fun now => achieves_pure ⟨rfl, rfl⟩
  · exact achieves_pure ⟨rfl, rfl⟩

omit faultless in
/-- Another template is stored, or refused for its ID. -/
theorem insertOther_achieves {template : Template}
    (other : ¬ Collation.equal template.id defaultTemplateID) :
    Achieves environment .connection
      (TemplatesRepo.insert .connection template) database
      fun _ after => after.tables.defaultTemplate =
        database.tables.defaultTemplate := by
  refine achieves_bind (setTemplateTimestamps_achieves template) ?_
  intro row between facts
  obtain ⟨rfl, same⟩ := facts
  refine achieves_sql (fun text faulty => achieves_pure rfl) ?_
  have kept : (between.execute (.insert .templates row)).2.tables.defaultTemplate
      = between.tables.defaultTemplate := by
    simp only [Database.execute, Statement.execute]
    split
    · rfl
    · rename_i free
      rw [Tables.clashes_eq, Bool.not_eq_true, Option.isSome_eq_false_iff,
        Option.isNone_iff_eq_none] at free
      rw [Tables.defaultTemplate, Tables.lookup_insert free, if_neg]
      · rfl
      · intro wrong
        rw [← same] at other
        simp [Table.uniqueKey] at wrong other
        exact other wrong.symm
  cases (between.execute (.insert .templates row)).1 <;>
    exact achieves_pure kept

end Calls

/-! ## What the calls do to the row -/

section Effects

variable {file : DefaultTemplate} {templateID : String} {template : Template}
  {before after : Tables}

theorem Tables.Puts.defaultTemplate {row : Template}
    (puts : Tables.Puts .templates row before after)
    (named : Collation.key [row.id] = Collation.key [defaultTemplateID]) :
    after.defaultTemplate = some row := by
  rw [Tables.defaultTemplate, ← named]
  exact puts.stored

theorem id_of_found {old : Template}
    (found : before.lookup .templates (Collation.key [templateID]) = some old) :
    Collation.key [old.id] = Collation.key [templateID] :=
  (Tables.lookup_eq_some found).2

section Puts

variable {old : Template} {now : Int}

theorem reseeded_here (found : before.defaultTemplate = some old)
    (puts : Tables.Puts .templates (old.reseeded file now) before after) :
    after.defaultTemplate = some (old.reseeded file now) := by
  apply puts.defaultTemplate
  rw [Template.reseeded_id, id_of_found found]

theorem written_here (found : before.defaultTemplate = some old)
    (puts : Tables.Puts .templates (template.replacing old now) before
      after) :
    after.defaultTemplate = some (template.replacing old now) := by
  apply puts.defaultTemplate
  rw [Template.replacing_id, id_of_found found]

theorem written_elsewhere
    (other : ¬ Collation.equal templateID defaultTemplateID)
    (found : before.lookup .templates (Collation.key [templateID]) = some old)
    (puts : Tables.Puts .templates (template.replacing old now) before
      after) : after.defaultTemplate = before.defaultTemplate := by
  rw [Tables.defaultTemplate, puts.lookup, Table.uniqueKey,
    Template.replacing_id, id_of_found found, if_neg]
  · rfl
  · intro same
    simp only [Collation.key_cons_eq, and_true] at same
    exact other (Collation.equal_iff.mpr same.symm)

end Puts

theorem Seeds.stands {standing : Option Standing}
    (seeds : Seeds file before after) (stands : Stands before standing) :
    Stands after ((TemplateCall.seed file).stand standing) := by
  cases standing with
  | none =>
      have absent : before.defaultTemplate = none := stands
      cases seeds with
      | created _ puts named contents plain =>
          exact ⟨_, puts.defaultTemplate (by rw [named]), contents, plain⟩
      | kept found _ =>
          rw [absent] at found
          cases found
      | reseeded now found _ _ =>
          rw [absent] at found
          cases found
  | some standing =>
      obtain ⟨row, stored, contents, overridden⟩ := stands
      cases seeds with
      | created absent _ _ _ _ =>
          rw [stored] at absent
          cases absent
      | kept found custom =>
          rw [stored, Option.some.injEq] at found
          subst found
          refine ⟨row, stored, ?_, overridden⟩
          obtain ⟨update, given⟩ := Option.isSome_iff_exists.mp
            (overridden.symm.trans custom)
          simpa [Standing.contents, given] using contents
      | reseeded now found plain puts =>
          rw [stored, Option.some.injEq] at found
          subst found
          refine ⟨_, reseeded_here stored puts, ?_, overridden⟩
          have given : standing.updated = none := by
            simpa [plain] using overridden.symm
          simp [Standing.contents, given, Template.contents,
            Template.reseeded]

theorem Seeds.sameIdentity {old : Template}
    (seeds : Seeds file before after)
    (stored : before.defaultTemplate = some old) :
    ∃ row, after.defaultTemplate = some row ∧ SameIdentity old row := by
  cases seeds with
  | created absent _ _ _ _ =>
      rw [stored] at absent
      cases absent
  | kept found _ => exact ⟨old, stored, rfl, rfl, rfl⟩
  | reseeded now found _ puts =>
      rw [stored, Option.some.injEq] at found
      subst found
      exact ⟨_, reseeded_here stored puts, rfl, rfl, rfl⟩

theorem Seeds.elsewhere (seeds : Seeds file before after) {key : List String}
    (other : key ≠ Collation.key [defaultTemplateID]) :
    after.lookup .templates key = before.lookup .templates key := by
  have apart {row : Template} (puts : Tables.Puts .templates row before after)
      (named : Collation.key [row.id] = Collation.key [defaultTemplateID]) :
      after.lookup .templates key = before.lookup .templates key := by
    rw [puts.lookup, if_neg]
    rwa [Table.uniqueKey, named]
  cases seeds with
  | created _ puts named _ _ => exact apart puts (by rw [named])
  | kept _ _ => rfl
  | reseeded now found _ puts =>
      apply apart puts
      rw [Template.reseeded_id, id_of_found found]

theorem Seeds.others (seeds : Seeds file before after) (table : Table)
    (other : table ≠ .templates) : after.rows table = before.rows table := by
  cases seeds with
  | created _ puts _ _ _ => exact puts.others table other
  | kept _ _ => rfl
  | reseeded _ _ _ puts => exact puts.others table other

/-- After `Seed` the row is overridden or has the contents of the file. -/
theorem Seeds.settled (seeds : Seeds file before after) :
    ∃ row, after.defaultTemplate = some row ∧
      (row.overridden = false → row.contents = file) := by
  cases seeds with
  | created _ puts named contents _ =>
      exact ⟨_, puts.defaultTemplate (by rw [named]), fun _ => contents⟩
  | kept found overridden =>
      refine ⟨_, found, ?_⟩
      intro plain
      rw [overridden] at plain
      cases plain
  | reseeded now found _ puts =>
      exact ⟨_, reseeded_here found puts, fun _ => rfl⟩

theorem Seeds.again {again : Tables} (first : Seeds file before after)
    (second : Seeds file after again) : SameUntimed after again := by
  obtain ⟨row, stored, settled⟩ := first.settled
  refine ⟨?_, second.others⟩
  intro key
  cases second with
  | created absent _ _ _ _ =>
      rw [stored] at absent
      cases absent
  | kept _ _ => rfl
  | reseeded now found plain puts =>
      rw [stored, Option.some.injEq] at found
      subst found
      have named := id_of_found stored
      rw [puts.lookup]
      split
      · rename_i same
        have here : after.lookup .templates key = some row := by
          rw [same, ← stored]
          exact congrArg (after.lookup .templates) named
        rw [here, Option.map_some, Option.map_some, ← settled plain]
        rfl
      · rfl

theorem Updates.stands {standing : Option Standing}
    (updates : Updates templateID template before after)
    (stands : Stands before standing) :
    Stands after ((TemplateCall.update templateID template).stand
      standing) := by
  rw [TemplateCall.stand]
  split
  · rename_i same
    have here : before.lookup .templates (Collation.key [templateID]) =
        before.defaultTemplate := by
      rw [Tables.defaultTemplate, Collation.key_congr same]
    cases standing with
    | none =>
        have absent : before.defaultTemplate = none := stands
        cases updates with
        | missing _ => exact absent
        | written now found _ =>
            rw [← here, found] at absent
            cases absent
    | some standing =>
        obtain ⟨row, stored, _, _⟩ := stands
        cases updates with
        | missing absent =>
            rw [← here, absent] at stored
            cases stored
        | written now found puts =>
            exact ⟨_, written_here (here ▸ found) puts, rfl, rfl⟩
  · rename_i other
    cases updates with
    | missing _ => exact stands
    | written now found puts =>
        have kept := written_elsewhere other found puts
        cases standing with
        | none => exact kept.trans stands
        | some standing =>
            obtain ⟨row, stored, rest⟩ := stands
            exact ⟨row, kept.trans stored, rest⟩

theorem Updates.sameIdentity {old : Template}
    (updates : Updates templateID template before after)
    (stored : before.defaultTemplate = some old) :
    ∃ row, after.defaultTemplate = some row ∧ SameIdentity old row := by
  cases updates with
  | missing _ => exact ⟨old, stored, rfl, rfl, rfl⟩
  | written now found puts =>
      by_cases same : Collation.equal templateID defaultTemplateID
      · rw [Tables.defaultTemplate, ← Collation.key_congr same, found,
          Option.some.injEq] at stored
        subst stored
        refine ⟨_, written_here ?_ puts, rfl, rfl, rfl⟩
        rw [Tables.defaultTemplate, ← found, Collation.key_congr same]
      · exact ⟨old, (written_elsewhere same found puts).trans stored, rfl, rfl,
          rfl⟩

end Effects

/-! ## One call and the row -/

section Steps

variable {environment : Environment} {database : Database}

theorem run_achieves {α : Type} {program : Prog α}
    {post : α → Database → Prop}
    (achieves : Achieves environment .connection program database post) :
    ∃ value, post value
      (program.run (World.handle environment) database.alone).2.database := by
  obtain ⟨value, after, count, ran, holds⟩ := achieves database.alone rfl
  rw [ran]
  exact ⟨value, holds⟩

theorem run_ignored {α : Type} {program : Prog α} :
    ((do let _ ← program : Prog Unit).run (World.handle environment)
      database.alone).2 =
        (program.run (World.handle environment) database.alone).2 :=
  Program.run_bind_ret _ (fun _ => ⟨_, rfl⟩) _

theorem run_createOther {template : Template}
    (other : ∀ guid, environment.serve 0 .newGUID = .ok guid →
      ¬ Collation.equal guid defaultTemplateID) :
    ((TemplatesRepo.create .connection template).run (World.handle
      environment) database.alone).2.database.tables.defaultTemplate =
        database.tables.defaultTemplate := by
  rw [TemplatesRepo.create, Program.perform_bind, Program.run_call]
  simp only [World.handle]
  cases drawn : environment.serve database.alone.services .newGUID with
  | error text => rfl
  | ok id =>
      obtain ⟨result, after, count, ran, kept⟩ :=
        @insertOther_achieves _ environment database
          { template with id := id } (other id drawn)
          { database.alone with services := database.alone.services + 1 } rfl
      dsimp only
      rw [ran]
      exact kept

theorem Destroys.defaultTemplate {templateID : String}
    {before after : Tables} (destroys : Destroys templateID before after) :
    after.defaultTemplate =
      if Collation.equal templateID defaultTemplateID then none
      else before.defaultTemplate := by
  rw [Tables.defaultTemplate, destroys.lookups]
  by_cases same : Collation.equal templateID defaultTemplateID
  · rw [if_pos, if_pos same]
    exact (Collation.key_congr same).symm
  · rw [if_neg, if_neg same]
    · rfl
    · intro wrong
      simp only [Collation.key_cons_eq, and_true] at wrong
      exact same (Collation.equal_iff.mpr wrong.symm)

theorem Stands.congr {before after : Tables} {standing : Option Standing}
    (stands : Stands before standing)
    (same : after.defaultTemplate = before.defaultTemplate) :
    Stands after standing := by
  cases standing with
  | none => exact same.trans stands
  | some standing =>
      obtain ⟨row, stored, rest⟩ := stands
      exact ⟨row, same.trans stored, rest⟩

theorem seeded_seeds (faultless : Faultless environment)
    (file : DefaultTemplate) :
    Seeds file database.tables (database.seeded file environment).tables :=
  (run_achieves (seed_achieves faultless file)).choose_spec

theorem step_stands {event : TemplateEvent} {next : Database}
    {shown : List Unit} {standing : Option Standing}
    (stands : Stands database.tables standing)
    (untroubled : Untroubled event)
    (stepped : templating.step database event = some (next, shown)) :
    Stands next.tables (event.call.stand standing) := by
  obtain ⟨call, environment⟩ := event
  obtain ⟨faultless, other⟩ := untroubled
  cases stepped
  cases call with
  | seed file => exact (seeded_seeds faultless file).stands stands
  | update templateID template =>
      obtain ⟨_, updates⟩ := @run_achieves _ environment database _ _ _
        (updateTemplate_achieves faultless templateID template)
      rw [TemplateCall.program, run_ignored]
      exact updates.stands stands
  | create template =>
      rw [TemplateCall.program, run_ignored]
      exact stands.congr (run_createOther (other template · rfl))
  | destroy templateID =>
      obtain ⟨_, destroys⟩ := @run_achieves _ environment database _ _ _
        (destroyTemplate_achieves faultless templateID)
      have gone := destroys.defaultTemplate
      rw [TemplateCall.program, run_ignored]
      simp only [TemplateCall.stand]
      split
      · rename_i same
        rw [if_pos same] at gone
        exact gone
      · rename_i different
        rw [if_neg different] at gone
        exact stands.congr gone

/-- The row stays the same row until it is destroyed. -/
theorem step_sameIdentity {event : TemplateEvent} {next : Database}
    {shown : List Unit} {old : Template}
    (stored : database.tables.defaultTemplate = some old)
    (untroubled : Untroubled event)
    (spares : ∀ id, event.call = .destroy id →
      ¬ Collation.equal id defaultTemplateID)
    (stepped : templating.step database event = some (next, shown)) :
    ∃ row, next.tables.defaultTemplate = some row ∧ SameIdentity old row := by
  obtain ⟨call, environment⟩ := event
  obtain ⟨faultless, other⟩ := untroubled
  cases stepped
  cases call with
  | seed file => exact (seeded_seeds faultless file).sameIdentity stored
  | update templateID template =>
      obtain ⟨_, updates⟩ := @run_achieves _ environment database _ _ _
        (updateTemplate_achieves faultless templateID template)
      rw [TemplateCall.program, run_ignored]
      exact updates.sameIdentity stored
  | create template =>
      rw [TemplateCall.program, run_ignored,
        run_createOther (other template · rfl)]
      exact ⟨old, stored, rfl, rfl, rfl⟩
  | destroy templateID =>
      obtain ⟨_, destroys⟩ := @run_achieves _ environment database _ _ _
        (destroyTemplate_achieves faultless templateID)
      have different := spares templateID rfl
      have kept := destroys.defaultTemplate
      rw [if_neg different] at kept
      rw [TemplateCall.program, run_ignored]
      exact ⟨old, kept.trans stored, rfl, rfl, rfl⟩

end Steps

/-! ## Whole histories -/

omit [Collation] in
theorem SameIdentity.trans {first second third : Template}
    (one : SameIdentity first second) (other : SameIdentity second third) :
    SameIdentity first third where
  primary := other.primary.trans one.primary
  id := other.id.trans one.id
  createdAt := other.createdAt.trans one.createdAt

theorem run_stands {events : List TemplateEvent} {start final : Database}
    {trace : List Unit} {standing : Option Standing}
    (stands : Stands start.tables standing)
    (untroubled : ∀ event ∈ events, Untroubled event)
    (ran : templating.run events start = some (final, trace)) :
    Stands final.tables (events.foldl
      (fun standing event => event.call.stand standing) standing) := by
  induction events generalizing start standing trace with
  | nil =>
      cases ran
      exact stands
  | cons event rest ih =>
      obtain ⟨next, shown, later, stepped, ran, _⟩ := templating.run_cons ran
      exact ih (step_stands stands (untroubled event (.head _)) stepped)
        (fun event member => untroubled event (.tail _ member)) ran

theorem run_sameIdentity {events : List TemplateEvent}
    {start final : Database} {trace : List Unit} {old : Template}
    (stored : start.tables.defaultTemplate = some old)
    (untroubled : ∀ event ∈ events, Untroubled event)
    (spares : ∀ event ∈ events, ∀ id, event.call = .destroy id →
      ¬ Collation.equal id defaultTemplateID)
    (ran : templating.run events start = some (final, trace)) :
    ∃ row, final.tables.defaultTemplate = some row ∧
      SameIdentity old row := by
  induction events generalizing start old trace with
  | nil =>
      cases ran
      exact ⟨old, stored, rfl, rfl, rfl⟩
  | cons event rest ih =>
      obtain ⟨next, shown, later, stepped, ran, _⟩ := templating.run_cons ran
      obtain ⟨row, found, same⟩ := step_sameIdentity stored
        (untroubled event (.head _)) (spares event (.head _)) stepped
      obtain ⟨last, there, identity⟩ := ih found
        (fun event member => untroubled event (.tail _ member))
        (fun event member => spares event (.tail _ member)) ran
      exact ⟨last, there, same.trans identity⟩

/-- The default template is the last update since its row was created, or else
the last file; its row stays the same row; and `Seed` is idempotent and leaves
the other templates alone. -/
theorem default_template_follows_history (start : Database)
    (absent : start.tables.defaultTemplate = none)
    (events : List TemplateEvent) (final : Database) (trace : List Unit)
    (untroubled : ∀ event ∈ events, Untroubled event)
    (ran : templating.run events start = some (final, trace)) :
    Stands final.tables (standingAfter events) ∧
    (∀ earlier later middle shown, events = earlier ++ later →
      templating.run earlier start = some (middle, shown) →
      (∀ event ∈ later, ∀ id, event.call = .destroy id →
        ¬ Collation.equal id defaultTemplateID) →
      ∀ old, middle.tables.defaultTemplate = some old →
        ∃ row, final.tables.defaultTemplate = some row ∧
          SameIdentity old row) ∧
    ∀ file first, Faultless first →
      (∀ second, Faultless second →
        SameUntimed (final.seeded file first).tables
          ((final.seeded file first).seeded file second).tables) ∧
      ∀ template : Template,
        ¬ Collation.equal template.id defaultTemplateID →
        (template ∈ (final.seeded file first).tables.rows .templates ↔
          template ∈ final.tables.rows .templates) := by
  refine ⟨run_stands absent untroubled ran, ?_, ?_⟩
  · intro earlier later middle shown split early spares old stored
    subst split
    obtain ⟨rest, onward⟩ := templating.run_of_append early ran
    exact run_sameIdentity stored
      (fun event member => untroubled event (List.mem_append_right _ member))
      spares onward
  · intro file first faultless
    have once := @seeded_seeds _ _ final faultless file
    constructor
    · intro second calm
      exact once.again (seeded_seeds calm file)
    · intro template other
      have apart : Collation.key [template.id] ≠
          Collation.key [defaultTemplateID] := by
        simpa using other
      have same := once.elsewhere apart
      have listed (database : Database) :
          template ∈ database.tables.rows .templates ↔
            database.tables.lookup .templates (Collation.key [template.id]) =
              some template := by
        rw [database.sound.lookup_iff]
        exact ⟨fun member => ⟨member, rfl⟩, And.left⟩
      rw [listed, listed, same]

end Collated

attribute [local instance] Collation.binary

def sampleHistory : List TemplateEvent :=
  [ ⟨.seed ⟨"Default", "S", "T", "H", "{}"⟩, .calm⟩,
    ⟨.create ⟨0, "", "Other", "", "", "", "", 0, 0, false⟩, .calm⟩,
    ⟨.update "default" ⟨0, "", "Mine", "s", "t", "h", "", 0, 0, false⟩,
      .calm⟩,
    ⟨.seed ⟨"New", "S", "T", "H", "{}"⟩, .calm⟩ ]

theorem default_template_follows_history_sample :
    ∃ final trace,
      templating.run sampleHistory (.after []) = some (final, trace) ∧
      Stands final.tables (standingAfter sampleHistory) ∧
      (final.tables.rows .templates).map Template.name =
        ["Mine", "Other"] := by
  have untroubled : ∀ event ∈ sampleHistory, Untroubled event := by
    intro event member
    simp only [sampleHistory, List.mem_cons, List.not_mem_nil,
      or_false] at member
    rcases member with rfl | rfl | rfl | rfl <;>
      refine ⟨fun _ => rfl, fun _ guid _ drawn => ?_⟩ <;>
      · cases drawn
        decide
  have ran : (templating.run sampleHistory (.after [])).any fun after =>
      decide ((after.1.tables.rows .templates).map Template.name =
        ["Mine", "Other"]) := by
    decide +kernel
  obtain ⟨⟨final, trace⟩, ran, names⟩ := (Option.any_eq_true _ _).mp ran
  exact ⟨final, trace, ran, (default_template_follows_history (.after []) rfl
    sampleHistory final trace untroubled ran).1, of_decide_eq_true names⟩

end Notifications.Models
