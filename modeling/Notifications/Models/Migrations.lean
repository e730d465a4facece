import Mathlib.Data.List.Pairwise
import Mathlib.Data.List.Sort
import Mathlib.Data.String.Basic
import Mathlib.Data.Sum.Order
import Notifications.Lib.Machine

/-!
# Migrations

`Exec` of the vendored sql-migrate, which `DB.migrate` calls at every boot of
every instance.  Each instance plans its migrations from the records it finds,
and then works on its own; between two of its statements the others go on.

A statement that defines a table is not undone by a rollback, so the records
are all that a transaction protects.  A number beyond 64 bits is a panic once
it is compared with another one.
-/

set_option autoImplicit false

namespace Notifications.Models

open Notifications.Lib

structure Migration where
  id : String
  up : List String
  deriving DecidableEq, Repr

namespace Migration

/-! ## Order -/

/-- The digits that `^(\d+).*$` finds. -/
def numberPrefix (id : String) : List Char :=
  if '\n' ∈ id.toList then [] else id.toList.takeWhile Char.isDigit

def isNumeric (id : String) : Bool := numberPrefix id ≠ []

def number (id : String) : Nat := Nat.ofDigitChars 10 (numberPrefix id) 0

/-- `VersionInt`, which panics if the number is no `int64`. -/
def versionInt (id : String) : Option Nat :=
  if number id < 2 ^ 63 then some (number id) else none

def less (one other : String) : Option Bool :=
  match isNumeric one, isNumeric other with
  | true, true => do
      let version ← versionInt one
      some (decide (version < (← versionInt other)))
  | true, false => some true
  | false, true => some false
  | false, false => some (decide (one < other))

/-- `sort.Sort(byId(...))`.  A number that is too large panics if there is any
other number, as no sort can do without comparing the two. -/
def sortById {α : Type} (id : α → String) (items : List α) :
    Option (List α) :=
  if items.Pairwise fun one other =>
      (less (id one) (id other)).isSome = true then
    some (items.insertionSort fun one other =>
      less (id other) (id one) ≠ some true)
  else
    none

/-- Numbers come first, in their order, and then the other names. -/
def key (id : String) : ℕ ⊕ₗ String :=
  if isNumeric id then toLex (.inl (number id)) else toLex (.inr id)

theorem versionInt_eq_some {id : String} {version : Nat}
    (fits : versionInt id = some version) : version = number id := by
  rw [versionInt] at fits
  split at fits
  · exact (Option.some.inj fits).symm
  · cases fits

theorem less_eq {one other : String} (fine : (less one other).isSome = true) :
    less one other = some (decide (key one < key other)) := by
  rw [less] at fine ⊢
  rw [key, key]
  revert fine
  cases isNumeric one with
  | true =>
      cases isNumeric other with
      | true =>
          cases first : versionInt one with
          | none => simp
          | some version =>
              cases second : versionInt other with
              | none => simp
              | some later =>
                  simp [versionInt_eq_some first, versionInt_eq_some second]
      | false => simp
  | false =>
      cases isNumeric other with
      | true => simp
      | false => simp

theorem key_lt_of_less {one other : String}
    (less : less one other = some true) : key one < key other := by
  rw [less_eq (by rw [less]; rfl)] at less
  simpa using less

theorem less_isSome_symm {one other : String}
    (fine : (less one other).isSome = true) :
    (less other one).isSome = true := by
  rw [less] at fine ⊢
  revert fine
  cases isNumeric one with
  | true =>
      cases isNumeric other with
      | true => cases versionInt one <;> cases versionInt other <;> simp
      | false => simp
  | false =>
      cases isNumeric other with
      | true => simp
      | false => simp

section Sorting

variable {α : Type} {id : α → String}

/-- However the items are found, they end up in the order of their names. -/
theorem sortById_of_perm {items sorted : List α} (perm : items.Perm sorted)
    (ascending : sorted.Pairwise fun one other =>
      less (id one) (id other) = some true) :
    sortById id items = some sorted := by
  let fine (one other : α) : Prop := (less (id one) (id other)).isSome = true
  let before (one other : α) : Prop := key (id one) ≤ key (id other)
  have : Std.Symm fine := ⟨fun _ _ => less_isSome_symm⟩
  have compared : items.Pairwise fine :=
    (perm.pairwise_iff less_isSome_symm).mpr
      (ascending.imp fun less => by rw [less]; rfl)
  rw [sortById, if_pos compared]
  have : Std.Total before := ⟨fun _ _ => le_total _ _⟩
  have : IsTrans α before := ⟨fun _ _ _ => le_trans⟩
  have keyed : (items.insertionSort fun one other =>
      less (id other) (id one) ≠ some true) = items.insertionSort before := by
    have mapped := List.map_insertionSort (fun one other : α =>
      less (id other) (id one) ≠ some true) before (fun item => item) items ?_
    · simpa using mapped
    · intro one listed other present
      by_cases same : other = one
      · subst same
        have reflexive : before other other := le_refl _
        simp only [reflexive, iff_true]
        intro itself
        exact lt_irrefl _ (key_lt_of_less itself)
      · rw [less_eq (compared.forall present listed same)]
        simp [before]
  rw [keyed]
  have strict : sorted.Pairwise before := ascending.imp fun less =>
    le_of_lt (key_lt_of_less less)
  have sort : (items.insertionSort before).Perm sorted :=
    (List.perm_insertionSort before items).trans perm
  have apart : sorted.Pairwise fun one other => key (id one) ≠ key (id other) :=
    ascending.imp fun less => ne_of_lt (key_lt_of_less less)
  congr 1
  refine sort.eq_of_pairwise ?_ (List.pairwise_insertionSort before items)
    strict
  intro one other listed present first second
  by_contra different
  have : Std.Symm fun one other : α => key (id one) ≠ key (id other) :=
    ⟨fun _ _ => Ne.symm⟩
  exact apart.forall (sort.subset listed) present different
    (le_antisymm first second)

end Sorting

/-! ## Plans -/

/-- The loop of `ToApply`: what follows the current migration, which is nothing
when it is not there. -/
def following (current : String) : List Migration → List Migration
  | [] => []
  | migration :: rest =>
      if migration.id = current then rest else following current rest

/-- `ToApply` in the direction `Up`. -/
def toApply (migrations : List Migration) (current : String) :
    List Migration :=
  if current = "" then migrations else following current migrations

/-- `PlanMigration`, from the files of the directory and the rows of the
table; with all migrations, in the order of `FindMigrations`. -/
def planMigration (files : List Migration) (rows : List String) :
    Option (List Migration × List Migration) := do
  let migrations ← sortById Migration.id files
  let existing ← sortById (fun row => row) rows
  some (migrations, toApply migrations (existing.getLast?.getD ""))

end Migration

/-! ## Boots next to each other -/

/-- Where an instance is in the loop of `ExecMax`; a record that is inserted
still has to be committed. -/
inductive Phase where
  | next (pending : List Migration)
  | statements (migration : Migration) (left : List String)
      (pending : List Migration)
  | inserted (migration : Migration) (pending : List Migration)
  | failed
  | finished
  deriving DecidableEq

structure Instance where
  migrations : List Migration
  phase : Phase
  deriving DecidableEq

/-- The committed rows, in the order in which they were, and the instances. -/
structure Booting where
  records : List String
  instances : List Instance
  deriving DecidableEq

/-- How a statement ends: a commit can be lost after it took effect. -/
inductive Ending where
  | ok
  | error
  | lost
  deriving DecidableEq

inductive BootEvent where
  /-- an instance reads its files, and the rows of the table in some order -/
  | plan (files : List Migration) (rows : List String)
  | step (index : Nat) (ending : Ending)
  deriving DecidableEq

/-- A statement of a migration and whether it succeeded, or the end of
`ExecMax`, and the records at that moment. -/
inductive Shown where
  | executed (migration : Migration) (statement : String) (succeeded : Bool)
      (records : List String)
  | finished (migrations : List Migration) (records : List String)
  deriving DecidableEq

namespace Booting

/-- Another instance holds the key that is to be inserted. -/
def locked (state : Booting) (id : String) : Bool :=
  state.instances.any fun other =>
    match other.phase with
    | .inserted migration _ => migration.id = id
    | _ => false

/-- The next statement of an instance: its next phase, the committed rows, and
what is shown.  An insert waits for the key, until it times out. -/
def advance (state : Booting) (migrations : List Migration) :
    Phase → Ending → Option (Phase × List String × List Shown)
  | .next [], _ =>
      some (.finished, state.records, [.finished migrations state.records])
  | .next (migration :: pending), .ok =>
      some (.statements migration migration.up pending, state.records, [])
  | .next (_ :: _), _ => some (.failed, state.records, [])
  | .statements migration (statement :: left) pending, .ok =>
      some (.statements migration left pending, state.records,
        [.executed migration statement true state.records])
  | .statements migration (statement :: _) _, _ =>
      some (.failed, state.records,
        [.executed migration statement false state.records])
  | .statements migration [] pending, .ok =>
      if state.locked migration.id then none
      else if migration.id ∈ state.records then
        some (.failed, state.records, [])
      else some (.inserted migration pending, state.records, [])
  | .statements _ [] _, _ => some (.failed, state.records, [])
  | .inserted migration pending, .ok =>
      some (.next pending, state.records ++ [migration.id], [])
  | .inserted _ _, .error => some (.failed, state.records, [])
  | .inserted migration _, .lost =>
      some (.failed, state.records ++ [migration.id], [])
  | .failed, _ => none
  | .finished, _ => none

/-- An instance with its plan; a panic ends it. -/
def boot (files : List Migration) (rows : List String) : Instance :=
  match Migration.planMigration files rows with
  | some (migrations, pending) => ⟨migrations, .next pending⟩
  | none => ⟨[], .failed⟩

def step (state : Booting) : BootEvent → Option (Booting × List Shown)
  | .plan files rows =>
      if rows.isPerm state.records then
        some ({ state with
          instances := state.instances ++ [boot files rows] }, [])
      else none
  | .step index ending => do
      let booting ← state.instances[index]?
      let (phase, records, shown) ←
        state.advance booting.migrations booting.phase ending
      some (⟨records, state.instances.set index { booting with phase }⟩, shown)

def machine : Machine Booting BootEvent Shown := ⟨step⟩

end Booting

/-! ## What holds of the records -/

section Soundness

/-- Every version's migrations in the order of their names, the later ones
after all that were there before. -/
structure Migration.Chain (master : List Migration) : Prop where
  ascending : master.Pairwise fun one other =>
    Migration.less one.id other.id = some true
  named : ∀ migration ∈ master, migration.id ≠ ""

/-- An instance has the files of a version, which the directory lists in any
order. -/
def BootEvent.Deploys (master : List Migration) : BootEvent → Prop
  | .plan files _ => ∃ version, files.Perm (master.take version)
  | .step _ _ => True

/-- A statement has been executed without an error. -/
def Migration.Done (trace : List Shown) (migration : Migration)
    (statement : String) : Prop :=
  ∃ records, Shown.executed migration statement true records ∈ trace

def Phase.holds : Phase → Bool
  | .inserted _ _ => true
  | _ => false

/-- All migrations before the one at hand are recorded, and none of its own
statements has been left out. -/
def Phase.Fits (trace : List Shown) (count : Nat)
    (migrations : List Migration) : Phase → Prop
  | .next pending => ∃ place ≤ count, place ≤ migrations.length ∧
      migrations.drop place = pending
  | .statements migration left pending => ∃ place ≤ count,
      migrations.drop place = migration :: pending ∧
        ∃ past, migration.up = past ++ left ∧
          ∀ statement ∈ past, migration.Done trace statement
  | .inserted migration pending =>
      migrations.drop count = migration :: pending ∧
        ∀ statement ∈ migration.up, migration.Done trace statement
  | .failed => True
  | .finished => True

structure Booting.Sound (master : List Migration) (old : List String)
    (trace : List Shown) (state : Booting) : Prop where
  recorded : state.records = (master.take state.records.length).map Migration.id
  versions : ∀ booting ∈ state.instances, booting.migrations <+: master
  fits : ∀ booting ∈ state.instances,
    booting.phase.Fits trace state.records.length booting.migrations
  alone : ∀ (first second : Nat) (one other : Instance),
    state.instances[first]? = some one →
      state.instances[second]? = some other → one.phase.holds = true →
        other.phase.holds = true → first = second
  complete : ∀ migration ∈ master, migration.id ∈ state.records →
    migration.id ∉ old →
      ∀ statement ∈ migration.up, migration.Done trace statement

def Shown.InOrder (master : List Migration) : Shown → Prop
  | .executed migration statement _ records => ∃ before after,
      master = before ++ migration :: after ∧ statement ∈ migration.up ∧
        before.map Migration.id <+: records ∧
          records <+: master.map Migration.id
  | .finished migrations records =>
      migrations.map Migration.id <+: records ∧
        records <+: master.map Migration.id

variable {master : List Migration}

theorem Migration.Chain.distinct (chain : Migration.Chain master) :
    (master.map Migration.id).Nodup := by
  rw [List.Nodup, List.pairwise_map]
  refine chain.ascending.imp ?_
  intro one other less same
  have before := Migration.key_lt_of_less less
  rw [same] at before
  exact lt_irrefl _ before

theorem Migration.Done.mono {trace later : List Shown} {migration : Migration}
    {statement : String} (done : migration.Done trace statement) :
    migration.Done (trace ++ later) statement := by
  obtain ⟨records, member⟩ := done
  exact ⟨records, List.mem_append_left _ member⟩

/-- More records and a longer trace, for an instance that holds no key. -/
theorem Phase.Fits.grow {trace later : List Shown} {count more : Nat}
    {migrations : List Migration} {phase : Phase}
    (fits : phase.Fits trace count migrations) (most : count ≤ more)
    (free : phase.holds = true → more = count) :
    phase.Fits (trace ++ later) more migrations := by
  cases phase with
  | next pending =>
      obtain ⟨place, reached, inside, same⟩ := fits
      exact ⟨place, by omega, inside, same⟩
  | statements migration left pending =>
      obtain ⟨place, reached, same, past, whole, done⟩ := fits
      exact ⟨place, by omega, same, past, whole,
        fun statement member => (done statement member).mono⟩
  | inserted migration pending =>
      rw [free rfl]
      exact ⟨fits.1, fun statement member => (fits.2 statement member).mono⟩
  | failed => trivial
  | finished => trivial

/-! ### Planning -/

theorem following_of_append {before after : List Migration}
    {migration : Migration}
    (apart : ∀ other ∈ before, other.id ≠ migration.id) :
    Migration.following migration.id (before ++ migration :: after) = after := by
  induction before with
  | nil => simp [Migration.following]
  | cons first before ih =>
      rw [List.forall_mem_cons] at apart
      rw [List.cons_append, Migration.following, if_neg apart.1, ih apart.2]

theorem following_eq_nil {current : String} {migrations : List Migration}
    (absent : ∀ migration ∈ migrations, migration.id ≠ current) :
    Migration.following current migrations = [] := by
  induction migrations with
  | nil => rfl
  | cons first rest ih =>
      rw [List.forall_mem_cons] at absent
      rw [Migration.following, if_neg absent.1, ih absent.2]

/-- What is planned is what the version has beyond the records. -/
theorem planMigration_eq (chain : Migration.Chain master)
    {files : List Migration} {rows : List String} {version count : Nat}
    (most : count ≤ master.length) (found : files.Perm (master.take version))
    (read : rows.Perm ((master.take count).map Migration.id)) :
    Migration.planMigration files rows =
      some (master.take version, (master.take version).drop count) := by
  have ascending (limit : Nat) : (master.take limit).Pairwise
      fun one other => Migration.less one.id other.id = some true :=
    chain.ascending.sublist (List.take_sublist _ _)
  have migrations : Migration.sortById Migration.id files =
      some (master.take version) :=
    Migration.sortById_of_perm found (ascending version)
  have existing : Migration.sortById (fun row => row) rows =
      some ((master.take count).map Migration.id) :=
    Migration.sortById_of_perm read (List.pairwise_map.mpr (ascending count))
  rw [Migration.planMigration, migrations, existing]
  simp only [Option.bind_eq_bind, Option.bind_some, Option.some.injEq,
    Prod.mk.injEq, true_and]
  rcases List.eq_nil_or_concat (master.take count) with
    none | ⟨before, last, some⟩
  · rw [none]
    rcases List.take_eq_nil_iff.mp none with rfl | rfl
    · rfl
    · simp [Migration.toApply]
  · rw [List.concat_eq_append] at some
    have split : master = before ++ last :: master.drop count := by
      rw [← List.singleton_append, ← List.append_assoc, ← some,
        List.take_append_drop]
    have place : before.length + 1 = count := by
      have lengths := congrArg List.length some
      rw [List.length_take, List.length_append, List.length_singleton]
        at lengths
      omega
    have named := chain.named last (by rw [split]; simp)
    have distinct := chain.distinct
    rw [split, List.map_append, List.nodup_append] at distinct
    have apart : ∀ other ∈ before, other.id ≠ last.id := by
      intro other member
      exact distinct.2.2 other.id (List.mem_map_of_mem member) last.id
        (by simp)
    have current : (((master.take count).map Migration.id).getLast?).getD "" =
        last.id := by
      rw [some]
      simp
    rw [current, Migration.toApply, if_neg named]
    by_cases old : version < count
    · have inside : master.take version <+: before := by
        have short : version ≤ before.length := by omega
        rw [split, List.take_append_of_le_length short]
        exact List.take_prefix _ _
      rw [following_eq_nil fun migration member =>
        apart migration (inside.subset member)]
      symm
      rw [List.drop_eq_nil_iff, List.length_take]
      omega
    · have cut : master.take version =
          before ++ last :: (master.drop count).take (version - count) := by
        have more : version - before.length = version - count + 1 := by omega
        conv_lhs => rw [split]
        have past : before.length ≤ version := by omega
        rw [List.take_append, List.take_of_length_le past, more,
          List.take_succ_cons]
      rw [cut, following_of_append apart, ← place]
      simp [List.drop_append]

/-! ### Steps -/

/-- The migration at hand has its place among all of them. -/
theorem split_of_drop {migrations pending : List Migration}
    {migration : Migration} {place : Nat} (version : migrations <+: master)
    (same : migrations.drop place = migration :: pending) :
    ∃ after, master = master.take place ++ migration :: after := by
  obtain ⟨later, whole⟩ := version
  have short : place ≤ migrations.length := by
    by_contra long
    rw [List.drop_eq_nil_of_le (by omega)] at same
    cases same
  refine ⟨pending ++ later, ?_⟩
  rw [← List.cons_append, ← same, ← whole, List.take_append_of_le_length short,
    ← List.append_assoc, List.take_append_drop]

theorem take_succ_of_split {after : List Migration} {migration : Migration}
    {place : Nat} (whole : master = master.take place ++ migration :: after) :
    master.take (place + 1) = master.take place ++ [migration] := by
  have length : (master.take place).length = place := by
    have lengths := congrArg List.length whole
    rw [List.length_append, List.length_cons] at lengths
    rw [List.length_take] at lengths ⊢
    omega
  have cut := congrArg (List.take (place + 1)) whole
  have past : (master.take place).length ≤ place + 1 := by omega
  have more : place + 1 - (master.take place).length = 1 := by omega
  rwa [List.take_append, List.take_of_length_le past, more] at cut

variable {old : List String} {trace shown : List Shown} {state : Booting}

/-- What is recorded is what comes before the place. -/
theorem Booting.Sound.before (sound : Booting.Sound master old trace state)
    {place : Nat} (reached : place ≤ state.records.length) :
    (master.take place).map Migration.id <+: state.records := by
  rw [sound.recorded]
  exact (List.take_prefix_take_left reached).map _

theorem Booting.Sound.records_prefix
    (sound : Booting.Sound master old trace state) :
    state.records <+: master.map Migration.id := by
  rw [sound.recorded]
  exact (List.take_prefix _ _).map _

theorem Booting.Sound.executed_inOrder
    (sound : Booting.Sound master old trace state)
    {migrations pending : List Migration} {migration : Migration}
    {place : Nat} {statement : String} {succeeded : Bool}
    (version : migrations <+: master) (reached : place ≤ state.records.length)
    (same : migrations.drop place = migration :: pending)
    (member : statement ∈ migration.up) :
    (Shown.executed migration statement succeeded state.records).InOrder
      master := by
  obtain ⟨after, whole⟩ := split_of_drop version same
  exact ⟨master.take place, after, whole, member, sound.before reached,
    sound.records_prefix⟩

/-- The next migration is not recorded exactly if all that come before it
are. -/
theorem Booting.Sound.place_eq (sound : Booting.Sound master old trace state)
    {migrations pending : List Migration} {migration : Migration}
    {place : Nat} (version : migrations <+: master)
    (reached : place ≤ state.records.length)
    (same : migrations.drop place = migration :: pending)
    (absent : migration.id ∉ state.records) :
    place = state.records.length := by
  by_contra different
  obtain ⟨after, whole⟩ := split_of_drop version same
  have earlier : place + 1 ≤ state.records.length := by omega
  apply absent
  apply (sound.before earlier).subset
  rw [take_succ_of_split whole]
  simp

theorem Booting.Sound.set (sound : Booting.Sound master old trace state)
    {index : Nat} {booting : Instance} {phase : Phase} {records : List String}
    (present : state.instances[index]? = some booting)
    (recorded : records = (master.take records.length).map Migration.id)
    (grown : state.records.length ≤ records.length)
    (fits : phase.Fits (trace ++ shown) records.length booting.migrations)
    (alone : phase.holds = true ∨ records.length ≠ state.records.length →
      ∀ (other : Instance) (place : Nat), place ≠ index →
        state.instances[place]? = some other → other.phase.holds = false)
    (complete : ∀ migration ∈ master, migration.id ∈ records →
      migration.id ∉ state.records →
        ∀ statement ∈ migration.up,
          migration.Done (trace ++ shown) statement) :
    Booting.Sound master old (trace ++ shown)
      ⟨records, state.instances.set index { booting with phase }⟩ := by
  have found {place : Nat} {other : Instance}
      (here : (state.instances.set index { booting with phase })[place]? =
        some other) :
      place = index ∧ other = { booting with phase } ∨
        place ≠ index ∧ state.instances[place]? = some other := by
    rw [List.getElem?_set] at here
    by_cases same : index = place
    · rw [if_pos same] at here
      split at here
      · exact .inl ⟨same.symm, (Option.some.inj here).symm⟩
      · cases here
    · rw [if_neg same] at here
      exact .inr ⟨Ne.symm same, here⟩
  refine ⟨recorded, ?_, ?_, ?_, ?_⟩
  · intro other member
    obtain ⟨place, here⟩ := List.mem_iff_getElem?.mp member
    obtain ⟨_, rfl⟩ | ⟨_, there⟩ := found here
    · exact sound.versions booting (List.mem_of_getElem? present)
    · exact sound.versions other (List.mem_of_getElem? there)
  · intro other member
    obtain ⟨place, here⟩ := List.mem_iff_getElem?.mp member
    obtain ⟨_, rfl⟩ | ⟨apart, there⟩ := found here
    · exact fits
    · refine (sound.fits other (List.mem_of_getElem? there)).grow grown ?_
      intro holds
      by_contra longer
      rw [alone (.inr longer) other place apart there] at holds
      cases holds
  · intro first second one other here there holds also
    obtain ⟨same, rfl⟩ | ⟨apart, before⟩ := found here
    · obtain ⟨equal, _⟩ | ⟨different, former⟩ := found there
      · rw [same, equal]
      · rw [alone (.inl holds) other second different former] at also
        cases also
    · obtain ⟨equal, rfl⟩ | ⟨different, former⟩ := found there
      · rw [alone (.inl also) one first apart before] at holds
        cases holds
      · exact sound.alone first second one other before former holds also
  · intro migration member listed fresh statement inside
    by_cases known : migration.id ∈ state.records
    · exact (sound.complete migration member known fresh statement inside).mono
    · exact complete migration member listed known statement inside

/-- A phase that holds no key, with the records as they were. -/
theorem Booting.Sound.move (sound : Booting.Sound master old trace state)
    {index : Nat} {booting : Instance} {phase : Phase}
    (present : state.instances[index]? = some booting)
    (fits : phase.Fits (trace ++ shown) state.records.length
      booting.migrations)
    (free : phase.holds = false) :
    Booting.Sound master old (trace ++ shown)
      ⟨state.records, state.instances.set index { booting with phase }⟩ := by
  refine sound.set present sound.recorded (Nat.le_refl _) fits ?_ ?_
  · rintro (holds | longer)
    · rw [free] at holds
      cases holds
    · exact absurd rfl longer
  · intro migration _ listed fresh
    exact absurd listed fresh

/-- A record is added by the only instance that holds a key. -/
theorem Booting.Sound.commit (sound : Booting.Sound master old trace state)
    (chain : Migration.Chain master) {index : Nat} {booting : Instance}
    {migration : Migration} {pending : List Migration} {phase : Phase}
    (present : state.instances[index]? = some booting)
    (held : booting.phase = .inserted migration pending)
    (fits : phase.Fits trace (state.records.length + 1) booting.migrations) :
    Booting.Sound master old trace
      ⟨state.records ++ [migration.id],
        state.instances.set index { booting with phase }⟩ := by
  have member := List.mem_of_getElem? present
  have before := sound.fits booting member
  rw [held] at before
  obtain ⟨same, done⟩ := before
  obtain ⟨after, whole⟩ := split_of_drop (sound.versions booting member) same
  have longer : (state.records ++ [migration.id]).length =
      state.records.length + 1 := by simp
  have set := @Booting.Sound.set master old trace [] state sound index booting
    phase (state.records ++ [migration.id]) present
  simp only [List.append_nil, longer] at set
  refine set ?_ (by omega) fits ?_ ?_
  · rw [take_succ_of_split whole, List.map_append, ← sound.recorded]
    rfl
  · intro _ other place apart there
    rw [Bool.eq_false_iff]
    intro holds
    have equal := sound.alone place index other booting there present holds
      (by rw [held]; rfl)
    exact apart equal
  · intro other listed inside fresh
    rcases List.mem_append.mp inside with old | new
    · exact absurd old fresh
    · have named : other.id = migration.id := List.mem_singleton.mp new
      have one := List.inj_on_of_nodup_map chain.distinct listed
        (by rw [whole]; simp) named
      rw [one]
      exact done

/-- The key of the next migration is free only if nobody holds one. -/
theorem Booting.Sound.unlocked (sound : Booting.Sound master old trace state)
    {migrations pending : List Migration} {migration : Migration}
    (version : migrations <+: master)
    (same : migrations.drop state.records.length = migration :: pending)
    (free : state.locked migration.id = false) {other : Instance}
    (member : other ∈ state.instances) : other.phase.holds = false := by
  cases here : other.phase with
  | inserted rival later =>
      exfalso
      have fits := sound.fits other member
      rw [here] at fits
      obtain ⟨after, whole⟩ := split_of_drop version same
      obtain ⟨rest, also⟩ := split_of_drop (sound.versions other member) fits.1
      have equal : migration = rival := by
        have tails := List.append_cancel_left (whole.symm.trans also)
        exact (List.cons.inj tails).1
      rw [Booting.locked, List.any_eq_false] at free
      have never := free other member
      simp [here, equal] at never
  | next pending => rfl
  | statements migration left pending => rfl
  | failed => rfl
  | finished => rfl

theorem Booting.Sound.plan (sound : Booting.Sound master old trace state)
    (chain : Migration.Chain master) {files : List Migration}
    {rows : List String} {version : Nat}
    (found : files.Perm (master.take version))
    (read : rows.Perm state.records) :
    Booting.Sound master old trace { state with
      instances := state.instances ++ [Booting.boot files rows] } := by
  have most : state.records.length ≤ master.length := by
    have lengths := congrArg List.length sound.recorded
    rw [List.length_map, List.length_take] at lengths
    omega
  rw [Booting.boot, planMigration_eq chain most found (sound.recorded ▸ read)]
  refine ⟨sound.recorded, ?_, ?_, ?_, sound.complete⟩
  · intro other member
    rcases List.mem_append.mp member with old | new
    · exact sound.versions other old
    · rw [List.mem_singleton.mp new]
      exact List.take_prefix _ _
  · intro other member
    rcases List.mem_append.mp member with old | new
    · exact sound.fits other old
    · rw [List.mem_singleton.mp new]
      refine ⟨min state.records.length (master.take version).length,
        Nat.min_le_left _ _, Nat.min_le_right _ _, ?_⟩
      rcases Nat.le_total state.records.length
          (master.take version).length with less | more
      · rw [Nat.min_eq_left less]
      · rw [Nat.min_eq_right more, List.drop_length,
          List.drop_eq_nil_of_le more]
  · have known {place : Nat} {other : Instance}
        (here : (state.instances ++ [⟨master.take version,
          .next ((master.take version).drop state.records.length)⟩])[place]? =
            some other)
        (holds : other.phase.holds = true) :
        state.instances[place]? = some other := by
      rw [List.getElem?_append] at here
      split at here
      · exact here
      · have last := List.mem_of_getElem? here
        rw [List.mem_singleton.mp last] at holds
        cases holds
    intro first second one other here there holds also
    exact sound.alone first second one other (known here holds)
      (known there also) holds also

theorem step_sound (chain : Migration.Chain master) {event : BootEvent}
    {next : Booting} (sound : Booting.Sound master old trace state)
    (deploys : event.Deploys master)
    (stepped : state.step event = some (next, shown)) :
    Booting.Sound master old (trace ++ shown) next ∧
      ∀ output ∈ shown, output.InOrder master := by
  cases event with
  | plan files rows =>
      obtain ⟨version, found⟩ := deploys
      simp only [Booting.step] at stepped
      split at stepped
      · rename_i read
        cases stepped
        rw [List.append_nil]
        exact ⟨sound.plan chain found (List.isPerm_iff.mp read), by simp⟩
      · cases stepped
  | step index ending =>
      simp only [Booting.step, Option.bind_eq_bind] at stepped
      obtain ⟨booting, present, stepped⟩ := Option.bind_eq_some_iff.mp stepped
      obtain ⟨⟨phase, records, output⟩, advanced, stepped⟩ :=
        Option.bind_eq_some_iff.mp stepped
      cases stepped
      have member := List.mem_of_getElem? present
      have version := sound.versions booting member
      have fits := sound.fits booting member
      cases here : booting.phase with
      | next pending =>
          rw [here] at advanced fits
          obtain ⟨place, reached, inside, same⟩ := fits
          cases pending with
          | nil =>
              cases advanced
              refine ⟨sound.move present trivial rfl, ?_⟩
              intro output member
              rw [List.mem_singleton.mp member]
              refine ⟨?_, sound.records_prefix⟩
              have all : booting.migrations.length ≤ state.records.length := by
                rw [List.drop_eq_nil_iff] at same
                omega
              rw [List.prefix_iff_eq_take.mp version]
              exact sound.before all
          | cons migration pending =>
              cases ending with
              | ok =>
                  cases advanced
                  exact ⟨sound.move present
                    ⟨place, reached, same, [], rfl, by simp⟩ rfl, by simp⟩
              | error =>
                  cases advanced
                  exact ⟨sound.move present trivial rfl, by simp⟩
              | lost =>
                  cases advanced
                  exact ⟨sound.move present trivial rfl, by simp⟩
      | statements migration left pending =>
          rw [here] at advanced fits
          obtain ⟨place, reached, same, past, whole, done⟩ := fits
          cases left with
          | nil =>
              cases ending with
              | ok =>
                  simp only [Booting.advance] at advanced
                  split at advanced
                  · cases advanced
                  · rename_i free
                    split at advanced
                    · cases advanced
                      exact ⟨sound.move present trivial rfl, by simp⟩
                    · rename_i absent
                      cases advanced
                      have last := sound.place_eq version reached same absent
                      subst last
                      refine ⟨sound.set present sound.recorded (Nat.le_refl _)
                        ⟨same, ?_⟩ ?_ ?_, by simp⟩
                      · intro statement listed
                        rw [whole, List.append_nil] at listed
                        exact (done statement listed).mono
                      · intro _ other place _ there
                        exact sound.unlocked version same
                          (Bool.eq_false_iff.mpr free)
                          (List.mem_of_getElem? there)
                      · intro other _ listed fresh
                        exact absurd listed fresh
              | error =>
                  cases advanced
                  exact ⟨sound.move present trivial rfl, by simp⟩
              | lost =>
                  cases advanced
                  exact ⟨sound.move present trivial rfl, by simp⟩
          | cons statement left =>
              have own : statement ∈ migration.up := by
                rw [whole]
                simp
              have shows (succeeded : Bool) : ∀ output ∈
                  [Shown.executed migration statement succeeded state.records],
                  output.InOrder master := by
                intro output listed
                rw [List.mem_singleton.mp listed]
                exact sound.executed_inOrder version reached same own
              cases ending with
              | ok =>
                  cases advanced
                  refine ⟨sound.move present ⟨place, reached, same,
                    past ++ [statement], by simp [whole], ?_⟩ rfl, shows true⟩
                  intro other listed
                  rcases List.mem_append.mp listed with before | now
                  · exact (done other before).mono
                  · rw [List.mem_singleton.mp now]
                    exact ⟨state.records, by simp⟩
              | error =>
                  cases advanced
                  exact ⟨sound.move present trivial rfl, shows false⟩
              | lost =>
                  cases advanced
                  exact ⟨sound.move present trivial rfl, shows false⟩
      | inserted migration pending =>
          rw [here] at advanced fits
          cases ending with
          | ok =>
              cases advanced
              rw [List.append_nil]
              refine ⟨sound.commit chain present here ?_, by simp⟩
              refine ⟨state.records.length + 1, Nat.le_refl _, ?_, ?_⟩
              · have lengths := congrArg List.length fits.1
                rw [List.length_drop, List.length_cons] at lengths
                omega
              · rw [← List.drop_drop, fits.1]
                rfl
          | error =>
              cases advanced
              exact ⟨sound.move present trivial rfl, by simp⟩
          | lost =>
              cases advanced
              rw [List.append_nil]
              exact ⟨sound.commit chain present here trivial, by simp⟩
      | failed =>
          rw [here] at advanced
          cases advanced
      | finished =>
          rw [here] at advanced
          cases advanced

end Soundness

/-- However many instances boot next to each other, of whatever versions, and
whatever fails: the records are the first of all migrations, in their order and
each once.  A statement is executed when all migrations before its own are
recorded, an instance that finishes has all of its version recorded, and
nothing is recorded of which a statement has not succeeded. -/
theorem migrations_in_order {master : List Migration}
    (chain : Migration.Chain master) {events : List BootEvent}
    {start final : Booting} {trace : List Shown}
    (before : start.records <+: master.map Migration.id)
    (nobody : start.instances = [])
    (deploys : ∀ event ∈ events, event.Deploys master)
    (ran : Booting.machine.run events start = some (final, trace)) :
    final.records <+: master.map Migration.id ∧
      (∀ shown ∈ trace, shown.InOrder master) ∧
      ∀ migration ∈ master, migration.id ∈ final.records →
        migration.id ∉ start.records →
          ∀ statement ∈ migration.up, migration.Done trace statement := by
  have recorded : start.records =
      (master.take start.records.length).map Migration.id := by
    rw [List.map_take]
    exact List.prefix_iff_eq_take.mp before
  obtain ⟨sound, inOrder⟩ := Booting.machine.run_invariant
    (fun _ event => event.Deploys master)
    (fun trace state => Booting.Sound master start.records trace state ∧
      ∀ shown ∈ trace, shown.InOrder master)
    (by
      rintro trace state event next shown ⟨sound, earlier⟩ deploys stepped
      obtain ⟨sound, now⟩ := step_sound chain sound deploys stepped
      refine ⟨sound, fun output member => ?_⟩
      rcases List.mem_append.mp member with old | new
      · exact earlier output old
      · exact now output new)
    events [] start final trace
    ⟨⟨recorded, by simp [nobody], by simp [nobody], by simp [nobody],
      fun _ _ listed fresh => absurd listed fresh⟩, by simp⟩
    (Booting.machine.guarded_of_forall (fun _ => deploys) _) ran
  exact ⟨sound.records_prefix, inOrder, sound.complete⟩

def sampleMigrations : List Migration :=
  [⟨"2_kinds.sql", ["CREATE TABLE kinds", "CREATE INDEX kinds"]⟩,
    ⟨"10_messages.sql", ["CREATE TABLE messages"]⟩]

/-- Two instances execute the first migration; one of them waits for the key of
its record, finds it taken and fails. -/
def sampleBoots : List BootEvent :=
  [.plan (sampleMigrations.take 1) [], .plan sampleMigrations.reverse []] ++
    [.step 0 .ok, .step 1 .ok, .step 0 .ok, .step 0 .ok, .step 1 .ok,
      .step 0 .ok, .step 1 .ok, .step 0 .ok, .step 1 .ok] ++
    [.plan sampleMigrations ["2_kinds.sql"]] ++
    List.replicate 5 (.step 2 .ok)

theorem sample_boots : ∃ final trace,
    Booting.machine.run sampleBoots ⟨[], []⟩ = some (final, trace) ∧
      (∀ shown ∈ trace, shown.InOrder sampleMigrations) := by
  cases ran : Booting.machine.run sampleBoots ⟨[], []⟩ with
  | none => exact absurd ran (by decide +kernel)
  | some result =>
      have chain : Migration.Chain sampleMigrations :=
        ⟨by decide +kernel, by decide +kernel⟩
      have deploys : ∀ event ∈ sampleBoots,
          event.Deploys sampleMigrations := by
        intro event member
        cases event with
        | step index ending => trivial
        | plan files rows =>
            have planned : files = sampleMigrations.take 1 ∨
                files = sampleMigrations.reverse ∨ files = sampleMigrations := by
              simp [sampleBoots] at member
              tauto
            rcases planned with rfl | rfl | rfl
            · exact ⟨1, .refl _⟩
            · exact ⟨2, List.reverse_perm _⟩
            · exact ⟨2, .refl _⟩
      exact ⟨result.1, result.2, rfl, (migrations_in_order chain
        List.nil_prefix rfl deploys ran).2.1⟩

end Notifications.Models
