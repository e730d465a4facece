import Mathlib.Data.List.Perm.Basic
import Notifications.Services.Registration

/-!
# What a preference update does

`PreferenceUpdater.Execute` in the transaction of its handlers.  Every write of
it switches one entry of a table on or off: the user's global unsubscribe, and
then the unsubscribe for each listed kind, in the order of the list.  An entry
that is switched off and on again is a new row.
-/

set_option autoImplicit false

namespace Notifications.Models

open Notifications.Lib

variable [Collation]

/-! ## Switching one entry -/

/-- The entry is there or not, as wanted, and nothing else has changed. -/
structure Tables.Toggled (table : Table) (key : List String) (on : Bool)
    (before after : Tables) : Prop where
  present : (after.lookup table key).isSome = on
  idle : (before.lookup table key).isSome = on → after = before
  elsewhere : ∀ other, other ≠ key →
    after.lookup table other = before.lookup table other
  others : ∀ other, other ≠ table → after.rows other = before.rows other

namespace Tables

variable {table : Table} {key : List String} {before after : Tables}

theorem Toggled.refl {on : Bool}
    (already : (before.lookup table key).isSome = on) :
    Toggled table key on before before :=
  ⟨already, fun _ => rfl, fun _ _ => rfl, fun _ _ => rfl⟩

theorem Puts.toggled {row : table.Row} (puts : Puts table row before after)
    (same : table.uniqueKey row = key)
    (absent : before.lookup table key = none) :
    Toggled table key true before after := by
  subst same
  refine ⟨by rw [puts.stored]; rfl, ?_, ?_, puts.others⟩
  · intro present
    rw [absent] at present
    cases present
  · intro other different
    rw [puts.lookup, if_neg different]

/-- The row with a key is deleted by its primary key. -/
theorem Sound.lookup_delete_found (sound : before.Sound) {row : table.Row}
    (found : before.lookup table key = some row) (other : List String) :
    (before.lookup table other).filter (fun old => !hits table row old) =
      if other = key then none else before.lookup table other := by
  obtain ⟨member, same⟩ := lookup_eq_some found
  by_cases here : other = key
  · subst here
    rw [found, if_pos rfl]
    simp [Option.filter, hits_iff.mpr]
  · rw [if_neg here]
    cases present : before.lookup table other with
    | none => rfl
    | some old =>
        obtain ⟨oldMember, oldKey⟩ := lookup_eq_some present
        have missed : hits table row old = false := by
          rw [Bool.eq_false_iff]
          intro hit
          have equal := (sound.primaryKey table).eq_of_mem oldMember member
            (hits_iff.mp hit)
          rw [equal, same] at oldKey
          exact here oldKey.symm
        simp [Option.filter, missed]

theorem Sound.toggled_of_deleted (sound : before.Sound) {row : table.Row}
    (found : before.lookup table key = some row)
    (lookups : ∀ other, after.lookup table other =
      (before.lookup table other).filter fun old => !hits table row old)
    (others : ∀ other, other ≠ table → after.rows other = before.rows other) :
    Toggled table key false before after := by
  refine ⟨?_, ?_, ?_, others⟩
  · rw [lookups, sound.lookup_delete_found found, if_pos rfl]
    rfl
  · intro absent
    rw [found] at absent
    cases absent
  · intro other different
    rw [lookups, sound.lookup_delete_found found, if_neg different]

end Tables

/-- A write that switches an entry: without an error it is as wanted. -/
def Switches (environment : Environment) (table : Table) (key : List String)
    (on : Bool) (database : Database) (err : Option Error)
    (after : Database) : Prop :=
  (err = none → Tables.Toggled table key on database.tables after.tables) ∧
    (Faultless environment → err = none)

section Writes

variable {environment : Environment} {conn : Conn} {database : Database}
  {β : Type}

theorem switches_of_faulty {table : Table} {key : List String} {on : Bool}
    {error : Error} {after : Database} (faulty : ¬ Faultless environment) :
    Switches environment table key on database (some error) after :=
  ⟨by simp, fun faultless => absurd faultless faulty⟩

theorem switches_of_toggled {table : Table} {key : List String} {on : Bool}
    {after : Database}
    (toggled : Tables.Toggled table key on database.tables after.tables) :
    Switches environment table key on database none after :=
  ⟨fun _ => toggled, fun _ => rfl⟩

theorem achieves_clock {rest : Int → Prog β} {post : β → Database → Prop}
    (next : ∀ now, Achieves environment conn (rest now) database post) :
    Achieves environment conn (Program.perform Op.now >>= rest) database
      post := by
  intro world reads
  exact next (environment.clock world.statements) world reads

namespace UnsubscribesRepo

theorem find_achieves (clientID kindID userID : String) :
    Achieves environment conn (find conn clientID kindID userID) database
      fun result after =>
        Found environment .unsubscribes (missing clientID kindID userID)
          (Collation.key [userID, clientID, kindID]) database result ∧
        after = database := by
  apply achieves_found .unsubscribes
  intro world reads
  exact run_find reads clientID kindID userID

theorem create_achieves (unsubscribe : Unsubscribe)
    (absent : database.tables.lookup .unsubscribes
      (Collation.key
        [unsubscribe.userID, unsubscribe.clientID, unsubscribe.kindID]) =
        none) :
    Achieves environment conn (create conn unsubscribe) database
      fun result after => Switches environment .unsubscribes
        (Collation.key
          [unsubscribe.userID, unsubscribe.clientID, unsubscribe.kindID]) true
        database result.2 after := by
  refine achieves_now fun now =>
    achieves_insert absent (fun text faulty => ?_) ?_
  · exact achieves_pure (switches_of_faulty faulty)
  · intro number after puts
    exact achieves_pure (switches_of_toggled (puts.toggled rfl absent))

theorem upsert_achieves (unsubscribe : Unsubscribe) :
    Achieves environment conn (upsert conn unsubscribe) database
      fun result after => Switches environment .unsubscribes
        (Collation.key
          [unsubscribe.userID, unsubscribe.clientID, unsubscribe.kindID]) true
        database result.2 after := by
  apply achieves_bind (find_achieves _ _ _)
  intro _ _ facts
  rcases facts with
    ⟨⟨text, faulty, rfl⟩ | ⟨absent, rfl⟩ | ⟨row, present, rfl⟩, rfl⟩
  · exact achieves_pure (switches_of_faulty faulty)
  · exact create_achieves unsubscribe absent
  · have already : Option.isSome (Tables.lookup _ _ _) = true :=
      Option.isSome_iff_exists.mpr ⟨row, present⟩
    exact achieves_pure (switches_of_toggled (.refl already))

theorem destroy_achieves (unsubscribe : Unsubscribe) :
    Achieves environment conn (destroy conn unsubscribe) database
      fun result after => Switches environment .unsubscribes
        (Collation.key
          [unsubscribe.userID, unsubscribe.clientID, unsubscribe.kindID]) false
        database result.2 after := by
  apply achieves_bind (find_achieves _ _ _)
  intro _ between facts
  rcases facts with
    ⟨⟨text, faulty, rfl⟩ | ⟨absent, rfl⟩ | ⟨row, present, rfl⟩, rfl⟩
  · exact achieves_pure (switches_of_faulty faulty)
  · have already : Option.isSome (Tables.lookup _ _ _) = false :=
      Option.isSome_eq_false_iff.mpr (Option.isNone_iff_eq_none.mpr absent)
    exact achieves_pure (switches_of_toggled (.refl already))
  · apply (deleteAll_achieves [row] between).weaken
    intro facts after given
    obtain ⟨count, err⟩ := facts
    obtain ⟨deleted, calm⟩ := given
    refine ⟨?_, calm⟩
    intro done
    obtain ⟨lookups, others⟩ := deleted done
    apply between.sound.toggled_of_deleted present _ others
    intro other
    rw [lookups]
    simp

end UnsubscribesRepo

namespace GlobalUnsubscribesRepo

theorem insert_achieves (row : GlobalUnsubscribe)
    (absent : database.tables.lookup .globalUnsubscribes
      (Collation.key [row.userID]) =
      none) :
    Achieves environment conn
      (do
        match ← sql conn (.insert .globalUnsubscribes row) with
        | .error error => pure (some error)
        | .ok _ => pure none)
      database
      (Switches environment .globalUnsubscribes
        (Collation.key [row.userID]) true
        database) := by
  refine achieves_insert absent (fun text faulty => ?_) ?_
  · exact achieves_pure (switches_of_faulty faulty)
  · intro number after puts
    exact achieves_pure (switches_of_toggled (puts.toggled rfl absent))

theorem delete_achieves {row : GlobalUnsubscribe} {userGUID : String}
    (present : database.tables.lookup .globalUnsubscribes
      (Collation.key [userGUID]) =
      some row) :
    Achieves environment conn
      (do
        match ← sql conn (.delete .globalUnsubscribes row) with
        | .error error => pure (some error)
        | .ok _ => pure none)
      database
      (Switches environment .globalUnsubscribes (Collation.key [userGUID]) false
        database) := by
  refine achieves_sql (fun text faulty => ?_) ?_
  · exact achieves_pure (switches_of_faulty faulty)
  · apply achieves_pure (switches_of_toggled ?_)
    apply database.sound.toggled_of_deleted present
    · exact @Tables.Sound.lookup_delete _ _ .globalUnsubscribes
        database.sound row
    · intro other different
      exact (Statement.delete .globalUnsubscribes row).execute_other _
        different

theorem primary_ne_zero {row : GlobalUnsubscribe} {userGUID : String}
    (present : database.tables.lookup .globalUnsubscribes
      (Collation.key [userGUID]) =
      some row) : row.primary ≠ 0 := by
  obtain ⟨member, _⟩ := Tables.lookup_eq_some present
  have bounds := database.sound.numbers .globalUnsubscribes row member
    row.primary rfl
  omega

theorem find_achieves (userGUID : String) :
    Achieves environment conn (find conn userGUID) database
      fun result after =>
        Found environment .globalUnsubscribes .noRows
          (Collation.key [userGUID]) database
          result ∧ after = database := by
  apply achieves_found .globalUnsubscribes
  intro world reads
  rw [run_find reads userGUID]
  cases environment.faults world.statements <;>
    cases database.tables.lookup .globalUnsubscribes
      (Collation.key [userGUID]) <;> rfl

theorem set_achieves (userGUID : String) (unsubscribe : Bool) :
    Achieves environment conn (set conn userGUID unsubscribe) database
      (Switches environment .globalUnsubscribes
        (Collation.key [userGUID]) unsubscribe
        database) := by
  apply achieves_bind (find_achieves userGUID)
  intro _ between facts
  rcases facts with
    ⟨⟨text, faulty, rfl⟩ | ⟨absent, rfl⟩ | ⟨row, present, rfl⟩, rfl⟩
  · exact achieves_pure (switches_of_faulty faulty)
  · apply achieves_clock
    intro now
    cases unsubscribe with
    | true => exact insert_achieves ⟨0, userGUID, now⟩ absent
    | false =>
        have already : Option.isSome (Tables.lookup _ _ _) = false :=
          Option.isSome_eq_false_iff.mpr (Option.isNone_iff_eq_none.mpr absent)
        exact achieves_pure (switches_of_toggled (.refl already))
  · have stored : row.primary ≠ 0 := primary_ne_zero present
    cases unsubscribe with
    | true =>
        have already : Option.isSome (Tables.lookup _ _ _) = true :=
          Option.isSome_iff_exists.mpr ⟨row, present⟩
        simp only [change, Bool.true_and, beq_iff_eq, stored, if_false,
          Bool.not_true, Bool.false_and, Bool.false_eq_true]
        exact achieves_pure (switches_of_toggled (.refl already))
    | false =>
        simp only [change, Bool.false_and, Bool.false_eq_true, if_false,
          Bool.not_false, Bool.true_and, bne_iff_ne, ne_eq, stored,
          not_false_eq_true, if_true]
        exact delete_achieves present

end GlobalUnsubscribesRepo

end Writes

end Notifications.Models

namespace Notifications.Services

open Notifications.Lib Notifications.Models

section Collated

variable [Collation]

namespace PreferenceUpdater

/-! ## The loop -/

/-- The key of the unsubscribe that a preference is about. -/
def keyOf (userID : String) (preference : Preference) : List String :=
  Collation.key [userID, preference.clientID, preference.kindID]

def Changeable (tables : Tables) (preference : Preference) : Prop :=
  ∃ kind : Kind, tables.lookup .kinds
    (Collation.key [preference.kindID, preference.clientID]) = some kind ∧
      kind.critical = false

/-- What the last preference about a key wants. -/
def lastEmail (userID : String) (key : List String) :
    List Preference → Option Bool
  | [] => none
  | preference :: rest =>
      (lastEmail userID key rest).or
        (if keyOf userID preference = key then some preference.email else none)

structure Applied (userID : String) (preferences : List Preference)
    (before after : Tables) : Prop where
  listed : ∀ key email, lastEmail userID key preferences = some email →
    (after.lookup .unsubscribes key).isSome = !email
  unlisted : ∀ key, lastEmail userID key preferences = none →
    after.lookup .unsubscribes key = before.lookup .unsubscribes key
  /-- a row that is never switched off stays -/
  kept : ∀ key row, before.lookup .unsubscribes key = some row →
    (∀ preference ∈ preferences, keyOf userID preference = key →
      preference.email = false) →
    after.lookup .unsubscribes key = some row
  /-- nothing changes if everything is as wanted already -/
  idle : (∀ preference ∈ preferences,
      (before.lookup .unsubscribes (keyOf userID preference)).isSome =
        !preference.email) → after = before
  others : ∀ table, table ≠ .unsubscribes →
    after.rows table = before.rows table

theorem applied_nil (userID : String) (tables : Tables) :
    Applied userID [] tables tables where
  listed key email wrong := by cases wrong
  unlisted _ _ := rfl
  kept _ _ found _ := found
  idle _ := rfl
  others _ _ := rfl

/-- One pass through the loop, and then the rest of it. -/
theorem Applied.cons {userID : String} {first : Preference}
    {rest : List Preference} {before between after : Tables}
    (toggled : Tables.Toggled .unsubscribes (keyOf userID first)
      (!first.email) before between)
    (later : Applied userID rest between after) :
    Applied userID (first :: rest) before after where
  listed := by
    intro key email found
    rw [lastEmail] at found
    cases again : lastEmail userID key rest with
    | some last =>
        rw [again] at found
        cases found
        exact later.listed key email again
    | none =>
        rw [again, Option.none_or] at found
        split at found
        · rename_i same
          cases found
          rw [later.unlisted key again, ← same]
          exact toggled.present
        · cases found
  unlisted := by
    intro key absent
    rw [lastEmail, Option.or_eq_none_iff] at absent
    have other : key ≠ keyOf userID first := by
      intro same
      rw [if_pos same.symm] at absent
      cases absent.2
    rw [later.unlisted key absent.1, toggled.elsewhere key other]
  kept := by
    intro key row found never
    apply later.kept key row
    · by_cases same : keyOf userID first = key
      · have off := never first (.head _) same
        have present : (before.lookup .unsubscribes
            (keyOf userID first)).isSome = !first.email := by
          rw [same, found, off]
          rfl
        rw [toggled.idle present]
        exact found
      · rw [toggled.elsewhere key (Ne.symm same)]
        exact found
    · intro preference member
      exact never preference (.tail _ member)
  idle := by
    intro already
    have same := toggled.idle (already first (.head _))
    subst same
    apply later.idle
    intro preference member
    exact already preference (.tail _ member)
  others := by
    intro table other
    rw [later.others table other, toggled.others table other]

section Run

variable {environment : Environment} {conn : Conn} {database : Database}

theorem changeable_achieves (preference : Preference) :
    Achieves environment conn (changeable conn preference) database
      fun err after => after = database ∧
        (err = none → Changeable database.tables preference) ∧
        (Faultless environment → Changeable database.tables preference →
          err = none) := by
  apply achieves_bind (KindsRepo.find_achieves _ _)
  intro _ between facts
  rcases facts with
    ⟨⟨text, faulty, rfl⟩ | ⟨absent, rfl⟩ | ⟨kind, present, rfl⟩, rfl⟩
  · exact achieves_pure
      ⟨rfl, by simp, fun faultless => absurd faultless faulty⟩
  · refine achieves_pure ⟨rfl, by simp, ?_⟩
    intro _ facts
    obtain ⟨kind, present, _⟩ := facts
    rw [absent] at present
    cases present
  · simp only
    split
    · rename_i critical
      refine achieves_pure ⟨rfl, by simp, ?_⟩
      intro _ facts
      obtain ⟨other, found, plain⟩ := facts
      rw [present] at found
      cases found
      rw [plain] at critical
      cases critical
    · rename_i plain
      exact achieves_pure
        ⟨rfl, fun _ => ⟨kind, present, by simpa using plain⟩, fun _ _ => rfl⟩

theorem apply_achieves (userID : String) (preference : Preference) :
    Achieves environment conn (apply conn userID preference) database
      (Switches environment .unsubscribes (keyOf userID preference)
        (!preference.email) database) := by
  rw [apply]
  cases wanted : preference.email with
  | false =>
      apply achieves_bind (UnsubscribesRepo.upsert_achieves _)
      intro result after switches
      obtain ⟨_, err⟩ := result
      exact achieves_pure switches
  | true =>
      apply achieves_bind (UnsubscribesRepo.destroy_achieves _)
      intro result after switches
      obtain ⟨_, err⟩ := result
      exact achieves_pure switches

/-- Only the unsubscribes change, so what was changeable stays so. -/
theorem changeable_congr {before after : Tables} {preference : Preference}
    (others : ∀ table, table ≠ .unsubscribes →
      after.rows table = before.rows table) :
    Changeable after preference ↔ Changeable before preference := by
  rw [Changeable, Changeable,
    Tables.lookup_congr (others .kinds (by decide))]

theorem applyAll_achieves (userID : String) (preferences : List Preference)
    (database : Database) :
    Achieves environment conn (applyAll conn userID preferences) database
      fun err after =>
        (err = none →
          (∀ preference ∈ preferences,
            Changeable database.tables preference) ∧
          Applied userID preferences database.tables after.tables) ∧
        (Faultless environment →
          (∀ preference ∈ preferences,
            Changeable database.tables preference) → err = none) := by
  induction preferences generalizing database with
  | nil =>
      exact achieves_pure
        ⟨fun _ => ⟨by simp, applied_nil userID _⟩, fun _ _ => rfl⟩
  | cons preference rest ih =>
      apply achieves_bind (changeable_achieves preference)
      intro checked _ facts
      obtain ⟨rfl, sound, complete⟩ := facts
      cases checked with
      | some error =>
          refine achieves_pure ⟨by simp, ?_⟩
          intro faultless all
          exact complete faultless (all preference (.head _))
      | none =>
          apply achieves_bind (apply_achieves userID preference)
          intro applied between facts
          obtain ⟨toggles, calm⟩ := facts
          cases applied with
          | some error =>
              exact achieves_pure
                ⟨by simp, fun faultless _ => calm faultless⟩
          | none =>
              have toggled := toggles rfl
              apply (ih between).weaken
              intro err after facts
              obtain ⟨done, fine⟩ := facts
              refine ⟨?_, ?_⟩
              · intro success
                obtain ⟨all, later⟩ := done success
                refine ⟨?_, later.cons toggled⟩
                intro other member
                rcases List.mem_cons.mp member with rfl | inRest
                · exact sound rfl
                · exact (changeable_congr toggled.others).mp (all other inRest)
              · intro faultless all
                apply fine faultless
                intro other member
                exact (changeable_congr toggled.others).mpr
                  (all other (.tail _ member))

/-- `Set` and then the loop, whichever statements fail. -/
theorem execute_achieves (preferences : List Preference)
    (globalUnsubscribe : Bool) (userID : String) :
    Achieves environment conn
      (execute conn preferences globalUnsubscribe userID) database
      fun err after => err = none → ∃ between : Database,
        Tables.Toggled .globalUnsubscribes
          (Collation.key [userID]) globalUnsubscribe
          database.tables between.tables ∧
        Applied userID preferences between.tables after.tables := by
  apply achieves_bind (GlobalUnsubscribesRepo.set_achieves userID
    globalUnsubscribe)
  intro err between facts
  obtain ⟨toggles, _⟩ := facts
  cases err with
  | some error => exact achieves_pure (by simp)
  | none =>
      apply (applyAll_achieves userID preferences between).weaken
      intro err after facts success
      obtain ⟨done, _⟩ := facts
      exact ⟨between, toggles rfl, (done success).2⟩

/-- Without failing statements `Set` is done, and the loop starts from there,
whichever preferences follow. -/
theorem run_execute (faultless : Faultless environment) {world : World}
    (reads : world.read conn = some database) (globalUnsubscribe : Bool)
    (userID : String) :
    ∃ between : Database,
      Tables.Toggled .globalUnsubscribes
        (Collation.key [userID]) globalUnsubscribe
        database.tables between.tables ∧
      ∀ preferences, ∃ err after count,
        (execute conn preferences globalUnsubscribe userID).run
          (World.handle environment) world =
            (some err, world.advance conn after count) ∧
        (err = none ↔ ∀ preference ∈ preferences,
          Changeable database.tables preference) ∧
        (err = none →
          Applied userID preferences between.tables after.tables) := by
  obtain ⟨err, between, count, ran, toggles, calm⟩ :=
    @GlobalUnsubscribesRepo.set_achieves _ environment conn database userID
      globalUnsubscribe world reads
  cases calm faultless
  have toggled := toggles rfl
  have same : ∀ preference, Changeable between.tables preference ↔
      Changeable database.tables preference := by
    intro preference
    rw [Changeable, Changeable,
      Tables.lookup_congr (toggled.others .kinds (by decide))]
  refine ⟨between, toggled, ?_⟩
  intro preferences
  obtain ⟨err, after, more, ran', done, fine⟩ :=
    @applyAll_achieves _ environment conn userID preferences between
      (world.advance conn between count) World.read_advance
  refine ⟨err, after, count + more, ?_, ?_, fun success => (done success).2⟩
  · rw [execute, Program.run_bind_of _ ran]
    exact ran'.trans (by rw [World.advance_advance])
  · constructor
    · intro success preference member
      exact (same preference).mp ((done success).1 preference member)
    · intro all
      apply fine faultless
      intro preference member
      exact (same preference).mpr (all preference member)

end Run

end PreferenceUpdater

/-! ## The calls of an update -/

section Calls

variable {conn : Conn}

omit [Collation] in
theorem sql_onConn (statement : Statement) :
    (sql conn statement).Only (OnConn conn) :=
  sql_only rfl

theorem findUnsubscribe_onConn (clientID kindID userID : String) :
    (UnsubscribesRepo.find conn clientID kindID userID).Only
      (OnConn conn) :=
  Program.only_bind (selectOne_only rfl) fun _ => trivial

theorem upsertUnsubscribe_onConn (unsubscribe : Unsubscribe) :
    (UnsubscribesRepo.upsert conn unsubscribe).Only (OnConn conn) := by
  apply Program.only_bind (findUnsubscribe_onConn _ _ _)
  intro facts
  obtain ⟨found, err⟩ := facts
  split
  · apply Program.only_bind (nowTruncated_only trivial)
    intro now
    apply Program.only_bind (sql_onConn _)
    intro result
    cases result <;> exact trivial
  · exact trivial
  · exact trivial

theorem destroyUnsubscribe_onConn (unsubscribe : Unsubscribe) :
    (UnsubscribesRepo.destroy conn unsubscribe).Only (OnConn conn) := by
  apply Program.only_bind (findUnsubscribe_onConn _ _ _)
  intro result
  obtain ⟨found, err⟩ := result
  split
  · exact trivial
  · exact trivial
  · exact deleteAll_only _ fun _ => rfl

omit [Collation] in
theorem changeGlobalUnsubscribe_onConn (row : GlobalUnsubscribe)
    (unsubscribe : Bool) :
    (GlobalUnsubscribesRepo.change conn row unsubscribe).Only
      (OnConn conn) := by
  rw [GlobalUnsubscribesRepo.change]
  split
  · apply Program.only_bind (sql_onConn (.insert .globalUnsubscribes row))
    intro result
    cases result <;> exact trivial
  · split
    · apply Program.only_bind (sql_onConn (.delete .globalUnsubscribes row))
      intro result
      cases result <;> exact trivial
    · exact trivial

theorem setGlobalUnsubscribe_onConn (userGUID : String)
    (unsubscribe : Bool) :
    (GlobalUnsubscribesRepo.set conn userGUID unsubscribe).Only
      (OnConn conn) := by
  have finds : (GlobalUnsubscribesRepo.find conn userGUID).Only
      (OnConn conn) := selectOne_only rfl
  apply Program.only_bind finds
  intro result
  obtain ⟨found, err⟩ := result
  split
  · apply Program.only_perform trivial
    exact fun _ => changeGlobalUnsubscribe_onConn _ _
  · exact trivial
  · exact changeGlobalUnsubscribe_onConn _ _

theorem changeable_onConn (preference : Preference) :
    (PreferenceUpdater.changeable conn preference).Only (OnConn conn) := by
  apply Program.only_bind (KindsRepo.find_only (fun _ => rfl) _ _)
  intro result
  obtain ⟨kind, err⟩ := result
  cases err with
  | some error => exact trivial
  | none =>
      simp only
      split <;> exact trivial

theorem apply_onConn (userID : String) (preference : Preference) :
    (PreferenceUpdater.apply conn userID preference).Only (OnConn conn) := by
  rw [PreferenceUpdater.apply]
  cases preference.email with
  | false =>
      exact Program.only_bind (upsertUnsubscribe_onConn _) fun _ => trivial
  | true =>
      exact Program.only_bind (destroyUnsubscribe_onConn _) fun _ => trivial

theorem applyAll_onConn (userID : String) (preferences : List Preference) :
    (PreferenceUpdater.applyAll conn userID preferences).Only
      (OnConn conn) := by
  induction preferences with
  | nil => exact trivial
  | cons preference rest ih =>
      apply Program.only_bind (changeable_onConn preference)
      intro checked
      cases checked with
      | some error => exact trivial
      | none =>
          apply Program.only_bind (apply_onConn userID preference)
          intro applied
          cases applied with
          | some error => exact trivial
          | none => exact ih

theorem execute_onConn (preferences : List Preference)
    (globalUnsubscribe : Bool) (userID : String) :
    (PreferenceUpdater.execute conn preferences globalUnsubscribe
      userID).Only (OnConn conn) := by
  apply Program.only_bind (setGlobalUnsubscribe_onConn _ _)
  intro err
  cases err with
  | some error => exact trivial
  | none => exact applyAll_onConn userID preferences

end Calls

/-! ## The transaction -/

/-- The world after a `Begin` that has not failed. -/
def begun (world : World) : World :=
  ({ world with transaction := some world.database } : World).counted

theorem run_inTransaction_begun {environment : Environment}
    (faultless : Faultless environment) (body : Prog (Option Error))
    (world : World) :
    (inTransaction body).run (World.handle environment) world =
      (body >>= conclude).run (World.handle environment) (begun world) := by
  simp only [inTransaction, Program.perform_bind, Program.run_call,
    World.handle, World.attempt, faultless world.statements]
  rfl

/-- Without failing statements a transaction returns the error of its body,
and with an error the database is what it was. -/
theorem run_inTransaction_faultless {environment : Environment}
    (faultless : Faultless environment) {body : Prog (Option Error)}
    {world : World} {err : Option Error} {working : Database} {count : Nat}
    (ran : body.run (World.handle environment) (begun world) =
      (some err, (begun world).advance .transaction working count)) :
    ∃ after,
      (inTransaction body).run (World.handle environment) world =
        (some err, after) ∧
      after.database = if err = none then working else world.database := by
  rw [run_inTransaction_begun faultless, Program.run_bind_of _ ran]
  have working' : ((begun world).advance .transaction working
      count).transaction = some working := rfl
  cases err with
  | some error =>
      obtain ⟨answer, rolledBack⟩ := run_rollback environment working'
      exact ⟨_, Program.run_bind_of _ rolledBack, rfl⟩
  | none =>
      have committed := run_commit environment working'
      rw [faultless] at committed
      exact ⟨_, Program.run_bind_of _ committed, rfl⟩

/-! ## The whole update -/

namespace PreferenceUpdater

/-- The tables after an update: each listed entry is as its last occurrence
wants it, and all other rows stay.  A row that is to remain is the same row,
unless the list has switched it off in between. -/
structure Updated (userID : String) (preferences : List Preference)
    (globalUnsubscribe : Bool) (before after : Tables) : Prop where
  global : (∃ row ∈ after.rows .globalUnsubscribes,
    Collation.equal (GlobalUnsubscribe.userID row) userID) ↔
      globalUnsubscribe = true
  listed : ∀ clientID kindID email,
    lastEmail userID (Collation.key [userID, clientID, kindID])
      preferences = some email →
    ((∃ row ∈ after.rows .unsubscribes,
      Table.unsubscribes.uniqueKey row =
        Collation.key [userID, clientID, kindID]) ↔
        email = false)
  unique : ∀ table, ((after.rows table).map table.uniqueKey).Nodup
  unlisted : ∀ row : Unsubscribe,
    lastEmail userID (Table.unsubscribes.uniqueKey row) preferences = none →
    (row ∈ after.rows .unsubscribes ↔ row ∈ before.rows .unsubscribes)
  remaining : ∀ row ∈ before.rows .unsubscribes,
    (∀ preference ∈ preferences,
      keyOf userID preference = Table.unsubscribes.uniqueKey row →
        preference.email = false) →
    row ∈ after.rows .unsubscribes
  globals : ∀ row : GlobalUnsubscribe,
    (¬ Collation.equal row.userID userID ∨
      globalUnsubscribe = true ∧ row ∈ before.rows .globalUnsubscribes) →
    (row ∈ after.rows .globalUnsubscribes ↔
      row ∈ before.rows .globalUnsubscribes)
  others : ∀ table, table ≠ .unsubscribes → table ≠ .globalUnsubscribes →
    after.rows table = before.rows table

/-- Two outcomes of one update: they differ at most in the primary keys and
times of the unsubscribes that it has created. -/
structure Alike (before left right : Tables) : Prop where
  unsubscribes : ∀ key,
    left.lookup .unsubscribes key = right.lookup .unsubscribes key ∨
    before.lookup .unsubscribes key = none ∧
      (left.lookup .unsubscribes key).isSome ∧
      (right.lookup .unsubscribes key).isSome
  others : ∀ table, table ≠ .unsubscribes →
    left.rows table = right.rows table

theorem lookup_isSome_iff {database : Database} {table : Table}
    {key : List String} :
    (database.tables.lookup table key).isSome = true ↔
      ∃ row ∈ database.tables.rows table, table.uniqueKey row = key := by
  rw [Option.isSome_iff_exists]
  exact exists_congr fun row => database.sound.lookup_iff

theorem mem_congr {before after : Database} {table : Table} {row : table.Row}
    (same : after.tables.lookup table (table.uniqueKey row) =
      before.tables.lookup table (table.uniqueKey row)) :
    row ∈ after.tables.rows table ↔ row ∈ before.tables.rows table := by
  have inAfter : after.tables.lookup table (table.uniqueKey row) = some row ↔
      row ∈ after.tables.rows table ∧ _ := after.sound.lookup_iff
  have inBefore : before.tables.lookup table (table.uniqueKey row) =
      some row ↔ row ∈ before.tables.rows table ∧ _ :=
    before.sound.lookup_iff
  rw [same, inBefore] at inAfter
  simpa using inAfter.symm

theorem Applied.updated {userID : String} {preferences : List Preference}
    {globalUnsubscribe : Bool} {before between after : Database}
    (toggled : Tables.Toggled .globalUnsubscribes
      (Collation.key [userID]) globalUnsubscribe
      before.tables between.tables)
    (applied : Applied userID preferences between.tables after.tables) :
    Updated userID preferences globalUnsubscribe before.tables
      after.tables := by
  have unsubscribes := Tables.lookup_congr
    (toggled.others .unsubscribes (by decide))
  have globals := Tables.lookup_congr
    (applied.others .globalUnsubscribes (by decide))
  refine ⟨?_, ?_, after.sound.uniqueKey, ?_, ?_, ?_, ?_⟩
  · rw [← toggled.present, ← globals, lookup_isSome_iff]
    simp [Table.uniqueKey]
  · intro clientID kindID email wanted
    rw [← lookup_isSome_iff, applied.listed _ email wanted]
    simp
  · intro row unmentioned
    apply mem_congr
    rw [applied.unlisted _ unmentioned, unsubscribes]
  · intro row stored never
    have found : before.tables.lookup .unsubscribes
        (Table.unsubscribes.uniqueKey row) = some row :=
      before.sound.lookup_iff.mpr ⟨stored, rfl⟩
    rw [← unsubscribes] at found
    exact (Tables.lookup_eq_some (applied.kept _ row found never)).1
  · intro row kept
    apply mem_congr
    rw [globals]
    rcases kept with other | ⟨rfl, stored⟩
    · apply toggled.elsewhere
      simpa [Table.uniqueKey] using other
    · by_cases own : Collation.equal row.userID userID
      · have present : (before.tables.lookup .globalUnsubscribes
            (Collation.key [userID])).isSome = true :=
          lookup_isSome_iff.mpr ⟨row, stored, Collation.key_congr own⟩
        rw [toggled.idle present]
      · apply toggled.elsewhere
        simpa [Table.uniqueKey] using own
  · intro table notUnsubscribes notGlobals
    rw [applied.others table notUnsubscribes, toggled.others table notGlobals]

section Order

variable {userID : String} {preferences permuted : List Preference}

theorem lastEmail_eq_none {key : List String}
    (never : ∀ preference ∈ preferences, keyOf userID preference ≠ key) :
    lastEmail userID key preferences = none := by
  induction preferences with
  | nil => rfl
  | cons first rest ih =>
      rw [lastEmail, if_neg (never first (.head _)), Option.or_none]
      exact ih fun preference member => never preference (.tail _ member)

/-- With different keys there is only one occurrence. -/
theorem lastEmail_iff (distinct : (preferences.map (keyOf userID)).Nodup)
    {key : List String} {email : Bool} :
    lastEmail userID key preferences = some email ↔
      ∃ preference ∈ preferences, keyOf userID preference = key ∧
        preference.email = email := by
  induction preferences with
  | nil => simp [lastEmail]
  | cons first rest ih =>
      rw [List.map_cons, List.nodup_cons] at distinct
      have later := ih distinct.2
      rw [lastEmail, List.exists_mem_cons_iff, ← later]
      by_cases same : keyOf userID first = key
      · have never : lastEmail userID key rest = none := by
          apply lastEmail_eq_none
          intro again member equal
          apply distinct.1
          rw [same, ← equal]
          exact List.mem_map_of_mem member
        simp [never, same]
      · simp [same]

theorem lastEmail_perm (distinct : (preferences.map (keyOf userID)).Nodup)
    (perm : preferences.Perm permuted) (key : List String) :
    lastEmail userID key permuted = lastEmail userID key preferences := by
  have distinct' : (permuted.map (keyOf userID)).Nodup :=
    (perm.map _).nodup_iff.mp distinct
  apply Option.ext
  intro email
  rw [lastEmail_iff distinct, lastEmail_iff distinct']
  simp only [perm.mem_iff]

theorem Applied.alike {before left right : Tables}
    (distinct : (preferences.map (keyOf userID)).Nodup)
    (perm : preferences.Perm permuted)
    (one : Applied userID preferences before left)
    (other : Applied userID permuted before right) :
    Alike before left right where
  others := by
    intro table different
    rw [one.others table different, other.others table different]
  unsubscribes := by
    intro key
    have same := lastEmail_perm distinct perm key
    cases wanted : lastEmail userID key preferences with
    | none =>
        rw [wanted] at same
        exact .inl ((one.unlisted key wanted).trans
          (other.unlisted key same).symm)
    | some email =>
        rw [wanted] at same
        have inLeft := one.listed key email wanted
        have inRight := other.listed key email same
        cases email with
        | true =>
            left
            simp only [Bool.not_true, Option.isSome_eq_false_iff,
              Option.isNone_iff_eq_none] at inLeft inRight
            rw [inLeft, inRight]
        | false =>
            cases old : before.lookup .unsubscribes key with
            | none => exact .inr ⟨rfl, inLeft, inRight⟩
            | some row =>
                left
                have never : ∀ preference ∈ preferences,
                    keyOf userID preference = key →
                      preference.email = false := by
                  intro preference member mine
                  have found := (lastEmail_iff distinct).mpr
                    ⟨preference, member, mine, rfl⟩
                  rw [wanted, Option.some.injEq] at found
                  exact found.symm
                rw [one.kept key row old never, other.kept key row old]
                intro preference member
                exact never preference (perm.mem_iff.mpr member)

end Order

/-- An update that meets no failing statement succeeds iff all listed kinds
can be changed, and then does what it says; otherwise it changes nothing.  For
different keys the order decides only about the new rows' numbers and times. -/
theorem update_does_what_it_says (environment : Environment)
    (faultless : Faultless environment) (world : World) (userID : String)
    (globalUnsubscribe : Bool) (preferences : List Preference) :
    ∃ result after,
      (inTransaction (execute .transaction preferences globalUnsubscribe
        userID)).run (World.handle environment) world =
          (some result, after) ∧
      (result = none ↔ ∀ preference ∈ preferences,
        Changeable world.database.tables preference) ∧
      (result = none → Updated userID preferences globalUnsubscribe
        world.database.tables after.database.tables) ∧
      (result ≠ none → after.database = world.database) ∧
      ∀ permuted, preferences.Perm permuted →
        (preferences.map (keyOf userID)).Nodup →
        ∃ result' after',
          (inTransaction (execute .transaction permuted globalUnsubscribe
            userID)).run (World.handle environment) world =
              (some result', after') ∧
          (result' = none ↔ result = none) ∧
          Alike world.database.tables after.database.tables
            after'.database.tables := by
  obtain ⟨between, toggled, runs⟩ := @run_execute _ environment .transaction
    world.database faultless (begun world) rfl globalUnsubscribe userID
  obtain ⟨result, working, count, ran, success, applied⟩ := runs preferences
  obtain ⟨after, ran, database⟩ := run_inTransaction_faultless faultless ran
  refine ⟨result, after, ran, success, ?_, ?_, ?_⟩
  · intro same
    subst same
    rw [database, if_pos rfl]
    exact (applied rfl).updated toggled
  · intro failed
    rw [database, if_neg failed]
  · intro permuted perm distinct
    obtain ⟨result', working', count', ran', success', applied'⟩ :=
      runs permuted
    obtain ⟨after', ran', database'⟩ :=
      run_inTransaction_faultless faultless ran'
    have both : result' = none ↔ result = none := by
      rw [success, success']
      simp only [perm.mem_iff]
    refine ⟨result', after', ran', both, ?_⟩
    rw [database, database']
    by_cases done : result = none
    · rw [if_pos done, if_pos (both.mpr done)]
      have alike := (applied done).alike distinct perm
        (applied' (both.mpr done))
      refine ⟨?_, alike.others⟩
      intro key
      rw [← Tables.lookup_congr (toggled.others .unsubscribes (by decide))]
      exact alike.unsubscribes key
    · rw [if_neg done, if_neg (mt both.mp done)]
      exact ⟨fun _ => .inl rfl, fun _ _ => rfl⟩

end PreferenceUpdater

end Collated

namespace PreferenceUpdater

attribute [local instance] Collation.binary

def sampleUnsubscribed : World :=
  .start [.insert .kinds ⟨0, "kind", "", false, "client", 0, 0, "default"⟩,
    .insert .kinds ⟨0, "other", "", false, "client", 0, 0, "default"⟩,
    .insert .unsubscribes ⟨0, "user", "client", "kind", 0⟩]

theorem update_does_what_it_says_sample :
    Faultless .calm ∧ ∃ after,
      (inTransaction (execute .transaction
        [⟨"client", "kind", true⟩, ⟨"client", "other", false⟩] true
        "user")).run (World.handle .calm) sampleUnsubscribed =
          (some none, after) ∧
      Updated "user" [⟨"client", "kind", true⟩, ⟨"client", "other", false⟩]
        true sampleUnsubscribed.database.tables after.database.tables := by
  have faultless : Faultless .calm := fun _ => rfl
  obtain ⟨result, after, ran, success, updated, _⟩ :=
    update_does_what_it_says .calm faultless sampleUnsubscribed "user" true
      [⟨"client", "kind", true⟩, ⟨"client", "other", false⟩]
  have done : result = none := by
    rw [success]
    intro preference member
    rcases List.mem_cons.mp member with rfl | member
    · exact ⟨_, rfl, rfl⟩
    · rw [List.mem_singleton] at member
      subst member
      exact ⟨_, rfl, rfl⟩
  exact ⟨faultless, after, done ▸ ran, updated done⟩

def sampleRows (userID : String) (preferences : List Preference) :
    Option (List Unsubscribe) :=
  match (inTransaction (execute .transaction preferences false userID)).run
      (World.handle .calm) sampleUnsubscribed with
  | (some none, after) => some (after.database.tables.rows .unsubscribes)
  | _ => none

/-- A row that is switched off and on again is not the row that was there, and
the order of two new rows can be seen in their primary keys. -/
theorem update_replaces_remaining_row :
    (sampleUnsubscribed.database.tables.rows .unsubscribes =
        [⟨1, "user", "client", "kind", 0⟩] ∧
      lastEmail "user" ["user", "client", "kind"]
        [⟨"client", "kind", true⟩, ⟨"client", "kind", false⟩] = some false ∧
      sampleRows "user"
          [⟨"client", "kind", true⟩, ⟨"client", "kind", false⟩] =
        some [⟨2, "user", "client", "kind", 0⟩]) ∧
    sampleRows "reader"
        [⟨"client", "kind", false⟩, ⟨"client", "other", false⟩] =
      some [⟨1, "user", "client", "kind", 0⟩,
        ⟨2, "reader", "client", "kind", 0⟩,
        ⟨3, "reader", "client", "other", 0⟩] ∧
    sampleRows "reader"
        [⟨"client", "other", false⟩, ⟨"client", "kind", false⟩] =
      some [⟨1, "user", "client", "kind", 0⟩,
        ⟨2, "reader", "client", "other", 0⟩,
        ⟨3, "reader", "client", "kind", 0⟩] := by
  decide +kernel

end PreferenceUpdater

end Notifications.Services
