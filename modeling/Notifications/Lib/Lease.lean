import Notifications.Lib.Versioned
import Mathlib.Logic.Function.Basic

/-!
# Leases on versioned rows

The locking protocol in general terms.  A client first sees a free row, then
takes it by writing the row it saw with the next version, works on it, and
gives it back (another versioned write) or removes it.  Seeing and taking are
separate steps, so any number of clients can have seen the same row.  A client
may also stop counting as the holder of its row and only keep what it saw; it
can still give the row back.

`clear` takes leases away without telling their holders: it changes rows but
neither keys nor versions.  As long as it only happens while nobody holds a
row, a row has at most one holder and every holder's copy is current
(`Exclusive`).  Whatever happens, no copy is ahead of its row (`Sound`) and the
table only advances.
-/

set_option autoImplicit false

namespace Notifications.Lib.Lease

open Versioned

inductive Client (Row : Type) where
  | away
  | seen (copy : Row)
  | holds (copy : Row)

structure State (Row Name : Type) where
  rows : List Row
  fresh : Nat
  client : Name → Client Row

variable {Row Name : Type} [Versioned Row] [DecidableEq Name]

def HasCopy (state : State Row Name) (name : Name) (copy : Row) : Prop :=
  state.client name = .seen copy ∨ state.client name = .holds copy

/-- The client is left with this row, as its holder or not. -/
def Client.Keeps (client : Client Row) (row : Row) : Prop :=
  client = .holds row ∨ client = .seen row

/-- One step of the protocol; the flag tells whether it clears leases. -/
inductive Step (free : Row → Prop) :
    Bool → State Row Name → State Row Name → Prop where
  | see {state : State Row Name} (name : Name) (row : Row)
      (member : row ∈ state.rows) (isFree : free row) :
      Step free false state
        { state with client := Function.update state.client name (.seen row) }
  | take {state : State Row Name} (name : Name) (copy written : Row)
      (saw : state.client name = .seen copy)
      (current : Current state.rows copy)
      (sameKey : key written = key copy)
      (next : version written = version copy + 1)
      (locked : ¬ free written)
      (client : Client Row) (keeps : client.Keeps written) :
      Step free false state
        { state with
          rows := updateWhere (matched copy (version copy))
            (fun _ => written) state.rows
          client := Function.update state.client name client }
  | touch {state : State Row Name} (name : Name) (copy changed : Row)
      (held : state.client name = .holds copy)
      (sameKey : key changed = key copy)
      (sameVersion : version changed = version copy)
      (client : Client Row) (keeps : client.Keeps changed) :
      Step free false state
        { state with
          client := Function.update state.client name client }
  | giveBack {state : State Row Name} (name : Name) (copy written : Row)
      (has : HasCopy state name copy)
      (current : Current state.rows copy)
      (sameKey : key written = key copy)
      (next : version written = version copy + 1) :
      Step free false state
        { state with
          rows := updateWhere (matched copy (version copy))
            (fun _ => written) state.rows
          client := Function.update state.client name .away }
  | remove {state : State Row Name} (name : Name) (copy : Row)
      (held : state.client name = .holds copy)
      (current : Current state.rows copy) :
      Step free false state
        { state with
          rows := deleteWhere (matched copy (version copy)) state.rows
          client := Function.update state.client name .away }
  | leave {state : State Row Name} (client : Name → Client Row)
      (fewer : ∀ name, client name = state.client name ∨
        client name = .away) :
      Step free false state { state with client := client }
  | add {state : State Row Name} (row : Row) (isNew : key row = state.fresh)
      (started : 0 < version row) :
      Step free false state
        { state with rows := state.rows ++ [row], fresh := state.fresh + 1 }
  | clear {state : State Row Name} (rows : List Row)
      (keys : rows.map key = state.rows.map key)
      (versions : ∀ row ∈ rows, ∃ old ∈ state.rows, key old = key row ∧
        version old = version row) :
      Step free true state { state with rows := rows }

/-- What holds whatever is cleared and whenever. -/
structure Sound (state : State Row Name) : Prop where
  unique : UniqueBy key state.rows
  known : ∀ row ∈ state.rows, key row < state.fresh
  started : ∀ row ∈ state.rows, 0 < version row
  copyKnown : ∀ name copy, HasCopy state name copy → key copy < state.fresh
  copyStarted : ∀ name copy, HasCopy state name copy → 0 < version copy
  behind : ∀ name copy, HasCopy state name copy → Behind state.rows copy

/-- What holds as long as leases are cleared only while nobody has one. -/
structure Exclusive (free : Row → Prop) (state : State Row Name) : Prop where
  held : ∀ name copy, state.client name = .holds copy →
    ∃ row ∈ state.rows, key row = key copy ∧ version row = version copy ∧
      ¬ free row
  outrun : ∀ name other copy taken, state.client name = .seen copy →
    state.client other = .holds taken → key copy = key taken →
      version copy < version taken
  alone : ∀ name other copy taken, state.client name = .holds copy →
    state.client other = .holds taken → key copy = key taken → name = other

def Quiet (state : State Row Name) : Prop :=
  ∀ name copy, state.client name ≠ .holds copy

/-! ## The table only advances -/

variable {free : Row → Prop} {clears : Bool} {before after : State Row Name}

theorem Step.advances (step : Step free clears before after) :
    Advances before.fresh before.rows after.rows := by
  cases step with
  | see name row member isFree => exact Advances.refl _ _
  | take name copy written saw current sameKey next locked client keeps =>
      exact updated_advances _ sameKey (by omega)
  | touch name copy changed held sameKey sameVersion client keeps =>
      exact Advances.refl _ _
  | giveBack name copy written has current sameKey next =>
      exact updated_advances _ sameKey (by omega)
  | remove name copy held current => exact deleted_advances _
  | leave client fewer => exact Advances.refl _ _
  | add row isNew started =>
      rw [← isNew]
      exact appended_advances
  | clear rows keys versions =>
      intro row member
      obtain ⟨old, oldMember, sameKey, sameVersion⟩ := versions row member
      exact .inr ⟨old, oldMember, sameKey, Nat.le_of_eq sameVersion⟩

theorem Step.fresh_le (step : Step free clears before after) :
    before.fresh ≤ after.fresh := by
  cases step <;> simp

omit [Versioned Row] [DecidableEq Name] in
theorem Client.Keeps.eq_of_hasCopy {client : Client Row} {row copy : Row}
    (keeps : client.Keeps row)
    (has : client = .seen copy ∨ client = .holds copy) : row = copy := by
  rcases keeps with rfl | rfl
  · rcases has with bad | same
    · cases bad
    · exact Client.holds.inj same
  · rcases has with same | bad
    · exact Client.seen.inj same
    · cases bad

/-- A copy after a step was a copy before it, was read from the table, was
written to it, or has the key and version of a copy from before. -/
theorem Step.copy_origin (step : Step free clears before after)
    {name : Name} {copy : Row} (has : HasCopy after name copy) :
    HasCopy before name copy ∨ copy ∈ before.rows ∨
      (∃ old, HasCopy before name old ∧ key copy = key old ∧
        version copy = version old) ∨
      (∃ old, HasCopy before name old ∧ key copy = key old ∧
        version copy = version old + 1 ∧ copy ∈ after.rows) := by
  cases step with
  | see actor row member isFree =>
      by_cases same : name = actor
      · subst same
        simp only [HasCopy, Function.update_self] at has
        rcases has with saw | held
        · cases saw
          exact .inr (.inl member)
        · cases held
      · simp only [HasCopy, Function.update_of_ne same] at has
        exact .inl has
  | take actor seen written saw current sameKey next locked client keeps =>
      by_cases same : name = actor
      · subst same
        simp only [HasCopy, Function.update_self] at has
        have equal := keeps.eq_of_hasCopy has
        subst equal
        refine .inr (.inr (.inr ⟨seen, .inl saw, sameKey, next, ?_⟩))
        exact mem_updated.mpr (.inr ⟨current, rfl⟩)
      · simp only [HasCopy, Function.update_of_ne same] at has
        exact .inl has
  | touch actor old changed held sameKey sameVersion client keeps =>
      by_cases same : name = actor
      · subst same
        simp only [HasCopy, Function.update_self] at has
        have equal := keeps.eq_of_hasCopy has
        subst equal
        exact .inr (.inr (.inl ⟨old, .inr held, sameKey, sameVersion⟩))
      · simp only [HasCopy, Function.update_of_ne same] at has
        exact .inl has
  | giveBack actor old written had current sameKey next =>
      by_cases same : name = actor
      · subst same
        simp [HasCopy] at has
      · simp only [HasCopy, Function.update_of_ne same] at has
        exact .inl has
  | remove actor old held current =>
      by_cases same : name = actor
      · subst same
        simp [HasCopy] at has
      · simp only [HasCopy, Function.update_of_ne same] at has
        exact .inl has
  | leave client fewer =>
      rcases fewer name with same | gone
      · simp only [HasCopy, same] at has
        exact .inl has
      · simp [HasCopy, gone] at has
  | add row isNew started => exact .inl has
  | clear rows keys versions => exact .inl has

/-! ## Every reachable state is sound -/

theorem Step.unique_kept (step : Step free clears before after)
    (sound : Sound before) : UniqueBy key after.rows := by
  cases step with
  | see name row member isFree => exact sound.unique
  | take name copy written saw current sameKey next locked client keeps =>
      exact updated_unique sound.unique sameKey
  | touch name copy changed held sameKey sameVersion client keeps => exact sound.unique
  | giveBack name copy written has current sameKey next =>
      exact updated_unique sound.unique sameKey
  | remove name copy held current => exact sound.unique.deleteWhere _
  | leave client fewer => exact sound.unique
  | add row isNew started =>
      apply sound.unique.append_fresh
      intro old member
      have := sound.known old member
      omega
  | clear rows keys versions =>
      rw [UniqueBy, keys]
      exact sound.unique

theorem Step.rows_kept (step : Step free clears before after)
    (sound : Sound before) :
    ∀ row ∈ after.rows, key row < after.fresh ∧ 0 < version row := by
  intro row member
  have grown := step.fresh_le
  have kept : ∀ old ∈ before.rows, key old = key row →
      version old ≤ version row → key row < after.fresh ∧ 0 < version row := by
    intro old oldMember sameKey older
    have known := sound.known old oldMember
    have started := sound.started old oldMember
    omega
  cases step with
  | see name seen found isFree =>
      exact kept row member rfl (Nat.le_refl _)
  | take name copy written saw current sameKey next locked client keeps =>
      rcases mem_updated.mp member with ⟨old, _⟩ | ⟨⟨old, found, same⟩, rfl⟩
      · exact kept row old rfl (Nat.le_refl _)
      · exact kept old found (by rw [sameKey, same.1]) (by omega)
  | touch name copy changed held sameKey sameVersion client keeps =>
      exact kept row member rfl (Nat.le_refl _)
  | giveBack name copy written has current sameKey next =>
      rcases mem_updated.mp member with ⟨old, _⟩ | ⟨⟨old, found, same⟩, rfl⟩
      · exact kept row old rfl (Nat.le_refl _)
      · exact kept old found (by rw [sameKey, same.1]) (by omega)
  | remove name copy held current =>
      exact kept row (mem_deleted.mp member).1 rfl (Nat.le_refl _)
  | leave client fewer => exact kept row member rfl (Nat.le_refl _)
  | add added isNew started =>
      rcases List.mem_append.mp member with old | last
      · exact kept row old rfl (Nat.le_refl _)
      · rw [List.mem_singleton.mp last]
        exact ⟨by simp [isNew], started⟩
  | clear rows keys versions =>
      obtain ⟨old, found, sameKey, sameVersion⟩ := versions row member
      exact kept old found sameKey (Nat.le_of_eq sameVersion)

omit [DecidableEq Name] in
/-- A row read from a table with a unique key is behind nothing in it. -/
theorem Sound.behind_of_mem {state : State Row Name} (sound : Sound state)
    {row : Row} (member : row ∈ state.rows) : Behind state.rows row := by
  intro other otherMember same
  have equal := sound.unique.eq_of_mem otherMember member same
  exact Nat.le_of_eq (by rw [equal])

theorem Step.sound (step : Step free clears before after)
    (sound : Sound before) : Sound after := by
  have unique := step.unique_kept sound
  have rows := step.rows_kept sound
  have copies : ∀ name copy, HasCopy after name copy →
      key copy < after.fresh ∧ 0 < version copy ∧
        Behind after.rows copy := by
    intro name copy has
    have grown := step.fresh_le
    rcases step.copy_origin has with
      old | read | ⟨old, had, sameKey, sameVersion⟩ |
        ⟨old, had, sameKey, next, stored⟩
    · have known := sound.copyKnown name copy old
      refine ⟨by omega, sound.copyStarted name copy old, ?_⟩
      exact (sound.behind name copy old).advance known step.advances
    · have known := sound.known copy read
      refine ⟨by omega, sound.started copy read, ?_⟩
      exact (sound.behind_of_mem read).advance known step.advances
    · have known := sound.copyKnown name old had
      have started := sound.copyStarted name old had
      refine ⟨by omega, by omega, ?_⟩
      intro row member same
      have behind := (sound.behind name old had).advance known step.advances
      have := behind row member (same.trans sameKey)
      omega
    · have known := rows copy stored
      refine ⟨known.1, known.2, ?_⟩
      intro row member same
      have equal := unique.eq_of_mem member stored same
      exact Nat.le_of_eq (by rw [equal])
  exact {
    unique := unique
    known := fun row member => (rows row member).1
    started := fun row member => (rows row member).2
    copyKnown := fun name copy has => (copies name copy has).1
    copyStarted := fun name copy has => (copies name copy has).2.1
    behind := fun name copy has => (copies name copy has).2.2 }

/-- Unless leases are cleared, what a copy says about its version stays true:
no step writes a row with the key and version of an old copy. -/
theorem Step.mem_of_copy (step : Step free false before after)
    (sound : Sound before) {name : Name} {copy row : Row}
    (has : HasCopy before name copy) (member : row ∈ after.rows)
    (sameKey : key row = key copy) (sameVersion : version row = version copy) :
    row ∈ before.rows := by
  have behind := sound.behind name copy has
  have notWritten : ∀ old written, Current before.rows old →
      key written = key old → version written = version old + 1 →
        row ≠ written := by
    intro old written current writtenKey next equal
    obtain ⟨found, foundMember, foundKey, foundVersion⟩ := current
    rw [equal] at sameKey sameVersion
    have below := behind found foundMember (by omega)
    omega
  cases step with
  | see name seen found isFree => exact member
  | take name seen written saw current writtenKey next locked client keeps =>
      rcases mem_updated.mp member with ⟨old, _⟩ | ⟨_, equal⟩
      · exact old
      · exact absurd equal (notWritten seen written current writtenKey next)
  | touch name old changed held changedKey changedVersion client keeps =>
      exact member
  | giveBack name old written had current writtenKey next =>
      rcases mem_updated.mp member with ⟨kept, _⟩ | ⟨_, equal⟩
      · exact kept
      · exact absurd equal (notWritten old written current writtenKey next)
  | remove name old held current => exact (mem_deleted.mp member).1
  | leave client fewer => exact member
  | add added isNew started =>
      rcases List.mem_append.mp member with old | last
      · exact old
      · have known := sound.copyKnown name copy has
        rw [List.mem_singleton.mp last] at sameKey
        omega

/-! ## Exclusive leases -/

omit [DecidableEq Name] in
/-- The row of a held copy, when leases are exclusive. -/
theorem Exclusive.current {state : State Row Name}
    (exclusive : Exclusive free state) {name : Name} {copy : Row}
    (held : state.client name = .holds copy) : Current state.rows copy := by
  obtain ⟨row, member, sameKey, sameVersion, _⟩ := exclusive.held name copy held
  exact ⟨row, member, sameKey, sameVersion⟩

omit [DecidableEq Name] in
/-- Whoever has seen the current version of a row finds it without a holder. -/
theorem Exclusive.not_held_of_seen {state : State Row Name}
    (exclusive : Exclusive free state) (sound : Sound state)
    {name other : Name} {copy taken : Row}
    (saw : state.client name = .seen copy)
    (current : Current state.rows copy)
    (held : state.client other = .holds taken) : key copy ≠ key taken := by
  intro same
  obtain ⟨row, member, sameKey, sameVersion⟩ := current
  obtain ⟨mine, mineMember, mineKey, mineVersion, _⟩ :=
    exclusive.held other taken held
  have equal : row = mine :=
    sound.unique.eq_of_mem member mineMember (by omega)
  have outrun := exclusive.outrun name other copy taken saw held same
  rw [equal] at sameVersion
  omega

/-- Rows that no other client holds can be written or deleted without
disturbing the other leases. -/
theorem Exclusive.write {state : State Row Name}
    (exclusive : Exclusive free state) (actor : Name) (copy : Row)
    {rows : List Row} {client : Client Row}
    (others : ∀ name taken, name ≠ actor →
      state.client name = .holds taken → key taken ≠ key copy)
    (survives : ∀ row ∈ state.rows, key row ≠ key copy → row ∈ rows)
    (mine : ∀ taken, client = .holds taken → key taken = key copy ∧
      (∃ row ∈ rows, key row = key taken ∧ version row = version taken ∧
        ¬ free row) ∧
      ∀ name seen, state.client name = .seen seen → key seen = key copy →
        version seen < version taken)
    (saw : ∀ seen, client = .seen seen → key seen = key copy) (fresh : Nat) :
    Exclusive free
      { rows := rows, fresh := fresh,
        client := Function.update state.client actor client } where
  held := by
    intro name taken holds
    by_cases same : name = actor
    · subst same
      simp only [Function.update_self] at holds
      exact (mine taken holds).2.1
    · simp only [Function.update_of_ne same] at holds
      obtain ⟨row, member, sameKey, sameVersion, locked⟩ :=
        exclusive.held name taken holds
      have differs := others name taken same holds
      exact ⟨row, survives row member (by omega), sameKey, sameVersion, locked⟩
  outrun := by
    intro name other seen taken seerSaw holds sameKey
    by_cases sameName : name = actor
    · subst sameName
      simp only [Function.update_self] at seerSaw
      have seenKey := saw seen seerSaw
      by_cases sameOther : other = name
      · subst sameOther
        simp [seerSaw] at holds
      · simp only [Function.update_of_ne sameOther] at holds
        exact absurd (by omega) (others other taken sameOther holds)
    · simp only [Function.update_of_ne sameName] at seerSaw
      by_cases sameOther : other = actor
      · subst sameOther
        simp only [Function.update_self] at holds
        obtain ⟨takenKey, _, outrun⟩ := mine taken holds
        exact outrun name seen seerSaw (by omega)
      · simp only [Function.update_of_ne sameOther] at holds
        exact exclusive.outrun name other seen taken seerSaw holds sameKey
  alone := by
    intro name other left right leftHolds rightHolds sameKey
    by_cases sameName : name = actor
    · by_cases sameOther : other = actor
      · rw [sameName, sameOther]
      · subst sameName
        simp only [Function.update_self] at leftHolds
        simp only [Function.update_of_ne sameOther] at rightHolds
        have leftKey := (mine left leftHolds).1
        exact absurd (by omega) (others other right sameOther rightHolds)
    · simp only [Function.update_of_ne sameName] at leftHolds
      by_cases sameOther : other = actor
      · subst sameOther
        simp only [Function.update_self] at rightHolds
        have rightKey := (mine right rightHolds).1
        exact absurd (by omega) (others name left sameName leftHolds)
      · simp only [Function.update_of_ne sameOther] at rightHolds
        exact exclusive.alone name other left right leftHolds rightHolds sameKey

omit [Versioned Row] in
theorem holds_of_update {clients : Name → Client Row} {actor name : Name}
    {client : Client Row} {copy : Row}
    (notHolds : ∀ copy, client ≠ .holds copy)
    (holds : Function.update clients actor client name = .holds copy) :
    clients name = .holds copy := by
  by_cases same : name = actor
  · subst same
    simp only [Function.update_self] at holds
    exact absurd holds (notHolds copy)
  · simpa only [Function.update_of_ne same] using holds

/-- Seeing a free row disturbs nobody: a free row has no holder. -/
theorem Exclusive.see {state : State Row Name}
    (exclusive : Exclusive free state) (sound : Sound state) (name : Name)
    {row : Row} (member : row ∈ state.rows) (isFree : free row) :
    Exclusive free
      { state with
        client := Function.update state.client name (.seen row) } where
  held := by
    intro other taken holds
    exact exclusive.held other taken (holds_of_update (by simp) holds)
  outrun := by
    intro seer other copy taken saw holds sameKey
    have otherHolds := holds_of_update (by simp) holds
    by_cases same : seer = name
    · subst same
      simp only [Function.update_self, Client.seen.injEq] at saw
      subst saw
      obtain ⟨mine, mineMember, mineKey, _, locked⟩ :=
        exclusive.held other taken otherHolds
      have equal := sound.unique.eq_of_mem member mineMember (by omega)
      rw [equal] at isFree
      exact absurd isFree locked
    · simp only [Function.update_of_ne same] at saw
      exact exclusive.outrun seer other copy taken saw otherHolds sameKey
  alone := by
    intro left right copy taken leftHolds rightHolds sameKey
    exact exclusive.alone left right copy taken
      (holds_of_update (by simp) leftHolds)
      (holds_of_update (by simp) rightHolds) sameKey

omit [DecidableEq Name] in
theorem Exclusive.others {state : State Row Name}
    (exclusive : Exclusive free state) {actor : Name} {copy : Row}
    (held : state.client actor = .holds copy) :
    ∀ name taken, name ≠ actor → state.client name = .holds taken →
      key taken ≠ key copy := by
  intro name taken differs holds same
  exact differs (exclusive.alone name actor taken copy holds held same)

omit [DecidableEq Name] in
/-- Whoever could give a row back is not in the way of another holder. -/
theorem Exclusive.others_of_copy {state : State Row Name}
    (exclusive : Exclusive free state) (sound : Sound state) {actor : Name}
    {copy : Row} (has : HasCopy state actor copy)
    (current : Current state.rows copy) :
    ∀ name taken, name ≠ actor → state.client name = .holds taken →
      key taken ≠ key copy := by
  rcases has with saw | held
  · intro name taken _ holds same
    exact exclusive.not_held_of_seen sound saw current holds same.symm
  · exact exclusive.others held

omit [DecidableEq Name] in
/-- Clients may go away, whatever they have seen or hold. -/
theorem Exclusive.leave {state : State Row Name}
    (exclusive : Exclusive free state) {client : Name → Client Row}
    (fewer : ∀ name, client name = state.client name ∨
      client name = .away) :
    Exclusive free { state with client := client } := by
  have remains : ∀ name copied, client name = copied → copied ≠ .away →
      state.client name = copied := by
    intro name copied here present
    rcases fewer name with same | gone
    · rw [← same, here]
    · exact absurd (here.symm.trans gone) present
  exact {
    held := fun name copy held => exclusive.held name copy
      (remains name _ held nofun)
    outrun := fun name other copy taken saw held => exclusive.outrun name
      other copy taken (remains name _ saw nofun)
      (remains other _ held nofun)
    alone := fun name other copy taken left right => exclusive.alone name
      other copy taken (remains name _ left nofun)
      (remains other _ right nofun) }

theorem Step.exclusive (step : Step free clears before after)
    (sound : Sound before) (exclusive : Exclusive free before)
    (quiet : clears = true → Quiet before) : Exclusive free after := by
  cases step with
  | see name row member isFree =>
      exact exclusive.see sound name member isFree
  | take name copy written saw current sameKey next locked client keeps =>
      refine exclusive.write name copy
        (exclusive.others_of_copy sound (.inl saw) current) ?_ ?_ ?_ _
      · intro row member differs
        exact mem_updated_of_key_ne member differs
      · intro taken holds
        have equal := keeps.eq_of_hasCopy (.inr holds)
        subst equal
        refine ⟨sameKey, ⟨written, ?_, rfl, rfl, locked⟩, ?_⟩
        · exact mem_updated.mpr (.inr ⟨current, rfl⟩)
        · -- a copy seen earlier is behind the row that was just replaced
          intro seer seen seerSaw seenKey
          obtain ⟨row, member, rowKey, rowVersion⟩ := current
          have behind := sound.behind seer seen (.inl seerSaw) row member
            (by omega)
          omega
      · intro seen has
        rw [← keeps.eq_of_hasCopy (.inl has), sameKey]
  | touch name copy changed held sameKey sameVersion client keeps =>
      refine exclusive.write name copy (exclusive.others held) ?_ ?_ ?_ _
      · intro row member _
        exact member
      · intro taken holds
        have equal := keeps.eq_of_hasCopy (.inr holds)
        subst equal
        obtain ⟨row, member, rowKey, rowVersion, locked⟩ :=
          exclusive.held name copy held
        refine ⟨sameKey, ⟨row, member, by omega, by omega, locked⟩, ?_⟩
        intro seer seen saw seenKey
        have := exclusive.outrun seer name seen copy saw held seenKey
        omega
      · intro seen has
        rw [← keeps.eq_of_hasCopy (.inl has), sameKey]
  | giveBack name copy written has current sameKey next =>
      refine exclusive.write name copy
        (exclusive.others_of_copy sound has current) ?_ (by simp) (by simp) _
      intro row member differs
      exact mem_updated_of_key_ne member differs
  | remove name copy held current =>
      refine exclusive.write name copy (exclusive.others held) ?_ (by simp)
        (by simp) _
      intro row member differs
      exact mem_deleted_of_key_ne member differs
  | leave client fewer => exact exclusive.leave fewer
  | add row isNew started =>
      refine ⟨?_, exclusive.outrun, exclusive.alone⟩
      intro name copy held
      obtain ⟨mine, member, facts⟩ := exclusive.held name copy held
      exact ⟨mine, List.mem_append_left _ member, facts⟩
  | clear rows keys versions =>
      have nobody := quiet rfl
      exact {
        held := fun name copy held => absurd held (nobody name copy)
        outrun := fun _ other _ taken _ held => absurd held
          (nobody other taken)
        alone := fun name _ copy _ held => absurd held (nobody name copy) }

end Notifications.Lib.Lease
