import Notifications.Gobble.Job

/-!
# The queue's statements on the `jobs` table

Each definition is one atomic database statement of `Queue`.  `findJob` has no
`ORDER BY`, so which of the matching rows it returns is up to the database: the
row's ID is an argument.
-/

set_option autoImplicit false

namespace Notifications.Gobble

open Notifications.Lib Notifications.Lib.Versioned

/-- `Queue.Enqueue`: the table, and the job as it is returned. -/
def enqueue (autoIncrement : Nat) (jobs : List Row) (job : Job) :
    List Row × Job :=
  let inserted := Gorp.insert autoIncrement jobs job.toRow
  (inserted.1, { job with toRow := inserted.2 })

/-- The `WHERE` of `Queue.findJob`. -/
def reservable (now : Int) (row : Row) : Bool :=
  row.workerID == "" && decide (row.activeAt ≤ now)

def findJob (now : Int) (jobs : List Row) (id : Nat) : Option Job :=
  (jobs.find? fun row => row.id == id && reservable now row).map Row.toJob

def updateJob (jobs : List Row) (job : Job) (workerID : String) :
    Except Gorp.WriteError (List Row × Job) :=
  let job := { job with workerID := workerID }
  match Gorp.update jobs job.toRow with
  | .ok (rows, row) => .ok (rows, { job with toRow := row })
  | .error error => .error error

/-- `Queue.Requeue`; on an error the caller panics. -/
def requeue (jobs : List Row) (job : Job) : Except Gorp.WriteError (List Row) :=
  match Gorp.update jobs job.toRow with
  | .ok (rows, _) => .ok rows
  | .error error => .error error

/-- `Queue.Dequeue`; on an error the caller panics. -/
def dequeue (jobs : List Row) (job : Job) : Except Gorp.WriteError (List Row) :=
  Gorp.delete jobs job.toRow

def unlock (jobs : List Row) : List Row :=
  updateWhere (fun row => row.workerID != "")
    (fun row => { row with workerID := "" }) jobs

/-! ## What the statements do -/

theorem findJob_eq_some {now : Int} {jobs : List Row} {id : Nat} {job : Job}
    (found : findJob now jobs id = some job) :
    ∃ row ∈ jobs, row.toJob = job ∧ row.id = id ∧ row.workerID = "" ∧
      row.activeAt ≤ now := by
  simp only [findJob, Option.map_eq_some_iff] at found
  obtain ⟨row, search, same⟩ := found
  have member := List.mem_of_find?_eq_some search
  have facts := List.find?_some search
  simp only [reservable, Bool.and_eq_true, beq_iff_eq,
    decide_eq_true_eq] at facts
  exact ⟨row, member, same, facts.1, facts.2.1, facts.2.2⟩

/-- The job that `updateJob` writes and leaves with its caller. -/
def updatedJob (job : Job) (workerID : String) : Job :=
  { job with workerID := workerID, version := job.version + 1 }

theorem updateJob_of_current {jobs : List Row} {job : Job} {workerID : String}
    (positive : 0 < job.version) (current : Current jobs job.toRow) :
    updateJob jobs job workerID = .ok
      (updateWhere (matched job.toRow job.version)
        (fun _ => (updatedJob job workerID).toRow) jobs,
        updatedJob job workerID) := by
  have positive' : 0 < version
      ({ job with workerID := workerID } : Job).toRow := positive
  have current' : Current jobs
      ({ job with workerID := workerID } : Job).toRow := current
  simp only [updateJob, Gorp.update_of_current positive' current']
  rfl

theorem updateJob_of_not_current {jobs : List Row} {job : Job}
    {workerID : String} (positive : 0 < job.version)
    (missing : ¬ Current jobs job.toRow) :
    updateJob jobs job workerID = .error .optimisticLockError := by
  have positive' : 0 < version
      ({ job with workerID := workerID } : Job).toRow := positive
  have missing' : ¬ Current jobs
      ({ job with workerID := workerID } : Job).toRow := missing
  simp only [updateJob, Gorp.update_of_not_current positive' missing']

/-- The row that `Requeue` writes. -/
def requeuedRow (job : Job) : Row :=
  { job.toRow with version := job.version + 1 }

theorem requeue_of_current {jobs : List Row} {job : Job}
    (positive : 0 < job.version) (current : Current jobs job.toRow) :
    requeue jobs job = .ok
      (updateWhere (matched job.toRow job.version)
        (fun _ => requeuedRow job) jobs) := by
  simp only [requeue, Gorp.update_of_current positive current]
  rfl

theorem requeue_of_not_current {jobs : List Row} {job : Job}
    (positive : 0 < job.version) (missing : ¬ Current jobs job.toRow) :
    requeue jobs job = .error .optimisticLockError := by
  simp only [requeue, Gorp.update_of_not_current positive missing]

theorem dequeue_of_current {jobs : List Row} {job : Job}
    (current : Current jobs job.toRow) :
    dequeue jobs job = .ok
      (deleteWhere (matched job.toRow job.version) jobs) :=
  Gorp.delete_of_current current

theorem dequeue_of_not_current {jobs : List Row} {job : Job}
    (positive : 0 < job.version) (missing : ¬ Current jobs job.toRow) :
    dequeue jobs job = .error .optimisticLockError :=
  Gorp.delete_of_not_current positive missing

theorem mem_unlock {jobs : List Row} {row : Row} :
    row ∈ unlock jobs ↔
      ∃ old ∈ jobs, row = { old with workerID := "" } := by
  simp only [unlock, mem_updateWhere]
  constructor
  · intro cleared
    rcases cleared with ⟨member, miss⟩ | ⟨old, member, _, same⟩
    · refine ⟨row, member, ?_⟩
      have empty : row.workerID = "" := by simpa using miss
      rw [← empty]
    · exact ⟨old, member, same.symm⟩
  · intro cleared
    obtain ⟨old, member, same⟩ := cleared
    by_cases empty : old.workerID = ""
    · have unchanged : row = old := by
        rw [same, ← empty]
      rw [unchanged]
      exact .inl ⟨member, by simp [empty]⟩
    · exact .inr ⟨old, member, by simpa using empty, same.symm⟩

theorem unlock_keys (jobs : List Row) :
    (unlock jobs).map key = jobs.map (key : Row → Nat) := by
  simp only [unlock, updateWhere, List.map_map]
  apply List.map_congr_left
  intro row _
  simp only [Function.comp_apply]
  split <;> rfl

end Notifications.Gobble
