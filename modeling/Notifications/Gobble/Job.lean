import Notifications.Gorp

/-!
# Jobs

`Row` is a row of the `jobs` table and `Job` the Go struct a worker carries:
the row's columns and the transient `ShouldRetry`.  Times and durations are in
nanoseconds; times count from the Unix epoch.
-/

set_option autoImplicit false

namespace Notifications.Gobble

open Notifications.Lib

/-- Go's `time.Time{}`: midnight of January 1 of the year 1. -/
def zeroTime : Int := -62135596800 * 1000000000

structure Row where
  id : Nat
  workerID : String
  payload : String
  version : Nat
  retryCount : Int
  activeAt : Int
  deriving DecidableEq, Repr

structure Job extends Row where
  shouldRetry : Bool
  deriving DecidableEq, Repr

instance : Versioned Row where
  key := Row.id
  version := Row.version
  withKey row value := { row with id := value }
  withVersion row value := { row with version := value }
  key_withKey _ _ := rfl
  version_withKey _ _ := rfl
  key_withVersion _ _ := rfl
  version_withVersion _ _ := rfl

/-- A row read from the table: `ShouldRetry` has no column. -/
def Row.toJob (row : Row) : Job := { row with shouldRetry := false }

/-- `NewJob`; the payload is the marshalled data. -/
def newJob (payload : String) : Job where
  id := 0
  workerID := ""
  payload := payload
  version := 0
  retryCount := 0
  activeAt := zeroTime
  shouldRetry := false

/-- `Job.Retry`, called at time `now`. -/
def Job.retry (job : Job) (now duration : Int) : Job :=
  { job with
    workerID := ""
    retryCount := job.retryCount + 1
    activeAt := now + duration
    shouldRetry := true }

@[simp] theorem Job.retry_id (job : Job) (now duration : Int) :
    (job.retry now duration).id = job.id := rfl

@[simp] theorem key_eq_id (row : Row) : Versioned.key row = row.id := rfl

@[simp] theorem version_eq_version (row : Row) :
    Versioned.version row = row.version := rfl

end Notifications.Gobble
