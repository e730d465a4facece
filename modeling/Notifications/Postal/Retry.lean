import Mathlib.Algebra.Group.Nat.Defs
import Mathlib.Algebra.Ring.Int.Defs
import Notifications.Gobble.System

/-!
# Exponential backoff

`DeliveryWorker.retry` doubles the wait with every failed attempt and gives up
after the tenth retry.  For the queue, `Deliver` is a callback that fails (it
calls `retry`) or does not.
-/

set_option autoImplicit false

namespace Notifications.Postal

open Notifications.Gobble

/-- `time.Minute`, in nanoseconds. -/
def minute : Int := 60 * 1000000000

/-- `int64(math.Pow(2, float64(exponent)))`, exact for the exponents below 63;
the fractions of negative exponents are cut off. -/
def powerOfTwo (exponent : Int) : Int :=
  if 0 ≤ exponent then 2 ^ exponent.toNat else 0

/-- The product of two `int64`s, with wrap-around. -/
def mul64 (left right : Int) : Int := (left * right).bmod (2 ^ 64)

def retryDuration (retryCount : Int) : Int :=
  mul64 (powerOfTwo retryCount) minute

/-- `DeliveryWorker.retry`: the duration it passes to `Job.Retry`, if any. -/
def retry (job : Job) : Option Int :=
  if job.retryCount < 10 then some (retryDuration job.retryCount) else none

/-- What an attempt to deliver does to its job. -/
def deliverCallback (failed : Bool) (job : Job) : Option Int :=
  if failed then retry job else none

theorem deliverCallback_eq_some {failed : Bool} {job : Job} {duration : Int} :
    deliverCallback failed job = some duration ↔
      failed = true ∧ job.retryCount < 10 ∧
        duration = retryDuration job.retryCount := by
  cases failed with
  | false => simp [deliverCallback]
  | true =>
      simp only [deliverCallback, retry, if_true, true_and]
      split
      · rename_i few
        simp [few, eq_comm]
      · rename_i many
        simp [many]

/-- No product overflows: up to the tenth retry the delay is `2 ^ k` minutes. -/
theorem retryDuration_eq :
    ∀ retryCount : Nat, retryCount < 10 →
      retryDuration retryCount = 2 ^ retryCount * minute := by
  decide

theorem retryDuration_bounds :
    ∀ retryCount : Nat, retryCount < 10 →
      0 < retryDuration retryCount ∧ retryDuration retryCount < 2 ^ 63 := by
  decide

theorem retryDuration_sum :
    ((List.range 10).map fun retryCount : Nat =>
      retryDuration retryCount).sum = 1023 * minute := by
  decide

end Notifications.Postal
