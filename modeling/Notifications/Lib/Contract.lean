import Notifications.Lib.Program

/-!
# Contracts for programs that run among others

A program that is executed one call at a time, between the calls of other
programs, cannot rely on the state it left behind.  A contract says which calls
it may make, given what it knows, which answers are possible and what it learns
from them.  What is known has to be a fact that the other programs leave alone;
`Meets` then speaks about this program only.
-/

set_option autoImplicit false

namespace Notifications.Lib

structure Contract (Op : Type) (Answer : Op → Type) (Knowledge : Type) where
  may : Knowledge → Op → Prop
  possible : (op : Op) → Answer op → Prop
  learn : Knowledge → (op : Op) → Answer op → Knowledge

namespace Program

variable {Op : Type} {Answer : Op → Type} {Knowledge α β : Type}

/-- Every call is one that the program may make, and what it knows at the end
justifies its result. -/
def Meets (contract : Contract Op Answer Knowledge)
    (done : Knowledge → α → Prop) :
    Program Op Answer α → Knowledge → Prop
  | .ret value, knowledge => done knowledge value
  | .panic _, _ => True
  | .call op next, knowledge =>
      contract.may knowledge op ∧
        ∀ answer, contract.possible op answer →
          Meets contract done (next answer)
            (contract.learn knowledge op answer)

variable {contract : Contract Op Answer Knowledge}

theorem meets_bind {program : Program Op Answer α}
    {rest : α → Program Op Answer β} {done : Knowledge → β → Prop}
    {knowledge : Knowledge}
    (meets : program.Meets contract
      (fun knowledge value => (rest value).Meets contract done knowledge)
      knowledge) :
    (program >>= rest).Meets contract done knowledge := by
  induction program generalizing knowledge with
  | ret value => exact meets
  | panic message => trivial
  | call op next ih =>
      refine ⟨meets.1, ?_⟩
      intro answer possible
      exact ih answer (meets.2 answer possible)

theorem meets_perform {op : Op} {rest : Answer op → Program Op Answer β}
    {done : Knowledge → β → Prop} {knowledge : Knowledge}
    (may : contract.may knowledge op)
    (next : ∀ answer, contract.possible op answer →
      (rest answer).Meets contract done (contract.learn knowledge op answer)) :
    ((perform op : Program Op Answer _) >>= rest).Meets contract done
      knowledge :=
  ⟨may, next⟩

theorem Meets.weaken {program : Program Op Answer α}
    {strong weak : Knowledge → α → Prop} {knowledge : Knowledge}
    (meets : program.Meets contract strong knowledge)
    (implies : ∀ knowledge value, strong knowledge value →
      weak knowledge value) :
    program.Meets contract weak knowledge := by
  induction program generalizing knowledge with
  | ret value => exact implies knowledge value meets
  | panic message => trivial
  | call op next ih =>
      refine ⟨meets.1, ?_⟩
      intro answer possible
      exact ih answer (meets.2 answer possible)

/-- A program whose calls are allowed as long as a fact about what is known
holds, and leave that fact alone. -/
theorem meets_of_kept {harmless : Op → Prop} {kept : Knowledge → Prop}
    {program : Program Op Answer α} {done : Knowledge → α → Prop}
    {knowledge : Knowledge}
    (may : ∀ knowledge op, kept knowledge → harmless op →
      contract.may knowledge op)
    (learn : ∀ knowledge op answer, kept knowledge → harmless op →
      kept (contract.learn knowledge op answer))
    (only : program.Only harmless) (start : kept knowledge)
    (all : ∀ knowledge value, kept knowledge → done knowledge value) :
    program.Meets contract done knowledge := by
  induction program generalizing knowledge with
  | ret value => exact all knowledge value start
  | panic message => trivial
  | call op next ih =>
      refine ⟨may knowledge op start only.1, ?_⟩
      intro answer _
      exact ih answer (only.2 answer) (learn knowledge op answer start only.1)

/-- A program whose calls are always allowed and teach nothing. -/
theorem meets_of_only {harmless : Op → Prop} {program : Program Op Answer α}
    {done : Knowledge → α → Prop} {knowledge : Knowledge}
    (may : ∀ op, harmless op → contract.may knowledge op)
    (learn : ∀ op answer, harmless op →
      contract.learn knowledge op answer = knowledge)
    (only : program.Only harmless) (all : ∀ value, done knowledge value) :
    program.Meets contract done knowledge := by
  have still : ∀ later op, later = knowledge → harmless op →
      contract.may later op := by
    intro later op same fine
    rw [same]
    exact may op fine
  refine meets_of_kept still ?_ only rfl ?_
  · intro later op answer same fine
    rw [same]
    exact learn op answer fine
  · intro later value same
    rw [same]
    exact all value

/-- Making these calls only is a contract without knowledge. -/
theorem only_of_meets {allowed : Op → Prop} {program : Program Op Answer α}
    {done : Unit → α → Prop}
    (meets : program.Meets ⟨fun _ => allowed, fun _ _ => True,
      fun _ _ _ => ()⟩ done ()) :
    program.Only allowed := by
  induction program with
  | ret value => trivial
  | panic message => trivial
  | call op next ih =>
      refine ⟨meets.1, ?_⟩
      intro answer
      exact ih answer (meets.2 answer trivial)

/-- A program that meets its contract, run alone: the answers are possible, and
what is known stays true. -/
theorem run_of_meets {State : Type}
    (handle : State → (op : Op) → Answer op × State)
    (invariant : State → Knowledge → Prop)
    (kept : ∀ state knowledge op, invariant state knowledge →
      contract.may knowledge op →
        contract.possible op (handle state op).1 ∧
          invariant (handle state op).2
            (contract.learn knowledge op (handle state op).1))
    {program : Program Op Answer α} {done : Knowledge → α → Prop}
    {state : State} {knowledge : Knowledge}
    (meets : program.Meets contract done knowledge)
    (start : invariant state knowledge) :
    ∃ learned, invariant (program.run handle state).2 learned := by
  induction program generalizing state knowledge with
  | ret value => exact ⟨knowledge, start⟩
  | panic message => exact ⟨knowledge, start⟩
  | call op next ih =>
      obtain ⟨possible, after⟩ := kept state knowledge op start meets.1
      exact ih _ (meets.2 _ possible) after

end Program

end Notifications.Lib
