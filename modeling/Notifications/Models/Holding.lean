import Notifications.Effects

/-!
# Properties of the tables that a program keeps

A request works on the committed tables, on the copy of its transaction, or on
both.  What every one of its statements keeps holds of both copies, wherever the
request stops and whichever of its statements fail.
-/

set_option autoImplicit false

namespace Notifications.World

open Notifications.Lib Notifications.Models

variable [Collation]

/-- The committed tables and those of the open transaction have the
property. -/
structure Holds (property : Tables → Prop) (world : World) : Prop where
  database : property world.database.tables
  transaction : ∀ working ∈ world.transaction, property working.tables

/-- The statements that keep a property, and all the other calls. -/
def Keeps (property : Tables → Prop) : Op → Prop
  | .sql _ statement => ∀ database : Database, property database.tables →
      property (database.execute statement).2.tables
  | _ => True

section Handle

variable {property : Tables → Prop} {environment : Environment}
  {world : World}

theorem Holds.counted (holds : world.Holds property) :
    world.counted.Holds property :=
  ⟨holds.database, holds.transaction⟩

theorem Holds.closed (holds : world.Holds property) :
    Holds property { world with transaction := none } :=
  ⟨holds.database, by simp⟩

theorem Holds.attempt {α : Type} {failure : String → α}
    {success : α × World} (holds : world.Holds property)
    (done : success.2.Holds property) :
    (world.attempt environment failure success).2.Holds property := by
  rw [World.attempt]
  split
  · exact holds.counted
  · exact done.counted

theorem Holds.sql (holds : world.Holds property) {conn : Conn}
    {statement : Statement} (keeps : Keeps property (.sql conn statement)) :
    (world.handle environment (.sql conn statement)).2.Holds property := by
  simp only [World.handle]
  cases present : world.read conn with
  | none => exact holds
  | some database =>
      refine holds.attempt ?_
      cases conn with
      | connection =>
          cases present
          exact ⟨keeps _ holds.database, holds.transaction⟩
      | transaction =>
          refine ⟨holds.database, ?_⟩
          intro working same
          cases same
          exact keeps _ (holds.transaction database present)

theorem handle_holds (op : Op) (keeps : Keeps property op)
    (holds : world.Holds property) :
    (world.handle environment op).2.Holds property := by
  cases op with
  | sql conn statement => exact holds.sql keeps
  | begin =>
      refine holds.closed.attempt ⟨holds.database, ?_⟩
      intro working same
      cases same
      exact holds.database
  | commit =>
      simp only [World.handle]
      split
      · exact holds
      · rename_i database current
        exact holds.closed.attempt
          ⟨holds.transaction database current, by simp⟩
  | rollback =>
      simp only [World.handle]
      split
      · exact holds
      · exact holds.closed.attempt holds.closed
  | enqueue job =>
      exact holds.attempt ⟨holds.database, holds.transaction⟩
  | now => exact holds
  | service service => exact ⟨holds.database, holds.transaction⟩
  | iterate keys => exact holds

theorem run_holds {α : Type} {program : Prog α}
    (only : program.Only (Keeps property)) (holds : world.Holds property) :
    (program.run (World.handle environment) world).2.Holds property :=
  Program.run_of_only (World.handle environment) (Holds property)
    (fun _ op keeps holds => handle_holds op keeps holds) only holds

end Handle

end Notifications.World
