import Notifications.Models.Storing

/-!
# Lists of clients and kinds

`FindAll` and `FindAllByTemplateID` of both repositories.
-/

set_option autoImplicit false

namespace Notifications.Models

open Notifications.Lib

/-- gorp's `Select` into an empty slice. -/
def selectAll (conn : Conn) (table : Table) (wanted : table.Row → Bool) :
    Prog (List table.Row × Option Error) := do
  match ← sql conn (.select table wanted) with
  | .error error => pure ([], some error)
  | .ok rows => pure (rows, none)

def ClientsRepo.findAll (conn : Conn) : Prog (List Client × Option Error) :=
  selectAll conn .clients fun _ => true

variable [Collation]

def ClientsRepo.findAllByTemplateID (conn : Conn) (templateID : String) :
    Prog (List Client × Option Error) :=
  selectAll conn .clients fun row => Collation.equal row.templateID templateID

def KindsRepo.findAll (conn : Conn) : Prog (List Kind × Option Error) :=
  selectAll conn .kinds fun _ => true

def KindsRepo.findAllByTemplateID (conn : Conn) (templateID : String) :
    Prog (List Kind × Option Error) :=
  selectAll conn .kinds fun row => Collation.equal row.templateID templateID

/-- A list of rows, when its statement does not fail. -/
theorem run_selectAll {environment : Environment}
    (faultless : Faultless environment) {world : World} {conn : Conn}
    {database : Database} (present : world.read conn = some database)
    (table : Table) (wanted : table.Row → Bool) :
    (selectAll conn table wanted).run (World.handle environment) world =
      (some ((database.tables.rows table).filter wanted, none),
        world.counted) := by
  have ran := @run_sql _ environment world conn database present
    (.select table wanted)
  have unchanged : (database.execute (.select table wanted)).2 = database :=
    rfl
  rw [faultless world.statements, unchanged,
    ← World.counted_eq present] at ran
  rw [selectAll, Program.run_bind_of _ ran]
  rfl

end Notifications.Models
