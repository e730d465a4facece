import Notifications.Models.Messages
import Notifications.Postal.Retry

/-!
# The collector of old messages

`MessageGC.Collect` reads the clock, and then deletes the rows of `messages`
that were last updated more than a lifetime before that.
-/

set_option autoImplicit false

namespace Notifications

open Notifications.Lib Notifications.Models

namespace Models

/-- `DELETE FROM messages WHERE updated_at < ?`. -/
def Tables.deleteBefore (tables : Tables) (threshold : Int) : Tables :=
  tables.set .messages
    (deleteWhere (fun row : Message => decide (row.updatedAt < threshold))
      (tables.rows .messages))

variable [Collation]

theorem Tables.Sound.deleteBefore {tables : Tables} (sound : tables.Sound)
    (threshold : Int) : (tables.deleteBefore threshold).Sound := by
  refine sound.set ((sound.uniqueKey .messages).deleteWhere _)
    ((sound.primaryKey .messages).deleteWhere _) ?_
  intro row member
  exact sound.numbers .messages row (mem_deleteWhere.mp member).1

/-- `MessagesRepo.DeleteBefore`, when the statement does not fail. -/
def Database.deleteBefore (database : Database) (threshold : Int) :
    Database where
  tables := database.tables.deleteBefore threshold
  sound := database.sound.deleteBefore threshold

theorem Database.deleteBefore_message {database : Database} {threshold : Int}
    {id : String} {row : Message}
    (found : (database.deleteBefore threshold).tables.message id = some row) :
    database.tables.message id = some row := by
  have sound := (database.deleteBefore threshold).sound
  rw [Tables.message, sound.lookup_iff] at found
  rw [Tables.message, database.sound.lookup_iff]
  refine ⟨?_, found.2⟩
  have member := found.1
  simp only [deleteBefore, Tables.deleteBefore, Tables.set_rows_same] at member
  exact (mem_deleteWhere.mp member).1

theorem Database.deleteBefore_deleted {database : Database} {threshold : Int}
    {id : String} {row : Message}
    (found : database.tables.message id = some row)
    (gone : (database.deleteBefore threshold).tables.message id = none) :
    row.updatedAt < threshold := by
  by_contra young
  have sound := (database.deleteBefore threshold).sound
  rw [Tables.message, database.sound.lookup_iff] at found
  have still : (database.deleteBefore threshold).tables.message id =
      some row := by
    rw [Tables.message, sound.lookup_iff]
    refine ⟨?_, found.2⟩
    simp only [deleteBefore, Tables.deleteBefore, Tables.set_rows_same]
    exact mem_deleteWhere.mpr ⟨found.1, by simpa using young⟩
  rw [gone] at still
  cases still

end Models

namespace Postal

/-- `time.Hour`, in nanoseconds. -/
def hour : Int := 60 * minute

structure MessageGC where
  lifetime : Int
  deriving DecidableEq, Repr

/-- The threshold of a `Collect` that reads this time. -/
def MessageGC.threshold (gc : MessageGC) (now : Int) : Int :=
  now + -1 * gc.lifetime

/-- The collector of `Application.StartMessageGC`. -/
def startMessageGC : MessageGC := ⟨24 * hour⟩

end Postal

end Notifications
