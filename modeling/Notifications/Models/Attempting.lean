import Notifications.Models.Storing

/-!
# Writes of one row, on every path

`Storing` says what a write leaves behind when it returns no error.  A write
that returns one has left the tables alone, or it has stored its row and failed
at the lookup after it.
-/

set_option autoImplicit false

namespace Notifications.Models

open Notifications.Lib

variable [Collation]

/-- A program that writes at most one settled row. -/
def Attempts {α : Type} (environment : Environment) (conn : Conn)
    (program : Prog α) (database : Database) (table : Table)
    (settled : table.Row → Prop) : Prop :=
  Achieves environment conn program database fun _ after =>
    Attempted table settled database after

section Repos

variable {environment : Environment} {conn : Conn} {database : Database}

namespace KindsRepo

theorem find_unchanged (id clientID : String) :
    Achieves environment conn (find conn id clientID) database
      fun _ after => after = database :=
  (find_achieves id clientID).weaken fun _ _ found => found.2

theorem update_attempts (kind : Kind) :
    Attempts environment conn (update conn kind) database .kinds
      fun row => ∃ old, database.tables.lookup .kinds
        (Collation.key [kind.id, kind.clientID]) = some old ∧
          Settled kind (some old) row := by
  cases present : database.tables.lookup .kinds
    (Collation.key [kind.id, kind.clientID]) with
  | some old =>
      refine (update_leaves kind old present).weaken ?_
      intro result after leaves
      rcases leaves.2 with same | ⟨row, settled, puts⟩
      · exact .inl same
      · exact .inr ⟨row, ⟨old, rfl, settled⟩, puts⟩
  | none =>
      refine achieves_bind (find_achieves kind.id kind.clientID) ?_
      intro result after looked
      obtain ⟨found, rfl⟩ := looked
      rcases found with ⟨text, _, rfl⟩ | ⟨_, rfl⟩ | ⟨stored, there, rfl⟩
      · exact achieves_pure (.inl rfl)
      · exact achieves_pure (.inl rfl)
      · rw [present] at there
        cases there

theorem upsert_attempts (kind : Kind) :
    Attempts environment conn (upsert conn kind) database .kinds
      (Settled kind
        (database.tables.lookup .kinds
          (Collation.key [kind.id, kind.clientID]))) :=
  (upsert_leaves kind).weaken fun _ _ leaves => leaves.2

end KindsRepo

namespace ClientsRepo

theorem find_unchanged (id : String) :
    Achieves environment conn (find conn id) database
      fun _ after => after = database :=
  (find_achieves id).weaken fun _ _ found => found.2

theorem update_attempts {client old : Client}
    (present : database.tables.lookup .clients
      (Collation.key [client.id]) = some old)
    (same : client.primary = old.primary) :
    Attempts environment conn (update conn client) database .clients
      (· = { client with
        templateID := chosen client.templateID old.templateID }) :=
  (update_leaves present same).weaken fun _ _ leaves => leaves.2

theorem upsert_attempts (client : Client) :
    Attempts environment conn (upsert conn client) database .clients
      (Settled client (database.tables.lookup .clients
        (Collation.key [client.id]))) :=
  (upsert_leaves client).weaken fun _ _ leaves => leaves.2

end ClientsRepo

end Repos

end Notifications.Models
