import Mathlib.Logic.Function.Basic
import Notifications.Lib.Rows
import Notifications.Gobble.Job

/-!
# The tables of the notifications database

The Go structs under their own field names, and gorp's statements on their
tables.  Every table but `messages` has an auto-increment primary key; every
table has one unique key over columns of the row itself.  A `Database` keeps
both keys unique: it cannot be built otherwise.

The server compares texts by the collation of their columns, and the code by
`==`.  So the keys of rows are compared by a normal form, which is a parameter
of everything that rests on it.
-/

set_option autoImplicit false

namespace Notifications.Models

open Notifications.Lib Notifications.Gobble

def defaultTemplateID : String := "default"

def doNotSetTemplateID : String := ""

/-- The normal form by which text columns are compared.  That of
`utf8_general_ci` has no case, no accents and no spaces at the end. -/
class Collation where
  weight : String → String

namespace Collation

/-- Texts are the same only if they are equal, as in `utf8_bin` without its
padding. -/
@[reducible] def binary : Collation := ⟨id⟩

/-- The letters of ASCII have no case, as they have none in
`utf8_general_ci`. -/
@[reducible] def caseless : Collation :=
  ⟨fun text => String.ofList (text.toList.map Char.toUpper)⟩

section Comparing

variable [Collation]

/-- `=` between texts in a statement. -/
def equal (left right : String) : Bool := weight left == weight right

def key (columns : List String) : List String := columns.map weight

@[simp] theorem equal_iff {left right : String} :
    equal left right = true ↔ weight left = weight right := by
  simp [equal]

theorem equal_self (text : String) : equal text text = true := by
  simp

theorem equal_symm {left right : String} (same : equal left right = true) :
    equal right left = true :=
  equal_iff.mpr (equal_iff.mp same).symm

theorem equal_trans {left middle right : String}
    (first : equal left middle = true) (second : equal middle right = true) :
    equal left right = true :=
  equal_iff.mpr ((equal_iff.mp first).trans (equal_iff.mp second))

@[simp] theorem key_cons_eq {left right : String} {lefts rights : List String} :
    key (left :: lefts) = key (right :: rights) ↔
      weight left = weight right ∧ key lefts = key rights := by
  simp [key]

theorem key_congr {left right : String} {columns : List String}
    (same : equal left right = true) :
    key (left :: columns) = key (right :: columns) :=
  key_cons_eq.mpr ⟨equal_iff.mp same, rfl⟩

theorem key_pair {id other ownerID owner : String}
    (same : equal id other = true) (own : equal ownerID owner = true) :
    key [id, ownerID] = key [other, owner] :=
  key_cons_eq.mpr ⟨equal_iff.mp same, key_congr own⟩

@[simp] theorem key_cons_beq {left right : String}
    {lefts rights : List String} :
    (key (left :: lefts) == key (right :: rights)) =
      (equal left right && key lefts == key rights) := by
  rw [Bool.eq_iff_iff]
  simp

end Comparing

end Collation

structure Client where
  primary : Nat
  id : String
  description : String
  createdAt : Int
  templateID : String
  deriving DecidableEq, Repr

structure Kind where
  primary : Nat
  id : String
  description : String
  critical : Bool
  clientID : String
  createdAt : Int
  updatedAt : Int
  templateID : String
  deriving DecidableEq, Repr

structure Receipt where
  primary : Nat
  userGUID : String
  clientID : String
  kindID : String
  count : Int
  createdAt : Int
  deriving DecidableEq, Repr

structure Unsubscribe where
  primary : Nat
  userID : String
  clientID : String
  kindID : String
  createdAt : Int
  deriving DecidableEq, Repr

structure GlobalUnsubscribe where
  primary : Nat
  userID : String
  createdAt : Int
  deriving DecidableEq, Repr

structure Template where
  primary : Nat
  id : String
  name : String
  subject : String
  text : String
  html : String
  metadata : String
  createdAt : Int
  updatedAt : Int
  overridden : Bool
  deriving DecidableEq, Repr

structure Message where
  id : String
  status : String
  updatedAt : Int
  deriving DecidableEq, Repr

inductive Table where
  | clients
  | kinds
  | receipts
  | unsubscribes
  | globalUnsubscribes
  | templates
  | messages
  deriving DecidableEq, Repr

/-- What gorp finds a row by when it updates or deletes one. -/
inductive PrimaryKey where
  | number (value : Nat)
  | text (value : String)
  deriving DecidableEq, Repr

namespace Table

@[reducible] def Row : Table → Type
  | clients => Client
  | kinds => Kind
  | receipts => Receipt
  | unsubscribes => Unsubscribe
  | globalUnsubscribes => GlobalUnsubscribe
  | templates => Template
  | messages => Message

/-- Go's zero values, such as `Kind{}`. -/
def zero : (table : Table) → table.Row
  | clients => ⟨0, "", "", zeroTime, ""⟩
  | kinds => ⟨0, "", "", false, "", zeroTime, zeroTime, ""⟩
  | receipts => ⟨0, "", "", "", 0, zeroTime⟩
  | unsubscribes => ⟨0, "", "", "", zeroTime⟩
  | globalUnsubscribes => ⟨0, "", zeroTime⟩
  | templates => ⟨0, "", "", "", "", "", "", zeroTime, zeroTime, false⟩
  | messages => ⟨"", "", zeroTime⟩

def primaryKey : (table : Table) → table.Row → PrimaryKey
  | clients, row => .number row.primary
  | kinds, row => .number row.primary
  | receipts, row => .number row.primary
  | unsubscribes, row => .number row.primary
  | globalUnsubscribes, row => .number row.primary
  | templates, row => .number row.primary
  | messages, row => .text row.id

/-- The row as it is inserted: an auto-increment key replaces the copy's. -/
def numbered : (table : Table) → table.Row → Nat → table.Row
  | clients, row, number => { row with primary := number }
  | kinds, row, number => { row with primary := number }
  | receipts, row, number => { row with primary := number }
  | unsubscribes, row, number => { row with primary := number }
  | globalUnsubscribes, row, number => { row with primary := number }
  | templates, row, number => { row with primary := number }
  | messages, row, _ => row

/-- The columns of the table's `UNIQUE KEY` (of the primary key for
`messages`). -/
def columns : (table : Table) → table.Row → List String
  | clients, row => [row.id]
  | kinds, row => [row.id, row.clientID]
  | receipts, row => [row.userGUID, row.clientID, row.kindID]
  | unsubscribes, row => [row.userID, row.clientID, row.kindID]
  | globalUnsubscribes, row => [row.userID]
  | templates, row => [row.id]
  | messages, row => [row.id]

section Keys

variable [Collation]

/-- What the columns of the unique key are compared by.  The IDs of messages
are GUIDs that the service has generated, all in one spelling. -/
def uniqueKey : (table : Table) → table.Row → List String
  | clients, row => Collation.key [row.id]
  | kinds, row => Collation.key [row.id, row.clientID]
  | receipts, row => Collation.key [row.userGUID, row.clientID, row.kindID]
  | unsubscribes, row => Collation.key [row.userID, row.clientID, row.kindID]
  | globalUnsubscribes, row => Collation.key [row.userID]
  | templates, row => Collation.key [row.id]
  | messages, row => [row.id]

@[simp] theorem uniqueKey_numbered (table : Table) (row : table.Row)
    (number : Nat) :
    table.uniqueKey (table.numbered row number) = table.uniqueKey row := by
  cases table <;> rfl

end Keys

/-- An inserted row has the new number, or no number at all. -/
theorem primaryKey_numbered (table : Table) (row : table.Row) (number : Nat) :
    table.primaryKey (table.numbered row number) = .number number ∨
      table = messages := by
  cases table <;> simp [primaryKey, numbered]

end Table

/-- The contents of all tables, and their auto-increment counters. -/
structure Tables where
  rows : (table : Table) → List table.Row
  autoIncrement : Table → Nat

namespace Tables

def set (tables : Tables) (table : Table) (rows : List table.Row) : Tables :=
  { tables with rows := Function.update tables.rows table rows }

def bump (tables : Tables) (table : Table) : Tables :=
  { tables with
    autoIncrement := Function.update tables.autoIncrement table
      (tables.autoIncrement table + 1) }

@[simp] theorem set_rows_same (tables : Tables) (table : Table)
    (rows : List table.Row) : (tables.set table rows).rows table = rows := by
  simp [set]

theorem set_rows_other (tables : Tables) {table other : Table}
    (rows : List table.Row) (different : other ≠ table) :
    (tables.set table rows).rows other = tables.rows other := by
  simp [set, different]

@[simp] theorem set_autoIncrement (tables : Tables) (table : Table)
    (rows : List table.Row) :
    (tables.set table rows).autoIncrement = tables.autoIncrement := rfl

@[simp] theorem bump_rows (tables : Tables) (table : Table) :
    (tables.bump table).rows = tables.rows := rfl

variable [Collation]

/-- Both keys of every table are unique, and its counter is ahead of every
number in use. -/
structure Sound (tables : Tables) : Prop where
  uniqueKey : ∀ table, UniqueBy table.uniqueKey (tables.rows table)
  primaryKey : ∀ table, UniqueBy table.primaryKey (tables.rows table)
  numbers : ∀ table, ∀ row ∈ tables.rows table, ∀ number,
    table.primaryKey row = .number number →
      0 < number ∧ number < tables.autoIncrement table
  positive : ∀ table, 0 < tables.autoIncrement table

end Tables

/-- The database with a table each: an invalid one cannot be built. -/
structure Database [Collation] where
  tables : Tables
  sound : tables.Sound

end Notifications.Models
