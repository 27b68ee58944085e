import BoardRules.Schema.Board
import BoardRules.Schema.Database
import BoardRules.Schema.Revision
import BoardRules.Schema.Statement

/-!
Migrations: bringing a database from one revision to another, or writing down the statements that
would. The one revision there is creates all tables.
-/
namespace BoardRules.Schema

structure Revision where
  id : String
  tables : List Table

def revisions : List Revision := [⟨"202610190001", boardTables⟩]

def history : History := revisions.map Revision.id

def tablesBetween (low high : Nat) : List Table :=
  ((revisions.take high).drop low).flatMap Revision.tables

/-- A database that migrations are applied to: how many revisions are in force, and its tables. -/
structure Migrated where
  applied : Nat := 0
  database : Database := []

inductive MigrationFault where
  | target (fault : TargetFault)
  | statement (fault : StatementFault)
deriving Repr, DecidableEq

namespace Migrated

def tableNames (m : Migrated) : List String :=
  (m.database.map fun s => s.table.name).mergeSort fun a b => a ≤ b

def raiseTo (m : Migrated) (goal : Nat) : Migrated where
  applied := max m.applied goal
  database := m.database ++ (tablesBetween m.applied goal).map fun t => { table := t }

def lowerTo (m : Migrated) (goal : Nat) : Migrated where
  applied := goal
  database :=
    let dropped := (tablesBetween goal m.applied).map Table.name
    m.database.filter fun s => !dropped.contains s.table.name

def upgrade (m : Migrated) (target : String) : Except MigrationFault Migrated := do
  if target.contains ':' then .error (.target .unreachable)
  else
    let goal ← (history.upTarget? m.applied target).mapError .target
    return m.raiseTo (goal.getD 0)

def downgrade (m : Migrated) (target : String) : Except MigrationFault Migrated := do
  if target.contains ':' then .error (.target .unreachable)
  else return m.lowerTo (← (history.downTarget m.applied target).mapError .target)

def insert (m : Migrated) (table : String) (given : Entries) : Except MigrationFault Migrated := do
  let database ← (m.database.insert table given).mapError .statement
  return { m with database }

def delete (m : Migrated) (table : String) (id : Json) : Except MigrationFault Migrated := do
  let database ← (m.database.delete table id).mapError .statement
  return { m with database }

def select (m : Migrated) (table : String) : Except MigrationFault (List Row) :=
  (m.database.select table).mapError .statement

end Migrated

/-- The statements that bring a database up to a target, from the base or from the beginning of a
range. -/
def upgradeScript (range : String) : Except MigrationFault (List String) := do
  let (origin, target) ← (splitRange range).mapError .target
  let start ← (history.scriptStart origin).mapError .target
  let goal ← (history.upTarget? start target).mapError .target
  return transaction (createScript (tablesBetween start (goal.getD 0)))

/-- The statements that bring a database down from the beginning of a range to its end. -/
def downgradeScript (range : String) : Except MigrationFault (List String) := do
  match ← (splitRange range).mapError .target with
  | (none, _) => .error (.target .unreachable)
  | (origin, target) =>
    let start ← (history.scriptStart origin).mapError .target
    let goal ← (history.downTarget start target).mapError .target
    return transaction (dropScript (tablesBetween goal start))

inductive Task where
  | upgrade (target : String)
  | downgrade (target : String)
  | upgradeScript (range : String)
  | downgradeScript (range : String)
  | describe
  | insert (table : String) (row : Entries)
  | delete (table : String) (id : Json) (shown : String)
  | select (table : String)

inductive TaskResult where
  | tables (names : List String)
  | statements (script : List String)
  | schema (tables : List Table)
  | rows (rows : List Row)

namespace Migrated

def carryOut (m : Migrated) : Task → Except MigrationFault (TaskResult × Migrated)
  | .upgrade target => do
    let m ← m.upgrade target
    return (.tables m.tableNames, m)
  | .downgrade target => do
    let m ← m.downgrade target
    return (.tables m.tableNames, m)
  | .upgradeScript range => do return (.statements (← Schema.upgradeScript range), m)
  | .downgradeScript range => do return (.statements (← Schema.downgradeScript range), m)
  | .describe => return (.schema (m.database.map Stored.table), m)
  | .insert table row => do
    let m ← m.insert table row
    return (.rows (← m.select table), m)
  | .delete table id shown => do
    let m ← m.delete table id
    return (.rows (← m.select shown), m)
  | .select table => do return (.rows (← m.select table), m)

/-- Carries tasks out one after another; one that fails changes nothing. -/
def run (m : Migrated) : List Task → List (Except MigrationFault TaskResult)
  | [] => []
  | t :: ts =>
    match m.carryOut t with
    | .ok (r, m) => .ok r :: m.run ts
    | .error f => .error f :: m.run ts

end Migrated
end BoardRules.Schema
