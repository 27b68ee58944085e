/-!
Definitions of database tables: columns with their types, references to other tables, and indexes.
Every table has the column `id` as its primary key, and references lead to that column.
-/
namespace BoardRules.Schema

inductive ColumnType where
  | uuid
  | text
  | varchar (limit : Nat)
  | timestamp
  | json
  | integer
  | boolean
deriving Repr, DecidableEq

inductive ColumnDefault where
  | text (s : String)
  | truth
deriving Repr, DecidableEq

structure Column where
  name : String
  type : ColumnType
  nullable : Bool := false
  default : Option ColumnDefault := none
deriving Repr, DecidableEq

inductive OnDelete where
  | cascade
  | setNull
deriving Repr, DecidableEq

structure Reference where
  column : String
  table : String
  onDelete : OnDelete := .cascade
deriving Repr, DecidableEq

structure Index where
  name : String
  columns : List String
deriving Repr, DecidableEq

structure Table where
  name : String
  columns : List Column
  references : List Reference := []
  indexes : List Index := []
deriving Repr, DecidableEq

end BoardRules.Schema
