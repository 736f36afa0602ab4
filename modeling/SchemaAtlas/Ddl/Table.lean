import SchemaAtlas.Ddl.Member

/-!
# Table definitions

The body of a table statement as columns, constraints and foreign keys. A column is a key where its
own definition says so or a table-level key names it, before or after it.
-/

namespace SchemaAtlas

structure TableDefinition where
  name : String
  columns : List Column
  constraints : List Constraint := []
  foreignKeys : List ForeignKey := []
deriving DecidableEq, Repr

def Column.withKeys (keys : List String) (c : Column) : Column :=
  -- a key is not marked as not null besides
  if keys.contains c.name then { c with isPrimaryKey := true, isNotNull := false } else c

namespace TableDefinition

open SchemaAtlas.Ddl

def ofMembers (name : String) (ms : List Member) : TableDefinition where
  name := name
  columns := (ms.filterMap Member.column?).map (Column.withKeys (ms.flatMap Member.keyColumns))
  constraints := ms.filterMap Member.constraint?
  foreignKeys := ms.filterMap Member.foreignKey?

def read (name : String) (body : List Char) : TableDefinition :=
  ofMembers name ((members body).filterMap (Member.read name))

end TableDefinition

@[simp] theorem Column.name_withKeys (keys : List String) (c : Column) :
    (c.withKeys keys).name = c.name := by
  unfold Column.withKeys
  split <;> rfl

@[simp] theorem TableDefinition.name_read (name : String) (body : List Char) :
    (TableDefinition.read name body).name = name := rfl

end SchemaAtlas
