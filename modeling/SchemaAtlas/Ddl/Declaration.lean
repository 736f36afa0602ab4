import SchemaAtlas.Ddl.Table

/-!
# Declarations of a dump

A dump declares one table per table statement, in the order of the statements, and then the foreign
keys added by `ALTER TABLE`, wherever those stand in the text.
-/

namespace SchemaAtlas

inductive Declaration where
  | table (definition : TableDefinition)
  | foreignKey (key : ForeignKey)
deriving DecidableEq, Repr

inductive Finding where
  | declaration (declaration : Declaration)
  -- a table whose name has no usable character
  | unnamed (token : List Char)
deriving DecidableEq, Repr

def Finding.declaration? : Finding → Option Declaration
  | declaration d => some d
  | unnamed _ => none

def Statement.finding (s : Statement) : Finding :=
  let name := Name.clean s.token
  if name.isEmpty then .unnamed s.token
  else .declaration (.table (TableDefinition.read name s.body))

namespace Dump

open SchemaAtlas.Ddl

def findingsOf (statements : List Statement) (sql : List Char) : List Finding :=
  statements.map Statement.finding ++
    (AddedKey.scan sql).map fun k => .declaration (.foreignKey k)

def findings (sql : List Char) : List Finding := findingsOf (Statement.scan sql) sql

def declarations (sql : List Char) : List Declaration :=
  (findings sql).filterMap Finding.declaration?

end Dump

end SchemaAtlas
