import SchemaAtlas.Log
import SchemaAtlas.Schema.Fold
import SchemaAtlas.Text.Escape

/-!
# Notices

What is worth reporting while a schema is put together: tables that are passed over or replaced, and
the sizes reached.
-/

namespace SchemaAtlas

inductive Notice where
  | unusableName (token : List Char)
  | noColumns (table : String)
  | redefined (table : String)
  | processed (tables : Nat)
  | found (tables relationships : Nat)
deriving DecidableEq, Repr

namespace Notice

def message : Notice → String
  | unusableName token => s!"Skipping table with unusable name: {Text.quoted token}"
  | noColumns table => s!"Table {table} has no valid columns, skipped"
  | redefined table => s!"Table {table} defined again, replacing previous definition"
  | processed tables => s!"Processed {tables} tables..."
  | found tables relationships => s!"Found {tables} tables and {relationships} relationships"

def record (n : Notice) : Log.Record :=
  match n with
  | unusableName _ => ⟨.debug, .reading, n.message⟩
  | found .. => ⟨.info, .folding, n.message⟩
  | _ => ⟨.debug, .folding, n.message⟩

end Notice

namespace Schema

def progress (s : Schema) : List Notice := if s.size % 100 = 0 then [.processed s.size] else []

def noticesOf (s : Schema) : Declaration → List Notice
  | .table d =>
    if d.columns.isEmpty then [.noColumns d.name]
    else (if s.hasTable d.name then [.redefined d.name] else []) ++ (s.declare (.table d)).progress
  | .foreignKey _ => []

def notices (s : Schema) : List Finding → List Notice
  | [] => [.found s.size s.relationships.length]
  | .unnamed token :: fs => .unusableName token :: s.notices fs
  | .declaration d :: fs => s.noticesOf d ++ (s.declare d).notices fs

end Schema

end SchemaAtlas
