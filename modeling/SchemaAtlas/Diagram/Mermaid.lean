import SchemaAtlas.Fault
import SchemaAtlas.Schema.Basic
import SchemaAtlas.Text.Lines

/-!
# Mermaid diagrams

An entity-relationship diagram is a list of lines: a header, a block for each table and an arrow for
each foreign key. Tables and arrows may be added to a diagram at any time, behind what it holds.
-/

namespace SchemaAtlas.Mermaid

open SchemaAtlas.Text

inductive Line where
  | header
  | tableStart (name : String)
  | column (type name : String) (mark : String)
  | tableEnd
  | blank
  | arrow (source target : String)
deriving DecidableEq, Repr

def Line.text : Line → String
  | header => "erDiagram"
  | tableStart name => "    " ++ name ++ " \x7b"
  | column type name mark => "        " ++ type ++ " " ++ name ++ mark
  | tableEnd => "    \x7d"
  | blank => ""
  | arrow source target => "    " ++ source ++ " ||--o\x7b " ++ target ++ " : \"references\""

def mark (c : Column) : String :=
  if c.isPrimaryKey then " PK" else if c.isNotNull then " \"NOT NULL\"" else ""

def columnLine (c : Column) : Line := .column c.type c.name (mark c)

def tableLines (t : Table) : List Line :=
  .tableStart t.name :: t.columns.map columnLine ++ [.tableEnd, .blank]

def arrowLine (k : ForeignKey) : Line := .arrow k.source k.target

abbrev Diagram := List Line

def addTables (d : Diagram) (ts : List Table) : Diagram := d ++ ts.flatMap tableLines

def addRelationships (d : Diagram) (ks : List ForeignKey) : Diagram := d ++ ks.map arrowLine

def lines (d : Diagram) : List String := (Line.header :: d).map Line.text

def source (d : Diagram) : String := unlines (lines d)

def tablesUpToUnknown (s : Schema) : List String → List Table × Option String
  | [] => ([], none)
  | name :: names =>
    match s.table? name with
    | none => ([], some name)
    | some t =>
      let (ts, unknown) := tablesUpToUnknown s names
      (t :: ts, unknown)

inductive Step where
  | tables (names : List String)
  | relationships (names : Option (List String))
deriving DecidableEq, Repr

def Step.lines (s : Schema) : Step → List Line
  -- tables are looked up one after the other, so those before an unknown name are added
  | tables names => (tablesUpToUnknown s names).1.flatMap tableLines
  | relationships none => s.drawable.map arrowLine
  | relationships (some names) => (s.drawableWithin names).map arrowLine

def Step.fault? (s : Schema) : Step → Option Fault
  | tables names => (tablesUpToUnknown s names).2.map .unknownTable
  | relationships _ => none

def Diagram.step (d : Diagram) (s : Schema) (step : Step) : Diagram := d ++ step.lines s

def diagram (s : Schema) : Diagram := addRelationships (addTables [] s.tables) s.drawable

def diagramOf (s : Schema) (ts : List Table) : Diagram :=
  addRelationships (addTables [] ts) (s.drawableWithin (ts.map (·.name)))

def render (s : Schema) : String := source (diagram s)

def renderSome (s : Schema) (names : List String) : Except Fault String :=
  match tablesUpToUnknown s names with
  | (_, some unknown) => .error (.unknownTable unknown)
  | (ts, none) => .ok (source (diagramOf s ts))

end SchemaAtlas.Mermaid
