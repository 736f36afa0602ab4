import SchemaAtlas.Schema.Basic
import SchemaAtlas.Text.Lines

/-!
# DOT graphs

The diagram of a schema in the DOT language: one record node for each table and one edge for each
foreign key. Identifiers and numbers stand as they are, and so does text in angle brackets; every
other name and value is put in quotes.
-/

namespace SchemaAtlas.Dot

open SchemaAtlas.Text

def withoutFinalLineFeed (s : List Char) : List Char :=
  if s.getLast? = some '\n' then s.dropLast else s

def isMarkup (s : List Char) : Bool :=
  let t := withoutFinalLineFeed s
  (s.head? == some '<' && s.length ≥ 2 && s.getLast? == some '>') ||
    (t.head? == some '<' && t.length ≥ 2 && t.getLast? == some '>')

def isLetter (c : Char) : Bool := c.isAlpha || c == '_'

def isIdentifier : List Char → Bool
  | [] => false
  | c :: s => isLetter c && s.all fun d => isLetter d || d.isDigit

def isNumeral (s : List Char) : Bool :=
  let s := if s.head? = some '-' then s.drop 1 else s
  let whole := s.takeWhile Char.isDigit
  match s.dropWhile Char.isDigit with
  | [] => !whole.isEmpty
  | c :: fraction => c == '.' && fraction.all Char.isDigit && !(whole.isEmpty && fraction.isEmpty)

def keywords : List String := ["node", "edge", "graph", "digraph", "subgraph", "strict"]

def isPlain (s : List Char) : Bool :=
  let t := withoutFinalLineFeed s
  (isIdentifier t || isNumeral t) && !keywords.any (fun k => k.toList == s.map Char.toLower)

/-- Puts a backslash before each quote, unless an odd number of them stands there already. The first
argument counts the backslashes that stand right before. -/
def escapeQuotes (backslashes : Nat) : List Char → List Char
  | [] => []
  | c :: s =>
    if c = '\\' then c :: escapeQuotes (backslashes + 1) s
    else if c = '"' ∧ backslashes % 2 = 0 then '\\' :: c :: escapeQuotes 0 s
    else c :: escapeQuotes 0 s

def quoteChars (s : List Char) : List Char :=
  if isMarkup s || isPlain s then s else '"' :: escapeQuotes 0 s ++ ['"']

def quote (s : String) : String := String.ofList (quoteChars s.toList)

def splitColon (s : List Char) : List Char × List Char :=
  (s.takeWhile (· != ':'), (s.dropWhile (· != ':')).drop 1)

def edgeEnd (s : String) : String :=
  -- a node, then perhaps a port, then perhaps a compass point
  let (node, rest) := splitColon s.toList
  let (port, compass) := splitColon rest
  let parts := [quoteChars node] ++
    (if rest.isEmpty then [] else [quoteChars port]) ++ (if compass.isEmpty then [] else [compass])
  joinWith ":" (parts.map String.ofList)

def escapeRecordChar (c : Char) : List Char :=
  if ['\x7b', '\x7d', '|', '<', '>'].contains c then ['\\', c] else [c]

def escapeRecord (s : String) : String := String.ofList (s.toList.flatMap escapeRecordChar)

inductive Statement where
  | node (name label : String)
  | edge (source target label : String)
deriving DecidableEq, Repr

def Statement.text : Statement → String
  | node name label =>
    "\t" ++ quote name ++ " [label=" ++ quote label ++ " fillcolor=lightblue style=filled]"
  | edge source target label =>
    "\t" ++ edgeEnd source ++ " -> " ++ edgeEnd target ++ " [label=" ++ quote label ++
      " arrowhead=crow arrowtail=tee dir=both]"

def columnRow (c : Column) : String :=
  c.name ++ " : " ++ c.type ++ if c.isPrimaryKey then " [PK]" else ""

def recordLabel (t : Table) : String :=
  "\x7b" ++ escapeRecord t.name ++ "|" ++
    joinWith "\\l" (t.columns.map fun c => escapeRecord (columnRow c)) ++ "\\l\x7d"

def tableNode (t : Table) : Statement := .node t.name (recordLabel t)

def keyEdge (k : ForeignKey) : Statement := .edge k.source k.target (commas k.sourceColumns)

abbrev Graph := List Statement

def addTables (g : Graph) (s : Schema) : Graph := g ++ s.tables.map tableNode

def addRelationships (g : Graph) (s : Schema) : Graph := g ++ s.drawable.map keyEdge

def graph (s : Schema) : Graph := addRelationships (addTables [] s) s

def settings : List String :=
  ["\trankdir=LR", "\tnode [fontname=Arial fontsize=10 shape=record]",
    "\tedge [arrowsize=0.7 penwidth=1.2]"]

def header (name : String) : String :=
  if name.isEmpty then "digraph \x7b" else "digraph " ++ quote name ++ " \x7b"

def source (name : String) (g : Graph) : String :=
  unlines (header name :: settings ++ g.map Statement.text ++ ["\x7d"])

end SchemaAtlas.Dot
