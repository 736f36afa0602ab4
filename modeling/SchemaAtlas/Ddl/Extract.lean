import SchemaAtlas.Ddl.Statement
import SchemaAtlas.Text.Lines
import SchemaAtlas.Text.Search

/-!
# Extraction of statements

Statements that create tables, alter tables or create indexes are copied out of a dump as they stand,
grouped by kind. A statement runs from its first words to the next `;`. One that is cut short by the
end of the dump is left out.
-/

namespace SchemaAtlas.Extract

open SchemaAtlas.Text

inductive Kind where
  | createTable | alterTable | constraint | index
deriving DecidableEq, Repr

def Kind.label : Kind → String
  | createTable => "CREATE TABLE"
  | alterTable => "ALTER TABLE"
  | constraint => "CONSTRAINT"
  | index => "INDEX"

def Kind.all : List Kind := [.createTable, .alterTable, .constraint, .index]

def startsTable (s : List Char) : Bool :=
  (keywordBlanks "CREATE".toList s >>= keyword "TABLE".toList).isSome

def startsAlter (s : List Char) : Bool :=
  (keywordBlanks "ALTER".toList s >>= keyword "TABLE".toList).isSome

def startsIndex (s : List Char) : Bool :=
  ((keywordBlanks "CREATE".toList s).bind fun s =>
    let s := ((keywordBlanks "UNIQUE".toList s) <|> keywordBlanks "BITMAP".toList s).getD s
    keyword "INDEX".toList s).isSome

def readStatement (starts : List Char → Bool) (s : List Char) : Option (List Char × List Char) :=
  if starts s then (Statement.untilDelimiter s).map fun p => (p.1 ++ [';'], p.2) else none

theorem length_of_readStatement {starts : List Char → Bool} {s t r : List Char}
    (h : readStatement starts s = some (t, r)) : r.length < s.length := by
  unfold readStatement at h
  split at h
  · obtain ⟨p, hp, hpr⟩ := Option.map_eq_some_iff.mp h
    cases hpr
    exact Statement.length_of_untilDelimiter hp
  · simp at h

def statements (starts : List Char → Bool) (sql : List Char) : List (List Char) :=
  Pattern.all ⟨readStatement starts, length_of_readStatement⟩ sql

def addsConstraint (statement : List Char) : Bool :=
  (firstAtWord read true statement).isSome
where
  read (s : List Char) : Option (List Char) := do
    let s ← keywordBlanks "ADD".toList s
    let s ← keyword "CONSTRAINT".toList (skipBlanks ((char '(' s).getD s))
    if atWordEnd s then some s else none

def ofKind (sql : List Char) : Kind → List (List Char)
  | .createTable => statements startsTable sql
  | .alterTable => (statements startsAlter sql).filter (!addsConstraint ·)
  | .constraint => (statements startsAlter sql).filter addsConstraint
  | .index => statements startsIndex sql

structure Section where
  label : String
  statements : List String
deriving DecidableEq, Repr

def sections (sql : List Char) : List Section :=
  Kind.all.map fun k => ⟨k.label, (ofKind sql k).map String.ofList⟩

def Section.text (s : Section) : String :=
  s!"-- {s.label} ({s.statements.length} statements)\n\n" ++ joinWith "\n\n" s.statements

def text (sections : List Section) : String :=
  match sections.filter (!·.statements.isEmpty) with
  | [] => ""
  | filled => joinWith "\n\n" (filled.map Section.text) ++ "\n"

end SchemaAtlas.Extract
