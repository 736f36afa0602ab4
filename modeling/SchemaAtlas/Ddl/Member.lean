import SchemaAtlas.Ddl.Reference
import SchemaAtlas.Ddl.Split
import SchemaAtlas.Ddl.TypeCategory

/-!
# Columns and constraints of a table

A member of a table body is a constraint where it holds the word `CONSTRAINT` or starts with
`PRIMARY KEY` or `FOREIGN KEY`, and a column otherwise. Members that fit neither form are left out.
-/

namespace SchemaAtlas.Ddl

open SchemaAtlas.Text

def isConstraint (d : List Char) : Bool :=
  (firstAtWord (fun s => (keyword "CONSTRAINT".toList s).filter atWordEnd) true d).isSome ||
    startsWithKey "PRIMARY" || startsWithKey "FOREIGN"
where
  startsWithKey (w : String) : Bool :=
    ((keywordBlanks w.toList d >>= keyword "KEY".toList).filter atWordEnd).isSome

def notColumnNames : List String := ["PARTITION", "PRIMARY", "KEY"]

def mentions (w : String) (d : List Char) : Bool := contains w.toList (upper d)

def readColumn (d : List Char) : Option Column := do
  let (raw, s) ← run1 isBlank (skipBlanks d)
  let s ← blanks1 s
  let (type, _) ← run1 (fun c => isBlank c || c == ',' || c == '(') s
  let name := Name.cleanChars raw
  if name.isEmpty || raw.contains ')' || notColumnNames.any (fun w => upper raw == w.toList) then
    none
  else
    some {
      name := String.ofList name
      type := (TypeCategory.ofDeclared type).label
      isPrimaryKey := mentions "PRIMARY KEY" d
      isNotNull := mentions "NOT NULL" d && !mentions "PRIMARY KEY" d }

inductive Clause where
  | primaryKey (columns : List String)
  | foreignKey (key : ForeignKey)
  | unique (columns : List String)
  | check
deriving DecidableEq, Repr

namespace Clause

def readPrimaryKey (s : List Char) : Option (List Char × List Char) := do
  let s ← keywordBlanks "PRIMARY".toList s
  let s ← keyword "KEY".toList s
  enclosed (skipBlanks s)

theorem length_of_readPrimaryKey {s t r : List Char} (h : readPrimaryKey s = some (t, r)) :
    r.length < s.length := by
  simp only [readPrimaryKey, Option.bind_eq_bind, Option.bind_eq_some_iff] at h
  obtain ⟨s₁, h₁, s₂, h₂, h₃⟩ := h
  have h₁ := length_of_keywordBlanks h₁
  have h₂ := length_of_keyword h₂
  have h₃ := length_of_enclosed h₃
  have b := length_skipBlanks_le s₂
  omega

def primaryKeyPattern : Pattern (List Char) := ⟨readPrimaryKey, length_of_readPrimaryKey⟩

def readUnique (s : List Char) : Option (List Char) := do
  let s ← keyword "UNIQUE".toList s
  let (columns, _) ← enclosed (skipBlanks s)
  return columns

def readCheck (s : List Char) : Option (List Char) :=
  keyword "CHECK".toList s >>= fun s => char '(' (skipBlanks s)

def read (table : String) (d : List Char) : Option Clause :=
  if mentions "PRIMARY KEY" d then
    (primaryKeyPattern.first? d).map fun p => .primaryKey (columnNames p.1)
  else if mentions "FOREIGN KEY" d then
    (Reference.pattern.first? d).map fun p => .foreignKey (p.1.ofTable table)
  else match firstAtWord readUnique true d with
    | some columns => some (.unique (columnNames columns))
    | none => (firstAtWord readCheck true d).map fun _ => .check

end Clause

inductive Member where
  | column (column : Column)
  | clause (clause : Clause)
deriving DecidableEq, Repr

namespace Member

def read (table : String) (d : List Char) : Option Member :=
  if isConstraint d then (Clause.read table d).map clause else (readColumn d).map column

def column? : Member → Option Column
  | column c => some c
  | clause _ => none

def keyColumns : Member → List String
  | clause (.primaryKey columns) => columns
  | _ => []

def foreignKey? : Member → Option ForeignKey
  | clause (.foreignKey k) => some k
  | _ => none

def constraint? : Member → Option Constraint
  | clause (.unique columns) => some ⟨"UNIQUE", columns⟩
  | clause .check => some ⟨"CHECK", []⟩
  | _ => none

end Member

end SchemaAtlas.Ddl
