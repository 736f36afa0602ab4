import SchemaAtlas.Ddl.Name
import SchemaAtlas.Ddl.Statement
import SchemaAtlas.Schema.Basic
import SchemaAtlas.Text.Search

/-!
# Foreign keys in a dump

The clause `FOREIGN KEY (…) REFERENCES name (…)`, inside a table body or added to a table by
`ALTER TABLE name ADD …`.
-/

namespace SchemaAtlas.Ddl

open SchemaAtlas.Text

def splitCommas : List Char → List Char × List (List Char)
  | [] => ([], [])
  | c :: s =>
    let (piece, pieces) := splitCommas s
    if c = ',' then ([], piece :: pieces) else (c :: piece, pieces)

def columnNames (s : List Char) : List String :=
  let (piece, pieces) := splitCommas s
  (piece :: pieces).map Name.clean

structure Reference where
  columns : List String
  target : String
  targetColumns : List String
deriving DecidableEq, Repr

def Reference.ofTable (r : Reference) (source : String) : ForeignKey :=
  ⟨source, r.columns, r.target, r.targetColumns⟩

namespace Reference

def read (s : List Char) : Option (Reference × List Char) := do
  let s ← keywordBlanks "FOREIGN".toList s
  let s ← keyword "KEY".toList s
  let (columns, s) ← enclosed (skipBlanks s)
  let s ← keywordBlanks "REFERENCES".toList (skipBlanks s)
  let (target, s) ← Statement.token1 s
  let (targetColumns, s) ← enclosed (skipBlanks s)
  return (⟨columnNames columns, Name.clean target, columnNames targetColumns⟩, s)

theorem length_of_read {s r : List Char} {k : Reference} (h : read s = some (k, r)) :
    r.length < s.length := by
  simp only [read, Option.bind_eq_bind, Option.bind_eq_some_iff] at h
  obtain ⟨s₁, h₁, s₂, h₂, ⟨c₁, s₃⟩, h₃, s₄, h₄, ⟨t, s₅⟩, h₅, ⟨c₂, s₆⟩, h₆, h₇⟩ := h
  cases h₇
  have h₁ := length_of_keywordBlanks h₁
  have h₂ := length_of_keyword h₂
  have h₃ := length_of_enclosed h₃
  have h₄ := length_of_keywordBlanks h₄
  have h₅ := length_of_run1 h₅
  have h₆ := length_of_enclosed h₆
  have b₁ := length_skipBlanks_le s₂
  have b₂ := length_skipBlanks_le s₃
  have b₃ := length_skipBlanks_le s₅
  simp only at *
  omega

def pattern : Pattern Reference := ⟨read, length_of_read⟩

def beforeDelimiter : List Char → Option (Reference × List Char)
  | [] => none
  | c :: s => read (c :: s) <|> (if c = ';' then none else beforeDelimiter s)

theorem length_of_beforeDelimiter {s r : List Char} {k : Reference}
    (h : beforeDelimiter s = some (k, r)) : r.length < s.length := by
  induction s with
  | nil => simp [beforeDelimiter] at h
  | cons c s ih =>
    cases hr : read (c :: s) with
    | some p =>
      rw [beforeDelimiter, hr] at h
      cases h
      exact length_of_read hr
    | none =>
      rw [beforeDelimiter, hr] at h
      change (if c = ';' then none else beforeDelimiter s) = some (k, r) at h
      split at h
      · simp at h
      · have := ih h
        simp only [List.length_cons]
        omega

end Reference

namespace AddedKey

def constraint (s : List Char) : Option (Reference × List Char) :=
  match keyword "CONSTRAINT".toList s with
  | some s => Reference.beforeDelimiter s
  | none => Reference.read s

def read (s : List Char) : Option (ForeignKey × List Char) := do
  let s ← keywordBlanks "ALTER".toList s
  let s ← keywordBlanks "TABLE".toList s
  let (table, s) ← run1 isBlank s
  let s ← blanks1 s
  let s ← keywordBlanks "ADD".toList s
  let (key, s) ← constraint (skipBlanks ((char '(' s).getD s))
  return (key.ofTable (Name.clean table), s)

theorem length_of_constraint {s r : List Char} {k : Reference}
    (h : constraint s = some (k, r)) : r.length < s.length := by
  unfold constraint at h
  split at h
  · next h' =>
    have := length_of_keyword h'
    have := Reference.length_of_beforeDelimiter h
    omega
  · exact Reference.length_of_read h

theorem length_of_read {s r : List Char} {k : ForeignKey} (h : read s = some (k, r)) :
    r.length < s.length := by
  simp only [read, Option.bind_eq_bind, Option.bind_eq_some_iff] at h
  obtain ⟨s₁, h₁, s₂, h₂, ⟨t, s₃⟩, h₃, s₄, h₄, s₅, h₅, ⟨q, s₆⟩, h₆, h₇⟩ := h
  cases h₇
  have h₁ := length_of_keywordBlanks h₁
  have h₂ := length_of_keywordBlanks h₂
  have h₃ := length_of_run1 h₃
  have h₄ := length_of_blanks1 h₄
  have h₅ := length_of_keywordBlanks h₅
  have h₆ := length_of_constraint h₆
  have b := length_skipBlanks_le ((char '(' s₅).getD s₅)
  have p : ((char '(' s₅).getD s₅).length ≤ s₅.length := by
    cases h : char '(' s₅ with
    | none => simp
    | some r => exact Nat.le_of_lt (length_of_char h)
  simp only at *
  omega

def pattern : Pattern ForeignKey := ⟨read, length_of_read⟩

def scan (sql : List Char) : List ForeignKey := pattern.all sql

end AddedKey

end SchemaAtlas.Ddl
