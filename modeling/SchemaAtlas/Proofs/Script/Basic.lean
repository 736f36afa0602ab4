import SchemaAtlas.Proofs.Ddl.Splitting
import SchemaAtlas.Proofs.Schema.WellFormed

/-! Scripts in a plain form of the language: what can be written in them, how it is printed, and the
model that a script prints. One model has many scripts, since names may be quoted, members and
statements interleaved, and keys stated in two places. -/

namespace SchemaAtlas

open SchemaAtlas.Text SchemaAtlas.Ddl

def Name.Canonical (name : String) : Prop := name ≠ "" ∧ Name.Clean name

namespace Script

inductive Quoting where
  | bare | double | back | bracket
deriving DecidableEq, Repr

def Quoting.opening : Quoting → List Char
  | bare => []
  | double => ['"']
  | back => ['\x60']
  | bracket => ['[']

def Quoting.closing : Quoting → List Char
  | bare => []
  | double => ['"']
  | back => ['\x60']
  | bracket => [']']

structure Word where
  name : String
  canonical : Name.Canonical name
  quoting : Quoting

def Word.text (x : Word) : List Char := x.quoting.opening ++ (x.name.toList ++ x.quoting.closing)

structure Words where
  list : List Word
  ne_nil : list ≠ []

def Words.names (ws : Words) : List String := ws.list.map Word.name

def Words.inside (ws : Words) : List Char := joined (ws.list.map Word.text)

def Words.text (ws : Words) : List Char := '(' :: (ws.inside ++ [')'])

inductive DataType where
  | varchar2 | number | date | clob | raw
deriving DecidableEq, Repr

def DataType.word : DataType → List Char
  | varchar2 => "VARCHAR2".toList
  | number => "NUMBER".toList
  | date => "DATE".toList
  | clob => "CLOB".toList
  | raw => "RAW".toList

def DataType.arguments : DataType → List Char
  | varchar2 => "(20)".toList
  | number => "(10,2)".toList
  | date => []
  | clob => []
  | raw => "(16)".toList

def DataType.label : DataType → String
  | varchar2 => "STRING"
  | number => "NUMBER"
  | date => "DATE"
  | clob => "LOB"
  | raw => "OTHER"

inductive Qualifier where
  | plain | notNull | primaryKey
deriving DecidableEq, Repr

def Qualifier.text : Qualifier → List Char
  | plain => []
  | notNull => " NOT NULL".toList
  | primaryKey => " PRIMARY KEY".toList

@[simp] lemma Qualifier.text_notNull : notNull.text = " NOT NULL".toList := rfl

@[simp] lemma Qualifier.text_primaryKey : primaryKey.text = " PRIMARY KEY".toList := rfl

structure Key where
  columns : Words
  target : Word
  targetColumns : Words

def Key.text (k : Key) : List Char :=
  "FOREIGN KEY ".toList ++ (k.columns.text ++ (" REFERENCES ".toList ++ (k.target.text ++
    (' ' :: k.targetColumns.text))))

def Key.ofTable (k : Key) (source : String) : ForeignKey :=
  ⟨source, k.columns.names, k.target.name, k.targetColumns.names⟩

inductive Entry where
  | column (name : Word) (type : DataType) (qualifier : Qualifier)
  | primaryKey (label : Option Word) (columns : Words)
  | unique (label : Word) (columns : Words)
  | foreignKey (label : Option Word) (key : Key)

def labelText : Option Word → List Char
  | none => []
  | some label => "CONSTRAINT ".toList ++ (label.text ++ [' '])

lemma Key.text_eq (k : Key) : k.text = "FOREIGN KEY ".toList ++ (k.columns.text ++
    (" REFERENCES ".toList ++ (k.target.text ++ (' ' :: k.targetColumns.text)))) := rfl

@[simp] lemma labelText_none : labelText none = [] := rfl

@[simp] lemma labelText_some (label : Word) :
    labelText (some label) = "CONSTRAINT ".toList ++ (label.text ++ [' ']) := rfl

namespace Entry

def text : Entry → List Char
  | column name type qualifier =>
    name.text ++ (' ' :: (type.word ++ (type.arguments ++ qualifier.text)))
  | primaryKey label columns => labelText label ++ ("PRIMARY KEY ".toList ++ columns.text)
  | unique label columns => labelText (some label) ++ ("UNIQUE ".toList ++ columns.text)
  | foreignKey label key => labelText label ++ key.text

def keys : Entry → List String
  | primaryKey _ columns => columns.names
  | _ => []

def column? (keys : List String) : Entry → Option Column
  | column name type qualifier => some {
      name := name.name
      type := type.label
      isPrimaryKey := qualifier = .primaryKey ∨ name.name ∈ keys
      isNotNull := qualifier = .notNull ∧ name.name ∉ keys }
  | _ => none

def constraint? : Entry → Option Constraint
  | unique _ columns => some ⟨"UNIQUE", columns.names⟩
  | _ => none

def foreignKey? (source : String) : Entry → Option ForeignKey
  | foreignKey _ key => some (key.ofTable source)
  | _ => none

end Entry

section Text

variable (name label : Word) (l : Option Word) (type : DataType) (qualifier : Qualifier)
  (columns : Words) (key : Key)

@[simp] lemma Entry.text_column : (Entry.column name type qualifier).text =
    name.text ++ (' ' :: (type.word ++ (type.arguments ++ qualifier.text))) := rfl

@[simp] lemma Entry.text_primaryKey : (Entry.primaryKey l columns).text =
    labelText l ++ ("PRIMARY KEY ".toList ++ columns.text) := rfl

@[simp] lemma Entry.text_unique : (Entry.unique label columns).text =
    labelText (some label) ++ ("UNIQUE ".toList ++ columns.text) := rfl

@[simp] lemma Entry.text_foreignKey :
    (Entry.foreignKey l key).text = labelText l ++ key.text := rfl

end Text

structure Creation where
  conditional : Bool
  name : Word
  entries : List Entry

namespace Creation

def condition (t : Creation) : List Char := if t.conditional then "IF NOT EXISTS ".toList else []

def body (t : Creation) : List Char := joined (t.entries.map Entry.text)

def text (t : Creation) : List Char :=
  "CREATE TABLE ".toList ++ (t.condition ++ (t.name.text ++ (" (".toList ++ (t.body ++ ");".toList))))

def definition (t : Creation) : TableDefinition where
  name := t.name.name
  columns := t.entries.filterMap (Entry.column? (t.entries.flatMap Entry.keys))
  constraints := t.entries.filterMap Entry.constraint?
  foreignKeys := t.entries.filterMap (Entry.foreignKey? t.name.name)

end Creation

structure Addition where
  table : Word
  label : Option Word
  key : Key

def Addition.text (a : Addition) : List Char :=
  "ALTER TABLE ".toList ++ (a.table.text ++ (" ADD ".toList ++ (labelText a.label ++ (a.key.text ++ [';']))))

def Addition.foreignKey (a : Addition) : ForeignKey := a.key.ofTable a.table.name

inductive Instruction where
  | creation (creation : Creation)
  | addition (addition : Addition)

namespace Instruction

def text : Instruction → List Char
  | creation t => t.text
  | addition a => a.text

def definition? : Instruction → Option TableDefinition
  | creation t => some t.definition
  | addition _ => none

def foreignKey? : Instruction → Option ForeignKey
  | creation _ => none
  | addition a => some a.foreignKey

end Instruction

lemma Creation.text_eq (t : Creation) : t.text = "CREATE TABLE ".toList ++ (t.condition ++
    (t.name.text ++ (" (".toList ++ (t.body ++ ");".toList)))) := rfl

lemma Addition.text_eq (a : Addition) : a.text = "ALTER TABLE ".toList ++ (a.table.text ++
    (" ADD ".toList ++ (labelText a.label ++ (a.key.text ++ [';'])))) := rfl

structure Placed where
  gap : List Char
  gap_blanks : Blanks gap
  instruction : Instruction

def Placed.text (p : Placed) : List Char := p.gap ++ p.instruction.text

end Script

structure Script where
  placed : List Script.Placed
  tail : List Char
  tail_blanks : Blanks tail

structure Model where
  tables : List TableDefinition
  added : List ForeignKey
deriving DecidableEq, Repr

def Script.text (s : Script) : List Char := s.placed.flatMap Placed.text ++ s.tail

def Script.model (s : Script) : Model where
  tables := s.placed.filterMap (·.instruction.definition?)
  added := s.placed.filterMap (·.instruction.foreignKey?)

def Model.schema (m : Model) : Schema where
  tables := m.tables.map fun d => ⟨d.name, d.columns, d.constraints⟩
  relationships := m.tables.flatMap (·.foreignKeys) ++ m.added

def Name.Reserved (name : String) : Prop :=
  name.toList.map Char.toUpper ∈
    ["PARTITION".toList, "PRIMARY".toList, "KEY".toList, "CONSTRAINT".toList]

def Name.CanonicalList (names : List String) : Prop := names ≠ [] ∧ ∀ name ∈ names, Name.Canonical name

structure Column.Canonical (c : Column) : Prop where
  name : Name.Canonical c.name
  not_reserved : ¬Name.Reserved c.name
  type : c.type ∈ ["STRING", "NUMBER", "DATE", "LOB", "OTHER"]
  not_both : ¬(c.isPrimaryKey = true ∧ c.isNotNull = true)

structure ForeignKey.Canonical (k : ForeignKey) : Prop where
  source : Name.Canonical k.source
  sourceColumns : Name.CanonicalList k.sourceColumns
  target : Name.Canonical k.target
  targetColumns : Name.CanonicalList k.targetColumns

structure TableDefinition.Canonical (d : TableDefinition) : Prop where
  name : Name.Canonical d.name
  columns_ne_nil : d.columns ≠ []
  columns_nodup : (d.columns.map (·.name)).Nodup
  columns : ∀ c ∈ d.columns, c.Canonical
  constraints : ∀ c ∈ d.constraints, c.kind = "UNIQUE" ∧ Name.CanonicalList c.columns
  foreignKeys : ∀ k ∈ d.foreignKeys, k.Canonical ∧ k.source = d.name

structure Model.Canonical (m : Model) : Prop where
  names_nodup : (m.tables.map (·.name)).Nodup
  tables : ∀ d ∈ m.tables, d.Canonical
  added : ∀ k ∈ m.added, k.Canonical

instance (name : String) : Decidable (Name.Canonical name) :=
  inferInstanceAs (Decidable (name ≠ "" ∧ Name.Clean name))

instance (name : String) : Decidable (Name.Reserved name) :=
  inferInstanceAs (Decidable (name.toList.map Char.toUpper ∈
    ["PARTITION".toList, "PRIMARY".toList, "KEY".toList, "CONSTRAINT".toList]))

instance (names : List String) : Decidable (Name.CanonicalList names) :=
  inferInstanceAs (Decidable (names ≠ [] ∧ ∀ name ∈ names, Name.Canonical name))

instance (c : Column) : Decidable c.Canonical :=
  decidable_of_iff (Name.Canonical c.name ∧ ¬Name.Reserved c.name ∧
      c.type ∈ ["STRING", "NUMBER", "DATE", "LOB", "OTHER"] ∧
      ¬(c.isPrimaryKey = true ∧ c.isNotNull = true))
    ⟨fun ⟨hn, hr, ht, hb⟩ => ⟨hn, hr, ht, hb⟩, fun ⟨hn, hr, ht, hb⟩ => ⟨hn, hr, ht, hb⟩⟩

instance (k : ForeignKey) : Decidable k.Canonical :=
  decidable_of_iff (Name.Canonical k.source ∧ Name.CanonicalList k.sourceColumns ∧
      Name.Canonical k.target ∧ Name.CanonicalList k.targetColumns)
    ⟨fun ⟨hs, hc, ht, hd⟩ => ⟨hs, hc, ht, hd⟩, fun ⟨hs, hc, ht, hd⟩ => ⟨hs, hc, ht, hd⟩⟩

instance (d : TableDefinition) : Decidable d.Canonical :=
  decidable_of_iff (Name.Canonical d.name ∧ d.columns ≠ [] ∧ (d.columns.map (·.name)).Nodup ∧
      (∀ c ∈ d.columns, c.Canonical) ∧
      (∀ c ∈ d.constraints, c.kind = "UNIQUE" ∧ Name.CanonicalList c.columns) ∧
      ∀ k ∈ d.foreignKeys, k.Canonical ∧ k.source = d.name)
    ⟨fun ⟨hn, he, hd, hc, hu, hk⟩ => ⟨hn, he, hd, hc, hu, hk⟩,
      fun ⟨hn, he, hd, hc, hu, hk⟩ => ⟨hn, he, hd, hc, hu, hk⟩⟩

instance (m : Model) : Decidable m.Canonical :=
  decidable_of_iff ((m.tables.map (·.name)).Nodup ∧ (∀ d ∈ m.tables, d.Canonical) ∧
      ∀ k ∈ m.added, k.Canonical)
    ⟨fun ⟨hn, ht, ha⟩ => ⟨hn, ht, ha⟩, fun ⟨hn, ht, ha⟩ => ⟨hn, ht, ha⟩⟩

end SchemaAtlas
