import SchemaAtlas.Proofs.Schema.Folding
import SchemaAtlas.Proofs.Schema.OfDump
import SchemaAtlas.Proofs.Script.Statements

/-! Reading a script gives the model that it prints. -/

namespace SchemaAtlas

open SchemaAtlas.Text SchemaAtlas.Ddl

namespace Script

lemma Entry.column?_member (e : Entry) (table : String) (keys : List String) :
    (Ddl.Member.column? (e.member table)).map (Column.withKeys keys) = e.column? keys := by
  cases e with
  | column name type qualifier =>
    by_cases hk : name.name ∈ keys <;> simp [member, column?, Ddl.Member.column?, Column.withKeys, hk]
  | primaryKey | unique | foreignKey => rfl

lemma Entry.keyColumns_member (e : Entry) (table : String) :
    Ddl.Member.keyColumns (e.member table) = e.keys := by
  cases e <;> rfl

lemma Entry.constraint?_member (e : Entry) (table : String) :
    Ddl.Member.constraint? (e.member table) = e.constraint? := by
  cases e <;> rfl

lemma Entry.foreignKey?_member (e : Entry) (table : String) :
    Ddl.Member.foreignKey? (e.member table) = e.foreignKey? table := by
  cases e <;> rfl

lemma Creation.ofMembers_entries (t : Creation) :
    TableDefinition.ofMembers t.name.name (t.entries.map (Entry.member t.name.name)) = t.definition := by
  have hkeys : (t.entries.map (Entry.member t.name.name)).flatMap Ddl.Member.keyColumns =
      t.entries.flatMap Entry.keys := by
    rw [List.flatMap_map]
    exact List.flatMap_congr fun e _ => e.keyColumns_member _
  have hcolumns (keys : List String) : ((t.entries.map (Entry.member t.name.name)).filterMap
      Ddl.Member.column?).map (Column.withKeys keys) = t.entries.filterMap (Entry.column? keys) := by
    rw [List.filterMap_map, List.map_filterMap]
    exact List.filterMap_congr fun e _ => e.column?_member _ keys
  have hconstraints : (t.entries.map (Entry.member t.name.name)).filterMap Ddl.Member.constraint? =
      t.entries.filterMap Entry.constraint? := by
    rw [List.filterMap_map]
    exact List.filterMap_congr fun e _ => e.constraint?_member _
  have hforeign : (t.entries.map (Entry.member t.name.name)).filterMap Ddl.Member.foreignKey? =
      t.entries.filterMap (Entry.foreignKey? t.name.name) := by
    rw [List.filterMap_map]
    exact List.filterMap_congr fun e _ => e.foreignKey?_member _
  rw [TableDefinition.ofMembers, hkeys, hcolumns, hconstraints, hforeign, definition]

theorem Creation.read_body (t : Creation) (h : ∀ e ∈ t.entries, e.Readable) :
    TableDefinition.read t.name.name t.body = t.definition := by
  have hmembers : (members t.body).filterMap (Ddl.Member.read t.name.name) =
      t.entries.map (Entry.member t.name.name) := by
    rw [t.members_body, List.filterMap_map, ← List.filterMap_eq_map]
    exact List.filterMap_congr fun e he => e.read_text (h e he) _
  rw [TableDefinition.read, hmembers, t.ofMembers_entries]

lemma Creation.finding (t : Creation) (h : ∀ e ∈ t.entries, e.Readable) :
    (⟨t.name.text, t.body⟩ : Statement).finding = .declaration (.table t.definition) := by
  have htoken : Name.clean (⟨t.name.text, t.body⟩ : Statement).token = t.name.name := t.name.clean_text
  have hname : Name.clean (⟨t.name.text, t.body⟩ : Statement).token ≠ "" := by
    rw [htoken]
    exact t.name.canonical.1
  rw [Statement.finding_of_named hname, htoken, t.read_body h]

def Instruction.statement? : Instruction → Option Statement
  | creation t => some ⟨t.name.text, t.body⟩
  | addition _ => none

lemma Placed.scan_text (p : Placed) (s : List Char) : Statement.scan (p.text ++ s) =
    p.instruction.statement?.toList ++ Statement.scan s := by
  obtain ⟨gap, hgap, instruction⟩ := p
  rw [text, List.append_assoc, Statement.scan_of_passes (Statement.passes_head_blanks hgap _)]
  cases instruction with
  | creation t => exact t.scan_text s
  | addition a => exact Statement.scan_of_passes (a.passes_text s)

lemma Placed.all_text (p : Placed) (s : List Char) : AddedKey.pattern.all (p.text ++ s) =
    p.instruction.foreignKey?.toList ++ AddedKey.pattern.all s := by
  obtain ⟨gap, hgap, instruction⟩ := p
  rw [text, List.append_assoc, Pattern.all_of_passes (AddedKey.passes_read_blanks hgap _)]
  cases instruction with
  | creation t => exact Pattern.all_of_passes (t.passes_text s)
  | addition a => exact a.all_text s

variable (s : Script)

theorem scan_text : Statement.scan s.text = s.placed.filterMap (·.instruction.statement?) := by
  obtain ⟨placed, tail, htail⟩ := s
  have hnil : Statement.scan tail = [] := by
    rw [← List.append_nil tail, Statement.scan_of_passes (Statement.passes_head_blanks htail _), Statement.scan]
  rw [text]
  induction placed with
  | nil => exact hnil
  | cons p ps ih =>
    simp only at ih ⊢
    rw [List.flatMap_cons, List.append_assoc, p.scan_text, ih]
    cases h : p.instruction.statement? <;> simp [h]

theorem addedKeys_text : AddedKey.scan s.text = s.model.added := by
  obtain ⟨placed, tail, htail⟩ := s
  have hnil : AddedKey.pattern.all tail = [] := by
    rw [← List.append_nil tail, Pattern.all_of_passes (AddedKey.passes_read_blanks htail _), Pattern.all_nil]
  rw [AddedKey.scan, text, model]
  induction placed with
  | nil => exact hnil
  | cons p ps ih =>
    simp only at ih ⊢
    rw [List.flatMap_cons, List.append_assoc, p.all_text, ih]
    cases h : p.instruction.foreignKey? <;> simp [h]

def Readable : Prop := ∀ p ∈ s.placed, ∀ t, p.instruction = .creation t → ∀ e ∈ t.entries, e.Readable

lemma readable_of_canonical (h : s.model.Canonical) : s.Readable := by
  intro p hp t ht e he
  cases e with
  | column name type qualifier =>
    have hdefinition : t.definition ∈ s.model.tables :=
      List.mem_filterMap.mpr ⟨p, hp, by rw [ht]; rfl⟩
    have hcolumn : _ ∈ t.definition.columns := List.mem_filterMap.mpr ⟨_, he, rfl⟩
    exact ((h.tables _ hdefinition).columns _ hcolumn).not_reserved
  | primaryKey | unique | foreignKey => trivial

lemma declarations_text (h : s.Readable) : Dump.declarations s.text =
    s.model.tables.map Declaration.table ++ s.model.added.map Declaration.foreignKey := by
  have htables : ((Statement.scan s.text).map Statement.finding).filterMap Finding.declaration? =
      s.model.tables.map Declaration.table := by
    rw [s.scan_text, model, List.filterMap_map, List.filterMap_filterMap, List.map_filterMap]
    apply List.filterMap_congr
    intro p hp
    cases hi : p.instruction with
    | creation t =>
      rw [Instruction.statement?, Option.bind_some, Function.comp_apply, t.finding (h p hp t hi)]
      rfl
    | addition a => rfl
  have hkeys : ((AddedKey.scan s.text).map fun k => Finding.declaration (.foreignKey k)).filterMap
      Finding.declaration? = s.model.added.map Declaration.foreignKey := by
    rw [s.addedKeys_text, List.filterMap_map, ← List.filterMap_eq_map]
    rfl
  rw [Dump.declarations, Dump.findings, Dump.findingsOf, List.filterMap_append, htables, hkeys]

lemma table_of_canonical {d : TableDefinition} (h : d.Canonical) :
    d.table = ⟨d.name, d.columns, d.constraints⟩ := by
  have hnormal : d.columns.map Column.normal = d.columns := by
    refine (List.map_congr_left fun c hc => ?_).trans (List.map_id d.columns)
    have hboth := (h.columns c hc).not_both
    obtain ⟨name, type, isPrimaryKey, isNotNull⟩ := c
    cases isPrimaryKey <;> cases isNotNull <;> simp_all [Column.normal]
  rw [TableDefinition.table, hnormal]

theorem schema_text (h : s.model.Canonical) : Schema.ofDump s.text = s.model.schema := by
  have hcolumns : ∀ d ∈ s.model.tables, d.columns ≠ [] := fun d hd => (h.tables d hd).columns_ne_nil
  have htables : s.model.tables.map (·.table) =
      s.model.tables.map fun d => ⟨d.name, d.columns, d.constraints⟩ :=
    List.map_congr_left fun d hd => table_of_canonical (h.tables d hd)
  rw [Schema.ofDump, s.declarations_text (s.readable_of_canonical h),
    Schema.ofDeclarations_of_nodup hcolumns h.names_nodup, htables]
  rfl

end Script

end SchemaAtlas
