import Mathlib.Data.Set.List
import SchemaAtlas.Proofs.Script.Reading

/-! Every canonical model is printed by a script, and every script of it is read back. -/

namespace SchemaAtlas

open SchemaAtlas.Text SchemaAtlas.Ddl

namespace Script

section Lists

variable {α β : Type} {f : α → β} {bs : List β}

lemma exists_map_eq (h : ∀ b ∈ bs, ∃ a, f a = b) : ∃ as : List α, as.map f = bs := by
  have hrange : bs ∈ Set.range (List.map f) := by
    rw [Set.range_list_map]
    exact h
  exact hrange

end Lists

lemma exists_words {names : List String} (h : Name.CanonicalList names) :
    ∃ ws : Words, ws.names = names := by
  obtain ⟨hne, hcanonical⟩ := h
  have hword : ∀ name ∈ names, ∃ x : Word, x.name = name := fun name hm =>
    ⟨⟨name, hcanonical name hm, .bare⟩, rfl⟩
  obtain ⟨list, rfl⟩ := exists_map_eq hword
  exact ⟨⟨list, by simpa using hne⟩, rfl⟩

lemma exists_key {k : ForeignKey} (h : k.Canonical) : ∃ key : Key, key.ofTable k.source = k := by
  obtain ⟨columns, hc⟩ := exists_words h.sourceColumns
  obtain ⟨targetColumns, ht⟩ := exists_words h.targetColumns
  refine ⟨⟨columns, ⟨k.target, h.target, .bare⟩, targetColumns⟩, ?_⟩
  rw [Key.ofTable, hc, ht]

def columnOf (p : Word × DataType × Qualifier) : Column :=
  ⟨p.1.name, p.2.1.label, decide (p.2.2 = .primaryKey), decide (p.2.2 = .notNull)⟩

lemma exists_column {c : Column} (h : c.Canonical) : ∃ p, columnOf p = c := by
  obtain ⟨name, type, isPrimaryKey, isNotNull⟩ := c
  obtain ⟨hname, _, htype, hboth⟩ := h
  have htype : ∃ t : DataType, t.label = type := by
    simp only [List.mem_cons, List.not_mem_nil, or_false] at htype
    rcases htype with rfl | rfl | rfl | rfl | rfl
    · exact ⟨.varchar2, rfl⟩
    · exact ⟨.number, rfl⟩
    · exact ⟨.date, rfl⟩
    · exact ⟨.clob, rfl⟩
    · exact ⟨.raw, rfl⟩
  obtain ⟨t, rfl⟩ := htype
  have hqualifier : ∃ q : Qualifier,
      decide (q = .primaryKey) = isPrimaryKey ∧ decide (q = .notNull) = isNotNull := by
    cases isPrimaryKey <;> cases isNotNull
    · exact ⟨.plain, rfl, rfl⟩
    · exact ⟨.notNull, rfl, rfl⟩
    · exact ⟨.primaryKey, rfl, rfl⟩
    · exact absurd ⟨rfl, rfl⟩ hboth
  obtain ⟨q, rfl, rfl⟩ := hqualifier
  exact ⟨⟨⟨name, hname, .bare⟩, t, q⟩, rfl⟩

lemma exists_creation {d : TableDefinition} (h : d.Canonical) : ∃ t : Creation, t.definition = d := by
  obtain ⟨cs, hcs⟩ := exists_map_eq (f := columnOf) fun c hc => exists_column (h.columns c hc)
  have hunique : ∀ c ∈ d.constraints, ∃ ws : Words, (⟨"UNIQUE", ws.names⟩ : Constraint) = c := by
    intro c hc
    obtain ⟨hkind, hlist⟩ := h.constraints c hc
    obtain ⟨ws, hws⟩ := exists_words hlist
    exact ⟨ws, by rw [hws, ← hkind]⟩
  have hforeign : ∀ k ∈ d.foreignKeys, ∃ key : Key, key.ofTable d.name = k := by
    intro k hk
    obtain ⟨hcanonical, hsource⟩ := h.foreignKeys k hk
    rw [← hsource]
    exact exists_key hcanonical
  obtain ⟨us, hus⟩ := exists_map_eq hunique
  obtain ⟨ks, hks⟩ := exists_map_eq hforeign
  let name : Word := ⟨d.name, h.name, .bare⟩
  let entries : List Entry := cs.map (fun p => .column p.1 p.2.1 p.2.2) ++
    (us.map (.unique name) ++ ks.map (.foreignKey none))
  have hkeys : entries.flatMap Entry.keys = [] := by
    apply List.flatMap_eq_nil_iff.mpr
    intro e he
    rcases List.mem_append.mp he with he | he
    · obtain ⟨p, _, rfl⟩ := List.mem_map.mp he
      rfl
    rcases List.mem_append.mp he with he | he
    · obtain ⟨ws, _, rfl⟩ := List.mem_map.mp he
      rfl
    · obtain ⟨key, _, rfl⟩ := List.mem_map.mp he
      rfl
  have hcolumns : entries.filterMap (Entry.column? []) = d.columns := by
    rw [← hcs]
    simp [entries, Function.comp_def, Entry.column?, columnOf]
  have hconstraints : entries.filterMap Entry.constraint? = d.constraints := by
    rw [← hus]
    simp [entries, Function.comp_def, Entry.constraint?]
  have hkeysOf : entries.filterMap (Entry.foreignKey? d.name) = d.foreignKeys := by
    rw [← hks]
    simp [entries, Function.comp_def, Entry.foreignKey?]
  refine ⟨⟨false, name, entries⟩, ?_⟩
  rw [Creation.definition, hkeys, hcolumns, hconstraints, hkeysOf]

theorem exists_script {m : Model} (h : m.Canonical) : ∃ s : Script, s.model = m := by
  have hcreation : ∀ d ∈ m.tables, ∃ t : Creation, t.definition = d := fun d hd =>
    exists_creation (h.tables d hd)
  obtain ⟨ts, hts⟩ := exists_map_eq hcreation
  have hadded : ∀ k ∈ m.added, ∃ a : Addition, a.foreignKey = k := by
    intro k hk
    obtain ⟨key, hkey⟩ := exists_key (h.added k hk)
    exact ⟨⟨⟨k.source, (h.added k hk).source, .bare⟩, none, key⟩, hkey⟩
  obtain ⟨as, has⟩ := exists_map_eq hadded
  let creations : List Placed := ts.map fun t => ⟨[], blanks_nil, .creation t⟩
  let additions : List Placed := as.map fun a => ⟨[], blanks_nil, .addition a⟩
  have htables : (creations ++ additions).filterMap (·.instruction.definition?) = m.tables := by
    rw [← hts]
    simp [creations, additions, Instruction.definition?]
  have hkeys : (creations ++ additions).filterMap (·.instruction.foreignKey?) = m.added := by
    rw [← has]
    simp [creations, additions, Instruction.foreignKey?]
  refine ⟨⟨creations ++ additions, [], blanks_nil⟩, ?_⟩
  rw [model, htables, hkeys]

end Script

/-- Reading undoes printing: a canonical model has scripts, and each of them is read as its schema. -/
theorem ofDump_of_prints (m : Model) (h : m.Canonical) :
    (∃ s : Script, s.model = m) ∧ ∀ s : Script, s.model = m → Schema.ofDump s.text = m.schema := by
  refine ⟨Script.exists_script h, ?_⟩
  rintro s rfl
  exact s.schema_text h

namespace Script

def word (quoting : Quoting) (name : String) (h : Name.Canonical name) : Word := ⟨name, h, quoting⟩

def words (name : String) (h : Name.Canonical name) : Words := ⟨[⟨name, h, .bare⟩], by simp⟩

def orders : Script where
  placed := [
    ⟨[], by decide, .addition ⟨word .double "b" (by decide), none,
      words "x" (by decide), word .bracket "a" (by decide), words "id" (by decide)⟩⟩,
    ⟨['\n'], by decide, .creation ⟨false, word .back "a" (by decide), [
      .column (word .bare "id" (by decide)) .number .plain,
      .primaryKey none (words "id" (by decide))]⟩⟩,
    ⟨['\n'], by decide, .creation ⟨true, word .bare "b" (by decide), [
      .unique (word .bare "u" (by decide)) (words "x" (by decide)),
      .column (word .bare "x" (by decide)) .clob .notNull]⟩⟩]
  tail := []
  tail_blanks := by decide

def ordersText : List Char :=
  "ALTER TABLE \"b\" ADD FOREIGN KEY (x) REFERENCES [a] (id);\n".toList ++
  "CREATE TABLE \x60a\x60 (id NUMBER(10,2), PRIMARY KEY (id));\n".toList ++
  "CREATE TABLE IF NOT EXISTS b (CONSTRAINT u UNIQUE (x), x CLOB NOT NULL);".toList

def ordersSchema : Schema where
  tables := [
    ⟨"a", [⟨"id", "NUMBER", true, false⟩], []⟩,
    ⟨"b", [⟨"x", "LOB", false, true⟩], [⟨"UNIQUE", ["x"]⟩]⟩]
  relationships := [⟨"b", ["x"], "a", ["id"]⟩]

end Script

theorem ofDump_orders : Script.orders.model.Canonical ∧
    Schema.ofDump Script.ordersText = Script.ordersSchema := by
  have hcanonical : Script.orders.model.Canonical := by decide +kernel
  have htext : Script.ordersText = Script.orders.text := by decide +kernel
  have hschema : Script.orders.model.schema = Script.ordersSchema := by decide +kernel
  refine ⟨hcanonical, ?_⟩
  rw [htext, (ofDump_of_prints _ hcanonical).2 Script.orders rfl, hschema]

end SchemaAtlas
