import Mathlib.Data.List.Nodup
import Mathlib.Tactic.Common
import SchemaAtlas.Proofs.Ddl.Names
import SchemaAtlas.Schema.Fold

/-! Well-formed schemas, and their preservation when one more declaration is taken in. -/

namespace SchemaAtlas

structure Column.Sound (c : Column) : Prop where
  name_clean : Name.Clean c.name
  name_ne_empty : c.name ≠ ""
  type_label : c.type ∈ ["STRING", "NUMBER", "DATE", "LOB", "OTHER"]
  not_both : ¬(c.isPrimaryKey = true ∧ c.isNotNull = true)

def Constraint.Sound (c : Constraint) : Prop :=
  c.kind = "UNIQUE" ∧ c.columns ≠ [] ∧ (∀ name ∈ c.columns, Name.Clean name) ∨
    c.kind = "CHECK" ∧ c.columns = []

structure ForeignKey.Sound (k : ForeignKey) : Prop where
  source_clean : Name.Clean k.source
  sourceColumns_ne_nil : k.sourceColumns ≠ []
  sourceColumns_clean : ∀ name ∈ k.sourceColumns, Name.Clean name
  target_clean : Name.Clean k.target
  targetColumns_ne_nil : k.targetColumns ≠ []
  targetColumns_clean : ∀ name ∈ k.targetColumns, Name.Clean name

structure Table.Sound (t : Table) : Prop where
  name_clean : Name.Clean t.name
  name_ne_empty : t.name ≠ ""
  columns_ne_nil : t.columns ≠ []
  columns_sound : ∀ c ∈ t.columns, c.Sound
  constraints_sound : ∀ c ∈ t.constraints, c.Sound

structure Schema.WellFormed (s : Schema) : Prop where
  names_nodup : s.names.Nodup
  table?_iff : ∀ name t, s.table? name = some t ↔ t ∈ s.tables ∧ t.name = name
  tables_sound : ∀ t ∈ s.tables, t.Sound
  relationships_sound : ∀ k ∈ s.relationships, k.Sound

structure TableDefinition.Sound (d : TableDefinition) : Prop where
  name_clean : Name.Clean d.name
  name_ne_empty : d.name ≠ ""
  columns_sound : ∀ c ∈ d.columns, c.Sound
  constraints_sound : ∀ c ∈ d.constraints, c.Sound
  foreignKeys_sound : ∀ k ∈ d.foreignKeys, k.Sound

def Declaration.Sound : Declaration → Prop
  | .table d => d.Sound
  | .foreignKey k => k.Sound

lemma Column.Sound.type_clean {c : Column} (h : c.Sound) : Name.Clean c.type := by
  have hlabels : ∀ type ∈ ["STRING", "NUMBER", "DATE", "LOB", "OTHER"], Name.Clean type := by decide
  exact hlabels _ h.type_label

lemma Column.Sound.normal {c : Column} (h : c.Sound) : c.normal.Sound where
  name_clean := h.name_clean
  name_ne_empty := h.name_ne_empty
  type_label := h.type_label
  not_both := by
    rintro ⟨hp, hn⟩
    simp only [Column.normal, Bool.and_eq_true, Bool.not_eq_true'] at hp hn
    rw [hp] at hn
    exact Bool.false_ne_true hn.2.symm

lemma TableDefinition.Sound.table {d : TableDefinition} (h : d.Sound) (hc : d.columns ≠ []) :
    d.table.Sound where
  name_clean := h.name_clean
  name_ne_empty := h.name_ne_empty
  columns_ne_nil := by simpa [TableDefinition.table] using hc
  columns_sound := by
    intro c hm
    obtain ⟨c', hc', rfl⟩ := List.mem_map.mp hm
    exact (h.columns_sound c' hc').normal
  constraints_sound := h.constraints_sound

namespace Schema

lemma mem_putTable {t u : Table} {ts : List Table} (h : u ∈ putTable t ts) : u = t ∨ u ∈ ts := by
  induction ts with
  | nil => simpa using h
  | cons v vs ih =>
    rw [putTable] at h
    split at h
    · rcases List.mem_cons.mp h with rfl | h
      · exact .inl rfl
      · exact .inr (List.mem_cons_of_mem _ h)
    · rcases List.mem_cons.mp h with rfl | h
      · exact .inr List.mem_cons_self
      · exact (ih h).imp_right (List.mem_cons_of_mem _)

lemma nodup_names_putTable {t : Table} {ts : List Table} (h : (ts.map (·.name)).Nodup) :
    ((putTable t ts).map (·.name)).Nodup := by
  rw [names_putTable]
  split
  · exact h
  · next hm =>
    refine List.nodup_append.mpr ⟨h, List.nodup_singleton t.name, ?_⟩
    intro name hname other hother
    rw [List.mem_singleton.mp hother]
    rintro rfl
    exact hm hname

lemma find?_name_iff {ts : List Table} (h : (ts.map (·.name)).Nodup) (name : String) (t : Table) :
    ts.find? (·.name == name) = some t ↔ t ∈ ts ∧ t.name = name := by
  constructor
  · intro hf
    exact ⟨List.mem_of_find?_eq_some hf, by simpa using List.find?_some hf⟩
  · rintro ⟨ht, rfl⟩
    induction ts with
    | nil => simp at ht
    | cons u us ih =>
      rw [List.map_cons, List.nodup_cons] at h
      rcases List.mem_cons.mp ht with rfl | ht
      · simp
      · have hne : u.name ≠ t.name := fun he => h.1 (List.mem_map.mpr ⟨t, ht, he.symm⟩)
        simpa [hne] using ih h.2 ht

lemma WellFormed.of_nodup {s : Schema} (hn : s.names.Nodup) (ht : ∀ t ∈ s.tables, t.Sound)
    (hr : ∀ k ∈ s.relationships, k.Sound) : s.WellFormed :=
  ⟨hn, find?_name_iff hn, ht, hr⟩

lemma wellFormed_empty : WellFormed {} := .of_nodup (by simp) (by simp) (by simp)

theorem WellFormed.declare {s : Schema} (h : s.WellFormed) {d : Declaration} (hd : d.Sound) :
    (s.declare d).WellFormed := by
  cases d with
  | table d =>
    rw [Schema.declare]
    split
    · exact h
    · next hc =>
      have hc : d.columns ≠ [] := by simpa using hc
      refine .of_nodup (nodup_names_putTable h.names_nodup) ?_ ?_
      · intro t ht
        rcases mem_putTable ht with rfl | ht
        · exact hd.table hc
        · exact h.tables_sound t ht
      · intro k hk
        rcases List.mem_append.mp hk with hk | hk
        · exact h.relationships_sound k hk
        · exact hd.foreignKeys_sound k hk
  | foreignKey k =>
    refine .of_nodup h.names_nodup h.tables_sound ?_
    intro k' hk
    rcases List.mem_append.mp hk with hk | hk
    · exact h.relationships_sound k' hk
    · rw [List.mem_singleton.mp hk]
      exact hd

theorem wellFormed_ofDeclarations {ds : List Declaration} (h : ∀ d ∈ ds, d.Sound) :
    (ofDeclarations ds).WellFormed := by
  suffices hfold : ∀ s : Schema, s.WellFormed → (ds.foldl Schema.declare s).WellFormed from
    hfold {} wellFormed_empty
  induction ds with
  | nil => exact fun s hs => hs
  | cons d ds ih =>
    intro s hs
    obtain ⟨hd, hds⟩ := List.forall_mem_cons.mp h
    exact ih hds (s.declare d) (hs.declare hd)

end Schema

end SchemaAtlas
