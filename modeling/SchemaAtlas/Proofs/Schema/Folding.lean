import SchemaAtlas.Proofs.Schema.WellFormed

/-! Taking in declarations. Names of tables stay distinct, and tables of different names and keys come
each behind what is there. -/

namespace SchemaAtlas.Schema

lemma nodup_names_declare {s : Schema} (h : s.names.Nodup) (d : Declaration) :
    (s.declare d).names.Nodup := by
  cases d with
  | table d =>
    rw [declare]
    split
    · exact h
    · exact nodup_names_putTable h
  | foreignKey k => exact h

theorem nodup_names_ofDeclarations (ds : List Declaration) : (ofDeclarations ds).names.Nodup := by
  suffices hfold : ∀ s : Schema, s.names.Nodup → (ds.foldl declare s).names.Nodup from
    hfold {} List.nodup_nil
  induction ds with
  | nil => exact fun s hs => hs
  | cons d ds ih => exact fun s hs => ih (s.declare d) (nodup_names_declare hs d)

lemma putTable_of_not_mem {t : Table} {ts : List Table} (h : t.name ∉ ts.map (·.name)) :
    putTable t ts = ts ++ [t] := by
  induction ts with
  | nil => rfl
  | cons u us ih =>
    simp only [List.map_cons, List.mem_cons, not_or] at h
    rw [putTable, if_neg (Ne.symm h.1), ih h.2, List.cons_append]

lemma foldl_declare_tables {ds : List TableDefinition} (hc : ∀ d ∈ ds, d.columns ≠ []) (s : Schema)
    (hn : (s.names ++ ds.map (·.name)).Nodup) :
    (ds.map Declaration.table).foldl declare s =
      ⟨s.tables ++ ds.map (·.table), s.relationships ++ ds.flatMap (·.foreignKeys)⟩ := by
  induction ds generalizing s with
  | nil => simp
  | cons d ds ih =>
    obtain ⟨hd, hds⟩ := List.forall_mem_cons.mp hc
    have hnew : d.table.name ∉ s.tables.map (·.name) := by
      intro hm
      exact (List.nodup_append.mp hn).2.2 _ hm _ List.mem_cons_self rfl
    have hstep : s.declare (.table d) = ⟨s.tables ++ [d.table], s.relationships ++ d.foreignKeys⟩ := by
      rw [declare, if_neg (by simpa using hd), putTable_of_not_mem hnew]
    have hnames : ((⟨s.tables ++ [d.table], s.relationships ++ d.foreignKeys⟩ : Schema).names ++
        ds.map (·.name)).Nodup := by
      rw [List.map_cons] at hn
      simpa [names, TableDefinition.table] using hn
    rw [List.map_cons, List.foldl_cons, hstep, ih hds _ hnames]
    simp

lemma foldl_declare_keys (ks : List ForeignKey) (s : Schema) :
    (ks.map Declaration.foreignKey).foldl declare s = ⟨s.tables, s.relationships ++ ks⟩ := by
  induction ks generalizing s with
  | nil => simp
  | cons k ks ih =>
    rw [List.map_cons, List.foldl_cons, ih]
    simp [declare]

theorem ofDeclarations_of_nodup {ds : List TableDefinition} (hc : ∀ d ∈ ds, d.columns ≠ [])
    (hn : (ds.map (·.name)).Nodup) (ks : List ForeignKey) :
    ofDeclarations (ds.map Declaration.table ++ ks.map Declaration.foreignKey) =
      ⟨ds.map (·.table), ds.flatMap (·.foreignKeys) ++ ks⟩ := by
  rw [ofDeclarations_append, ofDeclarations, foldl_declare_tables hc {} (by simpa [names] using hn),
    foldl_declare_keys]
  simp

end SchemaAtlas.Schema
