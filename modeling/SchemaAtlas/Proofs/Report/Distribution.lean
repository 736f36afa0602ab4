import Mathlib.Data.List.FinRange
import Mathlib.Data.List.Nodup
import SchemaAtlas.Proofs.Diagram.Parts
import SchemaAtlas.Proofs.Report.Chunks
import SchemaAtlas.Proofs.Schema.Folding
import SchemaAtlas.Proofs.Text.Lines

/-! Partitioned documents share out a schema. Each table stands in one of them, and each foreign key is
drawn in at most one, while the index lists all of them. -/

namespace SchemaAtlas

open SchemaAtlas.Text

namespace Schema

variable (s : Schema)

def Joins (names : List String) (j : Fin s.relationships.length) : Prop :=
  s.relationships[j].source ∈ names ∧ s.relationships[j].target ∈ names

instance (names : List String) (j : Fin s.relationships.length) : Decidable (s.Joins names j) :=
  inferInstanceAs (Decidable (s.relationships[j].source ∈ names ∧ s.relationships[j].target ∈ names))

def places (names : List String) : List (Fin s.relationships.length) :=
  (List.finRange s.relationships.length).filter (s.Joins names ·)

def ends (j : Fin s.relationships.length) : String × String :=
  (s.relationships[j].source, s.relationships[j].target)

variable {s}

@[simp] lemma mem_places {names : List String} {j : Fin s.relationships.length} :
    j ∈ s.places names ↔ s.Joins names j := by
  simp [places]

lemma places_pairwise (names : List String) : (s.places names).Pairwise (· < ·) :=
  (List.pairwise_lt_finRange s.relationships.length).filter _

lemma drawableWithin_eq {names : List String} (h : names ⊆ s.names) :
    s.drawableWithin names = (s.places names).map fun j => s.relationships[j] := by
  have hfilter : s.drawableWithin names =
      s.relationships.filter fun k => k.source ∈ names ∧ k.target ∈ names := by
    rw [drawableWithin, drawable, List.filter_filter]
    apply List.filter_congr
    intro k _
    have hsub : k.source ∈ names ∧ k.target ∈ names → k.source ∈ s.names ∧ k.target ∈ s.names :=
      And.imp (@h _) (@h _)
    rw [Bool.eq_iff_iff]
    simp only [Bool.and_eq_true, List.contains_iff_mem, hasTable_iff, decide_eq_true_eq]
    exact ⟨And.left, fun hk => ⟨hk, hsub hk⟩⟩
  have hplaces : s.relationships = (List.finRange s.relationships.length).map s.relationships.get :=
    (List.map_get_finRange s.relationships).symm
  rw [hfilter]
  conv_lhs => rw [hplaces]
  rw [List.filter_map]
  rfl

end Schema

namespace Mermaid

lemma tablesUpToUnknown_names {s : Schema} {ts : List Table}
    (h : ∀ t ∈ ts, s.table? t.name = some t) :
    tablesUpToUnknown s (ts.map (·.name)) = (ts, none) := by
  induction ts with
  | nil => rfl
  | cons t ts ih =>
    obtain ⟨ht, hts⟩ := List.forall_mem_cons.mp h
    simp only [List.map_cons, tablesUpToUnknown, ht, ih hts]

lemma renderSome_names {s : Schema} (hn : s.names.Nodup) {ts : List Table} (h : ts ⊆ s.tables) :
    renderSome s (ts.map (·.name)) = .ok (source (diagramOf s ts)) := by
  have hknown : ∀ t ∈ ts, s.table? t.name = some t := fun t ht =>
    (Schema.find?_name_iff hn t.name t).mpr ⟨h ht, rfl⟩
  rw [renderSome, tablesUpToUnknown_names hknown]

end Mermaid

namespace Report

def begins (t line : String) : Bool := t.toList.isPrefixOf line.toList

/-- How partitions share out a schema among documents. -/
structure Distribution (s : Schema) (i : Imprint) (size : ℤ) (ps : List Partition) : Prop where
  names_flatMap : ps.flatMap (·.names) = s.names
  names_ne_nil : ∀ p ∈ ps, p.names ≠ []
  length_names : ∀ p ∈ ps.dropLast, (p.names.length : ℤ) = size
  rendered : ∀ p ∈ ps,
    Mermaid.renderSome s p.names = .ok (Mermaid.source (Mermaid.diagramOf s p.tables))
  embedded : ∀ p ∈ ps, ∃ before after, (partitionDocument s i ps.length p).content =
    before ++ ("```mermaid\n" ++ Mermaid.source (Mermaid.diagramOf s p.tables) ++ "```\n\n") ++ after
  blocks : ps.flatMap (fun p => Mermaid.blocks (Mermaid.diagramOf s p.tables)) =
    Mermaid.blocks (Mermaid.diagram s)
  arrows : ∀ p ∈ ps, Mermaid.arrows (Mermaid.diagramOf s p.tables) = (s.places p.names).map s.ends
  places_iff : ∀ p ∈ ps, ∀ j, j ∈ s.places p.names ↔ s.Joins p.names j
  places_in_order : ∀ p ∈ ps, (s.places p.names).Pairwise (· < ·)
  places_nodup : (ps.flatMap fun p => s.places p.names).Nodup
  counted : (indexLines s i ps.length ps).filter (begins "- **Relationships:**") =
    ps.map fun p => s!"- **Relationships:** {(s.places p.names).length} internal relationships"
  sum_counted : (ps.map fun p => (s.places p.names).length).sum =
    (List.finRange s.relationships.length).countP fun j => ∃ p ∈ ps, s.Joins p.names j
  listed : (indexLines s i ps.length ps).filter (begins "|") =
    (if s.relationships = [] then [] else
      ["| Source table | Column(s) | Target table | Column(s) |",
        "|--------------|-----------|--------------|-----------|"]) ++
      s.relationships.map relationshipRow

lemma unlines_fenced (d : Mermaid.Diagram) :
    unlines (fenced d) = "```mermaid\n" ++ Mermaid.source d ++ "```\n\n" := by
  have hend : unlines ["```", ""] = "```\n\n" := by decide
  have hstart : "```mermaid\n" = "```mermaid" ++ "\n" := by decide
  rw [fenced, List.cons_append, unlines_cons, unlines_append, hend, hstart, Mermaid.source]
  simp only [String.append_assoc]

lemma fenced_infix (s : Schema) (i : Imprint) (total : ℤ) (p : Partition) :
    fenced (Mermaid.diagramOf s p.tables) <:+: partitionLines s i total p := by
  unfold partitionLines
  -- four parts stand behind the diagram
  iterate 4 refine List.IsInfix.trans ?_ (List.prefix_append _ _).isInfix
  exact (List.suffix_append _ _).isInfix

lemma exists_diagram (s : Schema) (i : Imprint) (total : ℤ) (p : Partition) :
    ∃ before after, (partitionDocument s i total p).content =
      before ++ ("```mermaid\n" ++ Mermaid.source (Mermaid.diagramOf s p.tables) ++ "```\n\n") ++ after := by
  obtain ⟨before, after, h⟩ := fenced_infix s i total p
  refine ⟨unlines before, unlines after, ?_⟩
  rw [partitionDocument, ← h, unlines_append, unlines_append, unlines_fenced]

def entryWords : List String :=
  ["### [", "- **Tables:**", "- **Count:**", "- **Relationships:**"]

lemma filter_indexEntry_counted (s : Schema) (i : Imprint) (p : Partition) :
    (indexEntry s i p).filter (begins "- **Relationships:**") =
      [s!"- **Relationships:** {(s.drawableWithin p.names).length} internal relationships"] := by
  simp [indexEntry, begins, toString_text]

lemma filter_indexEntry_listed (s : Schema) (i : Imprint) (p : Partition) :
    (indexEntry s i p).filter (begins "|") = [] := by
  simp [indexEntry, begins, toString_text]

def OffRows (w : String) : Prop := w ≠ "" ∧ w.toList.head? ≠ some '|'

instance (w : String) : Decidable (OffRows w) := inferInstanceAs (Decidable (w ≠ "" ∧ w.toList.head? ≠ some '|'))

lemma OffRows.not_begins {w line : String} (hw : OffRows w) (hline : line = "" ∨ line.toList.head? = some '|') :
    ¬ begins w line := by
  obtain ⟨hne, hhead⟩ := hw
  obtain ⟨c, x, hx⟩ : ∃ c x, w.toList = c :: x := List.exists_cons_of_ne_nil (by simpa using hne)
  rcases hline with rfl | hline
  · simp [begins, hx]
  · obtain ⟨y, hy⟩ := List.head?_eq_some_iff.mp hline
    have hc : c ≠ '|' := by simpa [hx] using hhead
    simp [begins, hx, hy, hc]

lemma OffRows.filter_listing {w : String} (hw : OffRows w) (ks : List ForeignKey) :
    (relationshipListing ks).filter (begins w) = [] := by
  have hrow : ∀ k : ForeignKey, (relationshipRow k).toList.head? = some '|' := by
    simp [relationshipRow, toString_text]
  have hends : ∀ line ∈ ["| Source table | Column(s) | Target table | Column(s) |",
      "|--------------|-----------|--------------|-----------|", ""],
      line = "" ∨ line.toList.head? = some '|' := by decide
  apply List.filter_eq_nil_iff.mpr
  intro line hline
  rw [relationshipListing, List.mem_append, List.mem_append] at hline
  obtain (hline | hline) | hline := hline
  · exact hw.not_begins (hends line (List.mem_append_left [""] hline))
  · obtain ⟨k, -, rfl⟩ := List.mem_map.mp hline
    exact hw.not_begins (.inr (hrow k))
  · exact hw.not_begins (.inl (List.mem_singleton.mp hline))

lemma filter_listing_listed (ks : List ForeignKey) : (relationshipListing ks).filter (begins "|") =
    ["| Source table | Column(s) | Target table | Column(s) |",
      "|--------------|-----------|--------------|-----------|"] ++ ks.map relationshipRow := by
  have hrows : (ks.map relationshipRow).filter (begins "|") = ks.map relationshipRow := by
    apply List.filter_eq_self.mpr
    intro row hrow
    obtain ⟨k, -, rfl⟩ := List.mem_map.mp hrow
    simp [relationshipRow, begins, toString_text]
  have hend : [""].filter (begins "|") = [] := by decide
  rw [relationshipListing, List.filter_append, List.filter_append, hrows, hend, List.append_nil]
  exact congrArg (· ++ ks.map relationshipRow) (by decide)

variable (s : Schema) (i : Imprint) (total : ℤ) (ps : List Partition)

lemma filter_indexLines {w : String} (hw : w = "|" ∨ w ∈ entryWords) :
    (indexLines s i total ps).filter (begins w) = ps.flatMap (fun p => (indexEntry s i p).filter (begins w)) ++
      if s.relationships = [] then [] else (relationshipListing s.relationships).filter (begins w) := by
  -- only the lines of the entries and of the listing begin with one of the words
  have hlisting : (if s.relationships.isEmpty then [] else relationshipListing s.relationships).filter (begins w) =
      if s.relationships = [] then [] else (relationshipListing s.relationships).filter (begins w) := by
    by_cases hnil : s.relationships = [] <;> simp [hnil]
  simp only [indexLines, List.filter_append, List.filter_flatMap, hlisting]
  generalize (relationshipListing s.relationships).filter _ = listing
  simp only [entryWords, List.mem_cons, List.not_mem_nil, or_false] at hw
  rcases hw with rfl | rfl | rfl | rfl | rfl <;> simp [fact, footer, begins, toString_text]

lemma filter_indexLines_of_mem {w : String} (hw : w ∈ entryWords) :
    (indexLines s i total ps).filter (begins w) = ps.flatMap fun p => (indexEntry s i p).filter (begins w) := by
  have hoff : ∀ w ∈ entryWords, OffRows w := by decide
  rw [filter_indexLines s i total ps (.inr hw), (hoff w hw).filter_listing, ite_self, List.append_nil]

lemma filter_indexLines_counted : (indexLines s i total ps).filter (begins "- **Relationships:**") =
    ps.map fun p => s!"- **Relationships:** {(s.drawableWithin p.names).length} internal relationships" := by
  simp only [filter_indexLines_of_mem s i total ps (w := "- **Relationships:**") (by decide),
    filter_indexEntry_counted]
  rw [List.map_eq_flatMap]

lemma filter_indexLines_listed : (indexLines s i total ps).filter (begins "|") =
    (if s.relationships = [] then [] else
      ["| Source table | Column(s) | Target table | Column(s) |",
        "|--------------|-----------|--------------|-----------|"]) ++
      s.relationships.map relationshipRow := by
  have hentries : ps.flatMap (fun p => (indexEntry s i p).filter (begins "|")) = [] :=
    List.flatMap_eq_nil_iff.mpr fun p _ => filter_indexEntry_listed s i p
  rw [filter_indexLines s i total ps (.inl rfl), hentries, List.nil_append, filter_listing_listed]
  split
  · next hnil => rw [hnil]; rfl
  · rfl

variable {s ps} {size : ℤ}

lemma nodup_places (h : (ps.flatMap (·.names)).Nodup) :
    (ps.flatMap fun p => s.places p.names).Nodup := by
  have heach : ∀ p ∈ ps, (s.places p.names).Nodup := fun p _ =>
    (Schema.places_pairwise p.names).imp ne_of_lt
  have hapart : ps.Pairwise fun p q => List.Disjoint (s.places p.names) (s.places q.names) := by
    apply (List.nodup_flatMap.mp h).2.imp
    -- the source of a key drawn twice would have two partitions
    intro p q hpq j hp hq
    exact hpq (Schema.mem_places.mp hp).1 (Schema.mem_places.mp hq).1
  exact List.nodup_flatMap.mpr ⟨heach, hapart⟩

lemma sum_length_places (h : (ps.flatMap fun p => s.places p.names).Nodup) :
    (ps.map fun p => (s.places p.names).length).sum =
      (List.finRange s.relationships.length).countP fun j => ∃ p ∈ ps, s.Joins p.names j := by
  rw [← List.length_flatMap, List.countP_eq_length_filter]
  apply List.Perm.length_eq
  apply (List.perm_ext_iff_of_nodup h ((List.nodup_finRange _).filter _)).mpr
  intro j
  simp

theorem distribution_partitions (hn : s.names.Nodup) (h₀ : 0 < size)
    (h : partitionCount s.size size = ⌈(s.size : ℚ) / size⌉) :
    Distribution s i size (partitions s.tables size) := by
  have htables : (partitions s.tables size).flatMap (·.tables) = s.tables := tables_partitions h₀ h
  have hnames : (partitions s.tables size).flatMap (·.names) = s.names := by
    calc (partitions s.tables size).flatMap (·.names)
        = ((partitions s.tables size).flatMap (·.tables)).map (·.name) := List.map_flatMap.symm
      _ = s.names := congrArg _ htables
  have hdrawn : ∀ p ∈ partitions s.tables size,
      s.drawableWithin p.names = (s.places p.names).map fun j => s.relationships[j] :=
    fun p hp => Schema.drawableWithin_eq (List.map_subset _ (tables_subset hp))
  have hapart : ((partitions s.tables size).flatMap fun p => s.places p.names).Nodup :=
    nodup_places (hnames ▸ hn)
  exact {
    names_flatMap := hnames
    names_ne_nil := fun p hp => by simpa [Partition.names] using tables_ne_nil h₀ h hp
    length_names := fun p hp => by simpa [Partition.names] using length_tables h₀ h hp
    rendered := fun p hp => Mermaid.renderSome_names hn (tables_subset hp)
    embedded := fun p _ => exists_diagram s i _ p
    blocks := by
      simp only [Mermaid.diagramOf, Mermaid.diagram, Mermaid.blocks_drawing]
      rw [← List.flatMap_assoc, htables]
    arrows := by
      intro p hp
      rw [Mermaid.diagramOf, Mermaid.arrows_drawing]
      exact (congrArg _ (hdrawn p hp)).trans (List.map_map ..)
    places_iff := fun p _ j => Schema.mem_places
    places_in_order := fun p _ => Schema.places_pairwise p.names
    places_nodup := hapart
    counted := by
      rw [filter_indexLines_counted]
      apply List.map_congr_left
      intro p hp
      rw [hdrawn p hp, List.length_map]
    sum_counted := sum_length_places hapart
    listed := filter_indexLines_listed s i _ _ }

theorem documents_distribute (ds : List Declaration) (i : Imprint) (l : Limits)
    (hmany : l.threshold < (Schema.ofDeclarations ds).size) (hsize : 1 ≤ l.size)
    (hcount : partitionCount (Schema.ofDeclarations ds).size l.size =
      ⌈((Schema.ofDeclarations ds).size : ℚ) / l.size⌉) :
    let s := Schema.ofDeclarations ds
    let ps := partitions s.tables l.size
    documents s i l = .ok (ps.map (partitionDocument s i ps.length) ++
        [⟨indexFilename i.baseName, unlines (indexLines s i ps.length ps)⟩]) ∧
      Distribution s i l.size ps := by
  intro s ps
  have h₀ : 0 < l.size := hsize
  have hlength : (ps.length : ℤ) = partitionCount s.size l.size := length_partitions h₀ hcount
  refine ⟨?_, distribution_partitions i (Schema.nodup_names_ofDeclarations ds) h₀ hcount⟩
  rw [documents, if_neg (not_le.mpr hmany), if_neg h₀.ne', hlength]
  rfl

def tangled : List Declaration :=
  [.table ⟨"A", [⟨"id", "NUMBER", true, false⟩], [], [⟨"A", ["b"], "B", ["id"]⟩, ⟨"A", ["c"], "C", ["id"]⟩]⟩,
    .table ⟨"B", [⟨"id", "NUMBER", true, false⟩], [], []⟩,
    .table ⟨"C", [⟨"id", "NUMBER", true, false⟩], [], [⟨"C", ["parent"], "C", ["id"]⟩]⟩,
    .foreignKey ⟨"A", ["b"], "B", ["id"]⟩, .foreignKey ⟨"B", ["x"], "X", ["id"]⟩]

theorem documents_distribute_tangled :
    let s := Schema.ofDeclarations tangled
    let i : Imprint := ⟨"shop", "shop.sql", ⟨2024, 5, 1, 9, 30, 0⟩⟩
    let ps := partitions s.tables 2
    ps.map (·.names) = [["A", "B"], ["C"]] ∧
      ps.map (fun p => (s.places p.names).map (·.val)) = [[0, 3], [2]] ∧
      documents s i ⟨2, 2⟩ = .ok (ps.map (partitionDocument s i ps.length) ++
        [⟨indexFilename i.baseName, unlines (indexLines s i ps.length ps)⟩]) ∧
      Distribution s i 2 ps := by
  have hcount : partitionCount (Schema.ofDeclarations tangled).size 2 =
      ⌈((Schema.ofDeclarations tangled).size : ℚ) / (2 : ℤ)⌉ :=
    partitionCount_eq_ceil (by decide) (by decide +kernel)
  exact ⟨by decide +kernel, by decide +kernel,
    documents_distribute tangled _ ⟨2, 2⟩ (by decide) (by decide) hcount⟩

end Report

end SchemaAtlas
