import SchemaAtlas.Proofs.Diagram.Recovery
import SchemaAtlas.Proofs.Report.Pages

/-! The diagrams of the pages together draw each table of a schema once, if the limits suit the schema.
Otherwise there are no partitions, and the index draws nothing. -/

namespace SchemaAtlas.Report

open SchemaAtlas.Text

def diagramLines (lines : List String) : List String :=
  ((lines.dropWhile (· != "```mermaid")).drop 1).takeWhile (· != "```")

def Page.drawn (p : Page) : List (String × List Column) :=
  (Mermaid.recover (unlines (diagramLines p.lines))).tables

def Unfenced (lines : List String) : Prop := ∀ line ∈ lines, ¬ begins "`" line

section Unfenced

variable {before after : List String}

lemma diagramLines_append (h : Unfenced before) : diagramLines (before ++ after) = diagramLines after := by
  have hdrop : ∀ line ∈ before, (line != "```mermaid") = true := by
    intro line hline
    rw [bne_iff_ne]
    rintro rfl
    exact h _ hline (by decide)
  rw [diagramLines, List.dropWhile_append_of_pos hdrop, diagramLines]

lemma diagramLines_fenced (d : Mermaid.Diagram) : diagramLines (fenced d ++ after) = Mermaid.lines d := by
  have hline : ∀ l : Mermaid.Line, (l.text != "```") = true := by
    intro l
    have hbegins : ¬ begins "`" l.text := by cases l <;> simp [Mermaid.Line.text, begins]
    rw [bne_iff_ne]
    intro h
    exact hbegins (h ▸ by decide)
  have htake : ∀ line ∈ Mermaid.lines d, (line != "```") = true := List.forall_mem_map.mpr fun l _ => hline l
  have hfences : fenced d ++ after = "```mermaid" :: (Mermaid.lines d ++ "```" :: "" :: after) := by
    simp [fenced]
  rw [diagramLines, hfences, List.dropWhile_cons_of_neg (by simp), List.drop_one, List.tail_cons,
    List.takeWhile_append_of_pos htake, List.takeWhile_cons_of_neg (by simp), List.append_nil]

lemma Unfenced.diagramLines_eq_nil (h : Unfenced before) : diagramLines before = [] := by
  rw [← List.append_nil before, diagramLines_append h]
  rfl

end Unfenced

variable {s : Schema} (i : Imprint) (total : ℤ)

lemma unfenced_navigation (number : ℕ) : Unfenced (navigation i.baseName total number) := by
  unfold Unfenced navigation
  split <;> split <;> simp [begins, toString_text]

lemma unfenced_indexLines (ps : List Partition) : Unfenced (indexLines s i total ps) := by
  have hlisting : Unfenced (if s.relationships.isEmpty then [] else relationshipListing s.relationships) := by
    split
    · exact fun line hline => absurd hline List.not_mem_nil
    · have hoff : OffRows "`" := by decide
      exact List.filter_eq_nil_iff.mp (hoff.filter_listing _)
  have hentry (p : Partition) : Unfenced (indexEntry s i p) := by
    simp [Unfenced, indexEntry, begins, toString_text]
  have hentries : Unfenced (ps.flatMap (indexEntry s i)) := by
    intro line hline
    obtain ⟨p, -, hp⟩ := List.mem_flatMap.mp hline
    exact hentry p line hp
  unfold Unfenced at hlisting hentries ⊢
  unfold indexLines
  simp only [List.forall_mem_append]
  refine ⟨⟨⟨⟨?_, hentries⟩, ?_⟩, hlisting⟩, ?_⟩
  · simp [fact, begins, toString_text]
  · decide
  · decide

def schemaPage (s : Schema) (i : Imprint) : Page := ⟨i.baseName ++ ".md", schemaLines s i⟩

def pages (s : Schema) (i : Imprint) (l : Limits) : List Page :=
  if (s.size : ℤ) ≤ l.threshold then [schemaPage s i]
  else
    let total := partitionCount s.size l.size
    (partitions s.tables l.size).map (partitionPage s i total) ++
      [indexPage s i total (partitions s.tables l.size)]

variable {l : Limits}

lemma eq_pages_of_documents {ds : List Document} (h : documents s i l = .ok ds) :
    ds = (pages s i l).map Page.document := by
  unfold documents at h
  unfold pages
  split at h
  · next hone =>
    cases h
    rw [if_pos hone]
    rfl
  · next hmany =>
    split at h
    · cases h
    · cases h
      rw [if_neg hmany, partitionedDocuments, List.map_append, List.map_map]
      rfl

lemma drawn_indexPage (ps : List Partition) : (indexPage s i total ps).drawn = [] := by
  rw [Page.drawn, indexPage, (unfenced_indexLines i total ps).diagramLines_eq_nil]
  decide

section Drawn

variable (hs : s.WellFormed)

include hs

lemma drawn_schemaPage : (schemaPage s i).drawn = s.tables.map fun t => (t.name, t.columns) := by
  have hdiagram : diagramLines (schemaLines s i) = Mermaid.lines (Mermaid.diagram s) := by
    unfold schemaLines
    simp only [List.append_assoc]
    rw [diagramLines_append, diagramLines_fenced]
    simp [Unfenced, fact, begins, toString_text]
  rw [Page.drawn, schemaPage, hdiagram]
  exact congrArg Outline.tables (Mermaid.recover_render hs)

lemma drawn_partitionPage {p : Partition} (hp : p.tables ⊆ s.tables) :
    (partitionPage s i total p).drawn = p.tables.map fun t => (t.name, t.columns) := by
  have hdiagram : diagramLines (partitionLines s i total p) = Mermaid.lines (Mermaid.diagramOf s p.tables) := by
    unfold partitionLines
    simp only [List.append_assoc]
    rw [diagramLines_append, diagramLines_append (unfenced_navigation i total p.number),
      diagramLines_append, diagramLines_fenced]
    · simp [Unfenced, begins]
    · simp [Unfenced, fact, begins, toString_text]
  have hks : ∀ k ∈ s.drawableWithin p.names, k.Sound := fun k hk =>
    hs.relationships_sound k (Schema.mem_drawable.mp (Schema.mem_drawableWithin.mp hk).1).1
  rw [Page.drawn, partitionPage, hdiagram]
  exact congrArg Outline.tables (Mermaid.recover_drawing (fun t ht => hs.tables_sound t (hp ht)) hks)

end Drawn

/-- A single document is allowed, or partitions have a size that leaves some. -/
def Limits.Suits (l : Limits) (total : ℕ) : Prop :=
  total ≤ l.threshold ∨ 0 < l.size ∧ l.size < (total * Nat.pow 2 1075 : ℕ)

lemma partitions_eq_nil {tables : List Table} {size : ℤ}
    (h : ¬ (0 < size ∧ size < (tables.length * Nat.pow 2 1075 : ℕ))) : partitions tables size = [] := by
  have hcount : partitionCount tables.length size ≤ 0 := by
    unfold partitionCount
    split
    · exact le_rfl
    · next hmany =>
      have hnonpos : size ≤ 0 := by omega
      -- a quotient of two numbers that are not positive is not negative
      have hquotient := Int.fdiv_nonneg_of_nonpos_of_nonpos (by omega : -(tables.length : ℤ) ≤ 0) hnonpos
      omega
  rw [partitions, Int.toNat_of_nonpos hcount]
  rfl

lemma flatMap_drawn (hs : s.WellFormed) (h : l.Suits s.size) :
    (pages s i l).flatMap Page.drawn = s.tables.map fun t => (t.name, t.columns) := by
  unfold pages
  split
  · rw [List.flatMap_singleton, drawn_schemaPage i hs]
  · next hmany =>
    obtain ⟨h₀, hsize⟩ := h.resolve_left hmany
    have htables : (partitions s.tables l.size).flatMap (·.tables) = s.tables :=
      tables_partitions h₀ (partitionCount_eq_ceil h₀ hsize)
    have hdrawn : ∀ p ∈ partitions s.tables l.size,
        (partitionPage s i (partitionCount s.size l.size) p).drawn =
          p.tables.map fun t => (t.name, t.columns) := by
      intro p hp
      apply drawn_partitionPage i _ hs
      intro t ht
      exact htables ▸ List.mem_flatMap.mpr ⟨p, hp, ht⟩
    rw [List.flatMap_append, List.flatMap_singleton, drawn_indexPage, List.append_nil, List.flatMap_map,
      List.flatMap_congr hdrawn, ← List.map_flatMap, htables]

lemma drawn_eq_nil (h : ¬ l.Suits s.size) : ∀ p ∈ pages s i l, p.drawn = [] := by
  obtain ⟨hmany, hsize⟩ := not_or.mp h
  intro p hp
  simp only [pages, if_neg hmany, partitions_eq_nil hsize, List.map_nil, List.nil_append] at hp
  rw [List.mem_singleton.mp hp, drawn_indexPage]

lemma countP_mem_eq_one {α β : Type} [BEq β] [LawfulBEq β] {f : α → List β} {as : List α} {b : β}
    (h : (as.flatMap f).Nodup) (hb : b ∈ as.flatMap f) : as.countP (fun a => b ∈ f a) = 1 := by
  induction as with
  | nil => exact absurd hb List.not_mem_nil
  | cons a as ih =>
    rw [List.flatMap_cons] at h hb
    obtain ⟨-, has, hapart⟩ := List.nodup_append'.mp h
    by_cases ha : b ∈ f a
    · have hrest : as.countP (fun a => b ∈ f a) = 0 := by
        apply List.countP_eq_zero.mpr
        intro c hc hbc
        exact hapart ha (List.mem_flatMap.mpr ⟨c, hc, of_decide_eq_true hbc⟩)
      rw [List.countP_cons_of_pos (by simpa using ha), hrest]
    · rw [List.countP_cons_of_neg (by simpa using ha), ih has ((List.mem_append.mp hb).resolve_left ha)]

lemma countP_drawn_eq_zero (h : ¬ l.Suits s.size) (t : Table) :
    (pages s i l).countP (fun p => (t.name, t.columns) ∈ p.drawn) = 0 := by
  apply List.countP_eq_zero.mpr
  intro p hp
  simp [drawn_eq_nil i h p hp]

theorem countP_drawn_iff (hs : s.WellFormed) (hne : s.tables ≠ []) :
    (∀ t ∈ s.tables, (pages s i l).countP (fun p => (t.name, t.columns) ∈ p.drawn) = 1) ↔ l.Suits s.size := by
  constructor
  · intro h
    by_contra hunsuited
    obtain ⟨t, ht⟩ := List.exists_mem_of_ne_nil _ hne
    exact absurd ((countP_drawn_eq_zero i hunsuited t).symm.trans (h t ht)) Nat.zero_ne_one
  · intro h t ht
    have hnodup : (s.tables.map fun t => (t.name, t.columns)).Nodup := by
      apply List.Nodup.of_map Prod.fst
      rw [List.map_map]
      exact hs.names_nodup
    have hmem : (t.name, t.columns) ∈ s.tables.map fun t => (t.name, t.columns) := List.mem_map.mpr ⟨t, ht, rfl⟩
    rw [← flatMap_drawn i hs h] at hnodup hmem
    exact countP_mem_eq_one hnodup hmem

end SchemaAtlas.Report
