import SchemaAtlas.Proofs.Ddl.Region
import SchemaAtlas.Proofs.Ddl.SectionText

/-! The extracted table statements hold everything that the scan for tables sees in a dump, if a blank
stands behind each delimiter and no parenthesis opens behind the blanks. -/

namespace SchemaAtlas

open SchemaAtlas.Text

/-- Each delimiter is the last character, or has a blank behind it and no opening parenthesis behind
the blanks. -/
def Seamed (sql : List Char) : Prop := ∀ v, ';' :: v <:+ sql → Statement.Fresh v

lemma seamed_iff {sql : List Char} :
    Seamed sql ↔ ∀ t ∈ sql.tails, t.head? = some ';' → Statement.Fresh t.tail := by
  simp only [List.mem_tails]
  constructor
  · intro h t ht hhead
    obtain ⟨v, rfl⟩ := List.head?_eq_some_iff.mp hhead
    exact h v ht
  · intro h v hv
    exact h (';' :: v) hv rfl

instance (sql : List Char) : Decidable (Seamed sql) :=
  have : Decidable (∀ t ∈ sql.tails, t.head? = some ';' → Statement.Fresh t.tail) :=
    List.decidableBAll _ sql.tails
  decidable_of_iff _ seamed_iff.symm

lemma Seamed.fresh {w s : List Char} (h : Seamed (w ++ ';' :: s)) : Statement.Fresh s :=
  h s (List.suffix_append w (';' :: s))

lemma Seamed.of_append {w s : List Char} (h : Seamed (w ++ ';' :: s)) : Seamed s :=
  fun v hv => h v ((hv.trans (List.suffix_cons ';' s)).trans (List.suffix_append w (';' :: s)))

namespace Statement

lemma scan_of_not_mem {s : List Char} (h : ';' ∉ s) : scan s = [] := by
  obtain ⟨regions, tail, hs, hscan, -⟩ := falls_scan s
  cases regions with
  | nil => exact hscan
  | cons g gs => exact absurd (by simp [hs, Region.text]) h

lemma head_segment {w s : List Char} (h : head w = none) (hs : Fresh s) : head (w ++ ';' :: s) = none := by
  have hended : Ended (w ++ [';']) := by
    intro c hc
    simpa [eq_comm] using hc
  have hdelimited : head (w ++ [';']) = none := by
    by_contra hne
    obtain ⟨⟨token, r⟩, hr⟩ := Option.ne_none_iff_exists'.mp hne
    obtain ⟨g, -, hg⟩ := exists_heading hr
    have hrest : r ≠ [] := Heading.ne_nil_of_ended (hg ▸ hended)
    rcases List.append_eq_append_iff.mp hg with ⟨a, ha, hr⟩ | ⟨a, rfl, -⟩
    · cases a with
      | nil =>
        rw [List.append_nil] at ha
        rw [← ha, ← List.append_nil g.text, head_text] at h
        exact Option.some_ne_none _ h
      | cons d a => exact hrest (List.append_eq_nil_iff.mp (List.cons.inj hr).2.symm).2
    · rw [head_text] at h
      exact Option.some_ne_none _ h
  simpa using head_seam hended (by simp) hs hdelimited

lemma scan_segment {w s : List Char} (hw : ';' ∉ w) (hs : Fresh s) :
    scan (w ++ ';' :: s) = scan (w ++ [';']) ++ scan s := by
  have hempty : scan [] = [] := by rw [scan]
  induction w with
  | nil =>
    have hstep (y : List Char) : scan (';' :: y) = scan y := scan_of_none rfl
    simp only [List.nil_append, hstep, hempty]
  | cons c w ih =>
    cases hd : head (c :: w) with
    | none =>
      have hstep {y : List Char} (hy : Fresh y) : scan (c :: w ++ ';' :: y) = scan (w ++ ';' :: y) :=
        scan_of_none (head_segment hd hy)
      rw [hstep hs, hstep (y := []) (by decide), ih fun hm => hw (List.mem_cons_of_mem c hm)]
    | some p =>
      obtain ⟨token, inside⟩ := p
      -- the parenthesis opens in the segment, so that its delimiter is the first one behind
      have hinside : ';' ∉ inside := fun hm => hw ((suffix_of_head hd).subset hm)
      have hstep (y : List Char) : scan (c :: w ++ ';' :: y) =
          ((bodyOf inside).map (Statement.mk token)).toList ++ scan y :=
        scan_of_delimited (head_append hd _) (untilDelimiter_append hinside y)
      rw [hstep s, hstep [], hempty, List.append_nil]

theorem scan_seamed {sql : List Char} (h : Seamed sql) :
    scan sql = (segments sql).flatMap fun w => scan (w ++ [';']) := by
  induction sql using segments_induction with
  | tail s hs => rw [scan_of_not_mem hs, segments_of_not_mem hs, List.flatMap_nil]
  | segment w s hw ih => rw [scan_segment hw h.fresh, segments_append hw, List.flatMap_cons, ih h.of_append]

end Statement

namespace Extract

lemma head_eq_none_of_not_opens {s : List Char} (h : ¬Opening.table.Opens s) :
    Statement.head s = none := by
  apply Statement.head_eq_none_of_phrase
  have hstarts : startsTable s = false := by simpa using startsTable_iff.not.mpr h
  exact Option.not_isSome_iff_eq_none.mp (by simpa [startsTable, phrase] using hstarts)

lemma flatMap_scan_excerpt {w : List Char} (hw : ';' ∉ w) :
    (Opening.table.excerpt w).toList.flatMap Statement.scan = Statement.scan (w ++ [';']) := by
  -- no table statement begins in front of the excerpt
  induction w with
  | nil =>
    rw [Opening.excerpt, leftmost_nil (Opening.opens_not_nil _)]
    exact (Statement.scan_eq_nil (by decide)).symm
  | cons c w ih =>
    by_cases hc : Opening.table.Opens (c :: w)
    · rw [Opening.excerpt, leftmost_of_pos hc]
      exact List.flatMap_singleton _ _
    · have hnone : Statement.head (c :: w ++ [';']) = none :=
        head_eq_none_of_not_opens ((Opening.opens_delimited hw []).not.mpr hc)
      rw [Opening.excerpt, leftmost_cons_of_neg hc, ← Opening.excerpt,
        ih fun hm => hw (List.mem_cons_of_mem c hm)]
      exact (Statement.scan_of_none hnone).symm

lemma closed_scan {o : Opening} {sql t : List Char} (h : t ∈ o.excerpts sql) :
    Closed Statement.scan t := by
  obtain ⟨d, hd, hopens, rfl⟩ := o.exists_of_mem_excerpts h
  refine ⟨by simp, hopens.begins.append hopens.ne_nil _, fun y hy => ?_⟩
  simpa using Statement.scan_segment hd hy

lemma sections_filter_createTable (sql : List Char) :
    (sections sql).filter (·.label = "CREATE TABLE") = [Kind.createTable].map fun k => k.section sql := by
  simp [sections, Kind.all, Kind.label, Kind.section]

/-- The section of the table statements, written out and read again, gives the statements of the dump,
though its own title holds the first words of a statement. -/
theorem scan_tableSection {sql : List Char} (h : Seamed sql) :
    Statement.scan (text ((sections sql).filter (·.label = "CREATE TABLE"))).toList =
      Statement.scan sql := by
  have hclosed : ∀ k ∈ [Kind.createTable], ∀ t ∈ ofKind sql k, Closed Statement.scan t := by
    rw [List.forall_mem_singleton, ofKind_createTable]
    exact fun t ht => closed_scan ht
  rw [sections_filter_createTable, skims_scan.text_kinds skipsTitles_scan hclosed, List.flatMap_singleton,
    ofKind_createTable, Statement.scan_seamed h]
  calc (Opening.table.excerpts sql).flatMap Statement.scan
      = (segments sql).flatMap fun w => (Opening.table.excerpt w).toList.flatMap Statement.scan := by
        rw [Opening.excerpts, List.filterMap_eq_flatMap_toList, List.flatMap_assoc]
    _ = (segments sql).flatMap fun w => Statement.scan (w ++ [';']) :=
        List.flatMap_congr fun w hw => flatMap_scan_excerpt (not_mem_of_mem_segments hw)

def hiddenTables : List Char :=
  "-- CREATE TABLE (1 statements)\n\ncreate\ttable A (X), (;\n".toList ++
    "CREATE TABLE B (Y; CREATE TABLE C;\r".toList ++ "CREATE TABLE D\n(Z) t; CREATE TABLE E (W)".toList

theorem scan_tableSection_hiddenTables : Seamed hiddenTables ∧
    Statement.scan (text ((sections hiddenTables).filter (·.label = "CREATE TABLE"))).toList =
      [⟨['A'], ['X']⟩, ⟨['D'], ['Z']⟩] := by
  have hseamed : Seamed hiddenTables := by decide +kernel
  have hscan : Statement.scan hiddenTables = [⟨['A'], ['X']⟩, ⟨['D'], ['Z']⟩] := by
    decide +kernel
  exact ⟨hseamed, (scan_tableSection hseamed).trans hscan⟩

end Extract

end SchemaAtlas
