import SchemaAtlas.Proofs.Ddl.Openings
import SchemaAtlas.Proofs.Text.Segments

/-! Extraction goes by segments: of each segment in which a statement of the wanted kind begins, what
stands from the leftmost such place on is copied out. -/

namespace SchemaAtlas.Extract

open SchemaAtlas.Text

namespace Opening

variable (o : Opening)

def excerpt (w : List Char) : Option (List Char) := (leftmost o.Opens w).map (· ++ [';'])

def excerpts (sql : List Char) : List (List Char) := (segments sql).filterMap o.excerpt

lemma excerpts_append {w : List Char} (hw : ';' ∉ w) (s : List Char) :
    o.excerpts (w ++ ';' :: s) = (o.excerpt w).toList ++ o.excerpts s := by
  rw [excerpts, segments_append hw, excerpts]
  cases h : o.excerpt w <;> simp [h]

lemma excerpts_delimited_append (a b : List Char) :
    o.excerpts ((a ++ [';']) ++ b) = o.excerpts (a ++ [';']) ++ o.excerpts b := by
  rw [excerpts, segments_delimited_append, List.filterMap_append, excerpts, excerpts]

lemma exists_of_mem_excerpts {sql t : List Char} (h : t ∈ o.excerpts sql) :
    ∃ d, ';' ∉ d ∧ o.Opens d ∧ t = d ++ [';'] := by
  obtain ⟨w, hw, hexcerpt⟩ := List.mem_filterMap.mp h
  obtain ⟨d, hd, rfl⟩ := Option.map_eq_some_iff.mp hexcerpt
  obtain ⟨hopens, hsuffix⟩ := leftmost_eq_some hd
  exact ⟨d, fun hm => not_mem_of_mem_segments hw (hsuffix.subset hm), hopens, rfl⟩

end Opening

section Statements

variable {starts : List Char → Bool} {o : Opening} {w s : List Char}

lemma readStatement_of_starts (h : starts (w ++ ';' :: s) = true) (hw : ';' ∉ w) :
    readStatement starts (w ++ ';' :: s) = some (w ++ [';'], s) := by
  rw [readStatement, if_pos h, Statement.untilDelimiter_append hw]
  rfl

lemma statements_cons_of_not_starts {c : Char} (h : ¬starts (c :: s) = true) :
    statements starts (c :: s) = statements starts s := by
  have hread : readStatement starts (c :: s) = none := by rw [readStatement, if_neg h]
  exact Pattern.all_cons_of_none hread

lemma statements_append (ho : ∀ {s}, starts s = true ↔ o.Opens s) (hw : ';' ∉ w) (s : List Char) :
    statements starts (w ++ ';' :: s) = (o.excerpt w).toList ++ statements starts s := by
  induction w with
  | nil =>
    have hstart : ¬starts ([] ++ ';' :: s) = true := by
      rw [ho, Opening.opens_delimited hw]
      exact o.opens_not_nil
    rw [List.nil_append] at hstart ⊢
    rw [statements_cons_of_not_starts hstart, Opening.excerpt, leftmost_nil o.opens_not_nil]
    rfl
  | cons c w ih =>
    have hw' : ';' ∉ w := fun h => hw (List.mem_cons_of_mem c h)
    by_cases hc : o.Opens (c :: w)
    · have hstart : starts (c :: w ++ ';' :: s) = true := ho.mpr ((Opening.opens_delimited hw s).mpr hc)
      have hread := readStatement_of_starts hstart hw
      rw [Opening.excerpt, leftmost_of_pos hc]
      exact Pattern.all_of_read hread
    · have hstart : ¬starts (c :: w ++ ';' :: s) = true := by
        rw [ho, Opening.opens_delimited hw]
        exact hc
      rw [List.cons_append] at hstart ⊢
      rw [statements_cons_of_not_starts hstart, ih hw', Opening.excerpt, Opening.excerpt,
        leftmost_cons_of_neg hc]

lemma statements_of_opens (ho : ∀ {s}, starts s = true ↔ o.Opens s) (hw : ';' ∉ w) (h : o.Opens w)
    (s : List Char) : statements starts ((w ++ [';']) ++ s) = (w ++ [';']) :: statements starts s := by
  rw [List.append_assoc, List.singleton_append, statements_append ho hw, Opening.excerpt, leftmost_of_pos h]
  rfl

lemma statements_of_passes (ho : ∀ {s}, starts s = true ↔ o.Opens s) {x y : List Char}
    (h : ∀ v ∈ o.last :: o.between, Passes (phrase o.first v) x y) :
    statements starts (x ++ y) = statements starts y := by
  apply Pattern.all_of_passes
  intro d hd hne
  have hstart : ¬starts (d ++ y) = true := by
    rw [ho]
    intro hopens
    obtain ⟨v, hv, hphrase⟩ := hopens.exists_phrase
    exact hphrase (h v hv d hd hne)
  change readStatement starts (d ++ y) = none
  rw [readStatement, if_neg hstart]

lemma statements_of_not_mem (hs : ';' ∉ s) : statements starts s = [] := by
  induction s with
  | nil => exact Pattern.all_nil _
  | cons c s ih =>
    have hread : readStatement starts (c :: s) = none := by
      rw [readStatement]
      split
      · have hnone : Statement.untilDelimiter (c :: s) = none := by
          by_contra hne
          obtain ⟨⟨t, r⟩, hr⟩ := Option.ne_none_iff_exists'.mp hne
          obtain ⟨-, h⟩ := Statement.untilDelimiter_eq_some.mp hr
          exact hs (by simp [h])
        rw [hnone]
        rfl
      · rfl
    have hstep : statements starts (c :: s) = statements starts s := Pattern.all_cons_of_none hread
    rw [hstep]
    exact ih fun h => hs (List.mem_cons_of_mem c h)

theorem statements_eq_excerpts (ho : ∀ {s}, starts s = true ↔ o.Opens s) (sql : List Char) :
    statements starts sql = o.excerpts sql := by
  induction sql using segments_induction with
  | tail s hs => rw [statements_of_not_mem hs, Opening.excerpts, segments_of_not_mem hs]; rfl
  | segment w s hw ih => rw [statements_append ho hw, o.excerpts_append hw, ih]

end Statements

variable (sql : List Char)

lemma ofKind_createTable : ofKind sql .createTable = Opening.table.excerpts sql :=
  statements_eq_excerpts startsTable_iff sql

lemma ofKind_alterTable : ofKind sql .alterTable =
    (Opening.alter.excerpts sql).filter fun t => ¬AddsConstraint t := by
  rw [ofKind, statements_eq_excerpts startsAlter_iff]
  exact List.filter_congr fun t _ => by simp [← addsConstraint_iff]

lemma ofKind_constraint : ofKind sql .constraint =
    (Opening.alter.excerpts sql).filter fun t => AddsConstraint t := by
  rw [ofKind, statements_eq_excerpts startsAlter_iff]
  exact List.filter_congr fun t _ => by simp [← addsConstraint_iff]

lemma ofKind_index : ofKind sql .index = Opening.index.excerpts sql :=
  statements_eq_excerpts startsIndex_iff sql

lemma ofKind_delimited_append (a b : List Char) (k : Kind) :
    ofKind ((a ++ [';']) ++ b) k = ofKind (a ++ [';']) k ++ ofKind b k := by
  cases k with
  | createTable => simp only [ofKind_createTable, Opening.excerpts_delimited_append]
  | alterTable => simp only [ofKind_alterTable, Opening.excerpts_delimited_append, List.filter_append]
  | constraint => simp only [ofKind_constraint, Opening.excerpts_delimited_append, List.filter_append]
  | index => simp only [ofKind_index, Opening.excerpts_delimited_append]

/-- What is extracted from a dump is what is extracted from each of its segments by itself. -/
theorem sections_eq_excerpts (sql : List Char) :
    sections sql = [
      ⟨"CREATE TABLE", (Opening.table.excerpts sql).map String.ofList⟩,
      ⟨"ALTER TABLE",
        ((Opening.alter.excerpts sql).filter fun t => ¬AddsConstraint t).map String.ofList⟩,
      ⟨"CONSTRAINT",
        ((Opening.alter.excerpts sql).filter fun t => AddsConstraint t).map String.ofList⟩,
      ⟨"INDEX", (Opening.index.excerpts sql).map String.ofList⟩] ∧
    ∀ a b kind, ofKind ((a ++ [';']) ++ b) kind = ofKind (a ++ [';']) kind ++ ofKind b kind := by
  refine ⟨?_, ofKind_delimited_append⟩
  rw [← ofKind_createTable, ← ofKind_alterTable, ← ofKind_constraint, ← ofKind_index]
  rfl

end SchemaAtlas.Extract
