import SchemaAtlas.Ddl.Split
import SchemaAtlas.Proofs.Ddl.Scan

/-! Where the scanned statements stand: the dump falls into the regions of its statements, one after
the other, and a remainder. Each region ends at the first delimiter behind its opening parenthesis. -/

namespace SchemaAtlas.Statement

open SchemaAtlas.Text SchemaAtlas.Ddl

structure Region where
  skipped : List Char
  token : List Char
  gap : List Char
  body : List Char
  rest : List Char

namespace Region

def text (g : Region) : List Char :=
  g.skipped ++ (g.token ++ (g.gap ++ '(' :: (g.body ++ ')' :: (g.rest ++ [';']))))

def statement (g : Region) : Statement := ⟨g.token, g.body⟩

structure Sound (g : Region) : Prop where
  token : Token g.token
  gap : Blanks g.gap
  first_delimiter : ';' ∉ g.body ∧ ';' ∉ g.rest
  nested : ∀ p, p <+: g.body → p.count ')' ≤ p.count '('
  closed : g.body.count '(' = g.body.count ')' ∨
    g.body.count ')' < g.body.count '(' ∧ ')' ∉ g.rest

end Region

lemma exists_bodyOf {text body : List Char} (h : bodyOf text = some body) :
    ∃ rest, text = body ++ ')' :: rest ∧ Nested 0 body ∧
      (body.count '(' = body.count ')' ∨ body.count ')' < body.count '(' ∧ ')' ∉ rest) := by
  cases hm : beforeMatching 0 text with
  | some t =>
    rw [bodyOf, hm] at h
    cases h
    obtain ⟨⟨rest, rfl⟩, hcount, hn⟩ := beforeMatching_eq_some.mp hm
    exact ⟨rest, rfl, hn, .inl (by omega)⟩
  | none =>
    rw [bodyOf, hm] at h
    obtain ⟨rest, hr, rfl⟩ := beforeLast_eq_some h
    have hn := nested_of_beforeMatching hm
    have hlast := hn (body ++ [')']) ⟨rest, by simp⟩
    refine ⟨rest, rfl, fun p hp => hn p (hp.trans (List.prefix_append _ _)), .inr ⟨?_, hr⟩⟩
    simp at hlast
    omega

lemma exists_region {s token inside text rest body : List Char} (h : head s = some (token, inside))
    (hu : untilDelimiter inside = some (text, rest)) (hb : bodyOf text = some body) :
    ∃ g : Region, g.statement = ⟨token, body⟩ ∧ g.Sound ∧ s = g.text ++ rest := by
  obtain ⟨g, rfl, rfl⟩ := exists_heading h
  obtain ⟨ht, rfl⟩ := untilDelimiter_eq_some.mp hu
  obtain ⟨r, rfl, hn, hc⟩ := exists_bodyOf hb
  refine ⟨⟨g.create ++ (g.table ++ g.condition), g.token, g.gap, body, r⟩, rfl, ?_, ?_⟩
  · refine ⟨g.token_form, g.gap_blanks, ?_, ?_, hc⟩
    · simpa using ht
    · intro p hp
      simpa using hn p hp
  · simp [Heading.text, Region.text]

def Region.skipping (x : List Char) (g : Region) : Region := { g with skipped := x ++ g.skipped }

lemma Region.text_skipping (x : List Char) (g : Region) : (g.skipping x).text = x ++ g.text := by
  simp [Region.text, Region.skipping]

lemma Region.Sound.skipping {g : Region} (h : g.Sound) (x : List Char) : (g.skipping x).Sound :=
  ⟨h.token, h.gap, h.first_delimiter, h.nested, h.closed⟩

def Falls (sql : List Char) (statements : List Statement) : Prop :=
  ∃ (regions : List Region) (tail : List Char), sql = regions.flatMap Region.text ++ tail ∧
    statements = regions.map Region.statement ∧ ∀ g ∈ regions, g.Sound

lemma Falls.skipping {sql : List Char} {statements : List Statement} (h : Falls sql statements)
    (x : List Char) : Falls (x ++ sql) statements := by
  obtain ⟨regions, tail, rfl, rfl, hs⟩ := h
  cases regions with
  | nil => exact ⟨[], x ++ tail, rfl, rfl, hs⟩
  | cons g gs =>
    refine ⟨g.skipping x :: gs, tail, ?_, rfl, ?_⟩
    · simp [Region.text_skipping]
    · rw [List.forall_mem_cons] at hs ⊢
      exact ⟨hs.1.skipping x, hs.2⟩

lemma falls_scan (sql : List Char) : Falls sql (scan sql) := by
  fun_induction scan sql with
  | case1 => exact ⟨[], [], rfl, rfl, by simp⟩
  | case2 c s _ ih => exact ih.skipping [c]
  | case3 c s => exact ⟨[], c :: s, rfl, rfl, by simp⟩
  | case4 c s token inside h text rest hu _ body hb ih =>
    obtain ⟨g, hg, hsound, hs⟩ := exists_region h hu hb
    obtain ⟨regions, tail, rfl, hmap, hall⟩ := ih
    refine ⟨g :: regions, tail, by simpa using hs, by simp [hg, hmap], ?_⟩
    exact List.forall_mem_cons.mpr ⟨hsound, hall⟩
  | case5 c s token inside h text rest hu _ _ ih =>
    obtain ⟨g, _, hs⟩ := exists_heading h
    obtain ⟨_, rfl⟩ := untilDelimiter_eq_some.mp hu
    rw [hs]
    simpa using ih.skipping (g.text ++ (text ++ [';']))

lemma foldl_depthAfter (s : List Char) (d : Int) :
    s.foldl depthAfter d = d + s.count '(' - s.count ')' := by
  induction s generalizing d with
  | nil => simp
  | cons c s ih =>
    rw [List.foldl_cons, ih, depthAfter]
    by_cases ho : c = '('
    · subst ho
      simp
      omega
    by_cases hc : c = ')'
    · subst hc
      simp
      omega
    · simp [ho, hc]

lemma length_le_count_delimiter (regions : List Region) :
    regions.length ≤ (regions.flatMap Region.text).count ';' := by
  induction regions with
  | nil => simp
  | cons g gs ih =>
    have hg : 1 ≤ g.text.count ';' := List.one_le_count_iff.mpr (by simp [Region.text])
    rw [List.flatMap_cons, List.count_append, List.length_cons]
    omega

/-- The statements of a dump stand in regions of it that follow one another, at most one for each
delimiter, and the depth of parentheses never goes below zero in the body of a statement. -/
theorem scan_falls_into_regions (sql : List Char) :
    (∃ (regions : List Region) (tail : List Char), sql = regions.flatMap Region.text ++ tail ∧
      scan sql = regions.map Region.statement ∧ ∀ g ∈ regions, g.Sound) ∧
    (scan sql).length ≤ sql.count ';' ∧
    ∀ statement ∈ scan sql, ∀ p, p <+: statement.body → 0 ≤ p.foldl depthAfter 0 := by
  obtain ⟨regions, tail, hsql, hscan, hsound⟩ := falls_scan sql
  refine ⟨⟨regions, tail, hsql, hscan, hsound⟩, ?_, ?_⟩
  · have hcount := length_le_count_delimiter regions
    rw [hscan, List.length_map, hsql, List.count_append]
    omega
  · rw [hscan]
    intro statement hm p hp
    obtain ⟨g, hg, rfl⟩ := List.mem_map.mp hm
    have hnested := (hsound g hg).nested p hp
    rw [foldl_depthAfter]
    omega

end SchemaAtlas.Statement
