import SchemaAtlas.Proofs.Ddl.Truncation

/-! Statements among other text. Each is found behind whatever does not spell `CREATE`, and behind a
delimiter a dump can be cut without changing what is read from its two sides. -/

namespace SchemaAtlas

open SchemaAtlas.Text

namespace Text

def Quiet (w x : List Char) : Prop := ¬w <:+: x.map caseless

instance (w x : List Char) : Decidable (Quiet w x) :=
  inferInstanceAs (Decidable (¬w <:+: x.map caseless))

lemma Quiet.passes {w x y : List Char} (hx : Quiet w x)
    (hy : Bars (fun c => caseless c ∈ w.tail) y) : Passes (keyword w) x y := by
  intro d hd hne
  by_contra hsome
  obtain ⟨r, hr⟩ := Option.ne_none_iff_exists'.mp hsome
  obtain ⟨k, rfl, he⟩ := keyword_eq_some.mp hr
  rcases List.append_eq_append_iff.mp he with ⟨a, rfl, rfl⟩ | ⟨a, rfl, -⟩
  · cases a with
    | nil => exact hx (by simpa using (hd.map caseless).isInfix)
    | cons c a =>
      -- a letter behind the first one of the word would have to stand behind the text
      obtain ⟨e, d, rfl⟩ := List.exists_cons_of_ne_nil hne
      simp at hy
  · apply hx
    exact ((List.prefix_append k a).map caseless).isInfix.trans (hd.map caseless).isInfix

lemma exists_of_not_mem_left {x y u v : List Char} {c : Char} (h : x ++ y = u ++ c :: v)
    (hx : c ∉ x) : ∃ b, u = x ++ b ∧ y = b ++ c :: v := by
  rcases List.append_eq_append_iff.mp h with ⟨b, hu, hy⟩ | ⟨b, rfl, hb⟩
  · exact ⟨b, hu, hy⟩
  · cases b with
    | nil => exact ⟨[], by simp, hb.symm⟩
    | cons d b =>
      obtain ⟨rfl, -⟩ := List.cons.inj hb
      exact absurd (by simp) hx

lemma exists_of_not_mem_right {x y u v : List Char} {c : Char} (h : x ++ y = u ++ c :: v)
    (hy : c ∉ y) : ∃ b, v = b ++ y ∧ x = u ++ c :: b := by
  rcases List.append_eq_append_iff.mp h with ⟨b, rfl, rfl⟩ | ⟨b, rfl, hb⟩
  · exact absurd (by simp) hy
  · cases b with
    | nil => exact absurd (by rw [List.nil_append] at hb; simp [← hb]) hy
    | cons d b =>
      obtain ⟨rfl, rfl⟩ := List.cons.inj hb
      exact ⟨b, rfl, rfl⟩

end Text

namespace Statement

structure Framed where
  noise : List Char
  heading : Heading
  body : List Char
  tail : List Char
  noise_quiet : Quiet "CREATE".toList noise
  body_closes : Closes 0 body
  delimiter_not_mem : ';' ∉ body ∧ ';' ∉ tail

def Framed.text (f : Framed) : List Char :=
  f.noise ++ (f.heading.text ++ (f.body ++ ')' :: (f.tail ++ [';'])))

def Framed.statement (f : Framed) : Statement := ⟨f.heading.token, f.body⟩

lemma head_eq_none_of_keyword {s : List Char} (h : keyword "CREATE".toList s = none) :
    head s = none :=
  head_eq_none_of_phrase (phrase_eq_none_of_keyword h)

lemma passes_noise {x y : List Char} (hx : Quiet "CREATE".toList x)
    (hy : Bars (fun c => caseless c ∈ "REATE".toList) y) : Passes head x y :=
  (hx.passes hy).mono fun _ => head_eq_none_of_keyword

lemma Heading.bars_letters (g : Heading) (s : List Char) :
    Bars (fun c => caseless c ∈ "REATE".toList) (g.text ++ s) := by
  obtain ⟨k, b, hk, -, hcreate⟩ := g.create_spaced
  cases k with
  | nil => exact absurd hk (by decide)
  | cons c k =>
    have hc : caseless c = 'C' := (List.cons.inj hk).1
    simp [Heading.text, hcreate, hc]

lemma Framed.scan_text (f : Framed) (s : List Char) : scan (f.text ++ s) = f.statement :: scan s := by
  have hpass := passes_noise f.noise_quiet (f.heading.bars_letters (f.body ++ ')' :: (f.tail ++ ';' :: s)))
  have htext : f.text ++ s =
      f.noise ++ (f.heading.text ++ (f.body ++ ')' :: (f.tail ++ ';' :: s))) := by simp [Framed.text]
  rw [htext, scan_of_passes hpass, scan_heading f.heading f.body_closes f.delimiter_not_mem]
  rfl

lemma scan_noise {x : List Char} (h : Quiet "CREATE".toList x) : scan x = [] := by
  have hpass : Passes head x [] := passes_noise h (bars_nil _)
  rw [← List.append_nil x, scan_of_passes hpass, scan]

theorem scan_amid_noise (fs : List Framed) {noise : List Char} (h : Quiet "CREATE".toList noise) :
    scan (fs.flatMap Framed.text ++ noise) = fs.map Framed.statement := by
  induction fs with
  | nil => exact scan_noise h
  | cons f fs ih => rw [List.flatMap_cons, List.append_assoc, f.scan_text, ih, List.map_cons]

namespace Framed

def conditional : Framed where
  noise := ";) CREAT".toList
  heading := {
    create := "cReAtE\n".toList
    table := "TABLE ".toList
    condition := "if not\texists ".toList
    token := "IF".toList
    gap := ['\t']
    create_spaced := ⟨"cReAtE".toList, ['\n'], by decide, by decide, rfl⟩
    table_spaced := ⟨"TABLE".toList, [' '], by decide, by decide, rfl⟩
    condition_form := .inr ⟨"if ".toList, "not\t".toList, "exists ".toList,
      ⟨"if".toList, [' '], by decide, by decide, rfl⟩, ⟨"not".toList, ['\t'], by decide, by decide, rfl⟩,
      ⟨"exists".toList, [' '], by decide, by decide, rfl⟩, by decide⟩
    token_form := by unfold Token; decide
    gap_blanks := by decide }
  body := "A NUMBER(3), CREATE TABLE B (X)".toList
  tail := " ) CREATE TABLE C (Y".toList
  noise_quiet := by decide
  body_closes := (beforeMatching_eq_some.mp (by decide : beforeMatching 0
    "A NUMBER(3), CREATE TABLE B (X))".toList = some "A NUMBER(3), CREATE TABLE B (X)".toList)).2
  delimiter_not_mem := by decide

def unconditional : Framed where
  noise := "' (".toList
  heading := {
    create := "CREATE ".toList
    table := "table ".toList
    condition := []
    token := "CREATE;".toList
    gap := []
    create_spaced := ⟨"CREATE".toList, [' '], by decide, by decide, rfl⟩
    table_spaced := ⟨"table".toList, [' '], by decide, by decide, rfl⟩
    condition_form := .inl rfl
    token_form := by unfold Token; decide
    gap_blanks := blanks_nil }
  body := []
  tail := []
  noise_quiet := by decide
  body_closes := closes_nil.mpr rfl
  delimiter_not_mem := by decide

end Framed

def lookalikes : List Char :=
  (";) CREATcReAtE\nTABLE if not\texists IF\t(A NUMBER(3), CREATE TABLE B (X)) ) CREATE TABLE C (Y;" ++
    "' (CREATE table CREATE;();;CREAT").toList

theorem scan_lookalikes : Quiet "CREATE".toList ";CREAT".toList ∧
    scan lookalikes = [⟨"IF".toList, "A NUMBER(3), CREATE TABLE B (X)".toList⟩, ⟨"CREATE;".toList, []⟩] := by
  have hnoise : Quiet "CREATE".toList ";CREAT".toList := by decide
  have htext : lookalikes = [Framed.conditional, Framed.unconditional].flatMap Framed.text ++
      ";CREAT".toList := by decide +kernel
  refine ⟨hnoise, ?_⟩
  rw [htext, scan_amid_noise _ hnoise]
  rfl

/-- Empty, or with a delimiter at the end. -/
def Ended (s : List Char) : Prop := ∀ c ∈ s.getLast?, c = ';'

/-- Empty, or with a blank at the front and no opening parenthesis behind the blanks. -/
def Fresh (t : List Char) : Prop := Bars (!isBlank ·) t ∧ Bars (· == '(') (skipBlanks t)

instance (s : List Char) : Decidable (Ended s) := Option.decidableForallMem s.getLast?

instance (t : List Char) : Decidable (Fresh t) :=
  inferInstanceAs (Decidable (Bars (!isBlank ·) t ∧ Bars (· == '(') (skipBlanks t)))

lemma Ended.of_suffix {s d : List Char} (h : Ended s) (hd : d <:+ s) : Ended d := by
  obtain ⟨x, rfl⟩ := hd
  intro c hc
  apply h
  rw [List.getLast?_append, Option.mem_def.mp hc]
  rfl

lemma Ended.mem {s : List Char} (h : Ended s) (hne : s ≠ []) : ';' ∈ s := by
  rw [← h _ (List.getLast?_eq_some_getLast hne)]
  exact List.getLast_mem hne

lemma Heading.exists_of_delimiter {g : Heading} {u v : List Char} (h : g.text = u ++ ';' :: v) :
    ∃ b, Solid b ∧ v = b ++ (g.gap ++ ['(']) := by
  have hlead : ';' ∉ g.lead := g.not_mem_lead (by decide) (by decide)
  have hgap : ';' ∉ g.gap ++ ['('] := by simpa using g.gap_blanks.not_mem (by decide)
  rw [g.text_lead] at h
  obtain ⟨a, -, ha⟩ := exists_of_not_mem_left h hlead
  obtain ⟨b, rfl, hb⟩ := exists_of_not_mem_right ha hgap
  exact ⟨b, fun c hc => g.token_form.solid c (by simp [hb, hc]), rfl⟩

lemma Heading.ne_nil_of_ended {g : Heading} {a : List Char} (h : Ended (g.text ++ a)) : a ≠ [] := by
  rintro rfl
  obtain ⟨u, -, hu⟩ := g.exists_eq_concat
  rw [List.append_nil, hu] at h
  exact absurd (h '(' (by simp)) (by decide)

lemma exists_of_heading_seam {g : Heading} {s t r : List Char} (hs : Ended s) (hne : s ≠ [])
    (ht : Fresh t) (h : s ++ t = g.text ++ r) : ∃ a, a ≠ [] ∧ s = g.text ++ a := by
  -- a heading over the seam has the delimiter in its name and the parenthesis behind the blanks
  obtain ⟨u, rfl⟩ : ∃ u, s = u ++ [';'] := by
    have hlast := hs _ (List.getLast?_eq_some_getLast hne)
    exact ⟨s.dropLast, by rw [← hlast, List.dropLast_append_getLast hne]⟩
  rcases List.append_eq_append_iff.mp h with ⟨a, ha, rfl⟩ | ⟨a, ha, -⟩
  · obtain ⟨b, hb, rfl⟩ := g.exists_of_delimiter (by simpa using ha)
    obtain ⟨hblank, hparen⟩ := ht
    cases b with
    | nil =>
      have hskip : skipBlanks (g.gap ++ ['('] ++ r) = '(' :: r := by
        simpa using skipBlanks_append g.gap_blanks ((bars_cons _ '(' r).mpr (by decide))
      rw [List.nil_append, hskip] at hparen
      simp at hparen
    | cons c b => simp [hb c List.mem_cons_self] at hblank
  · exact ⟨a, Heading.ne_nil_of_ended (ha ▸ hs), ha⟩

lemma head_seam {s t : List Char} (hs : Ended s) (hne : s ≠ []) (ht : Fresh t) (h : head s = none) :
    head (s ++ t) = none := by
  by_contra hsome
  obtain ⟨⟨token, r⟩, hr⟩ := Option.ne_none_iff_exists'.mp hsome
  obtain ⟨g, _, hg⟩ := exists_heading hr
  obtain ⟨a, -, rfl⟩ := exists_of_heading_seam hs hne ht hg
  rw [head_text] at h
  exact Option.some_ne_none _ h

lemma suffix_of_head {s token inside : List Char} (h : head s = some (token, inside)) :
    inside <:+ s := by
  obtain ⟨g, -, rfl⟩ := exists_heading h
  exact List.suffix_append g.text inside

lemma suffix_of_delimited {s token inside text rest : List Char} (h : head s = some (token, inside))
    (hu : untilDelimiter inside = some (text, rest)) : rest <:+ s := by
  obtain ⟨-, rfl⟩ := untilDelimiter_eq_some.mp hu
  have hrest : rest <:+ text ++ ';' :: rest :=
    (List.suffix_cons ';' rest).trans (List.suffix_append text (';' :: rest))
  exact hrest.trans (suffix_of_head h)

lemma exists_untilDelimiter {s : List Char} (h : ';' ∈ s) : ∃ t r, untilDelimiter s = some (t, r) := by
  obtain ⟨t, r, hs, ht⟩ := List.eq_append_cons_of_mem h
  exact ⟨t, r, untilDelimiter_eq_some.mpr ⟨ht, hs⟩⟩

theorem scan_seam {s t : List Char} (hs : Ended s) (ht : Fresh t) :
    scan (s ++ t) = scan s ++ scan t := by
  fun_induction scan s with
  | case1 => rfl
  | case2 c s h ih =>
    have hseam := head_seam hs (List.cons_ne_nil c s) ht h
    rw [List.cons_append] at hseam ⊢
    rw [scan_of_none hseam, ih (hs.of_suffix (List.suffix_cons c s))]
  | case3 c s token inside h hu =>
    -- a text that ends with a delimiter is never cut short
    obtain ⟨g, -, hg⟩ := exists_heading h
    have hne : inside ≠ [] := Heading.ne_nil_of_ended (hg ▸ hs)
    obtain ⟨text, rest, hsome⟩ := exists_untilDelimiter ((hs.of_suffix (suffix_of_head h)).mem hne)
    rw [hu] at hsome
    cases hsome
  | case4 c s token inside h text rest hu _ body hb ih =>
    rw [scan_of_delimited (head_append h t) (untilDelimiter_append_right hu t), hb,
      ih (hs.of_suffix (suffix_of_delimited h hu))]
    rfl
  | case5 c s token inside h text rest hu _ hb ih =>
    rw [scan_of_delimited (head_append h t) (untilDelimiter_append_right hu t), hb,
      ih (hs.of_suffix (suffix_of_delimited h hu))]
    rfl

def beforeSeam : List Char := "CREATE TABLE A (X); CREATE TABLE B (Y; CREATE TABLE C;".toList

def behindSeam : List Char := "\nCREATE TABLE D (Z);".toList

theorem scan_seam_unclosed : Ended beforeSeam ∧ Fresh behindSeam ∧
    scan (beforeSeam ++ behindSeam) = [⟨['A'], ['X']⟩, ⟨['D'], ['Z']⟩] := by
  have hended : Ended beforeSeam := by decide
  have hfresh : Fresh behindSeam := by decide
  have hbefore : scan beforeSeam = [⟨['A'], ['X']⟩] := by decide +kernel
  have hbehind : scan behindSeam = [⟨['D'], ['Z']⟩] := by decide +kernel
  refine ⟨hended, hfresh, ?_⟩
  rw [scan_seam hended hfresh, hbefore, hbehind]
  rfl

end Statement

end SchemaAtlas
