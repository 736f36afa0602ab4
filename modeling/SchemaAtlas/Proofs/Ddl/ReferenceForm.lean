import SchemaAtlas.Ddl.Reference
import SchemaAtlas.Proofs.Ddl.Heading

/-! The clause of a foreign key in all its forms. It is read the same way whatever follows, and none
of these clauses holds another one before its last character. -/

namespace SchemaAtlas.Ddl.Reference

open SchemaAtlas.Text Statement

structure Form where
  foreign : List Char
  key : List Char
  gap₁ : List Char
  columns : List Char
  gap₂ : List Char
  references : List Char
  target : List Char
  gap₃ : List Char
  targetColumns : List Char
  foreign_spaced : Spaced "FOREIGN".toList foreign
  key_spelled : key.map caseless = "KEY".toList
  gap₁_blanks : Blanks gap₁
  columns_form : columns ≠ [] ∧ ')' ∉ columns
  gap₂_blanks : Blanks gap₂
  references_spaced : Spaced "REFERENCES".toList references
  target_form : Token target
  gap₃_blanks : Blanks gap₃
  targetColumns_form : targetColumns ≠ [] ∧ ')' ∉ targetColumns

namespace Form

def body (f : Form) : List Char :=
  f.foreign ++ (f.key ++ (f.gap₁ ++ '(' :: (f.columns ++ ')' :: (f.gap₂ ++ (f.references ++
    (f.target ++ (f.gap₃ ++ '(' :: f.targetColumns)))))))

def text (f : Form) : List Char := f.body ++ [')']

def reference (f : Form) : Reference :=
  ⟨columnNames f.columns, Name.clean f.target, columnNames f.targetColumns⟩

lemma text_append (f : Form) (s : List Char) :
    f.text ++ s = f.foreign ++ (f.key ++ (f.gap₁ ++ '(' :: (f.columns ++ ')' :: (f.gap₂ ++
      (f.references ++ (f.target ++ (f.gap₃ ++ '(' :: (f.targetColumns ++ ')' :: s)))))))) := by
  simp [text, body]

end Form

theorem read_text (f : Form) (s : List Char) : read (f.text ++ s) = some (f.reference, s) := by
  rw [f.text_append]
  obtain ⟨foreign, key, gap₁, columns, gap₂, references, target, gap₃, targetColumns, hf, hk, hg₁, hc,
    hg₂, hr, ht, hg₃, hc'⟩ := f
  have hkey : key ≠ [] := by
    rintro rfl
    simp at hk
  have hbars : ∀ s, Bars isBlank (key ++ s) := fun s =>
    (solid_of_map_caseless (by decide) hk).bars hkey
  have hskip : ∀ {g : List Char} s, Blanks g → skipBlanks (g ++ '(' :: s) = '(' :: s := fun s hg =>
    skipBlanks_append hg ((bars_cons _ _ _).mpr (by decide))
  simp only [read, Option.bind_eq_bind, hf.read (hbars _), Option.bind_some, keyword_append hk,
    hskip _ hg₁, enclosed_append hc.1 hc.2, skipBlanks_append hg₂ (hr.bars (by decide) (by decide) _),
    hr.read (ht.bars _), ht.read hg₃, hskip _ hg₃, enclosed_append hc'.1 hc'.2]
  rfl

theorem exists_form {s r : List Char} {k : Reference} (h : read s = some (k, r)) :
    ∃ f : Form, f.reference = k ∧ s = f.text ++ r := by
  simp only [read, Option.bind_eq_bind, Option.bind_eq_some_iff, Prod.exists, enclosed_eq_some] at h
  obtain ⟨s₁, h₁, s₂, h₂, columns, s₃, ⟨hc, hc', h₃⟩, s₄, h₄, target, s₅, h₅, targetColumns, s₆,
    ⟨ht, ht', h₆⟩, h₇⟩ := h
  cases h₇
  obtain ⟨foreign, hf, _, rfl⟩ := keywordBlanks_eq_some.mp h₁
  obtain ⟨key, hk, rfl⟩ := keyword_eq_some.mp h₂
  obtain ⟨gap₁, hg₁, hs₂⟩ := exists_blanks s₂
  obtain ⟨references, hr, _, hs₄⟩ := keywordBlanks_eq_some.mp h₄
  obtain ⟨gap₂, hg₂, hs₃⟩ := exists_blanks s₃
  obtain ⟨htarget, _, rfl⟩ := token1_eq_some.mp h₅
  obtain ⟨gap₃, hg₃, hs₅⟩ := exists_blanks s₅
  refine ⟨⟨foreign, key, gap₁, columns, gap₂, references, target, gap₃, targetColumns, hf, hk, hg₁,
    ⟨hc, hc'⟩, hg₂, hr, htarget, hg₃, ⟨ht, ht'⟩⟩, rfl, ?_⟩
  rw [Form.text_append, hs₂, h₃, hs₃, hs₄, hs₅, h₆]

lemma read_append {s r : List Char} {k : Reference} (h : read s = some (k, r)) (y : List Char) :
    read (s ++ y) = some (k, r ++ y) := by
  obtain ⟨f, rfl, rfl⟩ := exists_form h
  rw [List.append_assoc, read_text]

lemma read_eq_none_of_append {s y : List Char} (h : read (s ++ y) = none) : read s = none := by
  by_contra hne
  obtain ⟨⟨k, r⟩, hr⟩ := Option.ne_none_iff_exists'.mp hne
  rw [read_append hr y] at h
  exact Option.some_ne_none _ h

def pairs : Bool → List Char → Nat
  | _, [] => 0
  | opened, c :: s =>
    if c = '(' then pairs true s
    else if c = ')' then opened.toNat + pairs false s
    else pairs opened s

lemma pairs_open (o : Bool) (s : List Char) : pairs o ('(' :: s) = pairs true s := by simp [pairs]

lemma pairs_close (o : Bool) (s : List Char) : pairs o (')' :: s) = o.toNat + pairs false s := by
  simp [pairs]

lemma pairs_cons (o : Bool) {c : Char} (ho : c ≠ '(') (hc : c ≠ ')') (s : List Char) :
    pairs o (c :: s) = pairs o s := by
  simp [pairs, ho, hc]

lemma pairs_false_le (o : Bool) (s : List Char) : pairs false s ≤ pairs o s := by
  induction s generalizing o with
  | nil => simp [pairs]
  | cons c s ih =>
    by_cases ho : c = '('
    · subst ho
      simp [pairs_open]
    by_cases hc : c = ')'
    · subst hc
      simp [pairs_close]
    · simpa [pairs_cons _ ho hc] using ih o

lemma pairs_le_append (o : Bool) (x y : List Char) : pairs o x ≤ pairs o (x ++ y) := by
  induction x generalizing o with
  | nil => simp [pairs]
  | cons c x ih =>
    rw [List.cons_append]
    by_cases ho : c = '('
    · subst ho
      simpa [pairs_open] using ih true
    by_cases hc : c = ')'
    · subst hc
      simpa [pairs_close] using ih false
    · simpa [pairs_cons _ ho hc] using ih o

lemma pairs_false_le_append (o : Bool) (x y : List Char) : pairs false y ≤ pairs o (x ++ y) := by
  induction x generalizing o with
  | nil => exact pairs_false_le o y
  | cons c x ih =>
    rw [List.cons_append]
    by_cases ho : c = '('
    · subst ho
      simpa [pairs_open] using ih true
    by_cases hc : c = ')'
    · subst hc
      simpa [pairs_close] using (ih false).trans (Nat.le_add_left _ _)
    · simpa [pairs_cons _ ho hc] using ih o

lemma pairs_true_append {x : List Char} (hc : ')' ∉ x) (s : List Char) :
    pairs true (x ++ s) = pairs true s := by
  induction x with
  | nil => rfl
  | cons c x ih =>
    simp only [List.mem_cons, not_or] at hc
    rw [List.cons_append]
    by_cases ho : c = '('
    · rw [ho, pairs_open, ih hc.2]
    · rw [pairs_cons _ ho (Ne.symm hc.1), ih hc.2]

lemma pairs_false_append {x : List Char} (ho : '(' ∉ x) (s : List Char) :
    pairs false (x ++ s) = pairs false s := by
  induction x with
  | nil => rfl
  | cons c x ih =>
    simp only [List.mem_cons, not_or] at ho
    rw [List.cons_append]
    by_cases hc : c = ')'
    · rw [hc, pairs_close, ih ho.2]
      simp
    · rw [pairs_cons _ (Ne.symm ho.1) hc, ih ho.2]

namespace Form

lemma pairs_body_append (f : Form) (s : List Char) : pairs false (f.body ++ s) = 1 + pairs true s := by
  obtain ⟨foreign, key, gap₁, columns, gap₂, references, target, gap₃, targetColumns, hf, hk, hg₁, hc,
    hg₂, hr, ht, hg₃, hc'⟩ := f
  have hspaced {w u : List Char} (hu : Spaced w u) (ho : caseless '(' ∉ w) : '(' ∉ u :=
    hu.not_mem (by decide) ho
  have hkey : '(' ∉ key := by
    intro hm
    have hw : caseless '(' ∈ "KEY".toList := hk ▸ List.mem_map_of_mem hm
    exact absurd hw (by decide)
  have hblanks {b : List Char} (hb : Blanks b) : '(' ∉ b := hb.not_mem (by decide)
  simp only [body, List.append_assoc, List.cons_append]
  rw [pairs_false_append (hspaced hf (by decide)), pairs_false_append hkey,
    pairs_false_append (hblanks hg₁), pairs_open, pairs_true_append hc.2, pairs_close,
    pairs_false_append (hblanks hg₂), pairs_false_append (hspaced hr (by decide)),
    pairs_false_append ht.not_mem, pairs_false_append (hblanks hg₃), pairs_open,
    pairs_true_append hc'.2]
  rfl

theorem eq_nil_of_inside {f g : Form} {x z : List Char} (h : f.text = x ++ (g.text ++ z)) : z = [] := by
  by_contra hz
  obtain ⟨z', c, rfl⟩ := List.eq_nil_or_concat z |>.resolve_left hz
  have hbody : f.body = x ++ (g.text ++ z') := by
    have h : f.body ++ [')'] = (x ++ (g.text ++ z')) ++ [c] := by simpa [text] using h
    exact (List.append_inj' h rfl).1
  -- a clause has two pairs, and the second one is closed by its last character
  have hf : pairs false f.body = 1 := by simpa [pairs] using f.pairs_body_append []
  have hg : pairs false g.text = 2 := by simp [text, g.pairs_body_append, pairs]
  have hle : pairs false g.text ≤ pairs false f.body := by
    rw [hbody]
    exact (pairs_le_append false g.text z').trans (pairs_false_le_append false x _)
  omega

end Form

lemma passes_text_append {x : List Char} {f : Form} (h : Passes read x f.text) (s : List Char) :
    Passes read x (f.text ++ s) := by
  intro d hd hne
  have hnone := h d hd hne
  by_contra hsome
  obtain ⟨⟨k, r⟩, hr⟩ := Option.ne_none_iff_exists'.mp hsome
  obtain ⟨g, rfl, hg⟩ := exists_form hr
  rw [← List.append_assoc] at hg
  rcases List.append_eq_append_iff.mp hg with ⟨a, ha, rfl⟩ | ⟨a, ha, _⟩
  · cases a with
    | nil =>
      rw [List.append_nil] at ha
      rw [← ha, ← List.append_nil g.text, read_text] at hnone
      exact Option.some_ne_none _ hnone
    | cons c a =>
      rw [List.append_assoc] at ha
      exact absurd (Form.eq_nil_of_inside ha) (by simp)
  · rw [ha, read_text] at hnone
    exact Option.some_ne_none _ hnone

lemma beforeDelimiter_of_passes {x y : List Char} (hx : ';' ∉ x) (h : Passes read x y) :
    beforeDelimiter (x ++ y) = beforeDelimiter y := by
  induction x with
  | nil => rfl
  | cons c x ih =>
    simp only [List.mem_cons, not_or] at hx
    obtain ⟨hc, h⟩ := passes_cons.mp h
    rw [List.cons_append, beforeDelimiter, hc, if_neg (Ne.symm hx.1)]
    exact ih hx.2 h

lemma beforeDelimiter_text (f : Form) (s : List Char) :
    beforeDelimiter (f.text ++ s) = some (f.reference, s) := by
  have hread := read_text f s
  cases ht : f.text ++ s with
  | nil => simp [ht, read, keywordBlanks, keyword] at hread
  | cons c t =>
    rw [ht] at hread
    rw [beforeDelimiter, hread]
    rfl

lemma exists_of_beforeDelimiter {s r : List Char} {k : Reference}
    (h : beforeDelimiter s = some (k, r)) :
    ∃ (x : List Char) (f : Form), ';' ∉ x ∧ Passes read x f.text ∧ f.reference = k ∧
      s = x ++ (f.text ++ r) := by
  induction s with
  | nil => simp [beforeDelimiter] at h
  | cons c s ih =>
    rw [beforeDelimiter] at h
    cases hr : read (c :: s) with
    | some p =>
      rw [hr] at h
      cases h
      obtain ⟨f, hf, hs⟩ := exists_form hr
      exact ⟨[], f, by simp, passes_nil _ _, hf, hs⟩
    | none =>
      rw [hr] at h
      change (if c = ';' then none else beforeDelimiter s) = some (k, r) at h
      split at h
      · simp at h
      · next hc =>
        obtain ⟨x, f, hx, hp, hf, rfl⟩ := ih h
        refine ⟨c :: x, f, by simp [hx, Ne.symm hc], passes_cons.mpr ⟨?_, hp⟩, hf, rfl⟩
        apply read_eq_none_of_append (y := r)
        simpa using hr

end SchemaAtlas.Ddl.Reference
