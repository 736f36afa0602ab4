import SchemaAtlas.Ddl.Statement
import SchemaAtlas.Proofs.Text.Passing

/-! The beginning of a table statement, from `CREATE` to the opening parenthesis, in all its forms. It
is read the same way whatever follows. -/

namespace SchemaAtlas.Statement

open SchemaAtlas.Text

def Token (t : List Char) : Prop := t ≠ [] ∧ Avoids (fun c => isBlank c || c == '(') t

def Condition (o : List Char) : Prop :=
  ∃ a b c, Spaced "IF".toList a ∧ Spaced "NOT".toList b ∧ Spaced "EXISTS".toList c ∧ o = a ++ (b ++ c)

structure Heading where
  create : List Char
  table : List Char
  condition : List Char
  token : List Char
  gap : List Char
  create_spaced : Spaced "CREATE".toList create
  table_spaced : Spaced "TABLE".toList table
  condition_form : condition = [] ∨ Condition condition
  token_form : Token token
  gap_blanks : Blanks gap

def Heading.text (g : Heading) : List Char :=
  g.create ++ (g.table ++ (g.condition ++ (g.token ++ (g.gap ++ ['(']))))

lemma Token.solid {t : List Char} (h : Token t) : Solid t := by
  intro c hc
  exact (Bool.or_eq_false_iff.mp (h.2 c hc)).1

lemma Token.not_mem {t : List Char} (h : Token t) : '(' ∉ t := by
  intro hc
  simpa using h.2 '(' hc

lemma Token.bars {t : List Char} (h : Token t) (s : List Char) : Bars isBlank (t ++ s) :=
  h.solid.bars h.1

lemma token1_eq_some {s t r : List Char} :
    token1 s = some (t, r) ↔ Token t ∧ Bars (fun c => !(isBlank c || c == '(')) r ∧ s = t ++ r := by
  rw [token1, run1_eq_some, Token, and_assoc]

lemma Token.read {t g : List Char} (h : Token t) (hg : Blanks g) (s : List Char) :
    token1 (t ++ (g ++ '(' :: s)) = some (t, g ++ '(' :: s) := by
  refine token1_eq_some.mpr ⟨h, ?_, rfl⟩
  cases g with
  | nil => simp
  | cons c g => simp [hg c List.mem_cons_self]

lemma ifNotExists_eq_some {s r : List Char} :
    ifNotExists s = some r ↔ ∃ o, Condition o ∧ Bars isBlank r ∧ s = o ++ r := by
  simp only [ifNotExists, Option.bind_eq_bind, Option.bind_eq_some_iff]
  constructor
  · rintro ⟨s₂, ⟨s₁, h₁, h₂⟩, h₃⟩
    obtain ⟨a, ha, _, rfl⟩ := keywordBlanks_eq_some.mp h₁
    obtain ⟨b, hb, _, rfl⟩ := keywordBlanks_eq_some.mp h₂
    obtain ⟨c, hc, hr, rfl⟩ := keywordBlanks_eq_some.mp h₃
    exact ⟨a ++ (b ++ c), ⟨a, b, c, ha, hb, hc, rfl⟩, hr, by simp⟩
  · rintro ⟨o, ⟨a, b, c, ha, hb, hc, rfl⟩, hr, rfl⟩
    have hc' := hc.bars (by decide) (by decide) r
    have hb' := hb.bars (by decide) (by decide) (c ++ r)
    exact ⟨c ++ r, ⟨b ++ (c ++ r), by simpa using ha.read hb', hb.read hc'⟩, hc.read hr⟩

lemma ifNotExists_token {t g : List Char} (ht : Token t) (hg : Blanks g) (s : List Char) :
    ifNotExists (t ++ (g ++ '(' :: s)) = none := by
  -- a name in front of the opening parenthesis is never taken for a condition
  have hstep :
      keywordBlanks "IF".toList (t ++ (g ++ '(' :: s)) >>= keywordBlanks "NOT".toList = none := by
    by_cases hne : g = []
    · subst hne
      rw [List.nil_append, keywordBlanks_stop ht.solid (by decide) (by decide)]
      rfl
    · cases h : keywordBlanks "IF".toList (t ++ (g ++ '(' :: s)) with
      | none => rfl
      | some r =>
        have hp : Bars isBlank ('(' :: s) := (bars_cons _ _ _).mpr (by decide)
        obtain ⟨-, rfl⟩ := keywordBlanks_word (by decide) ht.solid ⟨hne, hg⟩ hp h
        have hw : caseless '(' ∉ "NOT".toList := by decide
        simpa using keywordBlanks_stop (x := []) (s := s) (by decide) (by decide) hw
  rw [ifNotExists, hstep]
  rfl

theorem head_text (g : Heading) (s : List Char) : head (g.text ++ s) = some (g.token, s) := by
  obtain ⟨create, table, condition, token, gap, hc, ht, ho, hk, hg⟩ := g
  have hbars : Bars isBlank (condition ++ (token ++ (gap ++ '(' :: s))) := by
    rcases ho with rfl | ⟨a, b, c, ha, _, _, rfl⟩
    · exact hk.bars _
    · simpa using ha.bars (by decide) (by decide) _
  have hcond : (ifNotExists (condition ++ (token ++ (gap ++ '(' :: s)))).getD
      (condition ++ (token ++ (gap ++ '(' :: s))) = token ++ (gap ++ '(' :: s) := by
    rcases ho with rfl | ho
    · rw [List.nil_append, ifNotExists_token hk hg]
      rfl
    · rw [ifNotExists_eq_some.mpr ⟨condition, ho, hk.bars _, rfl⟩]
      rfl
  have hskip : skipBlanks (gap ++ '(' :: s) = '(' :: s :=
    skipBlanks_append hg ((bars_cons _ _ _).mpr (by decide))
  simp only [Heading.text, List.append_assoc, List.singleton_append, head,
    hc.read (ht.bars (by decide) (by decide) _), Option.bind_eq_bind, Option.bind_some,
    ht.read hbars, hcond, hk.read hg, hskip, char_eq_some.mpr rfl]
  rfl

theorem exists_heading {s token r : List Char} (h : head s = some (token, r)) :
    ∃ g : Heading, g.token = token ∧ s = g.text ++ r := by
  simp only [head, Option.bind_eq_bind, Option.bind_eq_some_iff, Prod.exists, char_eq_some] at h
  obtain ⟨s₁, h₁, s₂, h₂, t, s₃, h₃, s₄, h₄, h₅⟩ := h
  cases h₅
  obtain ⟨create, hc, _, rfl⟩ := keywordBlanks_eq_some.mp h₁
  obtain ⟨table, ht, _, rfl⟩ := keywordBlanks_eq_some.mp h₂
  obtain ⟨hk, _, h₃⟩ := token1_eq_some.mp h₃
  obtain ⟨gap, hg, hs₃⟩ := exists_blanks s₃
  rw [h₄] at hs₃
  subst hs₃
  have hcond : ∃ o, (o = [] ∨ Condition o) ∧ s₂ = o ++ (ifNotExists s₂).getD s₂ := by
    cases ho : ifNotExists s₂ with
    | none => exact ⟨[], .inl rfl, rfl⟩
    | some r' =>
      obtain ⟨o, hf, _, he⟩ := ifNotExists_eq_some.mp ho
      exact ⟨o, .inr hf, he⟩
  obtain ⟨o, ho, hs₂⟩ := hcond
  rw [h₃] at hs₂
  refine ⟨⟨create, table, o, token, gap, hc, ht, ho, hk, hg⟩, rfl, ?_⟩
  rw [hs₂]
  simp [Heading.text]

lemma head_eq_none_of_phrase {s : List Char}
    (h : phrase "CREATE".toList "TABLE".toList s = none) : head s = none := by
  by_contra hne
  obtain ⟨⟨token, r⟩, hr⟩ := Option.ne_none_iff_exists'.mp hne
  obtain ⟨g, _, rfl⟩ := exists_heading hr
  obtain ⟨create, table, condition, token, gap, hc, ⟨k, b, hk, hb, rfl⟩, ho, hk', hg⟩ := g
  simp only [Heading.text, List.append_assoc, phrase] at h
  have hbars : Bars isBlank (k ++ (b ++ (condition ++ (token ++ (gap ++ (['('] ++ r)))))) := by
    simpa using Spaced.bars ⟨k, b, hk, hb, rfl⟩ (by decide) (by decide) _
  rw [hc.read hbars, Option.bind_eq_bind, Option.bind_some, keyword_append hk] at h
  exact Option.some_ne_none _ h

lemma passes_head {x y : List Char} (h : Passes (phrase "CREATE".toList "TABLE".toList) x y) :
    Passes head x y :=
  h.mono fun _ => head_eq_none_of_phrase

lemma passes_head_blanks {b : List Char} (h : Blanks b) (s : List Char) : Passes head b s :=
  passes_head (passes_blanks (by decide) (by decide) h)

def Heading.lead (g : Heading) : List Char := g.create ++ (g.table ++ g.condition)

lemma Heading.text_lead (g : Heading) : g.text = g.lead ++ (g.token ++ (g.gap ++ ['('])) := by
  simp [Heading.text, Heading.lead]

lemma Heading.not_mem_lead (g : Heading) {c : Char} (hb : isBlank c = false)
    (hw : ∀ w ∈ ["CREATE".toList, "TABLE".toList, "IF".toList, "NOT".toList, "EXISTS".toList],
      caseless c ∉ w) : c ∉ g.lead := by
  have hspaced {w u : List Char} (hu : Spaced w u) (hw : caseless c ∉ w) : c ∉ u := hu.not_mem hb hw
  have hcond : c ∉ g.condition := by
    rcases g.condition_form with h | ⟨a, b, d, ha, hb, hd, h⟩
    · simp [h]
    · rw [h]
      simp [hspaced ha (hw _ (by simp)), hspaced hb (hw _ (by simp)), hspaced hd (hw _ (by simp))]
  simp [Heading.lead, hspaced g.create_spaced (hw _ (by simp)), hspaced g.table_spaced (hw _ (by simp)),
    hcond]

lemma Heading.exists_eq_concat (g : Heading) : ∃ u, '(' ∉ u ∧ g.text = u ++ ['('] := by
  have hlead : '(' ∉ g.lead := g.not_mem_lead (by decide) (by decide)
  have hgap : '(' ∉ g.gap := g.gap_blanks.not_mem (by decide)
  refine ⟨g.lead ++ (g.token ++ g.gap), ?_, by simp [g.text_lead]⟩
  simp [hlead, g.token_form.not_mem, hgap]

end SchemaAtlas.Statement
