import Mathlib.Data.List.TakeWhile
import Mathlib.Tactic.Common
import SchemaAtlas.Text.Reader

/-! What each reader takes from the front of a text: the text falls into a piece of a given form and
the rest, and conversely every such text is read that way. -/

namespace SchemaAtlas.Text

def Bars (p : Char → Bool) (s : List Char) : Prop := ∀ c ∈ s.head?, p c = false

def Avoids (p : Char → Bool) (x : List Char) : Prop := ∀ c ∈ x, p c = false

def Blanks (b : List Char) : Prop := ∀ c ∈ b, isBlank c = true

def Solid (x : List Char) : Prop := Avoids isBlank x

def Gap (b : List Char) : Prop := b ≠ [] ∧ Blanks b

def Spaced (w u : List Char) : Prop := ∃ k b, k.map caseless = w ∧ Gap b ∧ u = k ++ b

instance (p : Char → Bool) (x : List Char) : Decidable (Avoids p x) := List.decidableBAll _ x

instance (x : List Char) : Decidable (Solid x) := inferInstanceAs (Decidable (Avoids isBlank x))

instance (b : List Char) : Decidable (Blanks b) := List.decidableBAll _ b

instance (b : List Char) : Decidable (Gap b) := inferInstanceAs (Decidable (b ≠ [] ∧ Blanks b))

instance (p : Char → Bool) (s : List Char) : Decidable (Bars p s) :=
  Option.decidableForallMem s.head?

@[simp] lemma avoids_nil (p : Char → Bool) : Avoids p [] := by simp [Avoids]

@[simp] lemma avoids_cons (p : Char → Bool) (c : Char) (x : List Char) :
    Avoids p (c :: x) ↔ p c = false ∧ Avoids p x := by simp [Avoids]

@[simp] lemma bars_nil (p : Char → Bool) : Bars p [] := by simp [Bars]

@[simp] lemma bars_cons (p : Char → Bool) (c : Char) (s : List Char) :
    Bars p (c :: s) ↔ p c = false := by simp [Bars]

lemma bars_append_iff {p : Char → Bool} {x s : List Char} (hx : x ≠ []) : Bars p (x ++ s) ↔ Bars p x := by
  cases x with
  | nil => exact absurd rfl hx
  | cons c x => rfl

lemma Bars.append {p : Char → Bool} {x : List Char} (h : Bars p x) (hx : x ≠ []) (s : List Char) :
    Bars p (x ++ s) :=
  (bars_append_iff hx).mpr h

lemma bars_append {p : Char → Bool} {x s : List Char} (hx : x ≠ []) (h : Avoids p x) :
    Bars p (x ++ s) :=
  Bars.append (fun c hc => h c (List.mem_of_mem_head? hc)) hx s

lemma bars_dropWhile (p : Char → Bool) (s : List Char) : Bars p (s.dropWhile p) := by
  intro c hc
  have h := List.head?_dropWhile_not p s
  rw [Option.mem_def.mp hc] at h
  simpa using h

lemma dropWhile_append_of_bars {p : Char → Bool} {x s : List Char} (hx : ∀ c ∈ x, p c = true)
    (hs : Bars p s) : (x ++ s).dropWhile p = s := by
  rw [List.dropWhile_append_of_pos hx]
  cases s with
  | nil => rfl
  | cons c s => simp [(bars_cons p c s).mp hs]

lemma takeWhile_append_of_bars {p : Char → Bool} {x s : List Char} (hx : ∀ c ∈ x, p c = true)
    (hs : Bars p s) : (x ++ s).takeWhile p = x := by
  rw [List.takeWhile_append_of_pos hx]
  cases s with
  | nil => simp
  | cons c s => simp [(bars_cons p c s).mp hs]

@[simp] lemma blanks_nil : Blanks [] := by simp [Blanks]

lemma Blanks.append {a b : List Char} (ha : Blanks a) (hb : Blanks b) : Blanks (a ++ b) := by
  intro c hc
  rcases List.mem_append.mp hc with h | h
  · exact ha c h
  · exact hb c h

lemma Blanks.not_mem {b : List Char} {c : Char} (h : Blanks b) (hc : isBlank c = false) : c ∉ b := by
  intro hm
  rw [h c hm] at hc
  exact Bool.false_ne_true hc.symm

lemma isBlank_of_between {c : Char} (h₁ : 33 ≤ c.toNat) (h₂ : c.toNat ≤ 126) : isBlank c = false := by
  simp only [isBlank, Bool.or_eq_false_iff, Bool.and_eq_false_iff, decide_eq_false_iff_not,
    beq_eq_false_iff_ne]
  omega

lemma Solid.bars {x s : List Char} (h : Solid x) (hx : x ≠ []) : Bars isBlank (x ++ s) :=
  bars_append hx h

lemma skipBlanks_append {b s : List Char} (hb : Blanks b) (hs : Bars isBlank s) :
    skipBlanks (b ++ s) = s :=
  dropWhile_append_of_bars hb hs

lemma skipBlanks_of_bars {s : List Char} (hs : Bars isBlank s) : skipBlanks s = s :=
  skipBlanks_append blanks_nil hs

lemma bars_skipBlanks (s : List Char) : Bars isBlank (skipBlanks s) := bars_dropWhile isBlank s

lemma exists_blanks (s : List Char) : ∃ b, Blanks b ∧ s = b ++ skipBlanks s :=
  ⟨s.takeWhile isBlank, fun _ hc => List.mem_takeWhile_imp hc, List.takeWhile_append_dropWhile.symm⟩

lemma blanks1_eq_some {s r : List Char} :
    blanks1 s = some r ↔ ∃ b, Gap b ∧ Bars isBlank r ∧ s = b ++ r := by
  cases s with
  | nil => simp [blanks1, Gap]
  | cons c s =>
    by_cases hc : isBlank c = true
    · simp only [blanks1, hc, if_true, Option.some.injEq]
      constructor
      · rintro rfl
        obtain ⟨b, hb, hs⟩ := exists_blanks s
        refine ⟨c :: b, ⟨by simp, ?_⟩, bars_skipBlanks s, by rw [List.cons_append, ← hs]⟩
        exact List.forall_mem_cons.mpr ⟨hc, hb⟩
      · rintro ⟨b, ⟨hb, hbl⟩, hr, hs⟩
        cases b with
        | nil => exact absurd rfl hb
        | cons d b =>
          obtain ⟨rfl, rfl⟩ := List.cons.inj hs
          exact skipBlanks_append (List.forall_mem_cons.mp hbl).2 hr
    · simp only [blanks1, hc, Bool.false_eq_true, if_false, reduceCtorEq, false_iff]
      rintro ⟨b, ⟨hb, hbl⟩, _, hs⟩
      cases b with
      | nil => exact hb rfl
      | cons d b =>
        obtain ⟨rfl, rfl⟩ := List.cons.inj hs
        exact hc (hbl c List.mem_cons_self)

lemma blanks1_append {b r : List Char} (hb : Gap b) (hr : Bars isBlank r) :
    blanks1 (b ++ r) = some r :=
  blanks1_eq_some.mpr ⟨b, hb, hr, rfl⟩

def Tight (x : List Char) : Prop := Bars isBlank x ∧ Bars isBlank x.reverse

instance (x : List Char) : Decidable (Tight x) :=
  inferInstanceAs (Decidable (Bars isBlank x ∧ Bars isBlank x.reverse))

lemma Solid.tight {x : List Char} (h : Solid x) : Tight x := by
  constructor
  · intro c hc
    exact h c (List.mem_of_mem_head? hc)
  · intro c hc
    exact h c (List.mem_reverse.mp (List.mem_of_mem_head? hc))

lemma trim_append {a x b : List Char} (ha : Blanks a) (hx : Tight x) (hne : x ≠ []) (hb : Blanks b) :
    trim (a ++ (x ++ b)) = x := by
  obtain ⟨hx₁, hx₂⟩ := hx
  have hbars : Bars isBlank (x ++ b) := by
    cases x with
    | nil => exact absurd rfl hne
    | cons c x => exact hx₁
  have hblanks : Blanks b.reverse := fun c hc => hb c (List.mem_reverse.mp hc)
  rw [trim, skipBlanks_append ha hbars, trimEnd, List.reverse_append]
  rw [dropWhile_append_of_bars hblanks hx₂, List.reverse_reverse]

lemma Tight.trim {x : List Char} (h : Tight x) : trim x = x := by
  by_cases hne : x = []
  · rw [hne, trim_nil]
  · simpa using trim_append blanks_nil h hne blanks_nil

lemma caseless_of_blank {c : Char} (h : isBlank c = true) : caseless c = c := by
  have hn : ¬(c = '\u0130' ∨ c = '\u0131') ∧ c ≠ '\u017f' ∧ c ≠ '\u212a' := by
    refine ⟨?_, ?_, ?_⟩
    · rintro (rfl | rfl) <;> exact absurd h (by decide)
    all_goals rintro rfl; exact absurd h (by decide)
  have hl : ¬(c.val ≥ 'a'.val ∧ c.val ≤ 'z'.val) := by
    rintro ⟨h₁, h₂⟩
    have h₁ : 97 ≤ c.toNat := h₁
    have h₂ : c.toNat ≤ 122 := h₂
    simp only [isBlank, Bool.or_eq_true, Bool.and_eq_true, decide_eq_true_eq, beq_iff_eq] at h
    omega
  rw [caseless, if_neg hn.1, if_neg hn.2.1, if_neg hn.2.2]
  exact dif_neg hl

lemma solid_of_map_caseless {k w : List Char} (hw : Solid w) (h : k.map caseless = w) : Solid k := by
  intro c hc
  by_contra hb
  have hb : isBlank c = true := by simpa using hb
  have hm : c ∈ w := by
    rw [← h, List.mem_map]
    exact ⟨c, hc, caseless_of_blank hb⟩
  rw [hw c hm] at hb
  exact Bool.false_ne_true hb

lemma keyword_eq_some {w s r : List Char} :
    keyword w s = some r ↔ ∃ k, k.map caseless = w ∧ s = k ++ r := by
  constructor
  · intro h
    fun_induction keyword w s with
    | case1 s => exact ⟨[], rfl, Option.some.inj h⟩
    | case2 => simp at h
    | case3 w c s ih =>
      obtain ⟨k, rfl, rfl⟩ := ih h
      exact ⟨c :: k, rfl, rfl⟩
    | case4 => simp at h
  · rintro ⟨k, rfl, rfl⟩
    induction k with
    | nil => rfl
    | cons c k ih => simpa [keyword_cons] using ih

lemma keyword_append {w k : List Char} (h : k.map caseless = w) (r : List Char) :
    keyword w (k ++ r) = some r :=
  keyword_eq_some.mpr ⟨k, h, rfl⟩

lemma keywordBlanks_eq_some {w s r : List Char} :
    keywordBlanks w s = some r ↔ ∃ u, Spaced w u ∧ Bars isBlank r ∧ s = u ++ r := by
  simp only [keywordBlanks, Option.bind_eq_bind, Option.bind_eq_some_iff, keyword_eq_some,
    blanks1_eq_some]
  constructor
  · rintro ⟨t, ⟨k, hk, rfl⟩, b, hb, hr, rfl⟩
    exact ⟨k ++ b, ⟨k, b, hk, hb, rfl⟩, hr, by simp⟩
  · rintro ⟨u, ⟨k, b, hk, hb, rfl⟩, hr, rfl⟩
    exact ⟨b ++ r, ⟨k, hk, by simp⟩, b, hb, hr, rfl⟩

lemma Spaced.read {w u : List Char} (h : Spaced w u) {r : List Char} (hr : Bars isBlank r) :
    keywordBlanks w (u ++ r) = some r :=
  keywordBlanks_eq_some.mpr ⟨u, h, hr, rfl⟩

lemma Spaced.bars {w u : List Char} (h : Spaced w u) (hw : w ≠ []) (hs : Solid w) (r : List Char) :
    Bars isBlank (u ++ r) := by
  obtain ⟨k, b, hk, _, rfl⟩ := h
  have hk' : k ≠ [] := by
    rintro rfl
    exact hw hk.symm
  simpa using (solid_of_map_caseless hs hk).bars (s := b ++ r) hk'

lemma Spaced.not_mem {w u : List Char} (h : Spaced w u) {c : Char} (hc : isBlank c = false)
    (hw : caseless c ∉ w) : c ∉ u := by
  obtain ⟨k, b, rfl, hb, rfl⟩ := h
  intro hm
  rcases List.mem_append.mp hm with hm | hm
  · exact hw (List.mem_map_of_mem hm)
  · exact hb.2.not_mem hc hm

lemma run1_eq_some {stop : Char → Bool} {s t r : List Char} :
    run1 stop s = some (t, r) ↔
      t ≠ [] ∧ Avoids stop t ∧ Bars (!stop ·) r ∧ s = t ++ r := by
  constructor
  · intro h
    have ht := ne_nil_of_run1 h
    have hs := append_of_run1 h
    unfold run1 at h
    split at h
    · simp at h
    · simp only [Option.some.injEq, Prod.mk.injEq] at h
      obtain ⟨rfl, rfl⟩ := h
      refine ⟨ht, ?_, bars_dropWhile _ s, hs.symm⟩
      intro c hc
      simpa using List.mem_takeWhile_imp hc
  · rintro ⟨ht, hs, hr, rfl⟩
    have hs : ∀ c ∈ t, (!stop c) = true := fun c hc => by simp [hs c hc]
    unfold run1
    rw [takeWhile_append_of_bars hs hr, dropWhile_append_of_bars hs hr]
    cases t with
    | nil => exact absurd rfl ht
    | cons c t => rfl

lemma enclosed_eq_some {s t r : List Char} :
    enclosed s = some (t, r) ↔ t ≠ [] ∧ ')' ∉ t ∧ s = '(' :: (t ++ ')' :: r) := by
  simp only [enclosed, Option.bind_eq_bind, Option.bind_eq_some_iff, char_eq_some, Prod.exists,
    run1_eq_some]
  constructor
  · rintro ⟨s₁, rfl, t', s₂, ⟨ht, hs, _, rfl⟩, s₃, rfl, h⟩
    cases h
    exact ⟨ht, fun hm => by simpa using hs _ hm, rfl⟩
  · rintro ⟨ht, hs, rfl⟩
    refine ⟨_, rfl, t, ')' :: r, ⟨ht, ?_, by simp, rfl⟩, r, rfl, rfl⟩
    intro c hc
    simpa using fun h : c = ')' => hs (h ▸ hc)

lemma enclosed_append {t : List Char} (ht : t ≠ []) (hs : ')' ∉ t) (r : List Char) :
    enclosed ('(' :: (t ++ ')' :: r)) = some (t, r) :=
  enclosed_eq_some.mpr ⟨ht, hs, rfl⟩

end SchemaAtlas.Text
