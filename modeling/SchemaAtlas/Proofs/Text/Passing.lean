import Mathlib.Data.List.Infix
import SchemaAtlas.Proofs.Text.Reading
import SchemaAtlas.Text.Search

/-! A search passes over a piece of text when nothing can be read at any place inside it. For phrases
of two keywords this is decided word by word. -/

namespace SchemaAtlas.Text

variable {α β : Type}

def Passes (f : List Char → Option α) (x y : List Char) : Prop :=
  ∀ d, d <:+ x → d ≠ [] → f (d ++ y) = none

def phrase (w v s : List Char) : Option (List Char) := keywordBlanks w s >>= keyword v

def opened (w s : List Char) : Option (List Char) := keyword w s >>= fun s => char '(' (skipBlanks s)

def Capitals (w : List Char) : Prop := w ≠ [] ∧ ∀ c ∈ w, c.isUpper = true

def Apart (w x : List Char) : Prop := ∀ d ∈ x.tails, d ≠ [] → ¬d <+: w ∧ ¬w <+: d

instance (w x : List Char) : Decidable (Apart w x) := List.decidableBAll _ x.tails

instance (w : List Char) : Decidable (Capitals w) :=
  have : Decidable (∀ c ∈ w, c.isUpper = true) := List.decidableBAll _ w
  inferInstanceAs (Decidable (w ≠ [] ∧ ∀ c ∈ w, c.isUpper = true))

section Passes

variable {f : List Char → Option α} {g : List Char → Option β} {x x' y : List Char}

@[simp] lemma passes_nil (f : List Char → Option α) (y : List Char) : Passes f [] y := by
  intro d hd hne
  exact absurd (List.suffix_nil.mp hd) hne

lemma passes_cons {c : Char} :
    Passes f (c :: x) y ↔ f (c :: (x ++ y)) = none ∧ Passes f x y := by
  constructor
  · intro h
    refine ⟨by simpa using h (c :: x) List.suffix_rfl (by simp), ?_⟩
    intro d hd hne
    exact h d (hd.trans (List.suffix_cons c x)) hne
  · rintro ⟨hc, h⟩ d hd hne
    rcases List.suffix_cons_iff.mp hd with rfl | hd
    · exact hc
    · exact h d hd hne

lemma passes_append : Passes f (x ++ x') y ↔ Passes f x (x' ++ y) ∧ Passes f x' y := by
  induction x with
  | nil => simp
  | cons c x ih => rw [List.cons_append, passes_cons, ih, passes_cons, List.append_assoc, and_assoc]

lemma Passes.mono (h : Passes f x y) (hg : ∀ s, f s = none → g s = none) : Passes g x y :=
  fun d hd hne => hg _ (h d hd hne)

lemma Pattern.first?_of_passes {p : Pattern α} (h : Passes p.read x y) :
    p.first? (x ++ y) = p.first? y := by
  induction x with
  | nil => rfl
  | cons c x ih =>
    obtain ⟨hc, h⟩ := passes_cons.mp h
    rw [List.cons_append, first?, hc]
    exact ih h

lemma Pattern.all_of_passes {p : Pattern α} (h : Passes p.read x y) :
    p.all (x ++ y) = p.all y := by
  induction x with
  | nil => rfl
  | cons c x ih =>
    obtain ⟨hc, h⟩ := passes_cons.mp h
    rw [List.cons_append, all_cons_of_none hc, ih h]

end Passes

section Phrases

variable {w v x b s r y : List Char}

lemma eq_of_solid_append (hx : Solid x) (hr : Solid y) (hb : Gap b) {b' : List Char} (hb' : Gap b')
    (hs : Bars isBlank s) (hr' : Bars isBlank r) (h : x ++ (b ++ s) = y ++ (b' ++ r)) :
    x = y ∧ s = r := by
  have bars {b s : List Char} (hb : Gap b) : Bars (!isBlank ·) (b ++ s) :=
    bars_append hb.1 fun c hc => by simp [hb.2 c hc]
  have solid {x : List Char} (hx : Solid x) : ∀ c ∈ x, (!isBlank c) = true :=
    fun c hc => by simp [hx c hc]
  have htake := congrArg (List.takeWhile (!isBlank ·)) h
  rw [takeWhile_append_of_bars (solid hx) (bars hb),
    takeWhile_append_of_bars (solid hr) (bars hb')] at htake
  subst htake
  have hskip := congrArg skipBlanks (List.append_cancel_left h)
  rw [skipBlanks_append hb.2 hs, skipBlanks_append hb'.2 hr'] at hskip
  exact ⟨rfl, hskip⟩

lemma keywordBlanks_word (hw : Solid w) (hx : Solid x) (hb : Gap b) (hs : Bars isBlank s)
    (h : keywordBlanks w (x ++ (b ++ s)) = some r) : x.map caseless = w ∧ r = s := by
  obtain ⟨u, ⟨k, b', hk, hb', rfl⟩, hr, he⟩ := keywordBlanks_eq_some.mp h
  rw [List.append_assoc] at he
  obtain ⟨rfl, rfl⟩ := eq_of_solid_append hx (solid_of_map_caseless hw hk) hb hb' hs hr he
  exact ⟨hk, rfl⟩

lemma keywordBlanks_stop {c : Char} (hx : Solid x) (hc : isBlank c = false) (hw : caseless c ∉ w) :
    keywordBlanks w (x ++ c :: s) = none := by
  by_contra hne
  obtain ⟨r, hr⟩ := Option.ne_none_iff_exists'.mp hne
  obtain ⟨u, ⟨k, b, rfl, ⟨hb, hbl⟩, rfl⟩, _, he⟩ := keywordBlanks_eq_some.mp hr
  cases b with
  | nil => exact hb rfl
  | cons e b =>
    have hblank : isBlank e = true := hbl e List.mem_cons_self
    rw [List.append_assoc, List.cons_append] at he
    rcases List.append_eq_append_iff.mp he with ⟨a, rfl, ha⟩ | ⟨a, rfl, ha⟩
    · cases a with
      | nil =>
        obtain ⟨rfl, -⟩ := List.cons.inj ha
        rw [hc] at hblank
        exact Bool.false_ne_true hblank
      | cons d a =>
        obtain ⟨rfl, -⟩ := List.cons.inj ha
        exact hw (List.mem_map.mpr ⟨c, by simp, rfl⟩)
    · have he : isBlank e = false := by
        cases a with
        | nil => obtain ⟨rfl, -⟩ := List.cons.inj ha; exact hc
        | cons d a => obtain ⟨rfl, -⟩ := List.cons.inj ha; exact hx e (by simp)
      rw [he] at hblank
      exact Bool.false_ne_true hblank

lemma phrase_eq_none_of_keywordBlanks (h : keywordBlanks w s = none) : phrase w v s = none := by
  rw [phrase, h]
  rfl

lemma phrase_word (hw : Solid w) (hx : Solid x) (hb : Gap b) (hs : Bars isBlank s)
    (h : x.map caseless ≠ w ∨ keyword v s = none) : phrase w v (x ++ (b ++ s)) = none := by
  cases hr : keywordBlanks w (x ++ (b ++ s)) with
  | none => exact phrase_eq_none_of_keywordBlanks hr
  | some r =>
    obtain ⟨hk, rfl⟩ := keywordBlanks_word hw hx hb hs hr
    rw [phrase, hr]
    exact h.resolve_left (fun hne => hne hk)

lemma passes_word (hw : Solid w) (hx : Solid x) (hb : Gap b) (hs : Bars isBlank s)
    (h : ¬w <:+ x.map caseless ∨ keyword v s = none) : Passes (phrase w v) x (b ++ s) := by
  intro d hd _
  refine phrase_word hw (fun c hc => hx c (hd.subset hc)) hb hs (h.imp_left ?_)
  rintro hn rfl
  exact hn (hd.map caseless)

lemma passes_stop {c : Char} (hx : Solid x) (hc : isBlank c = false) (hw : caseless c ∉ w) :
    Passes (phrase w v) x (c :: s) := by
  intro d hd _
  exact phrase_eq_none_of_keywordBlanks
    (keywordBlanks_stop (fun c hc => hx c (hd.subset hc)) hc hw)

lemma keyword_eq_none {k : List Char} (h₁ : ¬k.map caseless <+: w) (h₂ : ¬w <+: k.map caseless) :
    keyword w (k ++ s) = none := by
  by_contra hsome
  obtain ⟨r, hr⟩ := Option.ne_none_iff_exists'.mp hsome
  obtain ⟨k', rfl, he⟩ := keyword_eq_some.mp hr
  rcases List.append_eq_append_iff.mp he with ⟨a, rfl, _⟩ | ⟨a, rfl, _⟩
  · exact h₁ (by simp)
  · exact h₂ (by simp)

lemma phrase_eq_none_of_keyword (h : keyword w s = none) : phrase w v s = none := by
  rw [phrase, keywordBlanks, h]
  rfl

lemma opened_eq_none_of_keyword (h : keyword w s = none) : opened w s = none := by
  rw [opened, h]
  rfl

lemma passes_keyword (h : Apart w (x.map caseless)) : Passes (keyword w) x y := by
  intro d hd hne
  have hm : d.map caseless ∈ (x.map caseless).tails := (List.mem_tails _ _).mpr (hd.map caseless)
  obtain ⟨h₁, h₂⟩ := h (d.map caseless) hm (by simpa using hne)
  exact keyword_eq_none h₁ h₂

lemma passes_of_apart (h : Apart w (x.map caseless)) : Passes (phrase w v) x y :=
  (passes_keyword h).mono fun _ => phrase_eq_none_of_keyword

lemma passes_opened (h : Apart w (x.map caseless)) : Passes (opened w) x y :=
  (passes_keyword h).mono fun _ => opened_eq_none_of_keyword

lemma passes_blanks (hw : w ≠ []) (hs : Solid w) (hb : Blanks b) : Passes (phrase w v) b y := by
  intro d hd hne
  apply phrase_eq_none_of_keywordBlanks
  by_contra hsome
  obtain ⟨r, hr⟩ := Option.ne_none_iff_exists'.mp hsome
  obtain ⟨u, hu, _, he⟩ := keywordBlanks_eq_some.mp hr
  cases d with
  | nil => exact hne rfl
  | cons c d =>
    have hbars := hu.bars hw hs r
    rw [← he, List.cons_append, bars_cons] at hbars
    rw [hb c (hd.subset List.mem_cons_self)] at hbars
    exact Bool.false_ne_true hbars.symm

lemma Spaced.passes {u t : List Char} (h : Spaced t u) (hw : w ≠ []) (hs : Solid w)
    (ha : Apart w t) (y : List Char) : Passes (phrase w v) u y := by
  obtain ⟨k, b, rfl, hb, rfl⟩ := h
  exact passes_append.mpr ⟨passes_of_apart ha, passes_blanks hw hs hb.2⟩

lemma passes_opened_word (hw : Solid w) (hx : Solid x) (ho : '(' ∉ x) (hb : Gap b)
    (hs : Bars (fun c => isBlank c || c == '(') s) : Passes (opened w) x (b ++ s) := by
  intro d hd hne
  have hd' : Solid d := fun c hc => hx c (hd.subset hc)
  by_contra hsome
  obtain ⟨r, hr⟩ := Option.ne_none_iff_exists'.mp hsome
  simp only [opened, Option.bind_eq_bind, Option.bind_eq_some_iff, char_eq_some] at hr
  obtain ⟨t, ht, hskip⟩ := hr
  obtain ⟨k, hk, he⟩ := keyword_eq_some.mp ht
  have hk := solid_of_map_caseless hw hk
  have hs₁ : Bars isBlank s := fun c hc => (Bool.or_eq_false_iff.mp (hs c hc)).1
  have hnone : skipBlanks (b ++ s) ≠ '(' :: r := by
    rw [skipBlanks_append hb.2 hs₁]
    rintro rfl
    simp at hs
  rcases List.append_eq_append_iff.mp he with ⟨a, rfl, ha⟩ | ⟨a, rfl, rfl⟩
  · cases a with
    | nil => exact hnone (by rwa [ha])
    | cons c a =>
      obtain ⟨hne, hblank⟩ := hb
      cases b with
      | nil => exact hne rfl
      | cons e b =>
        obtain ⟨rfl, -⟩ := List.cons.inj ha
        have hsolid := hk e (by simp)
        rw [hblank e List.mem_cons_self] at hsolid
        exact Bool.false_ne_true hsolid.symm
  · cases a with
    | nil => exact hnone hskip
    | cons c a =>
      have hc : c ∈ k ++ c :: a := by simp
      rw [List.cons_append, skipBlanks_of_bars ((bars_cons _ _ _).mpr (hd' c hc))] at hskip
      obtain ⟨rfl, -⟩ := List.cons.inj hskip
      exact ho (hd.subset hc)

lemma Capitals.solid (hw : Capitals w) : Solid w := by
  intro c hc
  have hupper : 65 ≤ c.toNat ∧ c.toNat ≤ 90 := of_decide_eq_true (hw.2 c hc)
  apply isBlank_of_between <;> omega

lemma Capitals.not_mem (hw : Capitals w) {c : Char} (hc : c.isUpper = false) : c ∉ w := by
  intro hm
  rw [hw.2 c hm] at hc
  exact Bool.false_ne_true hc.symm

lemma Capitals.keyword_cons (hw : Capitals w) {c : Char} (hc : (caseless c).isUpper = false) :
    keyword w (c :: s) = none := by
  cases w with
  | nil => exact absurd rfl hw.1
  | cons k w =>
    have hne : caseless c ≠ k := by
      rintro rfl
      exact hw.not_mem hc List.mem_cons_self
    rw [Text.keyword_cons, if_neg hne]

lemma Capitals.passes_marks (hw : Capitals w) (hx : Avoids (fun c => (caseless c).isUpper) x)
    (y : List Char) : Passes (keyword w) x y := by
  intro d hd hne
  cases d with
  | nil => exact absurd rfl hne
  | cons c d => exact hw.keyword_cons (hx c (hd.subset List.mem_cons_self))

lemma passes_marks (hw : Capitals w) (hx : Avoids (fun c => (caseless c).isUpper) x)
    (y : List Char) : Passes (phrase w v) x y :=
  (hw.passes_marks hx y).mono fun _ => phrase_eq_none_of_keyword

end Phrases

end SchemaAtlas.Text
