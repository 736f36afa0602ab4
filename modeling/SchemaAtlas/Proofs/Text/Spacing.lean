import Mathlib.Data.Option.Basic
import SchemaAtlas.Proofs.Text.Searching
import SchemaAtlas.Text.Uppercase

/-! Readers do not tell one run of blanks from another, unless they copy it out from between parentheses. -/

namespace SchemaAtlas.Text

variable {α β : Type}

def blankCodes : List Nat :=
  [9, 10, 11, 12, 13, 28, 29, 30, 31, 32, 0x85, 0xA0, 0x1680, 0x2000, 0x2001, 0x2002, 0x2003, 0x2004, 0x2005,
    0x2006, 0x2007, 0x2008, 0x2009, 0x200A, 0x2028, 0x2029, 0x202F, 0x205F, 0x3000]

lemma toNat_mem_blankCodes {c : Char} (h : isBlank c = true) : c.toNat ∈ blankCodes := by
  simp only [isBlank, Bool.or_eq_true, Bool.and_eq_true, decide_eq_true_eq, beq_iff_eq] at h
  simp only [blankCodes, List.mem_cons, List.not_mem_nil, or_false]
  omega

lemma isWord_of_blank {c : Char} (h : isBlank c = true) : isWord c = false := by
  have hcodes : ∀ n ∈ blankCodes, isWord (Char.ofNat n) = false := by decide +kernel
  simpa using hcodes c.toNat (toNat_mem_blankCodes h)

lemma upperChar_of_blank {c : Char} (h : isBlank c = true) : upperChar c = [c] := by
  have hcodes : ∀ n ∈ blankCodes, upperChar (Char.ofNat n) = [Char.ofNat n] := by decide +kernel
  simpa using hcodes c.toNat (toNat_mem_blankCodes h)

lemma Blanks.upper {b : List Char} (h : Blanks b) : upper b = b := by
  induction b with
  | nil => rfl
  | cons c b ih =>
    obtain ⟨hc, hb⟩ := List.forall_mem_cons.mp h
    rw [upper_cons, upperChar_of_blank hc, ih hb, List.singleton_append]

lemma Gap.bars_isWord {b : List Char} (h : Gap b) (s : List Char) : Bars isWord (b ++ s) :=
  bars_append h.1 fun c hc => isWord_of_blank (h.2 c hc)

def Shut (x : List Char) : Prop := ∀ q, '(' :: q <:+ x → ')' ∈ q

inductive Respaced (w w' : List Char) : List Char → List Char → Prop
  | same (s : List Char) : Respaced w w' s s
  | run {x : List Char} (hx : Shut x) (y : List Char) : Respaced w w' (x ++ (w ++ y)) (x ++ (w' ++ y))

def Follows (w w' : List Char) (p q : α × List Char) : Prop := p.1 = q.1 ∧ Respaced w w' p.2 q.2

lemma shut_iff {x : List Char} : Shut x ↔ ∀ s ∈ x.tails, s.head? = some '(' → ')' ∈ s.tail := by
  constructor
  · intro h s hs hhead
    cases s with
    | nil => cases hhead
    | cons c q =>
      obtain rfl := Option.some.inj hhead
      exact h q ((List.mem_tails _ _).mp hs)
  · exact fun h q hq => h _ ((List.mem_tails _ _).mpr hq) rfl

instance (x : List Char) : Decidable (Shut x) := decidable_of_iff _ shut_iff.symm

lemma Shut.suffix {x r : List Char} (h : Shut x) (hr : r <:+ x) : Shut r := fun q hq => h q (hq.trans hr)

lemma Shut.tail {x : List Char} {c : Char} (h : Shut (c :: x)) : Shut x := h.suffix (List.suffix_cons c x)

section Relations

variable {R : α → α → Prop} {S : β → β → Prop} {o o' : Option α}

lemma rel_refl (h : ∀ a, R a a) (o : Option α) : Option.Rel R o o := by
  cases o with
  | none => exact .none
  | some a => exact .some (h a)

lemma rel_bind {f g : α → Option β} (h : Option.Rel R o o') (hf : ∀ a b, R a b → Option.Rel S (f a) (g b)) :
    Option.Rel S (o >>= f) (o' >>= g) := by
  cases h with
  | none => exact .none
  | some h => exact hf _ _ h

lemma rel_orElse {p p' : Option α} (h : Option.Rel R o o') (hp : Option.Rel R p p') :
    Option.Rel R (o <|> p) (o' <|> p') := by
  cases h with
  | none => exact hp
  | some h => exact .some h

lemma rel_filter {f : α → Bool} (h : Option.Rel R o o') (hf : ∀ a b, R a b → f a = f b) :
    Option.Rel R (o.filter f) (o'.filter f) := by
  cases h with
  | none => exact .none
  | @some a b h =>
    rw [Option.filter_some, Option.filter_some, hf a b h]
    cases f b with
    | true => exact .some h
    | false => exact .none

lemma map_eq_of_rel {f : α → β} (h : Option.Rel R o o') (hf : ∀ a b, R a b → f a = f b) :
    o.map f = o'.map f := by
  cases h with
  | none => rfl
  | some h => exact congrArg some (hf _ _ h)

lemma isSome_eq_of_rel (h : Option.Rel R o o') : o.isSome = o'.isSome := by
  cases h <;> rfl

end Relations

section Readers

variable {w w' s s' : List Char}

lemma follows_refl (p : α × List Char) : Follows w w' p p := ⟨rfl, .same p.2⟩

lemma rel_same {f : List Char → Option (List Char)} (s : List Char) :
    Option.Rel (Respaced w w') (f s) (f s) :=
  rel_refl .same _

lemma Gap.exists_eq_cons {b : List Char} (h : Gap b) : ∃ c t, isBlank c = true ∧ Blanks t ∧ b = c :: t := by
  obtain ⟨hne, hblanks⟩ := h
  cases b with
  | nil => exact absurd rfl hne
  | cons c t =>
    obtain ⟨hc, ht⟩ := List.forall_mem_cons.mp hblanks
    exact ⟨c, t, hc, ht, rfl⟩

lemma skipBlanks_blanks {b : List Char} (h : Blanks b) (y : List Char) : skipBlanks (b ++ y) = skipBlanks y := by
  induction b with
  | nil => rfl
  | cons c b ih =>
    obtain ⟨hc, hb⟩ := List.forall_mem_cons.mp h
    rw [List.cons_append, skipBlanks_cons_of_blank _ hc, ih hb]

lemma keyword_gap {k b : List Char} (hk : k ≠ []) (hs : Solid k) (hb : Gap b) (y : List Char) :
    keyword k (b ++ y) = none := by
  obtain ⟨c, t, hc, -, rfl⟩ := hb.exists_eq_cons
  cases k with
  | nil => exact absurd rfl hk
  | cons d k =>
    have hne : caseless c ≠ d := by
      rw [caseless_of_blank hc]
      rintro rfl
      rw [hs c List.mem_cons_self] at hc
      exact Bool.false_ne_true hc
    rw [List.cons_append, keyword_cons, if_neg hne]

lemma keyword_blank {k : List Char} {c : Char} (hk : k ≠ []) (hs : Solid k) (hc : isBlank c = true)
    (y : List Char) :
    keyword k (c :: y) = none :=
  keyword_gap hk hs (b := [c]) ⟨List.cons_ne_nil c [], by simpa [Blanks] using hc⟩ y

lemma char_gap {k : Char} {b : List Char} (hk : isBlank k = false) (hb : Gap b) (y : List Char) :
    char k (b ++ y) = none := by
  obtain ⟨c, t, hc, -, rfl⟩ := hb.exists_eq_cons
  have hne : c ≠ k := by
    rintro rfl
    rw [hk] at hc
    exact Bool.false_ne_true hc
  rw [List.cons_append, char, if_neg hne]

lemma blanks1_gap {b : List Char} (hb : Gap b) (y : List Char) : blanks1 (b ++ y) = some (skipBlanks y) := by
  obtain ⟨c, t, hc, ht, rfl⟩ := hb.exists_eq_cons
  rw [List.cons_append, blanks1, if_pos hc, skipBlanks_blanks ht]

lemma run1_append {stop : Char → Bool} {t z : List Char} (ht : Avoids stop t) (hz : Bars (!stop ·) z) :
    run1 stop (t ++ z) = if t = [] then none else some (t, z) := by
  by_cases hne : t = []
  · subst hne
    rw [if_pos rfl, List.nil_append, run1]
    cases z with
    | nil => rfl
    | cons c z => rw [List.takeWhile_cons, (bars_cons _ _ _).mp hz]; rfl
  · rw [if_neg hne]
    exact run1_eq_some.mpr ⟨hne, ht, hz, rfl⟩

lemma exists_run (stop : Char → Bool) (x : List Char) :
    ∃ t r, Avoids stop t ∧ Bars (!stop ·) r ∧ x = t ++ r :=
  ⟨x.takeWhile (!stop ·), x.dropWhile (!stop ·), fun c hc => by simpa using List.mem_takeWhile_imp hc,
    bars_dropWhile _ x, List.takeWhile_append_dropWhile.symm⟩

variable (hw : Gap w) (hw' : Gap w')

include hw hw'

lemma rel_char {k : Char} (hk : isBlank k = false) (h : Respaced w w' s s') :
    Option.Rel (Respaced w w') (char k s) (char k s') := by
  cases h with
  | same s => exact rel_same s
  | @run x hx y =>
    cases x with
    | nil =>
      rw [List.nil_append, List.nil_append, char_gap hk hw, char_gap hk hw']
      exact .none
    | cons c x =>
      rw [List.cons_append, List.cons_append, char, char]
      split
      · exact .some (.run hx.tail y)
      · exact .none

lemma rel_keyword {k : List Char} (hk : Solid k) (h : Respaced w w' s s') :
    Option.Rel (Respaced w w') (keyword k s) (keyword k s') := by
  induction k generalizing s s' with
  | nil => exact .some h
  | cons d k ih =>
    cases h with
    | same s => exact rel_same s
    | @run x hx y =>
      cases x with
      | nil =>
        have hgap {b : List Char} (hb : Gap b) := keyword_gap (List.cons_ne_nil d k) hk hb y
        rw [List.nil_append, List.nil_append, hgap hw, hgap hw']
        exact .none
      | cons c x =>
        rw [List.cons_append, List.cons_append, keyword_cons, keyword_cons]
        split
        · exact ih ((avoids_cons _ _ _).mp hk).2 (.run hx.tail y)
        · exact .none

lemma Respaced.skipBlanks (h : Respaced w w' s s') : Respaced w w' (skipBlanks s) (skipBlanks s') := by
  cases h with
  | same s => exact .same _
  | @run x hx y =>
    induction x with
    | nil =>
      rw [List.nil_append, List.nil_append, skipBlanks_blanks hw.2, skipBlanks_blanks hw'.2]
      exact .same _
    | cons c x ih =>
      rw [List.cons_append, List.cons_append]
      cases hc : isBlank c with
      | true =>
        rw [skipBlanks_cons_of_blank _ hc, skipBlanks_cons_of_blank _ hc]
        exact ih hx.tail
      | false =>
        rw [skipBlanks_cons_of_not_blank _ hc, skipBlanks_cons_of_not_blank _ hc]
        exact .run hx y

lemma rel_blanks1 (h : Respaced w w' s s') : Option.Rel (Respaced w w') (blanks1 s) (blanks1 s') := by
  cases h with
  | same s => exact rel_same s
  | @run x hx y =>
    cases x with
    | nil =>
      rw [List.nil_append, List.nil_append, blanks1_gap hw, blanks1_gap hw']
      exact .some (.same _)
    | cons c x =>
      rw [List.cons_append, List.cons_append, blanks1, blanks1]
      split
      · exact .some (Respaced.skipBlanks hw hw' (.run hx.tail y))
      · exact .none

lemma rel_keywordBlanks {k : List Char} (hk : Solid k) (h : Respaced w w' s s') :
    Option.Rel (Respaced w w') (keywordBlanks k s) (keywordBlanks k s') :=
  rel_bind (rel_keyword hw hw' hk h) fun _ _ => rel_blanks1 hw hw'

lemma rel_run1 {stop : Char → Bool} (hstop : ∀ c, isBlank c = true → stop c = true) (h : Respaced w w' s s') :
    Option.Rel (Follows w w') (run1 stop s) (run1 stop s') := by
  cases h with
  | same s => exact rel_refl follows_refl _
  | @run x hx y =>
    obtain ⟨t, r, ht, hr, rfl⟩ := exists_run stop x
    have hbars {b : List Char} (hb : Gap b) : Bars (!stop ·) (r ++ (b ++ y)) := by
      cases r with
      | nil =>
        rw [List.nil_append]
        exact bars_append hb.1 fun c hc => by simp [hstop c (hb.2 c hc)]
      | cons c r => exact hr
    rw [List.append_assoc, List.append_assoc, run1_append ht (hbars hw), run1_append ht (hbars hw')]
    split
    · exact .none
    · exact .some ⟨rfl, .run (hx.suffix (List.suffix_append t r)) y⟩

lemma rel_enclosed (h : Respaced w w' s s') : Option.Rel (Follows w w') (enclosed s) (enclosed s') := by
  cases h with
  | same s => exact rel_refl follows_refl _
  | @run x hx y =>
    cases x with
    | nil =>
      rw [List.nil_append, List.nil_append, enclosed, enclosed, char_gap (by decide) hw, char_gap (by decide) hw']
      exact .none
    | cons c x =>
      by_cases hc : c = '('
      · subst hc
        -- the parenthesis that closes this one stands in front of the run
        obtain ⟨t, r, rfl, ht⟩ := List.eq_append_cons_of_mem (hx x List.suffix_rfl)
        have hr : Shut r := hx.suffix ((List.suffix_cons ')' r).trans (List.suffix_append ('(' :: t) _))
        have hread (b : List Char) : enclosed ('(' :: ((t ++ ')' :: r) ++ (b ++ y))) =
            if t = [] then none else some (t, r ++ (b ++ y)) := by
          rw [List.append_assoc, List.cons_append]
          split
          · next hnil =>
            subst hnil
            rfl
          · next hne => exact enclosed_append hne ht _
        rw [List.cons_append, List.cons_append, hread, hread]
        split
        · exact .none
        · exact .some ⟨rfl, .run hr y⟩
      · rw [List.cons_append, List.cons_append, enclosed, enclosed, char, char, if_neg hc, if_neg hc]
        exact .none

lemma Respaced.atWordEnd (h : Respaced w w' s s') : atWordEnd s = atWordEnd s' := by
  cases h with
  | same s => rfl
  | @run x hx y =>
    cases x with
    | nil =>
      obtain ⟨c, t, hc, -, rfl⟩ := hw.exists_eq_cons
      obtain ⟨c', t', hc', -, rfl⟩ := hw'.exists_eq_cons
      rw [List.nil_append, List.nil_append, List.cons_append, List.cons_append, Text.atWordEnd, Text.atWordEnd,
        isWord_of_blank hc, isWord_of_blank hc']
    | cons c x => rfl

lemma rel_first? {p : Pattern α} (hblank : ∀ c s, isBlank c = true → p.read (c :: s) = none)
    (hread : ∀ s s', Respaced w w' s s' → Option.Rel (Follows w w') (p.read s) (p.read s'))
    (h : Respaced w w' s s') : Option.Rel (Follows w w') (p.first? s) (p.first? s') := by
  have hgap {b : List Char} (hb : Blanks b) (y : List Char) : p.first? (b ++ y) = p.first? y := by
    apply Pattern.first?_of_passes
    intro d hd hne
    cases d with
    | nil => exact absurd rfl hne
    | cons c d => exact hblank c _ (hb c (hd.subset List.mem_cons_self))
  cases h with
  | same s => exact rel_refl follows_refl _
  | @run x hx y =>
    induction x with
    | nil =>
      rw [List.nil_append, List.nil_append, hgap hw.2, hgap hw'.2]
      exact rel_refl follows_refl _
    | cons c x ih => exact rel_orElse (hread _ _ (.run hx y)) (ih hx.tail)

lemma rel_firstAtWord {R : α → α → Prop} (hrefl : ∀ a, R a a) {f : List Char → Option α}
    (hblank : ∀ c s, isBlank c = true → f (c :: s) = none)
    (hread : ∀ s s', Respaced w w' s s' → Option.Rel R (f s) (f s')) (h : Respaced w w' s s') (b : Bool) :
    Option.Rel R (firstAtWord f b s) (firstAtWord f b s') := by
  have hgap {v : List Char} (hv : Blanks v) (y : List Char) :
      firstAtWord f true (v ++ y) = firstAtWord f true y := by
    induction v with
    | nil => rfl
    | cons c v ih =>
      obtain ⟨hc, hv⟩ := List.forall_mem_cons.mp hv
      rw [List.cons_append, firstAtWord, hblank c _ hc, isWord_of_blank hc]
      exact ih hv
  have hrun (b : Bool) {v : List Char} (hv : Gap v) (y : List Char) :
      firstAtWord f b (v ++ y) = firstAtWord f true y := by
    obtain ⟨c, t, hc, ht, rfl⟩ := hv.exists_eq_cons
    cases b with
    | true => exact hgap hv.2 y
    | false => rw [List.cons_append, firstAtWord, isWord_of_blank hc, Bool.not_false, hgap ht]
  cases h with
  | same s => exact rel_refl hrefl _
  | @run x hx y =>
    induction x generalizing b with
    | nil =>
      rw [List.nil_append, List.nil_append, hrun b hw, hrun b hw']
      exact rel_refl hrefl _
    | cons c x ih =>
      cases b with
      | true => exact rel_orElse (hread _ _ (.run hx y)) (ih _ hx.tail)
      | false => exact ih _ hx.tail

end Readers

lemma trimEnd_append_blanks {b : List Char} (hb : Blanks b) (x : List Char) : trimEnd (x ++ b) = trimEnd x := by
  have hskip : skipBlanks (b.reverse ++ x.reverse) = skipBlanks x.reverse :=
    skipBlanks_blanks (fun c hc => hb c (List.mem_reverse.mp hc)) _
  rw [trimEnd, List.reverse_append]
  exact congrArg List.reverse hskip

lemma blanks_of_skipBlanks {s : List Char} (h : skipBlanks s = []) : Blanks s := by
  obtain ⟨b, hb, hs⟩ := exists_blanks s
  rw [hs, h, List.append_nil]
  exact hb

lemma skipBlanks_append_of_ne_nil {x : List Char} (h : skipBlanks x ≠ []) (s : List Char) :
    skipBlanks (x ++ s) = skipBlanks x ++ s := by
  rw [skipBlanks, List.dropWhile_append, if_neg]
  · rfl
  · rwa [List.isEmpty_iff]

lemma trimEnd_append {y : List Char} (h : ¬Blanks y) (s : List Char) : trimEnd (s ++ y) = s ++ trimEnd y := by
  have hne : skipBlanks y.reverse ≠ [] := fun hnil =>
    h fun c hc => blanks_of_skipBlanks hnil c (List.mem_reverse.mpr hc)
  rw [trimEnd, List.reverse_append]
  exact (congrArg List.reverse (skipBlanks_append_of_ne_nil hne s.reverse)).trans (by
    rw [List.reverse_append, List.reverse_reverse]
    rfl)

lemma trimEnd_prefix (s : List Char) : trimEnd s <+: s := by
  rw [← List.reverse_suffix, trimEnd, List.reverse_reverse]
  exact skipBlanks_suffix s.reverse

lemma tight_trim (x : List Char) : Tight (trim x) := by
  constructor
  · intro c hc
    obtain ⟨r, hr⟩ := trimEnd_prefix (skipBlanks x)
    apply bars_skipBlanks x c
    rw [← hr]
    exact List.mem_head?_append_of_mem_head? hc
  · rw [trim, trimEnd, List.reverse_reverse]
    exact bars_dropWhile isBlank _

lemma exists_margins (x : List Char) : ∃ a b, Blanks a ∧ Blanks b ∧ x = a ++ (trim x ++ b) := by
  obtain ⟨a, ha, hx⟩ := exists_blanks x
  obtain ⟨b, hb, hrev⟩ := exists_blanks (skipBlanks x).reverse
  refine ⟨a, b.reverse, ha, fun c hc => hb c (List.mem_reverse.mp hc), ?_⟩
  have hend : skipBlanks x = trim x ++ b.reverse := by
    rw [← List.reverse_inj, hrev, List.reverse_append, List.reverse_reverse, trim, trimEnd, List.reverse_reverse]
    rfl
  rw [← hend, ← hx]

lemma Bars.not_blanks {x : List Char} (h : Bars isBlank x) (hne : x ≠ []) : ¬Blanks x := by
  intro hblanks
  cases x with
  | nil => exact hne rfl
  | cons c x =>
    have hblank := hblanks c List.mem_cons_self
    rw [(bars_cons _ c x).mp h] at hblank
    exact Bool.false_ne_true hblank

lemma trimEnd_of_bars {x : List Char} (h : Bars isBlank x.reverse) : trimEnd x = x := by
  have hskip : x.reverse.dropWhile isBlank = x.reverse := skipBlanks_of_bars h
  rw [trimEnd, hskip, List.reverse_reverse]

lemma trim_append_of_bars {a b : List Char} (ha : Bars isBlank a.reverse) (hb : Bars isBlank b) :
    trim (a ++ b) = trim a ++ trim b := by
  by_cases hane : a = []
  · rw [hane, trim_nil, List.nil_append, List.nil_append]
  by_cases hbne : b = []
  · rw [hbne, trim_nil, List.append_nil, List.append_nil]
  have hfront : skipBlanks a ≠ [] := fun hnil =>
    ha.not_blanks (by simpa using hane) fun c hc => blanks_of_skipBlanks hnil c (List.mem_reverse.mp hc)
  have hback : trimEnd (skipBlanks a) = skipBlanks a := by
    obtain ⟨p, -, hsplit⟩ := exists_blanks a
    have hwhole : p ++ trimEnd (skipBlanks a) = p ++ skipBlanks a := by
      rw [← trimEnd_append ((bars_skipBlanks a).not_blanks hfront), ← hsplit, trimEnd_of_bars ha]
    exact List.append_cancel_left hwhole
  calc trim (a ++ b) = trimEnd (skipBlanks a ++ b) := by rw [trim, skipBlanks_append_of_ne_nil hfront]
    _ = skipBlanks a ++ trimEnd b := trimEnd_append (hb.not_blanks hbne) _
    _ = trim a ++ trim b := by rw [trim, trim, hback, skipBlanks_of_bars hb]

lemma Blanks.filter_eq_nil {b : List Char} (h : Blanks b) : b.filter (!isBlank ·) = [] :=
  List.filter_eq_nil_iff.mpr fun c hc => by simp [h c hc]

lemma filter_trim (x : List Char) : (trim x).filter (!isBlank ·) = x.filter (!isBlank ·) := by
  obtain ⟨a, b, ha, hb, hx⟩ := exists_margins x
  conv_rhs => rw [hx, List.filter_append, List.filter_append, ha.filter_eq_nil, hb.filter_eq_nil]
  simp

lemma trim_run (x y : List Char) : (∃ t, ∀ w, Gap w → trim (x ++ (w ++ y)) = t) ∨
    ∃ u v, u ≠ [] ∧ u <:+ x ∧ v <+: y ∧ ∀ w, Gap w → trim (x ++ (w ++ y)) = u ++ (w ++ v) := by
  by_cases hx : skipBlanks x = []
  · refine .inl ⟨trim y, fun w hw => ?_⟩
    rw [trim, skipBlanks_blanks (blanks_of_skipBlanks hx), skipBlanks_blanks hw.2]
    rfl
  · have hskip (w : List Char) : trim (x ++ (w ++ y)) = trimEnd (skipBlanks x ++ (w ++ y)) :=
      congrArg trimEnd (skipBlanks_append_of_ne_nil hx _)
    by_cases hy : Blanks y
    · refine .inl ⟨trimEnd (skipBlanks x), fun w hw => ?_⟩
      rw [hskip, trimEnd_append_blanks (hw.2.append hy)]
    · refine .inr ⟨skipBlanks x, trimEnd y, hx, skipBlanks_suffix x, trimEnd_prefix y, fun w _ => ?_⟩
      rw [hskip, ← List.append_assoc, trimEnd_append hy, List.append_assoc]

section Words

variable {a b w x y : List Char}

lemma not_prefix_gap {r : List Char} (hr : r ≠ []) (hs : Solid r) (hw : Gap w) : ¬r <+: w ++ y := by
  obtain ⟨c, t, hc, -, rfl⟩ := hw.exists_eq_cons
  intro h
  cases r with
  | nil => exact hr rfl
  | cons d r =>
    obtain ⟨rfl, -⟩ := List.cons_prefix_cons.mp h
    rw [hs d List.mem_cons_self] at hc
    exact Bool.false_ne_true hc

lemma blank_prefix_gap_iff (hb : b ≠ []) (hbs : Solid b) (hw : Gap w) :
    ' ' :: b <+: w ++ y ↔ w = [' '] ∧ b <+: y := by
  obtain ⟨c, t, hc, ht, rfl⟩ := hw.exists_eq_cons
  rw [List.cons_append, List.cons_prefix_cons, List.cons.injEq]
  by_cases hnil : t = []
  · simp [hnil, eq_comm]
  · have hnot : ¬b <+: t ++ y := not_prefix_gap hb hbs ⟨hnil, ht⟩
    simp [hnil, hnot]

lemma infix_blanks_iff {v p : List Char} (hv : Blanks v) (hp : p ≠ []) (hbars : Bars isBlank p) :
    p <:+: v ++ y ↔ p <:+: y := by
  induction v with
  | nil => rfl
  | cons c v ih =>
    obtain ⟨hc, hv⟩ := List.forall_mem_cons.mp hv
    rw [List.cons_append, List.infix_cons_iff, ih hv, or_iff_right]
    intro h
    cases p with
    | nil => exact hp rfl
    | cons d p =>
      obtain ⟨rfl, -⟩ := List.cons_prefix_cons.mp h
      rw [(bars_cons _ _ _).mp hbars] at hc
      exact Bool.false_ne_true hc

variable (ha : a ≠ []) (has : Solid a) (hb : b ≠ []) (hbs : Solid b) (hw : Gap w)

include hb has hbs hw

lemma prefix_run_iff : a ++ ' ' :: b <+: x ++ (w ++ y) ↔ a ++ ' ' :: b <+: x ∨ w = [' '] ∧ a = x ∧ b <+: y := by
  constructor
  · intro h
    rcases List.prefix_or_prefix_of_prefix h (List.prefix_append x (w ++ y)) with hp | ⟨r, hr⟩
    · exact .inl hp
    rw [← hr, List.prefix_append_right_inj] at h
    rcases List.append_eq_append_iff.mp hr.symm with ⟨v, rfl, he⟩ | ⟨v, rfl, he⟩
    · cases v with
      | nil =>
        rw [List.nil_append] at he
        rw [← he, blank_prefix_gap_iff hb hbs hw] at h
        exact .inr ⟨h.1, (List.append_nil a).symm, h.2⟩
      | cons d v =>
        obtain ⟨rfl, rfl⟩ := List.cons.inj he
        by_cases hnil : r = []
        · exact .inl (by simp [hnil])
        · exact absurd h (not_prefix_gap hnil (fun c hc => hbs c (by simp [hc])) hw)
    · cases v with
      | nil =>
        rw [List.nil_append] at he
        rw [he, blank_prefix_gap_iff hb hbs hw] at h
        exact .inr ⟨h.1, List.append_nil x, h.2⟩
      | cons d v =>
        rw [he] at h
        have hsolid : Solid (d :: v) := fun c hc => has c (by simp [hc])
        exact absurd ((List.prefix_append _ _).trans h) (not_prefix_gap (by simp) hsolid hw)
  · rintro (h | ⟨rfl, rfl, h⟩)
    · exact h.trans (List.prefix_append x _)
    · simpa using h

include ha

theorem infix_run_iff : a ++ ' ' :: b <:+: x ++ (w ++ y) ↔
    a ++ ' ' :: b <:+: x ∨ a ++ ' ' :: b <:+: y ∨ w = [' '] ∧ a <:+ x ∧ b <+: y := by
  induction x with
  | nil =>
    rw [List.nil_append, infix_blanks_iff hw.2 (by simp) (has.bars ha)]
    simp [ha]
  | cons c x ih =>
    have hfront := prefix_run_iff (x := c :: x) (y := y) has hb hbs hw
    rw [List.cons_append] at hfront
    rw [List.cons_append, List.infix_cons_iff, hfront, ih, List.infix_cons_iff, List.suffix_cons_iff]
    constructor
    · rintro ((h | ⟨hblank, hx, hy⟩) | h | h | ⟨hblank, hx, hy⟩)
      exacts [.inl (.inl h), .inr (.inr ⟨hblank, .inl hx, hy⟩), .inl (.inr h), .inr (.inl h),
        .inr (.inr ⟨hblank, .inr hx, hy⟩)]
    · rintro ((h | h) | h | ⟨hblank, hx | hx, hy⟩)
      exacts [.inl (.inl h), .inr (.inl h), .inr (.inr (.inl h)), .inl (.inr ⟨hblank, hx, hy⟩),
        .inr (.inr (.inr ⟨hblank, hx, hy⟩))]

end Words

end SchemaAtlas.Text
