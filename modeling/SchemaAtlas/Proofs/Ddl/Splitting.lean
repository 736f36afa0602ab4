import SchemaAtlas.Ddl.Reference
import SchemaAtlas.Ddl.Split
import SchemaAtlas.Proofs.Ddl.Scan
import SchemaAtlas.Proofs.Text.Spacing

/-! Pieces that are joined by commas are cut apart again, where every comma inside a piece stands
between parentheses. -/

namespace SchemaAtlas.Ddl

open SchemaAtlas.Text Statement

def Uncut (d : Int) (x : List Char) : Prop := ∀ p, p ++ [','] <+: x → p.foldl depthAfter d ≠ 0

structure Whole (x : List Char) : Prop where
  uncut : Uncut 0 x
  balanced : x.foldl depthAfter 0 = 0

structure Neat (x : List Char) : Prop where
  ne_nil : x ≠ []
  tight : Tight x
  whole : Whole x

/-- The text lists the members in order, with commas between them and blanks around each. -/
inductive Listing : List (List Char) → List Char → Prop where
  | blank {b : List Char} : Blanks b → Listing [] b
  | last {a b x : List Char} : Blanks a → Blanks b → Listing [x] (a ++ (x ++ b))
  | cons {a b x s : List Char} {xs : List (List Char)} :
      Blanks a → Blanks b → Listing xs s → Listing (x :: xs) (a ++ (x ++ (b ++ ',' :: s)))

def joined : List (List Char) → List Char
  | [] => []
  | x :: xs => x ++ xs.flatMap fun y => ',' :: ' ' :: y

/-- Parentheses come in pairs, one level deep, and commas stand only inside them. -/
inductive Grouped : List Char → Prop where
  | nil : Grouped []
  | cons {c : Char} {s : List Char} : c ≠ '(' → c ≠ ')' → c ≠ ',' → Grouped s → Grouped (c :: s)
  | group {t s : List Char} : '(' ∉ t → ')' ∉ t → Grouped s → Grouped ('(' :: (t ++ ')' :: s))

@[simp] lemma uncut_nil (d : Int) : Uncut d [] := by
  intro p hp
  simp at hp

lemma uncut_cons {d : Int} {c : Char} {s : List Char} :
    Uncut d (c :: s) ↔ (c = ',' → d ≠ 0) ∧ Uncut (depthAfter d c) s := by
  constructor
  · intro h
    refine ⟨?_, fun p hp => h (c :: p) (List.cons_prefix_cons.mpr ⟨rfl, hp⟩)⟩
    rintro rfl
    exact h [] (List.cons_prefix_cons.mpr ⟨rfl, List.nil_prefix⟩)
  · rintro ⟨hc, h⟩ p hp
    cases p with
    | nil => exact hc (List.cons_prefix_cons.mp hp).1.symm
    | cons e p =>
      obtain ⟨rfl, hs⟩ := List.cons_prefix_cons.mp hp
      exact h p hs

lemma uncut_append {d : Int} {x y : List Char} :
    Uncut d (x ++ y) ↔ Uncut d x ∧ Uncut (x.foldl depthAfter d) y := by
  induction x generalizing d with
  | nil => simp
  | cons c x ih => rw [List.cons_append, uncut_cons, uncut_cons, ih, List.foldl_cons, and_assoc]

lemma cutAtCommas_append {d : Int} {x : List Char} (h : Uncut d x) (y : List Char) :
    cutAtCommas d (x ++ y) = (x ++ (cutAtCommas (x.foldl depthAfter d) y).1,
      (cutAtCommas (x.foldl depthAfter d) y).2) := by
  induction x generalizing d with
  | nil => rfl
  | cons c x ih =>
    obtain ⟨hc, h⟩ := uncut_cons.mp h
    have hstep : c ≠ ',' ∨ d ≠ 0 := or_iff_not_imp_left.mpr fun hn => hc (not_not.mp hn)
    rw [List.cons_append, cutAtCommas_cons _ hstep, ih h]
    rfl

lemma uncut_iff {d : Int} {x : List Char} : Uncut d x ↔ (cutAtCommas d x).2 = [] := by
  induction x generalizing d with
  | nil => simp
  | cons c x ih =>
    rw [uncut_cons, ih]
    by_cases hc : c = ',' ∧ d = 0
    · obtain ⟨rfl, rfl⟩ := hc
      simp [cutAtCommas_comma]
    · have hstep : c ≠ ',' ∨ d ≠ 0 := not_and_or.mp hc
      rw [cutAtCommas_cons _ hstep, and_iff_right (not_and.mp hc)]

instance (d : Int) (x : List Char) : Decidable (Uncut d x) := decidable_of_iff _ uncut_iff.symm

instance (x : List Char) : Decidable (Whole x) :=
  decidable_of_iff (Uncut 0 x ∧ x.foldl depthAfter 0 = 0) ⟨fun ⟨h, h'⟩ => ⟨h, h'⟩, fun ⟨h, h'⟩ => ⟨h, h'⟩⟩

instance (x : List Char) : Decidable (Neat x) :=
  decidable_of_iff (x ≠ [] ∧ Tight x ∧ Whole x)
    ⟨fun ⟨h, h', h''⟩ => ⟨h, h', h''⟩, fun ⟨h, h', h''⟩ => ⟨h, h', h''⟩⟩

lemma splitCommas_pieces {x : List Char} {xs : List (List Char)} (hx : ',' ∉ x)
    (h : ∀ y ∈ xs, ',' ∉ y) : splitCommas (x ++ xs.flatMap (',' :: ·)) = (x, xs) := by
  have happend {x : List Char} (hx : ',' ∉ x) (y : List Char) :
      splitCommas (x ++ y) = (x ++ (splitCommas y).1, (splitCommas y).2) := by
    induction x with
    | nil => rfl
    | cons c x ih =>
      simp only [List.mem_cons, not_or] at hx
      rw [List.cons_append, splitCommas, ih hx.2]
      simp [Ne.symm hx.1]
  induction xs generalizing x with
  | nil =>
    rw [List.flatMap_nil, happend hx]
    simp [splitCommas]
  | cons y ys ih =>
    obtain ⟨hy, hys⟩ := List.forall_mem_cons.mp h
    rw [happend hx, List.flatMap_cons, List.cons_append, splitCommas, ih hy hys]
    simp

@[simp] lemma joined_singleton (x : List Char) : joined [x] = x := by simp [joined]

lemma joined_cons_cons (x y : List Char) (xs : List (List Char)) :
    joined (x :: y :: xs) = x ++ ([',', ' '] ++ joined (y :: xs)) := by
  simp [joined]

lemma joined_cons (x : List Char) (xs : List (List Char)) :
    joined (x :: xs) = x ++ (xs.map (' ' :: ·)).flatMap (',' :: ·) := by
  rw [joined, List.flatMap_map]

lemma mem_joined {c : Char} {xs : List (List Char)} (h : c ∈ joined xs) :
    c = ',' ∨ c = ' ' ∨ ∃ x ∈ xs, c ∈ x := by
  cases xs with
  | nil => simp [joined] at h
  | cons x xs =>
    rcases List.mem_append.mp h with h | h
    · exact .inr (.inr ⟨x, List.mem_cons_self, h⟩)
    · obtain ⟨y, hy, hc⟩ := List.mem_flatMap.mp h
      rcases List.mem_cons.mp hc with hc | hc
      · exact .inl hc
      rcases List.mem_cons.mp hc with hc | hc
      · exact .inr (.inl hc)
      · exact .inr (.inr ⟨y, List.mem_cons_of_mem x hy, hc⟩)

theorem columnNames_joined {xs : List (List Char)} (hne : xs ≠ []) (h : ∀ x ∈ xs, ',' ∉ x) :
    columnNames (joined xs) = xs.map Name.clean := by
  cases xs with
  | nil => exact absurd rfl hne
  | cons x xs =>
    obtain ⟨hx, hxs⟩ := List.forall_mem_cons.mp h
    have hpad : ∀ y ∈ xs.map (' ' :: ·), ',' ∉ y := by
      simpa using hxs
    have hclean : ∀ y, Name.clean (' ' :: y) = Name.clean y := fun y => by
      have htrim : trim (' ' :: y) = trim y := by
        rw [trim, skipBlanks_cons_of_blank y (by decide), trim]
      rw [Name.clean, Name.cleanChars, htrim]
      rfl
    rw [columnNames, joined_cons, splitCommas_pieces hx hpad]
    simp [hclean]

section Inside

variable {t : List Char}

lemma foldl_depthAfter_inside (ho : '(' ∉ t) (hc : ')' ∉ t) (d : Int) : t.foldl depthAfter d = d := by
  induction t with
  | nil => rfl
  | cons c t ih =>
    simp only [List.mem_cons, not_or] at ho hc
    rw [List.foldl_cons, depthAfter, if_neg (Ne.symm ho.1), if_neg (Ne.symm hc.1), ih ho.2 hc.2]

lemma uncut_inside (ho : '(' ∉ t) (hc : ')' ∉ t) {d : Int} (hd : d ≠ 0) : Uncut d t := by
  intro p hp
  have hsub : p ⊆ t := fun c hm => hp.subset (List.mem_append_left _ hm)
  rw [foldl_depthAfter_inside (fun h => ho (hsub h)) (fun h => hc (hsub h))]
  exact hd

lemma closes_inside (ho : '(' ∉ t) (hc : ')' ∉ t) : Closes 0 t := by
  induction t with
  | nil => simp
  | cons c t ih =>
    simp only [List.mem_cons, not_or] at ho hc
    exact (closes_cons (Ne.symm ho.1) (Ne.symm hc.1)).mpr (ih ho.2 hc.2)

end Inside

section Blanks

variable {b : List Char} (hb : Blanks b) (d : Int)

include hb

lemma uncut_blanks : Uncut d b := fun p hp => by
  have hcomma : ',' ∈ b := hp.subset (by simp)
  exact absurd (hb _ hcomma) (by decide)

lemma foldl_depthAfter_blanks : b.foldl depthAfter d = d :=
  foldl_depthAfter_inside (hb.not_mem (by decide)) (hb.not_mem (by decide)) d

lemma whole_blanks : Whole b := ⟨uncut_blanks hb 0, foldl_depthAfter_blanks hb 0⟩

lemma cutAtCommas_blanks (s : List Char) :
    cutAtCommas d (b ++ s) = (b ++ (cutAtCommas d s).1, (cutAtCommas d s).2) := by
  rw [cutAtCommas_append (uncut_blanks hb d), foldl_depthAfter_blanks hb]

end Blanks

lemma whole_run_iff {x w y : List Char} (hw : Blanks w) : Whole (x ++ (w ++ y)) ↔
    Uncut 0 x ∧ Uncut (x.foldl depthAfter 0) y ∧ y.foldl depthAfter (x.foldl depthAfter 0) = 0 := by
  have huncut : Uncut 0 (x ++ (w ++ y)) ↔ Uncut 0 x ∧ Uncut (x.foldl depthAfter 0) y := by
    rw [uncut_append, uncut_append, foldl_depthAfter_blanks hw, and_iff_right (uncut_blanks hw _)]
  have hfold : (x ++ (w ++ y)).foldl depthAfter 0 = y.foldl depthAfter (x.foldl depthAfter 0) := by
    rw [List.foldl_append, List.foldl_append, foldl_depthAfter_blanks hw]
  rw [← and_assoc, ← huncut, ← hfold]
  exact ⟨fun h => ⟨h.uncut, h.balanced⟩, fun h => ⟨h.1, h.2⟩⟩

lemma Whole.append {x y : List Char} (hx : Whole x) (hy : Whole y) : Whole (x ++ y) := by
  refine ⟨uncut_append.mpr ⟨hx.uncut, ?_⟩, ?_⟩
  · rw [hx.balanced]
    exact hy.uncut
  · rw [List.foldl_append, hx.balanced, hy.balanced]

lemma members_of_uncut {x : List Char} (h : Uncut 0 x) : members x = [trim x].filter (!·.isEmpty) := by
  have hcut : cutAtCommas 0 x = (x, []) := by simpa using cutAtCommas_append h []
  rw [members, hcut]
  rfl

lemma members_append_comma {x : List Char} (h : Whole x) (s : List Char) :
    members (x ++ ',' :: s) = [trim x].filter (!·.isEmpty) ++ members s := by
  rw [members, cutAtCommas_append h.uncut, h.balanced, cutAtCommas_comma, members, ← List.filter_append]
  simp

theorem members_of_listing {xs : List (List Char)} {body : List Char} (h : Listing xs body)
    (hxs : ∀ x ∈ xs, Neat x) : members body = xs := by
  have hfilter {x : List Char} (hx : Neat x) {a b : List Char} (ha : Blanks a) (hb : Blanks b) :
      [trim (a ++ (x ++ b))].filter (!·.isEmpty) = [x] := by
    rw [trim_append ha hx.tight hx.ne_nil hb]
    simp [hx.ne_nil]
  have hwhole {x : List Char} (hx : Neat x) {a b : List Char} (ha : Blanks a) (hb : Blanks b) :
      Whole (a ++ (x ++ b)) := (whole_blanks ha).append (hx.whole.append (whole_blanks hb))
  induction h with
  | @blank b hb =>
    have htrim : trim b = [] := by
      have hskip : skipBlanks (b ++ []) = [] := skipBlanks_append hb (bars_nil isBlank)
      rw [List.append_nil] at hskip
      rw [trim, hskip]
      rfl
    rw [members_of_uncut (uncut_blanks hb 0), htrim]
    rfl
  | last ha hb =>
    have hx := hxs _ List.mem_cons_self
    rw [members_of_uncut (hwhole hx ha hb).uncut, hfilter hx ha hb]
  | @cons a b x s xs ha hb _ ih =>
    obtain ⟨hx, hxs⟩ := List.forall_mem_cons.mp hxs
    have hsplit : a ++ (x ++ (b ++ ',' :: s)) = (a ++ (x ++ b)) ++ ',' :: s := by simp
    rw [hsplit, members_append_comma (hwhole hx ha hb), hfilter hx ha hb, ih hxs]
    rfl

lemma closes_append {d e : Nat} {x y : List Char} (hx : Closes d x) (hy : Closes e y) :
    Closes (d + e) (x ++ y) := by
  induction x generalizing d with
  | nil =>
    obtain rfl := closes_nil.mp hx
    simpa using hy
  | cons c x ih =>
    rw [List.cons_append]
    by_cases ho : c = '('
    · subst ho
      have hstep := ih (closes_open.mp hx)
      rw [Nat.add_right_comm] at hstep
      exact closes_open.mpr hstep
    by_cases hc : c = ')'
    · subst hc
      cases d with
      | zero => exact absurd hx not_closes_close
      | succ d =>
        rw [Nat.add_right_comm]
        exact closes_close.mpr (ih (closes_close.mp hx))
    · exact (closes_cons ho hc).mpr (ih ((closes_cons ho hc).mp hx))

lemma closes_joined {xs : List (List Char)} (h : ∀ x ∈ xs, Closes 0 x) : Closes 0 (joined xs) := by
  have hrest : ∀ ys : List (List Char), (∀ y ∈ ys, Closes 0 y) →
      Closes 0 (ys.flatMap fun y => ',' :: ' ' :: y) := by
    intro ys hys
    induction ys with
    | nil => simp
    | cons y ys ih =>
      obtain ⟨hy, hys⟩ := List.forall_mem_cons.mp hys
      have hpad : Closes 0 (',' :: ' ' :: y) := by
        rw [closes_cons (by decide) (by decide), closes_cons (by decide) (by decide)]
        exact hy
      exact closes_append hpad (ih hys)
  cases xs with
  | nil => simp [joined]
  | cons x xs =>
    obtain ⟨hx, hxs⟩ := List.forall_mem_cons.mp h
    exact closes_append hx (hrest xs hxs)

namespace Grouped

lemma append {x y : List Char} (hx : Grouped x) (hy : Grouped y) : Grouped (x ++ y) := by
  induction hx with
  | nil => exact hy
  | cons ho hc hs _ ih => exact .cons ho hc hs ih
  | group ho hc _ ih => simpa using Grouped.group ho hc ih

lemma of_flat {x : List Char} (ho : '(' ∉ x) (hc : ')' ∉ x) (hs : ',' ∉ x) : Grouped x := by
  induction x with
  | nil => exact .nil
  | cons c x ih =>
    simp only [List.mem_cons, not_or] at ho hc hs
    exact .cons (Ne.symm ho.1) (Ne.symm hc.1) (Ne.symm hs.1) (ih ho.2 hc.2 hs.2)

lemma whole {x : List Char} (h : Grouped x) : Whole x := by
  induction h with
  | nil => exact ⟨uncut_nil 0, rfl⟩
  | @cons c s ho hc hs _ ih =>
    have hstep : depthAfter 0 c = 0 := by simp [depthAfter, ho, hc]
    refine ⟨uncut_cons.mpr ⟨fun h => absurd h hs, ?_⟩, ?_⟩
    · rw [hstep]
      exact ih.uncut
    · rw [List.foldl_cons, hstep]
      exact ih.balanced
  | @group t s ho hc _ ih =>
    have hopen : depthAfter 0 '(' = 1 := rfl
    have hclose : depthAfter 1 ')' = 0 := rfl
    refine ⟨?_, ?_⟩
    · rw [uncut_cons, hopen, uncut_append, foldl_depthAfter_inside ho hc, uncut_cons, hclose]
      exact ⟨by simp, uncut_inside ho hc (by decide), by simp, ih.uncut⟩
    · rw [List.foldl_cons, hopen, List.foldl_append, foldl_depthAfter_inside ho hc, List.foldl_cons,
        hclose]
      exact ih.balanced

lemma closes {x : List Char} (h : Grouped x) : Closes 0 x := by
  induction h with
  | nil => simp
  | cons ho hc _ _ ih => exact (closes_cons ho hc).mpr ih
  | group ho hc _ ih =>
    have hrest := closes_close.mpr ih
    exact closes_open.mpr (by simpa using closes_append (closes_inside ho hc) hrest)

end Grouped

def pieces (d : Int) (s : List Char) : List (List Char) := (cutAtCommas d s).1 :: (cutAtCommas d s).2

def kept (xs : List (List Char)) : List (List Char) := (xs.map trim).filter (!·.isEmpty)

lemma members_eq (body : List Char) : members body = kept (pieces 0 body) := rfl

lemma kept_append (xs ys : List (List Char)) : kept (xs ++ ys) = kept xs ++ kept ys := by simp [kept]

lemma kept_cons (x : List Char) (xs : List (List Char)) :
    kept (x :: xs) = [trim x].filter (!·.isEmpty) ++ kept xs :=
  kept_append [x] xs

lemma pieces_cons (d : Int) (c : Char) (s : List Char) : pieces d (c :: s) =
    if c = ',' ∧ d = 0 then [] :: pieces (depthAfter d c) s
    else (c :: (cutAtCommas (depthAfter d c) s).1) :: (cutAtCommas (depthAfter d c) s).2 := by
  by_cases h : c = ',' ∧ d = 0
  · simp [pieces, cutAtCommas, h]
  · simp [pieces, cutAtCommas, h]

lemma cutAtCommas_prefix (d : Int) (s : List Char) : (cutAtCommas d s).1 <+: s := by
  induction s generalizing d with
  | nil => exact List.prefix_rfl
  | cons c s ih =>
    have hcons := pieces_cons d c s
    split at hcons
    · rw [(List.cons.inj hcons).1]
      exact List.nil_prefix
    · rw [(List.cons.inj hcons).1]
      exact List.cons_prefix_cons.mpr ⟨rfl, ih _⟩

lemma pieces_append (d : Int) (x : List Char) : ∃ init last, last <:+ x ∧ (init = [] → last = x) ∧
    ∀ s, pieces d (x ++ s) = init ++ (last ++ (cutAtCommas (x.foldl depthAfter d) s).1) ::
      (cutAtCommas (x.foldl depthAfter d) s).2 := by
  induction x generalizing d with
  | nil => exact ⟨[], [], List.suffix_rfl, fun _ => rfl, fun _ => rfl⟩
  | cons c x ih =>
    obtain ⟨init, last, hlast, hinit, happend⟩ := ih (depthAfter d c)
    simp only [List.cons_append, pieces_cons, List.foldl_cons]
    by_cases hcut : c = ',' ∧ d = 0
    · refine ⟨[] :: init, last, hlast.trans (List.suffix_cons c x), by simp, fun s => ?_⟩
      rw [if_pos hcut, happend]
      rfl
    · simp only [if_neg hcut]
      cases init with
      | nil =>
        obtain rfl := hinit rfl
        refine ⟨[], c :: last, List.suffix_rfl, fun _ => rfl, fun s => ?_⟩
        obtain ⟨hhead, htail⟩ := List.cons.inj (happend s)
        rw [hhead, htail]
        rfl
      | cons i init =>
        refine ⟨(c :: i) :: init, last, hlast.trans (List.suffix_cons c x), by simp, fun s => ?_⟩
        obtain ⟨hhead, htail⟩ := List.cons.inj (happend s)
        rw [hhead, htail]
        rfl

theorem members_run (pre post : List Char) : ∃ before after,
    (∀ w, Gap w → members (pre ++ (w ++ post)) = before ++ after) ∨
    ∃ x y, x <:+ pre ∧ y <+: post ∧
      ∀ w, Gap w → members (pre ++ (w ++ post)) = before ++ (x ++ (w ++ y)) :: after := by
  -- the gap stands inside one member or between two of them
  obtain ⟨init, last, hlast, -, happend⟩ := pieces_append 0 pre
  have hpiece := cutAtCommas_prefix (pre.foldl depthAfter 0) post
  have hcut {w : List Char} (hw : Gap w) := cutAtCommas_blanks hw.2 (pre.foldl depthAfter 0) post
  generalize cutAtCommas (pre.foldl depthAfter 0) post = cut at hpiece hcut
  obtain ⟨piece, rest⟩ := cut
  have hmembers {w : List Char} (hw : Gap w) : members (pre ++ (w ++ post)) =
      kept init ++ ([trim (last ++ (w ++ piece))].filter (!·.isEmpty) ++ kept rest) := by
    rw [members_eq, happend, hcut hw, kept_append, kept_cons]
  rcases trim_run last piece with ⟨t, ht⟩ | ⟨x, y, hne, hx, hy, htrim⟩
  · refine ⟨kept init, [t].filter (!·.isEmpty) ++ kept rest, .inl fun w hw => ?_⟩
    rw [hmembers hw, ht w hw]
  · refine ⟨kept init, kept rest, .inr ⟨x, y, hx.trans hlast, hy.trans hpiece, fun w hw => ?_⟩⟩
    rw [hmembers hw, htrim w hw, List.filter_cons_of_pos (by simp [hne]), List.filter_nil, List.singleton_append]

end SchemaAtlas.Ddl
