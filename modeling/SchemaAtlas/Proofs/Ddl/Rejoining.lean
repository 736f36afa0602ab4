import SchemaAtlas.Proofs.Ddl.Region
import SchemaAtlas.Proofs.Ddl.Splitting

/-! Members that are joined by commas are the members of the joined text, and so are the members of any body. -/

namespace SchemaAtlas.Ddl

open SchemaAtlas.Text

/-- A text that can stand in a list as a member: it is trimmed, it has as many parentheses of either kind,
and each comma stands where their numbers differ. -/
structure SelfContained (x : List Char) : Prop where
  ne_nil : x ≠ []
  tight : Tight x
  balanced : x.count '(' = x.count ')'
  commas : ∀ p, p ++ [','] <+: x → p.count '(' ≠ p.count ')'

def withoutCuts (before : List Char) : List Char → List Char
  | [] => []
  | c :: s =>
    if c = ',' ∧ before.count '(' = before.count ')' then withoutCuts (before ++ [c]) s
    else c :: withoutCuts (before ++ [c]) s

/-- Members that stay apart when they are joined. The last one may leave parentheses open or close too many. -/
inductive Separate : List (List Char) → Prop
  | nil : Separate []
  | last {x : List Char} : x ≠ [] → Tight x → Uncut 0 x → Separate [x]
  | cons {x : List Char} {xs : List (List Char)} : Neat x → Separate xs → Separate (x :: xs)

inductive CutFrom : Int → List (List Char) → Prop
  | last {d : Int} {x : List Char} : Uncut d x → CutFrom d [x]
  | cons {d : Int} {x : List Char} {xs : List (List Char)} : Uncut d x → x.foldl depthAfter d = 0 → CutFrom 0 xs →
      CutFrom d (x :: xs)

lemma foldl_depthAfter_eq_zero_iff {x : List Char} : x.foldl depthAfter 0 = 0 ↔ x.count '(' = x.count ')' := by
  rw [Statement.foldl_depthAfter]
  omega

lemma neat_iff {x : List Char} : Neat x ↔ SelfContained x := by
  constructor
  · rintro ⟨hne, ht, huncut, hbalanced⟩
    exact ⟨hne, ht, foldl_depthAfter_eq_zero_iff.mp hbalanced, fun p hp =>
      mt foldl_depthAfter_eq_zero_iff.mpr (huncut p hp)⟩
  · rintro ⟨hne, ht, hbalanced, hcommas⟩
    exact ⟨hne, ht, fun p hp => mt foldl_depthAfter_eq_zero_iff.mp (hcommas p hp),
      foldl_depthAfter_eq_zero_iff.mpr hbalanced⟩

instance (x : List Char) : Decidable (SelfContained x) := decidable_of_iff _ neat_iff

lemma members_blanks_append {b : List Char} (hb : Blanks b) (s : List Char) : members (b ++ s) = members s := by
  have htrim (x : List Char) : trim (b ++ x) = trim x := by rw [trim, skipBlanks_blanks hb, trim]
  simp only [members_eq, pieces, cutAtCommas_blanks hb, kept_cons, htrim]

theorem members_intercalate {a b : List Char} (ha : Blanks a) (hb : Blanks b) {xs : List (List Char)}
    (h : Separate xs) : members ((a ++ ',' :: b).intercalate xs) = xs := by
  have hfilter {x : List Char} (hne : x ≠ []) : [x].filter (!·.isEmpty) = [x] := by simp [hne]
  induction h with
  | nil => rfl
  | last hne ht huncut => rw [List.intercalate_singleton, members_of_uncut huncut, ht.trim, hfilter hne]
  | @cons x xs hx hxs ih =>
    have htrim : trim (x ++ a) = x := trim_append blanks_nil hx.tight hx.ne_nil ha
    cases xs with
    | nil => rw [List.intercalate_singleton, members_of_uncut hx.whole.uncut, hx.tight.trim, hfilter hx.ne_nil]
    | cons y ys =>
      have hsplit : (a ++ ',' :: b).intercalate (x :: y :: ys) =
          (x ++ a) ++ ',' :: (b ++ (a ++ ',' :: b).intercalate (y :: ys)) := by
        rw [List.intercalate_cons_cons]
        simp
      rw [hsplit, members_append_comma (hx.whole.append (whole_blanks ha)), htrim, hfilter hx.ne_nil,
        members_blanks_append hb, ih, List.singleton_append]

lemma Separate.of_forall {xs : List (List Char)} (h : ∀ x ∈ xs, Neat x) : Separate xs := by
  induction xs with
  | nil => exact .nil
  | cons x xs ih =>
    obtain ⟨hx, hxs⟩ := List.forall_mem_cons.mp h
    exact .cons hx (ih hxs)

lemma joined_eq_intercalate (xs : List (List Char)) : joined xs = [',', ' '].intercalate xs := by
  cases xs with
  | nil => rfl
  | cons x xs =>
    induction xs generalizing x with
    | nil => simp
    | cons y ys ih => rw [joined_cons_cons, ih, List.intercalate_cons_cons, List.append_assoc]

theorem members_joined {xs : List (List Char)} (h : ∀ x ∈ xs, Neat x) : members (joined xs) = xs := by
  rw [joined_eq_intercalate]
  exact members_intercalate (a := []) (b := [' ']) blanks_nil (by decide) (.of_forall h)

lemma cutFrom_pieces (d : Int) (s : List Char) : CutFrom d (pieces d s) := by
  induction s generalizing d with
  | nil => exact .last (uncut_nil d)
  | cons c s ih =>
    have hrest := ih (depthAfter d c)
    rw [pieces_cons]
    split
    · next hcut =>
      obtain ⟨rfl, rfl⟩ := hcut
      exact .cons (uncut_nil 0) rfl hrest
    · next hcut =>
      have hstep : c = ',' → d ≠ 0 := not_and.mp hcut
      rw [pieces] at hrest
      generalize cutAtCommas (depthAfter d c) s = cut at hrest
      obtain ⟨piece, rest⟩ := cut
      cases hrest with
      | last hx => exact .last (uncut_cons.mpr ⟨hstep, hx⟩)
      | cons hx hzero hxs => exact .cons (uncut_cons.mpr ⟨hstep, hx⟩) hzero hxs

lemma uncut_trim {x : List Char} (h : Uncut 0 x) : Uncut 0 (trim x) := by
  obtain ⟨a, b, ha, hb, hx⟩ := exists_margins x
  rw [hx, uncut_append, foldl_depthAfter_blanks ha, uncut_append] at h
  exact h.2.1

lemma foldl_depthAfter_trim (x : List Char) : (trim x).foldl depthAfter 0 = x.foldl depthAfter 0 := by
  obtain ⟨a, b, ha, hb, hx⟩ := exists_margins x
  conv_rhs => rw [hx, List.foldl_append, foldl_depthAfter_blanks ha, List.foldl_append, foldl_depthAfter_blanks hb]

lemma separate_kept {xs : List (List Char)} (h : CutFrom 0 xs) : Separate (kept xs) := by
  -- only the first piece can begin at another count, and here it does not
  generalize hd : (0 : Int) = d at h
  induction h with
  | @last d x hx =>
    subst hd
    by_cases hne : trim x = []
    · simpa [kept, hne] using Separate.nil
    · simpa [kept, hne] using Separate.last hne (tight_trim x) (uncut_trim hx)
  | @cons d x xs hx hzero _ ih =>
    subst hd
    rw [kept_cons]
    by_cases hne : trim x = []
    · simpa [hne] using ih rfl
    · have hwhole : Whole (trim x) := ⟨uncut_trim hx, (foldl_depthAfter_trim x).trans hzero⟩
      simpa [hne] using Separate.cons ⟨hne, tight_trim x, hwhole⟩ (ih rfl)

lemma separate_members (body : List Char) : Separate (members body) := by
  rw [members_eq]
  exact separate_kept (cutFrom_pieces 0 body)

lemma Separate.ne_nil_and_tight {xs : List (List Char)} (h : Separate xs) : ∀ x ∈ xs, x ≠ [] ∧ Tight x := by
  induction h with
  | nil => simp
  | last hne ht _ => simpa using ⟨hne, ht⟩
  | cons hx _ ih => exact List.forall_mem_cons.mpr ⟨⟨hx.ne_nil, hx.tight⟩, ih⟩

lemma flatten_pieces (before s : List Char) :
    (pieces (before.foldl depthAfter 0) s).flatten = withoutCuts before s := by
  induction s generalizing before with
  | nil => rfl
  | cons c s ih =>
    have hrest := ih (before ++ [c])
    rw [List.foldl_append, List.foldl_cons, List.foldl_nil] at hrest
    simp only [pieces_cons, withoutCuts, foldl_depthAfter_eq_zero_iff, ← hrest]
    split <;> rfl

lemma filter_flatten_kept (xs : List (List Char)) :
    (kept xs).flatten.filter (!isBlank ·) = xs.flatten.filter (!isBlank ·) := by
  induction xs with
  | nil => rfl
  | cons x xs ih =>
    rw [kept_cons, List.flatten_append, List.filter_append, ih, List.flatten_cons, List.filter_append,
      ← filter_trim x]
    by_cases hne : trim x = [] <;> simp [hne]

/-- Cutting undoes joining. The members of any body are trimmed and not empty, they hold all of it but
blanks and the commas that cut it, and joining and cutting them once more changes nothing. -/
theorem members_normal_form :
    (∀ (xs : List (List Char)) (a b : List Char), (∀ x ∈ xs, SelfContained x) → Blanks a → Blanks b →
      members ((a ++ ',' :: b).intercalate xs) = xs) ∧
    ∀ body, (∀ x ∈ members body, x ≠ [] ∧ Tight x) ∧
      (members body).flatten.filter (!isBlank ·) = (withoutCuts [] body).filter (!isBlank ·) ∧
      members ([','].intercalate (members body)) = members body := by
  refine ⟨fun xs a b hxs ha hb => ?_, fun body => ⟨(separate_members body).ne_nil_and_tight, ?_, ?_⟩⟩
  · exact members_intercalate ha hb (.of_forall fun x hx => neat_iff.mpr (hxs x hx))
  · rw [members_eq, filter_flatten_kept]
    exact congrArg _ (flatten_pieces [] body)
  · exact members_intercalate blanks_nil blanks_nil (separate_members body)

theorem members_normal_form_nested :
    members "A NUMBER(1, 2) ,\tCHECK (B IN (1,2)) ,\tC DATE".toList =
      ["A NUMBER(1, 2)".toList, "CHECK (B IN (1,2))".toList, "C DATE".toList] :=
  members_normal_form.1 ["A NUMBER(1, 2)".toList, "CHECK (B IN (1,2))".toList, "C DATE".toList] [' '] ['\t']
    (by decide +kernel) (by decide) (by decide)

end SchemaAtlas.Ddl
