import SchemaAtlas.Proofs.Ddl.AddedKeyForm
import SchemaAtlas.Proofs.Ddl.Scan

/-! A dump that is cut short. What is read before the cut is read from the whole dump as well, in the
same order and with nothing between. -/

namespace SchemaAtlas

open SchemaAtlas.Text SchemaAtlas.Ddl

section Patterns

variable {α : Type}

structure Text.Pattern.Local (p : Pattern α) : Prop where
  read_append : ∀ {s r : List Char} {a : α} (y : List Char),
    p.read s = some (a, r) → p.read (s ++ y) = some (a, r ++ y)
  all_eq_nil : ∀ {s y : List Char}, p.read s = none → p.read (s ++ y) ≠ none → p.all s = []

theorem Text.Pattern.Local.all_prefix {p : Pattern α} (h : p.Local) (s y : List Char) :
    p.all s <+: p.all (s ++ y) := by
  fun_induction p.all s with
  | case1 => exact List.nil_prefix
  | case2 c s a r hr _ ih =>
    have hy := h.read_append y hr
    rw [List.cons_append] at hy ⊢
    rw [Pattern.all_cons_of_read hy]
    exact List.cons_prefix_cons.mpr ⟨rfl, ih⟩
  | case3 c s hr ih =>
    by_cases hy : p.read (c :: s ++ y) = none
    · rw [List.cons_append] at hy ⊢
      rwa [Pattern.all_cons_of_none hy]
    · have hnil := h.all_eq_nil hr hy
      rw [Pattern.all_cons_of_none hr] at hnil
      rw [hnil]
      exact List.nil_prefix

lemma Text.Pattern.exists_read_of_all_ne_nil {p : Pattern α} {s : List Char} (h : p.all s ≠ []) :
    ∃ x d a r, s = x ++ d ∧ p.read d = some (a, r) := by
  by_contra hnone
  apply h
  have hpass : Passes p.read s [] := by
    intro d ⟨x, hx⟩ _
    rw [List.append_nil]
    by_contra hd
    obtain ⟨⟨a, r⟩, hr⟩ := Option.ne_none_iff_exists'.mp hd
    exact hnone ⟨x, d, a, r, hx.symm, hr⟩
  simpa using Pattern.all_of_passes hpass

end Patterns

namespace Statement

lemma head_append {s token r : List Char} (h : head s = some (token, r)) (y : List Char) :
    head (s ++ y) = some (token, r ++ y) := by
  obtain ⟨g, rfl, rfl⟩ := exists_heading h
  rw [List.append_assoc, head_text]

lemma untilDelimiter_append_right {s t r : List Char} (h : untilDelimiter s = some (t, r))
    (y : List Char) : untilDelimiter (s ++ y) = some (t, r ++ y) := by
  obtain ⟨ht, rfl⟩ := untilDelimiter_eq_some.mp h
  exact untilDelimiter_eq_some.mpr ⟨ht, by simp⟩

lemma scan_eq_nil {s : List Char} (h : '(' ∉ s) : scan s = [] := by
  have hpass : Passes head s [] := by
    intro d hd _
    by_contra hne
    obtain ⟨⟨token, r⟩, hr⟩ := Option.ne_none_iff_exists'.mp hne
    obtain ⟨g, _, hg⟩ := exists_heading hr
    obtain ⟨u, _, hu⟩ := g.exists_eq_concat
    rw [List.append_nil] at hg
    exact h (hd.subset (by simp [hg, hu]))
  rw [← List.append_nil s, scan_of_passes hpass, scan]

lemma scan_eq_nil_of_cut {s y : List Char} (h : head s = none) (hy : head (s ++ y) ≠ none) :
    scan s = [] := by
  -- a heading that reaches beyond the cut has no parenthesis before it
  obtain ⟨⟨token, r⟩, hr⟩ := Option.ne_none_iff_exists'.mp hy
  obtain ⟨g, _, hg⟩ := exists_heading hr
  obtain ⟨u, hu, hgu⟩ := g.exists_eq_concat
  rw [hgu, List.append_assoc] at hg
  rcases List.append_eq_append_iff.mp hg with ⟨a, rfl, _⟩ | ⟨a, rfl, ha⟩
  · exact scan_eq_nil fun hm => hu (List.mem_append_left a hm)
  · cases a with
    | nil => exact scan_eq_nil (by simpa using hu)
    | cons c a =>
      obtain ⟨rfl, rfl⟩ := List.cons.inj ha
      have hread := head_text g a
      rw [hgu, List.append_assoc, List.singleton_append, h] at hread
      exact absurd hread.symm (Option.some_ne_none _)

theorem scan_prefix (s y : List Char) : scan s <+: scan (s ++ y) := by
  fun_induction scan s with
  | case1 => exact List.nil_prefix
  | case2 c s h ih =>
    by_cases hy : head (c :: s ++ y) = none
    · rw [List.cons_append] at hy ⊢
      rwa [scan_of_none hy]
    · have hnil := scan_eq_nil_of_cut h hy
      rw [scan_of_none h] at hnil
      rw [hnil]
      exact List.nil_prefix
  | case3 => exact List.nil_prefix
  | case4 c s token inside h text rest hu _ body hb ih =>
    rw [scan_of_delimited (head_append h y) (untilDelimiter_append_right hu y), hb]
    exact List.cons_prefix_cons.mpr ⟨rfl, ih⟩
  | case5 c s token inside h text rest hu _ hb ih =>
    rwa [scan_of_delimited (head_append h y) (untilDelimiter_append_right hu y), hb]

end Statement

namespace Ddl.AddedKey

lemma read_append {s r : List Char} {k : ForeignKey} (y : List Char) (h : read s = some (k, r)) :
    read (s ++ y) = some (k, r ++ y) := by
  obtain ⟨a, rfl, rfl⟩ := exists_form h
  rw [List.append_assoc, read_text]

theorem pattern_local : pattern.Local where
  read_append y h := read_append y h
  all_eq_nil := by
    intro s y h hy
    change read s = none at h
    change read (s ++ y) ≠ none at hy
    by_contra hall
    obtain ⟨⟨k, r⟩, hr⟩ := Option.ne_none_iff_exists'.mp hy
    obtain ⟨a, _, ha⟩ := exists_form hr
    obtain ⟨x, d, k', r', rfl, hd⟩ := Pattern.exists_read_of_all_ne_nil hall
    obtain ⟨b, _, rfl⟩ := exists_form hd
    rcases List.append_eq_append_iff.mp ha with ⟨t, ht, _⟩ | ⟨t, ht, _⟩
    -- the statement read across the cut holds one that is read before it
    · have hx : x ≠ [] := by
        rintro rfl
        rw [List.nil_append, read_text] at h
        exact Option.some_ne_none _ h
      have hnil : r' ++ t = [] := Form.eq_nil_of_inside (by simpa using ht) hx
      obtain ⟨rfl, rfl⟩ := List.append_eq_nil_iff.mp hnil
      rw [List.append_nil] at ht
      rw [← ht, ← List.append_nil a.text, read_text] at h
      exact Option.some_ne_none _ h
    · rw [ht, read_text] at h
      exact Option.some_ne_none _ h

end Ddl.AddedKey

/-- A dump that is cut short declares a beginning of what the whole dump declares. -/
theorem scans_prefix (dump cut : List Char) :
    Statement.scan dump <+: Statement.scan (dump ++ cut) ∧
      AddedKey.scan dump <+: AddedKey.scan (dump ++ cut) :=
  ⟨Statement.scan_prefix dump cut, AddedKey.pattern_local.all_prefix dump cut⟩

end SchemaAtlas
