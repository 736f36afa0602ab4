import Mathlib.Data.List.DropRight
import Mathlib.Tactic.Common
import SchemaAtlas.Text.Lines

/-! Lines are read back from a text by cutting it at its line ends, and the end of a text from its last
mark on by itself. -/

namespace SchemaAtlas.Text

lemma toString_text (t : String) : toString t = t := rfl

lemma toList_unlines_cons (line : String) (lines : List String) :
    (unlines (line :: lines)).toList = line.toList ++ '\n' :: (unlines lines).toList := by
  rw [unlines_cons, String.append_assoc, String.toList_append, String.toList_append]
  rfl

lemma cutAt_unlines {lines : List String} (h : ∀ line ∈ lines, '\n' ∉ line.toList) :
    cutAt '\n' (unlines lines).toList = lines.map String.toList ++ [[]] := by
  induction lines with
  | nil => rfl
  | cons line lines ih =>
    obtain ⟨hline, hlines⟩ := List.forall_mem_cons.mp h
    rw [toList_unlines_cons, cutAt_append hline, ih hlines]
    rfl

lemma not_mem_unlines {c : Char} (hc : c ≠ '\n') {lines : List String}
    (h : ∀ line ∈ lines, c ∉ line.toList) : c ∉ (unlines lines).toList := by
  induction lines with
  | nil => simp
  | cons line lines ih =>
    obtain ⟨hline, hlines⟩ := List.forall_mem_cons.mp h
    rw [toList_unlines_cons]
    simp [hline, hc, ih hlines]

lemma exists_cutAt_cons {k c : Char} (hc : c ≠ k) (s : List Char) :
    ∃ w ws, cutAt k (c :: s) = (c :: w) :: ws := by
  rw [cutAt, if_neg hc]
  cases cutAt k s with
  | nil => exact ⟨[], [], rfl⟩
  | cons w ws => exact ⟨w, ws, rfl⟩

lemma cutAt_append_cons (k : Char) (s t : List Char) : cutAt k (s ++ k :: t) = cutAt k s ++ cutAt k t := by
  induction s with
  | nil => exact cutAt_self k t
  | cons c s ih =>
    rw [List.cons_append, cutAt, cutAt, ih]
    split
    · rfl
    · cases hs : cutAt k s with
      | nil => exact absurd hs (cutAt_ne_nil k s)
      | cons w ws => rfl

lemma cutOnce_append {k : Char} {x : List Char} (h : k ∉ x) (s : List Char) :
    cutOnce k (x ++ k :: s) = (x, some s) := by
  have hx : ∀ c ∈ x, (c != k) = true := fun c hc => by simpa using ne_of_mem_of_not_mem hc h
  have hk : (k != k) = false := by simp
  rw [cutOnce, List.dropWhile_append_of_pos hx, List.dropWhile_cons_of_neg (by simp),
    List.takeWhile_append_of_pos hx, List.takeWhile_cons_of_neg (by simp), List.append_nil]

lemma toList_joinWith_cons (separator part : String) (parts : List String) :
    (joinWith separator (part :: parts)).toList =
      part.toList ++ parts.flatMap fun part => separator.toList ++ part.toList := by
  induction parts generalizing part with
  | nil => simp [joinWith]
  | cons other parts ih =>
    rw [joinWith, String.intercalate_cons_cons, String.toList_append, String.toList_append, ← joinWith, ih,
      List.flatMap_cons]
    simp only [List.append_assoc]

lemma map_cutAt_joinWith {β : Type} {f : List Char → β} {g : String → β} {margin : List Char → Prop} {k : Char}
    {separator : String} {a b : List Char} (hseparator : separator.toList = a ++ k :: b)
    (hmargin : ∀ x, margin x → k ∉ x) (ha : margin a) (hb : margin b) {parts : List String} (hne : parts ≠ [])
    (h : ∀ part ∈ parts, k ∉ part.toList ∧ ∀ x y, margin x → margin y → f (x ++ (part.toList ++ y)) = g part)
    {x y : List Char} (hx : margin x) (hy : margin y) :
    (cutAt k (x ++ ((joinWith separator parts).toList ++ y))).map f = parts.map g := by
  induction parts generalizing x with
  | nil => exact absurd rfl hne
  | cons part parts ih =>
    obtain ⟨⟨hk, hread⟩, hparts⟩ := List.forall_mem_cons.mp h
    have hpiece {z : List Char} (hz : margin z) : k ∉ x ++ (part.toList ++ z) := by
      simp [hmargin x hx, hk, hmargin z hz]
    cases parts with
    | nil =>
      have hone : joinWith separator [part] = part := by simp [joinWith]
      rw [hone, cutAt_of_not_mem (hpiece hy), List.map_singleton, hread x y hx hy, List.map_singleton]
    | cons other parts =>
      have hsplit : x ++ ((joinWith separator (part :: other :: parts)).toList ++ y) =
          (x ++ (part.toList ++ a)) ++ k :: (b ++ ((joinWith separator (other :: parts)).toList ++ y)) := by
        simp [joinWith, String.intercalate_cons_cons, hseparator]
      rw [hsplit, cutAt_append (hpiece ha), List.map_cons, hread x a hx ha, ih (List.cons_ne_nil _ _) hparts hb]
      rfl

lemma forall_mem_joinWith {p : Char → Prop} {separator : String} (hs : ∀ c ∈ separator.toList, p c)
    {parts : List String} (h : ∀ part ∈ parts, ∀ c ∈ part.toList, p c) :
    ∀ c ∈ (joinWith separator parts).toList, p c := by
  induction parts with
  | nil => exact fun c hc => absurd hc List.not_mem_nil
  | cons part parts ih =>
    obtain ⟨hpart, hparts⟩ := List.forall_mem_cons.mp h
    cases parts with
    | nil => simpa [joinWith] using hpart
    | cons other parts =>
      rw [joinWith, String.intercalate_cons_cons, String.toList_append, String.toList_append]
      exact List.forall_mem_append.mpr ⟨List.forall_mem_append.mpr ⟨hpart, hs⟩, ih hparts⟩

lemma forall_mem_commas {p : Char → Prop} (hcomma : p ',') (hblank : p ' ') {names : List String}
    (h : ∀ name ∈ names, ∀ c ∈ name.toList, p c) : ∀ c ∈ (commas names).toList, p c := by
  have hseparator : ", ".toList = [',', ' '] := by decide
  exact forall_mem_joinWith (by simp [hseparator, hcomma, hblank]) h

def behindFirst (k : Char) (s : List Char) : List Char := (cutOnce k s).2.getD []

lemma behindFirst_append {k : Char} {x : List Char} (h : k ∉ x) (s : List Char) :
    behindFirst k (x ++ k :: s) = s := by
  rw [behindFirst, cutOnce_append h, Option.getD_some]

def behindLast (k : Char) (s : List Char) : List Char := s.rtakeWhile (· != k)

lemma behindLast_append {k : Char} {t : List Char} (h : k ∉ t) (s : List Char) :
    behindLast k (s ++ k :: t) = t := by
  have hall : ∀ c ∈ t.reverse, (c != k) = true := by
    intro c hc
    simpa using ne_of_mem_of_not_mem (List.mem_reverse.mp hc) h
  rw [behindLast, List.rtakeWhile, List.reverse_append, List.reverse_cons, List.append_assoc,
    List.takeWhile_append_of_pos hall]
  simp

end SchemaAtlas.Text
