import Mathlib.Tactic.Common
import SchemaAtlas.Ddl.Name
import SchemaAtlas.Proofs.Text.Spacing

/-! Names over letters, digits and the low line. Cleaning goes through an identifier several times, and
yet it treats each character on its own: it leads to such names, and leaves them and only them as they
are. -/

namespace SchemaAtlas.Name

open SchemaAtlas.Text

def Clean (name : String) : Prop := ∀ c ∈ name.toList, isNameChar c = true

instance (name : String) : Decidable (Clean name) := List.decidableBAll _ name.toList

lemma Clean.not_mem {name : String} (h : Clean name) {c : Char} (hc : isNameChar c = false) :
    c ∉ name.toList := by
  intro hm
  rw [h c hm] at hc
  exact Bool.false_ne_true hc.symm

lemma clean_ofList_cleanChars (s : List Char) : Clean (String.ofList (cleanChars s)) := by
  intro c hc
  rw [String.toList_ofList] at hc
  exact isNameChar_of_mem_cleanChars hc

lemma clean_clean (s : List Char) : Clean (clean s) := clean_ofList_cleanChars s

lemma toNat_of_isNameChar {c : Char} (h : isNameChar c = true) : 48 ≤ c.toNat ∧ c.toNat ≤ 122 := by
  change (((decide (c.val ≥ 'A'.val ∧ c.val ≤ 'Z'.val) ||
      (decide (c.val ≥ 'a'.val) && decide (c.val ≤ 'z'.val))) ||
    (decide (c.val ≥ '0'.val) && decide (c.val ≤ '9'.val))) || c == '_') = true at h
  simp only [Bool.or_eq_true, Bool.and_eq_true, decide_eq_true_eq, beq_iff_eq, ge_iff_le,
    UInt32.le_iff_toNat_le] at h
  change (((65 ≤ c.toNat ∧ c.toNat ≤ 90) ∨ 97 ≤ c.toNat ∧ c.toNat ≤ 122) ∨
    48 ≤ c.toNat ∧ c.toNat ≤ 57) ∨ c = '_' at h
  rcases h with h | rfl
  · omega
  · decide

lemma isBlank_of_isNameChar {c : Char} (h : isNameChar c = true) : isBlank c = false := by
  obtain ⟨hlow, hhigh⟩ := toNat_of_isNameChar h
  by_contra hblank
  simp only [isBlank, Bool.not_eq_false, Bool.or_eq_true, Bool.and_eq_true, decide_eq_true_eq, beq_iff_eq]
    at hblank
  omega

lemma toNat_of_isQuote {c : Char} (h : isQuote c = true) : 33 ≤ c.toNat ∧ c.toNat ≤ 126 := by
  simp only [isQuote, Bool.or_eq_true, beq_iff_eq] at h
  rcases h with ((rfl | rfl) | rfl) | rfl <;> decide

def cleanChar (c : Char) : List Char :=
  if isQuote c then []
  else if c == '#' then ['_', 'N', 'U', 'M']
  else if isNameChar c then [c]
  else ['_']

@[simp] lemma substitute_nil (p : Char → Bool) (w : List Char) : substitute p w [] = [] := rfl

lemma substitute_singleton (p : Char → Bool) (w : List Char) (c : Char) :
    substitute p w [c] = if p c then w else [c] := List.flatMap_singleton ..

lemma substitute_flatMap (p : Char → Bool) (w : List Char) (f : Char → List Char) (s : List Char) :
    substitute p w (s.flatMap f) = s.flatMap fun c => substitute p w (f c) := List.flatMap_assoc

lemma substitute_cleanChar (c : Char) :
    substitute (!isNameChar ·) ['_'] (substitute (· == '#') ['_', 'N', 'U', 'M']
      (substitute (· == '.') ['_'] (if isQuote c then [] else [c]))) = cleanChar c := by
  -- a character that one pass puts in is a name character, which no later pass looks for
  by_cases hquote : isQuote c = true
  · simp [cleanChar, hquote]
  by_cases hdot : c = '.'
  · subst hdot
    rfl
  by_cases hsharp : c = '#'
  · subst hsharp
    rfl
  cases hname : isNameChar c <;> simp [cleanChar, substitute_singleton, hquote, hdot, hsharp, hname]

lemma cleanChars_eq (s : List Char) : cleanChars s = (trim s).flatMap cleanChar := by
  have hunquoted : substitute isQuote [] (trim s) = (trim s).flatMap fun c => if isQuote c then [] else [c] := rfl
  rw [cleanChars, hunquoted]
  simp only [substitute_flatMap, substitute_cleanChar]

lemma cleanChar_of_isNameChar {c : Char} (h : isNameChar c = true) : cleanChar c = [c] := by
  have hquote : isQuote c = false := by
    by_contra hq
    simp only [isQuote, Bool.not_eq_false, Bool.or_eq_true, beq_iff_eq] at hq
    rcases hq with ((rfl | rfl) | rfl) | rfl <;> exact absurd h (by decide)
  have hsharp : c ≠ '#' := by
    rintro rfl
    exact absurd h (by decide)
  simp [cleanChar, hquote, hsharp, h]

lemma flatMap_cleanChar {s : List Char} (h : ∀ c ∈ s, isNameChar c = true) : s.flatMap cleanChar = s := by
  induction s with
  | nil => rfl
  | cons c s ih =>
    obtain ⟨hc, hs⟩ := List.forall_mem_cons.mp h
    rw [List.flatMap_cons, cleanChar_of_isNameChar hc, ih hs, List.singleton_append]

lemma cleanChars_of_isNameChar {s : List Char} (h : ∀ c ∈ s, isNameChar c = true) : cleanChars s = s := by
  have hsolid : Solid s := fun c hc => isBlank_of_isNameChar (h c hc)
  rw [cleanChars_eq, hsolid.tight.trim, flatMap_cleanChar h]

lemma clean_eq_self_iff (name : String) : clean name.toList = name ↔ Clean name := by
  constructor
  · intro h
    rw [← h]
    exact clean_clean name.toList
  · intro h
    rw [clean, cleanChars_of_isNameChar h, String.ofList_toList]

lemma cleanChars_append {a b : List Char} (ha : Bars isBlank a.reverse) (hb : Bars isBlank b) :
    cleanChars (a ++ b) = cleanChars a ++ cleanChars b := by
  rw [cleanChars_eq, trim_append_of_bars ha hb, List.flatMap_append, ← cleanChars_eq, ← cleanChars_eq]

/-- A cleaned name is put together from what its characters become one by one. Cleaning leads to names over
letters, digits and the low line, keeps exactly these, changes nothing the second time, and goes through two
texts that meet without blanks one after the other. -/
theorem clean_charwise : (∀ s, clean s = String.ofList ((trim s).flatMap cleanChar)) ∧ (∀ s, Clean (clean s)) ∧
    (∀ name : String, clean name.toList = name ↔ Clean name) ∧ (∀ s, clean (clean s).toList = clean s) ∧
    ∀ a b, (∀ c ∈ a.getLast?, isBlank c = false) → (∀ c ∈ b.head?, isBlank c = false) →
      clean (a ++ b) = clean a ++ clean b := by
  refine ⟨fun s => ?_, clean_clean, clean_eq_self_iff, fun s => ?_, fun a b ha hb => ?_⟩
  · rw [clean, cleanChars_eq]
  · exact (clean_eq_self_iff _).mpr (clean_clean s)
  · have hreverse : Bars isBlank a.reverse := fun c hc => ha c (List.head?_reverse ▸ hc)
    rw [clean, cleanChars_append hreverse hb, String.ofList_append]
    rfl

theorem clean_charwise_owner : (∀ c ∈ " \"HR\".".toList.getLast?, isBlank c = false) ∧
    (∀ c ∈ "\"EMP#\" ".toList.head?, isBlank c = false) ∧
    clean (" \"HR\".".toList ++ "\"EMP#\" ".toList) = clean " \"HR\".".toList ++ clean "\"EMP#\" ".toList := by
  have hdot : ∀ c ∈ " \"HR\".".toList.getLast?, isBlank c = false := by
    intro c hc
    obtain rfl : '.' = c := Option.some.inj hc
    rfl
  have hquote : ∀ c ∈ "\"EMP#\" ".toList.head?, isBlank c = false := by
    intro c hc
    obtain rfl : '"' = c := Option.some.inj hc
    rfl
  exact ⟨hdot, hquote, clean_charwise.2.2.2.2 _ _ hdot hquote⟩

end SchemaAtlas.Name
