import SchemaAtlas.Proofs.Ddl.Mention
import SchemaAtlas.Proofs.Script.Basic

/-! Names and lists of names as they are printed: the characters that they have, the name that is read
from them, and that no phrase of two keywords begins inside them. -/

namespace SchemaAtlas.Script

open SchemaAtlas.Text SchemaAtlas.Ddl

namespace Word

variable (x : Word)

lemma mem_text {c : Char} (h : c ∈ x.text) : Name.isNameChar c = true ∨ Name.isQuote c = true := by
  obtain ⟨name, ⟨_, hclean⟩, quoting⟩ := x
  simp only [text, List.mem_append] at h
  rcases h with h | h | h
  · right
    cases quoting <;> simp [Quoting.opening] at h <;> subst h <;> rfl
  · exact .inl (hclean c h)
  · right
    cases quoting <;> simp [Quoting.closing] at h <;> subst h <;> rfl

lemma between_of_mem_text {c : Char} (h : c ∈ x.text) : 33 ≤ c.toNat ∧ c.toNat ≤ 126 := by
  rcases x.mem_text h with hn | hq
  · have := Name.toNat_of_isNameChar hn
    omega
  · exact Name.toNat_of_isQuote hq

lemma not_mem_text {c : Char} (hn : Name.isNameChar c = false) (hq : Name.isQuote c = false) :
    c ∉ x.text := by
  intro h
  rcases x.mem_text h with h | h
  · rw [hn] at h
    exact Bool.false_ne_true h
  · rw [hq] at h
    exact Bool.false_ne_true h

lemma solid : Solid x.text := by
  intro c hc
  obtain ⟨h₁, h₂⟩ := x.between_of_mem_text hc
  exact isBlank_of_between h₁ h₂

lemma ascii : Ascii x.text := by
  intro c hc
  have hrange := x.between_of_mem_text hc
  omega

lemma grouped : Grouped x.text :=
  .of_flat (x.not_mem_text (by decide) (by decide)) (x.not_mem_text (by decide) (by decide))
    (x.not_mem_text (by decide) (by decide))

lemma toList_name_ne_nil : x.name.toList ≠ [] := by
  intro h
  exact x.canonical.1 (String.toList_inj.mp h)

lemma text_ne_nil : x.text ≠ [] := by
  simp [text, x.toList_name_ne_nil]

lemma bars (s : List Char) : Bars isBlank (x.text ++ s) := x.solid.bars x.text_ne_nil

lemma token : Statement.Token x.text := by
  refine ⟨x.text_ne_nil, fun c hc => ?_⟩
  apply Bool.or_eq_false_iff.mpr
  refine ⟨x.solid c hc, ?_⟩
  have hp : '(' ∉ x.text := x.not_mem_text (by decide) (by decide)
  exact beq_eq_false_iff_ne.mpr fun h => hp (h ▸ hc)

lemma cleanChars_text : Name.cleanChars x.text = x.name.toList := by
  have hopen : x.quoting.opening.flatMap Name.cleanChar = [] := by cases x.quoting <;> rfl
  have hclose : x.quoting.closing.flatMap Name.cleanChar = [] := by cases x.quoting <;> rfl
  rw [Name.cleanChars_eq, x.solid.tight.trim, text, List.flatMap_append, List.flatMap_append, hopen, hclose,
    Name.flatMap_cleanChar x.canonical.2]
  simp

theorem clean_text : Name.clean x.text = x.name := by
  rw [Name.clean, x.cleanChars_text, String.ofList_toList]

end Word

namespace Words

variable (ws : Words)

lemma mem_inside {c : Char} (h : c ∈ ws.inside) : c = ',' ∨ c = ' ' ∨ ∃ x ∈ ws.list, c ∈ x.text := by
  simpa using mem_joined h

lemma not_mem_inside {c : Char} (hn : Name.isNameChar c = false) (hq : Name.isQuote c = false)
    (hc : c ≠ ',') (hb : c ≠ ' ') : c ∉ ws.inside := by
  intro h
  rcases ws.mem_inside h with h | h | ⟨x, _, h⟩
  · exact hc h
  · exact hb h
  · exact x.not_mem_text hn hq h

lemma inside_ne_nil : ws.inside ≠ [] := by
  obtain ⟨list, hne⟩ := ws
  cases list with
  | nil => exact absurd rfl hne
  | cons x xs => simp [inside, joined, x.text_ne_nil]

lemma close_not_mem_inside : ')' ∉ ws.inside :=
  ws.not_mem_inside (by decide) (by decide) (by decide) (by decide)

lemma grouped : Grouped ws.text :=
  .group (ws.not_mem_inside (by decide) (by decide) (by decide) (by decide)) ws.close_not_mem_inside .nil

lemma ascii : Ascii ws.text := by
  intro c hc
  simp only [text, List.mem_cons, List.mem_append, List.not_mem_nil, or_false] at hc
  rcases hc with rfl | hc | rfl
  · decide
  · rcases ws.mem_inside hc with rfl | rfl | ⟨x, _, hx⟩
    · decide
    · decide
    · exact x.ascii c hx
  · decide

lemma not_mem_text {c : Char} (hn : Name.isNameChar c = false) (hq : Name.isQuote c = false)
    (hc : c ∉ [',', ' ', '(', ')']) : c ∉ ws.text := by
  simp only [List.mem_cons, List.not_mem_nil, or_false, not_or] at hc
  have hinside := ws.not_mem_inside hn hq hc.1 hc.2.1
  simp [text, hinside, hc.2.2]

theorem columnNames_inside : columnNames ws.inside = ws.names := by
  have hcomma : ∀ t ∈ ws.list.map Word.text, ',' ∉ t := by
    intro t ht
    obtain ⟨x, _, rfl⟩ := List.mem_map.mp ht
    exact x.not_mem_text (by decide) (by decide)
  rw [inside, columnNames_joined (by simpa using ws.ne_nil) hcomma, List.map_map]
  exact List.map_congr_left fun x _ => x.clean_text

end Words

section Phrases

variable {w v s : List Char}

lemma Word.passes_gap (x : Word) (hw : Capitals w) {b : List Char} (hb : Gap b) (hs : Bars isBlank s)
    (hv : keyword v s = none) : Passes (phrase w v) x.text (b ++ s) :=
  passes_word hw.solid x.solid hb hs (.inr hv)

lemma Word.passes_stop (x : Word) (hw : Capitals w) {c : Char} (hb : isBlank c = false)
    (hc : (caseless c).isUpper = false) : Passes (phrase w v) x.text (c :: s) :=
  Text.passes_stop x.solid hb (hw.not_mem hc)

lemma passes_joined (hw : Capitals w) {xs : List (List Char)}
    (h : ∀ x ∈ xs, ∀ c, c = ',' ∨ c = ')' → ∀ s, Passes (phrase w v) x (c :: s)) (s : List Char) :
    Passes (phrase w v) (joined xs) (')' :: s) := by
  cases xs with
  | nil => exact passes_nil _ _
  | cons x xs =>
    induction xs generalizing x with
    | nil =>
      rw [joined_singleton]
      exact h x List.mem_cons_self ')' (.inr rfl) s
    | cons y ys ih =>
      obtain ⟨hx, hys⟩ := List.forall_mem_cons.mp h
      rw [joined_cons_cons, passes_append, passes_append]
      exact ⟨hx ',' (.inl rfl) _, passes_marks hw (by decide) _, ih y hys⟩

lemma Words.passes (ws : Words) (hw : Capitals w) (s : List Char) : Passes (phrase w v) ws.text s := by
  have hinside : Passes (phrase w v) ws.inside (')' :: s) := by
    refine passes_joined hw ?_ s
    intro t ht c hc s
    obtain ⟨x, _, rfl⟩ := List.mem_map.mp ht
    rcases hc with rfl | rfl <;> exact x.passes_stop hw (by decide) (by decide)
  have hsplit : ws.text = ['('] ++ (ws.inside ++ [')']) := rfl
  rw [hsplit, passes_append, passes_append]
  exact ⟨passes_marks hw (by decide) _, hinside, passes_marks hw (by decide) _⟩

end Phrases

end SchemaAtlas.Script
