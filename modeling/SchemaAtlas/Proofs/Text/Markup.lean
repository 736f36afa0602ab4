import SchemaAtlas.Proofs.Text.Lines
import SchemaAtlas.Text.Escape

/-! Tags, and the texts before them, are read from markup. Texts are escaped there, so that none of them opens
or closes a tag. -/

namespace SchemaAtlas.Text.Markup

def unescape : List Char → List Char
  | '&' :: 'a' :: 'm' :: 'p' :: ';' :: s => '&' :: unescape s
  | '&' :: 'l' :: 't' :: ';' :: s => '<' :: unescape s
  | '&' :: 'g' :: 't' :: ';' :: s => '>' :: unescape s
  | '&' :: 'q' :: 'u' :: 'o' :: 't' :: ';' :: s => '"' :: unescape s
  | '&' :: '#' :: 'x' :: '2' :: '7' :: ';' :: s => '\'' :: unescape s
  | c :: s => c :: unescape s
  | [] => []

lemma unescape_cons {c : Char} (h : c ≠ '&') (s : List Char) : unescape (c :: s) = c :: unescape s := by
  conv_lhs => unfold unescape
  split <;> simp_all

lemma unescape_escapeChar (c : Char) (s : List Char) : unescape (escapeChar c ++ s) = c :: unescape s := by
  fun_cases escapeChar c with
  | case1 | case2 | case3 | case4 | case5 => rfl
  | case6 => exact unescape_cons ‹_› s

theorem unescape_escape (s : List Char) : unescape (s.flatMap escapeChar) = s := by
  induction s with
  | nil => rfl
  | cons c s ih => rw [List.flatMap_cons, unescape_escapeChar, ih]

def Bare (s : List Char) : Prop := ∀ c ∈ s, escapeChar c = [c]

instance (s : List Char) : Decidable (Bare s) := List.decidableBAll _ s

lemma Bare.append {s t : List Char} (hs : Bare s) (ht : Bare t) : Bare (s ++ t) :=
  List.forall_mem_append.mpr ⟨hs, ht⟩

lemma Bare.flatMap_escapeChar {s : List Char} (h : Bare s) : s.flatMap escapeChar = s := by
  rw [List.flatMap_congr h, List.flatMap_singleton']

lemma Bare.escape {text : String} (h : Bare text.toList) : escape text = text :=
  String.toList_injective (by rw [toList_escape, h.flatMap_escapeChar])

lemma not_mem_escape {c : Char} (hc : c = '<' ∨ c = '>') (s : List Char) : c ∉ s.flatMap escapeChar := by
  have hchar (d : Char) : c ∉ escapeChar d := by
    fun_cases escapeChar d <;> rcases hc with rfl | rfl <;> simp_all [eq_comm]
  rw [List.mem_flatMap]
  rintro ⟨d, -, hd⟩
  exact hchar d hd

lemma escape_append (s t : String) : escape (s ++ t) = escape s ++ escape t :=
  String.toList_injective (by simp)

lemma escape_joinWith {separator : String} (hs : escape separator = separator) (parts : List String) :
    escape (joinWith separator parts) = joinWith separator (parts.map escape) := by
  induction parts with
  | nil => rfl
  | cons part parts ih =>
    cases parts with
    | nil => simp [joinWith]
    | cons other parts =>
      rw [joinWith, List.map_cons, List.map_cons, String.intercalate_cons_cons, joinWith,
        String.intercalate_cons_cons, escape_append, escape_append, hs]
      exact congrArg (escape part ++ separator ++ ·) ih

structure Tag where
  -- what stands before the tag
  text : String
  -- what stands between its brackets
  inside : String
deriving DecidableEq, Repr

namespace Tag

def ofPiece (piece : List Char) : Tag :=
  let (text, inside) := cutOnce '<' piece
  ⟨String.ofList (unescape text), String.ofList (inside.getD [])⟩

def chars (t : Tag) : List Char := t.text.toList.flatMap escapeChar ++ '<' :: (t.inside.toList ++ ['>'])

end Tag

def tags (s : List Char) : List Tag := (cutAt '>' s).dropLast.map Tag.ofPiece

lemma tags_append (s t : List Char) : tags (s ++ '>' :: t) = (cutAt '>' s).map Tag.ofPiece ++ tags t := by
  rw [tags, cutAt_append_cons, List.dropLast_append_of_ne_nil (cutAt_ne_nil '>' t), List.map_append, tags]

lemma tags_chars {t : Tag} (h : '>' ∉ t.inside.toList) (s : List Char) : tags (t.chars ++ s) = t :: tags s := by
  have hpiece : t.chars ++ s = (t.text.toList.flatMap escapeChar ++ '<' :: t.inside.toList) ++ '>' :: s := by
    simp [Tag.chars]
  have hclosed : '>' ∉ t.text.toList.flatMap escapeChar ++ '<' :: t.inside.toList := by
    simp [h, not_mem_escape (.inr rfl) t.text.toList, -List.mem_flatMap]
  rw [hpiece, tags_append, cutAt_of_not_mem hclosed, List.map_singleton, Tag.ofPiece,
    cutOnce_append (not_mem_escape (.inl rfl) _), List.singleton_append]
  simp [unescape_escape]

lemma tags_flatMap_chars {ts : List Tag} (h : ∀ t ∈ ts, '>' ∉ t.inside.toList) (s : List Char) :
    tags (ts.flatMap Tag.chars ++ s) = ts ++ tags s := by
  induction ts with
  | nil => rfl
  | cons t ts ih =>
    obtain ⟨ht, hts⟩ := List.forall_mem_cons.mp h
    rw [List.flatMap_cons, List.append_assoc, tags_chars ht, ih hts, List.cons_append]

/-- Takes markup apart into what stands inside its tags and what stands outside of them. A tag reaches from
an opening bracket to the next closing one. The first argument holds what has been read of a tag that is
open. -/
def takeApart : Option (List Char) → List Char → List (List Char) × List Char
  | none, [] => ([], [])
  | some inside, [] => ([], '<' :: inside)
  | none, c :: s =>
    if c = '<' then takeApart (some []) s
    else
      let (tags, outside) := takeApart none s
      (tags, c :: outside)
  | some inside, c :: s =>
    if c = '>' then
      let (tags, outside) := takeApart none s
      (inside :: tags, outside)
    else takeApart (some (inside ++ [c])) s

lemma takeApart_text {x : List Char} (h : '<' ∉ x) (s : List Char) :
    takeApart none (x ++ s) = ((takeApart none s).1, x ++ (takeApart none s).2) := by
  induction x with
  | nil => rfl
  | cons c x ih =>
    rw [List.mem_cons, not_or] at h
    rw [List.cons_append, takeApart, if_neg (Ne.symm h.1), ih h.2]
    rfl

lemma takeApart_inside {y : List Char} (h : '>' ∉ y) (x s : List Char) :
    takeApart (some x) (y ++ '>' :: s) = ((x ++ y) :: (takeApart none s).1, (takeApart none s).2) := by
  induction y generalizing x with
  | nil => simp [takeApart]
  | cons c y ih =>
    rw [List.mem_cons, not_or] at h
    rw [List.cons_append, takeApart, if_neg (Ne.symm h.1), ih h.2, List.append_assoc, List.singleton_append]

lemma takeApart_chars {t : Tag} (h : '>' ∉ t.inside.toList) (s : List Char) : takeApart none (t.chars ++ s) =
    (t.inside.toList :: (takeApart none s).1, t.text.toList.flatMap escapeChar ++ (takeApart none s).2) := by
  have hsplit : t.chars ++ s = t.text.toList.flatMap escapeChar ++ '<' :: (t.inside.toList ++ '>' :: s) := by
    simp [Tag.chars]
  rw [hsplit, takeApart_text (not_mem_escape (.inl rfl) _), takeApart, if_pos rfl, takeApart_inside h,
    List.nil_append]

theorem takeApart_flatMap_chars {ts : List Tag} (h : ∀ t ∈ ts, '>' ∉ t.inside.toList) :
    takeApart none (ts.flatMap Tag.chars) =
      (ts.map (·.inside.toList), ts.flatMap fun t => t.text.toList.flatMap escapeChar) := by
  induction ts with
  | nil => rfl
  | cons t ts ih =>
    obtain ⟨ht, hts⟩ := List.forall_mem_cons.mp h
    rw [List.flatMap_cons, takeApart_chars ht, ih hts, List.map_cons, List.flatMap_cons]

end SchemaAtlas.Text.Markup
