import Mathlib.Tactic.Common
import SchemaAtlas.Diagram.Dot
import SchemaAtlas.Proofs.Schema.WellFormed
import SchemaAtlas.Proofs.Text.Lines

/-! Names and record labels in the DOT language. Quoting keeps names apart, and the fields and lines of a
label are read back from it. -/

namespace SchemaAtlas.Dot

open SchemaAtlas.Text

lemma escapeQuotes_of_not_mem {s : List Char} (h : '"' ∉ s) (n : ℕ) : escapeQuotes n s = s := by
  induction s generalizing n with
  | nil => rfl
  | cons c s ih =>
    obtain ⟨hc, hs⟩ := List.ne_and_not_mem_of_not_mem_cons h
    have hquote : ¬(c = '"' ∧ n % 2 = 0) := fun h => hc h.1.symm
    rw [escapeQuotes, ih hs, ih hs, if_neg hquote, ite_self]

lemma mem_of_mem_escapeQuotes {k : Char} {s : List Char} {n : ℕ} (h : k ∈ escapeQuotes n s) :
    k ∈ s ∨ k = '\\' := by
  induction s generalizing n with
  | nil => exact absurd h List.not_mem_nil
  | cons c s ih =>
    rw [escapeQuotes] at h
    split at h
    · grind
    · split at h <;> grind

lemma not_mem_quoteChars {k : Char} (hk : k ≠ '"' ∧ k ≠ '\\') {s : List Char} (h : k ∉ s) :
    k ∉ quoteChars s := by
  unfold quoteChars
  split
  · exact h
  · intro hm
    simp only [List.cons_append, List.mem_cons, List.mem_append, List.not_mem_nil, or_false, hk.1, false_or] at hm
    exact (mem_of_mem_escapeQuotes hm).elim h hk.2

def bare (s : List Char) : List Char := s.filter (· != '"')

lemma bare_quoteChars {s : List Char} (h : '"' ∉ s) : bare (quoteChars s) = s := by
  have hbare : bare s = s := List.filter_eq_self.mpr fun c hc => by simpa using ne_of_mem_of_not_mem hc h
  unfold quoteChars
  split
  · exact hbare
  · rw [escapeQuotes_of_not_mem h, bare, List.filter_append]
    exact (List.append_nil _).trans hbare

lemma quote_inj {a b : String} (ha : '"' ∉ a.toList) (hb : '"' ∉ b.toList) : quote a = quote b ↔ a = b := by
  refine ⟨fun h => String.toList_injective ?_, congrArg quote⟩
  have hchars : quoteChars a.toList = quoteChars b.toList := by
    simpa [quote] using congrArg String.toList h
  rw [← bare_quoteChars ha, hchars, bare_quoteChars hb]

lemma edgeEnd_of_not_mem {name : String} (h : ':' ∉ name.toList) : edgeEnd name = quote name := by
  have hall : ∀ c ∈ name.toList, (c != ':') = true := fun c hc => by simpa using ne_of_mem_of_not_mem hc h
  have hsplit : splitColon name.toList = (name.toList, []) := by
    rw [splitColon, List.takeWhile_eq_self_iff.mpr hall, List.dropWhile_eq_nil_iff.mpr hall]
    rfl
  have hend : splitColon [] = ([], []) := rfl
  simp [edgeEnd, hsplit, hend, joinWith, quote]

inductive Mark where
  | opening
  | bar
  | lineEnd
  | closing
deriving DecidableEq, Repr

def Mark.chars : Mark → List Char
  | opening => ['\x7b']
  | bar => ['|']
  | lineEnd => ['\\', 'l']
  | closing => ['\x7d']

abbrev Piece := List Char × Mark

def prependTo (c : Char) : List Piece → List Piece
  | [] => []
  | (x, m) :: ps => (c :: x, m) :: ps

def pieces : List Char → List Piece
  | [] => []
  | '"' :: _ => []
  | '\x7b' :: s => ([], .opening) :: pieces s
  | '|' :: s => ([], .bar) :: pieces s
  | '\x7d' :: s => ([], .closing) :: pieces s
  | '\\' :: 'l' :: s => ([], .lineEnd) :: pieces s
  | '\\' :: c :: s => prependTo c (pieces s)
  | c :: s => prependTo c (pieces s)

lemma pieces_mark (m : Mark) (s : List Char) : pieces (m.chars ++ s) = ([], m) :: pieces s := by
  cases m <;> rw [Mark.chars, List.cons_append] <;> simp [pieces]

lemma pieces_escaped {c : Char} (hc : c ≠ '"' ∧ c ≠ '\\') (s : List Char) :
    pieces (escapeRecordChar c ++ s) = prependTo c (pieces s) := by
  by_cases hspecial : ['\x7b', '\x7d', '|', '<', '>'].contains c
  · rw [escapeRecordChar, if_pos hspecial]
    simp only [List.contains_iff_mem, List.mem_cons, List.not_mem_nil, or_false] at hspecial
    rcases hspecial with rfl | rfl | rfl | rfl | rfl <;> simp [pieces]
  · rw [escapeRecordChar, if_neg hspecial]
    simp only [List.contains_iff_mem, List.mem_cons, List.not_mem_nil, or_false, not_or] at hspecial
    rw [List.singleton_append, pieces] <;> simp_all

lemma pieces_escapeRecord {x : String} (h : ∀ c ∈ x.toList, c ≠ '"' ∧ c ≠ '\\') (m : Mark) (s : List Char) :
    pieces ((escapeRecord x).toList ++ (m.chars ++ s)) = (x.toList, m) :: pieces s := by
  rw [escapeRecord, String.toList_ofList]
  generalize x.toList = x at h ⊢
  induction x with
  | nil => exact pieces_mark m s
  | cons c x ih =>
    obtain ⟨hc, hx⟩ := List.forall_mem_cons.mp h
    rw [List.flatMap_cons, List.append_assoc, pieces_escaped hc, ih hx]
    rfl

structure Row where
  name : String
  type : String
  isPrimaryKey : Bool
deriving DecidableEq, Repr

def Row.ofColumn (c : Column) : Row := ⟨c.name, c.type, c.isPrimaryKey⟩

def Row.ofPiece? : Piece → Option Row
  | (x, .lineEnd) =>
    match (cutAt ' ' x).map String.ofList with
    | [name, ":", type] => some ⟨name, type, false⟩
    | [name, ":", type, "[PK]"] => some ⟨name, type, true⟩
    | _ => none
  | _ => none

structure Node where
  id : String
  title : String
  rows : List Row
deriving DecidableEq, Repr

def Node.ofPieces? (id : String) : List Piece → Option Node
  | ([], .opening) :: (title, .bar) :: ps => do
    let rows ← ps.dropLast.mapM Row.ofPiece?
    if ps.getLast? = some ([], .closing) then return ⟨id, String.ofList title, rows⟩ else none
  | _ => none

lemma not_mem_columnRow {c : Column} (h : c.Sound) {k : Char}
    (hk : Name.isNameChar k = false ∧ k ∉ " :[PK]".toList) :
    k ∉ (columnRow c).toList := by
  have hname : k ∉ c.name.toList := h.name_clean.not_mem hk.1
  have htype : k ∉ c.type.toList := h.type_clean.not_mem hk.1
  have hmarks := hk.2
  simp only [String.reduceToList, List.mem_cons, List.not_mem_nil, or_false, not_or] at hmarks
  unfold columnRow
  split <;> simp [hname, htype, hmarks]

lemma columnRow_plain {c : Column} (h : c.Sound) :
    ∀ k ∈ (columnRow c).toList, k ≠ '"' ∧ k ≠ '\\' := fun _ hk =>
  ⟨ne_of_mem_of_not_mem hk (not_mem_columnRow h (by decide)),
    ne_of_mem_of_not_mem hk (not_mem_columnRow h (by decide))⟩

lemma Row.ofPiece?_columnRow {c : Column} (h : c.Sound) :
    Row.ofPiece? ((columnRow c).toList, .lineEnd) = some (Row.ofColumn c) := by
  have hname : ' ' ∉ c.name.toList := h.name_clean.not_mem (by decide)
  have htype : ' ' ∉ c.type.toList := h.type_clean.not_mem (by decide)
  obtain ⟨name, type, isPrimaryKey, isNotNull⟩ := c
  cases isPrimaryKey with
  | false =>
    have hwords : (cutAt ' ' (columnRow ⟨name, type, false, isNotNull⟩).toList).map String.ofList =
        [name, ":", type] := by
      simp [columnRow, cutAt_append hname, cutAt_of_not_mem htype, cutAt, prepend]
    rw [ofPiece?, hwords]
    rfl
  | true =>
    have hwords : (cutAt ' ' (columnRow ⟨name, type, true, isNotNull⟩).toList).map String.ofList =
        [name, ":", type, "[PK]"] := by
      simp [columnRow, cutAt_append hname, cutAt_append htype, cutAt, prepend]
    rw [ofPiece?, hwords]
    rfl

lemma mapM_rows {cs : List Column} (h : ∀ c ∈ cs, c.Sound) :
    (cs.map fun c => ((columnRow c).toList, Mark.lineEnd)).mapM Row.ofPiece? = some (cs.map Row.ofColumn) := by
  induction cs with
  | nil => rfl
  | cons c cs ih =>
    obtain ⟨hc, hcs⟩ := List.forall_mem_cons.mp h
    rw [List.map_cons, List.mapM_cons, Row.ofPiece?_columnRow hc, ih hcs]
    rfl

lemma toList_lines {rows : List String} (h : rows ≠ []) : (joinWith "\\l" rows ++ "\\l\x7d").toList =
    rows.flatMap (fun row => row.toList ++ Mark.lineEnd.chars) ++ Mark.closing.chars := by
  induction rows with
  | nil => exact absurd rfl h
  | cons row rows ih =>
    cases rows with
    | nil => simp [joinWith, Mark.chars]
    | cons other rows =>
      have hcons : joinWith "\\l" (row :: other :: rows) = row ++ "\\l" ++ joinWith "\\l" (other :: rows) :=
        String.toList_injective (by simp [joinWith, String.toList_intercalate])
      rw [hcons, String.append_assoc, String.append_assoc, String.toList_append, String.toList_append,
        ih (List.cons_ne_nil _ _), List.flatMap_cons (x := row)]
      simp only [List.append_assoc]
      rfl

lemma toList_recordLabel {t : Table} (h : t.columns ≠ []) : (recordLabel t).toList =
    Mark.opening.chars ++ ((escapeRecord t.name).toList ++ (Mark.bar.chars ++
      (t.columns.flatMap (fun c => (escapeRecord (columnRow c)).toList ++ Mark.lineEnd.chars) ++
        Mark.closing.chars))) := by
  have hrows : t.columns.map (fun c => escapeRecord (columnRow c)) ≠ [] := by simpa using h
  rw [recordLabel, String.append_assoc, String.toList_append, toList_lines hrows, List.flatMap_map]
  simp [Mark.chars]

lemma not_mem_escapeRecord {k : Char} (hk : k ≠ '\\') {x : String} (h : k ∉ x.toList) :
    k ∉ (escapeRecord x).toList := by
  rw [escapeRecord, String.toList_ofList]
  intro hm
  obtain ⟨c, hc, hkc⟩ := List.mem_flatMap.mp hm
  have hne : k ≠ c := fun hkc => h (hkc ▸ hc)
  unfold escapeRecordChar at hkc
  split at hkc <;> simp [hk, hne] at hkc

lemma not_mem_recordLabel {t : Table} (h : t.Sound) {k : Char}
    (hk : Name.isNameChar k = false ∧ k ∉ " :[PK]\\l\x7b|\x7d".toList) : k ∉ (recordLabel t).toList := by
  have hmarks := hk.2
  simp only [String.reduceToList, List.mem_cons, List.not_mem_nil, or_false, not_or] at hmarks
  have hname : k ∉ (escapeRecord t.name).toList :=
    not_mem_escapeRecord (by tauto) (h.name_clean.not_mem hk.1)
  have hrow : ∀ c ∈ t.columns, k ∉ (escapeRecord (columnRow c)).toList := fun c hc =>
    not_mem_escapeRecord (by tauto) (not_mem_columnRow (h.columns_sound c hc) ⟨hk.1, by simp; tauto⟩)
  rw [toList_recordLabel h.columns_ne_nil]
  simp only [Mark.chars, List.mem_append, List.mem_flatMap, List.mem_cons, List.not_mem_nil, or_false, hname]
  rintro (hm | hm | hm | ⟨c, hc, hm | hm⟩ | hm) <;> grind

lemma quote_recordLabel {t : Table} (h : t.Sound) :
    (quote (recordLabel t)).toList = '"' :: (recordLabel t).toList ++ ['"'] := by
  have hquote : '"' ∉ (recordLabel t).toList := not_mem_recordLabel h (by decide)
  obtain ⟨x, hx⟩ : ∃ x, (recordLabel t).toList = '\x7b' :: (x ++ ['\x7d']) :=
    ⟨_, (toList_recordLabel h.columns_ne_nil).trans (by simp only [← List.append_assoc]; rfl)⟩
  have hend : (recordLabel t).toList.getLast? = some '\x7d' := by
    rw [hx, ← List.cons_append, List.getLast?_concat]
  have hlast : withoutFinalLineFeed (recordLabel t).toList = (recordLabel t).toList := by
    rw [withoutFinalLineFeed, hend, if_neg (by decide)]
  have hraw : (isMarkup (recordLabel t).toList || isPlain (recordLabel t).toList) = false := by
    rw [isMarkup, isPlain, hlast, hx]
    simp [isIdentifier, isLetter, isNumeral]
  rw [quote, String.toList_ofList, quoteChars, hraw, escapeQuotes_of_not_mem hquote]
  rfl

lemma pieces_lines {cs : List Column} (h : ∀ c ∈ cs, c.Sound) (s : List Char) :
    pieces (cs.flatMap (fun c => (escapeRecord (columnRow c)).toList ++ Mark.lineEnd.chars) ++ s) =
      cs.map (fun c => ((columnRow c).toList, Mark.lineEnd)) ++ pieces s := by
  induction cs with
  | nil => rfl
  | cons c cs ih =>
    obtain ⟨hc, hcs⟩ := List.forall_mem_cons.mp h
    rw [List.flatMap_cons, List.append_assoc, List.append_assoc, pieces_escapeRecord (columnRow_plain hc), ih hcs]
    rfl

lemma Node.ofPieces?_recordLabel {t : Table} (h : t.Sound) (id : String) (s : List Char) :
    Node.ofPieces? id (pieces ((recordLabel t).toList ++ '"' :: s)) =
      some ⟨id, t.name, t.columns.map Row.ofColumn⟩ := by
  have hname : ∀ k ∈ t.name.toList, k ≠ '"' ∧ k ≠ '\\' := fun k hk =>
    ⟨ne_of_mem_of_not_mem hk (h.name_clean.not_mem (by decide)),
      ne_of_mem_of_not_mem hk (h.name_clean.not_mem (by decide))⟩
  have hclosing : pieces (Mark.closing.chars ++ '"' :: s) = [([], .closing)] := by
    rw [pieces_mark, pieces]
  have hpieces : pieces ((recordLabel t).toList ++ '"' :: s) = ([], .opening) :: (t.name.toList, .bar) ::
      (t.columns.map (fun c => ((columnRow c).toList, Mark.lineEnd)) ++ [([], .closing)]) := by
    rw [toList_recordLabel h.columns_ne_nil]
    simp only [List.append_assoc]
    rw [pieces_mark, pieces_escapeRecord hname, pieces_lines h.columns_sound, hclosing]
  rw [hpieces, ofPieces?, List.dropLast_concat, mapM_rows h.columns_sound]
  simp

end SchemaAtlas.Dot
