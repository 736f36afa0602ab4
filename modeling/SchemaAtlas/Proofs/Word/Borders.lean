import Mathlib.Data.List.Nodup
import Mathlib.Tactic.Common
import SchemaAtlas.Word.Document

/-! The border of an edge is the one that was set last for it, and borders stand in the order of these
settings. In a table with three lines every edge of every cell has one border, which says whether a line
runs there. -/

namespace SchemaAtlas.Word

def LastAt (bs : List Border) (i : Nat) (b : Border) : Prop :=
  bs[i]? = some b ∧ ∀ later ∈ bs.drop (i + 1), later.edge ≠ b.edge

instance (bs : List Border) (i : Nat) (b : Border) : Decidable (LastAt bs i b) :=
  inferInstanceAs (Decidable (bs[i]? = some b ∧ ∀ later ∈ bs.drop (i + 1), later.edge ≠ b.edge))

/-- The borders of a cell after settings: the last one for each edge, in the order in which these were made. -/
structure Remain (settings borders : List Border) : Prop where
  mem_iff : ∀ b, b ∈ borders ↔ ∃ i, LastAt settings i b
  ordered : borders.Pairwise fun b b' => ∃ i j, i < j ∧ LastAt settings i b ∧ LastAt settings j b'

def Distinct (borders : List Border) : Prop := (borders.map (·.edge)).Nodup

instance (borders : List Border) : Decidable (Distinct borders) :=
  inferInstanceAs (Decidable (borders.map (·.edge)).Nodup)

section Settings

variable {settings bs : List Border} {i j : Nat} {b x y : Border}

lemma LastAt.lt_length (h : LastAt settings i b) : i < settings.length := (List.getElem?_eq_some_iff.mp h.1).1

lemma LastAt.edge_ne (hx : LastAt settings i x) (hy : LastAt settings j y) (hij : i < j) : x.edge ≠ y.edge := by
  obtain ⟨d, rfl⟩ := Nat.exists_eq_add_of_lt hij
  refine (hx.2 y (List.mem_of_getElem? (i := d) ?_)).symm
  rw [List.getElem?_drop, ← hy.1]
  congr 1
  omega

lemma lastAt_concat :
    LastAt (settings ++ [b]) i x ↔ (LastAt settings i x ∧ b.edge ≠ x.edge) ∨ (i = settings.length ∧ x = b) := by
  rcases Nat.lt_trichotomy i settings.length with hlt | rfl | hgt
  · rw [LastAt, List.getElem?_append_left hlt, List.drop_append_of_le_length hlt, List.forall_mem_append,
      List.forall_mem_singleton, ← and_assoc]
    exact ⟨.inl, fun h => h.resolve_right fun h => absurd h.1 (Nat.ne_of_lt hlt)⟩
  · simp [LastAt, eq_comm]
  · have hnone : (settings ++ [b])[i]? = none := List.getElem?_eq_none (by simp; omega)
    constructor
    · intro h
      rw [LastAt, hnone] at h
      cases h.1
    · rintro (⟨h, -⟩ | ⟨rfl, -⟩)
      · exact absurd h.lt_length (Nat.lt_asymm hgt)
      · exact absurd hgt (Nat.lt_irrefl _)

lemma lastAt_append (i : Nat) : LastAt (settings ++ bs) (settings.length + i) b ↔ LastAt bs i b := by
  rw [LastAt, LastAt, List.getElem?_append_right (Nat.le_add_right ..), Nat.add_sub_cancel_left, Nat.add_assoc,
    List.drop_length_add_append]

lemma Remain.distinct (h : Remain settings bs) : Distinct bs :=
  List.pairwise_map.mpr (h.ordered.imp fun ⟨_, _, hij, hx, hy⟩ => hx.edge_ne hy hij)

lemma lastAt_iff_of_distinct (h : Distinct bs) : LastAt bs i b ↔ bs[i]? = some b := by
  refine ⟨And.left, fun hb => ⟨hb, fun later hlater => ?_⟩⟩
  obtain ⟨d, hd, rfl⟩ := List.mem_drop_iff_getElem.mp hlater
  obtain ⟨hi, rfl⟩ := List.getElem?_eq_some_iff.mp hb
  exact (List.pairwise_iff_getElem.mp (List.pairwise_map.mp h) i (i + 1 + d) hi (by omega) (by omega)).symm

lemma remain_self (h : Distinct bs) : Remain bs bs where
  -- the borders that a cell comes with count as settings made before
  mem_iff b := by
    simp only [lastAt_iff_of_distinct h]
    exact List.mem_iff_getElem?
  ordered := by
    refine List.pairwise_iff_getElem.mpr fun i j hi hj hij => ⟨i, j, hij, ?_, ?_⟩
    · exact (lastAt_iff_of_distinct h).mpr (List.getElem?_eq_getElem hi)
    · exact (lastAt_iff_of_distinct h).mpr (List.getElem?_eq_getElem hj)

lemma eraseP_eq_filter (h : Distinct bs) (e : Edge) : bs.eraseP (·.edge == e) = bs.filter (·.edge != e) := by
  -- edges are distinct, so there is nothing behind the first earlier border for an edge
  induction bs with
  | nil => rfl
  | cons b bs ih =>
    obtain ⟨hb, hbs⟩ := List.nodup_cons.mp h
    by_cases he : b.edge = e
    · have hrest : ∀ x ∈ bs, x.edge != e := by
        intro x hx
        have hne : x.edge ≠ e := fun hx' => hb (List.mem_map.mpr ⟨x, hx, hx'.trans he.symm⟩)
        simpa using hne
      rw [List.eraseP_cons_of_pos (by simpa using he), List.filter_cons_of_neg (by simpa using he),
        List.filter_eq_self.mpr hrest]
    · rw [List.eraseP_cons_of_neg (by simpa using he), List.filter_cons_of_pos (by simpa using he), ih hbs]

lemma Remain.setBorder {c : Cell} (h : Remain settings c.borders) (b : Border) :
    Remain (settings ++ [b]) (c.setBorder b).borders := by
  have hborders : (c.setBorder b).borders = c.borders.filter (·.edge != b.edge) ++ [b] :=
    congrArg (· ++ [b]) (eraseP_eq_filter h.distinct b.edge)
  have hfilter (x : Border) : x ∈ c.borders.filter (·.edge != b.edge) ↔ x ∈ c.borders ∧ b.edge ≠ x.edge := by
    rw [List.mem_filter, bne_iff_ne, ne_comm]
  have hearlier {i : Nat} {x : Border} (hi : LastAt settings i x) (hx : x ∈ c.borders.filter (·.edge != b.edge)) :
      LastAt (settings ++ [b]) i x := lastAt_concat.mpr (.inl ⟨hi, ((hfilter x).mp hx).2⟩)
  have hlast : LastAt (settings ++ [b]) settings.length b := lastAt_concat.mpr (.inr ⟨rfl, rfl⟩)
  rw [hborders]
  constructor
  · intro x
    rw [List.mem_append, List.mem_singleton, hfilter, h.mem_iff]
    constructor
    · rintro (⟨⟨i, hi⟩, hne⟩ | rfl)
      · exact ⟨i, lastAt_concat.mpr (.inl ⟨hi, hne⟩)⟩
      · exact ⟨settings.length, hlast⟩
    · rintro ⟨i, hi⟩
      rcases lastAt_concat.mp hi with ⟨hi, hne⟩ | ⟨-, rfl⟩
      · exact .inl ⟨⟨i, hi⟩, hne⟩
      · exact .inr rfl
  · refine List.pairwise_append.mpr ⟨?_, List.pairwise_singleton .., fun x hx y hy => ?_⟩
    · exact (h.ordered.filter _).imp_of_mem fun hx hy ⟨i, j, hij, hi, hj⟩ =>
        ⟨i, j, hij, hearlier hi hx, hearlier hj hy⟩
    · obtain rfl := List.mem_singleton.mp hy
      obtain ⟨i, hi⟩ := (h.mem_iff x).mp ((hfilter x).mp hx).1
      exact ⟨i, settings.length, hi.lt_length, hearlier hi hx, hlast⟩

lemma Remain.setBorders {c : Cell} (h : Remain settings c.borders) (bs : List Border) :
    Remain (settings ++ bs) (c.setBorders bs).borders := by
  induction bs generalizing c settings with
  | nil => simpa [Cell.setBorders] using h
  | cons b bs ih =>
    rw [← List.singleton_append, ← List.append_assoc]
    exact ih (h.setBorder b)

lemma remain_setBorders {c : Cell} (h : Distinct c.borders) (bs : List Border) :
    Remain (c.borders ++ bs) (c.setBorders bs).borders :=
  (remain_self h).setBorders bs

lemma filter_edge (h : Distinct bs) (hb : b ∈ bs) : bs.filter (·.edge == b.edge) = [b] := by
  induction bs with
  | nil => cases hb
  | cons a bs ih =>
    obtain ⟨ha, hbs⟩ := List.nodup_cons.mp h
    rcases List.mem_cons.mp hb with rfl | hmem
    · have hrest : ∀ x ∈ bs, ¬(x.edge == b.edge) = true := fun x hx hedge =>
        ha (List.mem_map.mpr ⟨x, hx, eq_of_beq hedge⟩)
      rw [List.filter_cons_of_pos (by simp), List.filter_eq_nil_iff.mpr hrest]
    · have hne : a.edge ≠ b.edge := fun hedge => ha (List.mem_map.mpr ⟨b, hmem, hedge.symm⟩)
      rw [List.filter_cons_of_neg (by simpa using hne), ih hbs hmem]

end Settings

def Cell.bordersOn (c : Cell) (e : Edge) : List Border := c.borders.filter (·.edge == e)

def ruling (first last : Bool) : List Border :=
  [⟨.top, none⟩, ⟨.left, none⟩, ⟨.bottom, none⟩, ⟨.right, none⟩] ++
    (if first then [⟨.top, thickLine⟩, ⟨.bottom, thinLine⟩] else []) ++
    if last then [⟨.bottom, thickLine⟩] else []

structure Cell.Ruled (c : Cell) (first last : Bool) : Prop where
  top : c.bordersOn .top = [⟨.top, if first then thickLine else none⟩]
  bottom : c.bordersOn .bottom = [⟨.bottom, if last then thickLine else if first then thinLine else none⟩]
  left : c.bordersOn .left = [⟨.left, none⟩]
  right : c.bordersOn .right = [⟨.right, none⟩]

lemma bordersOn_setBorders {c : Cell} (h : Distinct c.borders) {bs : List Border} {b : Border}
    (hb : ∃ i ∈ List.range bs.length, LastAt bs i b) : (c.setBorders bs).bordersOn b.edge = [b] := by
  obtain ⟨i, -, hi⟩ := hb
  have hremain := remain_setBorders h bs
  exact filter_edge hremain.distinct ((hremain.mem_iff b).mpr ⟨_, (lastAt_append i).mpr hi⟩)

lemma ruled_setBorders {c : Cell} (h : Distinct c.borders) (first last : Bool) :
    (c.setBorders (ruling first last)).Ruled first last where
  top := bordersOn_setBorders h (b := ⟨.top, _⟩) (by revert first last; decide)
  bottom := bordersOn_setBorders h (b := ⟨.bottom, _⟩) (by revert first last; decide)
  left := bordersOn_setBorders h (b := ⟨.left, _⟩) (by revert first last; decide)
  right := bordersOn_setBorders h (b := ⟨.right, _⟩) (by revert first last; decide)

lemma getElem?_modifyLast {α : Type} (f : α → α) (l : List α) (i : Nat) :
    (modifyLast f l)[i]? = if i + 1 = l.length then l[i]?.map f else l[i]? := by
  fun_induction modifyLast f l generalizing i with
  | case1 => simp
  | case2 a => cases i <;> simp
  | case3 a b as ih =>
    cases i with
    | zero => simp
    | succ i => simpa using ih i

lemma getElem?_threeLines (rows : List (List Cell)) (i : Nat) : (threeLines rows)[i]? =
    rows[i]?.map (·.map fun c => c.setBorders (ruling (i = 0) (i + 1 = rows.length))) := by
  rw [threeLines, getElem?_modifyLast, List.getElem?_modifyHead, List.length_modifyHead, List.length_map,
    List.getElem?_map]
  cases rows[i]? with
  | none => simp
  | some row =>
    cases i with
    | zero => by_cases hlast : 1 = rows.length <;> simp [hlast, ruling, Cell.clear, Cell.setBorders]
    | succ i => by_cases hlast : i + 1 + 1 = rows.length <;> simp [hlast, ruling, Cell.clear, Cell.setBorders]

/-- Whatever is set for a cell, each edge keeps the last setting for it, and these stand in the order in
which they were made. So in a table with three lines every cell has one border on each of its edges, with a
line or without one. -/
theorem borders_threeLines :
    (∀ (c : Cell) (settings : List Border), Distinct c.borders →
      Distinct (c.setBorders settings).borders ∧
        Remain (c.borders ++ settings) (c.setBorders settings).borders) ∧
    ∀ rows : List (List Cell), (∀ row ∈ rows, ∀ c ∈ row, Distinct c.borders) →
      (threeLines rows).map List.length = rows.map List.length ∧
        ∀ (i : Nat) (row : List Cell), (threeLines rows)[i]? = some row →
          ∀ c ∈ row, c.Ruled (i = 0) (i + 1 = rows.length) := by
  refine ⟨fun c settings hc => ?_, fun rows hrows => ⟨?_, fun i ruled hruled c hc => ?_⟩⟩
  · have hremain := remain_setBorders hc settings
    exact ⟨hremain.distinct, hremain⟩
  · apply List.ext_getElem?
    intro i
    rw [List.getElem?_map, List.getElem?_map, getElem?_threeLines, Option.map_map]
    simp [Function.comp_def]
  · rw [getElem?_threeLines, Option.map_eq_some_iff] at hruled
    obtain ⟨row, hrow, rfl⟩ := hruled
    obtain ⟨c, hmem, rfl⟩ := List.mem_map.mp hc
    exact ruled_setBorders (hrows row (List.mem_of_getElem? hrow) c hmem) _ _

theorem borders_threeLines_single_row :
    (Distinct [⟨.bottom, thinLine⟩, ⟨.left, none⟩] ∧
      Remain [⟨.bottom, thinLine⟩, ⟨.left, none⟩, ⟨.top, none⟩, ⟨.bottom, thickLine⟩]
        [⟨.left, none⟩, ⟨.top, none⟩, ⟨.bottom, thickLine⟩]) ∧
    (∀ row ∈ [[(⟨{}, 2835, [⟨.bottom, thinLine⟩]⟩ : Cell)]], ∀ c ∈ row, Distinct c.borders) ∧
      ∀ row : List Cell, (threeLines [[⟨{}, 2835, [⟨.bottom, thinLine⟩]⟩]])[0]? = some row →
        ∀ c ∈ row, c.Ruled true true :=
  have hcell : Distinct [⟨.bottom, thinLine⟩, ⟨.left, none⟩] := by decide
  have hrows : ∀ row ∈ [[(⟨{}, 2835, [⟨.bottom, thinLine⟩]⟩ : Cell)]], ∀ c ∈ row, Distinct c.borders := by decide
  ⟨⟨hcell, (borders_threeLines.1 ⟨{}, 2835, [⟨.bottom, thinLine⟩, ⟨.left, none⟩]⟩
    [⟨.top, none⟩, ⟨.bottom, thickLine⟩] hcell).2⟩, hrows, (borders_threeLines.2 _ hrows).2 0⟩

end SchemaAtlas.Word
