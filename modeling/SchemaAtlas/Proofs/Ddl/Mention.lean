import SchemaAtlas.Ddl.Member
import SchemaAtlas.Proofs.Text.Passing

/-! Which definitions speak of a key. Over ASCII this is decided by the phrases that can be read. -/

namespace SchemaAtlas.Ddl

open SchemaAtlas.Text

def Ascii (x : List Char) : Prop := ∀ c ∈ x, c.toNat < 128

instance (x : List Char) : Decidable (Ascii x) := List.decidableBAll _ x

lemma Ascii.append {x y : List Char} (hx : Ascii x) (hy : Ascii y) : Ascii (x ++ y) := by
  intro c hc
  rcases List.mem_append.mp hc with h | h
  · exact hx c h
  · exact hy c h

lemma caseless_of_ascii {c : Char} (h : c.toNat < 128) : caseless c = c.toUpper := by
  have hne : ∀ d : Char, 128 ≤ d.toNat → c ≠ d := by
    rintro d hd rfl
    omega
  rw [caseless, if_neg, if_neg (hne _ (by decide)), if_neg (hne _ (by decide))]
  exact not_or.mpr ⟨hne _ (by decide), hne _ (by decide)⟩

lemma upper_of_ascii {d : List Char} (h : Ascii d) : upper d = d.map caseless := by
  induction d with
  | nil => rfl
  | cons c d ih =>
    obtain ⟨hc, hd⟩ := List.forall_mem_cons.mp h
    rw [upper_cons, upperChar_of_ascii hc, ih hd, List.map_cons, caseless_of_ascii hc]
    rfl

lemma eq_of_caseless_eq_blank {c : Char} (h : caseless c = ' ') : c = ' ' := by
  unfold caseless at h
  split at h
  · exact absurd h (by decide)
  split at h
  · exact absurd h (by decide)
  split at h
  · exact absurd h (by decide)
  · by_cases hl : 'a'.val ≤ c.val ∧ c.val ≤ 'z'.val
    · have h₁ : 97 ≤ c.val.toNat := hl.1
      have h₂ : c.val.toNat ≤ 122 := hl.2
      obtain ⟨hv, hupper⟩ : ∃ hv, c.toUpper = ⟨c.val + ('A'.val - 'a'.val), hv⟩ := ⟨_, dif_pos hl⟩
      have hval : (c.val + ('A'.val - 'a'.val)).toNat = ' '.val.toNat := by rw [← h, hupper]
      have hshift : ('A'.val - 'a'.val).toNat = 4294967264 := rfl
      have hblank : ' '.val.toNat = 32 := rfl
      rw [UInt32.toNat_add, hshift, hblank] at hval
      omega
    · exact (dif_neg hl).symm.trans h

lemma mentions_of_append {p : String} (hp : upper p.toList = p.toList) (a b : List Char) :
    mentions p (a ++ (p.toList ++ b)) = true := by
  rw [mentions, contains_iff, upper_append, upper_append, hp]
  exact ⟨upper a, upper b, by simp⟩

lemma mentions_eq_false {p : String} {w v d : List Char} (hp : p.toList = w ++ ' ' :: v)
    (hw : Capitals w) (hv : Capitals v) (ha : Ascii d) (h : Passes (phrase w v) d []) :
    mentions p d = false := by
  by_contra hmention
  rw [Bool.not_eq_false, mentions, contains_iff, hp, upper_of_ascii ha] at hmention
  obtain ⟨a, b, hab⟩ := hmention
  have hsplit : d.map caseless = a ++ (w ++ (' ' :: (v ++ b))) := by simpa using hab.symm
  obtain ⟨x, _, rfl, _, hd⟩ := List.map_eq_append_iff.mp hsplit
  obtain ⟨k, _, rfl, hk, hd⟩ := List.map_eq_append_iff.mp hd
  obtain ⟨c, _, rfl, hc, hd⟩ := List.map_eq_cons_iff.mp hd
  obtain ⟨k', z, rfl, hk', _⟩ := List.map_eq_append_iff.mp hd
  obtain rfl := eq_of_caseless_eq_blank hc
  have hne : k ≠ [] := by
    rintro rfl
    exact hw.1 hk.symm
  have hne' : k' ≠ [] := by
    rintro rfl
    exact hv.1 hk'.symm
  have hbars : Bars isBlank (k' ++ z) := (solid_of_map_caseless hv.solid hk').bars hne'
  have hspaced : Spaced w (k ++ [' ']) := ⟨k, [' '], hk, by decide, rfl⟩
  have hnone := h (k ++ ' ' :: (k' ++ z)) (List.suffix_append x _) (by simp [hne])
  have hread : phrase w v ((k ++ [' ']) ++ (k' ++ z)) = some z := by
    rw [phrase, hspaced.read hbars]
    exact keyword_append hk' z
  rw [List.append_nil] at hnone
  simp [hnone] at hread

end SchemaAtlas.Ddl
