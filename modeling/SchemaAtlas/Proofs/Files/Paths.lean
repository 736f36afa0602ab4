import SchemaAtlas.Files.Path
import SchemaAtlas.Proofs.Text.Lines

/-! A path is read back from its text if none of its names is idle or holds a slash. -/

namespace SchemaAtlas.Files

open SchemaAtlas.Text

namespace Path

def Proper (p : Path) : Prop := ∀ name ∈ p.names, isIdle name.toList = false ∧ '/' ∉ name.toList

lemma proper_ofText (text : String) : (ofText text).Proper := by
  intro name hname
  obtain ⟨piece, hpiece, rfl⟩ := List.mem_map.mp hname
  obtain ⟨hcut, hidle⟩ := List.mem_filter.mp hpiece
  rw [String.toList_ofList]
  exact ⟨by simpa using hidle, not_mem_of_mem_cutAt hcut⟩

lemma Proper.within {directory p : Path} (hdirectory : directory.Proper) (hp : p.Proper) :
    (within directory p).Proper := by
  rw [Path.within]
  split
  · exact List.forall_mem_append.mpr ⟨hdirectory, hp⟩
  · exact hp

lemma cutAt_joinWith {names : List String} (hne : names ≠ []) (h : ∀ name ∈ names, '/' ∉ name.toList) :
    cutAt '/' (joinWith "/" names).toList = names.map String.toList := by
  have hseparator : "/".toList = [] ++ '/' :: [] := rfl
  have hmargin : ∀ x : List Char, x = [] → '/' ∉ x := by
    rintro x rfl
    exact List.not_mem_nil
  have hread : ∀ name ∈ names, '/' ∉ name.toList ∧
      ∀ x y : List Char, x = [] → y = [] → id (x ++ (name.toList ++ y)) = name.toList := by
    intro name hname
    refine ⟨h name hname, ?_⟩
    rintro x y rfl rfl
    exact List.append_nil _
  have hcut := map_cutAt_joinWith hseparator hmargin rfl rfl hne hread rfl rfl
  rwa [List.map_id, List.nil_append, List.append_nil] at hcut

lemma head?_joinWith {names : List String} (h : ∀ name ∈ names, isIdle name.toList = false ∧ '/' ∉ name.toList) :
    ∀ c ∈ (joinWith "/" names).toList.head?, c ≠ '/' := by
  cases names with
  | nil => simp [joinWith]
  | cons name names =>
    obtain ⟨⟨hidle, hslash⟩, -⟩ := List.forall_mem_cons.mp h
    rw [toList_joinWith_cons]
    cases hname : name.toList with
    | nil => simp [isIdle, hname] at hidle
    | cons c s =>
      rw [hname] at hslash
      simpa using Ne.symm (List.ne_of_not_mem_cons hslash)

lemma ofText_append {text : String} (h : ∀ c ∈ text.toList.head?, c ≠ '/') (a : Anchor) :
    ofText (a.text ++ text) = ⟨a, (ofText text).names⟩ := by
  have hslashes : text.toList.takeWhile (· == '/') = [] := by
    cases htext : text.toList with
    | nil => rfl
    | cons c s => exact List.takeWhile_cons_of_neg (by simpa [htext] using h)
  cases a <;> simp [ofText, Anchor.text, Anchor.ofSlashes, hslashes, isIdle]

lemma ofText_text {p : Path} (h : p.Proper) : ofText p.text = p := by
  obtain ⟨a, names⟩ := p
  cases names with
  | nil => cases a <;> rfl
  | cons name names =>
    have hkept : ((name :: names).map String.toList).filter (!isIdle ·) = (name :: names).map String.toList := by
      apply List.filter_eq_self.mpr
      intro piece hpiece
      obtain ⟨n, hn, rfl⟩ := List.mem_map.mp hpiece
      simp [(h n hn).1]
    have htext : text ⟨a, name :: names⟩ = a.text ++ joinWith "/" (name :: names) := by simp [text]
    rw [htext, ofText_append (head?_joinWith h), ofText, cutAt_joinWith (by simp) fun n hn => (h n hn).2, hkept,
      List.map_map]
    simp [Function.comp_def]

end Path

end SchemaAtlas.Files
