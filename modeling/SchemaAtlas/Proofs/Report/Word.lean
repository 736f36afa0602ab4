import SchemaAtlas.Proofs.Report.Texts
import SchemaAtlas.Report.WordDocument

/-! Every text about a well-formed schema can stand in a Word document. -/

namespace SchemaAtlas

open SchemaAtlas.Text SchemaAtlas.Name

namespace Word

def Fit (text : String) : Prop := ∀ c ∈ text.toList, isForbidden c = false

instance (text : String) : Decidable (Fit text) := List.decidableBAll _ text.toList

lemma fit_of_within {marks : List Char} (hmarks : Avoids isForbidden marks) {text : String}
    (h : Within marks text) : Fit text := by
  intro c hc
  rcases h c hc with hname | hmark
  · obtain ⟨hlow, hhigh⟩ := toNat_of_isNameChar hname
    have hlast : c ≠ '\ufffe' ∧ c ≠ '\uffff' := by
      constructor <;> rintro rfl <;> exact absurd hhigh (by decide)
    have hcontrol : ¬ c.toNat < 32 := by omega
    simp [isForbidden, hlast, hcontrol]
  · exact hmarks c hmark

lemma fit_of_clean {name : String} (h : Clean name) : Fit name :=
  fit_of_within (avoids_nil _) h.within

lemma checked_eq_ok {d : Document} (h : ∀ p ∈ d.paragraphs, Fit p.text) : d.checked = .ok d := by
  have hfit : ∀ p ∈ d.paragraphs, ¬ p.text.toList.any isForbidden := by
    intro p hp hany
    obtain ⟨c, hc, hforbidden⟩ := List.any_eq_true.mp hany
    exact absurd hforbidden (by simp [h p hp c hc])
  rw [Document.checked, if_neg (by simpa using hfit)]

lemma text_of_runs {p : Paragraph} {r : Run} (h : p.runs = [r]) : p.text = r.text := by
  simp [Paragraph.text, h, String.join]

def paragraphsIn (rows : List (List Cell)) : List (List Paragraph) := rows.map (·.map (·.paragraph))

lemma paragraph_setBorders (c : Cell) (bs : List Border) : (c.setBorders bs).paragraph = c.paragraph := by
  induction bs generalizing c with
  | nil => rfl
  | cons b bs ih => exact ih (c.setBorder b)

lemma map_modifyLast {α β : Type} {f : α → α} {g : α → β} (h : ∀ a, g (f a) = g a) (as : List α) :
    (modifyLast f as).map g = as.map g := by
  fun_induction modifyLast f as with
  | case1 => rfl
  | case2 a => simp [h]
  | case3 a b as ih => simpa using ih

lemma map_modifyHead {α β : Type} {f : α → α} {g : α → β} (h : ∀ a, g (f a) = g a) (as : List α) :
    (as.modifyHead f).map g = as.map g := by
  cases as with
  | nil => rfl
  | cons a as => simp [h]

lemma paragraphsIn_threeLines (rows : List (List Cell)) : paragraphsIn (threeLines rows) = paragraphsIn rows := by
  have hborders (bs : List Border) (row : List Cell) :
      (row.map fun c => c.setBorders bs).map (·.paragraph) = row.map (·.paragraph) := by
    simp [paragraph_setBorders]
  have hclear : paragraphsIn (rows.map (·.map Cell.clear)) = paragraphsIn rows := by
    rw [paragraphsIn, List.map_map]
    exact List.map_congr_left fun row _ => hborders _ row
  have hlast := map_modifyLast (hborders [⟨.bottom, thickLine⟩])
  have hfirst := map_modifyHead (hborders [⟨.top, thickLine⟩, ⟨.bottom, thinLine⟩])
  exact (hlast _).trans ((hfirst _).trans hclear)

end Word

namespace Report

open Word

lemma fit_withBreaks {text : String} (h : Word.Fit text) : Word.Fit (withBreaks text) := by
  intro c hc
  rw [withBreaks, String.toList_ofList] at hc
  obtain ⟨d, hd, rfl⟩ := List.mem_map.mp hc
  split
  · decide
  · exact h d hd

def Fits (bs : List Block) : Prop := ∀ b ∈ bs, ∀ p ∈ b.paragraphs, Word.Fit p.text

lemma fits_paragraph {p : Paragraph} (h : Word.Fit p.text) : Fits [.paragraph p] := by
  simpa [Fits, Block.paragraphs] using h

lemma fits_run {p : Paragraph} {r : Run} (hp : p.runs = [r]) (h : Word.Fit r.text) : Fits [.paragraph p] :=
  fits_paragraph (text_of_runs hp ▸ h)

lemma fits_append {bs cs : List Block} (hb : Fits bs) (hc : Fits cs) : Fits (bs ++ cs) :=
  List.forall_mem_append.mpr ⟨hb, hc⟩

lemma fits_table {e : Entry} (h : e.Sound) : Fits [.table (threeLines (headerCells :: e.rows.map rowCells))] := by
  have hparagraphs : (Block.table (threeLines (headerCells :: e.rows.map rowCells))).paragraphs =
      (paragraphsIn (headerCells :: e.rows.map rowCells)).flatten := by
    rw [← paragraphsIn_threeLines, paragraphsIn, Block.paragraphs, List.map_flatten]
  have hheader : ∀ p ∈ headerCells.map (·.paragraph), Word.Fit p.text := by decide
  have hflag (b : Bool) : Word.Fit (withBreaks (yesNo b)) := by cases b <;> decide
  have hrow : ∀ row ∈ e.rows, ∀ p ∈ (rowCells row).map (·.paragraph), Word.Fit p.text := by
    intro row hrow
    obtain ⟨hname, htype⟩ := h.rows_clean row hrow
    simp [rowCells, columnWidths, plainRuns, Paragraph.text, hflag, fit_withBreaks (fit_of_clean hname),
      fit_withBreaks (fit_of_clean htype)]
  intro b hb p hp
  rw [List.mem_singleton.mp hb, hparagraphs, paragraphsIn, List.map_cons, List.flatten_cons, List.mem_append,
    List.map_map] at hp
  obtain hp | hp := hp
  · exact hheader p hp
  · obtain ⟨_, hm, hp⟩ := List.mem_flatten.mp hp
    obtain ⟨row, hmem, rfl⟩ := List.mem_map.mp hm
    exact hrow row hmem p hp

lemma fits_noteBlocks {e : Entry} (h : e.Sound) : Fits (noteBlocks e) := by
  have hline : Word.Fit (withBreaks e.noteLine) := fit_withBreaks (fit_of_within (by decide) h.within_noteLine)
  unfold noteBlocks
  split
  · exact fun b hb => absurd hb List.not_mem_nil
  · exact fits_run rfl hline

lemma fits_entryBlocks {e : Entry} (h : e.Sound) : Fits (entryBlocks e) := by
  have htext : Word.Fit (withBreaks e.heading) := fit_withBreaks (fit_of_within (by decide) h.within_heading)
  have hheading : Fits [centered [{ text := withBreaks e.heading, bold := true, size := some 24 }]] :=
    fits_run rfl htext
  have hend : Fits [.paragraph {}] := fits_paragraph (by decide)
  exact fits_append (fits_append (fits_append hheading (fits_table h)) (fits_noteBlocks h)) hend

lemma text_infoRuns (s : Schema) (generatedAt : Timestamp) :
    String.join ((infoRuns s generatedAt).map (·.text)) = joinWith "\n" (facts s generatedAt) := by
  have hruns : (infoRuns s generatedAt).map (·.text) = ["Generated: " ++ generatedAt.text ++ "\n",
    "Tables: " ++ Nat.repr s.size ++ "\n", "Relationships: " ++ Nat.repr s.relationships.length] := rfl
  rw [hruns, facts_eq]
  simp [joinWith, String.join, String.append_assoc]

theorem wordDocument_eq_ok {s : Schema} (h : s.WellFormed) (generatedAt : Timestamp) :
    wordDocument s generatedAt = .ok (wordContent s generatedAt) := by
  have htitle : Fits
      [.paragraph { style := .title, centered := true, runs := [{ text := documentationTitle }] }] :=
    fits_paragraph (by decide)
  have hinfo : Fits [centered (infoRuns s generatedAt)] := by
    have hline : Word.Fit "\n" := by decide
    have hfacts : ∀ fact ∈ facts s generatedAt, Word.Fit fact := fun fact hfact =>
      fit_of_within (by decide) (within_facts s generatedAt fact hfact)
    apply fits_paragraph
    rw [Paragraph.text, text_infoRuns]
    exact forall_mem_joinWith hline hfacts
  have hentries : Fits ((entries s).flatMap entryBlocks) := by
    intro b hb
    obtain ⟨e, he, hb⟩ := List.mem_flatMap.mp hb
    exact fits_entryBlocks (sound_of_mem_entries h he) b hb
  have hend : Fits [centered [{ text := "Generated automatically by sql-dump-der", size := some 18 }]] :=
    fits_paragraph (by decide)
  have hall : Fits (wordContent s generatedAt).blocks :=
    fits_append (fits_append (fits_append htitle hinfo) hentries) hend
  apply checked_eq_ok
  intro p hp
  obtain ⟨b, hb, hp⟩ := List.mem_flatMap.mp hp
  exact hall b hb p hp

end Report

end SchemaAtlas
