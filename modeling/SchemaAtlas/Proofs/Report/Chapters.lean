import SchemaAtlas.Proofs.Report.PageTags
import SchemaAtlas.Proofs.Report.Word
import SchemaAtlas.Proofs.Text.Reading

/-! A documentation has a few facts and a chapter on each table. Both are read from the blocks of a Word
document, and from the tags of a page. -/

namespace SchemaAtlas.Report

open SchemaAtlas.Text SchemaAtlas.Text.Markup SchemaAtlas.Word

@[ext]
structure Chapter where
  heading : String
  headers : List String
  rows : List (List String)
  note : Option String
deriving DecidableEq, Repr

@[ext]
structure Documentation where
  facts : List String
  chapters : List Chapter
deriving DecidableEq, Repr

def factIn (piece : List Char) : String := String.ofList (trim piece)

def factsIn (separator : Char) (text : String) : List String := (cutAt separator text.toList).map factIn

def noteIn : List Block → Option String
  | .paragraph p :: _ => if p.text = "" then none else some p.text
  | _ => none

def chaptersIn : List Block → List Chapter
  | .paragraph p :: .table rows :: bs =>
    let texts := (paragraphsIn rows).map (·.map Paragraph.text)
    ⟨p.text, texts.headD [], texts.tail, noteIn bs⟩ :: chaptersIn bs
  | _ :: bs => chaptersIn bs
  | [] => []

def Documentation.ofBlocks : List Block → Documentation
  | title :: .paragraph p :: bs => ⟨factsIn '\n' p.text, chaptersIn (title :: .paragraph p :: bs)⟩
  | bs => ⟨[], chaptersIn bs⟩

def textsBefore (inside : String) (ts : List Tag) : List String := (ts.filter (·.inside == inside)).map (·.text)

def Chapter.ofTags (ts : List Tag) : Chapter where
  heading := String.join (textsBefore "/h2" ts)
  headers := textsBefore "/th" ts
  rows :=
    let body := ((ts.dropWhile (·.inside != "tbody")).drop 1).takeWhile (·.inside != "/tbody")
    (body.splitOnP (·.inside == "/tr")).dropLast.map (textsBefore "/td")
  note := ((ts.dropWhile (·.inside != "div class=\"note\"")).drop 1).head?.map (·.text)

def Documentation.ofTags (ts : List Tag) : Documentation where
  facts := (textsBefore "/p" ts).flatMap (factsIn '·')
  chapters := (ts.splitOnP (·.inside == "div class=\"table-section\"")).tail.map Chapter.ofTags

def Chapter.ofEntry (e : Entry) : Chapter where
  heading := e.heading
  headers := columnHeaders
  rows := e.rows.map fun r => [r.name, r.type, yesNo r.nullable, yesNo r.primaryKey]
  note := if e.notes = [] then none else some e.noteLine

lemma factsIn_joinWith {k : Char} {separator : String} {a b : List Char}
    (hseparator : separator.toList = a ++ k :: b) (ha : Blanks a ∧ k ∉ a) (hb : Blanks b ∧ k ∉ b)
    {facts : List String} (hne : facts ≠ [])
    (h : ∀ fact ∈ facts, k ∉ fact.toList ∧ Tight fact.toList ∧ fact ≠ "") :
    factsIn k (joinWith separator facts) = facts := by
  have hnil : Blanks [] ∧ k ∉ [] := ⟨blanks_nil, List.not_mem_nil⟩
  have hfacts : ∀ fact ∈ facts, k ∉ fact.toList ∧
      ∀ x y, Blanks x ∧ k ∉ x → Blanks y ∧ k ∉ y → factIn (x ++ (fact.toList ++ y)) = fact := by
    intro fact hfact
    obtain ⟨hk, htight, hne⟩ := h fact hfact
    refine ⟨hk, fun x y hx hy => ?_⟩
    rw [factIn, trim_append hx.1 htight (by simpa using hne) hy.1, String.ofList_toList]
  have hread := map_cutAt_joinWith hseparator (fun x => And.right) ha hb hne hfacts hnil hnil
  rwa [List.nil_append, List.append_nil, List.map_id'] at hread

lemma tight_append_repr {x : List Char} (hx : Bars isBlank x) (hne : x ≠ []) (n : ℕ) :
    Tight (x ++ (Nat.repr n).toList) := by
  have hdigits : Solid (Nat.repr n).toList.reverse := fun c hc =>
    Name.isBlank_of_isNameChar (Name.clean_repr n c (List.mem_reverse.mp hc))
  refine ⟨hx.append hne _, ?_⟩
  rw [List.reverse_append]
  exact bars_append (by simp [Nat.toDigits_ne_nil]) hdigits

variable (s : Schema) (generatedAt : Timestamp)

lemma tight_facts : ∀ fact ∈ facts s generatedAt, Tight fact.toList ∧ fact ≠ "" := by
  have hnumbered : ∀ fact ∈ facts s generatedAt, ∃ words n, fact = words ++ Nat.repr n ∧
      Bars isBlank words.toList ∧ words ≠ "" := by
    obtain ⟨before, hbefore⟩ := generatedAt.exists_text_eq
    have hgenerated : Bars isBlank "Generated: ".toList ∧ "Generated: ".toList ≠ [] := by decide
    have hstart : Bars isBlank ("Generated: " ++ before).toList := by
      rw [String.toList_append]
      exact hgenerated.1.append hgenerated.2 _
    simp only [facts_eq, List.forall_mem_cons, hbefore, ← String.append_assoc]
    exact ⟨⟨_, _, rfl, hstart, by simp⟩, ⟨_, _, rfl, by decide, by decide⟩, ⟨_, _, rfl, by decide, by decide⟩,
      List.forall_mem_nil _⟩
  intro fact hfact
  obtain ⟨words, n, rfl, hwords, hne⟩ := hnumbered fact hfact
  have hnil : words.toList ≠ [] := by simpa using hne
  rw [String.toList_append]
  exact ⟨tight_append_repr hwords hnil n, by simp [hne]⟩

lemma factsIn_lines : factsIn '\n' (joinWith "\n" (facts s generatedAt)) = facts s generatedAt := by
  refine factsIn_joinWith (a := []) (b := []) rfl (by decide) (by decide) (List.cons_ne_nil _ _)
    fun fact hfact => ?_
  exact ⟨(within_facts s generatedAt fact hfact).not_mem (by decide), tight_facts s generatedAt fact hfact⟩

lemma factsIn_dots : factsIn '·' (joinWith " · " (facts s generatedAt)) = facts s generatedAt := by
  refine factsIn_joinWith (a := [' ']) (b := [' ']) (by decide) (by decide) (by decide) (List.cons_ne_nil _ _)
    fun fact hfact => ?_
  exact ⟨(within_facts s generatedAt fact hfact).not_mem (by decide), tight_facts s generatedAt fact hfact⟩

lemma chaptersIn_paragraphs (p q : Paragraph) (bs : List Block) :
    chaptersIn (.paragraph p :: .paragraph q :: bs) = chaptersIn (.paragraph q :: bs) := rfl

lemma withBreaks_of_within {marks : List Char} (hmarks : '\r' ∉ marks) {text : String}
    (h : Name.Within marks text) : withBreaks text = text := by
  have hbreak : '\r' ∉ text.toList := h.not_mem ⟨by decide, hmarks⟩
  have hchars : ∀ c ∈ text.toList, (if c = '\r' then '\n' else c) = c := fun c hc =>
    if_neg (ne_of_mem_of_not_mem hc hbreak)
  rw [withBreaks, List.map_congr_left hchars, List.map_id', String.ofList_toList]

lemma withBreaks_of_clean {name : String} (h : Name.Clean name) : withBreaks name = name :=
  withBreaks_of_within List.not_mem_nil h.within

lemma texts_rowCells {r : Row} (h : Name.Clean r.name ∧ Name.Clean r.type) :
    (rowCells r).map (·.paragraph.text) = [r.name, r.type, yesNo r.nullable, yesNo r.primaryKey] := by
  have hflag (b : Bool) : withBreaks (yesNo b) = yesNo b := by cases b <;> decide
  simp [rowCells, columnWidths, plainRuns, Paragraph.text, withBreaks_of_clean h.1, withBreaks_of_clean h.2, hflag]

lemma texts_table {e : Entry} (h : e.Sound) :
    (paragraphsIn (threeLines (headerCells :: e.rows.map rowCells))).map (·.map Paragraph.text) =
      columnHeaders :: (Chapter.ofEntry e).rows := by
  have hheader : headerCells.map (·.paragraph.text) = columnHeaders := by decide
  have hrows : (e.rows.map fun r => (rowCells r).map (·.paragraph.text)) = (Chapter.ofEntry e).rows :=
    List.map_congr_left fun r hr => texts_rowCells (h.rows_clean r hr)
  rw [← hheader, ← hrows, paragraphsIn_threeLines, paragraphsIn]
  simp [Function.comp_def]

lemma noteIn_noteBlocks {e : Entry} (h : e.Sound) (bs : List Block) :
    noteIn (noteBlocks e ++ .paragraph {} :: bs) = (Chapter.ofEntry e).note := by
  have hline : withBreaks e.noteLine = e.noteLine := withBreaks_of_within (by decide) h.within_noteLine
  have hne : e.noteLine ≠ "" := by simp [Entry.noteLine]
  by_cases hnotes : e.notes = []
  · rw [noteBlocks, if_pos (List.isEmpty_iff.mpr hnotes), Chapter.ofEntry, if_pos hnotes]
    rfl
  · rw [noteBlocks, if_neg (mt List.isEmpty_iff.mp hnotes), Chapter.ofEntry, if_neg hnotes]
    change (if Paragraph.text _ = "" then none else some (Paragraph.text _)) = _
    rw [text_of_runs rfl]
    change (if withBreaks e.noteLine = "" then none else some (withBreaks e.noteLine)) = _
    rw [hline, if_neg hne]

lemma chaptersIn_entryBlocks {e : Entry} (h : e.Sound) (p : Paragraph) (bs : List Block) :
    chaptersIn (entryBlocks e ++ .paragraph p :: bs) = Chapter.ofEntry e :: chaptersIn (.paragraph p :: bs) := by
  have hnote : chaptersIn (noteBlocks e ++ .paragraph {} :: .paragraph p :: bs) =
      chaptersIn (.paragraph p :: bs) := by
    unfold noteBlocks
    split <;> rfl
  have hblocks : entryBlocks e ++ .paragraph p :: bs =
      centered [{ text := withBreaks e.heading, bold := true, size := some 24 }] ::
        .table (threeLines (headerCells :: e.rows.map rowCells)) ::
          (noteBlocks e ++ .paragraph {} :: .paragraph p :: bs) := by
    simp [entryBlocks]
  rw [hblocks, centered, chaptersIn, hnote, noteIn_noteBlocks h, texts_table h, text_of_runs rfl,
    withBreaks_of_within (by decide) h.within_heading]
  rfl

lemma exists_paragraph_cons (es : List Entry) (p : Paragraph) :
    ∃ q bs, es.flatMap entryBlocks ++ [.paragraph p] = .paragraph q :: bs := by
  -- behind a chapter comes the heading of the next one or the last paragraph
  cases es with
  | nil => exact ⟨p, [], rfl⟩
  | cons e es => exact ⟨_, _, rfl⟩

lemma chaptersIn_entries {es : List Entry} (h : ∀ e ∈ es, e.Sound) (p : Paragraph) :
    chaptersIn (es.flatMap entryBlocks ++ [.paragraph p]) = es.map Chapter.ofEntry := by
  induction es with
  | nil => rfl
  | cons e es ih =>
    obtain ⟨he, hes⟩ := List.forall_mem_cons.mp h
    obtain ⟨q, bs, hnext⟩ := exists_paragraph_cons es p
    rw [List.flatMap_cons, List.append_assoc, hnext, chaptersIn_entryBlocks he, ← hnext, ih hes, List.map_cons]

lemma ofBlocks_wordContent {s : Schema} (h : s.WellFormed) (generatedAt : Timestamp) :
    Documentation.ofBlocks (wordContent s generatedAt).blocks =
      ⟨facts s generatedAt, (entries s).map Chapter.ofEntry⟩ := by
  let title : Paragraph := { style := .title, centered := true, runs := [{ text := documentationTitle }] }
  let info : Paragraph := { centered := true, runs := infoRuns s generatedAt }
  let last : Paragraph :=
    { centered := true, runs := [{ text := "Generated automatically by sql-dump-der", size := some 18 }] }
  have hblocks : (wordContent s generatedAt).blocks =
      .paragraph title :: .paragraph info :: ((entries s).flatMap entryBlocks ++ [.paragraph last]) := rfl
  have hinfo : info.text = joinWith "\n" (facts s generatedAt) := text_infoRuns s generatedAt
  obtain ⟨q, bs, hnext⟩ := exists_paragraph_cons (entries s) last
  have hchapters : chaptersIn (.paragraph title :: .paragraph info :: .paragraph q :: bs) =
      (entries s).map Chapter.ofEntry := by
    rw [chaptersIn_paragraphs, chaptersIn_paragraphs, ← hnext,
      chaptersIn_entries fun e he => sound_of_mem_entries h he]
  rw [hblocks, hnext, Documentation.ofBlocks, hinfo, factsIn_lines, hchapters]

open Html

def Without (inside : String) (ts : List Tag) : Prop := ∀ t ∈ ts, t.inside ≠ inside

instance (inside : String) (ts : List Tag) : Decidable (Without inside ts) := List.decidableBAll _ ts

lemma textsBefore_append (inside : String) (ts us : List Tag) :
    textsBefore inside (ts ++ us) = textsBefore inside ts ++ textsBefore inside us := by
  rw [textsBefore, List.filter_append, List.map_append, textsBefore, textsBefore]

lemma Without.textsBefore_eq_nil {inside : String} {ts : List Tag} (h : Without inside ts) :
    textsBefore inside ts = [] := by
  have hfilter : ts.filter (·.inside == inside) = [] :=
    List.filter_eq_nil_iff.mpr fun t ht => by simpa using h t ht
  rw [textsBefore, hfilter, List.map_nil]

lemma Without.bne {inside : String} {ts : List Tag} (h : Without inside ts) :
    ∀ t ∈ ts, (t.inside != inside) = true := fun t ht => bne_iff_ne.mpr (h t ht)

lemma Without.append {inside : String} {ts us : List Tag} (hts : Without inside ts) (hus : Without inside us) :
    Without inside (ts ++ us) :=
  List.forall_mem_append.mpr ⟨hts, hus⟩

lemma without_rows {inside : String} (h : inside ∉ rowInsides) (rs : List Row) :
    Without inside (rs.flatMap rowTags) := fun t ht heq => h (heq ▸ inside_mem_rowInsides t ht)

lemma splitOnP_rows (rs : List Row) :
    (rs.flatMap rowTags).splitOnP (·.inside == "/tr") = rs.map cellTags ++ [[]] := by
  induction rs with
  | nil => rfl
  | cons r rs ih =>
    have hcells : ∀ t ∈ cellTags r, (t.inside == "/tr") = false := by
      cases hn : r.nullable <;> cases hk : r.primaryKey <;> simp [cellTags, hn, hk]
    rw [List.flatMap_cons, rowTags, List.append_assoc, List.singleton_append,
      List.splitOnP_append_cons_of_forall_mem hcells _ (by decide), ih]
    rfl

lemma texts_cellTags (r : Row) :
    textsBefore "/td" (cellTags r) = [r.name, r.type, yesNo r.nullable, yesNo r.primaryKey] := by
  cases hn : r.nullable <;> cases hk : r.primaryKey <;> simp [textsBefore, cellTags, hn, hk]

variable (e : Entry) {after : List Tag}

lemma without_bodyTags {inside : String} (h : inside ∈ ["/h2", "/th", "/p", "div class=\"table-section\""]) :
    Without inside (bodyTags e) := by
  have hrows : inside ∉ rowInsides := by
    revert inside
    decide
  have hmarks : Without inside [bodyTag] ∧ Without inside [⟨"\n", "/tbody"⟩, ⟨"\n", "/table"⟩] ∧
      Without inside [⟨"\n", "/div"⟩] := by
    revert inside
    decide
  have hnote : Without inside (noteTags e) := by
    unfold noteTags Without
    revert inside
    split <;> simp
  exact (((hmarks.1.append (without_rows hrows e.rows)).append hmarks.2.1).append hnote).append hmarks.2.2

lemma without_chapterTags {inside : String} (h : inside ∈ ["/p", "div class=\"table-section\""]) :
    Without inside (chapterTags e) := by
  have hhead : Without inside (headTags e) := by
    unfold Without
    revert inside
    simp [headTags, columnHeaders]
  exact hhead.append (without_bodyTags e (List.mem_append_right ["/h2", "/th"] h))

section After

variable (hafter : after = [] ∨ after = closingTags)

include hafter

lemma without_after : ∀ inside ∈ ["/h2", "/th", "div class=\"note\""], Without inside after := by
  rcases hafter with rfl | rfl <;> decide

lemma textsBefore_chapterTags {inside : String} (h : inside ∈ ["/h2", "/th"]) :
    textsBefore inside (chapterTags e ++ after) = textsBefore inside (headTags e) := by
  have hbody : Without inside (bodyTags e) :=
    without_bodyTags e (List.mem_append_left ["/p", "div class=\"table-section\""] h)
  have hend : Without inside after := without_after hafter inside (List.mem_append_left ["div class=\"note\""] h)
  rw [chapterTags, textsBefore_append, textsBefore_append, hbody.textsBefore_eq_nil, hend.textsBefore_eq_nil,
    List.append_nil, List.append_nil]

omit hafter in
lemma body_chapterTags :
    (((chapterTags e ++ after).dropWhile (·.inside != "tbody")).drop 1).takeWhile (·.inside != "/tbody") =
      e.rows.flatMap rowTags := by
  have hhead : Without "tbody" (headTags e) := by simp [Without, headTags, columnHeaders]
  have hrows : Without "/tbody" (e.rows.flatMap rowTags) := without_rows (by decide) e.rows
  have hsplit : chapterTags e ++ after = headTags e ++ bodyTag :: (e.rows.flatMap rowTags ++ ⟨"\n", "/tbody"⟩ ::
      (⟨"\n", "/table"⟩ :: noteTags e ++ ⟨"\n", "/div"⟩ :: after)) := by
    simp [chapterTags, bodyTags]
  rw [hsplit, List.dropWhile_append_of_pos hhead.bne, List.dropWhile_cons_of_neg (by decide), List.drop_one,
    List.tail_cons, List.takeWhile_append_of_pos hrows.bne, List.takeWhile_cons_of_neg (by decide),
    List.append_nil]

lemma note_chapterTags :
    (((chapterTags e ++ after).dropWhile (·.inside != "div class=\"note\"")).drop 1).head?.map (·.text) =
      (Chapter.ofEntry e).note := by
  have hbefore : Without "div class=\"note\""
      (headTags e ++ [bodyTag] ++ e.rows.flatMap rowTags ++ [⟨"\n", "/tbody"⟩, ⟨"\n", "/table"⟩]) := by
    have hhead : Without "div class=\"note\"" (headTags e) := by simp [Without, headTags, columnHeaders]
    exact ((hhead.append (by decide)).append (without_rows (by decide) e.rows)).append (by decide)
  have hsplit : chapterTags e ++ after = (headTags e ++ [bodyTag] ++ e.rows.flatMap rowTags ++
      [⟨"\n", "/tbody"⟩, ⟨"\n", "/table"⟩]) ++ (noteTags e ++ ⟨"\n", "/div"⟩ :: after) := by
    simp [chapterTags, bodyTags]
  rw [hsplit, List.dropWhile_append_of_pos hbefore.bne, noteTags, Chapter.ofEntry]
  by_cases hnotes : e.notes = []
  · have hend : Without "div class=\"note\"" (⟨"\n", "/div"⟩ :: after) :=
      List.forall_mem_cons.mpr ⟨by decide, without_after hafter _ (by decide)⟩
    rw [if_pos hnotes, if_pos hnotes, List.nil_append, List.dropWhile_eq_nil_iff.mpr hend.bne]
    rfl
  · rw [if_neg hnotes, if_neg hnotes, List.cons_append, List.dropWhile_cons_of_neg (by simp)]
    rfl

lemma ofTags_chapterTags : Chapter.ofTags (chapterTags e ++ after) = Chapter.ofEntry e := by
  have hheading : String.join (textsBefore "/h2" (headTags e)) = e.heading := by
    simp [textsBefore, headTags, columnHeaders, String.join]
  have hheaders : textsBefore "/th" (headTags e) = columnHeaders := by
    simp [textsBefore, headTags, columnHeaders]
  have hrows : (e.rows.map cellTags).map (textsBefore "/td") = (Chapter.ofEntry e).rows := by
    rw [List.map_map]
    exact List.map_congr_left fun r _ => texts_cellTags r
  rw [Chapter.ofTags, textsBefore_chapterTags e hafter (by decide), textsBefore_chapterTags e hafter (by decide),
    hheading, hheaders, note_chapterTags e hafter]
  simp only [body_chapterTags, splitOnP_rows, List.dropLast_concat, hrows]
  rfl

end After

lemma without_openingTags : Without "/p" openingTags ∧ Without "div class=\"table-section\"" openingTags := by
  simp [Without, openingTags, titleTags, styleTags, containerTags]

lemma exists_splitOnP (es : List Entry) {ts : List Tag} (h : Without "div class=\"table-section\"" ts) :
    ∃ after chapters, (after = [] ∨ after = closingTags) ∧
      (ts ++ (es.flatMap entryTags ++ closingTags)).splitOnP (·.inside == "div class=\"table-section\"") =
        (ts ++ after) :: chapters ∧
      chapters.map Chapter.ofTags = es.map Chapter.ofEntry := by
  induction es generalizing ts with
  | nil =>
    have hall : ∀ t ∈ ts ++ closingTags, (t.inside == "div class=\"table-section\"") = false := fun t ht =>
      beq_false_of_ne (h.append (by decide) t ht)
    exact ⟨closingTags, [], .inr rfl, List.splitOnP_eq_singleton hall, rfl⟩
  | cons e es ih =>
    obtain ⟨after, chapters, hafter, hsplit, hchapters⟩ := ih (without_chapterTags e (by decide))
    have hall : ∀ t ∈ ts, (t.inside == "div class=\"table-section\"") = false :=
      fun t ht => beq_false_of_ne (h t ht)
    refine ⟨[], (chapterTags e ++ after) :: chapters, .inl rfl, ?_, ?_⟩
    · rw [List.flatMap_cons, entryTags, List.append_assoc, List.cons_append,
        List.splitOnP_append_cons_of_forall_mem hall _ (by decide), hsplit, List.append_nil]
    · rw [List.map_cons, ofTags_chapterTags e hafter, hchapters, List.map_cons]

lemma textsBefore_tags_page (h : ∀ e ∈ entries s, ∀ r ∈ e.rows, escape r.type = r.type) :
    textsBefore "/p" (tags (Html.page s generatedAt).toList) = [joinWith " · " (facts s generatedAt)] := by
  have hentries : Without "/p" ((entries s).flatMap entryTags ++ closingTags) := by
    apply Without.append _ (by decide)
    intro t ht
    obtain ⟨e, -, ht⟩ := List.mem_flatMap.mp ht
    have hentry : Without "/p" (entryTags e) :=
      List.forall_mem_cons.mpr ⟨by decide, without_chapterTags e (by decide)⟩
    exact hentry t ht
  have hfacts : textsBefore "/p" (factTags s generatedAt) = [joinWith " · " (facts s generatedAt)] := by
    simp [textsBefore, factTags]
  have hsplit : tags (Html.page s generatedAt).toList =
      openingTags ++ (factTags s generatedAt ++ ((entries s).flatMap entryTags ++ closingTags)) := by
    rw [tags_page s generatedAt h, pageTags]
    simp only [List.append_assoc]
  rw [hsplit, textsBefore_append, textsBefore_append, without_openingTags.1.textsBefore_eq_nil, hfacts,
    hentries.textsBefore_eq_nil, List.nil_append, List.append_nil]

lemma ofTags_page (h : ∀ e ∈ entries s, ∀ r ∈ e.rows, escape r.type = r.type) :
    Documentation.ofTags (tags (Html.page s generatedAt).toList) =
      ⟨facts s generatedAt, (entries s).map Chapter.ofEntry⟩ := by
  have hopening : Without "div class=\"table-section\"" (openingTags ++ factTags s generatedAt) :=
    without_openingTags.2.append (by simp [Without, factTags])
  obtain ⟨after, chapters, -, hsplit, hchapters⟩ := exists_splitOnP (entries s) hopening
  have htags : tags (Html.page s generatedAt).toList =
      (openingTags ++ factTags s generatedAt) ++ ((entries s).flatMap entryTags ++ closingTags) := by
    rw [tags_page s generatedAt h, pageTags, List.append_assoc]
  rw [Documentation.ofTags, textsBefore_tags_page s generatedAt h, List.flatMap_singleton, factsIn_dots, htags,
    hsplit, List.tail_cons, hchapters]

end SchemaAtlas.Report
