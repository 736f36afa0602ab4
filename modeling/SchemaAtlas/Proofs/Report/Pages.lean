import SchemaAtlas.Proofs.Report.Distribution
import SchemaAtlas.Proofs.Text.Lines
import SchemaAtlas.Proofs.Text.Numbers

/-! Links, numbers and headings are read from the lines of partitioned documents, whatever the tables and
the documents are called. -/

namespace SchemaAtlas.Report

open SchemaAtlas.Text

structure Link where
  label : String
  target : String
deriving DecidableEq, Repr

def Link.inLine? (line : String) : Option Link := do
  let s ← (cutOnce '[' line.toList).2
  let (label, rest) := cutOnce ']' s
  let t ← rest >>= char '('
  return ⟨String.ofList label, String.ofList (t.rdropWhile (· != ')')).dropLast⟩

structure Page where
  filename : String
  lines : List String

namespace Page

def document (p : Page) : Document := ⟨p.filename, unlines p.lines⟩

def beginning (p : Page) (words : String) : List String := p.lines.filter (begins words)

def navigation (p : Page) : List Link :=
  (((p.lines.dropWhile (· != "## Navigation")).drop 2).takeWhile (· != "")).filterMap Link.inLine?

def numbers (p : Page) (words : String) : List (List ℕ) :=
  (p.beginning words).map fun line => numbersIn line.toList

end Page

lemma inLine?_link {before label target after : String} (hbefore : '[' ∉ before.toList)
    (hlabel : ']' ∉ label.toList) (hafter : ')' ∉ after.toList) :
    Link.inLine? (before ++ "[" ++ label ++ "](" ++ target ++ ")" ++ after) = some ⟨label, target⟩ := by
  have hline : (before ++ "[" ++ label ++ "](" ++ target ++ ")" ++ after).toList =
      before.toList ++ '[' :: (label.toList ++ ']' :: '(' :: (target.toList ++ ')' :: after.toList)) := by
    simp
  have hdrop : ∀ c ∈ after.toList.reverse, (c != ')') = true := by
    intro c hc
    simpa using ne_of_mem_of_not_mem (List.mem_reverse.mp hc) hafter
  have htarget : ((target.toList ++ ')' :: after.toList).rdropWhile (· != ')')).dropLast =
      target.toList := by
    rw [List.rdropWhile, List.reverse_append, List.reverse_cons, List.append_assoc,
      List.dropWhile_append_of_pos hdrop, List.singleton_append, List.dropWhile_cons_of_neg (by simp),
      List.reverse_cons, List.reverse_reverse, List.dropLast_concat]
  rw [Link.inLine?, hline, cutOnce_append hbefore]
  simp only [Option.bind_eq_bind, Option.bind_some, cutOnce_append hlabel, char_eq_some.mpr rfl, htarget,
    String.ofList_toList]
  rfl

lemma inLine?_numbered (before word close after : String) (h : '[' ∉ before.toList ∧ ']' ∉ word.toList ∧
      ']' ∉ close.toList ∧ ')' ∉ after.toList) (n : ℕ) (target : String) :
    Link.inLine? (before ++ "[" ++ (word ++ Nat.repr n ++ close) ++ "](" ++ target ++ ")" ++ after) =
      some ⟨word ++ Nat.repr n ++ close, target⟩ := by
  obtain ⟨hbefore, hword, hclose, hafter⟩ := h
  have hlabel : ']' ∉ (word ++ Nat.repr n ++ close).toList := by
    simp [hword, hclose, not_mem_toDigits (c := ']') (by decide)]
  exact inLine?_link hbefore hlabel hafter

section Lines

variable (n : ℕ) (target : String)

lemma inLine?_previous : Link.inLine? s!"⬅️ [Previous partition ({n})]({target})  " =
    some ⟨s!"Previous partition ({n})", target⟩ := by
  have hline : s!"⬅️ [Previous partition ({n})]({target})  " =
      "⬅️ " ++ "[" ++ ("Previous partition (" ++ Nat.repr n ++ ")") ++ "](" ++ target ++ ")" ++ "  " :=
    String.toList_injective (by simp [toString_text])
  have hlabel : s!"Previous partition ({n})" = "Previous partition (" ++ Nat.repr n ++ ")" := by
    simp [toString_text]
  rw [hline, hlabel, inLine?_numbered "⬅️ " "Previous partition (" ")" "  " (by decide)]

lemma inLine?_next : Link.inLine? s!"➡️ [Next partition ({n})]({target})  " =
    some ⟨s!"Next partition ({n})", target⟩ := by
  have hline : s!"➡️ [Next partition ({n})]({target})  " =
      "➡️ " ++ "[" ++ ("Next partition (" ++ Nat.repr n ++ ")") ++ "](" ++ target ++ ")" ++ "  " :=
    String.toList_injective (by simp [toString_text])
  have hlabel : s!"Next partition ({n})" = "Next partition (" ++ Nat.repr n ++ ")" := by simp [toString_text]
  rw [hline, hlabel, inLine?_numbered "➡️ " "Next partition (" ")" "  " (by decide)]

lemma inLine?_index : Link.inLine? s!"🏠 [Main index]({target})  " = some ⟨"Main index", target⟩ := by
  have hline : s!"🏠 [Main index]({target})  " =
      "🏠 " ++ "[" ++ "Main index" ++ "](" ++ target ++ ")" ++ "  " :=
    String.toList_injective (by simp [toString_text])
  rw [hline, inLine?_link (by decide) (by decide) (by decide)]

lemma inLine?_partition : Link.inLine? s!"### [Partition {n}]({target})" =
    some ⟨s!"Partition {n}", target⟩ := by
  have hline : s!"### [Partition {n}]({target})" =
      "### " ++ "[" ++ ("Partition " ++ Nat.repr n ++ "") ++ "](" ++ target ++ ")" ++ "" :=
    String.toList_injective (by simp [toString_text])
  have hlabel : s!"Partition {n}" = "Partition " ++ Nat.repr n ++ "" := by simp [toString_text]
  rw [hline, hlabel, inLine?_numbered "### " "Partition " "" "" (by decide)]

end Lines

variable (s : Schema) (i : Imprint)

def partitionPage (total : ℤ) (p : Partition) : Page :=
  ⟨partitionFilename i.baseName p.number, partitionLines s i total p⟩

def indexPage (total : ℤ) (ps : List Partition) : Page :=
  ⟨indexFilename i.baseName, indexLines s i total ps⟩

lemma navigation_of_lines {filename : String} {before body after : List String}
    (hbefore : ∀ line ∈ before, line ≠ "## Navigation") (hbody : ∀ line ∈ body, line ≠ "") :
    (Page.mk filename (before ++ "## Navigation" :: "" :: (body ++ "" :: after))).navigation =
      body.filterMap Link.inLine? := by
  have hdrop : ∀ line ∈ before, (line != "## Navigation") = true := by simpa using hbefore
  have htake : ∀ line ∈ body, (line != "") = true := by simpa using hbody
  rw [Page.navigation, List.dropWhile_append_of_pos hdrop, List.dropWhile_cons_of_neg (by simp)]
  change ((body ++ "" :: after).takeWhile (· != "")).filterMap Link.inLine? = _
  rw [List.takeWhile_append_of_pos htake, List.takeWhile_cons_of_neg (by simp), List.append_nil]

section PartitionLines

variable (total : ℤ) (p : Partition)

def headerLines : List String :=
  [s!"# DER - Partition {p.number} of {total}", "",
    fact "Tables" s!"{p.range} ({p.tables.length} tables)",
    fact "File" (partitionFilename i.baseName p.number),
    fact "Generated" i.generatedAt.text, ""]

def linkLines : List String :=
  (if 1 < p.number then
    [s!"⬅️ [Previous partition ({p.number - 1})]({partitionFilename i.baseName (p.number - 1)})  "]
  else []) ++
  [s!"🏠 [Main index]({indexFilename i.baseName})  "] ++
  (if (p.number : ℤ) < total then
    [s!"➡️ [Next partition ({p.number + 1})]({partitionFilename i.baseName (p.number + 1)})  "]
  else [])

def bodyLines : List String :=
  ["## Diagram", ""] ++ fenced (Mermaid.diagramOf s p.tables) ++
  ["## Tables in this partition", ""] ++ p.tables.flatMap tableListing ++
  relationshipSection "## Relationships in this partition" (s.drawableWithin p.names) ++
  footer s!"*Partition {p.number} of {total} - generated automatically by sql-dump-der*"

lemma partitionLines_eq : partitionLines s i total p =
    headerLines i total p ++ "## Navigation" :: "" :: (linkLines i total p ++ "" :: bodyLines s total p) := by
  simp [partitionLines, headerLines, navigation, linkLines, bodyLines]

lemma headerLines_ne : ∀ line ∈ headerLines i total p, line ≠ "## Navigation" := by
  have hbegins : ∀ line ∈ headerLines i total p, ¬ begins "## N" line := by
    simp [headerLines, fact, begins, toString_text]
  rintro line hline rfl
  exact absurd (hbegins _ hline) (by decide)

lemma links_linkLines : (linkLines i total p).filterMap Link.inLine? =
    (if 1 < p.number then
      [⟨s!"Previous partition ({p.number - 1})", partitionFilename i.baseName (p.number - 1)⟩] else []) ++
      [⟨"Main index", indexFilename i.baseName⟩] ++
      (if (p.number : ℤ) < total then
        [⟨s!"Next partition ({p.number + 1})", partitionFilename i.baseName (p.number + 1)⟩] else []) := by
  rw [linkLines, List.filterMap_append, List.filterMap_append]
  congr 2
  · split
    · rw [List.filterMap_cons_some (inLine?_previous _ _), List.filterMap_nil]
    · rfl
  · rw [List.filterMap_cons_some (inLine?_index _), List.filterMap_nil]
  · split
    · rw [List.filterMap_cons_some (inLine?_next _ _), List.filterMap_nil]
    · rfl

lemma linkLines_ne : ∀ line ∈ linkLines i total p, line ≠ "" := by
  have hsome : ∀ line ∈ linkLines i total p, (Link.inLine? line).isSome := by
    intro line hline
    rw [linkLines, List.mem_append, List.mem_append] at hline
    obtain (h | h) | h := hline
    · split at h
      · rw [List.mem_singleton.mp h, inLine?_previous]; rfl
      · exact absurd h List.not_mem_nil
    · rw [List.mem_singleton.mp h, inLine?_index]; rfl
    · split at h
      · rw [List.mem_singleton.mp h, inLine?_next]; rfl
      · exact absurd h List.not_mem_nil
  rintro line hline rfl
  exact absurd (hsome _ hline) (by decide)

lemma navigation_partitionPage : (partitionPage s i total p).navigation =
    (linkLines i total p).filterMap Link.inLine? := by
  rw [partitionPage, partitionLines_eq, navigation_of_lines (headerLines_ne i total p) (linkLines_ne i total p)]

section Words

variable {w : String} (hw : w = "**Tables:**" ∨ w = "### ")

include hw

lemma filter_linkLines : (linkLines i total p).filter (begins w) = [] := by
  apply List.filter_eq_nil_iff.mpr
  intro line hline
  rw [linkLines, List.mem_append, List.mem_append] at hline
  obtain (h | h) | h := hline
  · split at h <;> rcases hw with rfl | rfl <;> simp_all [begins, toString_text]
  · rcases hw with rfl | rfl <;> simp_all [begins, toString_text]
  · split at h <;> rcases hw with rfl | rfl <;> simp_all [begins, toString_text]

lemma filter_fenced (d : Mermaid.Diagram) : (fenced d).filter (begins w) = [] := by
  have hline : ∀ l : Mermaid.Line, ¬ begins w l.text := by
    intro l
    rcases hw with rfl | rfl <;> cases l <;> simp [Mermaid.Line.text, begins]
  have hlines : (Mermaid.lines d).filter (begins w) = [] :=
    List.filter_eq_nil_iff.mpr (List.forall_mem_map.mpr fun l _ => hline l)
  have hends : ["```mermaid"].filter (begins w) = [] ∧ ["```", ""].filter (begins w) = [] := by
    rcases hw with rfl | rfl <;> decide
  rw [fenced, ← List.singleton_append, List.filter_append, List.filter_append, hlines, hends.1, hends.2]
  rfl

lemma filter_relationshipSection (ks : List ForeignKey) :
    (relationshipSection "## Relationships in this partition" ks).filter (begins w) = [] := by
  have hoff : OffRows w := by rcases hw with rfl | rfl <;> decide
  have hheading : ["## Relationships in this partition", ""].filter (begins w) = [] := by
    rcases hw with rfl | rfl <;> decide
  rw [relationshipSection]
  split
  · rfl
  · rw [List.filter_append, hheading, hoff.filter_listing, List.append_nil]

lemma filter_tableListing (t : Table) :
    (tableListing t).filter (begins w) = [s!"### {t.name}"].filter (begins w) := by
  have hoff : OffRows w := by rcases hw with rfl | rfl <;> decide
  have hcolumn : ∀ c : Column, (columnRow c).toList.head? = some '|' := by simp [columnRow, toString_text]
  have hrows : (t.columns.map columnRow).filter (begins w) = [] :=
    List.filter_eq_nil_iff.mpr (List.forall_mem_map.mpr fun c _ => hoff.not_begins (.inr (hcolumn c)))
  have hends : ["", "| Column | Type | Characteristics |",
      "|--------|------|-----------------|"].filter (begins w) = [] ∧ [""].filter (begins w) = [] := by
    rcases hw with rfl | rfl <;> decide
  rw [tableListing, ← List.singleton_append, List.append_assoc, List.filter_append, List.filter_append,
    List.filter_append, hrows, hends.1, hends.2]
  simp

lemma filter_partitionLines : (partitionLines s i total p).filter (begins w) =
    (headerLines i total p).filter (begins w) ++
      p.tables.flatMap fun t => [s!"### {t.name}"].filter (begins w) := by
  have hlisted : (p.tables.flatMap tableListing).filter (begins w) =
      p.tables.flatMap fun t => [s!"### {t.name}"].filter (begins w) := by
    rw [List.filter_flatMap]
    exact congrArg p.tables.flatMap (funext (filter_tableListing hw))
  have hheadings : ["## Navigation", ""].filter (begins w) = [] ∧ ["", "## Diagram", ""].filter (begins w) = [] ∧
      ["## Tables in this partition", ""].filter (begins w) = [] := by
    rcases hw with rfl | rfl <;> decide
  have hfooter : (footer s!"*Partition {p.number} of {total} - generated automatically by sql-dump-der*").filter
      (begins w) = [] := by
    rcases hw with rfl | rfl <;> simp [footer, begins, toString_text]
  have hbody : ("" :: bodyLines s total p).filter (begins w) =
      p.tables.flatMap fun t => [s!"### {t.name}"].filter (begins w) := by
    simp only [bodyLines, ← List.cons_append, List.filter_append, hheadings, hlisted, hfooter,
      filter_fenced hw, filter_relationshipSection hw, List.nil_append, List.append_nil]
  calc (partitionLines s i total p).filter (begins w)
      = ((headerLines i total p) ++ (["## Navigation", ""] ++ (linkLines i total p ++
          "" :: bodyLines s total p))).filter (begins w) := by rw [partitionLines_eq]; rfl
    _ = _ := by
      simp only [List.filter_append, hheadings, filter_linkLines i total p hw, hbody, List.nil_append]

end Words

lemma filter_partitionLines_tables : (partitionLines s i total p).filter (begins "**Tables:**") =
    [fact "Tables" s!"{p.range} ({p.tables.length} tables)"] := by
  have hheader : (headerLines i total p).filter (begins "**Tables:**") =
      [fact "Tables" s!"{p.range} ({p.tables.length} tables)"] := by
    simp [headerLines, fact, begins, toString_text]
  have hnone : ∀ t ∈ p.tables, [s!"### {t.name}"].filter (begins "**Tables:**") = [] := by
    simp [begins, toString_text]
  rw [filter_partitionLines s i total p (.inl rfl), hheader, List.flatMap_eq_nil_iff.mpr hnone, List.append_nil]

lemma filter_partitionLines_headings : (partitionLines s i total p).filter (begins "### ") =
    p.names.map ("### " ++ ·) := by
  have hheader : (headerLines i total p).filter (begins "### ") = [] := by
    simp [headerLines, fact, begins, toString_text]
  have hheading : ∀ t : Table, [s!"### {t.name}"].filter (begins "### ") = ["### " ++ t.name] := by
    simp [begins, toString_text]
  rw [filter_partitionLines s i total p (.inr rfl), hheader, List.nil_append, funext hheading,
    ← List.map_eq_flatMap, Partition.names, List.map_map]
  rfl

end PartitionLines

variable (p : Partition)

lemma numbersIn_range {s : List Char} (hs : Bars Char.isDigit s) :
    numbersIn (p.range.toList ++ s) = (p.before + 1) :: p.last :: numbersIn s := by
  have hrange : p.range.toList ++ s =
      (Nat.repr (p.before + 1)).toList ++ (" - ".toList ++ ((Nat.repr p.last).toList ++ s)) := by
    simp [Partition.range, toString_text]
  rw [hrange, numbersIn_repr (.append (by decide) (by decide) _), numbersIn_append (by decide),
    numbersIn_repr hs]

lemma numbersIn_fact : numbersIn (fact "Tables" s!"{p.range} ({p.tables.length} tables)").toList =
    [p.before + 1, p.last, p.tables.length] := by
  have hline : (fact "Tables" s!"{p.range} ({p.tables.length} tables)").toList = "**Tables:** ".toList ++
      (p.range.toList ++ (" (".toList ++ ((Nat.repr p.tables.length).toList ++ " tables)  ".toList))) := by
    simp [fact, toString_text]
  rw [hline, numbersIn_append (by decide), numbersIn_range p (.append (by decide) (by decide) _),
    numbersIn_append (by decide), numbersIn_repr (by decide)]
  rfl

lemma numbersIn_entry_tables : numbersIn (s!"- **Tables:** {p.range}").toList = [p.before + 1, p.last] := by
  have hline : (s!"- **Tables:** {p.range}").toList = "- **Tables:** ".toList ++ (p.range.toList ++ []) := by
    simp [toString_text]
  rw [hline, numbersIn_append (by decide), numbersIn_range p (bars_nil _)]
  rfl

lemma numbersIn_entry_count :
    numbersIn (s!"- **Count:** {p.tables.length} tables").toList = [p.tables.length] := by
  have hline : (s!"- **Count:** {p.tables.length} tables").toList =
      "- **Count:** ".toList ++ ((Nat.repr p.tables.length).toList ++ " tables".toList) := by
    simp [toString_text]
  rw [hline, numbersIn_append (by decide), numbersIn_repr (by decide)]
  rfl

lemma numbers_partitionPage (total : ℤ) : (partitionPage s i total p).numbers "**Tables:**" =
    [[p.before + 1, p.last, p.tables.length]] := by
  rw [Page.numbers, Page.beginning, partitionPage, filter_partitionLines_tables, List.map_singleton,
    numbersIn_fact]

section IndexLines

variable (total : ℤ) (ps : List Partition)

lemma beginning_indexPage {w : String} (hw : w ∈ entryWords) {f : Partition → String}
    (h : ∀ p, (indexEntry s i p).filter (begins w) = [f p]) :
    (indexPage s i total ps).beginning w = ps.map f := by
  rw [Page.beginning, indexPage, filter_indexLines_of_mem s i total ps hw, funext h, List.map_eq_flatMap]

lemma links_indexPage : ((indexPage s i total ps).beginning "### [").filterMap Link.inLine? =
    ps.map fun p => ⟨s!"Partition {p.number}", partitionFilename i.baseName p.number⟩ := by
  have hentry : ∀ p, (indexEntry s i p).filter (begins "### [") =
      [s!"### [Partition {p.number}]({partitionFilename i.baseName p.number})"] := by
    simp [indexEntry, begins, toString_text]
  rw [beginning_indexPage s i total ps (by decide) hentry, List.filterMap_map, ← List.filterMap_eq_map]
  exact congrArg (List.filterMap · ps) (funext fun p => inLine?_partition _ _)

lemma numbers_indexPage_tables : (indexPage s i total ps).numbers "- **Tables:**" =
    ps.map fun p => [p.before + 1, p.last] := by
  have hentry : ∀ p, (indexEntry s i p).filter (begins "- **Tables:**") = [s!"- **Tables:** {p.range}"] := by
    simp [indexEntry, begins, toString_text]
  rw [Page.numbers, beginning_indexPage s i total ps (by decide) hentry, List.map_map]
  refine List.map_congr_left fun p _ => ?_
  rw [Function.comp_apply, numbersIn_entry_tables]

lemma numbers_indexPage_count : (indexPage s i total ps).numbers "- **Count:**" =
    ps.map fun p => [p.tables.length] := by
  have hentry : ∀ p, (indexEntry s i p).filter (begins "- **Count:**") =
      [s!"- **Count:** {p.tables.length} tables"] := by
    simp [indexEntry, begins, toString_text]
  rw [Page.numbers, beginning_indexPage s i total ps (by decide) hentry, List.map_map]
  refine List.map_congr_left fun p _ => ?_
  rw [Function.comp_apply, numbersIn_entry_count]

end IndexLines

end SchemaAtlas.Report
