import SchemaAtlas.Text.Escape
import SchemaAtlas.Text.Lines
import SchemaAtlas.Word.Archive
import SchemaAtlas.Word.Document

/-!
# Word documents as files

A document as a word processor stores it: an archive of a few parts in XML, which are the content, the
styles, and what relates them to each other.
-/

namespace SchemaAtlas.Word

open SchemaAtlas.Text

def assignment (a : String × String) : String := s!" {a.1}=\"" ++ Markup.escape a.2 ++ "\""

def element (name : String) (assignments : List (String × String)) (content : List String) : String :=
  let opening := "<" ++ name ++ String.join (assignments.map assignment)
  if content.isEmpty then opening ++ "/>"
  else opening ++ ">" ++ String.join content ++ "</" ++ name ++ ">"

def value (v : String) : List (String × String) := [("w:val", v)]

def textElement (s : List Char) : String :=
  element "w:t" [("xml:space", "preserve")] [Markup.escape (String.ofList s)]

def withBreaksBetween : List (List Char) → List String
  | [] => []
  | [s] => [textElement s]
  | s :: ss => textElement s :: element "w:br" [] [] :: withBreaksBetween ss

def sizeElement (size : Nat) : String := element "w:sz" (value (toString size)) []

def Run.element (r : Run) : String :=
  let properties := (if r.bold then [Word.element "w:b" [] []] else []) ++
    (if r.italic then [Word.element "w:i" [] []] else []) ++ (r.size.map sizeElement).toList
  Word.element "w:r" []
    (Word.element "w:rPr" [] properties :: withBreaksBetween (cutAt '\n' r.text.toList))

def Paragraph.element (p : Paragraph) : String :=
  let indent := p.indent.map fun n => Word.element "w:ind" [("w:left", toString n)] []
  let properties := Word.element "w:pStyle" (value p.style.name) [] :: indent.toList ++
    (if p.centered then [Word.element "w:jc" (value "center") []] else [])
  Word.element "w:p" [] (Word.element "w:pPr" [] properties :: p.runs.map Run.element)

def Border.element (b : Border) : String :=
  Word.element ("w:" ++ b.edge.name) (match b.width with
    | some width => value "single" ++ [("w:sz", toString width), ("w:space", "0")]
    | none => value "nil") []

def Cell.element (c : Cell) : String :=
  let properties := [Word.element "w:tcW" [("w:w", toString c.width), ("w:type", "dxa")] [],
    Word.element "w:tcBorders" [] (c.borders.map Border.element)]
  Word.element "w:tc" [] [Word.element "w:tcPr" [] properties, c.paragraph.element]

def columnElement (c : Cell) : String := Word.element "w:gridCol" [("w:w", toString c.width)] []

def Block.element : Block → String
  | paragraph p => p.element
  | table rows =>
    let grid := (rows.head?.getD []).map columnElement
    Word.element "w:tbl" []
      (Word.element "w:tblPr" [] [Word.element "w:tblLayout" [("w:type", "fixed")] []] ::
        Word.element "w:tblGrid" [] grid ::
        rows.map fun row => Word.element "w:tr" [] (row.map Cell.element))

def vocabulary (name : String) : String := "http:" ++ "//schemas.openxmlformats.org/" ++ name

def wordVocabulary : List (String × String) :=
  [("xmlns:w", vocabulary "wordprocessingml/2006/main")]

def contentType (kind : String) : String :=
  "application/vnd.openxmlformats-" ++ kind ++ "+xml"

def declared (root : String) : String :=
  "<?xml version=\"1.0\" encoding=\"UTF-8\" standalone=\"yes\"?>\n" ++ root

def contentPart (d : Document) : String :=
  declared (element "w:document" wordVocabulary
    [element "w:body" [] (d.blocks.map Block.element)])

def styleElement (s : Style) (properties : List String) : String :=
  element "w:style" ([("w:type", "paragraph"), ("w:styleId", s.name)] ++
      if s = .normal then [("w:default", "1")] else [])
    [element "w:name" (value s.name) [], element "w:rPr" [] properties]

def stylesPart (d : Document) : String :=
  let font := element "w:rFonts"
    [("w:ascii", d.font), ("w:hAnsi", d.font), ("w:eastAsia", d.font), ("w:cs", d.font)] []
  declared (element "w:styles" wordVocabulary
    [styleElement .normal [font, sizeElement d.size],
      styleElement .title [font, element "w:b" [] [], sizeElement 52]])

def relationship (kind target : String) : String :=
  element "Relationship" [("Id", "r1"),
    ("Type", vocabulary ("officeDocument/2006/relationships/" ++ kind)), ("Target", target)] []

def relationshipsPart (kind target : String) : String :=
  declared (element "Relationships" [("xmlns", vocabulary "package/2006/relationships")]
    [relationship kind target])

def partType (name kind : String) : String :=
  element "Override" [("PartName", name), ("ContentType", contentType kind)] []

def typesPart : String :=
  declared (element "Types" [("xmlns", vocabulary "package/2006/content-types")]
    [element "Default" [("Extension", "rels"), ("ContentType", contentType "package.relationships")] [],
      partType "/word/document.xml" "officedocument.wordprocessingml.document.main",
      partType "/word/styles.xml" "officedocument.wordprocessingml.styles"])

def entry (name part : String) : Archive.Entry := ⟨name, part.toUTF8.toList⟩

def Document.bytes (d : Document) : List UInt8 :=
  Archive.bytes [
    entry "[Content_Types].xml" typesPart,
    entry "_rels/.rels" (relationshipsPart "officeDocument" "word/document.xml"),
    entry "word/document.xml" (contentPart d),
    entry "word/_rels/document.xml.rels" (relationshipsPart "styles" "styles.xml"),
    entry "word/styles.xml" (stylesPart d)]

end SchemaAtlas.Word
