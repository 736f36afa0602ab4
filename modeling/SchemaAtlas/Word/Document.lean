import SchemaAtlas.Fault

/-!
# Word documents

The content of a word processor document: paragraphs made of runs, and tables made of cells with
borders of their own. Lengths are in twips, font sizes in half points, line widths in eighths of a
point.
-/

namespace SchemaAtlas.Word

inductive Style where
  | title | normal
deriving DecidableEq, Repr

def Style.name : Style → String
  | title => "Title"
  | normal => "Normal"

structure Run where
  text : String
  bold : Bool := false
  italic : Bool := false
  size : Option Nat := none
deriving DecidableEq, Repr

structure Paragraph where
  style : Style := .normal
  centered : Bool := false
  indent : Option Nat := none
  runs : List Run := []
deriving DecidableEq, Repr

def Paragraph.text (p : Paragraph) : String := String.join (p.runs.map (·.text))

structure Edge where
  name : String
deriving DecidableEq, Repr

namespace Edge

def top : Edge := ⟨"top"⟩

def left : Edge := ⟨"left"⟩

def bottom : Edge := ⟨"bottom"⟩

def right : Edge := ⟨"right"⟩

end Edge

structure Border where
  edge : Edge
  width : Option Nat
deriving DecidableEq, Repr

structure Cell where
  paragraph : Paragraph
  width : Nat
  borders : List Border := []
deriving DecidableEq, Repr

inductive Block where
  | paragraph (p : Paragraph)
  | table (rows : List (List Cell))
deriving DecidableEq, Repr

structure Document where
  font : String
  size : Nat
  blocks : List Block
deriving DecidableEq, Repr

def Cell.setBorder (c : Cell) (b : Border) : Cell :=
  -- the new setting stands at the end, and no earlier one for its edge is left
  { c with borders := c.borders.eraseP (·.edge == b.edge) ++ [b] }

def Cell.setBorders (c : Cell) (bs : List Border) : Cell := bs.foldl Cell.setBorder c

def thickLine : Option Nat := some 12

def thinLine : Option Nat := some 6

def Cell.clear (c : Cell) : Cell :=
  c.setBorders [⟨.top, none⟩, ⟨.left, none⟩, ⟨.bottom, none⟩, ⟨.right, none⟩]

def modifyLast {α : Type} (f : α → α) : List α → List α
  | [] => []
  | [a] => [f a]
  | a :: b :: as => a :: modifyLast f (b :: as)

def threeLines (rows : List (List Cell)) : List (List Cell) :=
  modifyLast (·.map fun c => c.setBorder ⟨.bottom, thickLine⟩) <|
    (rows.map (·.map Cell.clear)).modifyHead
      (·.map fun c => c.setBorders [⟨.top, thickLine⟩, ⟨.bottom, thinLine⟩])

def isForbidden (c : Char) : Bool :=
  (c.toNat < 32 && !(c == '\t' || c == '\n' || c == '\r')) || c == '\ufffe' || c == '\uffff'

def Block.paragraphs : Block → List Paragraph
  | paragraph p => [p]
  | table rows => rows.flatten.map (·.paragraph)

def Document.paragraphs (d : Document) : List Paragraph := d.blocks.flatMap Block.paragraphs

def Document.checked (d : Document) : Except Fault Document :=
  if d.paragraphs.any fun p => p.text.toList.any isForbidden then .error .unfitForWord else .ok d

end SchemaAtlas.Word
