import SchemaAtlas.Text.Blank

/-!
# Members of a table body

A table body is cut at the commas that stand outside parentheses. The running count of open
parentheses may go below zero in a malformed body; only commas at count zero cut.
-/

namespace SchemaAtlas.Ddl

open SchemaAtlas.Text

def depthAfter (depth : Int) (c : Char) : Int :=
  if c = '(' then depth + 1 else if c = ')' then depth - 1 else depth

def cutAtCommas (depth : Int) : List Char → List Char × List (List Char)
  | [] => ([], [])
  | c :: s =>
    let (piece, pieces) := cutAtCommas (depthAfter depth c) s
    if c = ',' ∧ depth = 0 then ([], piece :: pieces) else (c :: piece, pieces)

def members (body : List Char) : List (List Char) :=
  let (piece, pieces) := cutAtCommas 0 body
  ((piece :: pieces).map trim).filter (!·.isEmpty)

@[simp] theorem cutAtCommas_nil (depth : Int) : cutAtCommas depth [] = ([], []) := rfl

theorem cutAtCommas_comma (s : List Char) :
    cutAtCommas 0 (',' :: s) = ([], (cutAtCommas 0 s).1 :: (cutAtCommas 0 s).2) := by
  simp [cutAtCommas, depthAfter]

theorem cutAtCommas_cons {depth : Int} {c : Char} (s : List Char) (h : c ≠ ',' ∨ depth ≠ 0) :
    cutAtCommas depth (c :: s) =
      (c :: (cutAtCommas (depthAfter depth c) s).1, (cutAtCommas (depthAfter depth c) s).2) := by
  have : ¬(c = ',' ∧ depth = 0) := by
    rcases h with h | h <;> simp [h]
  simp [cutAtCommas, this]

end SchemaAtlas.Ddl
