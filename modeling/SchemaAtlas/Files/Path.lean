import SchemaAtlas.Text.Lines

/-!
# Paths

A path in lexical form: where it starts, and the names along it. Empty names and single dots say
nothing and are left out; a double dot stays, since what it leads to depends on the file tree.
-/

namespace SchemaAtlas.Files

open SchemaAtlas.Text

inductive Anchor where
  | here | root | otherRoot
deriving DecidableEq, Repr

def Anchor.ofSlashes : Nat → Anchor
  | 0 => here
  | 2 => otherRoot
  | _ => root

def Anchor.text : Anchor → String
  | here => ""
  | root => "/"
  | otherRoot => "//"

structure Path where
  anchor : Anchor := .here
  names : List String := []
deriving DecidableEq, Repr

namespace Path

def isIdle (piece : List Char) : Bool := piece == [] || piece == ['.']

def ofText (text : String) : Path where
  anchor := .ofSlashes (text.toList.takeWhile (· == '/')).length
  names := ((cutAt '/' text.toList).filter (!isIdle ·)).map String.ofList

def text (p : Path) : String :=
  if p.anchor = .here ∧ p.names = [] then "." else p.anchor.text ++ joinWith "/" p.names

def parent (p : Path) : Path := { p with names := p.names.dropLast }

def name (p : Path) : String := p.names.getLast?.getD ""

def within (directory p : Path) : Path :=
  -- a path that starts at a root is seen the same from everywhere
  if p.anchor = .here then { directory with names := directory.names ++ p.names } else p

end Path

end SchemaAtlas.Files
