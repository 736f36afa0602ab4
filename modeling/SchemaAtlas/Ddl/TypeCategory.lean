import SchemaAtlas.Text.Search
import SchemaAtlas.Text.Uppercase

/-!
# Categories of column types

The declared type of a column is reduced to one of five categories by the words that occur in it.
The categories are tried in order and the first one that fits wins.
-/

namespace SchemaAtlas

open SchemaAtlas.Text

inductive TypeCategory where
  | string | number | date | lob | other
deriving DecidableEq, Repr

namespace TypeCategory

def label : TypeCategory → String
  | string => "STRING"
  | number => "NUMBER"
  | date => "DATE"
  | lob => "LOB"
  | other => "OTHER"

def words : List (TypeCategory × List String) :=
  [(string, ["VARCHAR", "CHAR"]), (number, ["NUMBER", "INTEGER", "DECIMAL"]),
   (date, ["DATE", "TIMESTAMP"]), (lob, ["CLOB", "BLOB"])]

def ofDeclared (s : List Char) : TypeCategory :=
  let capitals := upper s
  match words.find? fun rule => rule.2.any fun w => contains w.toList capitals with
  | some rule => rule.1
  | none => other

end TypeCategory

end SchemaAtlas
