/-!
# Blanks

White space of every script, skipping it at the front of a text and trimming it from both ends. A
text is handled as the list of its characters.
-/

namespace SchemaAtlas.Text

def isBlank (c : Char) : Bool :=
  let n := c.toNat
  (9 ≤ n && n ≤ 13) || (28 ≤ n && n ≤ 32) || n == 0x85 || n == 0xA0 || n == 0x1680 ||
    (0x2000 ≤ n && n ≤ 0x200A) || n == 0x2028 || n == 0x2029 || n == 0x202F || n == 0x205F ||
    n == 0x3000

def skipBlanks (s : List Char) : List Char := s.dropWhile isBlank

def trimEnd (s : List Char) : List Char := (s.reverse.dropWhile isBlank).reverse

def trim (s : List Char) : List Char := trimEnd (skipBlanks s)

@[simp] theorem trim_nil : trim [] = [] := rfl

theorem skipBlanks_cons_of_blank {c : Char} (s : List Char) (h : isBlank c = true) :
    skipBlanks (c :: s) = skipBlanks s := by
  simp [skipBlanks, h]

theorem skipBlanks_cons_of_not_blank {c : Char} (s : List Char) (h : isBlank c = false) :
    skipBlanks (c :: s) = c :: s := by
  simp [skipBlanks, h]

theorem skipBlanks_suffix (s : List Char) : skipBlanks s <:+ s := List.dropWhile_suffix isBlank

theorem length_skipBlanks_le (s : List Char) : (skipBlanks s).length ≤ s.length :=
  (skipBlanks_suffix s).length_le

end SchemaAtlas.Text
