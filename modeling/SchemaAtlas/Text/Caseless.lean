/-!
# Keywords in any letter case

Keywords are given in capitals and met in either case. Four letters beyond ASCII count as ASCII ones:
the dotted and the dotless i, the long s and the Kelvin sign.
-/

namespace SchemaAtlas.Text

def caseless (c : Char) : Char :=
  if c = '\u0130' ∨ c = '\u0131' then 'I'
  else if c = '\u017f' then 'S'
  else if c = '\u212a' then 'K'
  else c.toUpper

def keyword : List Char → List Char → Option (List Char)
  | [], s => some s
  | _ :: _, [] => none
  | k :: w, c :: s => if caseless c = k then keyword w s else none

theorem keyword_cons (k : Char) (w : List Char) (c : Char) (s : List Char) :
    keyword (k :: w) (c :: s) = if caseless c = k then keyword w s else none := rfl

theorem length_of_keyword {w s r : List Char} (h : keyword w s = some r) :
    r.length + w.length = s.length := by
  fun_induction keyword w s with
  | case1 s => simp_all
  | case2 => simp at h
  | case3 w c s ih =>
    have := ih h
    simp only [List.length_cons]
    omega
  | case4 => simp at h

end SchemaAtlas.Text
