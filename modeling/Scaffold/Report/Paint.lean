namespace Scaffold.Report

/-- How a text looks on a terminal. -/
inductive Style where
  | dim
  | green
  | red
  | cyan
  | boldBlue
deriving DecidableEq, Repr

/-- The sequence that starts a style. -/
def Style.start : Style → List Char
  | dim => "\x1b[2m".toList
  | green => "\x1b[32m".toList
  | red => "\x1b[31m".toList
  | cyan => "\x1b[36m".toList
  | boldBlue => "\x1b[1;34m".toList

/-- The sequence that ends every style. -/
def styleEnd : List Char := "\x1b[0m".toList

/-- The text with the style started again wherever the text itself ends it. -/
def restart (style : Style) : List Char → List Char
  | '\x1b' :: '[' :: '0' :: 'm' :: rest => styleEnd ++ style.start ++ restart style rest
  | c :: rest => c :: restart style rest
  | [] => []

/-- The text in a style, or as it is if there are to be no colours. -/
def paint (colors : Bool) (style : Style) (s : String) : String :=
  if colors then String.ofList (style.start ++ restart style s.toList ++ styleEnd) else s

end Scaffold.Report
