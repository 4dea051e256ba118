import Scaffold.Text.Quoted

namespace Scaffold.Text

/-- A character in the body of a docstring. Line feeds and tabs stay; every other control character
and line end is written as an escape. -/
def docstringChar (c : Char) : List Char :=
  if c = '\\' then ['\\', '\\']
  else if c = '"' then ['\\', '"']
  else if c = '\n' || c = '\t' then [c]
  else if c = '\r' then ['\\', 'r']
  else if isControl c || isWideLineEnd c then hexEscape c.toNat
  else [c]

/-- The body of a docstring between triple double quotes. -/
def docstringBody (s : String) : String :=
  String.ofList ((joinReturns s.toList).flatMap docstringChar)

/-- A character in the literal part of an f-string: braces are doubled. -/
def formatStringChar (c : Char) : List Char :=
  if c = '\\' then ['\\', '\\']
  else if c = '"' then ['\\', '"']
  else if c = '\x7b' then ['\x7b', '\x7b']
  else if c = '\x7d' then ['\x7d', '\x7d']
  else [c]

/-- The literal part of an f-string. -/
def formatStringText (s : String) : String := String.ofList (s.toList.flatMap formatStringChar)

/-- The literal part of a template literal: a dollar is escaped where it would open a
substitution. -/
def templateChars : List Char → List Char
  | [] => []
  | '\\' :: rest => '\\' :: '\\' :: templateChars rest
  | '\x60' :: rest => '\\' :: '\x60' :: templateChars rest
  | '$' :: '\x7b' :: rest => '\\' :: '$' :: '\x7b' :: templateChars rest
  | c :: rest => c :: templateChars rest

/-- The literal part of a template literal. -/
def templateText (s : String) : String := String.ofList (templateChars s.toList)

/-- Text in a documentation comment: every end of comment is broken by a backslash. -/
def docCommentChars : List Char → List Char
  | [] => []
  | '*' :: '/' :: rest => '*' :: '\\' :: '/' :: docCommentChars rest
  | c :: rest => c :: docCommentChars rest

/-- Text in a documentation comment. -/
def docCommentText (s : String) : String := String.ofList (docCommentChars s.toList)

/-- A character of a regular expression between slashes. `escaped` says whether a backslash before
it takes it, and then a slash needs no second one. -/
def regexChar (escaped : Bool) (c : Char) : List Char :=
  if c = '\n' then ['\\', 'n']
  else if c = '\r' then ['\\', 'r']
  else if c = '\u2028' || c = '\u2029' then hexEscape c.toNat
  else if c = '/' && !escaped then ['\\', '/']
  else [c]

/-- A regular expression between slashes, from a state. A backslash left over at the end is doubled,
so it cannot take the closing slash. -/
def regexChars (escaped : Bool) : List Char → List Char
  | [] => if escaped then ['\\'] else []
  | c :: rest => regexChar escaped c ++ regexChars (c = '\\' && !escaped) rest

/-- The body of a regular expression literal. -/
def regexBody (pattern : String) : String := String.ofList (regexChars false pattern.toList)

end Scaffold.Text
