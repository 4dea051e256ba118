namespace Scaffold.Pattern

/-- How deep the parts of a pattern may nest. -/
def nestingLimit : Nat := 250

/-- How many bytes the automaton of a pattern may take. -/
def sizeLimit : Nat := 10485760

/-- What is wrong with a pattern. -/
inductive Problem where
  | backreference
  | boundaryEnd
  | boundaryUnclosed
  | boundaryUnknown
  | captureNameDuplicate
  | captureNameEmpty
  | captureNameInvalid
  | captureNameUnclosed
  | classEscape
  | classRangeBound
  | classRangeOrder
  | classUnclosed
  | countEmpty
  | countOrder
  | countUnclosed
  | decimal
  | escapeEnd
  | escapeUnknown
  | flagDangling
  | flagDuplicate
  | flagEnd
  | flagNegatedTwice
  | flagUnknown
  | groupUnclosed
  | groupUnopened
  | hexDigit
  | hexEmpty
  | hexScalar
  | invalidBytes
  | lookAround
  | nesting
  | propertyLetter
  | propertyUnknown
  | propertyValueUnknown
  | repetitionMissing
  | tooBig
  | unicodeNotAllowed
deriving DecidableEq, Repr

/-- The words for a problem. The text of the pattern compiler has more lines, which show the pattern
and point at the place; these are its last line. Only a pattern that is too big has no other line.
-/
def Problem.message : Problem → String
  | backreference => "error: backreferences are not supported"
  | boundaryEnd => "error: found either the beginning of a special word boundary or a bounded " ++
      "repetition on a \\b with an opening brace, but no closing brace"
  | boundaryUnclosed =>
    "error: special word boundary assertion is either unclosed or contains an invalid character"
  | boundaryUnknown => "error: unrecognized special word boundary assertion, " ++
      "valid choices are: start, end, start-half or end-half"
  | captureNameDuplicate => "error: duplicate capture group name"
  | captureNameEmpty => "error: empty capture group name"
  | captureNameInvalid => "error: invalid capture group character"
  | captureNameUnclosed => "error: unclosed capture group name"
  | classEscape => "error: invalid escape sequence found in character class"
  | classRangeBound => "error: invalid range boundary, must be a literal"
  | classRangeOrder => "error: invalid character class range, the start must be <= the end"
  | classUnclosed => "error: unclosed character class"
  | countEmpty => "error: repetition quantifier expects a valid decimal"
  | countOrder => "error: invalid repetition count range, the start must be <= the end"
  | countUnclosed => "error: unclosed counted repetition"
  | decimal => "error: decimal literal invalid"
  | escapeEnd => "error: incomplete escape sequence, reached end of pattern prematurely"
  | escapeUnknown => "error: unrecognized escape sequence"
  | flagDangling => "error: dangling flag negation operator"
  | flagDuplicate => "error: duplicate flag"
  | flagEnd => "error: expected flag but got end of regex"
  | flagNegatedTwice => "error: flag negation operator repeated"
  | flagUnknown => "error: unrecognized flag"
  | groupUnclosed => "error: unclosed group"
  | groupUnopened => "error: unopened group"
  | hexDigit => "error: invalid hexadecimal digit"
  | hexEmpty => "error: hexadecimal literal empty"
  | hexScalar => "error: hexadecimal literal is not a Unicode scalar value"
  | invalidBytes => "error: pattern can match invalid UTF-8"
  | lookAround =>
    "error: look-around, including look-ahead and look-behind, is not supported"
  | nesting => "error: exceed the maximum number of nested parentheses/brackets (" ++
      toString nestingLimit ++ ")"
  | propertyLetter => "error: invalid Unicode character class"
  | propertyUnknown => "error: Unicode property not found"
  | propertyValueUnknown => "error: Unicode property value not found"
  | repetitionMissing => "error: repetition operator missing expression"
  | tooBig => "Compiled regex exceeds size limit of " ++ toString sizeLimit ++ " bytes."
  | unicodeNotAllowed => "error: Unicode not allowed here"

end Scaffold.Pattern
