import Scaffold.Json.Basic
import Scaffold.Text.Inspect

namespace Scaffold.Json

/-- What stands where something else was wanted. -/
inductive Found where
  | integer (n : Int)
  | fraction (negative : Bool) (magnitude : Magnitude)
  | bool (value : Bool)
  | string (value : String)
  | null
  | map
  | sequence
deriving DecidableEq

/-- What is wrong with a JSON text. -/
inductive Problem where
  | endOfValue
  | endOfList
  | endOfObject
  | endOfString
  | noColon
  | noListEnd
  | noObjectEnd
  | noValue
  | noWord
  | keyNotString
  | trailingCharacters
  | trailingComma
  | invalidEscape
  | invalidNumber
  | numberTooLarge
  | controlCharacter
  | loneSurrogate
  | endOfSurrogate
  | tooDeep
  | missingField (name : String)
  | duplicateField (name : String)
  | unknownVariant (name : String) (known : List String)
  | wrongKind (found : Found) (wanted : String)
  | wrongValue (found : Found) (wanted : String)
  | wrongLength (length : Nat) (record : String) (fields : Nat)
  | noVariant (union : String)
deriving DecidableEq

/-- The words for what was found. -/
def Found.text : Found → String
  | integer n => "integer `" ++ toString n ++ "`"
  | fraction negative m => "floating point `" ++ NumberLayout.json.set (.finite negative m) ++ "`"
  | bool true => "boolean `true`"
  | bool false => "boolean `false`"
  | string s => "string " ++ Text.inspect s
  | null => "null"
  | map => "map"
  | sequence => "sequence"

/-- Names in a row, the last two joined by `or`. -/
def alternatives (names : List String) : String :=
  let quoted := names.map fun n => "`" ++ n ++ "`"
  match quoted with
  | [] => "there are no variants"
  | [a] => "expected " ++ a
  | [a, b] => "expected " ++ a ++ " or " ++ b
  | _ => "expected one of " ++ ", ".intercalate quoted

/-- The words for a problem. -/
def Problem.message : Problem → String
  | endOfValue => "EOF while parsing a value"
  | endOfList => "EOF while parsing a list"
  | endOfObject => "EOF while parsing an object"
  | endOfString => "EOF while parsing a string"
  | noColon => "expected `:`"
  | noListEnd => "expected `,` or `]`"
  | noObjectEnd => "expected `,` or `\x7d`"
  | noValue => "expected value"
  | noWord => "expected ident"
  | keyNotString => "key must be a string"
  | trailingCharacters => "trailing characters"
  | trailingComma => "trailing comma"
  | invalidEscape => "invalid escape"
  | invalidNumber => "invalid number"
  | numberTooLarge => "number out of range"
  | controlCharacter => "control character (\\u0000-\\u001F) found while parsing a string"
  | loneSurrogate => "lone leading surrogate in hex escape"
  | endOfSurrogate => "unexpected end of hex escape"
  | tooDeep => "recursion limit exceeded"
  | missingField name => "missing field `" ++ name ++ "`"
  | duplicateField name => "duplicate field `" ++ name ++ "`"
  | unknownVariant name known => "unknown variant `" ++ name ++ "`, " ++ alternatives known
  | wrongKind found wanted => "invalid type: " ++ found.text ++ ", expected " ++ wanted
  | wrongValue found wanted => "invalid value: " ++ found.text ++ ", expected " ++ wanted
  | wrongLength length record fields =>
    "invalid length " ++ toString length ++ ", expected struct " ++ record ++ " with " ++
      toString fields ++ (if fields = 1 then " element" else " elements")
  | noVariant union => "data did not match any variant of untagged enum " ++ union

end Scaffold.Json
