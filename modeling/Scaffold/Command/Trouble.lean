import Scaffold.Failure
import Scaffold.Text.LineEnd

namespace Scaffold

/-- What stops a command: what it could not do, and the causes of that, nearest first. -/
structure Trouble where
  message : String
  causes : List String := []
deriving DecidableEq, Repr

namespace Trouble

/-- A text so far in that its lines stand under each other behind a mark. -/
def indented (mark : String) (text : String) : String :=
  let margin := String.ofList (List.replicate mark.length ' ')
  mark ++ ("\n" ++ margin).intercalate
    ((Text.splitWhere (· = '\n') text.toList).map String.ofList)

/-- The causes, numbered from a number on, each on a new line. -/
def numbered (number : Nat) : List String → String
  | [] => ""
  | cause :: rest =>
    let digits := toString number
    let margin := String.ofList (List.replicate (5 - digits.length) ' ')
    "\n" ++ indented (margin ++ digits ++ ": ") cause ++ numbered (number + 1) rest

/-- The causes under their heading. One cause alone has no number. -/
def causesText : List String → String
  | [] => ""
  | [cause] => "\n\nCaused by:\n" ++ indented "    " cause
  | causes => "\n\nCaused by:" ++ numbered 0 causes

/-- The last words of a run that is stopped. -/
def text (t : Trouble) : String := "Error: " ++ t.message ++ causesText t.causes ++ "\n"

/-- The trouble that a failure is. -/
def ofFailure (failure : Failure) : Trouble := { message := failure.message }

end Trouble

end Scaffold
