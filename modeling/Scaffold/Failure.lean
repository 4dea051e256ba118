namespace Scaffold

/-- A problem with one field of a server description: the path of the field and what is wrong. -/
structure FieldError where
  field : String
  message : String
deriving DecidableEq, Repr

/-- The problem in one line. -/
def FieldError.text (e : FieldError) : String := e.field ++ ": " ++ e.message

/-- Why an operation failed. -/
inductive Failure where
  /-- Settings cannot be read. -/
  | settings (message : String)
  /-- A description or a manifest cannot be converted from or to JSON. -/
  | serialization (message : String)
  /-- An argument has no meaning. -/
  | argument (message : String)
  /-- A server description breaks the rules of validation. -/
  | validation (errors : List FieldError)
  /-- A template cannot be registered or rendered. -/
  | template (name message : String)
  /-- A file cannot be read or written. -/
  | file (path message : String)
deriving DecidableEq, Repr

namespace Failure

/-- The words for a failure. -/
def message : Failure → String
  | settings m => "Configuration error: " ++ m
  | serialization m => "Serialization error: " ++ m
  | argument m => "Invalid argument: " ++ m
  | validation errors =>
    "Invalid server configuration (" ++ toString errors.length ++ " error(s)): " ++
      "; ".intercalate (errors.map FieldError.text)
  | template name m => "Template '" ++ name ++ "' failed: " ++ m
  | file path m => "I/O error at " ++ path ++ ": " ++ m

/-- The problems of fields that a failure carries. -/
def fieldErrors : Failure → List FieldError
  | validation errors => errors
  | _ => []

end Failure

/-- What comes of two steps comes of the second one after the first. -/
theorem exists_of_bind_eq_ok {ε α β : Type} {x : Except ε α} {f : α → Except ε β} {b : β}
    (h : x >>= f = .ok b) : ∃ a, x = .ok a ∧ f a = .ok b := by
  cases x with
  | error e => cases h
  | ok a => exact ⟨a, rfl, h⟩

end Scaffold
