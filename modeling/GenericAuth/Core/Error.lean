/-! The error type shared by all crates, and the conversion of failed field
validation into it. -/
namespace GenericAuth

inductive AppError where
  | notFound
  | forbidden
  | unauthorized
  | validation (message : String)
  | validationFields (message : String) (fields : List (String × List String))
  | conflict (message : String)
  | badRequest (message : String)
  | storage (message : String)
  | fileProcessing (message : String)
  | database (message : String)
  | auth (message : String)
  | emailNotVerified
  | internal (message : String)
  deriving DecidableEq, Repr

namespace AppError

/-- The `Display` text of an error. -/
def display : AppError → String
  | .notFound => "not found"
  | .forbidden => "forbidden"
  | .unauthorized => "unauthorized"
  | .validation message => "validation: " ++ message
  | .validationFields message _ => message
  | .conflict message => "conflict: " ++ message
  | .badRequest message => "bad request: " ++ message
  | .storage message => "storage: " ++ message
  | .fileProcessing message => "file processing: " ++ message
  | .database message => "database: " ++ message
  | .auth message => "auth: " ++ message
  | .emailNotVerified => "email not confirmed — check your inbox"
  | .internal message => "internal: " ++ message

@[simp]
theorem display_auth (message : String) : (auth message).display = "auth: " ++ message := rfl

end AppError

/-- One failed rule of a field. Of the rule's parameters only the bounds are
ever read. -/
structure ValidationError where
  code : String
  message : Option String
  min : Option Nat
  max : Option Nat
  deriving DecidableEq, Repr

/-- The failed fields of a request body. A body is valid when there are none. -/
abbrev ValidationErrors := List (String × List ValidationError)

def friendlyMessage (e : ValidationError) : String :=
  match e.message with
  | some message => message
  | none =>
      match e.code with
      | "email" => "Must be a valid email address"
      | "url" => "Must be a valid URL"
      | "length" =>
          match e.min, e.max with
          | some a, some b =>
              "Must be between " ++ toString a ++ " and " ++ toString b ++ " characters long"
          | some a, none => "Must be at least " ++ toString a ++ " characters long"
          | none, some b => "Must be at most " ++ toString b ++ " characters long"
          | none, none => "Invalid length"
      | "range" =>
          match e.min, e.max with
          | some a, some b => "Must be between " ++ toString a ++ " and " ++ toString b
          | some a, none => "Must be at least " ++ toString a
          | none, some b => "Must be at most " ++ toString b
          | none, none => "Out of range"
      | "required" => "This field is required"
      | other => "Invalid value (" ++ other ++ ")"

def AppError.fromValidationErrors (errs : ValidationErrors) : AppError :=
  .validationFields "Validation failed"
    (errs.map fun entry => (entry.1, entry.2.map friendlyMessage))

/-- How a handler can stop early: with an error that it returns, or with a
panic, after which there is no response at all. -/
inductive Stop where
  | err (error : AppError)
  | panic (message : String)
  deriving DecidableEq, Repr

end GenericAuth
