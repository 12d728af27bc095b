import StateMachine.Json.Scan
import StateMachine.Text.Quoted

namespace StateMachine

inductive Found where
  | null
  | bool (value : Bool)
  | number (value : Number)
  | string (value : String)
  | list
  | record
  deriving DecidableEq

/-- A part of a document that is JSON but of the wrong shape. -/
inductive Mismatch where
  | wrongType (found : Found) (expected : String)
  | wrongNumber (value : Int) (expected : String)
  | wrongLength (length : Nat) (expected : String)
  | missingField (name : String)
  | repeatedField (name : String)
  | unknownVariant (name : String) (known : List String)
  | wrongTime
  deriving DecidableEq

inductive ReadError where
  | broken (why : Break)
  | mismatch (what : Mismatch)
  deriving DecidableEq

def Found.describe : Found → String
  | .null => "null"
  | .bool value => "boolean `" ++ (if value then "true" else "false") ++ "`"
  | .number (.integer value) => "integer `" ++ toString value ++ "`"
  | .number (.float negative magnitude) =>
    "floating point `" ++ Shortest.text negative magnitude ++ "`"
  | .string value => "string " ++ Text.quoted value
  | .list => "sequence"
  | .record => "map"

def alternatives (known : List String) : String :=
  " or ".intercalate (known.map fun name => "`" ++ name ++ "`")

def Mismatch.message : Mismatch → String
  | .wrongType found expected => "invalid type: " ++ found.describe ++ ", expected " ++ expected
  | .wrongNumber value expected =>
    "invalid value: integer `" ++ toString value ++ "`, expected " ++ expected
  | .wrongLength length expected =>
    "invalid length " ++ toString length ++ ", expected " ++ expected
  | .missingField name => "missing field `" ++ name ++ "`"
  | .repeatedField name => "duplicate field `" ++ name ++ "`"
  | .unknownVariant name known =>
    "unknown variant `" ++ name ++ "`, expected " ++ alternatives known
  | .wrongTime => "not a time"

end StateMachine
