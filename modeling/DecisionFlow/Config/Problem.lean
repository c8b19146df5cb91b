import DecisionFlow.Json.Print
import DecisionFlow.Text.Quoted

/-!
# Problems of a configuration

Why the fields of a node do not configure a node of its kind.

- `Config.FieldType`: what a field may have to hold.
- `Config.Problem`, `Config.Problem.message`: the causes and their texts.
-/

namespace DecisionFlow.Config

/-- What a field has to hold. -/
inductive FieldType where
  | text
  | boolean
  | float
  /-- A count of 64 bits. -/
  | size
  | unsigned
  | signed
deriving DecidableEq, Repr

/-- The words for what a field has to hold. -/
def FieldType.phrase : FieldType → String
  | .text => "a string"
  | .boolean => "a boolean"
  | .float => "f64"
  | .size => "usize"
  | .unsigned => "u64"
  | .signed => "i64"

/-- Why a configuration was rejected. -/
inductive Problem where
  | missingField (name : String)
  /-- The field holds something of another type. -/
  | wrongType (found : Value) (expected : FieldType)
  /-- The field holds a whole number outside the range of its type. -/
  | outOfRange (found : Value) (expected : FieldType)
  /-- The field holds no regular expression. -/
  | malformedPattern
  /-- The field holds a regular expression that needs more bytes than it may. -/
  | largePattern (limit : Nat)
  /-- A cause stated by whoever supplied the node type. -/
  | stated (text : String)

/-- A value as it is named in messages: containers only by what they are. -/
def found : Value → String
  | .null => "null"
  | .bool b => "boolean `" ++ toString b ++ "`"
  | .number (.int n _) => "integer `" ++ toString n ++ "`"
  | .number (.float x) => "floating point `" ++ Json.floatLayout.write x ++ "`"
  | .text s => "string " ++ Text.quoted s
  | .array _ => "sequence"
  | .object _ => "map"

/-- The text of a problem. -/
def Problem.message : Problem → String
  | .missingField name => "missing field `" ++ name ++ "`"
  | .wrongType value expected =>
    "invalid type: " ++ found value ++ ", expected " ++ expected.phrase
  | .outOfRange value expected =>
    "invalid value: " ++ found value ++ ", expected " ++ expected.phrase
  | .malformedPattern => "regex parse error"
  | .largePattern limit =>
    "Compiled regex exceeds size limit of " ++ toString limit ++ " bytes."
  | .stated text => text

end DecisionFlow.Config
