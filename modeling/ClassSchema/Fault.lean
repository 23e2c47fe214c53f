import ClassSchema.Text.Quoted

/-
# Why a document cannot be used

A document is rejected because its text breaks off or because a value in it is not what its place
calls for.  `Fault.message` words the second kind; for the first there is nothing to say beyond
that the text is no document.
-/

namespace ClassSchema

/-- What stands where something else was wanted. -/
inductive Found where
  | null
  | bool (b : Bool)
  | integer (i : Int)
  /-- A number that is no integer, as it is written in messages. -/
  | float (written : String)
  | string (s : String)
  | sequence
  | map
  /-- Something that messages only describe. -/
  | other (description : String)
deriving DecidableEq, Repr

inductive Fault where
  /-- The text is no document. -/
  | malformed
  | missingField (name : String)
  | duplicateField (name : String)
  | wrongType (found : Found) (wanted : String)
  | wrongValue (found : Found) (wanted : String)
  /-- A key that should be a number does not begin like one. -/
  | keyNotNumeric
  | unknownVariant (found : String) (known : List String)
  | wrongLength (found : Nat) (wanted : String)
  /-- A value fits none of the forms of a type. -/
  | noForm (type : String)
  /-- A map stands for a variant and has not exactly one entry. -/
  | notOneEntry
deriving DecidableEq, Repr

namespace Found

/-- How messages name what was found. -/
def text : Found → String
  | .null => "null"
  | .bool b => s!"boolean `{b}`"
  | .integer i => s!"integer `{i}`"
  | .float written => s!"floating point `{written}`"
  | .string s => "string " ++ Text.quoted s
  | .sequence => "sequence"
  | .map => "map"
  | .other description => description

end Found

/-- The alternatives that a message offers. -/
def alternatives (known : List String) : String :=
  let ticked := known.map fun k => "`" ++ k ++ "`"
  match ticked with
  | [] => "there are no variants"
  | [a] => "expected " ++ a
  | [a, b] => "expected " ++ a ++ " or " ++ b
  | many => "expected one of " ++ ", ".intercalate many

namespace Fault

/-- The wording of a fault in the data; a text that is no document has none. -/
def message : Fault → Option String
  | .malformed => none
  | .missingField name => some ("missing field `" ++ name ++ "`")
  | .duplicateField name => some ("duplicate field `" ++ name ++ "`")
  | .wrongType found wanted => some ("invalid type: " ++ found.text ++ ", expected " ++ wanted)
  | .wrongValue found wanted => some ("invalid value: " ++ found.text ++ ", expected " ++ wanted)
  | .keyNotNumeric => some "invalid value: expected key to be a number in quotes"
  | .unknownVariant found known =>
    some ("unknown variant `" ++ found ++ "`, " ++ alternatives known)
  | .wrongLength found wanted =>
    some ("invalid length " ++ toString found ++ ", expected " ++ wanted)
  | .noForm type => some ("data did not match any variant of untagged enum " ++ type)
  | .notOneEntry => some "invalid value: map, expected map with a single key"

end Fault

end ClassSchema
