import Formula.Json.Decode
import Formula.Surroundings.Basic
import Formula.Text.Blank

/-!
# Formula.Cli.Assignment

Variables given on the command line, each as `name=value`. The value is JSON, or else the text
itself. A later assignment of a name takes the place of an earlier one.
-/

namespace Formula
namespace Cli

def isVariableName (name : List Char) : Bool :=
  match name with
  | sign :: _ :: _ => sign = '#' || sign = '$'
  | _ => false

def decodeValue (text : String) : Value :=
  match Json.decode text with
  | some v => v
  | none => .string text

/-- The name and the value of an item, split at the first `=`. -/
def parseAssignment (item : String) : Option (String × Value) :=
  let chars := item.toList
  match chars.dropWhile (· ≠ '=') with
  | [] => none
  | _ :: text =>
    let name := Text.trim (String.ofList (chars.takeWhile (· ≠ '=')))
    if isVariableName name.toList then some (name, decodeValue (String.ofList text)) else none

/-- The table of a list of items after `table`, or the first item that is no assignment. -/
def assignAll (table : VariableTable) : List String → Except String VariableTable
  | [] => .ok table
  | item :: rest =>
    match parseAssignment item with
    | some (name, v) => assignAll (table.bind name (.ok v)) rest
    | none => .error item

def parseAssignments (items : List String) : Except String VariableTable :=
  assignAll [] items

def malformedAssignment (item : String) : String :=
  "Expected #name=value or $name=value, got " ++ Text.quoted item

end Cli
end Formula
