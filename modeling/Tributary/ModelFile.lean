import Tributary.Plan.Build

/-!
# Model files

A model file is told by its extension. What is read is given with its name; there is no text where
there is no such file.

* `compileFile` : the plan of a model file;
* `readValueFile` : the value in a file.
-/

namespace Tributary

inductive FileError where
  /-- No model file has such a name. -/
  | unsupported (name : String)
  /-- There is no such file. -/
  | missing (name : String)
  /-- The text is not readable. -/
  | malformed
  /-- The model does not compile. -/
  | rejected (diagnostics : List Diagnostic)
deriving DecidableEq, Repr

/-- The wording of a failure that is about the file itself. -/
def FileError.message : FileError → String
  | unsupported name => "unsupported model file " ++ name
  | missing name => "Failed to read " ++ name ++ ". No such file or directory (os error 2)"
  | malformed => "malformed document"
  | rejected ds => Diagnostic.report ds

/-- What follows the last point of a name, if something stands before that point. -/
def extension? (name : String) : Option String :=
  let cs := name.toList.reverse
  match cs.dropWhile (· ≠ '.') with
  | '.' :: _ :: _ => some (String.ofList (cs.takeWhile (· ≠ '.')).reverse)
  | _ => none

/-- How the tree of a model file is read, by its extension. What YAML text means is left to its reader. -/
def reader? (yaml : String → Option Json) (ext : String) : Option (String → Option Json) :=
  match ext with
  | "json" => some Json.parse?
  | "yaml" | "yml" => some yaml
  | _ => none

def compileFile (yaml : String → Option Json) (options : Options) (name : String) (content : Option String) :
    Except FileError Plan :=
  match (extension? name).bind (reader? yaml) with
  | none => .error (.unsupported name)
  | some read =>
    match content with
    | none => .error (.missing name)
    | some text =>
      match (read text).bind Document.ofJson? with
      | none => .error .malformed
      | some d => (Plan.compile options d).mapError .rejected

def readValueFile (name : String) (content : Option String) : Except FileError Value :=
  match content with
  | none => .error (.missing name)
  | some text =>
    match Value.ofText? text with
    | none => .error .malformed
    | some v => .ok v

end Tributary
