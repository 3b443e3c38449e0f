import HomeBus.Config.Basic
import HomeBus.Text.Blank
import HomeBus.Text.Split
import HomeBus.Text.Utf8

/-!
# Configuration files

A configuration is loaded from a file of a directory. The environment may name another file than
the one that the program falls back to; a blank name counts as none.
-/

namespace HomeBus

/-- The plain files of a directory, by name. -/
abbrev Directory := List (String × Bytes)

namespace Directory

/-- The longest name of a file and the longest path, in bytes. -/
def maxName : Nat := 255

def maxPath : Nat := 4095

/-- Where a path has led so far. -/
inductive Place where
  | here
  /-- A directory above, of which nothing but its being there is known. -/
  | above
  | file (content : Bytes)

/--
Follows the names of a path. Names that are empty or a single dot stay where they are, and two dots
lead to the directory above.
-/
def follow (files : Directory) : Place → List String → Except ReadFault Place
  | place, [] => .ok place
  | .file _, _ :: _ => .error .notDirectory
  | .above, name :: rest =>
    if name = "" || name = "." || name = ".." then follow files .above rest
    else if maxName < (Utf8.ofText name).length then .error .nameTooLong
    else .error .notFound
  | .here, name :: rest =>
    if name = "" || name = "." then follow files .here rest
    else if name = ".." then follow files .above rest
    else if maxName < (Utf8.ofText name).length then .error .nameTooLong
    else
      match Entries.get? name files with
      | some content => follow files (.file content) rest
      | none => .error .notFound

/-- Where a path starts: one with a slash in front does not start in this directory. -/
def startOf (path : String) : Place := if path.toList.head? = some '/' then .above else .here

/-- The bytes of the file at a path. -/
def bytesAt (files : Directory) (path : String) : Except ReadFault Bytes :=
  if path.toList.contains '\x00' then .error .zeroInName
  else if path = "" then .error .notFound
  else if maxPath < (Utf8.ofText path).length then .error .nameTooLong
  else
    match follow files (startOf path) ((Text.splitAt '/' path.toList).map String.ofList) with
    | .error fault => .error fault
    | .ok .here | .ok .above => .error .isDirectory
    | .ok (.file content) => .ok content

/-- The text of the file at a path. -/
def textAt (files : Directory) (path : String) : Except ReadFault String := do
  let content ← files.bytesAt path
  match Utf8.text? content with
  | some text => return text
  | none => .error .notUtf8

end Directory

namespace Config

/-- The valid configuration in the file at a path. Models `FimpConfig::load`. -/
def load (files : Directory) (path : String) : Except Error Config :=
  match files.textAt path with
  | .error cause => .error (.config (.unreadable path cause))
  | .ok text => ofText text

/-- The file to load: the one that the environment names, unless its name is blank. Models the
    choice in `FimpConfig::load_from_env_or`. -/
def pathFrom (named? : Option String) (fallback : String) : String :=
  match named? with
  | some path => if Text.trim path.toList = [] then fallback else path
  | none => fallback

/-- Loads the file that the environment names, as `FIMP_CONFIG`, or else the one at `fallback`.
    Models `FimpConfig::load_from_env_or`. -/
def loadFromEnv (files : Directory) (named? : Option String) (fallback : String) :
    Except Error Config :=
  load files (pathFrom named? fallback)

end Config

end HomeBus
