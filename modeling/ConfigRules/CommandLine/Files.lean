import ConfigRules.CommandLine.Place
import ConfigRules.Keyed

/-!
Files below a working directory. Directories are there when there is a file in them.
-/

namespace ConfigRules.CommandLine

inductive FileFault where
  | missing
  | isDirectory
  | notDirectory
  | nameTooLong
  | other (reason : String)
deriving DecidableEq

namespace FileFault

/-- The system's words for it. -/
def reason : FileFault → String
  | missing => "No such file or directory (os error 2)"
  | isDirectory => "Is a directory (os error 21)"
  | notDirectory => "Not a directory (os error 20)"
  | nameTooLong => "File name too long (os error 36)"
  | other reason => reason

end FileFault

/-- Files by the names that lead to them from the working directory. -/
abbrev Files := Keyed (List String) String

namespace Files

/-- How many bytes a name may have. -/
def maxName : Nat := 255

/-- How many bytes a path may have. -/
def maxPath : Nat := 4095

/-- The content of the file at a place. No files outside the working directory are known. -/
def content? (files : Files) (place : Place) : Option String :=
  match place.base with
  | .working => files.get? place.names
  | _ => none

/-- There is a directory at a place. Outside the working directory, only those are known that are
around it or that every system has. -/
def hasDirectory (files : Files) (place : Place) : Bool :=
  match place.base with
  | .working =>
    place.names.isEmpty ||
      files.any fun (names, _) =>
        place.names.isPrefixOf names && place.names.length < names.length
  | .around _ => place.names.isEmpty
  | .root => place.names ∈ [[], ["dev"], ["tmp"]]

/-- Goes from a directory to what a part of a path names there. -/
def enter (files : Files) (place : Place) (part : String) : Except FileFault Place :=
  if files.hasDirectory place then
    if part = "." then .ok place
    else if part = ".." then .ok place.parent
    else if maxName < part.utf8ByteSize then .error .nameTooLong
    else .ok (place.child part)
  else .error (if (files.content? place).isSome then .notDirectory else .missing)

/-- The route of a path, which must not be empty or too long. -/
def route (path : String) : Except FileFault Route :=
  if path = "" then .error .missing
  else if maxPath < path.utf8ByteSize then .error .nameTooLong
  else .ok (.ofPath path)

def read (files : Files) (path : String) : Except FileFault String := do
  let r ← route path
  let parts := if r.endsInSlash then r.parts ++ ["."] else r.parts
  let place ← parts.foldlM files.enter r.start
  match files.content? place with
  | some content => return content
  | none => .error (if files.hasDirectory place then .isDirectory else .missing)

/-- Gives a file its content. A file outside the working directory is none of these files. -/
def put (files : Files) (place : Place) (content : String) : Files :=
  match place.base with
  | .working => Keyed.put place.names content files
  | _ => files

/-- Writes a file in a directory that is there. A path that can only lead to a directory is
refused whatever is there. -/
def write (files : Files) (path content : String) : Except FileFault Files := do
  let r ← route path
  let parent ← (r.parts.dropLast ++ ["."]).foldlM files.enter r.start
  match r.parts.getLast? with
  | none | some "." | some ".." => .error .isDirectory
  | some name =>
    if r.endsInSlash then .error .isDirectory
    else
      let place ← files.enter parent name
      if files.hasDirectory place then .error .isDirectory else return files.put place content

end Files

end ConfigRules.CommandLine
