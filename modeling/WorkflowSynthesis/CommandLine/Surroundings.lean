import WorkflowSynthesis.CommandLine.Dialogue

/-!
What a dialogue goes on in, held in memory: a working directory, what the user types, and what the program
puts out. Paths lead where they would lead in a file system whose names have at most 255 bytes.
-/

namespace WorkflowSynthesis

inductive FileError where
  | notFound
  | notADirectory
  | isADirectory
  | noSpace
  | nameTooLong
  | nulInName
  deriving DecidableEq

def FileError.message : FileError → String
  | .notFound => "No such file or directory (os error 2)"
  | .notADirectory => "Not a directory (os error 20)"
  | .isADirectory => "Is a directory (os error 21)"
  | .noSpace => "No space left on device (os error 28)"
  | .nameTooLong => "File name too long (os error 36)"
  | .nulInName => "file name contained an unexpected NUL byte"

abbrev Location := List String

structure Surroundings where
  files : List (Location × String) := []
  input : List Char := []
  output : String := ""
  remarks : String := ""

namespace Surroundings

def workingDirectory : Location := ["tmp", "work"]

def locate (name : String) : Location :=
  workingDirectory ++ (name.splitOn "/").filter fun part => part ≠ "" && part ≠ "."

def ofFiles (files : List (String × String)) (input : String) : Surroundings where
  files := files.map fun (name, content) => (locate name, content)
  input := input.toList

inductive Kind where
  | folder
  | file (content : String)
  | device (name : String)
  | nothing

def devices : List String := ["null", "full", "stdin", "stdout", "stderr"]

def rootFolders : List String := [
  "bin", "boot", "dev", "etc", "home", "lib", "media", "mnt", "opt", "proc", "root", "run", "sbin", "srv",
  "sys", "tmp", "usr", "var"]

def kind (surroundings : Surroundings) (location : Location) : Kind :=
  match surroundings.files.lookup location with
  | some content => .file content
  | none =>
    let folders := workingDirectory :: rootFolders.map ([·]) ++ surroundings.files.map (·.1)
    if folders.any location.isPrefixOf then .folder
    else match location with
      | ["dev", name] => if devices.contains name then .device name else .nothing
      | _ => .nothing

/-- Follows names from a location. A name leads on from a folder only. -/
def walk (surroundings : Surroundings) : Location → List String → Except FileError Location
  | location, [] => .ok location
  | location, name :: rest =>
    match surroundings.kind location with
    | .nothing => .error .notFound
    | .file _ | .device _ => .error .notADirectory
    | .folder =>
      if name = "" || name = "." then surroundings.walk location rest
      else if name = ".." then surroundings.walk location.dropLast rest
      else if 255 < name.utf8ByteSize then .error .nameTooLong
      else surroundings.walk (location ++ [name]) rest

def resolve (surroundings : Surroundings) (path : String) : Except FileError Location :=
  if path.toList.contains '\x00' then .error .nulInName
  else if path = "" then .error .notFound
  else if 4096 ≤ path.utf8ByteSize then .error .nameTooLong
  else surroundings.walk (if path.startsWith "/" then [] else workingDirectory) (path.splitOn "/")

/-- The content of the file at a path, and the surroundings without what was read of the input. -/
def read (surroundings : Surroundings) (path : String) : Surroundings × Except FileError String :=
  match surroundings.resolve path with
  | .error error => (surroundings, .error error)
  | .ok location =>
    match surroundings.kind location with
    | .folder => (surroundings, .error .isADirectory)
    | .nothing => (surroundings, .error .notFound)
    | .file content => (surroundings, .ok content)
    | .device "stdin" => ({ surroundings with input := [] }, .ok (String.ofList surroundings.input))
    | .device _ => (surroundings, .ok "")

def put (surroundings : Surroundings) (location : Location) (content : String) : Surroundings :=
  { surroundings with files := (location, content) :: surroundings.files.filter (·.1 ≠ location) }

/-- Writes a file. A path that ends with a slash can only name a folder, which must be there already. -/
def write (surroundings : Surroundings) (path content : String) : Surroundings × Except FileError Unit :=
  let names := if path.endsWith "/" then (path.toList.reverse.dropWhile (· = '/')).reverse else path.toList
  match surroundings.resolve (if names.isEmpty then path else String.ofList names) with
  | .error error => (surroundings, .error error)
  | .ok location =>
    if path.endsWith "/" then (surroundings, .error .isADirectory)
    else match surroundings.kind location with
      | .folder => (surroundings, .error .isADirectory)
      | .nothing | .file _ => (surroundings.put location content, .ok ())
      | .device "full" => (surroundings, .error .noSpace)
      | .device "stdout" => ({ surroundings with output := surroundings.output ++ content }, .ok ())
      | .device "stderr" => ({ surroundings with remarks := surroundings.remarks ++ content }, .ok ())
      | .device _ => (surroundings, .ok ())

def line : List Char → List Char × List Char
  | [] => ([], [])
  | c :: rest =>
    if c = '\n' then ([c], rest)
    else
      let (line, rest) := line rest
      (c :: line, rest)

def workingFiles (surroundings : Surroundings) : List (String × String) :=
  surroundings.files.filterMap fun (location, content) =>
    if workingDirectory.isPrefixOf location then
      some ("/".intercalate (location.drop workingDirectory.length), content)
    else none

end Surroundings

def Dialogue.conductIn {α : Type} : Dialogue α → Surroundings → Surroundings × Nat
  | .done _, surroundings => (surroundings, 0)
  | .exit code, surroundings => (surroundings, code)
  | .print text next, surroundings => next.conductIn { surroundings with output := surroundings.output ++ text }
  | .remark text next, surroundings => next.conductIn { surroundings with remarks := surroundings.remarks ++ text }
  | .ask next, surroundings =>
    let (line, input) := Surroundings.line surroundings.input
    (next (String.ofList line)).conductIn { surroundings with input }
  | .load path next, surroundings =>
    let (surroundings, content) := surroundings.read path
    (next (content.mapError FileError.message)).conductIn surroundings
  | .save path content next, surroundings =>
    let (surroundings, written) := surroundings.write path content
    (next (written.mapError FileError.message)).conductIn surroundings

end WorkflowSynthesis
