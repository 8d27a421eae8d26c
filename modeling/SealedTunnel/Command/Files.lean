import SealedTunnel.Error

/-!
# Files

A tree of files as a system has it: directories, links, files that hold a text, and special files
that hold none. It says what reading from a path and writing to one gives, failures in the words of
the system included.

## Main definitions

* `FileTree`: what stands at which place
* `FileTree.follow`: the place to which the steps of a path lead
* `FileTree.read`, `FileTree.write`
-/

namespace SealedTunnel

/-- Where a text goes that is written to a special file. -/
inductive Outlet where
  | nowhere
  /-- Standard output. -/
  | output
  /-- Standard error. -/
  | errors
  deriving DecidableEq, Repr

/-- A file that holds no text of its own: what reading it gives, and where a text goes that is
written to it. -/
structure Special where
  reading : Except IoError String
  writing : Except IoError Outlet

/-- What stands at a place. -/
inductive Entry where
  | directory
  | file (text : String)
  | special (s : Special)

/-- A tree of files. Everything is named by its place, the steps that lead to it from the root
without links. -/
structure FileTree where
  working : List String
  directories : List (List String)
  files : List (List String × String) := []
  specials : List (List String × Special) := []
  /-- Places that lead on to other places. -/
  links : List (List String × List String) := []
  /-- What writing fails with in a directory and below it, if it does; of several directories around
  a place the first counts. -/
  guarded : List (List String × Option IoError) := []
  /-- Directories into which one may not look. -/
  locked : List (List String) := []
  /-- What has been written to standard output through files. -/
  output : String := ""
  /-- What has been written to standard error through files. -/
  errors : String := ""

namespace FileTree

/-! ## Failures -/

/-- Nothing has the path. -/
def missing : IoError := .other "No such file or directory (os error 2)"

/-- Something on the way is a file. -/
def notDirectory : IoError := .other "Not a directory (os error 20)"

/-- The path leads to a directory. -/
def isDirectory : IoError := .other "Is a directory (os error 21)"

/-- A part of the path, or the whole, is too long. -/
def nameTooLong : IoError := .other "File name too long (os error 36)"

/-- The path holds a character that none may hold. -/
def nulInside : IoError := .other "file name contained an unexpected NUL byte"

/-- Nothing more can be stored. -/
def noSpace : IoError := .other "No space left on device (os error 28)"

/-- Nothing can be allocated. -/
def noMemory : IoError := .other "Cannot allocate memory (os error 12)"

/-- The device is not there. -/
def noDevice : IoError := .other "No such device or address (os error 6)"

/-- The system keeps the place to itself. -/
def notAllowed : IoError := .other "Permission denied (os error 13)"

/-- The device fails. -/
def broken : IoError := .other "Input/output error (os error 5)"

/-- The bytes of the file are not those of a text. -/
def notText : IoError := .other "stream did not contain valid UTF-8"

/-! ## Paths -/

/-- The most bytes of a step. -/
def stepLimit : Nat := 255

/-- A path with so many bytes is too long. -/
def pathLimit : Nat := 4096

/-- What stands at a place. -/
def entry? (t : FileTree) (place : List String) : Option Entry :=
  if t.directories.contains place then some .directory
  else
    match t.files.lookup place with
    | some text => some (.file text)
    | none => (t.specials.lookup place).map .special

/-- Where a place leads on to. -/
def resolve (t : FileTree) (place : List String) : List String :=
  (t.links.lookup place).getD place

/-- The steps of a path; empty ones do not count. -/
def steps (path : String) : List String :=
  (path.splitOn "/").filter (· ≠ "")

/-- Where the path starts: at the root or in the working directory. -/
def origin (t : FileTree) (path : String) : List String :=
  if path.startsWith "/" then [] else t.working

/-- Refuses a place that is not a directory, or one into which one may not look. -/
def checkDirectory (t : FileTree) (place : List String) : Except IoError Unit :=
  match t.entry? place with
  | some .directory => if t.locked.contains place then .error notAllowed else .ok ()
  | some _ => .error notDirectory
  | none => .error missing

/-- Follows steps as long as they lead through directories. Gives the place of the last step, which
need not exist. -/
def follow (t : FileTree) (place : List String) : List String → Except IoError (List String)
  | [] => .ok place
  | step :: rest => do
    t.checkDirectory place
    if step.utf8ByteSize > stepLimit then .error nameTooLong
    else if step = "." then t.follow place rest
    else if step = ".." then t.follow place.dropLast rest
    else t.follow (t.resolve (place ++ [step])) rest

/-- Refuses a text that is no path. -/
def checkPath (path : String) : Except IoError Unit :=
  if path.contains '\x00' then .error nulInside
  else if path.isEmpty then .error missing
  else if path.utf8ByteSize ≥ pathLimit then .error nameTooLong
  else .ok ()

/-- Whether a path can only be that of a directory. -/
def asksDirectory (path : String) : Bool :=
  path.endsWith "/"

/-! ## Reading and writing -/

/-- The text of the file at a path. -/
def read (t : FileTree) (path : String) : Except IoError String := do
  checkPath path
  let place ← t.follow (t.origin path) (steps path)
  match t.entry? place with
  | none => .error missing
  | some .directory => .error (if t.locked.contains place then notAllowed else isDirectory)
  | some (.file text) => if asksDirectory path then .error notDirectory else .ok text
  | some (.special s) => if asksDirectory path then .error notDirectory else s.reading

/-- The tree with a text at a place, where there may have been another. -/
def put (t : FileTree) (place : List String) (text : String) : FileTree :=
  { t with files := (place, text) :: t.files.filter fun f => f.1 ≠ place }

/-- Refuses a place in a directory where one may not write. -/
def checkGuard (t : FileTree) (place : List String) : Except IoError Unit :=
  match t.guarded.find? fun g => g.1.isPrefixOf place with
  | some (_, some e) => .error e
  | _ => .ok ()

/-- The tree after a text went to an outlet. -/
def emit (t : FileTree) (text : String) : Outlet → FileTree
  | .nowhere => t
  | .output => { t with output := t.output ++ text }
  | .errors => { t with errors := t.errors ++ text }

/-- The tree after a text was written to a path. The file is made if there is none, so a path that
can only be that of a directory is refused whatever stands there, once its directory is found. -/
def write (t : FileTree) (path text : String) : Except IoError FileTree := do
  checkPath path
  if asksDirectory path then
    t.checkDirectory (← t.follow (t.origin path) (steps path).dropLast)
    .error isDirectory
  else
    let place ← t.follow (t.origin path) (steps path)
    match t.entry? place with
    | some .directory => .error isDirectory
    | some (.special s) => return t.emit text (← s.writing)
    | some (.file _) | none => do
      t.checkGuard place
      return t.put place text

end FileTree

end SealedTunnel
