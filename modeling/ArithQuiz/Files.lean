/-!
# Files and directories

A `Files` value is a small file system: its directories and its files with
their texts, each named by the names along its absolute path, and a working
directory. It answers one question, the text of the file at a path, the way
the operating system resolves that path.

* `Files.read` resolves the path from the working directory: an absolute
  path starts at the root, any other at the working directory (so the empty
  path names the working directory itself). `Files.readJoined` resolves it
  the same way, but hands the system the path joined onto the working
  directory, which counts towards the length limit. The names between
  slashes are taken in turn. An empty name and `.` stay where they are,
  `..` goes up (the root is its own parent), and any other name goes into the
  entry of that name. A path holding the NUL character, or too long for
  the system, is refused before any of this, and a name too long for a
  directory is refused when it is looked up. The first fault met is the answer: a name that is
  missing, or a file followed by further names (a trailing slash counts as
  one). A path that ends at a directory cannot be read as a file.
* `Files.add` creates an entry as a shell does with `mkdir -p` and a write:
  a name ending in `/` makes a directory and the directories above it, any
  other name makes the directories above it and then the file.
* `Files.scratch` is a fresh scratch directory, holding given entries, in
  the temporary directory of a Unix host.

Main statements: `read_eq_follow_of_relative`, and `follow_dot` with
`follow_parent_root`, which say how `.` and `..` move.
-/

set_option autoImplicit false

namespace ArithQuiz

/-- Why a file could not be read. -/
inductive FileFault
  | notFound
  | isDirectory
  | notADirectory
  | nulInName
  | nameTooLong
  | notText
deriving DecidableEq, Inhabited

/-- The system's words for a file fault. -/
def FileFault.message : FileFault → String
  | notFound => "No such file or directory (os error 2)"
  | isDirectory => "Is a directory (os error 21)"
  | notADirectory => "Not a directory (os error 20)"
  | nulInName => "file name contained an unexpected NUL byte"
  | nameTooLong => "File name too long (os error 36)"
  | notText => "stream did not contain valid UTF-8"

/-- What a path names: a file of text, a file whose bytes are not UTF-8 text,
or a directory. -/
inductive Entry
  | file (text : String)
  | binary
  | directory
deriving DecidableEq, Inhabited

/-- A file system: entries by absolute path (the list of names from the
root) and a working directory. The root, the empty path, is a directory. -/
structure Files where
  /-- The entries other than the root. -/
  entries : List (List String × Entry)
  /-- The directory that relative paths start from. -/
  workingDirectory : List String := []
deriving Inhabited

namespace Files

/-- The entry at an absolute path, if any. -/
def find? (fs : Files) (p : List String) : Option Entry :=
  if p.isEmpty then some .directory else (fs.entries.find? (·.1 == p)).map (·.2)

/-- The longest name, in bytes, that a directory can hold. -/
def nameMax : Nat := 255

/-- The bytes a path must stay below: the system's limit, which counts the NUL
that ends the path. -/
def pathMax : Nat := 4096

/-- Follows the names of a path from the directory `dir` to the text of a
file. A name is looked up only in a directory, and one longer than `nameMax`
is refused there. -/
def follow (fs : Files) (dir : List String) : List String → Except FileFault String
  | [] => .error .isDirectory
  | name :: rest =>
    if name.isEmpty || name == "." then fs.follow dir rest
    else if name == ".." then fs.follow dir.dropLast rest
    else if name.utf8ByteSize > nameMax then .error .nameTooLong
    else
      match fs.find? (dir ++ [name]) with
      | none => .error .notFound
      | some .directory => fs.follow (dir ++ [name]) rest
      | some .binary => if rest.isEmpty then .error .notText else .error .notADirectory
      | some (.file text) => if rest.isEmpty then .ok text else .error .notADirectory

/-- The text of the file at a path, resolved from the working directory, when
the system is handed the text `spelled` for it. A path holding the NUL
character cannot be handed to the system at all, and a spelled text of
`pathMax` bytes or more is refused before any name is looked up. -/
def readSpelled (fs : Files) (spelled path : String) : Except FileFault String :=
  if path.contains (Char.ofNat 0) then .error .nulInName
  else if spelled.utf8ByteSize ≥ pathMax then .error .nameTooLong
  else if path.startsWith "/" then fs.follow [] (path.splitOn "/").tail
  else fs.follow fs.workingDirectory (path.splitOn "/")

/-- The working directory spelled as an absolute path. -/
def workingText (fs : Files) : String := String.join (fs.workingDirectory.map ("/" ++ ·))

/-- A path joined onto the working directory: an absolute path stays as it
is, any other follows the working directory and a slash. -/
def join (fs : Files) (path : String) : String :=
  if path.startsWith "/" then path else fs.workingText ++ "/" ++ path

/-- The text of the file at a path, as a program in the working directory
reads it: the system is handed the path as it is. -/
def read (fs : Files) (path : String) : Except FileFault String := fs.readSpelled path path

/-- The text of the file at a path joined onto the working directory: the
system is handed the joined path, so the working directory counts towards
the length limit. -/
def readJoined (fs : Files) (path : String) : Except FileFault String :=
  fs.readSpelled (fs.join path) path

/-- A relative path of fitting length starts at the working directory. -/
theorem read_eq_follow_of_relative (fs : Files) (path : String)
    (h0 : ¬ path.contains (Char.ofNat 0)) (hlen : path.utf8ByteSize < pathMax)
    (h : ¬ path.startsWith "/") :
    fs.read path = fs.follow fs.workingDirectory (path.splitOn "/") := by
  have : ¬ path.utf8ByteSize ≥ pathMax := by omega
  simp [read, readSpelled, h0, this, h]

/-- `.` stays in the directory. -/
theorem follow_dot (fs : Files) (dir rest : List String) :
    fs.follow dir ("." :: rest) = fs.follow dir rest := by
  simp [follow]

/-- The root is its own parent. -/
theorem follow_parent_root (fs : Files) (rest : List String) :
    fs.follow [] (".." :: rest) = fs.follow [] rest := by
  simp [follow]

/-- Sets the entry at an absolute path, replacing one there. -/
def put (fs : Files) (p : List String) (e : Entry) : Files :=
  { fs with entries := fs.entries.filter (·.1 != p) ++ [(p, e)] }

/-- Goes down the names of a path from the directory `dir`, making each
directory that is missing, and ends at the directory reached. -/
def makeDirectories (fs : Files) (dir : List String) : List String → Files × List String
  | [] => (fs, dir)
  | name :: rest =>
    if name.isEmpty || name == "." then fs.makeDirectories dir rest
    else if name == ".." then fs.makeDirectories dir.dropLast rest
    else
      let p := dir ++ [name]
      match fs.find? p with
      | some _ => fs.makeDirectories p rest
      | none => (fs.put p .directory).makeDirectories p rest

/-- Creates an entry named by a path joined onto the working directory: a
name ending in `/` is a directory, any other a file with the text. The
directories above it are made first. -/
def add (fs : Files) (name text : String) : Files :=
  let names := name.splitOn "/"
  let (start, names) := if name.startsWith "/" then ([], names.tail) else (fs.workingDirectory, names)
  if name.endsWith "/" then (fs.makeDirectories start names).1
  else
    let (fs, dir) := fs.makeDirectories start names.dropLast
    match names.getLast? with
    | some file => fs.put (dir ++ [file]) (.file text)
    | none => fs

/-- The Unix host around a scratch directory: the usual top-level
directories and some below `/usr`, `/dev/null`, an empty file, and the shells,
the random devices and `env`, files that are not text. -/
def host : Files :=
  let dirs := [["bin"], ["boot"], ["dev"], ["etc"], ["home"], ["lib"], ["lib64"], ["media"],
    ["mnt"], ["opt"], ["proc"], ["root"], ["run"], ["sbin"], ["srv"], ["sys"], ["tmp"], ["usr"],
    ["usr", "bin"], ["usr", "lib"], ["usr", "local"], ["usr", "sbin"], ["usr", "share"], ["var"],
    ["var", "tmp"]]
  let binaries := [["bin", "sh"], ["bin", "bash"], ["usr", "bin", "sh"], ["usr", "bin", "bash"],
    ["usr", "bin", "env"], ["dev", "random"], ["dev", "urandom"]]
  ⟨dirs.map (·, Entry.directory) ++ binaries.map (·, Entry.binary) ++ [(["dev", "null"], .file "")],
    []⟩

/-- The name of a fresh scratch directory: `.tmp` and six random letters. The
letters are unknown to the paths given to the program, so here they are six
NUL characters, which no path that reaches a lookup can hold; the name keeps
its length, which counts when a path is joined onto it. -/
def scratchName : String := ".tmp" ++ String.ofList (List.replicate 6 (Char.ofNat 0))

/-- A fresh scratch directory in `/tmp` of the host, made the working
directory, holding the entries created in order. -/
def scratch (entries : List (String × String)) : Files :=
  let dir := ["tmp", scratchName]
  entries.foldl (fun fs e => fs.add e.1 e.2) { host.put dir .directory with workingDirectory := dir }

end Files

end ArithQuiz
