/-
  LinkLayer.Scenario.Folder
  ─────────────────────────
  **READING FILES BY PATH.**

  A working directory holds some files and no other directories.  It stands
  among the directory for temporary files of a Unix system.  Paths are read
  as on any such system: empty names and single dots change nothing, two
  dots lead to the directory above, and a file has nothing below it.  Of the
  system itself only the standard directories and a few small files are
  known; the root is above itself.
-/
import LinkLayer.Text.Bytes

namespace LinkLayer

/-! ## §1. Causes. -/

/-- Why a file cannot be read as a text. -/
inductive FileError where
  | notFound
  | notADirectory
  | isADirectory
  | nameTooLong
  | zeroInName
  | notText
  | other (reason : String)
  deriving Repr, DecidableEq

/-- The wording of a cause. -/
def FileError.message : FileError → String
  | .notFound => "No such file or directory (os error 2)"
  | .notADirectory => "Not a directory (os error 20)"
  | .isADirectory => "Is a directory (os error 21)"
  | .nameTooLong => "File name too long (os error 36)"
  | .zeroInName => "file name contained an unexpected NUL byte"
  | .notText => "stream did not contain valid UTF-8"
  | .other reason => reason

/-! ## §2. Directories. -/

/-- A directory: that in which the work is done, or one of the system, by the
names that lead to it from the root. -/
inductive Directory where
  | working
  | system (names : List String)
  deriving Repr, DecidableEq

/-- The directory above. -/
def Directory.parent : Directory → Directory
  | working => system ["tmp"]
  | system names => system names.dropLast

/-- What a name in a directory stands for. -/
inductive Entry where
  | directory (d : Directory)
  | file (octets : Bytes)
  deriving Repr, DecidableEq

/-- The standard directories in the root, and those within them. -/
def systemDirectories : List (String × List String) :=
  [("bin", []), ("boot", []), ("dev", []), ("etc", []), ("home", []), ("lib", []),
   ("media", []), ("mnt", []), ("opt", []), ("proc", []), ("root", []), ("run", []),
   ("sbin", []), ("srv", []), ("sys", []), ("tmp", []),
   ("usr", ["bin", "lib", "local", "sbin", "share"]),
   ("var", ["cache", "lib", "log", "tmp"])]

/-- The small files that every system has. -/
def systemFiles : List (String × String × String) :=
  [("dev", "null", ""),
   ("etc", "hosts", "127.0.0.1 localhost\n"),
   ("etc", "passwd", "root:x:0:0:root:/root:/bin/sh\n")]

/-- The names of the directories within one of the system. -/
def subdirectories : List String → List String
  | [] => systemDirectories.map (·.1)
  | [name] => ((systemDirectories.find? (·.1 = name)).map (·.2)).getD []
  | _ => []

/-- What a name in a directory of the system stands for. -/
def systemEntry? (names : List String) (name : String) : Option Entry :=
  if name ∈ subdirectories names then some (.directory (.system (names ++ [name])))
  else (systemFiles.find? fun f => names = [f.1] && name = f.2.1).map fun f => .file (utf8 f.2.2)

/-! ## §3. Folders. -/

/-- The files of a working directory, by name. -/
structure Folder where
  files : List (String × Bytes) := []

namespace Folder

/-- The greatest number of octets of a name. -/
def nameBound : Nat := 255

/-- The number of octets that no path reaches. -/
def pathBound : Nat := 4096

/-- What a name in a directory stands for. -/
def entry? (f : Folder) (d : Directory) (name : String) : Option Entry :=
  match d with
  | .working => (f.files.find? (·.1 = name)).map fun file => .file file.2
  | .system names => systemEntry? names name

/-- Follow the names of a path from a directory on. -/
def follow (f : Folder) : Directory → List String → Except FileError Bytes
  | _, [] => .error .isADirectory
  | d, name :: rest =>
      if name = "" || name = "." then f.follow d rest
      else if name = ".." then f.follow d.parent rest
      else if nameBound < (utf8 name).length then .error .nameTooLong
      else
        match f.entry? d name with
        | none => .error .notFound
        | some (.directory below) => f.follow below rest
        | some (.file bytes) => if rest = [] then .ok bytes else .error .notADirectory

/-- The octets of the file at a path. -/
def read (f : Folder) (path : String) : Except FileError Bytes :=
  if path.toList.any (· = '\x00') then .error .zeroInName
  else if path = "" then .error .notFound
  else if pathBound ≤ (utf8 path).length then .error .nameTooLong
  else f.follow (if path.startsWith "/" then .system [] else .working) (path.splitOn "/")

/-- The text of the file at a path. -/
def readText (f : Folder) (path : String) : Except FileError String :=
  match f.read path with
  | .error e => .error e
  | .ok bytes =>
      match utf8Decode? bytes with
      | some cs => .ok (String.ofList cs)
      | none => .error .notText

/-- What reading the file at a path comes to: its text, or the words of the
cause. -/
def content (f : Folder) (path : String) : Except String String :=
  (f.readText path).mapError FileError.message

end Folder

end LinkLayer
