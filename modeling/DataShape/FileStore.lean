import DataShape.Text.Words

/-!
# Paths and files

* `FilePath` — a normalised path: empty parts and single dots are left out.
* `FilePath.suffix` — the end of the file name from its last dot on.
* `ReadFault` — why a file cannot be read, with the number of the system error.
* `FileStore`, `FileStore.read` — a tree of files below the working directory.
-/

namespace DataShape

/-! ## Paths -/

/-- A path: the slashes that it starts with, and its parts. -/
structure FilePath where
  root : String
  parts : List String
  deriving DecidableEq, Repr

namespace FilePath

/-- The root of a path: two slashes are kept, more count as one. -/
def rootOf : List Char → String
  | '/' :: '/' :: '/' :: _ => "/"
  | '/' :: '/' :: _ => "//"
  | '/' :: _ => "/"
  | _ => ""

/-- Reads a path. -/
def ofString (s : String) : FilePath :=
  ⟨rootOf s.toList,
    ((Text.splitAt '/' s.toList).map String.ofList).filter fun p => p != "" && p != "."⟩

/-- The text of a path; the empty path is a single dot. -/
def text (p : FilePath) : String :=
  if p.root = "" ∧ p.parts = [] then "." else p.root ++ String.intercalate "/" p.parts

/-- The last part. -/
def name (p : FilePath) : String := p.parts.getLastD ""

/-- The name from its last dot on, unless that dot is the first or the last character. -/
def suffix (p : FilePath) : String :=
  let cs := p.name.toList.reverse
  let tail := cs.takeWhile (· != '.')
  if tail.length + 1 < cs.length ∧ tail ≠ [] then String.ofList ('.' :: tail.reverse) else ""

end FilePath

/-! ## Reading files -/

/-- A system error. -/
structure ReadFault where
  number : Nat
  reason : String
  deriving DecidableEq, Repr

namespace ReadFault

def notFound : ReadFault := ⟨2, "No such file or directory"⟩
def notDirectory : ReadFault := ⟨20, "Not a directory"⟩
def isDirectory : ReadFault := ⟨21, "Is a directory"⟩
def nameTooLong : ReadFault := ⟨36, "File name too long"⟩

end ReadFault

/-- What is at a place of a tree of files. -/
inductive Node where
  | file (bytes : ByteArray)
  | directory

/-- Files and directories below the working directory, by the parts of their paths. -/
structure FileStore where
  entries : List (List String × Node)

namespace FileStore

/-- Nothing. -/
def empty : FileStore := ⟨[]⟩

/-- Puts something at a place; a later entry hides an earlier one. -/
def add (path : String) (node : Node) (store : FileStore) : FileStore :=
  ⟨((FilePath.ofString path).parts, node) :: store.entries⟩

/-- What is at a place. All that leads to an entry is a directory. -/
def at? (store : FileStore) (place : List String) : Option Node :=
  match store.entries.lookup place with
  | some node => some node
  | none =>
    if place = [] ∨ store.entries.any fun (p, _) => place.isPrefixOf p then some .directory
    else none

/-- The longest name of a file, in bytes. -/
def maxName : Nat := 255

/-- The longest path, in bytes. -/
def maxPath : Nat := 4095

/-- Follows the parts of a path from a directory; there is none outside the working directory. -/
def follow (store : FileStore) : Option (List String) → List String → Except ReadFault ByteArray
  | _, [] => .error .isDirectory
  | dir, ".." :: rest =>
    store.follow (match dir with
      | none | some [] => none
      | some place => some place.dropLast) rest
  | dir, name :: rest =>
    if maxName < name.utf8ByteSize then .error .nameTooLong
    else
      let place := dir.map (· ++ [name])
      match place.bind store.at? with
      | none => .error .notFound
      | some (.file bytes) => if rest = [] then .ok bytes else .error .notDirectory
      | some .directory => store.follow place rest

/-- The content of a file. -/
def read (store : FileStore) (path : FilePath) : Except ReadFault ByteArray :=
  if maxPath < path.text.utf8ByteSize then .error .nameTooLong
  else store.follow (if path.root = "" then some [] else none) path.parts

end FileStore

end DataShape
