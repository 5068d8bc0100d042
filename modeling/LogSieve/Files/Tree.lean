import LogSieve.Files.Path
import LogSieve.Table
import LogSieve.Text.Quoted
import LogSieve.Text.Utf8

/-!
# File trees

Which places hold a file or a directory. A file is opened by walking a written path step by step:
every step but the last must find a directory, also a step back or one to the same place. So a path
is opened less often than `Path.ofText` leads somewhere.

The system takes names and paths up to a length in bytes. `look` asks for a file at a place and is
refused an answer beyond that; where it has one it is the right one (`isFile_of_look`).
-/

namespace LogSieve

inductive FileNode where
  | file (bytes : List UInt8)
  | directory
  deriving DecidableEq, Repr

/-- The places that hold something. The root always holds a directory. -/
structure FileTree where
  entries : List (Path × FileNode) := []
  deriving Repr

namespace FileTree

/-! ## 1. What is where -/

def nodeAt? (tree : FileTree) (p : Path) : Option FileNode :=
  if p.isEmpty then some .directory else tree.entries.lookup p

def isFile (tree : FileTree) (p : Path) : Bool :=
  match tree.nodeAt? p with
  | some (.file _) => true
  | _ => false

/-- The tree with a node put at a place, and nothing else changed. -/
def putAt (tree : FileTree) (p : Path) (node : FileNode) : FileTree :=
  { entries := Table.put p node tree.entries }

/-- The tree with a node put at a place and directories on the way to it. -/
def put (tree : FileTree) (p : Path) (node : FileNode) : FileTree :=
  let holders := (p.ancestors.drop 1).filter fun q => (tree.nodeAt? q).isNone
  (holders.foldl (fun tree q => tree.putAt q .directory) tree).putAt p node

/-- The tree without what is at a place or within it. -/
def remove (tree : FileTree) (p : Path) : FileTree :=
  { entries := tree.entries.filter fun e => !p.isPrefixOf e.1 }

/-! ## 2. Opening files -/

/-- Why a file is not opened. -/
inductive OpenFault where
  | missing
  | notDirectory
  | isDirectory
  /-- The path is too long, or a name in it that is looked up. -/
  | nameTooLong
  /-- The path holds the character that ends texts for the system. -/
  | embeddedNul
  deriving DecidableEq, Repr

/-- What is said about a path that is not opened. -/
def OpenFault.message (path : Text) : OpenFault → Text
  | .missing => "[Errno 2] No such file or directory: " ++ Text.quoted path
  | .notDirectory => "[Errno 20] Not a directory: " ++ Text.quoted path
  | .isDirectory => "[Errno 21] Is a directory: " ++ Text.quoted path
  | .nameTooLong => "[Errno 36] File name too long: " ++ Text.quoted path
  | .embeddedNul => "embedded null byte"

/-- How many bytes a name may have. -/
def nameLimit : Nat := 255

/-- How many bytes a written path may have. -/
def pathLimit : Nat := 4095

/-- The place after a walk; every step needs a directory to start from, where the name is looked
up. -/
def walk (tree : FileTree) (p : Path) : List Text → Except OpenFault Path
  | [] => .ok p
  | name :: rest =>
    match tree.nodeAt? p with
    | none => .error .missing
    | some (.file _) => .error .notDirectory
    | some .directory =>
      if nameLimit < Text.byteLength name then .error .nameTooLong
      else walk tree (p.step name) rest

/-- The contents of the file that a written path leads to, from a place if it is relative. -/
def contents (tree : FileTree) (start : Path) (t : Text) : Except OpenFault (List UInt8) := do
  if t.contains '\x00' then throw .embeddedNul
  if t.isEmpty then throw .missing
  if pathLimit < Text.byteLength t then throw .nameTooLong
  let p ← tree.walk (if t.head? = some '/' then [] else start) (t.splitOn '/')
  match tree.nodeAt? p with
  | none => throw .missing
  | some .directory => throw .isDirectory
  | some (.file bytes) => return bytes

/-! ## 3. Looking for files -/

/-- Whether there is a file at a place. -/
def look (tree : FileTree) (p : Path) : Except OpenFault Bool :=
  if pathLimit < Text.byteLength p.text then .error .nameTooLong
  else match tree.walk [] p with
    | .error .nameTooLong => .error .nameTooLong
    | _ => .ok (tree.isFile p)

theorem isFile_of_look {tree : FileTree} {p : Path} {found : Bool}
    (h : tree.look p = .ok found) : tree.isFile p = found := by
  unfold look at h
  split at h
  · cases h
  · split at h
    · cases h
    · exact Except.ok.inj h

/-- Where the search for a file ends without an answer, and why. -/
structure SearchFault where
  fault : OpenFault
  path : Text
  deriving DecidableEq, Repr

def SearchFault.message (f : SearchFault) : Text := f.fault.message f.path

/-- The first of the places that holds a file. -/
def search (tree : FileTree) : List Path → Except SearchFault (Option Path)
  | [] => .ok none
  | p :: rest =>
    match tree.look p with
    | .error fault => .error ⟨fault, p.text⟩
    | .ok true => .ok (some p)
    | .ok false => search tree rest

/-- A search that comes to an end finds the first file there is. -/
theorem find?_of_search {tree : FileTree} {places : List Path} {found : Option Path}
    (h : tree.search places = .ok found) : places.find? tree.isFile = found := by
  induction places with
  | nil => exact Except.ok.inj h
  | cons p rest ih =>
    unfold search at h
    cases hl : tree.look p with
    | error fault =>
      rw [hl] at h
      cases h
    | ok isThere =>
      rw [hl] at h
      rw [List.find?_cons, isFile_of_look hl]
      cases isThere with
      | true => exact Except.ok.inj h
      | false => exact ih h

end FileTree

end LogSieve
