import SplitTest.Assoc
import SplitTest.FilePath
import SplitTest.Text.Quoted

/-! Files: what can go wrong with them, what tells that they changed, and trees of them. A tree has
no links, and nothing in it is kept from being looked at. -/
namespace SplitTest

inductive FileError where
  | notFound
  | notDirectory
  | isDirectory
  | nameTooLong
  /-- A path with a zero character, which no file has. -/
  | zeroCharacter
deriving DecidableEq, Repr

namespace FileError

/-- The system's number of an error; a path that is never looked up has none. -/
def number? : FileError → Option Nat
  | notFound => some 2
  | notDirectory => some 20
  | isDirectory => some 21
  | nameTooLong => some 36
  | zeroCharacter => none

def description : FileError → String
  | notFound => "No such file or directory"
  | notDirectory => "Not a directory"
  | isDirectory => "Is a directory"
  | nameTooLong => "File name too long"
  | zeroCharacter => "embedded null byte"

def message (e : FileError) (path : FilePath) : String :=
  match e.number? with
  | some n => "[Errno " ++ natText n ++ "] " ++ e.description ++ ": " ++ quoted path.text
  | none => e.description

end FileError

/-- What tells two states of a file apart without reading it. -/
structure Fingerprint where
  /-- When the file was written, in nanoseconds. -/
  modified : Int
  size : Nat
deriving DecidableEq, Repr

inductive FileEntry where
  | file (content : List UInt8) (modified : Int)
  | directory (modified : Int)
deriving DecidableEq, Repr

/-- The size that a directory is given. -/
def directorySize : Nat := 4096

def FileEntry.fingerprint : FileEntry → Fingerprint
  | file content modified => ⟨modified, content.length⟩
  | directory modified => ⟨modified, directorySize⟩

/-- How many bytes a name has at most. -/
def nameLimit : Nat := 255

/-- How many bytes a path has at most. -/
def pathLimit : Nat := 4095

/-- Files and directories by the names on the way to them from the root, which is a directory. -/
structure FileTree where
  entries : List (List String × FileEntry)
  /-- The way to the directory that relative paths begin in. -/
  workingDirectory : List String
deriving Repr

namespace FileTree

/-- Nothing but the root, which paths begin in. -/
def empty : FileTree := ⟨[], []⟩

def entry? (t : FileTree) (names : List String) : Option FileEntry :=
  if names = [] then some (.directory 0) else Assoc.find? names t.entries

/-- What stands at the end of a way that has come to `done`; it leads through directories, and from
the root up to the root. -/
def walk (t : FileTree) (done : List String) : List String → Except FileError FileEntry
  | [] =>
    match t.entry? done with
    | some e => .ok e
    | none => .error .notFound
  | name :: rest =>
    match t.entry? done with
    | none => .error .notFound
    | some (.file _ _) => .error .notDirectory
    | some (.directory _) =>
      if nameLimit < name.utf8ByteSize then .error .nameTooLong
      else walk t (if name = ".." then done.dropLast else done ++ [name]) rest

/-- Where the way along a path begins. -/
def origin (t : FileTree) (p : FilePath) : List String :=
  if p.root = "" then t.workingDirectory else []

def lookup (t : FileTree) (p : FilePath) : Except FileError FileEntry :=
  if p.text.toList.contains '\x00' then .error .zeroCharacter
  else if pathLimit < p.text.utf8ByteSize then .error .nameTooLong
  else t.walk (t.origin p) p.names

def stat (t : FileTree) (p : FilePath) : Except FileError Fingerprint :=
  (t.lookup p).map (·.fingerprint)

def read (t : FileTree) (p : FilePath) : Except FileError (List UInt8) :=
  match t.lookup p with
  | .error e => .error e
  | .ok (.directory _) => .error .isDirectory
  | .ok (.file content _) => .ok content

/-- The way to what a path without steps up names. -/
def place (t : FileTree) (p : FilePath) : List String :=
  t.origin p ++ p.names

/-- An entry in the place of what stood there; directories on the way to it are made. -/
def put (t : FileTree) (p : FilePath) (e : FileEntry) : FileTree :=
  let names := t.place p
  let outer := (List.range names.length).filterMap fun n =>
    if n = 0 ∨ (t.entry? (names.take n)).isSome then none
    else some (names.take n, FileEntry.directory 0)
  { t with entries := Assoc.insert names e (t.entries ++ outer) }

/-- Without an entry and what is in it. -/
def remove (t : FileTree) (p : FilePath) : FileTree :=
  { t with entries := t.entries.filter fun (names, _) => !(t.place p).isPrefixOf names }

/-- An entry written at another time. -/
def touch (t : FileTree) (p : FilePath) (modified : Int) : FileTree :=
  match t.entry? (t.place p) with
  | none => t
  | some (.file content _) => t.put p (.file content modified)
  | some (.directory _) => t.put p (.directory modified)

end FileTree
end SplitTest
