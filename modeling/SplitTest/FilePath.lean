import SplitTest.Text.Lowercase

/-! Paths of files. -/
namespace SplitTest

/-- A path as the names it is made of, without empty ones and those that stay where they are. -/
structure FilePath where
  /-- Slashes in front of the first name: none, one, or two. -/
  root : String
  names : List String
deriving DecidableEq, Repr

namespace FilePath

/-- Two slashes in front of a path are kept apart from one; more count as one. -/
def rootOf (path : List Char) : String :=
  match (path.takeWhile (· == '/')).length with
  | 0 => ""
  | 2 => "//"
  | _ => "/"

def parts : List Char → List (List Char)
  | [] => [[]]
  | '/' :: rest => [] :: parts rest
  | c :: rest =>
    match parts rest with
    | [] => [[c]]
    | part :: more => (c :: part) :: more

def ofText (text : String) : FilePath :=
  let path := text.toList
  ⟨rootOf path, ((parts path).map String.ofList).filter fun part => part != "" && part != "."⟩

def text (p : FilePath) : String :=
  if p.root = "" ∧ p.names = [] then "." else p.root ++ "/".intercalate p.names

def fileName (p : FilePath) : String :=
  p.names.getLast?.getD ""

/-- The last point of a name and what follows it; both have to have something before and after. -/
def suffixOf (name : List Char) : List Char :=
  let after := (name.reverse.takeWhile (· != '.')).reverse
  let before := name.length - after.length
  if after = [] ∨ before ≤ 1 then [] else '.' :: after

def suffix (p : FilePath) : String :=
  String.ofList (suffixOf p.fileName.toList)

end FilePath
end SplitTest
