import ClientGen.Naming.MethodName

/-! Names of files: parts between slashes, without those that say nothing. -/

set_option autoImplicit false

namespace ClientGen.Files

/-- Where a path begins. Exactly two slashes name a root of their own, and more of them the usual one. -/
inductive Root where
  | here
  | slash
  | twoSlashes
  deriving DecidableEq, Repr

namespace Root

def ofChars : List Char → Root
  | '/' :: '/' :: '/' :: _ => .slash
  | '/' :: '/' :: _ => .twoSlashes
  | '/' :: _ => .slash
  | _ => .here

def shown : Root → String
  | here => ""
  | slash => "/"
  | twoSlashes => "//"

end Root

structure Path where
  root : Root
  parts : List String
  deriving DecidableEq, Repr

namespace Path

def ofString (text : String) : Path where
  root := .ofChars text.toList
  parts := ((Naming.splitAt '/' text.toList).filter fun part => part ≠ [] && part ≠ ['.']).map
    String.ofList

/-- The text of a path; the place where one is has the name of a point. -/
def shown (path : Path) : String :=
  if path.root = .here && path.parts.isEmpty then "."
  else path.root.shown ++ "/".intercalate path.parts

/-- The last point of the name and what follows it, unless the name begins or ends with it. -/
def suffix (path : Path) : String :=
  let name := (path.parts.getLast?.getD "").toList
  let ending := (name.reverse.takeWhile (· ≠ '.')).reverse
  if ending.isEmpty || name.length ≤ ending.length + 1 then ""
  else String.ofList ('.' :: ending)

def step (place : List String) (part : String) : List String :=
  if part = ".." then place.dropLast else place ++ [part]

def place (path : Path) : List String := path.parts.foldl step []

example : (ofString "//a/./b").shown = "//a/b" ∧ (ofString "///a").shown = "/a" ∧ (ofString "a//b/").shown = "a/b" := by
  decide +kernel

end Path

end ClientGen.Files
