import ClientGen.Failure
import ClientGen.Files.Path

/-! A folder of files by their paths. Its directories are those on the way to a file. -/

set_option autoImplicit false

namespace ClientGen.Files

structure Folder where
  files : List (List String × ByteArray)

namespace Folder

def content? (folder : Folder) (place : List String) : Option ByteArray := folder.files.lookup place

def isDirectory (folder : Folder) (place : List String) : Bool :=
  place.isEmpty ||
    folder.files.any fun (other, _) => place.isPrefixOf other && place.length < other.length

/-- The place that parts of a path lead to. Each but the last has to be a directory. -/
def follow (folder : Folder) (place : List String) : List String → Except FileFault (List String)
  | [] => .ok place
  | part :: rest =>
    if !folder.isDirectory place then
      .error (if (folder.content? place).isSome then .notDirectory else .notFound)
    else if part = ".." then
      if place.isEmpty then .error .notFound else folder.follow place.dropLast rest
    else folder.follow (place ++ [part]) rest

def read (folder : Folder) (path : Path) : Except Failure ByteArray :=
  match folder.follow [] path.parts with
  | .error fault => .error (.file fault path.shown)
  | .ok place =>
    match folder.content? place with
    | some content => .ok content
    | none => .error (.file (if folder.isDirectory place then .isDirectory else .notFound) path.shown)

/-- The directory that parts of a path lead to, made where it is missing. -/
def reach (folder : Folder) (place : List String) : List String → Except FileFault (List String)
  | [] => if (folder.content? place).isSome then .error .alreadyExists else .ok place
  | part :: rest =>
    if (folder.content? place).isSome then .error .notDirectory
    else folder.reach (if part = ".." then place.dropLast else place ++ [part]) rest

def replace (place : List String) (content : ByteArray) :
    List (List String × ByteArray) → List (List String × ByteArray)
  | [] => [(place, content)]
  | (other, old) :: rest =>
    if other = place then (place, content) :: rest else (other, old) :: replace place content rest

/-- The folder with a file written, and the directories on the way to it made. -/
def write (folder : Folder) (path : Path) (content : ByteArray) : Except Failure Folder :=
  let fail (fault : FileFault) : Except Failure Folder := .error (.file fault path.shown)
  match folder.reach [] path.parts.dropLast with
  | .error fault => fail fault
  | .ok directory =>
    match path.parts.getLast? with
    | none | some ".." => fail .isDirectory
    | some name =>
      let place := directory ++ [name]
      if folder.isDirectory place then fail .isDirectory
      else .ok ⟨replace place content folder.files⟩

end Folder

end ClientGen.Files
