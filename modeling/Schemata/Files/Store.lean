import Schemata.Files.Access
import Schemata.Files.Path

/-!
# Files in memory

A store holds files by the way to them from a current directory. A directory is
there if a file is inside of it, and everything above the current directory is a
directory too. A path is followed one part at a time: each part but the last must
lead to a directory, even if the next part leads out of it again.
-/

namespace Schemata.Files

/-- What a file holds: a text, or bytes that are none. -/
inductive Contents where
  | text (content : String)
  | binary
  deriving DecidableEq, Repr

/-- The way to something: the names of directories, then its own. -/
abbrev Way := List String

/-- Files by the way to them. -/
structure Store where
  files : List (Way × Contents) := []
  deriving DecidableEq, Repr

/-- Where a path leads to. -/
inductive Place where
  | directory (way : Way)
  | file (way : Way) (contents : Contents)
  | absent (way : Way)
  deriving DecidableEq, Repr

namespace Store

/-- Whether a way only leads out of the current directory. -/
def isAbove (way : Way) : Bool :=
  way.all fun step => step = ".." || step = "/"

/-- Whether there is a directory at the end of a way. -/
def isDirectory (store : Store) (way : Way) : Bool :=
  isAbove way || store.files.any fun (other, _) => way.isPrefixOf other && way ≠ other

/-- What is at the end of a way. -/
def placeAt (store : Store) (way : Way) : Place :=
  match store.files.lookup way with
  | some contents => .file way contents
  | none => if store.isDirectory way then .directory way else .absent way

/-- The way to the directory around a directory. -/
def parentWay (way : Way) : Way :=
  if way = ["/"] then ["/"]
  else if isAbove way then way ++ [".."]
  else way.dropLast

/-- Follow one part of a path. -/
def follow (store : Store) (place : Place) (part : String) : Except FileError Place :=
  match place with
  | .file .. => .error .notDirectory
  | .absent _ => .error .notFound
  | .directory way =>
    if part = "" || part = "." then .ok place
    else if part = ".." then .ok (.directory (parentWay way))
    else if 255 < part.utf8ByteSize then .error .nameTooLong
    else .ok (store.placeAt (way ++ [part]))

/-- The greatest number of bytes of a path. -/
def pathLimit : Nat := 4095

/-- Where some parts of a path lead to, if the path can be asked for at all. -/
def followParts (store : Store) (path : String) (parts : List String) : Except FileError Place :=
  if path.toList.contains (Char.ofNat 0) then .error .nulInPath
  else if path = "" then .error .notFound
  else if pathLimit < path.utf8ByteSize then .error .nameTooLong
  else
    let start : Way := if isAbsolute path then ["/"] else []
    parts.foldlM store.follow (.directory start)

/-- Where a path leads to. -/
def locate (store : Store) (path : String) : Except FileError Place :=
  store.followParts path (pathParts path)

/-- The text of a file. -/
def read (store : Store) (path : String) : Except FileError String := do
  match ← store.locate path with
  | .file _ (.text content) => .ok content
  | .file _ .binary => .error .notText
  | .directory _ => .error .isDirectory
  | .absent _ => .error .notFound

/-- Whether a path leads to a file. -/
def isFile (store : Store) (path : String) : Bool :=
  match store.locate path with
  | .ok (.file ..) => true
  | _ => false

/-- A store with a file at the end of a way. -/
def put (store : Store) (way : Way) (contents : Contents) : Store :=
  ⟨store.files.filter (fun file => file.1 ≠ way) ++ [(way, contents)]⟩

/-- The parts of a path before its last one, where slashes at the end make no part. -/
def leadingParts (path : String) : List String :=
  ((pathParts path).reverse.dropWhile (· = "")).reverse.dropLast

/--
Where a file is to be written. A path that ends with a slash is none for a file: only
the directory around its last part is followed, and that part may be any name.
-/
def locateForWriting (store : Store) (path : String) : Except FileError Place :=
  if path.toList.getLast? = some '/' then do
    let _ ← store.followParts path (leadingParts path ++ ["."])
    .error .isDirectory
  else
    store.locate path

/-- Write the text of a file, in a directory that is there. -/
def write (store : Store) (path content : String) : Except FileError Store := do
  match ← store.locateForWriting path with
  | .file way _ => .ok (store.put way (.text content))
  | .absent way => .ok (store.put way (.text content))
  | .directory _ => .error .isDirectory

/-- Access to the files of a store. -/
def access : FileAccess (StateM Store) where
  read path := do return (← get).read path
  isFile path := do return (← get).isFile path
  write path content := do
    match (← get).write path content with
    | .ok store =>
      set store
      return .ok ()
    | .error error => return .error error

end Store

end Schemata.Files
