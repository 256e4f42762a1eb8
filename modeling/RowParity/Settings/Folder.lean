import RowParity.Text.Blank

/-!
# Paths and folders

The parts of paths to settings files, and what paths lead to in a folder that is held in memory, for
settings that are tried out without a disk. Every step of a path starts at a folder: `a/..` leads
back only where `a` is a folder, and a slash behind a file leads nowhere.
-/

namespace RowParity

/-! ## Paths -/

def pathParts (path : String) : List (List Char) :=
  Text.splitWhere (· = '/') path.toList

/-- Whether a part of a path stays where it is. -/
def isStay (part : List Char) : Bool :=
  part = [] || part = ['.']

/-- The path up to its last name. There is none if the path ends by going back. -/
def upToName? (path : String) : Option String :=
  match (pathParts path).reverse.dropWhile isStay with
  | [] => none
  | part :: parts =>
    if part = ['.', '.'] then none
    else some (String.intercalate "/" ((part :: parts).reverse.map String.ofList))

/-- The ending of the last name of a path, behind the last point of that name. A point at the start
of a name sets nothing apart. -/
def ending? (path : String) : Option String := do
  let path ← upToName? path
  let name := path.toList.reverse.takeWhile (· != '/')
  match name.dropWhile (· != '.') with
  | _ :: _ :: _ => some (String.ofList (name.takeWhile (· != '.')).reverse)
  | _ => none

/-- The path up to its last name, which gets the ending in place of one that it has. -/
def withEnding? (path ending : String) : Option String := do
  let named ← upToName? path
  let bare :=
    match ending? named with
    | some old => String.ofList (named.toList.take (named.length - old.length - 1))
    | none => named
  return bare ++ "." ++ ending

/-- The path with one more ending. If the last name of the path has an ending already, a stand-in
goes behind the whole path, slashes included, and the ending takes the place of the stand-in. -/
def withMoreEnding? (path ending : String) : Option String :=
  withEnding? (if (ending? path).isSome then path ++ ".dummy" else path) ending

/-! ## Folders -/

inductive Entry where
  | file (content : String)
  | folder
  deriving DecidableEq, Repr

def Entry.content? : Entry → Option String
  | file content => some content
  | folder => none

/-- A folder by the paths of what is inside. -/
structure Folder where
  /-- The files with their contents. The folders on the way to them are there as well. -/
  files : List (String × String) := []
  /-- Folders that may have no files. -/
  folders : List String := []

namespace Folder

/-- A place inside a folder: the names on the way to it. -/
abbrev Place := List (List Char)

def placeOf (path : String) : Place :=
  (pathParts path).filter (!isStay ·)

def hasFolder (folder : Folder) (place : Place) : Bool :=
  place.isEmpty ||
    folder.files.any (fun file => place.isPrefixOf (placeOf file.1).dropLast) ||
    folder.folders.any (fun path => place.isPrefixOf (placeOf path))

def at? (folder : Folder) (place : Place) : Option Entry :=
  match folder.files.find? fun file => placeOf file.1 = place with
  | some file => some (.file file.2)
  | none => if folder.hasFolder place then some .folder else none

/-- The place one step further, which may be empty. No step leads out of the folder. -/
def step? (folder : Folder) (place : Place) (part : List Char) : Option Place :=
  if !folder.hasFolder place then none
  else if isStay part then some place
  else if part = ['.', '.'] then
    if place.isEmpty then none else some place.dropLast
  else some (place ++ [part])

/-- What a path leads to from the folder. A path that starts with a slash does not start here. -/
def entry? (folder : Folder) (path : String) : Option Entry := do
  if path.toList.head? = some '/' then none
  let place ← (pathParts path).foldlM folder.step? []
  folder.at? place

end Folder

end RowParity
