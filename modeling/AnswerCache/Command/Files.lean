import AnswerCache.Dictionary
import AnswerCache.Text.Scan

/-!
What the command line needs of a file system, and a folder of files that provides it.
-/

namespace AnswerCache

inductive FileError
  | missing
  | notAFolder
  | isAFolder
  | nameTooLong
  | noSpace
  | other (reason : String)
  deriving DecidableEq

def FileError.message : FileError → String
  | missing => "No such file or directory (os error 2)"
  | notAFolder => "Not a directory (os error 20)"
  | isAFolder => "Is a directory (os error 21)"
  | nameTooLong => "File name too long (os error 36)"
  | noSpace => "No space left on device (os error 28)"
  | other reason => reason

/-- Making a file empties the one that was there; a write that fails may have come some way. -/
structure FileSystem (m : Type → Type) where
  Handle : Type
  load : String → m (Except FileError String)
  isTaken : String → m Bool
  create : String → m (Except FileError Handle)
  write : Handle → String → m (Except FileError Unit)

def FileSystem.save {m : Type → Type} [Monad m] (files : FileSystem m) (path text : String) :
    m (Except FileError Unit) := do
  match ← files.create path with
  | .error error => return .error error
  | .ok handle => files.write handle text

structure Folder where
  files : Dictionary String

def maxPathBytes : Nat := 4096

def maxNameBytes : Nat := 255

namespace Folder

inductive Place
  | folder (front : String)
  | file (name : String)
  | free (name : String)
  deriving DecidableEq

def above (front : String) : String :=
  if front = "/" then front else front ++ "../"

def enter (f : Folder) (place : Place) (piece : String) : Except FileError Place :=
  match place with
  | .file _ => .error .notAFolder
  | .free _ => .error .missing
  | .folder front =>
    if piece = "." then .ok (.folder front)
    else if piece = ".." then .ok (.folder (above front))
    else if piece.utf8ByteSize > maxNameBytes then .error .nameTooLong
    else if f.files.contains (front ++ piece) then .ok (.file (front ++ piece))
    else .ok (.free (front ++ piece))

def isAbsolute (path : String) : Bool :=
  path.toList.head? == some '/'

def wantsFolder (path : String) : Bool :=
  path.toList.getLast? == some '/'

def pathPieces (path : String) : List String :=
  ((Text.pieces '/' path.toList).filter fun piece => !piece.isEmpty).map String.ofList

def place (f : Folder) (path : String) : Except FileError Place :=
  if path.utf8ByteSize ≥ maxPathBytes then .error .nameTooLong
  else (pathPieces path).foldlM f.enter (.folder (if isAbsolute path then "/" else ""))

def load (f : Folder) (path : String) : Except FileError String := do
  match ← f.place path with
  | .folder _ => .error .isAFolder
  | .free _ => .error .missing
  | .file name =>
    if wantsFolder path then .error .notAFolder
    else
      match f.files.find? name with
      | some text => return text
      | none => .error .missing

def isTaken (f : Folder) (path : String) : Bool :=
  match f.place path with
  | .ok (.folder _) => true
  | .ok (.file _) => !wantsFolder path
  | _ => false

def create (f : Folder) (path : String) : Except FileError (String × Folder) := do
  match ← f.place path with
  | .folder _ => .error .isAFolder
  | .file name | .free name =>
    if wantsFolder path then .error .isAFolder else return (name, ⟨f.files.insert name ""⟩)

def fitting (room : Option Nat) (text : String) : String :=
  match room with
  | none => text
  | some n => String.ofList (text.toList.take n)

def write (f : Folder) (name text : String) : Folder :=
  ⟨f.files.insert name ((f.files.find? name).getD "" ++ text)⟩

def fileSystemWithin (room : Option Nat) : FileSystem (StateM Folder) where
  Handle := String
  load path := do return (← get).load path
  isTaken path := do return (← get).isTaken path
  create path := do
    match (← get).create path with
    | .ok (name, f) => set f; return .ok name
    | .error error => return .error error
  write name text := do
    modify fun f => f.write name (fitting room text)
    return if fitting room text = text then .ok () else .error .noSpace

def fileSystem : FileSystem (StateM Folder) :=
  fileSystemWithin none

end Folder

end AnswerCache
