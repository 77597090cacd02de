import InjectionLab.Environment
import InjectionLab.Text.Split

/-!
Files as the program meets them: what is there at a path and what reading it gives, and a tree of
files in which paths are followed from a working directory and files are written. The tree has no
links and no permissions: every directory may be entered and changed, and every file read and
written.
-/
namespace InjectionLab

inductive FileError where
  | notFound
  | alreadyExists
  | notDirectory
  | isDirectory
  | nameTooLong
  | nulInName
  | invalidUtf8
  | permissionDenied
  | other (message : String)
deriving DecidableEq, Repr

def FileError.message : FileError → String
  | notFound => "No such file or directory (os error 2)"
  | alreadyExists => "File exists (os error 17)"
  | notDirectory => "Not a directory (os error 20)"
  | isDirectory => "Is a directory (os error 21)"
  | nameTooLong => "File name too long (os error 36)"
  | nulInName => "file name contained an unexpected NUL byte"
  | invalidUtf8 => "stream did not contain valid UTF-8"
  | permissionDenied => "Permission denied (os error 13)"
  | other message => message

/-- What is there need not be a file that can be read. -/
structure FileView where
  present : OsString → Bool
  content : OsString → Except FileError ByteArray

namespace FileView

def readText (view : FileView) (path : OsString) : Except FileError String :=
  match view.content path with
  | .error e => .error e
  | .ok bytes =>
    match String.fromUTF8? bytes with
    | some text => .ok text
    | none => .error .invalidUtf8

end FileView

inductive Node where
  | file (content : ByteArray)
  | directory

/-- The names of directories on the way from the root, the node's own name last. -/
abbrev Location := List String

/-- Nodes by location, the latest first. The root is always there. -/
structure FileTree where
  nodes : List (Location × Node)

namespace FileTree

def find? (t : FileTree) (place : Location) : Option Node :=
  if place = [] then some .directory else t.nodes.lookup place

def put (t : FileTree) (place : Location) (node : Node) : FileTree := ⟨(place, node) :: t.nodes⟩

/-! Paths -/

def steps (path : String) : List String := (Text.splitAt '/' path.toList).map String.ofList

def start (cwd : Location) (path : String) : Location × List String :=
  match steps path with
  | "" :: first :: rest => ([], first :: rest)
  | others => (cwd, others)

def refused? (path : String) : Option FileError :=
  if path.toList.contains '\x00' then some .nulInName
  else if path = "" then some .notFound
  else if 4096 ≤ path.utf8ByteSize then some .nameTooLong
  else none

def stays (step : String) : Bool := step == "" || step == "."

def tooLong (step : String) : Bool := 255 < step.utf8ByteSize

/-- Follows steps, each of which starts in a directory. The last one may lead to nothing. -/
def follow (t : FileTree) : Location → List String → Except FileError Location
  | here, [] => .ok here
  | here, step :: rest =>
    match t.find? here with
    | none => .error .notFound
    | some (.file _) => .error .notDirectory
    | some .directory =>
      if stays step then follow t here rest
      else if step = ".." then follow t here.dropLast rest
      else if tooLong step then .error .nameTooLong
      else follow t (here ++ [step]) rest

def enter (t : FileTree) (here : Location) (way : List String) : Except FileError Location :=
  follow t here (way ++ ["."])

/-! Reading -/

def nodeAt (t : FileTree) (cwd : Location) (path : String) : Except FileError Node :=
  match refused? path with
  | some e => .error e
  | none =>
    let (here, way) := start cwd path
    match t.follow here way with
    | .error e => .error e
    | .ok place =>
      match t.find? place with
      | none => .error .notFound
      | some node => .ok node

/-- Names in a tree are text, so other paths lead to nothing. -/
def nodeAtPath (t : FileTree) (cwd : Location) (path : OsString) : Except FileError Node :=
  match path.text? with
  | none => .error .notFound
  | some path => t.nodeAt cwd path

def read (t : FileTree) (cwd : Location) : FileView where
  present path := (t.nodeAtPath cwd path).isOk
  content path :=
    match t.nodeAtPath cwd path with
    | .error e => .error e
    | .ok .directory => .error .isDirectory
    | .ok (.file content) => .ok content

/-! Writing -/

def makeDirectory (t : FileTree) (here : Location) (way : List String) : Except FileError FileTree :=
  match way.getLast? with
  | none => .error .alreadyExists
  | some name =>
    match t.enter here way.dropLast with
    | .error e => .error e
    | .ok parent =>
      if name = ".." then .error .alreadyExists
      else if tooLong name then .error .nameTooLong
      else
        match t.find? (parent ++ [name]) with
        | some _ => .error .alreadyExists
        | none => .ok (t.put (parent ++ [name]) .directory)

/-- A directory that could not be made may have been there before. -/
def orPresent (t : FileTree) (here : Location) (way : List String) :
    Except FileError FileTree → Except FileError FileTree
  | .ok made => .ok made
  | .error e =>
    match t.enter here way with
    | .ok _ => .ok t
    | .error _ => .error e

/-- Makes a directory and those on the way to it. The way is given with its last step first. -/
def makeDirectories (t : FileTree) (here : Location) : List String → Except FileError FileTree
  | [] => .ok t
  | name :: before =>
    let way := (name :: before).reverse
    match t.makeDirectory here way with
    | .error .notFound =>
      match makeDirectories t here before with
      | .error e => .error e
      | .ok t => t.orPresent here way (t.makeDirectory here way)
    | result => t.orPresent here way result

def parentSteps (way : List String) : List String := ((way.filter fun s => !stays s).reverse).drop 1

def endsInSlash (way : List String) : Bool := way.getLast? == some ""

def write (t : FileTree) (cwd : Location) (path : String) (content : ByteArray) :
    Except FileError FileTree :=
  match refused? path with
  | some e => .error e
  | none =>
    let (here, way) := start cwd path
    let bare := ((way.reverse).dropWhile (· == "")).reverse
    match t.enter here bare.dropLast with
    | .error e => .error e
    | .ok parent =>
      let name := bare.getLast?.getD "."
      if endsInSlash way || stays name || name = ".." then .error .isDirectory
      else if tooLong name then .error .nameTooLong
      else
        match t.find? (parent ++ [name]) with
        | some .directory => .error .isDirectory
        | _ => .ok (t.put (parent ++ [name]) (.file content))

def save (t : FileTree) (cwd : Location) (path : String) (content : ByteArray) :
    Except FileError FileTree :=
  let (here, way) := start cwd path
  if (parentSteps way).any fun step => step.toList.contains '\x00' then .error .nulInName
  else
    match t.makeDirectories here (parentSteps way) with
    | .error e => .error e
    | .ok t => t.write cwd path content

end FileTree
end InjectionLab
