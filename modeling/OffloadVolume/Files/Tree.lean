import OffloadVolume.Files.Path
import OffloadVolume.Text.Utf8

/-!
# File trees

Files and directories by name. A path is followed part by part; a single dot stays where it is, and
two dots go back to the directory that was followed before.
-/

namespace OffloadVolume

/-- A file with its bytes, or a directory with its entries. -/
inductive FileTree where
  | file (content : List UInt8)
  | dir (entries : List (String × FileTree))

namespace FileTree

def empty : FileTree := dir []

instance : Inhabited FileTree := ⟨empty⟩

def entry? (entries : List (String × FileTree)) (name : String) : Option FileTree :=
  (entries.find? fun e => e.1 == name).map (·.2)

/-- Follows the parts of a path; `up` holds the directories that were followed before, the last one
first. -/
def follow (up : List FileTree) (t : FileTree) : List String → Except Fault FileTree
  | [] => .ok t
  | part :: rest =>
    match t with
    | file _ => .error .notDirectory
    | dir entries =>
      if part = "" ∨ part = "." then follow up t rest
      else if part = ".." then
        match up with
        | [] => follow [] t rest
        | parent :: up => follow up parent rest
      else if Path.maxName < part.utf8ByteSize then .error .nameTooLong
      else
        match entry? entries part with
        | none => .error .notFound
        | some child => follow (t :: up) child rest

def names : FileTree → Except Fault (List String)
  | file _ => .error .notDirectory
  | dir entries => .ok ((entries.map (·.1)).mergeSort fun a b => decide (a ≤ b))

def content : FileTree → Except Fault (List UInt8)
  | file bytes => .ok bytes
  | dir _ => .error .isDirectory

def alter (change : Option FileTree → Option FileTree) (name : String) :
    List (String × FileTree) → List (String × FileTree)
  | [] => ((change none).map fun t => (name, t)).toList
  | e :: entries =>
    if e.1 = name then ((change (some e.2)).map fun t => (name, t)).toList ++ entries
    else e :: alter change name entries

/-- Changes what is at the end of some parts; directories that are missing on the way are made, and
below a file nothing is changed. -/
def alterAt (change : Option FileTree → Option FileTree) :
    List String → Option FileTree → Option FileTree
  | [], t => change t
  | part :: rest, t =>
    match t.getD empty with
    | file content => some (file content)
    | dir entries => some (dir (alter (alterAt change rest) part entries))

def removeAt : List String → FileTree → FileTree
  | _, file content => file content
  | [], t => t
  | [name], dir entries => dir (entries.filter fun e => e.1 != name)
  | part :: rest, dir entries =>
    dir (entries.map fun e => if e.1 = part then (e.1, removeAt rest e.2) else e)

end FileTree

inductive FileChange where
  | mkdir (path : String)
  | write (path : String) (content : List UInt8)
  | remove (path : String)
  deriving Repr

/-- A file tree with the directory where relative paths start. -/
structure Files where
  root : FileTree
  home : List String

namespace Files

def empty : Files := ⟨.dir [("home", .empty)], ["home"]⟩

/-- The parts to follow for a path. -/
def route (f : Files) (path : String) : List String :=
  if Path.isAbsolute path then Path.parts path else f.home ++ Path.parts path

def find (f : Files) (path : String) : Except Fault FileTree :=
  match Path.fault? path with
  | some fault => .error fault
  | none => f.root.follow [] (f.route path)

/-- Whether something is at a path; what cannot be told counts as nothing. -/
def isPresent (f : Files) (path : String) : Bool := (f.find path).isOk

def names (f : Files) (path : String) : Except Fault (List String) := (f.find path).bind (·.names)

def content (f : Files) (path : String) : Except Fault (List UInt8) :=
  (f.find path).bind (·.content)

def text (f : Files) (path : String) : Except Fault String :=
  match f.content path with
  | .error fault => .error fault
  | .ok bytes =>
    match Utf8.decode? bytes with
    | some text => .ok text
    | none => .error .notUtf8

/-- The parts of a path that name entries. -/
def places (f : Files) (path : String) : List String :=
  (f.route path).filter fun part => !(part.isEmpty || part == ".")

def change (f : Files) : FileChange → Files
  | .mkdir path =>
    { f with root := (FileTree.alterAt (fun t => some (t.getD .empty)) (f.places path)
                        (some f.root)).getD .empty }
  | .write path content =>
    { f with root := (FileTree.alterAt (fun t =>
                        match t with
                        | some (.dir entries) => some (.dir entries)
                        | _ => some (.file content)) (f.places path) (some f.root)).getD .empty }
  | .remove path => { f with root := f.root.removeAt (f.places path) }

def changeAll (f : Files) (changes : List FileChange) : Files := changes.foldl change f

end Files
end OffloadVolume
