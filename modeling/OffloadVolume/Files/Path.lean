import OffloadVolume.Fault

/-!
# Paths

A path is a text of parts between slashes; one that starts with a slash is absolute.
-/

namespace OffloadVolume.Path

def isAbsolute (path : String) : Bool := path.toList.head? == some '/'

def parts (path : String) : List String := (path.toList.splitOn '/').map String.ofList

/-- Puts a path behind another one; an absolute path takes its place. -/
def join (base path : String) : String :=
  if isAbsolute path || base.isEmpty then path
  else if base.toList.getLast? == some '/' then base ++ path
  else base ++ "/" ++ path

def joinAll (base : String) (parts : List String) : String := parts.foldl join base

/-- The parts by which two texts are told to be the same path: empty ones do not count, and neither
does a single dot, unless a relative path starts with it. -/
def components (path : String) : List String :=
  match parts path with
  | [] => []
  | first :: rest =>
    let kept := rest.filter fun part => !(part.isEmpty || part == ".")
    if isAbsolute path then "/" :: kept
    else if first.isEmpty then kept
    else first :: kept

def maxName : Nat := 255

def maxPath : Nat := 4096

/-- Why a text cannot be a path, if it cannot. -/
def fault? (path : String) : Option Fault :=
  if path.toList.contains '\x00' then some .zeroInPath
  else if path.isEmpty then some .notFound
  else if maxPath ≤ path.utf8ByteSize then some .nameTooLong
  else none

end OffloadVolume.Path
