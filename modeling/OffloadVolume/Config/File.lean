import OffloadVolume.Config.Reading
import OffloadVolume.Document.Json
import OffloadVolume.Document.Yaml.Node
import OffloadVolume.Files.Tree

/-!
# Configuration files

A file is JSON if its name says so and else YAML.
-/

namespace OffloadVolume

inductive ConfigFormat where
  | json
  | yaml
  deriving DecidableEq, Repr

namespace ConfigFormat

/-- What follows the last dot of a file's name, unless that dot is its first character. -/
def extension? (name : String) : Option String :=
  let after := name.toList.reverse.takeWhile (· != '.')
  let before := name.toList.reverse.dropWhile (· != '.')
  if before.length ≤ 1 then none else some (String.ofList after.reverse)

/-- The last part of a path, unless it leads back. -/
def fileName (path : String) : String :=
  let last := (Path.components path).getLast?.getD ""
  if last == ".." then "" else last

def ofPath (path : String) : ConfigFormat :=
  if extension? (fileName path) = some "json" then json else yaml

def parse? : ConfigFormat → String → Option Document
  | json => Json.parse?
  | yaml => Yaml.parse? ConfigPatch.levels

end ConfigFormat

namespace Config

def readPatch (f : Files) (path : String) : Except AttachError ConfigPatch :=
  match f.text path with
  | .error fault => .error (.config (.unreadable path fault))
  | .ok text =>
    match ((ConfigFormat.ofPath path).parse? text).bind ConfigPatch.ofDocument? with
    | some patch => .ok patch
    | none => .error (.config (.malformed path))

/-- The configuration of a program: the file at a path, if it is given one, and the environment. -/
def loadFile (f : Files) (path : Option String) (env : Environment) : Except AttachError Config :=
  load (path.map (readPatch f)) env

end Config
end OffloadVolume
