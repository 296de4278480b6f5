import OffloadVolume.Error
import OffloadVolume.Files.Tree
import OffloadVolume.Text.Blank

/-!
# Device trees

The tree in which a host shows its devices: a directory for each PCI function, with its NVMe
namespaces and virtio disks, and a directory for each block device, with its model. A directory
that is missing has no entries; one that cannot be read is an error.
-/

namespace OffloadVolume

/-- A device tree at a path, and the directory of the device nodes. -/
structure Sysfs where
  root : String
  devRoot : String := "/dev"
  deriving DecidableEq, Repr

namespace Sysfs

def entryNames (f : Files) (path : String) : Except AttachError (List String) :=
  match f.names path with
  | .ok names => .ok names
  | .error .notFound => .ok []
  | .error fault => .error (.io fault)

def functionPath (s : Sysfs) (bdf : String) : String :=
  Path.joinAll s.root ["bus/pci/devices", bdf]

def hasFunction (s : Sysfs) (f : Files) (bdf : String) : Bool := f.isPresent (s.functionPath bdf)

/-- The model of a block device, the white space around it left out, if it can be read. -/
def modelOf (s : Sysfs) (f : Files) (block : String) : Option String :=
  match f.text (Path.joinAll s.root ["block", block, "device/model"]) with
  | .ok text => some (Text.trim text)
  | .error _ => none

def node (s : Sysfs) (block : String) : String := Path.join s.devRoot block

def startsWith (start text : String) : Bool := start.toList.isPrefixOf text.toList

def namespacesOf (s : Sysfs) (f : Files) (bdf : String) : Except AttachError (List String) := do
  let controllers ← entryNames f (Path.join (s.functionPath bdf) "nvme")
  let blocks ← controllers.mapM fun controller => do
    let names ← entryNames f (Path.joinAll (s.functionPath bdf) ["nvme", controller])
    return names.filter (startsWith (controller ++ "n"))
  return blocks.flatten

def disksOf (s : Sysfs) (f : Files) (bdf : String) : Except AttachError (List String) := do
  let devices ← entryNames f (s.functionPath bdf)
  let blocks ← (devices.filter (startsWith "virtio")).mapM fun device =>
    entryNames f (Path.joinAll (s.functionPath bdf) [device, "block"])
  return blocks.flatten

def blocksOf (s : Sysfs) (f : Files) (bdf : String) : Except AttachError (List String) := do
  let namespaces ← s.namespacesOf f bdf
  let disks ← s.disksOf f bdf
  return namespaces ++ disks

/-- The first block device of a function, of a model if one is given. -/
def findByBdf (s : Sysfs) (f : Files) (bdf : String) (model : Option String) :
    Except AttachError (Option String) := do
  let blocks ← s.blocksOf f bdf
  let fits (block : String) : Bool :=
    match model with
    | none => true
    | some _ => s.modelOf f block == model
  return (blocks.find? fits).map s.node

def findByModel (s : Sysfs) (f : Files) (model : String) : Except AttachError (Option String) := do
  let blocks ← entryNames f (Path.join s.root "block")
  return (blocks.find? fun block => s.modelOf f block == some model).map s.node

end Sysfs
end OffloadVolume
