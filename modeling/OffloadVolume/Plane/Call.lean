import OffloadVolume.Plane.Message

/-!
# Calls

The control plane keeps five collections of resources, and each can be created in or deleted from.
A call fixes the types of its request and its answer.
-/

namespace OffloadVolume

open Wire

inductive Collection where
  | subsystem
  | controller
  | remote
  | «namespace»
  | virtioBlk
  deriving DecidableEq, Repr

namespace Collection

def all : List Collection := [subsystem, controller, remote, «namespace», virtioBlk]

theorem mem_all (k : Collection) : k ∈ all := by cases k <;> decide

abbrev Resource : Collection → Type
  | subsystem => Subsystem
  | controller => Controller
  | remote => RemoteController
  | «namespace» => Namespace
  | virtioBlk => VirtioBlk

/-- The name of a resource's type in the names of calls. -/
def noun : Collection → String
  | subsystem => "NvmeSubsystem"
  | controller => "NvmeController"
  | remote => "NvmfRemoteController"
  | «namespace» => "NvmeNamespace"
  | virtioBlk => "VirtioBlk"

def codec : (k : Collection) → Codec k.Resource
  | subsystem => Subsystem.codec
  | controller => Controller.codec
  | remote => RemoteController.codec
  | «namespace» => Namespace.codec
  | virtioBlk => VirtioBlk.codec

def nameOf : (k : Collection) → k.Resource → String
  | subsystem => Subsystem.name
  | controller => Controller.name
  | remote => RemoteController.name
  | «namespace» => Namespace.name
  | virtioBlk => VirtioBlk.name

/-- The resource of which only the name is set. -/
def named : (k : Collection) → String → k.Resource
  | subsystem, name => { name }
  | controller, name => { name }
  | remote, name => { name }
  | «namespace», name => { name }
  | virtioBlk, name => { name }

@[simp] theorem nameOf_named (k : Collection) (name : String) : k.nameOf (k.named name) = name := by
  cases k <;> rfl

instance (k : Collection) : DecidableEq k.Resource :=
  match k with
  | subsystem => inferInstanceAs (DecidableEq Subsystem)
  | controller => inferInstanceAs (DecidableEq Controller)
  | remote => inferInstanceAs (DecidableEq RemoteController)
  | «namespace» => inferInstanceAs (DecidableEq Namespace)
  | virtioBlk => inferInstanceAs (DecidableEq VirtioBlk)

end Collection

/-- What the control plane can be asked for. -/
inductive Call where
  | create (k : Collection)
  | delete (k : Collection)
  deriving DecidableEq, Repr

namespace Call

def all : List Call := Collection.all.flatMap fun k => [create k, delete k]

abbrev Request : Call → Type
  | create k => CreateRequest k.Resource
  | delete _ => DeleteRequest

abbrev Reply : Call → Type
  | create k => k.Resource
  | delete _ => Acknowledgement

/-- The collection that a call changes. -/
def collection : Call → Collection
  | create k | delete k => k

def name : Call → String
  | create k => "Create" ++ k.noun
  | delete k => "Delete" ++ k.noun

def requestCodec : (c : Call) → Codec c.Request
  | create k => CreateRequest.codec k.codec
  | delete _ => DeleteRequest.codec

def replyCodec : (c : Call) → Codec c.Reply
  | create k => k.codec
  | delete _ => Acknowledgement.codec

/-- The service that takes a call, and what it calls it. -/
def service : Call → String × String
  | create .remote => ("NVMfRemoteControllerService", "CreateNVMfRemoteController")
  | delete .remote => ("NVMfRemoteControllerService", "DeleteNVMfRemoteController")
  | create .virtioBlk => ("FrontendVirtioBlkService", "CreateVirtioBlk")
  | delete .virtioBlk => ("FrontendVirtioBlkService", "DeleteVirtioBlk")
  | c => ("FrontendNvmeService", c.name)

/-- Where a call is sent over a connection. -/
def path (c : Call) : String := "/opi_api.storage.v1." ++ c.service.1 ++ "/" ++ c.service.2

instance (c : Call) : DecidableEq c.Request :=
  match c with
  | create _ => inferInstanceAs (DecidableEq (CreateRequest _))
  | delete _ => inferInstanceAs (DecidableEq DeleteRequest)

end Call

structure Sent where
  call : Call
  request : call.Request
  deriving DecidableEq

end OffloadVolume
