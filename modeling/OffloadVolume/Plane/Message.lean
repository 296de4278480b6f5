import OffloadVolume.Wire.Codec

/-!
# Control-plane messages

The resources that the control plane keeps and the requests to create and delete them, each with
its fields on the wire.
-/

namespace OffloadVolume

open Wire

/-- A reference to a resource by its name. -/
structure ObjectKey where
  value : String := ""
  deriving DecidableEq, Repr

/-- Where a device is shown to the host. -/
structure PciEndpoint where
  portId : Int32 := 0
  physicalFunction : Int32 := 0
  virtualFunction : Int32 := 0
  deriving DecidableEq, Repr

/-- How a storage target is reached; each has a number. -/
inductive TransportType where
  | unspecified
  | fc
  | pcie
  | rdma
  | tcp
  deriving DecidableEq, Repr

inductive AddressFamily where
  | unspecified
  | ipv4
  | ipv6
  deriving DecidableEq, Repr

namespace TransportType

def toInt32 : TransportType → Int32
  | unspecified => 0
  | fc => 1
  | pcie => 2
  | rdma => 3
  | tcp => 4

def ofInt32? (n : Int32) : Option TransportType :=
  [unspecified, fc, pcie, rdma, tcp].find? (·.toInt32 == n)

def name : TransportType → String
  | unspecified => "Unspecified"
  | fc => "Fc"
  | pcie => "Pcie"
  | rdma => "Rdma"
  | tcp => "Tcp"

@[simp] theorem ofInt32?_toInt32 (t : TransportType) : ofInt32? t.toInt32 = some t := by
  cases t <;> decide

end TransportType

namespace AddressFamily

def toInt32 : AddressFamily → Int32
  | unspecified => 0
  | ipv4 => 1
  | ipv6 => 2

def ofInt32? (n : Int32) : Option AddressFamily :=
  [unspecified, ipv4, ipv6].find? (·.toInt32 == n)

def name : AddressFamily → String
  | unspecified => "Unspecified"
  | ipv4 => "Ipv4"
  | ipv6 => "Ipv6"

@[simp] theorem ofInt32?_toInt32 (f : AddressFamily) : ofInt32? f.toInt32 = some f := by
  cases f <;> decide

end AddressFamily

/-- The link from the device to a storage target. Numbers stand for a transport and an address
family, so that one that has no meaning here is kept. -/
structure RemoteController where
  name : String := ""
  trtype : Int32 := 0
  adrfam : Int32 := 0
  traddr : String := ""
  trsvcid : Int64 := 0
  subnqn : String := ""
  hostnqn : String := ""
  deriving DecidableEq, Repr

namespace RemoteController

/-- The transport; a number without meaning counts as unspecified. -/
def transport (r : RemoteController) : TransportType :=
  (TransportType.ofInt32? r.trtype).getD .unspecified

def addressFamily (r : RemoteController) : AddressFamily :=
  (AddressFamily.ofInt32? r.adrfam).getD .unspecified

def withTransport (r : RemoteController) (t : TransportType) : RemoteController :=
  { r with trtype := t.toInt32 }

def withAddressFamily (r : RemoteController) (f : AddressFamily) : RemoteController :=
  { r with adrfam := f.toInt32 }

@[simp] theorem transport_withTransport (r : RemoteController) (t : TransportType) :
    (r.withTransport t).transport = t := by simp [transport, withTransport]

@[simp] theorem addressFamily_withAddressFamily (r : RemoteController) (f : AddressFamily) :
    (r.withAddressFamily f).addressFamily = f := by simp [addressFamily, withAddressFamily]

end RemoteController

structure SubsystemSpec where
  nqn : String := ""
  serialNumber : String := ""
  modelNumber : String := ""
  deriving DecidableEq, Repr

/-- A subsystem, which holds controllers and namespaces. -/
structure Subsystem where
  name : String := ""
  spec : Option SubsystemSpec := none
  deriving DecidableEq, Repr

structure ControllerSpec where
  controllerId : Int32 := 0
  subsystem : Option ObjectKey := none
  pcie : Option PciEndpoint := none
  deriving DecidableEq, Repr

/-- A controller, which shows a subsystem to the host. -/
structure Controller where
  name : String := ""
  spec : Option ControllerSpec := none
  deriving DecidableEq, Repr

structure NamespaceSpec where
  subsystem : Option ObjectKey := none
  hostNsid : Int32 := 0
  volume : Option ObjectKey := none
  deriving DecidableEq, Repr

/-- A namespace, which puts a volume into a subsystem. -/
structure Namespace where
  name : String := ""
  spec : Option NamespaceSpec := none
  deriving DecidableEq, Repr

/-- A virtio-blk device, which shows a volume to the host. -/
structure VirtioBlk where
  name : String := ""
  pcie : Option PciEndpoint := none
  volume : Option ObjectKey := none
  maxIoQps : Int64 := 0
  deriving DecidableEq, Repr

structure CreateRequest (R : Type) where
  resource : Option R := none
  id : String := ""
  deriving DecidableEq, Repr

/-- A request to delete a resource; one that is missing is deleted if the request allows it. -/
structure DeleteRequest where
  name : String := ""
  allowMissing : Bool := false
  deriving DecidableEq, Repr

/-- The answer that says nothing. -/
structure Acknowledgement where
  deriving DecidableEq, Repr

/-! ## Fields -/

def ObjectKey.codec : Codec ObjectKey where
  empty := {}
  fields := [.of 1 .text value fun v m => { m with value := v }]

def PciEndpoint.codec : Codec PciEndpoint where
  empty := {}
  fields :=
    [.of 1 .int32 portId fun v m => { m with portId := v },
     .of 2 .int32 physicalFunction fun v m => { m with physicalFunction := v },
     .of 3 .int32 virtualFunction fun v m => { m with virtualFunction := v }]

def RemoteController.codec : Codec RemoteController where
  empty := {}
  fields :=
    [.of 1 .text name fun v m => { m with name := v },
     .of 2 .int32 trtype fun v m => { m with trtype := v },
     .of 3 .int32 adrfam fun v m => { m with adrfam := v },
     .of 4 .text traddr fun v m => { m with traddr := v },
     .of 5 .int64 trsvcid fun v m => { m with trsvcid := v },
     .of 6 .text subnqn fun v m => { m with subnqn := v },
     .of 12 .text hostnqn fun v m => { m with hostnqn := v }]

def SubsystemSpec.codec : Codec SubsystemSpec where
  empty := {}
  fields :=
    [.of 2 .text nqn fun v m => { m with nqn := v },
     .of 3 .text serialNumber fun v m => { m with serialNumber := v },
     .of 4 .text modelNumber fun v m => { m with modelNumber := v }]

def Subsystem.codec : Codec Subsystem where
  empty := {}
  fields :=
    [.of 1 .text name fun v m => { m with name := v },
     .of 2 (.message SubsystemSpec.codec) spec fun v m => { m with spec := v }]

def ControllerSpec.codec : Codec ControllerSpec where
  empty := {}
  fields :=
    [.of 2 .int32 controllerId fun v m => { m with controllerId := v },
     .of 3 (.message ObjectKey.codec) subsystem fun v m => { m with subsystem := v },
     .of 4 (.message PciEndpoint.codec) pcie fun v m => { m with pcie := v }]

def Controller.codec : Codec Controller where
  empty := {}
  fields :=
    [.of 1 .text name fun v m => { m with name := v },
     .of 2 (.message ControllerSpec.codec) spec fun v m => { m with spec := v }]

def NamespaceSpec.codec : Codec NamespaceSpec where
  empty := {}
  fields :=
    [.of 2 (.message ObjectKey.codec) subsystem fun v m => { m with subsystem := v },
     .of 3 .int32 hostNsid fun v m => { m with hostNsid := v },
     .of 4 (.message ObjectKey.codec) volume fun v m => { m with volume := v }]

def Namespace.codec : Codec Namespace where
  empty := {}
  fields :=
    [.of 1 .text name fun v m => { m with name := v },
     .of 2 (.message NamespaceSpec.codec) spec fun v m => { m with spec := v }]

def VirtioBlk.codec : Codec VirtioBlk where
  empty := {}
  fields :=
    [.of 1 .text name fun v m => { m with name := v },
     .of 2 (.message PciEndpoint.codec) pcie fun v m => { m with pcie := v },
     .of 3 (.message ObjectKey.codec) volume fun v m => { m with volume := v },
     .of 4 .int64 maxIoQps fun v m => { m with maxIoQps := v }]

def CreateRequest.codec {R : Type} (c : Codec R) : Codec (CreateRequest R) where
  empty := {}
  fields :=
    [.of 1 (.message c) resource fun v m => { m with resource := v },
     .of 2 .text id fun v m => { m with id := v }]

def DeleteRequest.codec : Codec DeleteRequest where
  empty := {}
  fields :=
    [.of 1 .text name fun v m => { m with name := v },
     .of 2 .flag allowMissing fun v m => { m with allowMissing := v }]

def Acknowledgement.codec : Codec Acknowledgement where
  empty := {}
  fields := []

end OffloadVolume
