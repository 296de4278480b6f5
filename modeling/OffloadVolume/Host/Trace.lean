import OffloadVolume.Config.Basic
import OffloadVolume.Plane.Call
import OffloadVolume.Slot

/-!
# Traces

What an initiator asks for, step by step, and a text for each step.
-/

namespace OffloadVolume

/-- One thing that is asked of a host, of a backend or of a control plane. -/
inductive Step where
  | existing (model : String)
  | lookup (bdf : String)
  | waitBdf (bdf : String) (model : Option String) (timeout : Duration)
  | waitModel (model : String) (timeout : Duration)
  | waitGone (path : String) (timeout : Duration)
  | allocate (bridges : Nat)
  | release (slot : PciSlot)
  | backendConnect (params : ConnectParams)
  | backendDisconnect
  | connectLocally (target : NvmfTarget)
  | disconnectLocally (nqn : String)
  | call (call : Call)
  deriving DecidableEq, Repr

namespace Step

def seconds (d : Duration) : String := Numeral.decimal d.secs ++ "s"

def paramsText : ConnectParams → String
  | .tcpPort port => "tcp " ++ Numeral.decimal port
  | .pciFunction function => "pci " ++ Numeral.decimal function

def text : Step → String
  | existing model => "watcher.check " ++ model
  | lookup bdf => "watcher.lookup " ++ bdf
  | waitBdf bdf (some model) timeout =>
    "watcher.wait " ++ bdf ++ " model " ++ model ++ " " ++ seconds timeout
  | waitBdf bdf none timeout => "watcher.wait " ++ bdf ++ " any model " ++ seconds timeout
  | waitModel model timeout => "watcher.wait_model " ++ model ++ " " ++ seconds timeout
  | waitGone path timeout => "watcher.gone " ++ path ++ " " ++ seconds timeout
  | allocate bridges => "allocator.allocate " ++ Numeral.decimal bridges
  | release slot =>
    "allocator.release " ++ Numeral.decimal slot.pf ++ " " ++ Numeral.decimal slot.vf
  | backendConnect params => "backend.connect " ++ paramsText params
  | backendDisconnect => "backend.disconnect"
  | connectLocally t =>
    "nvmf.connect " ++ t.transport ++ " " ++ t.addr ++ " " ++ Numeral.decimal t.port ++ " " ++
      t.nqn ++ " " ++ t.model
  | disconnectLocally nqn => "nvmf.disconnect " ++ nqn
  | call c => "plane." ++ c.name

def isCall : Step → Bool
  | call _ => true
  | _ => false

end Step
end OffloadVolume
