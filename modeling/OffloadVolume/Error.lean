import OffloadVolume.Fault
import OffloadVolume.Status

/-!
# Attach errors

Why a volume could not be attached or detached. Each error is a cause; `AttachError.message` is the
only place that words it.
-/

namespace OffloadVolume

inductive ArgumentFault where
  | missingKey (key : String)
  | invalidPort (id port : String)
  | functionOutOfRange (function : Nat)
  | functionExpected
  | noBuiltInClient (target : String)
  | other (text : String)
  deriving DecidableEq, Repr

inductive ConfigFault where
  | tooManyBridges (bridges limit : Nat)
  | notNumber (key raw : String)
  | unreadable (path : String) (fault : Fault)
  | malformed (path : String)
  | invalidEndpoint (endpoint : String)
  | unreachable (endpoint : String)
  | other (text : String)
  deriving DecidableEq, Repr

/-- What went wrong with the program that makes local connections. -/
inductive InitiatorFault where
  | notStarted (program : String) (fault : Fault)
  | failed (verb nqn : String) (exitCode : Option Int) (output : String)
  | other (text : String)
  deriving DecidableEq, Repr

/-- Why a volume could not be attached or detached. -/
inductive AttachError where
  | invalidTarget (text : String)
  | unknownBackend (name : String)
  | unsupportedTransport (backend transport : String)
  | invalidArgument (fault : ArgumentFault)
  | rpc (op resource : String) (status : Status)
  | functionsExhausted (bridges : Nat)
  | deviceTimeout (target : String) (timeout : Duration)
  | deviceNotFound (what : String)
  | deviceNotGone (path : String) (timeout : Duration)
  | initiator (fault : InitiatorFault)
  | config (fault : ConfigFault)
  | io (fault : Fault)
  deriving DecidableEq, Repr

def ArgumentFault.message : ArgumentFault → String
  | missingKey key => "volume context is missing " ++ Text.quote key
  | invalidPort id port =>
    "failed to create remote NVMf controller for " ++ Text.quote id ++ ": invalid targetPort " ++
      Text.quote port
  | functionOutOfRange function => "PCI function " ++ Numeral.decimal function ++ " out of range"
  | functionExpected => "PCI backend requires a PCI function, got a TCP target port"
  | noBuiltInClient target =>
    target ++ " has no built-in client, inject a backend with XpuInitiator::with_backend"
  | other text => text

/-- The text of a configuration's fault. What is wrong inside a document is not spelled out. -/
def ConfigFault.message : ConfigFault → String
  | tooManyBridges bridges limit =>
    "kvm_pci_bridges " ++ Numeral.decimal bridges ++ " exceeds " ++ Numeral.decimal limit
  | notNumber key raw => key ++ "=" ++ Text.quote raw ++ " is not a number"
  | unreadable path fault => "read " ++ path ++ ": " ++ fault.message
  | malformed path => "parse " ++ path ++ ": ..."
  | invalidEndpoint endpoint => "invalid endpoint " ++ Text.quote endpoint ++ ": invalid URI"
  | unreachable endpoint => "connect " ++ endpoint ++ ": transport error"
  | other text => text

/-- The text of a local connection's fault; a program that died has no exit code. -/
def InitiatorFault.message : InitiatorFault → String
  | notStarted program fault => program ++ ": " ++ fault.message
  | failed verb nqn exitCode output =>
    let code := match exitCode with
      | some n => "Some(" ++ Numeral.signedDecimal n ++ ")"
      | none => "None"
    "nvme " ++ verb ++ " " ++ nqn ++ " failed (" ++ code ++ "): " ++ output
  | other text => text

namespace AttachError

def message : AttachError → String
  | invalidTarget text => "invalid xpu target type " ++ Text.quote text
  | unknownBackend name => "unknown xpu backend " ++ Text.quote name
  | unsupportedTransport backend transport =>
    "backend " ++ Text.quote backend ++ " does not support transport " ++ Text.quote transport
  | invalidArgument fault => "invalid argument: " ++ fault.message
  | rpc op resource status => op ++ " failed for " ++ Text.quote resource ++ ": " ++ status.text
  | functionsExhausted bridges =>
    "no free PCI function on " ++ Numeral.decimal bridges ++ " bridge(s)"
  | deviceTimeout target timeout =>
    "timed out after " ++ timeout.text ++ " waiting for device " ++ target
  | deviceNotFound what => "no block device found for " ++ what
  | deviceNotGone path timeout => "device " ++ path ++ " still present after " ++ timeout.text
  | initiator fault => "nvmf initiator error: " ++ fault.message
  | config fault => "config error: " ++ fault.message
  | io fault => "I/O error: " ++ fault.message

/-- The error's text, and after it the texts of what it wraps. -/
def chain (e : AttachError) : List String :=
  match e with
  | io fault => [e.message, fault.message]
  | _ => [e.message]

/-- Whether the error is of the kind that a wrong input causes, before any effect. -/
def isConfig : AttachError → Bool
  | invalidTarget _ | unknownBackend _ | unsupportedTransport .. | invalidArgument _
  | config _ => true
  | _ => false

def rpcCode? : AttachError → Option StatusCode
  | rpc _ _ status => some status.code
  | _ => none

end AttachError
end OffloadVolume
