import OffloadVolume.Text.Blank
import OffloadVolume.Volume

/-!
# Context options

A volume is described on the command line by texts `KEY=VALUE`. White space around a key does not
count, and of several values of a key the last one does. Main statements: `ofOptions_nil`, and
`ofOptions_append`, options are read one after another.
-/

namespace OffloadVolume

inductive OptionFault where
  | noEquals (raw : String)
  | emptyKey (raw : String)
  deriving DecidableEq, Repr

namespace OptionFault

def message : OptionFault → String
  | noEquals raw => "invalid --context value \x60" ++ raw ++ "\x60: expected format KEY=VALUE"
  | emptyKey raw => "invalid --context value \x60" ++ raw ++ "\x60: key must not be empty"

end OptionFault

namespace VolumeContext

/-- The key and the value of an option, which the first equals sign separates. -/
def option (raw : String) : Except OptionFault (String × String) :=
  let cs := raw.toList
  match cs.dropWhile (· != '=') with
  | [] => .error (.noEquals raw)
  | _ :: value =>
    let key := Text.trimChars (cs.takeWhile (· != '='))
    if key.isEmpty then .error (.emptyKey raw) else .ok (String.ofList key, String.ofList value)

def addOption (v : VolumeContext) (raw : String) : Except OptionFault VolumeContext :=
  (option raw).map fun e => v.insert e.1 e.2

def addOptions (v : VolumeContext) (options : List String) : Except OptionFault VolumeContext :=
  options.foldlM addOption v

/-- The context that options describe. The first option that is wrong is reported. -/
def ofOptions (options : List String) : Except OptionFault VolumeContext :=
  empty.addOptions options

@[simp] theorem ofOptions_nil : ofOptions [] = .ok empty := rfl

/-- Options that come later are added to the context of the ones before. -/
theorem ofOptions_append (first second : List String) :
    ofOptions (first ++ second) = (ofOptions first).bind (addOptions · second) :=
  List.foldlM_append

end VolumeContext
end OffloadVolume
