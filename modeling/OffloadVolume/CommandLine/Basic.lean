import OffloadVolume.CommandLine.Form
import OffloadVolume.Text.Numeral

/-!
# Command lines

A command line names one of two commands: to attach a volume and hold it, or to check a target
type. Main statements: `ofArguments_nil`, without arguments nothing is run, and
`ofArguments_parseTarget`, a word that looks like no option is taken for a target type.
-/

namespace OffloadVolume

structure AttachRequest where
  endpoint : String
  targetType : String
  context : List String
  config : Option String
  connectTimeoutSecs : Nat
  deriving DecidableEq, Repr

inductive Command where
  | attach (request : AttachRequest)
  | parseTarget (text : String)
  deriving DecidableEq, Repr

/-- A command, and whether logs are structured. -/
structure CommandLine where
  logJson : Bool
  command : Command
  deriving DecidableEq, Repr

/-! ## The form of each command -/

inductive AttachOption where
  | endpoint
  | targetType
  | context
  | config
  | connectTimeout
  deriving DecidableEq, Repr

/-- What is known so far about an attachment. -/
structure AttachFields where
  endpoint : Option String := none
  targetType : Option String := none
  context : List String := []
  config : Option String := none
  connectTimeoutSecs : Option Nat := none
  deriving DecidableEq, Repr

namespace AttachOption

def ofName? (name : String) : Option AttachOption :=
  match name with
  | "endpoint" => some endpoint
  | "target-type" => some targetType
  | "context" => some context
  | "config" => some config
  | "connect-timeout-secs" => some connectTimeout
  | _ => none

/-- What is in a field once a value is put there; only a field that is empty takes one. -/
def once (field : Option α) (value : Except Refusal α) : Except Refusal (Option α) :=
  match field with
  | some _ => .error .repeated
  | none => value.map some

/-- Gives a value to an option. All but the context may be given once. -/
def give (o : AttachOption) (value : String) (f : AttachFields) : Except Refusal AttachFields :=
  match o with
  | endpoint => do return { f with endpoint := ← once f.endpoint (.ok value) }
  | targetType => do return { f with targetType := ← once f.targetType (.ok value) }
  | context => .ok { f with context := f.context ++ [value] }
  | config => do
    let path := if value.isEmpty then .error .missingValue else .ok value
    return { f with config := ← once f.config path }
  | connectTimeout => do
    let seconds := match Numeral.unsigned? 10 Numeral.max64 value.toList with
      | some n => .ok n
      | none => .error .invalidNumber
    return { f with connectTimeoutSecs := ← once f.connectTimeoutSecs seconds }

end AttachOption

namespace AttachFields

def defaultConnectTimeout : Nat := 10

def request (f : AttachFields) : Except Refusal AttachRequest :=
  match f.endpoint, f.targetType with
  | some endpoint, some targetType =>
    .ok { endpoint, targetType, context := f.context, config := f.config
          connectTimeoutSecs := f.connectTimeoutSecs.getD defaultConnectTimeout }
  | _, _ => .error .missingArgument

end AttachFields

namespace Form

def attach : Form AttachOption AttachFields where
  option? := AttachOption.ofName?
  give := AttachOption.give
  word _ _ := .error .unknownArgument

def parseTarget : Form Empty (Option String) where
  option? _ := none
  give _ _ := .ok
  word text field := if field.isSome then .error .unknownArgument else .ok (some text)

/-- The form before the command: no words. -/
def top : Form Empty Unit where
  option? _ := none
  give _ _ := .ok
  word _ _ := .error .unknownCommand

end Form

/-! ## Commands by name -/

inductive CommandName where
  | attach
  | parseTarget
  | help
  deriving DecidableEq, Repr

namespace CommandName

def ofText? (text : String) : Option CommandName :=
  match text with
  | "attach" => some attach
  | "parse-target" => some parseTarget
  | "help" => some help
  | _ => none

/-- Help on a command. None of them has commands of its own. -/
def helpOn (words : List String) : Refusal :=
  match words with
  | [] => .helpAsked
  | [word] => if (ofText? word).isSome then .helpAsked else .unknownCommand
  | _ => .unknownCommand

def read (name : CommandName) (logJson : Bool) (arguments : List String) :
    Except Refusal CommandLine :=
  match name with
  | attach => do
    let s ← Form.attach.fill {} arguments
    return ⟨logJson || s.logJson, .attach (← s.fields.request)⟩
  | parseTarget => do
    let s ← Form.parseTarget.fill none arguments
    match s.fields with
    | some text => return ⟨logJson || s.logJson, .parseTarget text⟩
    | none => .error .missingArgument
  | help => .error (helpOn arguments)

end CommandName

namespace CommandLine

def read (s : Filling Empty Unit) : List String → Except Refusal CommandLine
  | [] => .error (if s.logJson then .missingCommand else .nothingGiven)
  | text :: rest =>
    match CommandName.ofText? text with
    | some name => if s.plainOnly then .error .unknownArgument else name.read s.logJson rest
    | none =>
      match Form.top.step s text with
      | .error e => .error e
      | .ok s => read s rest

def ofArguments (arguments : List String) : Except Refusal CommandLine :=
  read { fields := () } arguments

@[simp] theorem ofArguments_nil : ofArguments [] = .error .nothingGiven := rfl

/-- A word that looks like no option is taken for the text of a target type. -/
theorem ofArguments_parseTarget {text : String} (h : Word.ofText text = .plain) :
    ofArguments ["parse-target", text] = .ok ⟨false, .parseTarget text⟩ := by
  have hstep : Form.parseTarget.step { fields := none } text = .ok { fields := some text } := by
    simp only [Form.step, h, Bool.false_eq_true, if_false]
    rfl
  have hfill : Form.parseTarget.fill none [text] = .ok { fields := some text } := by
    simp only [Form.fill, List.foldlM_cons, List.foldlM_nil, hstep]
    rfl
  simp only [ofArguments, read, CommandName.ofText?, Bool.false_eq_true, if_false,
    CommandName.read, hfill]
  rfl

end CommandLine
end OffloadVolume
