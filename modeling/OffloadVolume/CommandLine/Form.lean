import OffloadVolume.CommandLine.Word

/-!
# Forms of a command line

A form says which options with values a command takes and what becomes of its words. The flags
for help and for structured logs belong to every form. A value is given to its option when the next
option, or the end, is reached.
-/

namespace OffloadVolume

inductive Refusal where
  | helpAsked
  | nothingGiven
  | missingCommand
  | unknownCommand
  | unknownArgument
  | missingValue
  | invalidNumber
  | repeated
  | unwantedValue
  | missingArgument
  deriving DecidableEq, Repr

def Refusal.message : Refusal → String
  | helpAsked => "commands: attach, parse-target, help"
  | nothingGiven | missingCommand => "a command is missing"
  | unknownCommand => "there is no such command"
  | unknownArgument => "there is no such argument"
  | missingValue => "an option needs a value"
  | invalidNumber => "a value is not a number"
  | repeated => "an option is given twice"
  | unwantedValue => "a flag takes no value"
  | missingArgument => "a required argument is missing"

/-- The options `ο` of a command and the fields `φ` that are filled in. -/
structure Form (ο φ : Type) where
  option? : String → Option ο
  /-- Gives a value to an option. -/
  give : ο → String → φ → Except Refusal φ
  /-- Takes a word that belongs to no option. -/
  word : String → φ → Except Refusal φ

/-- A form that is being filled in. -/
structure Filling (ο φ : Type) where
  fields : φ
  /-- Whether logs are structured. -/
  logJson : Bool := false
  /-- The option read last, and its value once that is reached. -/
  pending : Option (ο × Option String) := none
  /-- Whether all further words are plain. -/
  plainOnly : Bool := false
  deriving Repr

namespace Form

variable {ο φ : Type}

/-- Gives the value that is pending to its option. -/
def settle (f : Form ο φ) (s : Filling ο φ) : Except Refusal (Filling ο φ) :=
  match s.pending with
  | none => .ok s
  | some (_, none) => .error .missingValue
  | some (o, some value) => do
    let fields ← f.give o value s.fields
    return { s with fields, pending := none }

def flag (f : Form ο φ) (help : Bool) (s : Filling ο φ) : Except Refusal (Filling ο φ) := do
  let s ← f.settle s
  if help then .error .helpAsked
  else if s.logJson then .error .repeated
  else return { s with logJson := true }

def long (f : Form ο φ) (name : String) (value : Option String) (s : Filling ο φ) :
    Except Refusal (Filling ο φ) :=
  if name = "help" ∨ name = "log-json" then
    if value.isSome then .error .unwantedValue else f.flag (name = "help") s
  else
    match f.option? name with
    | none => .error .unknownArgument
    | some o => do
      let s ← f.settle s
      let s := { s with pending := some (o, value) }
      if value.isSome then f.settle s else return s

/-- Takes a word that looks like no option: it is the value of the option before it, if that one
has none yet. -/
def plain (f : Form ο φ) (text : String) (s : Filling ο φ) : Except Refusal (Filling ο φ) := do
  match s.plainOnly, s.pending with
  | false, some (o, none) => return { s with pending := some (o, some text) }
  | _, _ => return { s with fields := ← f.word text s.fields }

def step (f : Form ο φ) (s : Filling ο φ) (text : String) : Except Refusal (Filling ο φ) :=
  if s.plainOnly then f.plain text s
  else
    match Word.ofText text with
    | .endOfOptions => .ok { s with plainOnly := true }
    | .long name value => f.long name value s
    | .short 'h' => f.flag true s
    | .short _ => .error .unknownArgument
    | .plain => f.plain text s

def fill (f : Form ο φ) (fields : φ) (arguments : List String) :
    Except Refusal (Filling ο φ) := do
  f.settle (← arguments.foldlM f.step { fields })

@[simp] theorem settle_nothing (f : Form ο φ) (s : Filling ο φ) (h : s.pending = none) :
    f.settle s = .ok s := by simp [settle, h]

end Form
end OffloadVolume
