import OffloadVolume.Error
import OffloadVolume.Plane.Wire

/-!
# Endpoints

A control plane is reached at an endpoint, a URL whose host and port tell where to connect. Main
statements: `isSome_address?`, what an address needs, and `isConfig_of_connect`, a connection that
cannot be opened is a fault of the configuration.
-/

namespace OffloadVolume

/-- Where a control plane is: a scheme, if one is given, and an authority. -/
structure Endpoint where
  scheme : Option String
  authority : String
  deriving DecidableEq, Repr

namespace Endpoint

/-! ## Characters -/

def isWordOr (others : String) (c : Char) : Bool := c.isAlphanum || others.toList.contains c

def isSchemeChar : Char → Bool := isWordOr "+-.~"

def isAuthorityChar : Char → Bool := isWordOr "!$&'()*+,-.:;=@[]_~%"

def isPathChar (c : Char) : Bool :=
  isWordOr "!\x22$%&'()*+,-./:;=@[\\]^_\x7b|\x7d~" c || 0x7F ≤ c.toNat

def isQueryChar (c : Char) : Bool := (isPathChar c && c ≠ '"') || c = '?' || c = '\x60'

/-! ## Parts -/

/-- The most colons that an authority may hold outside its user and its brackets. -/
def maxColons : Nat := 8

/-- What has been seen of an authority: its colons since the last user or bracket, whether a bracket
has been opened and closed, and whether there is a percent sign. -/
structure Seen where
  colons : Nat := 0
  opened : Bool := false
  closed : Bool := false
  percent : Bool := false
  deriving DecidableEq, Repr

namespace Seen

def step (s : Seen) (c : Char) : Option Seen :=
  match c with
  | ':' => if s.colons < maxColons then some { s with colons := s.colons + 1 } else none
  | '[' => if s.percent || s.opened then none else some { s with opened := true }
  | ']' =>
    if s.opened && !s.closed then some { s with closed := true, colons := 0, percent := false }
    else none
  | '@' => some { s with colons := 0, percent := false }
  | '%' => some { s with percent := true }
  | c => if isAuthorityChar c then some s else none

/-- Whether the authority may end here: its brackets are closed, there is at most one colon, for the
port, and no percent sign in the host. -/
def mayEnd (s : Seen) : Bool := s.opened == s.closed && s.colons ≤ 1 && !s.percent

end Seen

def isAuthority (cs : List Char) : Bool :=
  (cs.foldlM Seen.step {}).any Seen.mayEnd && cs.getLast? != some '@'

def endsAuthority (c : Char) : Bool := c = '/' || c = '?' || c = '#'

def isPath (cs : List Char) : Bool :=
  let path := cs.takeWhile fun c => c ≠ '?' && c ≠ '#'
  let query := match cs.dropWhile fun c => c ≠ '?' && c ≠ '#' with
    | '?' :: rest => rest.takeWhile (· != '#')
    | _ => []
  path.all isPathChar && query.all isQueryChar

def maxSchemeLength : Nat := 64

/-- The scheme, if there is one, and what follows it. -/
def splitScheme (cs : List Char) : Option (List Char) × List Char :=
  match cs.dropWhile isSchemeChar with
  | ':' :: '/' :: '/' :: rest => (some (cs.takeWhile isSchemeChar), rest)
  | _ => (none, cs)

def maxLength : Nat := 65534

/-- Reads an endpoint. Without a scheme it is an authority alone, or a path. -/
def parse? (s : String) : Option Endpoint :=
  if maxLength < s.utf8ByteSize then none
  else
    match s.toList with
    | [] => none
    | '/' :: rest => if isPath ('/' :: rest) then some ⟨none, ""⟩ else none
    | cs =>
      let (scheme, rest) := splitScheme cs
      let authority := rest.takeWhile (!endsAuthority ·)
      let path := rest.dropWhile (!endsAuthority ·)
      let fits := match scheme with
        | none => path.isEmpty
        | some name => name.length ≤ maxSchemeLength && !authority.isEmpty && isPath path
      if fits && isAuthority authority then
        some ⟨scheme.map String.ofList, String.ofList authority⟩
      else none

@[simp] theorem parse?_nil : parse? "" = none := rfl

/-! ## Addresses -/

def afterLast? (c : Char) (cs : List Char) : Option (List Char) :=
  if cs.contains c then some (cs.reverse.takeWhile (· != c)).reverse else none

/-- The host of an endpoint, without a user and a port; brackets stay. -/
def host (e : Endpoint) : String :=
  let cs := e.authority.toList
  let hostPort := (afterLast? '@' cs).getD cs
  match hostPort with
  | '[' :: _ => String.ofList (hostPort.takeWhile (· != ']') ++ [']'])
  | _ => String.ofList (hostPort.takeWhile (· != ':'))

/-- The port of an endpoint: the one it gives or else the one of its scheme. -/
def port (e : Endpoint) : Nat :=
  let given := (afterLast? ':' e.authority.toList).bind (Numeral.unsigned? 10 Numeral.max16)
  given.getD (if e.scheme.map String.toLower = some "https" then 443 else 80)

/-- Where to connect; only an endpoint with a scheme tells. -/
def address? (e : Endpoint) : Option (String × Nat) :=
  if e.scheme.isSome then some (e.host, e.port) else none

@[simp] theorem isSome_address? (e : Endpoint) : e.address?.isSome = e.scheme.isSome := by
  simp only [address?]
  split <;> simp_all

end Endpoint

structure Network (σ : Type) where
  dial? : (host : String) → (port : Nat) → Option (Remote σ)

namespace Network

variable {σ : Type}

def silent : Network σ := ⟨fun _ _ => none⟩

/-- Opens a connection; one that has no time to be made is not made. -/
def connect (n : Network σ) (endpoint : String) (timeout : Duration) :
    Except AttachError (Remote σ) :=
  match Endpoint.parse? endpoint with
  | none => .error (.config (.invalidEndpoint endpoint))
  | some e =>
    let reached := if timeout.nanos = 0 then none else e.address?.bind fun a => n.dial? a.1 a.2
    match reached with
    | some remote => .ok remote
    | none => .error (.config (.unreachable endpoint))

/-- A connection that is not made is reported as a wrong input. -/
theorem isConfig_of_connect {n : Network σ} {endpoint : String} {timeout : Duration}
    {e : AttachError} (h : n.connect endpoint timeout = .error e) : e.isConfig = true := by
  simp only [connect] at h
  split at h
  · cases h; rfl
  · split at h
    · cases h
    · cases h; rfl

end Network
end OffloadVolume
