import OffloadVolume.Plane.Basic

/-!
# Control planes over a connection

A connection carries a call as a path and the bytes of its request, and back the bytes of the
answer or a status.
-/

namespace OffloadVolume

/-- The far side of a connection: it takes a path and bytes. -/
structure Remote (σ : Type) where
  exchange : Duration → (path : String) → List UInt8 → σ → Outcome (List UInt8) × σ

/-- The status of an answer that cannot be read. It comes with the headers of that answer. -/
def Status.unreadable : Status := ⟨.internal, "failed to decode Protobuf message", true⟩

/-- The status of an answer that fails with the code of a success: it holds no message. The caller
makes this status itself, without headers. -/
def Status.missing : Status := ⟨.internal, "Missing response message.", false⟩

def Call.ofPath? (path : String) : Option Call := Call.all.find? (·.path == path)

namespace Outcome

def map (f : α → β) : Outcome α → Outcome β
  | answered reply => .answered (f reply)
  | failed status => .failed status
  | late => .late

/-- What is read of an answer that came over a connection. -/
def decode (read? : List UInt8 → Option α) : Outcome (List UInt8) → Outcome α
  | answered bytes =>
    match read? bytes with
    | some reply => .answered reply
    | none => .failed .unreadable
  | failed status =>
    if status.code = .ok then .failed .missing else .failed { status with delivered := true }
  | late => .late

end Outcome

namespace Remote

def plane (r : Remote σ) : Plane σ where
  submit timeout c request w :=
    let reply := r.exchange timeout c.path (c.requestCodec.encode request) w
    (reply.1.decode c.replyCodec.decode?, reply.2)

end Remote

namespace Plane

def serve (p : Plane σ) : Remote σ where
  exchange timeout path bytes w :=
    match Call.ofPath? path with
    | none => (.failed ⟨.unimplemented, "", false⟩, w)
    | some c =>
      match c.requestCodec.decode? bytes with
      | none => (.failed .unreadable, w)
      | some request =>
        let reply := p.submit timeout c request w
        (reply.1.map c.replyCodec.encode, reply.2)

/-- The control plane as it is seen through a connection to it. -/
def overWire (p : Plane σ) : Plane σ := p.serve.plane

end Plane
end OffloadVolume
