import OffloadVolume.Rehearsal.Script

/-!
# The scripted control plane

It notes each request down and answers as its script says. It keeps no resources.
-/

namespace OffloadVolume

/-- What comes before the ids in the names of a collection's resources. -/
def Collection.folder : Collection → String
  | .subsystem => "nvmeSubsystems"
  | .controller => "nvmeControllers"
  | .remote => "nvmfRemoteControllers"
  | .namespace => "nvmeNamespaces"
  | .virtioBlk => "virtioBlks"

namespace CallScript

def refusing (calls : List Call) (c : Call) : CallScript :=
  if c ∈ calls then { failure := some { code := .unavailable, message := "down" } } else {}

def reply (s : CallScript) : (c : Call) → c.Request → c.Reply
  | .create k, request => k.named (s.name.getD (k.folder ++ "/" ++ request.id))
  | .delete _, _ => {}

end CallScript

namespace Rehearsal

/-- The control plane of a rehearsal. An answer exactly at the deadline is in time. -/
def plane : Plane Rehearsal where
  submit timeout c request m :=
    let script := m.rest.plane c
    let asked := (m.noteSent ⟨c, request⟩).note (.call c)
    if script.delay ≤ timeout.millis then
      let changed := (Machine.pass script.delay asked).change script.changes
      match script.failure with
      | some status => (.failed status, changed)
      | none => (.answered (script.reply c request), changed)
    else (.late, Machine.pass timeout.millis asked)

end Rehearsal
end OffloadVolume
