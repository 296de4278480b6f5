import OffloadVolume.Backend
import OffloadVolume.Host.SysfsHost
import OffloadVolume.Rehearsal.Script

/-!
# The scripted host

Services that answer as their script says and note down what they are asked for.
-/

namespace OffloadVolume

/-- The answer of a step that fails only if the script says so. -/
def HostScript.unless (failure : Option AttachError) : Except AttachError Unit :=
  match failure with
  | some e => .error e
  | none => .ok ()

def HostScript.device? (s : HostScript) (bdf : String) : Option String :=
  (s.devices.find? fun e => e.1 == bdf).map (·.2)

namespace Rehearsal

def allocator : Allocator Rehearsal where
  allocate bridges m :=
    let m := m.note (.allocate bridges)
    match m.rest.host.slots with
    | .error e => (.error e, m)
    | .ok [] => (.error (.functionsExhausted bridges), m)
    | .ok (slot :: rest) => (.ok slot, m.setHost fun h => { h with slots := .ok rest })
  release slot m := m.note (.release slot)

def watcher : Watcher Rehearsal where
  existing model m := (m.rest.host.existing, m.note (.existing model))
  lookup bdf m :=
    let answer := match m.rest.host.lookupFailure with
      | some e => .error e
      | none => .ok (m.rest.host.device? bdf)
    (answer, m.note (.lookup bdf))
  waitBdf bdf model timeout m :=
    let answer := match m.rest.host.waitFailure, m.rest.host.device? bdf with
      | some e, _ => .error e
      | none, some path => .ok path
      | none, none => .error (.deviceTimeout bdf timeout)
    (answer, m.note (.waitBdf bdf model timeout))
  waitModel model timeout m :=
    let answer := match m.rest.host.byModel with
      | .error e => .error e
      | .ok (some path) => .ok path
      | .ok none => .error (.deviceTimeout model timeout)
    (answer, m.note (.waitModel model timeout))
  waitGone path timeout m :=
    let answer := match m.rest.host.stays with
      | .error e => .error e
      | .ok true => .error (.deviceNotGone path timeout)
      | .ok false => .ok ()
    (answer, m.note (.waitGone path timeout))

def connector : Connector Rehearsal where
  connect target m := (m.rest.host.connected, m.note (.connectLocally target))
  disconnect target m :=
    (HostScript.unless m.rest.host.disconnectFailure, m.note (.disconnectLocally target.nqn))

def host : Host Rehearsal := ⟨allocator, watcher, connector⟩

/-- The backend of the script; it keeps nothing. -/
def backend {β : Type} : Backend β Rehearsal where
  connect params kept m :=
    (HostScript.unless m.rest.host.backendConnectFailure, kept, m.note (.backendConnect params))
  disconnect kept m :=
    (HostScript.unless m.rest.host.backendDisconnectFailure, kept, m.note .backendDisconnect)

/-- Runs programs: the connecting program follows the script, two others only succeed and only
fail, and no others are there. -/
def runner : Runner Rehearsal := fun program arguments m =>
  if program = "nvme" then
    let script := m.rest.program
    (.ok (if arguments.head? = some "connect" then script.connect else script.disconnect),
      m.noteRun arguments)
  else if program = "true" then (.ok { code := some 0 }, m)
  else if program = "false" then (.ok { code := some 1 }, m)
  else (.error .notFound, m)

end Rehearsal
end OffloadVolume
