import OffloadVolume.Host
import OffloadVolume.Host.Machine
import OffloadVolume.Host.NvmeCli
import OffloadVolume.Host.Sysfs

/-!
# Services of a device tree

Functions are handed out and devices are watched by looking at a machine's device tree, and a
program makes the local connections.
-/

namespace OffloadVolume.Sysfs

variable {τ : Type}

/-- Hands out functions that have no device and are not held. -/
def allocator (s : Sysfs) : Allocator (Machine τ) where
  allocate bridges m :=
    let result := m.claims.allocate (fun slot => s.hasFunction m.files slot.bdf) bridges
    (result.1, { m with claims := result.2 })
  release slot m := { m with claims := m.claims.release slot }

/-- Watches for devices, with so many milliseconds between two looks. -/
def watcher (s : Sysfs) (pause : Nat) : Watcher (Machine τ) where
  existing model m := (s.findByModel m.files model, m)
  lookup bdf m := (s.findByBdf m.files bdf none, m)
  waitBdf bdf model timeout m :=
    Machine.clock.await pause (fun m => s.findByBdf m.files bdf model)
      (.deviceTimeout bdf timeout) timeout m
  waitModel model timeout m :=
    Machine.clock.await pause (fun m => s.findByModel m.files model)
      (.deviceTimeout model timeout) timeout m
  waitGone path timeout m :=
    Machine.clock.await pause (fun m => .ok (if m.files.isPresent path then none else some ()))
      (.deviceNotGone path timeout) timeout m

/-- The services of a machine whose device tree is `s`; devices are watched for in `nodes`, which
may have its device nodes elsewhere. -/
def host (s nodes : Sysfs) (pause : Nat) (deviceTimeout : Duration) (r : Runner (Machine τ)) :
    Host (Machine τ) where
  allocator := s.allocator
  watcher := nodes.watcher pause
  connector := NvmeCli.connector { deviceTimeout } r (s.watcher pause)

def hostOf (c : Config) (r : Runner (Machine τ)) : Host (Machine τ) :=
  let tree : Sysfs := { root := c.sysfsRoot }
  tree.host tree c.pollMillis c.deviceTimeout r

end OffloadVolume.Sysfs
