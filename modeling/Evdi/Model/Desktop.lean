import Evdi.Foundations.Interference
import Evdi.Model.Driver

/-!
# A desktop

A device whose commits come one after the other, as the DRM core makes them for one CRTC, with its clients
and all other threads of the driver in between.

* `BesideThread`: the threads that run beside a commit;
* `Desktop.Step`: the start or a section of a commit, a step of a client or of another thread;
* `Session`: a client is connected, and has cursor events enabled.
-/

namespace Evdi

open Atomic Transition

/-- The threads beside the commits. -/
inductive BesideThread : Prog Device Unit → Prop
  | userFramebufferDirty (clips : List ClipRect) : BesideThread (userFramebufferDirty clips)
  | setScanoutBuffer (fb : Option Framebuffer) : BesideThread (painterSetScanoutBuffer fb)
  | sendEventsWork : BesideThread sendEventsWork
  | vtNotifier : BesideThread painterVtNotifierCall
  | i2c (msg : I2cMsg) : BesideThread (i2cDataNotify msg)

/-- They have nothing to do with the cursor. -/
theorem BesideThread.rules {Φ : (α : Type) → Prog Device α → Prop} (h : QueueRules Φ)
    {p : Prog Device Unit} (hp : BesideThread p) : Φ Unit p := by
  cases hp with
  | userFramebufferDirty clips => exact h.userFramebufferDirty clips
  | setScanoutBuffer fb => exact h.setScanoutBuffer fb
  | sendEventsWork => exact h.sendEventsWork
  | vtNotifier => exact h.vtNotifierCall
  | i2c msg => exact h.i2cDataNotify msg

/-- A device with its clients, the commit under way, and the other threads. -/
structure Desktop extends Clients where
  commit : Prog Device Unit
  threads : List (Prog Device Unit)

namespace Desktop

/-- What may happen. -/
inductive Action
  | client (call : ClientCall)
  | commit (c : Commit)
  | section
  | thread
  | switchConsole (console : ℤ)

/-- One step. A commit starts when the last one is over. -/
inductive Step : Desktop → Action → Desktop → Prop
  | client {s : Desktop} {c : Clients} {call : ClientCall} :
      ClientStep s.toClients call c → Step s (.client call) { s with toClients := c }
  | commit {s : Desktop} (c : Commit) : s.commit = .pure () →
      Step s (.commit c) { s with commit := c.run }
  | section {s : Desktop} {f : Device → Device} {k : Device → Prog Device Unit} :
      s.commit = .sec f k → Step s .section { s with device := f s.device, commit := k s.device }
  | thread {s : Desktop} {d : Device} {ts : List (Prog Device Unit)} :
      PoolStep BesideThread (s.device, s.threads) () (d, ts) →
      Step s .thread { s with device := d, threads := ts }
  | switchConsole {s : Desktop} (console : ℤ) :
      Step s (.switchConsole console) { s with device := { s.device with fgConsole := console } }

/-- Before the first client and the first commit. -/
def init (fgConsole : ℤ) (drm : DrmCore) : Desktop where
  device := Device.init fgConsole drm
  grabs := []
  commit := .pure ()
  threads := []

end Desktop

/-- The client of `file` is connected, and has cursor events enabled. -/
def Session (file : DrmFile) (d : Device) : Prop :=
  (∃ p, d.painter = some p ∧ p.drmFilp = some file ∧ p.isConnected = true) ∧
    d.cursorEventsEnabled = true

theorem Session.canSend {file : DrmFile} {d : Device} (h : Session file d) : canSend d = true := by
  obtain ⟨⟨p, hp, hfile, hconnected⟩, -⟩ := h
  simp [Evdi.canSend, hp, hfile, hconnected]

end Evdi
