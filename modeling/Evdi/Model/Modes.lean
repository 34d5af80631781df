import Evdi.Model.Driver

/-!
# The mode of a desktop

A device whose commits come one after the other, as the DRM core makes them for one CRTC, with the mode
that the last active commit has set and the framebuffer of its primary plane.  The clients' calls and the
other threads of the driver go on beside the commits; what would change the scanout buffer without a commit
is not among them (`evdi_handle_damage` does nothing, for no framebuffer is `active`).

* `CoherentUpdates`: the plane updates of a commit, as the DRM core makes them;
* `Modes.Step`: the start or a section of a commit, a step of a client or of another thread;
* `Modes.Steady`: clients connect between commits, and an active commit tells of another mode.
-/

namespace Evdi

open Atomic Transition

/-- The threads beside the commits. -/
inductive ModeThread : Prog Device Unit → Prop
  | userFramebufferDirty (clips : List ClipRect) : ModeThread (userFramebufferDirty clips)
  | sendEventsWork : ModeThread sendEventsWork
  | vtNotifier : ModeThread painterVtNotifierCall
  | i2c (msg : I2cMsg) : ModeThread (i2cDataNotify msg)

/-- The framebuffer of the primary plane after an update. -/
def PlaneUpdate.primaryAfter (fb : Option Framebuffer) : PlaneUpdate → Option Framebuffer
  | .primary _ new _ => new.fb
  | .cursor .. => fb

/-- The updates of a commit that finds `fb` on the primary plane: the old state of an update is the new
one of the last, a plane with a framebuffer has a CRTC, and framebuffers of one format are alike. -/
def CoherentUpdates : Option Framebuffer → List PlaneUpdate → Prop
  | _, [] => True
  | fb, .primary old new _ :: us => old.fb = fb ∧ (new.fb.isSome → new.crtc.isSome) ∧
      (∀ o ∈ old.fb, ∀ n ∈ new.fb, n.format.format = o.format.format → n.format = o.format) ∧
      CoherentUpdates new.fb us
  | fb, .cursor .. :: us => CoherentUpdates fb us

/-- The mode after a commit: an inactive one does not set any. -/
def Commit.mode (c : Commit) (mode : Option DisplayMode) : Option DisplayMode :=
  if c.state.active then some c.state.adjustedMode else mode

/-- The framebuffer of the primary plane after a commit. -/
def Commit.primary (c : Commit) (fb : Option Framebuffer) : Option Framebuffer :=
  c.updates.foldl PlaneUpdate.primaryAfter fb

/-- A device with its clients, the commit under way, the other threads, the mode, and the framebuffer of
the primary plane. -/
structure Modes extends Clients where
  commit : Prog Device Unit
  threads : List (Prog Device Unit)
  mode : Option DisplayMode
  primary : Option Framebuffer

namespace Modes

/-- What may happen. -/
inductive Action
  | client (call : ClientCall)
  | commit (c : Commit)
  | section
  | thread
  | switchConsole (console : ℤ)

/-- One step. A commit starts when the last one is over. -/
inductive Step : Modes → Action → Modes → Prop
  | client {s : Modes} {c : Clients} {call : ClientCall} :
      ClientStep s.toClients call c → Step s (.client call) { s with toClients := c }
  | commit {s : Modes} (c : Commit) : s.commit = .pure () → CoherentUpdates s.primary c.updates →
      Step s (.commit c) { s with
        commit := c.run
        mode := c.mode s.mode
        primary := c.primary s.primary }
  | section {s : Modes} {f : Device → Device} {k : Device → Prog Device Unit} :
      s.commit = .sec f k → Step s .section { s with device := f s.device, commit := k s.device }
  | thread {s : Modes} {d : Device} {ts : List (Prog Device Unit)} :
      PoolStep ModeThread (s.device, s.threads) () (d, ts) →
      Step s .thread { s with device := d, threads := ts }
  | switchConsole {s : Modes} (console : ℤ) :
      Step s (.switchConsole console) { s with device := { s.device with fgConsole := console } }

/-- Clients connect between commits. -/
def ConnectsBetween (s : Modes) : Action → Prop
  | .client (.connect cmd _ ret) => cmd.connected ≠ 0 → ret = 0 → s.commit = .pure ()
  | _ => True

/-- An active commit without a change of mode has the mode of the last active one. -/
def TellsModes (s : Modes) : Action → Prop
  | .commit c => c.state.active = true → c.state.modeChanged = false →
      s.mode = some c.state.adjustedMode
  | _ => True

/-- Clients connect between commits, and an active commit tells of another mode. -/
def Steady (s : Modes) (a : Action) : Prop := s.ConnectsBetween a ∧ s.TellsModes a

/-- A step within a condition. -/
def Within (G : Modes → Action → Prop) (s : Modes) (a : Action) (t : Modes) : Prop := Step s a t ∧ G s a

/-- Before the first client and the first commit. -/
def init (fgConsole : ℤ) (drm : DrmCore) : Modes where
  device := Device.init fgConsole drm
  grabs := []
  commit := .pure ()
  threads := []
  mode := none
  primary := none

end Modes

end Evdi
