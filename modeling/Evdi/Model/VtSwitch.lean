import Evdi.Model.Client
import Evdi.Model.Modeset

/-!
# Switching virtual terminals

`evdi_painter_vt_notifier_call`, and the runs of the driver's entry points that touch what it decides
by: VT notifications, switches of the foreground console, the calls of clients, plane updates, CRTC
flushes and the delayed work, in any order, each one as a whole.

`VtRun` keeps a history beside the device: the events queued for the client, whether a VT notification
queued them, and the console in the foreground then.  The driver never reads it.
-/

namespace Evdi

open Atomic

/-- `evdi_painter_vt_notifier_call`. The notifier is part of the painter, so that there is one. -/
def painterVtNotifierCall : Prog Device Unit := do
  let switched ← .read fun d =>
    d.painter.any fun p => p.isConnected && d.fgConsole != p.fgConsole && !p.needsFullModeset
  .when switched do
    painterDpmsNotify dpmsOff
    .modify painterForceFullModeset

/-! ### Runs of whole calls -/

/-- An event queued for the client, whether a VT notification queued it, and the foreground console
then. -/
structure Queued where
  vt : Bool
  event : Event
  console : ℤ
  deriving DecidableEq

/-- A DPMS OFF of a VT notification. -/
def Queued.VtOff (q : Queued) : Prop := q.vt = true ∧ q.event = .dpms dpmsOff

/-- A `MODE_CHANGED` event. -/
def Event.IsModeChanged : Event → Prop
  | .modeChanged .. => True
  | _ => False

/-- A queued `MODE_CHANGED` event. -/
def Queued.ModeChanged (q : Queued) : Prop := q.event.IsModeChanged

/-- The console in the foreground at the last DPMS ON (the painter starts with 0). -/
def recordedConsole (log : List Queued) : ℤ :=
  ((log.filter fun q => q.event = .dpms dpmsOn).getLast?.map (·.console)).getD 0

/-- A device, and the events queued so far. -/
structure VtRun where
  device : Device
  log : List Queued

/-- The events queued between two states. -/
def queuedSince (d d' : Device) : List Event :=
  (d'.drm.submitted.drop d.drm.submitted.length).map (·.event)

/-- The state after a call, with what it queued. -/
def VtRun.next (s : VtRun) (vt : Bool) (d : Device) : VtRun :=
  ⟨d, s.log ++ (queuedSince s.device d).map fun event => ⟨vt, event, s.device.fgConsole⟩⟩

/-- The calls. -/
inductive VtCall
  | notification
  | switchConsole (console : ℤ)
  | client
  | planeUpdate (update : PlaneUpdate)
  | flush (crtc : Crtc) (state : CrtcState)
  | sendEventsWork

/-- One call. -/
inductive VtRun.Step : VtRun → VtCall → VtRun → Prop
  | notification {s : VtRun} :
      Step s .notification (s.next true (painterVtNotifierCall.exec s.device).1)
  | switchConsole {s : VtRun} (console : ℤ) :
      Step s (.switchConsole console) (s.next false { s.device with fgConsole := console })
  | client {s : VtRun} {f : Device → Device} :
      ClientSection f → Step s .client (s.next false (f s.device))
  | planeUpdate {s : VtRun} (update : PlaneUpdate) :
      Step s (.planeUpdate update) (s.next false (update.run.exec s.device).1)
  | flush {s : VtRun} (crtc : Crtc) (state : CrtcState) :
      Step s (.flush crtc state) (s.next false ((crtcAtomicFlush crtc state).exec s.device).1)
  | sendEventsWork {s : VtRun} :
      Step s .sendEventsWork (s.next false (Evdi.sendEventsWork.exec s.device).1)

/-- A device just made, with `console` in the foreground, in a kernel where every event can be
allocated. -/
def VtRun.init (console : ℤ) (hasSpace : Stream' Bool) : VtRun where
  device := .init console (.init (.const true) hasSpace)
  log := []

/-- A client is connected. -/
def Device.connected (d : Device) : Bool := d.painter.any (·.isConnected)

/-- A flush that finds an active CRTC and a scanout buffer. -/
def VtRun.FlushesMode (s : VtRun) : VtCall → Prop
  | .flush _ state => state.active = true ∧ s.device.painter.bind (·.scanoutFb) ≠ none
  | _ => False

/-- A call that is not such a flush. -/
def VtRun.QuietStep (s : VtRun) (call : VtCall) (t : VtRun) : Prop :=
  VtRun.Step s call t ∧ ¬ s.FlushesMode call

end Evdi
