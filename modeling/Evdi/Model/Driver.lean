import Evdi.Model.CursorState
import Evdi.Model.Ddcci
import Evdi.Model.System
import Evdi.Model.VtSwitch

/-!
# The driver as a whole

All entry points of the driver that send events or change a device, as threads, with the calls of
clients, from the creation of the painter to its end: the threads of `System`, the VT notifier, the
i2c adapter's requests, and the cursor callbacks of kernels without a cursor plane.

* `i2cDataNotify`, `crtcCursorMove`: the entry points that the other modules leave out;
* `DriverThread`, `Driver.Step`: the threads, and runs;
* `queueView`: what the queue of events is about, and what leaves it alone;
* `QueueRules`: what the threads are made of, for any logic of programs that can deal with the queue.
-/

namespace Evdi

open Atomic Transition

/-- `evdi_painter_i2c_data_notify` and `evdi_painter_ddcci_data`, up to the wait for the response. -/
def i2cDataNotify (msg : I2cMsg) : Prog Device Unit := do
  if ← .read (i2cDataAccepted msg) then
    let event ← .act (createEvent (ddcciDataEvent msg))
    .modify reinitCompletion
    painterSendEvent event
  else pure ()

/-- `evdi_crtc_cursor_move`. -/
def crtcCursorMove (x y : Int32) : Prog Device Unit := do
  .modify (cursorMove x y)
  if ← .read (·.cursorEventsEnabled) then painterSendCursorMove else markFullScreenDirty

/-- The threads of the driver. -/
inductive DriverThread : Prog Device Unit → Prop
  | kernel {p : Prog Device Unit} : KernelThread p → DriverThread p
  | vtNotifier : DriverThread painterVtNotifierCall
  | i2c (msg : I2cMsg) : DriverThread (i2cDataNotify msg)
  | cursorSet (gemObjectLookup : UInt32 → Option GemRef) (env : CursorEnv)
      (handle width height : UInt32) (hotX hotY : Int32) :
      DriverThread (crtcCursorSet gemObjectLookup env handle width height hotX hotY)
  | cursorMove (x y : Int32) : DriverThread (crtcCursorMove x y)

namespace Driver

/-- What may happen. -/
inductive Action
  | client (call : ClientCall)
  | thread
  | switchConsole (console : ℤ)
  | cleanup

/-- One step: of a client, of a thread, of the console, or the end of the painter.  The painter ends
with the last reference to its DRM device: no file is open then, and nothing is under way. -/
inductive Step : System → Action → System → Prop
  | client {s : System} {c : Clients} {call : ClientCall} : s.device.painter ≠ none →
      ClientStep s.toClients call c → Step s (.client call) { s with toClients := c }
  | thread {s : System} {d : Device} {ts : List (Prog Device Unit)} : s.device.painter ≠ none →
      PoolStep DriverThread (s.device, s.threads) () (d, ts) →
      Step s .thread { s with device := d, threads := ts }
  | switchConsole {s : System} (console : ℤ) : s.device.painter ≠ none →
      Step s (.switchConsole console) { s with device := { s.device with fgConsole := console } }
  | cleanup {s : System} : s.device.painter ≠ none → s.grabs = [] →
      (∀ p ∈ s.threads, p = .pure ()) →
      Step s .cleanup { s with device := painterCleanup s.device }

end Driver

/-! ### What the queue is about -/

/-- What the queue of events is about. -/
def queueView (d : Device) : Option (List PendingEvent) × List PendingEvent × List PendingEvent ×
    List PendingEvent × ℕ × Stream' Bool :=
  (d.painter.map (·.pendingEvents), d.drm.submitted, d.drm.delivered, d.drm.freed, d.drm.nextSerial,
    d.drm.kzalloc)

theorem queueView_onPainter {f : Painter → Painter} (d : Device)
    (hf : ∀ p, (f p).pendingEvents = p.pendingEvents := by exact fun _ => rfl) :
    queueView (d.onPainter f) = queueView d := by
  simp [queueView, Function.comp_def, hf]

theorem queueView_framebufferRef (fb : Framebuffer) (n : ℤ) (d : Device) :
    queueView (drmFramebufferRef fb n d) = queueView d := rfl

theorem queueView_gemObjectRef (obj : Option GemRef) (n : ℤ) (d : Device) :
    queueView (drmGemObjectRef obj n d) = queueView d := by
  cases obj <;> rfl

theorem queueView_markDirty (rect : ClipRect) (d : Device) :
    queueView (painterMarkDirty rect d) = queueView d := by
  refine queueView_onPainter d fun p => ?_
  unfold Painter.markDirty
  cases p.scanoutFb <;> rfl

theorem queueView_cursorSetGem (obj : Option GemRef) (d : Device) :
    queueView (cursorSetGem obj d) = queueView d := by
  have hput := queueView_gemObjectRef (drmGemObjectRef obj 1 d).cursor.obj (-1) (drmGemObjectRef obj 1 d)
  exact hput.trans (queueView_gemObjectRef obj 1 d)

theorem queueView_cursorEnable (enable : Bool) (d : Device) :
    queueView (cursorEnable enable d) = queueView d := by
  cases enable with
  | true => rfl
  | false => exact queueView_cursorSetGem none _

theorem queueView_cursorSet (obj : Option GemObject) (ans : VmapAnswers) (image : CursorImage)
    (d : Device) : queueView (cursorSet obj ans image d) = queueView d :=
  queueView_cursorSetGem _ _

theorem queueView_sendVblank (crtc : Option Crtc) (vblank : Option VblankEvent) (d : Device) :
    queueView (sendVblank crtc vblank d) = queueView d := by
  rw [sendVblank_eq]
  rfl

theorem queueView_painterSendVblank (d : Device) : queueView (painterSendVblank d) = queueView d := by
  unfold painterSendVblank
  cases d.painter with
  | none => rfl
  | some p => exact (queueView_onPainter _).trans (queueView_sendVblank _ _ d)

theorem queueView_setVblank (crtc : Option Crtc) (vblank : Option VblankEvent) (d : Device) :
    queueView (painterSetVblank crtc vblank d) = queueView d := by
  unfold painterSetVblank
  cases d.painter with
  | none => exact queueView_sendVblank crtc vblank d
  | some p =>
    dsimp only
    split_ifs
    · exact (queueView_onPainter _).trans (queueView_painterSendVblank d)
    · exact (queueView_sendVblank _ _ _).trans (queueView_painterSendVblank d)

theorem queueView_grabpixFinish (g : Grab) (d : Device) :
    queueView (painterGrabpixFinish g d) = queueView d :=
  queueView_sendVblank g.crtc g.vblank d

/-- A section that has to do with neither the queue nor the cursor. -/
def Quiet (f : Device → Device) : Prop :=
  ∀ d, queueView (f d) = queueView d ∧ (f d).cursor = d.cursor

theorem quiet_onPainter {f : Painter → Painter}
    (hf : ∀ p, (f p).pendingEvents = p.pendingEvents := by exact fun _ => rfl) :
    Quiet fun d => d.onPainter f :=
  fun d => ⟨queueView_onPainter d hf, rfl⟩

theorem quiet_markDirty (rect : ClipRect) : Quiet (painterMarkDirty rect) :=
  fun d => ⟨queueView_markDirty rect d, rfl⟩

theorem quiet_framebufferRef (fb : Framebuffer) (n : ℤ) : Quiet (drmFramebufferRef fb n) :=
  fun _ => ⟨rfl, rfl⟩

theorem sendVblank_cursor (crtc : Option Crtc) (vblank : Option VblankEvent) (d : Device) :
    (sendVblank crtc vblank d).cursor = d.cursor := by
  rw [sendVblank_eq]
  rfl

theorem painterSendVblank_cursor (d : Device) : (painterSendVblank d).cursor = d.cursor := by
  unfold painterSendVblank
  cases d.painter with
  | none => rfl
  | some p => exact sendVblank_cursor _ _ d

theorem quiet_setVblank (crtc : Option Crtc) (vblank : Option VblankEvent) :
    Quiet (painterSetVblank crtc vblank) := by
  refine fun d => ⟨queueView_setVblank crtc vblank d, ?_⟩
  unfold painterSetVblank
  cases d.painter with
  | none => exact sendVblank_cursor crtc vblank d
  | some p =>
    dsimp only
    split_ifs
    · exact painterSendVblank_cursor d
    · exact (sendVblank_cursor _ _ _).trans (painterSendVblank_cursor d)

/-! ### What the threads are made of -/

/-- `CURSOR_SET` and `CURSOR_MOVE`. -/
def Event.isCursor (e : Event) : Bool := e.type == 0x80000004 || e.type == 0x80000005

/-- A logic of programs that can deal with sections that leave the queue alone, with the flush, and with
new events that are not about the cursor. -/
structure QueueRules (Φ : (α : Type) → Prog Device α → Prop) : Prop where
  pure {α : Type} (a : α) : Φ α (.pure a)
  bind {α β : Type} {p : Prog Device α} {k : α → Prog Device β} :
    Φ α p → (∀ a, Φ β (k a)) → Φ β (p >>= k)
  atomically {p : Prog Device Unit} : Φ Unit p → Φ Unit p.atomically
  read {α : Type} (f : Device → α) : Φ α (.read f)
  act {α : Type} {f : Device → Device × α} : Quiet (fun d => (f d).1) → Φ α (.act f)
  flush : Φ Bool (.act painterFlushPendingEvents)
  send {event : Event} : event.isCursor = false → Φ Unit (createAndSend event)
  sendLate {event : Event} {f : Device → Device} : event.isCursor = false → Quiet f →
    Φ Unit (Prog.act (createEvent event) >>= fun e => .modify f >>= fun _ => painterSendEvent e)

namespace QueueRules

variable {Φ : (α : Type) → Prog Device α → Prop} (h : QueueRules Φ)
include h

theorem modify {f : Device → Device} (hf : Quiet f) : Φ Unit (.modify f) :=
  h.act (f := fun d => (f d, ())) hf

theorem when {c : Bool} {p : Prog Device Unit} (hp : Φ Unit p) : Φ Unit (.when c p) := by
  cases c with
  | false => exact h.pure ()
  | true => exact hp

theorem each {β : Type} {f : β → Prog Device Unit} (hf : ∀ b, Φ Unit (f b)) (bs : List β) :
    Φ Unit (.each f bs) := by
  induction bs with
  | nil => exact h.pure ()
  | cons b bs ih => exact h.bind (hf b) fun _ => ih

theorem dpmsNotify (mode : Int32) : Φ Unit (painterDpmsNotify mode) := by
  refine h.bind (h.read _) fun connected => ?_
  cases connected with
  | false => exact h.pure ()
  | true => exact h.bind (h.when (h.modify fun d => ⟨queueView_onPainter d, rfl⟩)) fun _ => h.send rfl

theorem modeChangedNotify (mode : DisplayMode) : Φ Unit (painterModeChangedNotify mode) := by
  refine h.bind (h.read _) fun fb => ?_
  cases fb with
  | none => exact h.pure ()
  | some fb => exact h.bind (h.send rfl) fun _ => h.modify quiet_onPainter

theorem setScanoutBuffer (fb : Option Framebuffer) : Φ Unit (painterSetScanoutBuffer fb) := by
  cases fb with
  | none =>
    refine h.bind (h.act quiet_onPainter) fun old => ?_
    cases old with
    | none => exact h.pure ()
    | some old => exact h.modify (quiet_framebufferRef old (-1))
  | some fb =>
    refine h.bind (h.modify (quiet_framebufferRef fb 1)) fun _ => ?_
    refine h.bind (h.act quiet_onPainter) fun old => ?_
    cases old with
    | none => exact h.pure ()
    | some old => exact h.modify (quiet_framebufferRef old (-1))

theorem planeAtomicUpdate (old new : PlaneState) (damage : List DrmRect) :
    Φ Unit (planeAtomicUpdate old new damage) := by
  have hnotify : Φ Unit (notifyCrtcChange old new) := by
    unfold notifyCrtcChange
    split_ifs
    · exact h.dpmsNotify dpmsOn
    · exact h.dpmsNotify dpmsOff
    · exact h.pure ()
  refine h.bind hnotify fun _ => ?_
  cases new.fb with
  | none => exact h.pure ()
  | some fb =>
    refine h.bind (h.when (h.modify quiet_onPainter)) fun _ => ?_
    refine h.bind (h.read _) fun needsModeset => ?_
    refine h.bind (h.when ?_) fun _ => ?_
    · refine h.bind (h.setScanoutBuffer _) fun _ => ?_
      exact h.each (fun rect => h.modify (quiet_markDirty _)) damage
    exact h.bind (h.read _) fun numDirts => h.when (h.modify (quiet_markDirty _))

theorem cursorMarkDirty (old new : PlaneState) (fb : Framebuffer) :
    Φ Unit (cursorMarkDirty old new fb) := by
  unfold Evdi.cursorMarkDirty
  split_ifs
  · exact h.bind (h.modify (quiet_markDirty _)) fun _ => h.modify (quiet_markDirty _)
  · exact h.bind (h.read _) fun rect => h.modify (quiet_markDirty rect)

theorem sendUpdateReadyIfNeeded : Φ Unit painterSendUpdateReadyIfNeeded := by
  refine h.atomically (h.bind (h.read _) fun needed => ?_)
  cases needed with
  | false => exact h.pure ()
  | true => exact h.bind (h.send rfl) fun _ => h.modify quiet_onPainter

theorem crtcAtomicFlush (crtc : Crtc) (state : CrtcState) : Φ Unit (crtcAtomicFlush crtc state) := by
  refine h.bind (h.read _) fun needsMode => ?_
  refine h.bind (h.read _) fun needsDpms => ?_
  refine h.bind (h.when (h.modeChangedNotify _)) fun _ => ?_
  refine h.bind (h.when (h.dpmsNotify _)) fun _ => ?_
  exact h.bind (h.modify (quiet_setVblank _ _)) fun _ => h.sendUpdateReadyIfNeeded

theorem userFramebufferDirty (clips : List ClipRect) : Φ Unit (userFramebufferDirty clips) :=
  h.each (fun clip => h.modify (quiet_markDirty clip)) clips

theorem sendEventsWork : Φ Unit sendEventsWork := by
  refine h.bind (h.modify quiet_onPainter) fun _ => ?_
  refine h.bind h.flush fun flushedAll => ?_
  cases flushedAll with
  | true => exact h.pure ()
  | false => exact h.modify quiet_onPainter

theorem vtNotifierCall : Φ Unit painterVtNotifierCall := by
  refine h.bind (h.read _) fun switched => h.when ?_
  exact h.bind (h.dpmsNotify dpmsOff) fun _ => h.modify fun d => ⟨queueView_onPainter d, rfl⟩

theorem i2cDataNotify (msg : I2cMsg) : Φ Unit (i2cDataNotify msg) := by
  refine h.bind (h.read _) fun accepted => ?_
  cases accepted with
  | false => exact h.pure ()
  | true => exact h.sendLate rfl quiet_onPainter

theorem markFullScreenDirty : Φ Unit markFullScreenDirty := by
  refine h.bind (h.read _) fun rect => ?_
  exact h.bind (h.modify (quiet_markDirty rect)) fun _ => h.sendUpdateReadyIfNeeded

end QueueRules

end Evdi
