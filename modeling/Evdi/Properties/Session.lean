import Evdi.Foundations.Transition
import Evdi.Model.Client
import Evdi.Model.Modeset

/-!
# What a session sees of the one before

A session begins with a connect; what its client sees are the answers of its calls and the events
queued for it.  Two devices are `Alike` when they differ only in what no such answer depends on: every
section of a commit, and every call, keeps that and answers alike (`relates_commit`, `Alike.call`).

Ending a session resets all that a later one depends on except for the pending rectangles, so two
sessions that leave the same ones cannot be told apart (`new_session_alike`).
-/

namespace Evdi

open Atomic Transition Bytes

/-! ### Sessions -/

/-- What happens during a session. -/
inductive SessionCall
  | requestUpdate
  | grabpix (env : GrabEnv) (cmd : GrabpixCmd)
  | commit (c : Commit)
  | sendEventsWork

/-- The answer of a call: the result, and for a `GRABPIX` the number of rectangles and the rectangles
written to the caller. -/
inductive Answer
  | done
  | requestUpdate (ret : ℤ)
  | grabpix (ret : ℤ) (numRects : Int32) (rects : List ClipRect)
  deriving DecidableEq

/-- What is seen after a call: the answer, the events delivered since the session began and those
pending, and the vblank events sent since then. -/
structure Observation where
  answer : Answer
  delivered : List Event
  pending : List Event
  sentVblanks : List (Crtc × VblankEvent)
  deriving DecidableEq

/-- Observe the device after a call. -/
def observe (answer : Answer) (d : Device) : Observation where
  answer := answer
  delivered := d.drm.delivered.map (·.event)
  pending := (d.painter.elim [] (·.pendingEvents)).map (·.event)
  sentVblanks := d.drm.sentVblanks

/-- The effect and the answer of a call. -/
def answerCall (d : Device) : SessionCall → Device × Answer
  | .requestUpdate =>
    let (d, ret) := painterRequestUpdateIoctl d
    (d, .requestUpdate ret)
  | .grabpix env cmd =>
    let (d, cmd, ret, out) := painterGrabpixIoctl env cmd d
    (d, .grabpix ret cmd.numRects (out.elim [] (·.rects)))
  | .commit c => ((c.run.exec d).1, .done)
  | .sendEventsWork => ((sendEventsWork.exec d).1, .done)

/-- A call, and what is seen after it. -/
def sessionCall (d : Device) (call : SessionCall) : Device × Observation :=
  ((answerCall d call).1, observe (answerCall d call).2 (answerCall d call).1)

/-- The owner's disconnect, or the close of its file. -/
inductive EndsSession : Device → Device → Prop
  | disconnect {d d' : Device} {user : UInt64 → UserRegion} {ans : ConnectAnswers}
      {cmd : ConnectCmd} {file : DrmFile} : cmd.connected = 0 →
      painterConnectIoctl user ans cmd file d = (d', 0) → EndsSession d d'
  | close {d : Device} {file : DrmFile} : d.painter.bind (·.drmFilp) = some file →
      EndsSession d (painterClose file d)

/-- The device with the history of what the kernel is handed begun anew, and the kernel's answers from
here on. -/
def Device.record (kzalloc hasSpace : Stream' Bool) (d : Device) : Device :=
  d.onDrm fun drm =>
    { drm with
      kzalloc := kzalloc
      hasSpace := hasSpace
      nextSerial := 0
      submitted := []
      delivered := []
      freed := []
      sentVblanks := [] }

/-! ### What a session cannot see -/

/-- The painter without what no answer depends on. -/
def Painter.view (p : Painter) : Painter :=
  { p with fgConsole := 0, ddcciResponseReceived := 0 }

/-- The device without what no answer depends on: the cursor, as long as the client composes it
itself, the console, the count of DDC/CI responses, and the references counted. -/
def Device.view (d : Device) : Device :=
  { d with
    painter := d.painter.map Painter.view
    cursor := Cursor.init
    fgConsole := 0
    drm := { d.drm with fbRefs := fun _ => 0, gemRefs := fun _ => 0 } }

@[simp] theorem Painter.view_view (p : Painter) : p.view.view = p.view := rfl

@[simp] theorem Device.view_view (d : Device) : d.view.view = d.view := by
  simp [Device.view, Function.comp_def]

/-- Two devices that a session without cursor events cannot tell apart. -/
def Alike (d e : Device) : Prop := d.view = e.view ∧ d.cursorEventsEnabled = false

/-- A change of the device respects the view. -/
def RespectsView (f : Device → Device) : Prop :=
  ∀ d, (f d).view = (f d.view).view ∧ (f d).cursorEventsEnabled = d.cursorEventsEnabled

theorem Alike.apply {f : Device → Device} (hf : RespectsView f) {d e : Device} (h : Alike d e) :
    Alike (f d) (f e) := by
  refine ⟨?_, (hf d).2.trans h.2⟩
  rw [(hf d).1, (hf e).1, h.1]

theorem Alike.value {α : Type} {f : Device → α} (hf : ∀ d, f d = f d.view) {d e : Device}
    (h : Alike d e) : f d = f e := by
  rw [hf d, hf e, h.1]

theorem relates_view_modify {f : Device → Device} (hf : RespectsView f) :
    Prog.Relates Alike Eq (.modify f) (.modify f) :=
  Prog.relates_modify fun _ _ h => h.apply hf

theorem relates_view_read {α : Type} {f : Device → α} (hf : ∀ d, f d = f d.view) :
    Prog.Relates Alike Eq (.read f) (.read f) :=
  Prog.relates_read fun _ _ h => h.value hf

theorem relates_view_act {α : Type} {f : Device → Device × α}
    (hf : RespectsView fun d => (f d).1) (hv : ∀ d, (f d).2 = (f d.view).2) :
    Prog.Relates Alike Eq (.act f) (.act f) :=
  Prog.relates_act fun _ _ h => ⟨h.apply hf, h.value hv⟩

/-- A change of the painter that does not depend on what is left out. -/
theorem respectsView_onPainter {f : Painter → Painter} (hf : ∀ p, (f p).view = (f p.view).view) :
    RespectsView fun d => d.onPainter f := by
  intro d
  refine ⟨?_, rfl⟩
  cases h : d.painter with
  | none => simp [Device.view, Device.onPainter, h]
  | some p => simpa [Device.view, Device.onPainter, h] using hf p

/-- A change of what is left out. -/
theorem respectsView_of_eq {f : Device → Device} (hf : ∀ d, (f d).view = d.view)
    (he : ∀ d, (f d).cursorEventsEnabled = d.cursorEventsEnabled) : RespectsView f := by
  intro d
  rw [hf d, hf d.view]
  exact ⟨(Device.view_view d).symm, he d⟩

/-! ### Events -/

theorem respectsView_createEvent (event : Event) : RespectsView fun d => (createEvent event d).1 := by
  intro d
  by_cases h : d.drm.kzalloc.head = true <;>
    simp [createEvent, Device.view, Function.comp_def, Device.onDrm, h]

theorem relates_createEvent (event : Event) :
    Prog.Relates Alike Eq (.act (createEvent event)) (.act (createEvent event)) := by
  refine relates_view_act (respectsView_createEvent event) fun d => ?_
  by_cases h : d.drm.kzalloc.head = true <;> simp [createEvent, Device.view, h]

theorem respectsView_addEvent (e : PendingEvent) :
    RespectsView (painterAddEventToPendingList e) := by
  intro d
  unfold painterAddEventToPendingList
  cases h : d.painter with
  | none => simp [Device.view, h]
  | some p => simp [Device.view, Painter.view, h]

/-- The flush does not look at the references. -/
theorem flushEvents_refs (pending : List PendingEvent) (drm : DrmCore) (fbRefs gemRefs : ℕ → ℤ) :
    flushEvents pending { drm with fbRefs := fbRefs, gemRefs := gemRefs } =
      ((flushEvents pending drm).1,
        { (flushEvents pending drm).2 with fbRefs := fbRefs, gemRefs := gemRefs }) := by
  induction pending generalizing drm with
  | nil => rfl
  | cons e rest ih =>
    by_cases h : drm.hasSpace.head = true
    · have hrest := ih { drm with
        hasSpace := drm.hasSpace.tail
        delivered := drm.delivered ++ [e] }
      simpa [flushEvents, h] using hrest
    · simp [flushEvents, h]

theorem relates_flush : Prog.Relates Alike Eq (.act painterFlushPendingEvents)
    (.act painterFlushPendingEvents) := by
  have hview : ∀ d : Device, (painterFlushPendingEvents d).1.view =
      (painterFlushPendingEvents d.view).1.view ∧
      (painterFlushPendingEvents d).1.cursorEventsEnabled = d.cursorEventsEnabled ∧
      (painterFlushPendingEvents d).2 = (painterFlushPendingEvents d.view).2 := by
    intro d
    unfold painterFlushPendingEvents
    cases h : d.painter with
    | none => simp [Device.view, h]
    | some p =>
      have hrefs := flushEvents_refs p.pendingEvents d.drm (fun _ => 0) fun _ => 0
      simp [Device.view, Painter.view, h, hrefs]
  exact relates_view_act (fun d => ⟨(hview d).1, (hview d).2.1⟩) fun d => (hview d).2.2

theorem relates_schedule :
    Prog.Relates Alike Eq (.modify scheduleDelayedWork) (.modify scheduleDelayedWork) :=
  relates_view_modify (respectsView_onPainter fun _ => rfl)

theorem relates_flushOrSchedule : Prog.Relates Alike Eq flushOrSchedule flushOrSchedule := by
  refine Prog.Relates.bind_eq (relates_view_read fun d => ?_) fun pending => ?_
  · cases h : d.painter <;> simp [delayedWorkPending, Device.view, Painter.view, h]
  · split
    · exact Prog.relates_pure rfl
    · refine Prog.Relates.bind_eq relates_flush fun flushedAll => ?_
      split
      · exact Prog.relates_pure rfl
      · exact relates_schedule

theorem relates_sendEventsWork : Prog.Relates Alike Eq sendEventsWork sendEventsWork := by
  refine Prog.Relates.bind_eq (relates_view_modify (respectsView_onPainter fun _ => rfl))
    fun _ => ?_
  refine Prog.Relates.bind_eq relates_flush fun flushedAll => ?_
  split
  · exact Prog.relates_pure rfl
  · exact relates_schedule

theorem relates_sendEvent (e : Option PendingEvent) :
    Prog.Relates Alike Eq (painterSendEvent e) (painterSendEvent e) := by
  cases e with
  | none => exact Prog.relates_pure rfl
  | some e =>
    refine Prog.Relates.bind_eq (relates_view_read fun d => ?_) fun connected => ?_
    · cases h : d.painter <;> simp [canSend, Device.view, Painter.view, h]
    · split
      · exact Prog.Relates.bind_eq (relates_view_modify (respectsView_addEvent e))
          fun _ => relates_flushOrSchedule
      · refine relates_view_modify fun d => ⟨?_, rfl⟩
        simp [drmEventCancelFree, Device.view, Device.onDrm, Function.comp_def]

theorem relates_createAndSend (event : Event) :
    Prog.Relates Alike Eq (createAndSend event) (createAndSend event) :=
  Prog.Relates.bind_eq (relates_createEvent event) relates_sendEvent

/-! ### Commits -/

theorem respectsView_markDirty (rect : ClipRect) : RespectsView (painterMarkDirty rect) := by
  refine respectsView_onPainter fun p => ?_
  cases h : p.scanoutFb <;> simp [Painter.markDirty, Painter.view, h]

theorem relates_markDirty (rect : ClipRect) :
    Prog.Relates Alike Eq (.modify (painterMarkDirty rect)) (.modify (painterMarkDirty rect)) :=
  relates_view_modify (respectsView_markDirty rect)

theorem respectsView_fbRef (fb : Framebuffer) (n : ℤ) : RespectsView (drmFramebufferRef fb n) :=
  respectsView_of_eq (fun _ => rfl) fun _ => rfl

theorem relates_setScanoutBuffer (fb : Option Framebuffer) :
    Prog.Relates Alike Eq (painterSetScanoutBuffer fb) (painterSetScanoutBuffer fb) := by
  have hswap : Prog.Relates Alike Eq (.act (swapScanoutBuffer fb)) (.act (swapScanoutBuffer fb)) := by
    refine relates_view_act (respectsView_onPainter fun _ => rfl) fun d => ?_
    cases h : d.painter <;> simp [swapScanoutBuffer, Device.view, Painter.view, h]
  cases fb with
  | none =>
    refine Prog.Relates.bind_eq hswap fun old => ?_
    cases old with
    | none => exact Prog.relates_pure rfl
    | some old => exact relates_view_modify (respectsView_fbRef old (-1))
  | some fb =>
    refine Prog.Relates.bind_eq (relates_view_modify (respectsView_fbRef fb 1)) fun _ =>
      Prog.Relates.bind_eq hswap fun old => ?_
    cases old with
    | none => exact Prog.relates_pure rfl
    | some old => exact relates_view_modify (respectsView_fbRef old (-1))

theorem relates_dpmsNotify (mode : Int32) :
    Prog.Relates Alike Eq (painterDpmsNotify mode) (painterDpmsNotify mode) := by
  refine Prog.Relates.bind_eq (relates_view_read fun d => ?_) fun connected => ?_
  · cases h : d.painter <;> simp [Device.view, Painter.view, h]
  · split
    · refine Prog.Relates.bind_eq (Prog.relates_when (relates_view_modify ?_))
        fun _ => relates_createAndSend _
      refine respectsView_of_eq (fun d => ?_) fun _ => rfl
      cases h : d.painter <;> simp [Device.view, Painter.view, Device.onPainter, h]
    · exact Prog.relates_pure rfl

theorem relates_modeChangedNotify (mode : DisplayMode) :
    Prog.Relates Alike Eq (painterModeChangedNotify mode) (painterModeChangedNotify mode) := by
  refine Prog.Relates.bind_eq (relates_view_read fun d => ?_) fun fb => ?_
  · cases h : d.painter <;> simp [Device.view, Painter.view, h]
  · cases fb with
    | none => exact Prog.relates_pure rfl
    | some fb =>
      exact Prog.Relates.bind_eq (relates_createAndSend _)
        fun _ => relates_view_modify (respectsView_onPainter fun _ => rfl)

theorem relates_needsFullModeset : Prog.Relates Alike Eq (.read painterNeedsFullModeset)
    (.read painterNeedsFullModeset) := by
  refine relates_view_read fun d => ?_
  cases h : d.painter <;> simp [painterNeedsFullModeset, Device.view, Painter.view, h]

theorem relates_getNumDirts : Prog.Relates Alike Eq (.read painterGetNumDirts)
    (.read painterGetNumDirts) := by
  refine relates_view_read fun d => ?_
  cases h : d.painter <;> simp [painterGetNumDirts, Painter.numDirts, Device.view, Painter.view, h]

theorem relates_notifyCrtcChange (old new : PlaneState) :
    Prog.Relates Alike Eq (notifyCrtcChange old new) (notifyCrtcChange old new) := by
  unfold notifyCrtcChange
  split_ifs
  · exact relates_dpmsNotify _
  · exact relates_dpmsNotify _
  · exact Prog.relates_pure rfl

theorem relates_planeAtomicUpdate (old new : PlaneState) (damage : List DrmRect) :
    Prog.Relates Alike Eq (planeAtomicUpdate old new damage) (planeAtomicUpdate old new damage) := by
  refine Prog.Relates.bind_eq (relates_notifyCrtcChange old new) fun _ => ?_
  cases new.fb with
  | none => exact Prog.relates_pure rfl
  | some fb =>
    refine Prog.Relates.bind_eq
      (Prog.relates_when (relates_view_modify (respectsView_onPainter fun _ => rfl))) fun _ => ?_
    refine Prog.Relates.bind_eq relates_needsFullModeset fun needsModeset => ?_
    refine Prog.Relates.bind_eq (Prog.relates_when ?_) fun _ => ?_
    · exact Prog.Relates.bind_eq (relates_setScanoutBuffer _)
        fun _ => Prog.relates_each (fun rect => relates_markDirty _) _
    refine Prog.Relates.bind_eq relates_getNumDirts fun numDirts => ?_
    exact Prog.relates_when (relates_markDirty _)

/-- What is done to the cursor is not in view. -/
theorem respectsView_cursor {f : Device → Device} (hf : ∀ d, ∃ c gemRefs, f d =
    { d with cursor := c, drm := { d.drm with gemRefs := gemRefs } }) : RespectsView f := by
  refine respectsView_of_eq (fun d => ?_) fun d => ?_
  · obtain ⟨c, gemRefs, heq⟩ := hf d
    rw [heq]
    rfl
  · obtain ⟨c, gemRefs, heq⟩ := hf d
    rw [heq]

theorem cursorSetGem_cursor (obj : Option GemRef) (d : Device) : ∃ c gemRefs,
    cursorSetGem obj d = { d with cursor := c, drm := { d.drm with gemRefs := gemRefs } } := by
  cases obj <;> cases h : d.cursor.obj <;>
    exact ⟨_, _, by simp only [cursorSetGem, drmGemObjectRef, Device.onDrm, h]; rfl⟩

theorem respectsView_cursorEnable (enable : Bool) : RespectsView (cursorEnable enable) := by
  refine respectsView_cursor fun d => ?_
  cases enable with
  | false => exact cursorSetGem_cursor none _
  | true => exact ⟨_, d.drm.gemRefs, rfl⟩

theorem relates_cursorShow (fb : Option Framebuffer) (env : CursorEnv) :
    Prog.Relates Alike Eq (cursorShow fb env) (cursorShow fb env) := by
  have henable := relates_view_modify (respectsView_cursorEnable fb.isSome)
  cases fb with
  | none => exact Prog.Relates.bind_eq (Prog.relates_pure rfl) fun _ => henable
  | some fb =>
    refine Prog.Relates.bind_eq (relates_view_modify (respectsView_cursor fun d => ?_))
      fun _ => henable
    exact cursorSetGem_cursor _ _

theorem relates_cursorMarkDirty (old new : PlaneState) (fb : Framebuffer) :
    Prog.Relates Alike Eq (cursorMarkDirty old new fb) (cursorMarkDirty old new fb) := by
  unfold cursorMarkDirty
  split_ifs
  · exact Prog.Relates.bind_eq (relates_markDirty _) fun _ => relates_markDirty _
  · refine Prog.Relates.bind_eq (relates_view_read fun d => ?_) fun rect => relates_markDirty rect
    cases h : d.painter <;> simp [painterFramebufferSize, Device.view, Painter.view, h]

/-- The old position of the cursor may differ, but it is only looked at when the client has cursor
events. -/
theorem relates_cursorAtomicUpdate (old new : PlaneState) (env : CursorEnv) :
    Prog.Relates Alike Eq (cursorAtomicUpdate old new env) (cursorAtomicUpdate old new env) := by
  have hposition : Prog.Relates Alike (fun _ _ => True)
      (.read fun d => (d.cursor.x, d.cursor.y)) (.read fun d => (d.cursor.x, d.cursor.y)) :=
    Prog.relates_read fun _ _ _ => trivial
  have hevents : Prog.Relates Alike (fun a b => a = false ∧ b = false)
      (.read (·.cursorEventsEnabled)) (.read (·.cursorEventsEnabled)) :=
    Prog.relates_read fun _ _ h => ⟨h.2, (congrArg Device.cursorEventsEnabled h.1).symm.trans h.2⟩
  refine Prog.Relates.bind hposition fun _ _ _ => ?_
  refine Prog.Relates.bind_eq
    (relates_view_modify (respectsView_cursor fun d => ⟨_, d.drm.gemRefs, rfl⟩)) fun _ => ?_
  refine Prog.Relates.bind_eq (Prog.relates_when (relates_cursorShow _ _)) fun _ => ?_
  refine Prog.Relates.bind hevents ?_
  rintro _ _ ⟨rfl, rfl⟩
  cases new.fb with
  | none => exact Prog.relates_pure rfl
  | some fb => exact relates_cursorMarkDirty old new fb

theorem relates_planeUpdate (u : PlaneUpdate) : Prog.Relates Alike Eq u.run u.run := by
  cases u with
  | primary old new damage => exact relates_planeAtomicUpdate old new damage
  | cursor old new env => exact relates_cursorAtomicUpdate old new env

theorem respectsView_sendVblank (crtc : Option Crtc) (vblank : Option VblankEvent) :
    RespectsView (sendVblank crtc vblank) := by
  intro d
  rw [sendVblank_eq, sendVblank_eq]
  exact ⟨by simp [Device.view, Device.onDrm, Function.comp_def], rfl⟩

theorem respectsView_setVblank (crtc : Option Crtc) (vblank : Option VblankEvent) :
    RespectsView (painterSetVblank crtc vblank) := by
  intro d
  cases h : d.painter with
  | none =>
    have hsend := respectsView_sendVblank crtc vblank d
    simpa [painterSetVblank, Device.view, h] using hsend
  | some p =>
    have hnum : p.view.numDirts = p.numDirts := rfl
    have hconnected : p.view.isConnected = p.isConnected := rfl
    simp only [painterSetVblank, painterSendVblank, sendVblank_eq, Device.view, h, Option.map_some,
      hnum, hconnected]
    split_ifs <;> simp [Device.onDrm, Device.onPainter, Painter.view, h]

theorem relates_updateReadyIfNeeded :
    Prog.Relates Alike Eq updateReadyIfNeeded updateReadyIfNeeded := by
  refine Prog.Relates.bind_eq (relates_view_read fun d => ?_) fun ready => ?_
  · cases h : d.painter <;> simp [Device.view, Painter.view, Painter.numDirts, h]
  · split
    · exact Prog.Relates.bind_eq (relates_createAndSend _)
        fun _ => relates_view_modify (respectsView_onPainter fun _ => rfl)
    · exact Prog.relates_pure rfl

/-- **Commits** keep devices alike. -/
theorem relates_commit (c : Commit) : Prog.Relates Alike Eq c.run c.run := by
  refine Prog.Relates.bind_eq (Prog.relates_each relates_planeUpdate _) fun _ => ?_
  refine Prog.Relates.bind_eq relates_needsFullModeset fun needsMode => ?_
  refine Prog.Relates.bind_eq relates_needsFullModeset fun needsDpms => ?_
  refine Prog.Relates.bind_eq (Prog.relates_when (relates_modeChangedNotify _)) fun _ => ?_
  refine Prog.Relates.bind_eq (Prog.relates_when (relates_dpmsNotify _)) fun _ => ?_
  refine Prog.Relates.bind_eq (relates_view_modify (respectsView_setVblank _ _)) fun _ => ?_
  exact relates_updateReadyIfNeeded.atomically

/-! ### Calls -/

theorem Alike.requestUpdate {d e : Device} (h : Alike d e) :
    Alike (painterRequestUpdateIoctl d).1 (painterRequestUpdateIoctl e).1 ∧
      (painterRequestUpdateIoctl d).2 = (painterRequestUpdateIoctl e).2 := by
  have hview : ∀ d : Device, (painterRequestUpdateIoctl d).1.view =
      (painterRequestUpdateIoctl d.view).1.view ∧
      (painterRequestUpdateIoctl d).1.cursorEventsEnabled = d.cursorEventsEnabled ∧
      (painterRequestUpdateIoctl d).2 = (painterRequestUpdateIoctl d.view).2 := by
    intro d
    cases hp : d.painter with
    | none => simp [painterRequestUpdateIoctl, Device.view, hp]
    | some p =>
      have hnum : p.view.numDirts = p.numDirts := rfl
      have hrequested : p.view.wasUpdateRequested = p.wasUpdateRequested := rfl
      simp only [painterRequestUpdateIoctl, Device.view, hp, Option.map_some, hnum, hrequested]
      split_ifs <;> simp [Device.onPainter, Painter.view, hp]
  exact ⟨h.apply fun d => ⟨(hview d).1, (hview d).2.1⟩, h.value fun d => (hview d).2.2⟩

/-- The locked phase finds the same rectangles, framebuffer and vblank event. -/
theorem Alike.grabpixLocked {d e : Device} (h : Alike d e) (cmd : GrabpixCmd) :
    Alike (painterGrabpixLocked cmd d).1 (painterGrabpixLocked cmd e).1 ∧
      (painterGrabpixLocked cmd d).2 = (painterGrabpixLocked cmd e).2 := by
  have hview : ∀ d : Device, (painterGrabpixLocked cmd d).1.view =
      (painterGrabpixLocked cmd d.view).1.view ∧
      (painterGrabpixLocked cmd d).1.cursorEventsEnabled = d.cursorEventsEnabled ∧
      (painterGrabpixLocked cmd d).2 = (painterGrabpixLocked cmd d.view).2 := by
    intro d
    unfold painterGrabpixLocked
    split_ifs with hmode hnum
    · exact ⟨(Device.view_view d).symm, rfl, rfl⟩
    · exact ⟨(Device.view_view d).symm, rfl, rfl⟩
    · cases hp : d.painter with
      | none => simp [Device.view, hp]
      | some p =>
        have hdirts : p.view.numDirts = p.numDirts := rfl
        have hscanout : p.view.scanoutFb = p.scanoutFb := rfl
        have hneg : ¬ p.numDirts < 0 := by simp [Painter.numDirts]
        simp only [Device.view, hp, Option.map_some, hdirts, if_neg hneg, hscanout]
        cases hfb : p.scanoutFb <;>
          simp [Painter.view, drmFramebufferRef, Device.onPainter, Device.onDrm, hp, hfb]
  exact ⟨h.apply fun d => ⟨(hview d).1, (hview d).2.1⟩, h.value fun d => (hview d).2.2⟩

theorem Alike.grabpixFinish {d e : Device} (h : Alike d e) (g : Grab) :
    Alike (painterGrabpixFinish g d) (painterGrabpixFinish g e) :=
  (h.apply (respectsView_sendVblank g.crtc g.vblank)).apply (respectsView_fbRef g.efb (-1))

/-- The device only decides what cursor is painted into the buffer. -/
theorem painterGrabpixCopy_answer (env : GrabEnv) (g : Grab) (d e : Device) :
    (painterGrabpixCopy env g d).ret = (painterGrabpixCopy env g e).ret ∧
      (painterGrabpixCopy env g d).rects = (painterGrabpixCopy env g e).rects := by
  unfold painterGrabpixCopy
  dsimp only
  split_ifs <;> exact ⟨rfl, rfl⟩

theorem Alike.grabpix {d e : Device} (h : Alike d e) (env : GrabEnv) (cmd : GrabpixCmd) :
    Alike (answerCall d (.grabpix env cmd)).1 (answerCall e (.grabpix env cmd)).1 ∧
      (answerCall d (.grabpix env cmd)).2 = (answerCall e (.grabpix env cmd)).2 := by
  obtain ⟨hend, hval⟩ := h.grabpixLocked cmd
  rcases hd : painterGrabpixLocked cmd d with ⟨d', out⟩
  rcases he : painterGrabpixLocked cmd e with ⟨e', out'⟩
  rw [hd, he] at hend hval
  obtain rfl : out = out' := hval
  obtain ⟨cmd', err | g⟩ := out
  · simp only [answerCall, painterGrabpixIoctl, hd, he]
    exact ⟨hend, trivial⟩
  · obtain ⟨hret, hrects⟩ := painterGrabpixCopy_answer env g d' e'
    simp only [answerCall, painterGrabpixIoctl, hd, he]
    exact ⟨hend.grabpixFinish g, by simp [hret, hrects]⟩

/-- **Calls** keep devices alike and have the same answers. -/
theorem Alike.answerCall {d e : Device} (h : Alike d e) (call : SessionCall) :
    Alike (answerCall d call).1 (answerCall e call).1 ∧
      (answerCall d call).2 = (answerCall e call).2 := by
  cases call with
  | requestUpdate => exact ⟨h.requestUpdate.1, congrArg Answer.requestUpdate h.requestUpdate.2⟩
  | grabpix env cmd => exact h.grabpix env cmd
  | commit c => exact ⟨(relates_commit c d e h).1, rfl⟩
  | sendEventsWork => exact ⟨(relates_sendEventsWork d e h).1, rfl⟩

theorem Alike.observe {d e : Device} (h : Alike d e) (answer : Answer) :
    observe answer d = observe answer e := by
  refine h.value fun d => ?_
  cases hp : d.painter <;> simp [Evdi.observe, Device.view, Painter.view, hp]

theorem Alike.sessionCall {d e : Device} (h : Alike d e) (call : SessionCall) :
    Alike (sessionCall d call).1 (sessionCall e call).1 ∧
      (sessionCall d call).2 = (sessionCall e call).2 := by
  obtain ⟨hend, hanswer⟩ := h.answerCall call
  refine ⟨hend, ?_⟩
  show Evdi.observe _ _ = Evdi.observe _ _
  rw [hanswer, hend.observe]

/-! ### From one session to the next -/

theorem EndsSession.disconnected {d d' : Device} (h : EndsSession d d') : ∃ p file,
    d.painter = some p ∧ p.drmFilp = some file ∧ d' = (painterDisconnect file d).1 := by
  cases h with
  | @disconnect _ user ans cmd file hcmd heq =>
    obtain ⟨p, hp, hfile, hd'⟩ := painterConnectIoctl_disconnect hcmd heq
    exact ⟨p, file, hp, hfile, hd'⟩
  | @close file howner =>
    cases hp : d.painter with
    | none => simp [hp] at howner
    | some p =>
      exact ⟨p, file, rfl, by simpa [hp] using howner, by rw [painterClose, if_pos howner]⟩

/-- The next session starts with the painter of a new device, but for the pending rectangles. -/
theorem connectIoctl_ok {d s : Device} {p : Painter} {user : UInt64 → UserRegion}
    {ans : ConnectAnswers} {cmd : ConnectCmd} {file : DrmFile} (hp : d.painter = some p)
    (hcmd : cmd.connected ≠ 0) (h : painterConnectIoctl user ans cmd file d = (s, 0)) :
    ∃ edid, copyFromUser (user cmd.edid) cmd.edidLength.toNat = some edid ∧ s = { d with
      painter := some (p.connected file cmd.edidLength edid)
      pixelAreaLimit := cmd.pixelAreaLimit
      pixelPerSecondLimit := cmd.pixelPerSecondLimit
      i2cAdapter := d.i2cAdapter || ans.i2cAdd } := by
  rcases painterConnectIoctl_cases user ans cmd file d with ⟨err, heq, hneg⟩ |
    ⟨edid, -, -, -, hcopy, heq⟩ | ⟨hdisconnect, -⟩
  · exact absurd (congrArg Prod.snd (heq.symm.trans h)) hneg.ne
  · refine ⟨edid, hcopy, ?_⟩
    have hs := congrArg Prod.fst (heq.symm.trans h)
    rw [hp] at hs
    exact hs.symm
  · exact absurd hdisconnect hcmd

/-- **Two sessions that follow on the same pending rectangles** cannot be told apart: whatever the
sessions before did, the same connect, the same calls and commits and the same answers of the kernel
give the same answers, events and vblank events, call by call. -/
theorem new_session_alike {d₁ d₂ e₁ e₂ s₁ s₂ : Device} {user : UInt64 → UserRegion}
    {ans : ConnectAnswers} {cmd : ConnectCmd} {file : DrmFile} (hend₁ : EndsSession d₁ e₁)
    (hend₂ : EndsSession d₂ e₂) (hrects : d₁.dirtyRects = d₂.dirtyRects)
    (hcmd : cmd.connected ≠ 0) (hs₁ : painterConnectIoctl user ans cmd file e₁ = (s₁, 0))
    (hs₂ : painterConnectIoctl user ans cmd file e₂ = (s₂, 0)) (kzalloc hasSpace : Stream' Bool)
    (calls : List SessionCall) :
    outputs sessionCall (s₁.record kzalloc hasSpace) calls =
      outputs sessionCall (s₂.record kzalloc hasSpace) calls := by
  obtain ⟨p₁, file₁, hp₁, hfile₁, rfl⟩ := hend₁.disconnected
  obtain ⟨p₂, file₂, hp₂, hfile₂, rfl⟩ := hend₂.disconnected
  rw [painterDisconnect_owner hp₁ hfile₁] at hs₁
  rw [painterDisconnect_owner hp₂ hfile₂] at hs₂
  obtain ⟨edid, hcopy, rfl⟩ := connectIoctl_ok rfl hcmd hs₁
  obtain ⟨edid', hcopy', rfl⟩ := connectIoctl_ok rfl hcmd hs₂
  obtain rfl : edid = edid' := Option.some.inj (hcopy.symm.trans hcopy')
  rw [Device.dirtyRects_some hp₁, Device.dirtyRects_some hp₂] at hrects
  refine outputs_eq_of_rel (fun _ _ call h => h.sessionCall call) (R := Alike) ⟨?_, rfl⟩ calls
  simp [Device.record, Device.view, Painter.view, Painter.connected, Painter.disconnected,
    Device.onDrm, hrects]

/-- The commit that shows a first buffer of 64 by 64. -/
def Commit.sampleFirst : Commit :=
  .sample [.primary (.sample none) (.sample (some (.sample 1 64 64 256))) []]

/-- The connect of a client. -/
def Device.sampleConnect (d : Device) : Device × ℤ :=
  painterConnectIoctl (fun _ => sampleUser 0) ⟨true, true⟩ .sample 1 d

/-- A first session, with the calls given. -/
def Device.sampleSession (calls : List SessionCall) : Device :=
  after sessionCall (Device.init 0 (.init (.const true) (.const true))).sampleConnect.1 calls

/-- The close of the client's file, and its next connect. -/
def Device.sampleNext (d : Device) : Device :=
  (painterClose 1 d).sampleConnect.1.record (.const true) (.const true)

/-- One session grabbed a frame, the other saw none: the next one cannot tell. -/
theorem new_session_alike_grabbed :
    outputs sessionCall (Device.sampleSession
      [.commit .sampleFirst, .grabpix (.sample 0) (.sample 64 64 256 16)]).sampleNext
      [.requestUpdate] =
    outputs sessionCall (Device.sampleSession []).sampleNext [.requestUpdate] := by
  have hclose : ∀ d : Device, d.painter.bind (·.drmFilp) = some 1 →
      EndsSession d (painterClose 1 d) := fun _ => .close
  have hconnect : ∀ d : Device, (painterClose 1 d).sampleConnect.2 = 0 →
      painterConnectIoctl (fun _ => sampleUser 0) ⟨true, true⟩ .sample 1 (painterClose 1 d) =
        ((painterClose 1 d).sampleConnect.1, 0) := fun d h => Prod.ext rfl h
  have hcmd : ConnectCmd.sample.connected ≠ 0 := by decide
  refine new_session_alike (hclose _ ?_) (hclose _ ?_) ?_ hcmd (hconnect _ ?_) (hconnect _ ?_) _ _ _
  all_goals rfl

/-- One session left a frame that it did not grab: the next one is told at once that there is an
update. -/
theorem stale_damage_answers_next_session :
    outputs sessionCall (Device.sampleSession [.commit .sampleFirst]).sampleNext [.requestUpdate] ≠
      outputs sessionCall (Device.sampleSession []).sampleNext [.requestUpdate] := by
  decide +kernel

end Evdi
