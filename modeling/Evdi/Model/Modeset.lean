import Evdi.Model.Connect

/-!
# The compositor's commits

The callbacks of `evdi_modeset.c` that the DRM core makes during an atomic commit, for kernels from
5.13 on: `evdi_plane_atomic_update` for the primary plane, `evdi_cursor_atomic_update` for the cursor
plane, and `evdi_crtc_atomic_flush` after them.  A commit is any sequence of plane updates followed by
one flush.

The rectangles the DRM damage iterator yields are an argument of the primary update.
-/

namespace Evdi

open Atomic

/-! ### Plane states -/

/-- What the driver reads of `struct drm_plane_state`. -/
structure PlaneState where
  crtc : Option Crtc
  fb : Option Framebuffer
  crtcX : Int32
  crtcY : Int32
  crtcW : UInt32
  crtcH : UInt32

/-- `struct drm_rect`. -/
structure DrmRect where
  x1 : Int32
  y1 : Int32
  x2 : Int32
  y2 : Int32

/-- `clip_rect.x1 = rect.x1` and so on. -/
def DrmRect.toClip (r : DrmRect) : ClipRect where
  x1 := r.x1.toUInt32.toUInt16
  y1 := r.y1.toUInt32.toUInt16
  x2 := r.x2.toUInt32.toUInt16
  y2 := r.y2.toUInt32.toUInt16

/-! ### The primary plane -/

/-- The power notifications of `evdi_plane_atomic_update`. -/
def notifyCrtcChange (old new : PlaneState) : Prog Device Unit :=
  if old.crtc.isNone ∧ new.crtc.isSome then painterDpmsNotify dpmsOn
  else if old.crtc.isSome ∧ new.crtc.isNone then painterDpmsNotify dpmsOff
  else .pure ()

/-- The two cases in which `evdi_plane_atomic_update` forces a full modeset: a first framebuffer on a
CRTC, and a framebuffer of another format. -/
def forcesModeset (old new : PlaneState) (fb : Framebuffer) : Bool :=
  match old.fb with
  | none => new.crtc.isSome
  | some oldFb => fb.format.format != oldFb.format.format

/-- `evdi_plane_atomic_update`. -/
def planeAtomicUpdate (old new : PlaneState) (damage : List DrmRect) : Prog Device Unit := do
  notifyCrtcChange old new
  match new.fb with
  | none => .pure ()
  | some fb =>
    .when (forcesModeset old new fb) (.modify painterForceFullModeset)
    let needsModeset ← .read painterNeedsFullModeset
    .when (old.fb != some fb || needsModeset) do
      painterSetScanoutBuffer (some fb)
      .each (fun rect => .modify (painterMarkDirty rect.toClip)) damage
    let numDirts ← .read painterGetNumDirts
    .when (numDirts == 0) (.modify (painterMarkDirty fb.fullscreenRect))

/-! ### The cursor plane -/

/-- `evdi_cursor_atomic_get_rect`. -/
def cursorAtomicGetRect (state : PlaneState) : ClipRect where
  x1 := if state.crtcX < 0 then 0 else state.crtcX.toUInt32.toUInt16
  y1 := if state.crtcY < 0 then 0 else state.crtcY.toUInt32.toUInt16
  x2 := (state.crtcX.toUInt32 + state.crtcW).toUInt16
  y2 := (state.crtcY.toUInt32 + state.crtcH).toUInt16

/-- What a cursor update finds outside the device: the GEM objects, the answers to a mapping, and the
handle `evdi_painter_get_gem_handle` finds or creates for the cursor's object in the client's file (0
when it cannot). -/
structure CursorEnv where
  objects : GemRef → GemObject
  vmap : VmapAnswers
  gemHandle : UInt32

/-- The event made by `create_cursor_set_event`. -/
def cursorSetEvent (cursor : Cursor) (gemHandle : UInt32) : Event :=
  match cursor.obj with
  | some obj =>
    if gemHandle ≠ 0 then
      .cursorSet cursor.hotX cursor.hotY cursor.width cursor.height cursor.enabled gemHandle
        (.ofNat obj.size) cursor.pixelFormat cursor.stride
    else .cursorSet cursor.hotX cursor.hotY cursor.width cursor.height false 0 0
      cursor.pixelFormat cursor.stride
  | none => .cursorSet cursor.hotX cursor.hotY cursor.width cursor.height false 0 0
      cursor.pixelFormat cursor.stride

/-- `evdi_painter_send_cursor_set`. -/
def painterSendCursorSet (gemHandle : UInt32) : Prog Device Unit := do
  painterSendEvent (← .act fun d => createEvent (cursorSetEvent d.cursor gemHandle) d)

/-- `evdi_painter_send_cursor_move`. -/
def painterSendCursorMove : Prog Device Unit := do
  painterSendEvent (← .act fun d => createEvent (.cursorMove d.cursor.x d.cursor.y) d)

/-- The image change of `evdi_cursor_atomic_update`, when the plane's framebuffer is another. -/
def cursorShow (fb : Option Framebuffer) (env : CursorEnv) : Prog Device Unit := do
  match fb with
  | some fb =>
    .modify (cursorSet (some (env.objects fb.obj)) env.vmap
      ⟨fb.width, fb.height, 0, 0, fb.format.format, 4 * fb.width⟩)
  | none => .pure ()
  .modify (cursorEnable fb.isSome)

/-- The marking of `evdi_cursor_atomic_update`, when the client composes the cursor into the
framebuffer. -/
def cursorMarkDirty (old new : PlaneState) (fb : Framebuffer) : Prog Device Unit :=
  if fb.obj.allowSwCursorRectUpdates then do
    .modify (painterMarkDirty (cursorAtomicGetRect old))
    .modify (painterMarkDirty (cursorAtomicGetRect new))
  else do
    let rect ← .read painterFramebufferSize
    .modify (painterMarkDirty rect)

/-- `evdi_cursor_atomic_update`. -/
def cursorAtomicUpdate (old new : PlaneState) (env : CursorEnv) : Prog Device Unit := do
  let position ← .read fun d => (d.cursor.x, d.cursor.y)
  .modify (cursorMove new.crtcX new.crtcY)
  .when (new.fb != old.fb) (cursorShow new.fb env)
  if ← .read (·.cursorEventsEnabled) then
    .when (new.fb != old.fb) (painterSendCursorSet env.gemHandle)
    .when (position.1 != new.crtcX || position.2 != new.crtcY) painterSendCursorMove
  else
    match new.fb with
    | some fb => cursorMarkDirty old new fb
    | none => .pure ()

/-! ### Commits -/

/-- What the driver reads of `struct drm_crtc_state`. -/
structure CrtcState where
  active : Bool
  modeChanged : Bool
  activeChanged : Bool
  adjustedMode : DisplayMode
  event : Option VblankEvent

/-- `evdi_crtc_atomic_flush`. -/
def crtcAtomicFlush (crtc : Crtc) (state : CrtcState) : Prog Device Unit := do
  let needsMode ← .read painterNeedsFullModeset
  let needsDpms ← .read painterNeedsFullModeset
  .when (state.active && (state.modeChanged || needsMode))
    (painterModeChangedNotify state.adjustedMode)
  .when (state.activeChanged || needsDpms)
    (painterDpmsNotify (if state.active then dpmsOn else dpmsOff))
  .modify (painterSetVblank (some crtc) state.event)
  painterSendUpdateReadyIfNeeded

/-- An update of one of the two planes. -/
inductive PlaneUpdate
  | primary (old new : PlaneState) (damage : List DrmRect)
  | cursor (old new : PlaneState) (env : CursorEnv)

/-- The callback of an update. -/
def PlaneUpdate.run : PlaneUpdate → Prog Device Unit
  | .primary old new damage => planeAtomicUpdate old new damage
  | .cursor old new env => cursorAtomicUpdate old new env

/-- A commit of the compositor. -/
structure Commit where
  updates : List PlaneUpdate
  crtc : Crtc
  state : CrtcState

/-- The callbacks of a commit, in the DRM core's order. -/
def Commit.run (c : Commit) : Prog Device Unit := do
  .each PlaneUpdate.run c.updates
  crtcAtomicFlush c.crtc c.state

/-- A plane that shows `fb` on CRTC 0. -/
def PlaneState.sample (fb : Option Framebuffer) : PlaneState where
  crtc := some 0
  fb := fb
  crtcX := 0
  crtcY := 0
  crtcW := 64
  crtcH := 64

/-- A commit of the given updates to CRTC 0, without a mode change. -/
def Commit.sample (updates : List PlaneUpdate) : Commit where
  updates := updates
  crtc := 0
  state := ⟨true, false, false, ⟨64, 64, 60⟩, none⟩

/-- A commit that flips from `old` to `fb`, with the damage given. -/
def flipCommit (old : Option Framebuffer) (fb : Framebuffer) (damage : List DrmRect) : Commit :=
  .sample [.primary (.sample old) (.sample (some fb)) damage]

/-! ### What notifying leaves alone -/

/-- What the damage is about: the pending rectangles, the scanout buffer, and whether a full modeset
is due. -/
def damageView (d : Device) : Option (List ClipRect × Option Framebuffer × Bool) :=
  d.painter.map fun p => (p.dirtyRects, p.scanoutFb, p.needsFullModeset)

/-- Sending an event touches no damage. -/
theorem SendSection.damageView_eq {f : Device → Device} (h : SendSection f) (d : Device) :
    damageView (f d) = damageView d := by
  obtain ⟨g, hpainter, hg⟩ := (h.effect d).painter
  rw [damageView, damageView, hpainter, Option.map_map]
  refine congrArg (fun view => d.painter.map view) (funext fun p => ?_)
  obtain ⟨pending, work, fgConsole, hp⟩ := hg p
  rw [Function.comp_apply, hp]

theorem damageView_exec {α : Type} {p : Prog Device α} (h : p.Uses SendSection) (d : Device) :
    damageView (p.exec d).1 = damageView d :=
  h.exec_eq (fun _ hf => hf.damageView_eq) d

theorem dirtyRects_eq_of_damageView {d d' : Device} (h : damageView d' = damageView d) :
    d'.dirtyRects = d.dirtyRects := by
  have hview : ∀ d : Device, d.dirtyRects = (damageView d).elim [] (·.1) := by
    intro d
    cases h : d.painter <;> simp [Device.dirtyRects, damageView, h]
  rw [hview, hview, h]

/-! ### The sections of a commit -/

/-- The atomic sections that commits are made of. -/
inductive CommitSection : (Device → Device) → Prop
  | read : CommitSection id
  | send {f : Device → Device} : SendSection f → CommitSection f
  | forceModeset : CommitSection painterForceFullModeset
  | modesetDone : CommitSection fun d => d.onPainter fun p => { p with needsFullModeset := false }
  | fbRef (fb : Framebuffer) (n : ℤ) : CommitSection (drmFramebufferRef fb n)
  | swap (fb : Option Framebuffer) : CommitSection fun d => (swapScanoutBuffer fb d).1
  | markDirty (rect : ClipRect) : CommitSection (painterMarkDirty rect)
  | cursorMove (x y : Int32) : CommitSection (cursorMove x y)
  | cursorSet (obj : Option GemObject) (ans : VmapAnswers) (image : CursorImage) :
      CommitSection (cursorSet obj ans image)
  | cursorEnable (enable : Bool) : CommitSection (cursorEnable enable)
  | setVblank (crtc : Option Crtc) (vblank : Option VblankEvent) :
      CommitSection (painterSetVblank crtc vblank)
  | updateReady : CommitSection fun d => (updateReadyIfNeeded.exec d).1

/-! ### What commits are made of

The sections of a commit, for any kind `P` that sends and the other sections are of. -/

/-- What notifying the client is made of: events other than `UPDATE_READY` are sent. -/
structure SendKinds (P : (Device → Device) → Prop) : Prop where
  read : P id
  fgConsole : P fun d => d.onPainter fun p => { p with fgConsole := d.fgConsole }
  send (event : Device → Event) : (∀ d, event d ≠ .updateReady) →
    (Prog.act (fun d => createEvent (event d) d) >>= painterSendEvent).Uses P

/-- What commits are made of: the section that may send an `UPDATE_READY` event is the last. -/
structure CommitKinds (P : (Device → Device) → Prop) : Prop extends SendKinds P where
  forceModeset : P painterForceFullModeset
  modesetDone : P fun d => d.onPainter fun p => { p with needsFullModeset := false }
  fbRef (fb : Framebuffer) (n : ℤ) : P (drmFramebufferRef fb n)
  swap (fb : Option Framebuffer) : P fun d => (swapScanoutBuffer fb d).1
  markDirty (rect : ClipRect) : P (painterMarkDirty rect)
  cursorMove (x y : Int32) : P (cursorMove x y)
  cursorSet (obj : Option GemObject) (ans : VmapAnswers) (image : CursorImage) :
    P (cursorSet obj ans image)
  cursorEnable (enable : Bool) : P (cursorEnable enable)
  setVblank (crtc : Option Crtc) (vblank : Option VblankEvent) : P (painterSetVblank crtc vblank)
  updateReady : P fun d => (updateReadyIfNeeded.exec d).1

section

variable {P : (Device → Device) → Prop}

theorem SendKinds.dpmsNotify (h : SendKinds P) (mode : Int32) : (painterDpmsNotify mode).Uses P := by
  refine Prog.Uses.bind (Prog.uses_read h.read) fun connected => ?_
  split
  · refine Prog.Uses.bind (Prog.uses_when ?_) fun _ => h.send (fun _ => .dpms mode) (by simp)
    exact Prog.uses_modify h.fgConsole
  · exact Prog.uses_pure _

theorem SendKinds.notifyCrtcChange (h : SendKinds P) (old new : PlaneState) :
    (notifyCrtcChange old new).Uses P := by
  unfold Evdi.notifyCrtcChange
  split_ifs
  · exact h.dpmsNotify _
  · exact h.dpmsNotify _
  · exact Prog.uses_pure _

theorem CommitKinds.modeChangedNotify (h : CommitKinds P) (mode : DisplayMode) :
    (painterModeChangedNotify mode).Uses P := by
  refine Prog.Uses.bind (Prog.uses_read h.read) fun fb => ?_
  cases fb with
  | none => exact Prog.uses_pure _
  | some fb =>
    refine Prog.Uses.bind (h.send (fun _ => .modeChanged _ _ _ _ _) (by simp)) fun _ => ?_
    exact Prog.uses_modify h.modesetDone

theorem CommitKinds.setScanoutBuffer (h : CommitKinds P) (fb : Option Framebuffer) :
    (painterSetScanoutBuffer fb).Uses P := by
  have hrest : (Prog.act (swapScanoutBuffer fb) >>= fun old => match old with
      | some oldfb => .modify (drmFramebufferRef oldfb (-1))
      | none => pure ()).Uses P := by
    refine Prog.Uses.bind (Prog.uses_act (h.swap fb)) fun old => ?_
    cases old with
    | none => exact Prog.uses_pure _
    | some old => exact Prog.uses_modify (h.fbRef old (-1))
  cases fb with
  | none => exact hrest
  | some fb => exact Prog.Uses.bind (Prog.uses_modify (h.fbRef fb 1)) fun _ => hrest

theorem CommitKinds.planeAtomicUpdate (h : CommitKinds P) (old new : PlaneState)
    (damage : List DrmRect) : (planeAtomicUpdate old new damage).Uses P := by
  refine Prog.Uses.bind (h.notifyCrtcChange old new) fun _ => ?_
  cases new.fb with
  | none => exact Prog.uses_pure _
  | some fb =>
    refine Prog.Uses.bind (Prog.uses_when (Prog.uses_modify h.forceModeset)) fun _ => ?_
    refine Prog.Uses.bind (Prog.uses_read h.read) fun needsModeset => ?_
    refine Prog.Uses.bind (Prog.uses_when ?_) fun _ => ?_
    · refine Prog.Uses.bind (h.setScanoutBuffer _) fun _ => ?_
      exact Prog.uses_each (fun rect => Prog.uses_modify (h.markDirty _)) _
    refine Prog.Uses.bind (Prog.uses_read h.read) fun numDirts => ?_
    exact Prog.uses_when (Prog.uses_modify (h.markDirty _))

theorem CommitKinds.cursorShow (h : CommitKinds P) (fb : Option Framebuffer) (env : CursorEnv) :
    (cursorShow fb env).Uses P := by
  cases fb with
  | none => exact Prog.uses_modify (h.cursorEnable _)
  | some fb =>
    refine Prog.Uses.bind (Prog.uses_modify (h.cursorSet _ _ _)) fun _ => ?_
    exact Prog.uses_modify (h.cursorEnable _)

theorem CommitKinds.cursorMarkDirty (h : CommitKinds P) (old new : PlaneState) (fb : Framebuffer) :
    (cursorMarkDirty old new fb).Uses P := by
  unfold Evdi.cursorMarkDirty
  split_ifs
  · refine Prog.Uses.bind (Prog.uses_modify (h.markDirty _)) fun _ => ?_
    exact Prog.uses_modify (h.markDirty _)
  · refine Prog.Uses.bind (Prog.uses_read h.read) fun rect => ?_
    exact Prog.uses_modify (h.markDirty _)

theorem cursorSetEvent_ne (cursor : Cursor) (gemHandle : UInt32) :
    cursorSetEvent cursor gemHandle ≠ .updateReady := by
  unfold cursorSetEvent
  split
  · split_ifs <;> simp
  · simp

theorem CommitKinds.cursorAtomicUpdate (h : CommitKinds P) (old new : PlaneState) (env : CursorEnv) :
    (cursorAtomicUpdate old new env).Uses P := by
  refine Prog.Uses.bind (Prog.uses_read h.read) fun position => ?_
  refine Prog.Uses.bind (Prog.uses_modify (h.cursorMove _ _)) fun _ => ?_
  refine Prog.Uses.bind (Prog.uses_when (h.cursorShow _ _)) fun _ => ?_
  refine Prog.Uses.bind (Prog.uses_read h.read) fun enabled => ?_
  split
  · refine Prog.Uses.bind (Prog.uses_when (h.send _ fun d => cursorSetEvent_ne _ _)) fun _ => ?_
    exact Prog.uses_when (h.send _ fun d => by simp)
  · cases new.fb with
    | none => exact Prog.uses_pure _
    | some fb => exact h.cursorMarkDirty _ _ _

theorem CommitKinds.planeUpdate (h : CommitKinds P) (u : PlaneUpdate) : u.run.Uses P := by
  cases u with
  | primary old new damage => exact h.planeAtomicUpdate old new damage
  | cursor old new env => exact h.cursorAtomicUpdate old new env

/-- A commit is made of the sections listed. -/
theorem CommitKinds.commit (h : CommitKinds P) (c : Commit) : c.run.Uses P := by
  refine Prog.Uses.bind (Prog.uses_each h.planeUpdate _) fun _ => ?_
  refine Prog.Uses.bind (Prog.uses_read h.read) fun needsMode => ?_
  refine Prog.Uses.bind (Prog.uses_read h.read) fun needsDpms => ?_
  refine Prog.Uses.bind (Prog.uses_when (h.modeChangedNotify _)) fun _ => ?_
  refine Prog.Uses.bind (Prog.uses_when (h.dpmsNotify _)) fun _ => ?_
  refine Prog.Uses.bind (Prog.uses_modify (h.setVblank _ _)) fun _ => ?_
  exact Prog.uses_act h.updateReady

end

theorem sendKinds_sendSection : SendKinds SendSection where
  read := .read
  fgConsole := .fgConsole
  send event _ := createAndSend_kinds event

theorem commitKinds_commitSection : CommitKinds CommitSection where
  read := .read
  fgConsole := .send .fgConsole
  send event _ := (createAndSend_kinds event).mono fun _ => .send
  forceModeset := .forceModeset
  modesetDone := .modesetDone
  fbRef := .fbRef
  swap := .swap
  markDirty := .markDirty
  cursorMove := .cursorMove
  cursorSet := .cursorSet
  cursorEnable := .cursorEnable
  setVblank := .setVblank
  updateReady := .updateReady

theorem notifyCrtcChange_uses (old new : PlaneState) : (notifyCrtcChange old new).Uses SendSection :=
  sendKinds_sendSection.notifyCrtcChange old new

theorem Commit.run_uses (c : Commit) : c.run.Uses CommitSection := commitKinds_commitSection.commit c

end Evdi
