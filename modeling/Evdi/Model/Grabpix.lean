import Evdi.Model.Copy
import Evdi.Model.Connect

/-!
# GRABPIX

`evdi_painter_grabpix_ioctl` in its three phases: the locked one, which shrinks the list of dirty
rectangles to what the caller offers, takes a snapshot and resets it; the unlocked one, which maps
the framebuffer and copies; and the last one, which sends the vblank event taken over and drops the
framebuffer reference.  `Grab` holds the local variables of a call between its phases.
-/

namespace Evdi

open Bytes

/-- `struct drm_evdi_grabpix`. -/
structure GrabpixCmd where
  mode : UInt32
  bufWidth : Int32
  bufHeight : Int32
  bufByteStride : Int32
  buffer : UInt64
  numRects : Int32
  rects : UInt64
  deriving DecidableEq

/-- `cmd->num_rects = n`. -/
def GrabpixCmd.setNumRects (cmd : GrabpixCmd) (n : ℕ) : GrabpixCmd :=
  { cmd with numRects := Int32.ofNat n }

/-- `EVDI_GRABPIX_MODE_DIRTY`. -/
def grabpixModeDirty : UInt32 := 1

/-- The local variables of a call that got past its locked phase. -/
structure Grab where
  cmd : GrabpixCmd
  efb : Framebuffer
  dirtyRects : List ClipRect
  crtc : Option Crtc
  vblank : Option VblankEvent

/-- The rectangles merged, and collapsed when they are more than the caller's `numRects`. -/
def shrinkDirtyRects (numRects : Int32) (rects : List ClipRect) : List ClipRect :=
  let rects := mergeDirtyRects rects
  if (rects.length : ℤ) > numRects.toInt then collapseDirtyRects rects else rects

/-- The phase of `evdi_painter_grabpix_ioctl` up to the unlock: the device, the command with its
`num_rects` as rewritten, and an error or the local variables. -/
def painterGrabpixLocked (cmd : GrabpixCmd) (d : Device) : Device × GrabpixCmd × Except ℤ Grab :=
  if cmd.mode ≠ grabpixModeDirty then (d, cmd, .error (-EINVAL))
  else if cmd.numRects < 1 then (d, cmd, .error (-EINVAL))
  else match d.painter with
  | none => (d, cmd, .error (-ENODEV))
  | some p =>
    if p.numDirts < 0 then (d, cmd, .error (-EAGAIN))
    else
      let rects := shrinkDirtyRects cmd.numRects p.dirtyRects
      let cmd := cmd.setNumRects rects.length
      match p.scanoutFb with
      | none => (d.onPainter fun p => { p with dirtyRects := rects }, cmd, .error (-EAGAIN))
      | some efb =>
        ((drmFramebufferRef efb 1 d).onPainter fun p =>
            { p with dirtyRects := [], crtc := none, vblank := none },
          cmd, .ok ⟨cmd, efb, rects, p.crtc, p.vblank⟩)

/-- What a call finds outside the device: the format table of the DRM core, the answers to the
mapping and to `dma_buf_begin_cpu_access`, the state of the GEM objects, and the caller's memory
around each of its pointers. -/
structure GrabEnv where
  drmFormatInfo : UInt32 → Option DrmFormatInfo
  vmap : VmapAnswers
  beginCpuAccess : ℤ
  objects : GemRef → GemObject
  user : UInt64 → UserRegion

/-- What the unlocked phase leaves: its result, the framebuffer's object, the caller's buffer, and
the rectangles written to the caller's array. -/
structure GrabOutcome where
  ret : ℤ
  obj : GemObject
  buffer : UserRegion
  rects : List ClipRect

/-- `copy_to_user(cmd->rects, dirty_rects, cmd->num_rects * sizeof(cmd->rects[0]))` is complete. -/
def rectsWritable (g : Grab) (env : GrabEnv) : Bool :=
  (List.range (8 * g.dirtyRects.length)).all fun i : ℕ => (env.user g.cmd.rects).mapped i

/-- `copy_cursor_pixels`, which only logs its errors. -/
def copyCursorPixels (d : Device) (env : GrabEnv) (g : Grab) (obj : GemObject)
    (buffer : UserRegion) : UserRegion :=
  match d.cursor.obj with
  | none => buffer
  | some o =>
    let cursorObj := if o = g.efb.obj then obj else env.objects o
    (cursorComposeAndCopy env.drmFormatInfo d.cursor cursorObj g.efb obj.memory buffer
      g.cmd.bufByteStride.toInt).1

/-- The phase of `evdi_painter_grabpix_ioctl` from the unlock to the label `err_fb`. -/
def painterGrabpixCopy (env : GrabEnv) (g : Grab) (d : Device) : GrabOutcome :=
  let (obj, ret) := gemMapOnDemand (env.objects g.efb.obj) env.vmap
  let buffer := env.user g.cmd.buffer
  if ret = -ENOMEM ∨ !obj.vmapped then ⟨-EFAULT, obj, buffer, []⟩
  else if g.cmd.bufWidth.toUInt32 ≠ g.efb.width ∨ g.cmd.bufHeight.toUInt32 ≠ g.efb.height then
    ⟨-EINVAL, obj, buffer, []⟩
  else if !rectsWritable g env then ⟨-EFAULT, obj, buffer, []⟩
  else if g.efb.obj.importOwner.isSome ∧ env.beginCpuAccess ≠ 0 then
    ⟨-EFAULT, obj, buffer, g.dirtyRects⟩
  else
    let (buffer, err) := copyPrimaryPixels g.efb obj.memory buffer g.cmd.bufByteStride.toInt
      g.dirtyRects g.cmd.bufWidth.toInt g.cmd.bufHeight.toInt
    let buffer := if err = 0 ∧ !d.cursorEventsEnabled then copyCursorPixels d env g obj buffer
      else buffer
    ⟨err, obj, buffer, g.dirtyRects⟩

/-- The label `err_fb`: send the vblank event, drop the framebuffer. -/
def painterGrabpixFinish (g : Grab) (d : Device) : Device :=
  drmFramebufferRef g.efb (-1) (sendVblank g.crtc g.vblank d)

/-- `evdi_painter_grabpix_ioctl`, with nothing in between: the device, the command as rewritten, the
result, and what the unlocked phase left if it was reached. -/
def painterGrabpixIoctl (env : GrabEnv) (cmd : GrabpixCmd) (d : Device) :
    Device × GrabpixCmd × ℤ × Option GrabOutcome :=
  match painterGrabpixLocked cmd d with
  | (d, cmd, .error err) => (d, cmd, err, none)
  | (d, cmd, .ok g) =>
    let out := painterGrabpixCopy env g d
    (painterGrabpixFinish g d, cmd, out.ret, some out)

/-! ### The copy -/

/-- What the copy of the rectangles needs to succeed: the framebuffer is mapped, it has the size of the
caller's buffer, and the rectangles and all of their pixels can be written to the caller. -/
structure Grabbable (env : GrabEnv) (cmd : GrabpixCmd) (efb : Framebuffer) (rects : List ClipRect) :
    Prop where
  mapped : (gemMapOnDemand (env.objects efb.obj) env.vmap).2 ≠ -ENOMEM ∧
    (gemMapOnDemand (env.objects efb.obj) env.vmap).1.vmapped = true
  width_eq : cmd.bufWidth.toUInt32 = efb.width
  height_eq : cmd.bufHeight.toUInt32 = efb.height
  rects_mapped : ∀ i < 8 * rects.length, (env.user cmd.rects).mapped (i : ℕ) = true
  access : efb.obj.importOwner = none ∨ env.beginCpuAccess = 0
  pixels_mapped : (copyPrimaryPixels efb (env.objects efb.obj).memory (env.user cmd.buffer)
    cmd.bufByteStride.toInt rects cmd.bufWidth.toInt cmd.bufHeight.toInt).2 = 0

theorem rectsWritable_iff (g : Grab) (env : GrabEnv) : rectsWritable g env = true ↔
    ∀ i < 8 * g.dirtyRects.length, (env.user g.cmd.rects).mapped (i : ℕ) = true := by
  simp [rectsWritable]

/-- A copy that succeeds. -/
theorem painterGrabpixCopy_of_grabbable {env : GrabEnv} {g : Grab} (d : Device)
    (h : Grabbable env g.cmd g.efb g.dirtyRects) :
    let obj := (gemMapOnDemand (env.objects g.efb.obj) env.vmap).1
    let buffer := (copyPrimaryPixels g.efb (env.objects g.efb.obj).memory
      (env.user g.cmd.buffer) g.cmd.bufByteStride.toInt g.dirtyRects g.cmd.bufWidth.toInt
      g.cmd.bufHeight.toInt).1
    painterGrabpixCopy env g d =
      ⟨0, obj, if d.cursorEventsEnabled then buffer else copyCursorPixels d env g obj buffer,
        g.dirtyRects⟩ := by
  intro obj buffer
  have hmemory := (gemMapOnDemand_ref_memory (env.objects g.efb.obj) env.vmap).2
  have h1 : ¬ ((gemMapOnDemand (env.objects g.efb.obj) env.vmap).2 = -ENOMEM ∨
      (!(gemMapOnDemand (env.objects g.efb.obj) env.vmap).1.vmapped) = true) := by
    simp [h.mapped.1, h.mapped.2]
  have h2 : ¬ (g.cmd.bufWidth.toUInt32 ≠ g.efb.width ∨ g.cmd.bufHeight.toUInt32 ≠ g.efb.height) := by
    simp [h.width_eq, h.height_eq]
  have h3 : ¬ (!rectsWritable g env) = true := by simp [(rectsWritable_iff g env).2 h.rects_mapped]
  have h4 : ¬ (g.efb.obj.importOwner.isSome = true ∧ env.beginCpuAccess ≠ 0) := by
    rintro ⟨hsome, hne⟩
    exact h.access.elim (fun hnone => by simp [hnone] at hsome) hne
  unfold painterGrabpixCopy
  dsimp only
  rw [if_neg h1, if_neg h2, if_neg h3, if_neg h4, hmemory, h.pixels_mapped]
  cases d.cursorEventsEnabled <;> rfl

/-- **A copy succeeds** exactly when it can. -/
theorem painterGrabpixCopy_ret_eq_zero (env : GrabEnv) (g : Grab) (d : Device) :
    (painterGrabpixCopy env g d).ret = 0 ↔ Grabbable env g.cmd g.efb g.dirtyRects := by
  refine ⟨fun hret => ?_, fun h => by rw [painterGrabpixCopy_of_grabbable d h]⟩
  have hmemory := (gemMapOnDemand_ref_memory (env.objects g.efb.obj) env.vmap).2
  have hfault : ¬ -EFAULT = 0 := by decide
  have hinvalid : ¬ -EINVAL = 0 := by decide
  unfold painterGrabpixCopy at hret
  dsimp only at hret
  split_ifs at hret with h1 h2 h3 h4 h5
  · exact absurd hret hfault
  · exact absurd hret hinvalid
  · exact absurd hret hfault
  · exact absurd hret hfault
  -- the cursor does not matter
  all_goals
    simp only [not_or, not_not] at h1 h2
    rw [not_and_or, not_not] at h4
    refine ⟨⟨h1.1, by simpa using h1.2⟩, h2.1, h2.2,
      (rectsWritable_iff g env).1 (by simpa using h3), h4.imp_left (by simp), ?_⟩
    rw [← hmemory]
    exact hret

/-! ### The locked phase -/

theorem covered_shrinkDirtyRects (n : Int32) (rects : List ClipRect) :
    covered rects ⊆ covered (shrinkDirtyRects n rects) := by
  unfold shrinkDirtyRects
  dsimp only
  split_ifs
  · exact (covered_mergeDirtyRects rects).trans (covered_collapseDirtyRects _)
  · exact covered_mergeDirtyRects rects

@[simp] theorem shrinkDirtyRects_eq_nil {n : Int32} {rects : List ClipRect} :
    shrinkDirtyRects n rects = [] ↔ rects = [] := by
  unfold shrinkDirtyRects
  dsimp only
  split_ifs <;> simp

/-- The locked phase, by its outcomes: refused before the lock, no scanout buffer, or a grab. -/
theorem painterGrabpixLocked_cases (cmd : GrabpixCmd) (d : Device) :
    (∃ err, painterGrabpixLocked cmd d = (d, cmd, .error err) ∧ err < 0 ∧
      (cmd.mode ≠ grabpixModeDirty ∨ cmd.numRects < 1 ∨ d.painter = none)) ∨
    (∃ p, d.painter = some p ∧ p.scanoutFb = none ∧
      painterGrabpixLocked cmd d =
        (d.onPainter fun p => { p with dirtyRects := shrinkDirtyRects cmd.numRects p.dirtyRects },
          cmd.setNumRects (shrinkDirtyRects cmd.numRects p.dirtyRects).length,
          .error (-EAGAIN))) ∨
    ∃ p efb cmd', d.painter = some p ∧ p.scanoutFb = some efb ∧
      cmd' = cmd.setNumRects (shrinkDirtyRects cmd.numRects p.dirtyRects).length ∧
      painterGrabpixLocked cmd d =
        ((drmFramebufferRef efb 1 d).onPainter fun p =>
            { p with dirtyRects := [], crtc := none, vblank := none },
          cmd', .ok ⟨cmd', efb, shrinkDirtyRects cmd.numRects p.dirtyRects, p.crtc, p.vblank⟩) := by
  unfold painterGrabpixLocked
  split_ifs with hmode hnum
  · exact .inl ⟨_, rfl, by decide, .inl hmode⟩
  · exact .inl ⟨_, rfl, by decide, .inr (.inl hnum)⟩
  · cases hp : d.painter with
    | none => exact .inl ⟨_, rfl, by decide, .inr (.inr rfl)⟩
    | some p =>
      -- the count of a list is not negative, so the first `-EAGAIN` is never returned
      have hneg : ¬ p.numDirts < 0 := by simp [Painter.numDirts]
      simp only [if_neg hneg]
      cases hfb : p.scanoutFb with
      | none => exact .inr (.inl ⟨p, rfl, hfb, by simp [Device.onPainter, hp]⟩)
      | some efb => exact .inr (.inr ⟨p, efb, _, rfl, hfb, rfl, rfl⟩)

/-- The locked phase with a scanout buffer. -/
theorem painterGrabpixLocked_scanout {cmd : GrabpixCmd} {d : Device} {p : Painter}
    {efb : Framebuffer} (hmode : cmd.mode = grabpixModeDirty) (hnum : ¬ cmd.numRects < 1)
    (hp : d.painter = some p) (hfb : p.scanoutFb = some efb) :
    let rects := shrinkDirtyRects cmd.numRects p.dirtyRects
    painterGrabpixLocked cmd d =
      ((drmFramebufferRef efb 1 d).onPainter fun p =>
          { p with dirtyRects := [], crtc := none, vblank := none },
        cmd.setNumRects rects.length,
        .ok ⟨cmd.setNumRects rects.length, efb, rects, p.crtc, p.vblank⟩) := by
  have hneg : ¬ p.numDirts < 0 := by simp [Painter.numDirts]
  have hmode' : ¬ cmd.mode ≠ grabpixModeDirty := not_not.2 hmode
  simp only [painterGrabpixLocked, if_neg hmode', if_neg hnum, hp, if_neg hneg, hfb]

/-- A grab: the list of rectangles and the vblank event move from the painter to the call. -/
theorem painterGrabpixLocked_ok {cmd cmd' : GrabpixCmd} {d d' : Device} {g : Grab}
    (h : painterGrabpixLocked cmd d = (d', cmd', .ok g)) :
    ∃ p efb, d.painter = some p ∧ p.scanoutFb = some efb ∧
      cmd' = cmd.setNumRects (shrinkDirtyRects cmd.numRects p.dirtyRects).length ∧
      d' = (drmFramebufferRef efb 1 d).onPainter (fun p =>
        { p with dirtyRects := [], crtc := none, vblank := none }) ∧
      g = ⟨cmd', efb, shrinkDirtyRects cmd.numRects p.dirtyRects, p.crtc, p.vblank⟩ := by
  rcases painterGrabpixLocked_cases cmd d with ⟨err, heq, -⟩ | ⟨p, -, -, heq⟩ |
    ⟨p, efb, cmd'', hp, hfb, hcmd, heq⟩
  · simp [heq] at h
  · simp [heq] at h
  · rw [heq] at h
    simp only [Prod.mk.injEq, Except.ok.injEq] at h
    obtain ⟨rfl, rfl, rfl⟩ := h
    exact ⟨p, efb, hp, hfb, hcmd, rfl, rfl⟩

/-- **A call that gets past its locked phase** succeeds exactly when the copy can. -/
theorem painterGrabpixIoctl_ret_eq_zero {env : GrabEnv} {cmd : GrabpixCmd} {d : Device} {p : Painter}
    {efb : Framebuffer} (hmode : cmd.mode = grabpixModeDirty) (hnum : ¬ cmd.numRects < 1)
    (hp : d.painter = some p) (hfb : p.scanoutFb = some efb) :
    (painterGrabpixIoctl env cmd d).2.2.1 = 0 ↔
      Grabbable env cmd efb (shrinkDirtyRects cmd.numRects p.dirtyRects) := by
  simp only [painterGrabpixIoctl, painterGrabpixLocked_scanout hmode hnum hp hfb,
    painterGrabpixCopy_ret_eq_zero]
  exact ⟨fun h => ⟨h.1, h.2, h.3, h.4, h.5, h.6⟩, fun h => ⟨h.1, h.2, h.3, h.4, h.5, h.6⟩⟩

/-- A refused call changes nothing, or merges the rectangles that stay pending. -/
theorem painterGrabpixLocked_error {cmd cmd' : GrabpixCmd} {d d' : Device} {err : ℤ}
    (h : painterGrabpixLocked cmd d = (d', cmd', .error err)) :
    d' = d ∨ d' = d.onPainter fun p =>
      { p with dirtyRects := shrinkDirtyRects cmd.numRects p.dirtyRects } := by
  rcases painterGrabpixLocked_cases cmd d with ⟨err', heq, -⟩ | ⟨p, hp, -, heq⟩ |
    ⟨p, efb, cmd'', hp, hfb, hcmd, heq⟩
  · exact .inl (by rw [heq] at h; exact (Prod.mk.inj h).1.symm)
  · refine .inr ?_
    rw [heq] at h
    exact (Prod.mk.inj h).1.symm
  · simp [heq] at h

end Evdi
