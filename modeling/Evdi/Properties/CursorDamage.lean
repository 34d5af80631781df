import Evdi.Properties.Damage
import Evdi.Properties.Lifecycle

/-!
# The damage of a cursor

While the client has not enabled cursor events, the driver draws the cursor into the pixels it hands out.
What was under the old image has to be handed out again, and what is under the new one.

* `PlaneState.imagePixels`: the pixels of the scanout buffer that a cursor plane's image is over;
* `markedPainter`: what `evdi_cursor_atomic_update` marks;
* `cursor_damage_pending_iff`: both images are pending after the update, except that a cursor that is
  hidden leaves its image where it was.
-/

namespace Evdi

open Atomic Absorption

/-! ### The image of a plane -/

/-- The plane shows its framebuffer unscaled. -/
def PlaneState.Unscaled (state : PlaneState) : Prop :=
  ∀ image, state.fb = some image →
    image.Admitted ∧ state.crtcW = image.width ∧ state.crtcH = image.height

/-- The pixels of `fb` that the image of the cursor plane is over: none when it shows no image. -/
def PlaneState.imagePixels (state : PlaneState) (fb : Framebuffer) : Set Pixel :=
  {p | state.fb.isSome ∧ (state.crtcX.toInt ≤ p.1 ∧ (p.1 : ℤ) < state.crtcX.toInt + state.crtcW.toNat) ∧
    (state.crtcY.toInt ≤ p.2 ∧ (p.2 : ℤ) < state.crtcY.toInt + state.crtcH.toNat) ∧ p ∈ fb.pixels}

theorem imagePixels_subset (state : PlaneState) (fb : Framebuffer) :
    state.imagePixels fb ⊆ fb.pixels := fun _ h => h.2.2.2

theorem imagePixels_none {state : PlaneState} (h : state.fb = none) (fb : Framebuffer) :
    state.imagePixels fb = ∅ := by
  ext p
  simp [PlaneState.imagePixels, h]

/-! ### The rectangle of an image -/

/-- An `int32_t` is its 32 bits, less `2 ^ 32` when it is negative. -/
theorem toInt_eq_toUInt32 (x : Int32) :
    x.toInt = (if x < 0 then x.toUInt32.toNat - 2 ^ 32 else x.toUInt32.toNat : ℤ) := by
  have hcond := BitVec.toInt_eq_toNat_cond x.toBitVec
  have hneg : x < 0 ↔ x.toInt < 0 := by simp [Int32.lt_iff_toInt_lt]
  have hbound := x.toUInt32.toNat_lt
  change x.toInt = if 2 * x.toUInt32.toNat < 2 ^ 32 then (x.toUInt32.toNat : ℤ)
    else x.toUInt32.toNat - (2 ^ 32 : ℕ) at hcond
  simp only [hneg]
  split_ifs at hcond ⊢ <;> omega

/-- One side of the rectangle: `start` is where the image starts and `length` is how long it is. When any
of it is on the screen, the sixteen bits lose nothing but what is left of the screen. -/
theorem side_eq {start : Int32} {length : UInt32} {n limit : ℕ} (hlength : length.toNat ≤ 7680)
    (hlimit : limit ≤ 7680) (hn : n < limit) (hlo : start.toInt ≤ n)
    (hhi : (n : ℤ) < start.toInt + length.toNat) :
    ((if start < 0 then 0 else start.toUInt32.toUInt16).toNat : ℤ) = max 0 start.toInt ∧
      ((start.toUInt32 + length).toUInt16.toNat : ℤ) = start.toInt + length.toNat := by
  have hbits := toInt_eq_toUInt32 start
  have hlt := start.toUInt32.toNat_lt
  rw [UInt32.toNat_toUInt16, UInt32.toNat_add]
  split_ifs at hbits ⊢ with hneg
  · refine ⟨?_, ?_⟩
    · rw [max_eq_left (by omega)]
      rfl
    · omega
  · rw [UInt32.toNat_toUInt16]
    omega

/-- The pixels of a framebuffer of `width` by `height` that the plane is over. -/
def PlaneState.planePixels (state : PlaneState) (width height : UInt32) : Set Pixel :=
  {p | (p.1 < width.toNat ∧ p.2 < height.toNat) ∧
    (state.crtcX.toInt ≤ p.1 ∧ (p.1 : ℤ) < state.crtcX.toInt + state.crtcW.toNat) ∧
    state.crtcY.toInt ≤ p.2 ∧ (p.2 : ℤ) < state.crtcY.toInt + state.crtcH.toNat}

/-- A plane that is over any pixel of the framebuffer has a rectangle of just these pixels. -/
theorem pixels_sanitize_cursorAtomicGetRect {state : PlaneState} {width height : UInt32}
    (hw : state.crtcW.toNat ≤ 7680) (hh : state.crtcH.toNat ≤ 4320) (hwidth : width.toNat ≤ 7680)
    (hheight : height.toNat ≤ 4320) (hover : (state.planePixels width height).Nonempty) :
    (framebufferSanitizeRect width height (cursorAtomicGetRect state)).pixels =
      state.planePixels width height := by
  obtain ⟨⟨x, y⟩, ⟨hx, hy⟩, ⟨hx1, hx2⟩, hy1, hy2⟩ := hover
  obtain ⟨hleft, hright⟩ := side_eq hw hwidth hx hx1 hx2
  obtain ⟨htop, hbottom⟩ := side_eq (by omega) (by omega) hy hy1 hy2
  have hordered : (cursorAtomicGetRect state).ordered = cursorAtomicGetRect state := by
    refine ClipRect.ordered_of_le (UInt16.le_iff_toNat_le.2 ?_) (UInt16.le_iff_toNat_le.2 ?_)
    all_goals
      simp only [cursorAtomicGetRect]
      omega
  ext p
  rw [pixels_sanitize, hordered]
  simp only [Set.mem_inter_iff, ClipRect.mem_pixels, cursorAtomicGetRect, Set.mem_ofPred_eq,
    PlaneState.planePixels]
  omega

/-- Marking the rectangle of a plane state marks what its image is over. -/
theorem imagePixels_subset_sanitize {state : PlaneState} {fb : Framebuffer} (hfb : fb.Admitted)
    (hstate : state.Unscaled) : state.imagePixels fb ⊆
      (framebufferSanitizeRect fb.width fb.height (cursorAtomicGetRect state)).pixels := by
  rintro p ⟨hshown, hx, hy, hmem⟩
  obtain ⟨image, himage⟩ := Option.isSome_iff_exists.1 hshown
  obtain ⟨hadmitted, hw, hh⟩ := hstate image himage
  have hp : p ∈ state.planePixels fb.width fb.height := ⟨hmem, hx, hy⟩
  rwa [pixels_sanitize_cursorAtomicGetRect (hw ▸ hadmitted.width_le) (hh ▸ hadmitted.height_le)
    hfb.width_le hfb.height_le ⟨p, hp⟩]

/-! ### The update -/

/-- The painter after the update of the cursor plane, when the client composes the cursor. -/
def markedPainter (old new : PlaneState) (p : Painter) : Painter :=
  match new.fb with
  | none => p
  | some image =>
    if image.obj.allowSwCursorRectUpdates then
      (p.markDirty (cursorAtomicGetRect old)).markDirty (cursorAtomicGetRect new)
    else p.markDirty (p.scanoutFb.elim ⟨0, 0, 0, 0⟩ (·.fullscreenRect))

theorem cursorEventsEnabled_gemObjectRef (obj : Option GemRef) (n : ℤ) (d : Device) :
    (drmGemObjectRef obj n d).cursorEventsEnabled = d.cursorEventsEnabled := by
  cases obj <;> rfl

theorem cursorEventsEnabled_cursorSetGem (obj : Option GemRef) (d : Device) :
    (cursorSetGem obj d).cursorEventsEnabled = d.cursorEventsEnabled := by
  unfold cursorSetGem
  dsimp only
  rw [cursorEventsEnabled_gemObjectRef, cursorEventsEnabled_gemObjectRef]

theorem cursorEventsEnabled_cursorEnable (enable : Bool) (d : Device) :
    (cursorEnable enable d).cursorEventsEnabled = d.cursorEventsEnabled := by
  cases enable with
  | false => exact cursorEventsEnabled_cursorSetGem none _
  | true => rfl

/-- The cursor's image is not part of the painter. -/
theorem cursorShow_exec_keeps (image : Option Framebuffer) (env : CursorEnv) (d : Device) :
    ((cursorShow image env).exec d).1.painter = d.painter ∧
      ((cursorShow image env).exec d).1.cursorEventsEnabled = d.cursorEventsEnabled := by
  cases image with
  | none => exact ⟨painter_cursorEnable false d, cursorEventsEnabled_cursorEnable false d⟩
  | some image =>
    constructor
    · exact (painter_cursorEnable true _).trans (painter_cursorSetGem _ _)
    · exact (cursorEventsEnabled_cursorEnable true _).trans (cursorEventsEnabled_cursorSetGem _ _)

/-- The update changes the cursor and then marks. -/
theorem cursorAtomicUpdate_exec (old new : PlaneState) (env : CursorEnv) {d : Device}
    (hevents : d.cursorEventsEnabled = false) : ∃ d', d'.painter = d.painter ∧
      (cursorAtomicUpdate old new env).exec d =
        (new.fb.elim (.pure ()) (cursorMarkDirty old new)).exec d' := by
  obtain ⟨hpainter, hkept⟩ := cursorShow_exec_keeps new.fb env (cursorMove new.crtcX new.crtcY d)
  have hmoved : (cursorMove new.crtcX new.crtcY d).cursorEventsEnabled = false := hevents
  cases hchanged : new.fb != old.fb with
  | true =>
    refine ⟨_, hpainter, ?_⟩
    simp only [cursorAtomicUpdate, Prog.exec_bind, Prog.exec_read, Prog.exec_modify, Prog.exec_when,
      hchanged, if_true, hkept, hmoved]
    cases new.fb <;> rfl
  | false =>
    refine ⟨cursorMove new.crtcX new.crtcY d, rfl, ?_⟩
    simp only [cursorAtomicUpdate, Prog.exec_bind, Prog.exec_read, Prog.exec_modify, Prog.exec_when,
      hchanged, Bool.false_eq_true, if_false, hmoved]
    cases new.fb <;> rfl

theorem takes_cursorMarkDirty (old new : PlaneState) {image : Framebuffer} (himage : new.fb = some image)
    (p : Painter) : Takes (cursorMarkDirty old new image) p (markedPainter old new p) := by
  unfold cursorMarkDirty markedPainter
  rw [himage]
  dsimp only
  split_ifs
  · exact (takes_onPainter _ p).bind (takes_onPainter _ _)
  · refine takes_read (v := p.scanoutFb.elim ⟨0, 0, 0, 0⟩ (·.fullscreenRect)) (fun d hd => ?_)
      (takes_onPainter _ p)
    rw [painterFramebufferSize, hd]
    dsimp only
    cases p.scanoutFb <;> rfl

theorem cursorAtomicUpdate_painter (old new : PlaneState) (env : CursorEnv) {d : Device} {p : Painter}
    (hp : d.painter = some p) (hevents : d.cursorEventsEnabled = false) :
    ((cursorAtomicUpdate old new env).exec d).1.painter = some (markedPainter old new p) := by
  obtain ⟨d', hd', hexec⟩ := cursorAtomicUpdate_exec old new env hevents
  rw [hexec]
  cases hnew : new.fb with
  | none => simp [markedPainter, hnew, hd', hp]
  | some image => exact takes_cursorMarkDirty old new hnew p d' (hd'.trans hp)

/-! ### Which images are pending after the update -/

section

variable {old new : PlaneState} {fb : Framebuffer} {p : Painter}

/-- An update that shows an image marks the images of both states. -/
theorem markedPainter_shows {image : Framebuffer} (hnew : new.fb = some image)
    (hfb : p.scanoutFb = some fb) (hadmitted : fb.Admitted) (hold : old.Unscaled)
    (hstate : new.Unscaled) : old.imagePixels fb ∪ new.imagePixels fb ⊆
      covered (markedPainter old new p).dirtyRects := by
  unfold markedPainter
  rw [hnew]
  dsimp only
  split_ifs
  · have hfirst := Painter.covered_markDirty hfb (cursorAtomicGetRect old)
    have hsecond := Painter.covered_markDirty
      (((p.markDirty_scanoutFb (cursorAtomicGetRect old))).trans hfb) (cursorAtomicGetRect new)
    refine Set.union_subset ?_ ?_
    · calc old.imagePixels fb
          ⊆ (framebufferSanitizeRect fb.width fb.height (cursorAtomicGetRect old)).pixels :=
            imagePixels_subset_sanitize hadmitted hold
        _ ⊆ covered (p.markDirty (cursorAtomicGetRect old)).dirtyRects :=
            Set.subset_union_right.trans hfirst
        _ ⊆ _ := Set.subset_union_left.trans hsecond
    · exact (imagePixels_subset_sanitize hadmitted hstate).trans
        (Set.subset_union_right.trans hsecond)
  · rw [hfb]
    have hmark := Painter.covered_markDirty hfb fb.fullscreenRect
    rw [pixels_sanitize_fullscreen hadmitted] at hmark
    exact (Set.union_subset (imagePixels_subset old fb) (imagePixels_subset new fb)).trans
      (Set.subset_union_right.trans hmark)

end

/-- **The damage of a cursor is complete** except when the update hides the cursor: after an update of
the cursor plane without cursor events, the pixels under the old image and those under the new one are
pending, exactly when the new state shows an image, or the old state showed none, or what its image was
over was pending before. -/
theorem cursor_damage_pending_iff {old new : PlaneState} (env : CursorEnv) {d : Device} {p : Painter}
    {fb : Framebuffer} (hp : d.painter = some p) (hfb : p.scanoutFb = some fb)
    (hadmitted : fb.Admitted) (hevents : d.cursorEventsEnabled = false) (hold : old.Unscaled)
    (hnew : new.Unscaled) :
    old.imagePixels fb ∪ new.imagePixels fb ⊆
        covered ((cursorAtomicUpdate old new env).exec d).1.dirtyRects ↔
      new.fb ≠ none ∨ old.fb = none ∨ old.imagePixels fb ⊆ covered p.dirtyRects := by
  rw [Device.dirtyRects_some (cursorAtomicUpdate_painter old new env hp hevents)]
  cases hshown : new.fb with
  | some image => simp [markedPainter_shows hshown hfb hadmitted hold hnew]
  | none =>
    have hsame : markedPainter old new p = p := by simp [markedPainter, hshown]
    rw [hsame, imagePixels_none hshown, Set.union_empty]
    simp only [ne_eq, not_true_eq_false, false_or]
    constructor
    · exact .inr
    · rintro (hnone | hpending)
      · rw [imagePixels_none hnone]
        exact Set.empty_subset _
      · exact hpending

/-- Nothing fails, and the cursor's object has no handle. -/
def CursorEnv.sample : CursorEnv := ⟨(GrabEnv.sample 0).objects, (GrabEnv.sample 0).vmap, 0⟩

/-- A cursor of 64 by 64 at the column `x`. -/
def PlaneState.sampleCursor (x : Int32) : PlaneState :=
  { PlaneState.sample (some (.sample 2 64 64 256)) with crtcX := x }

theorem PlaneState.unscaled_sampleCursor (x : Int32) : (PlaneState.sampleCursor x).Unscaled := by
  rintro image ⟨⟩
  exact ⟨Framebuffer.admitted_sample, rfl, rfl⟩

/-- A cursor that is moved is drawn again at both places. -/
theorem moved_cursor_pending :
    let fb := Framebuffer.sample 2 64 64 256
    (PlaneState.sampleCursor 0).imagePixels fb ∪ (PlaneState.sampleCursor (-8)).imagePixels fb ⊆
      covered ((cursorAtomicUpdate (.sampleCursor 0) (.sampleCursor (-8)) .sample).exec
        (Device.sample fb)).1.dirtyRects :=
  (cursor_damage_pending_iff .sample
    (p := (Device.sample (.sample 2 64 64 256)).painter.get rfl) rfl rfl Framebuffer.admitted_sample rfl
    (PlaneState.unscaled_sampleCursor 0) (PlaneState.unscaled_sampleCursor (-8))).2
    (.inl (by simp [PlaneState.sampleCursor, PlaneState.sample]))

/-- The device after the cursor has been shown and the frame has been grabbed. -/
def Device.withCursor : Device :=
  let d := ((cursorAtomicUpdate (.sample none) (.sampleCursor 0) .sample).exec
    (Device.sample (.sample 1 64 64 256))).1
  (painterGrabpixIoctl (.sample 0) (.sample 64 64 256 16) d).1

/-- The cursor is hidden then, and nothing is pending after it. -/
theorem hidden_cursor_stays :
    let cursor := PlaneState.sampleCursor 0
    let d := Device.withCursor
    d.cursorEventsEnabled = false ∧ d.painter.bind (·.scanoutFb) = some (.sample 1 64 64 256) ∧
      (0, 0) ∈ cursor.imagePixels (.sample 1 64 64 256) ∧
      (0, 0) ∉ covered ((cursorAtomicUpdate cursor (.sample none) .sample).exec d).1.dirtyRects := by
  intro cursor d
  have hrects : ((cursorAtomicUpdate cursor (.sample none) .sample).exec d).1.dirtyRects = [] := by
    decide +kernel
  refine ⟨by decide +kernel, by decide +kernel, ⟨rfl, by decide, by decide, ⟨by decide, by decide⟩⟩, ?_⟩
  rw [hrects]
  simp

end Evdi
