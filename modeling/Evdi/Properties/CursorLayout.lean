import Evdi.Properties.CursorReads
import Evdi.Properties.CursorState
import Evdi.Properties.DumbBuffers
import Evdi.Properties.Validation

/-!
# The layout of the cursor's image

A framebuffer has a pitch and an offset.  `evdi_cursor` has neither: `evdi_cursor_atomic_update` passes a
stride of `4 * width`, which the client is sent, and the composition takes the rows to follow each other.

* `Framebuffer.pixelByte`: where a pixel of the framebuffer is in its object;
* `ReadFrom`: the composition and the client find the pixels there;
* `cursor_layout_iff`: they do, exactly when the offset is 0 and the pitch, if there are two rows, is
  `4 * width`.
-/

namespace Evdi

open Atomic Words

/-- The byte of its object at which a pixel of a framebuffer begins. -/
def Framebuffer.pixelByte (fb : Framebuffer) (i j : ℕ) : ℕ :=
  fb.offset0.toNat + fb.pitch0.toNat * j + 4 * i

/-- The stride of a `CURSOR_SET` event. -/
def Event.cursorStride : Event → Option UInt32
  | .cursorSet _ _ _ _ _ _ _ _ stride => some stride
  | _ => none

/-- The consumers of a cursor read the pixels of a framebuffer: the composition, whose loops begin at
`-(width / 2)` and `-(height / 2)`, and the client, by the event that it is sent. -/
structure ReadFrom (fb : Framebuffer) (cursor : Cursor) (gemHandle : UInt32) : Prop where
  composed : ∀ i < 2 * (cursor.width.toNat / 2), ∀ j < 2 * (cursor.height.toNat / 2),
    4 * cursor.pix (i - (cursor.width.toNat / 2 : ℕ)) (j - (cursor.height.toNat / 2 : ℕ)) =
      fb.pixelByte i j
  sent : ∃ stride, (cursorSetEvent cursor gemHandle).cursorStride = some stride ∧
    ∀ i < fb.width.toNat, ∀ j < fb.height.toNat, stride.toNat * j + 4 * i = fb.pixelByte i j

/-- Rows of `4 * width` bytes that follow each other, from the first byte on. -/
def Framebuffer.Packed (fb : Framebuffer) : Prop :=
  fb.width.toNat = 0 ∨ fb.height.toNat = 0 ∨
    fb.offset0.toNat = 0 ∧ (fb.height.toNat = 1 ∨ fb.pitch0.toNat = 4 * fb.width.toNat)

/-- What the DRM core has checked of every framebuffer: rows of four-byte pixels that fit the pitch, and a
span that fits 32 bits. -/
structure ModeFbCmd2.RowsFit (cmd : ModeFbCmd2) : Prop where
  pitch_ge : 4 * cmd.width.toNat ≤ cmd.pitch0.toNat
  span_lt : cmd.span < 2 ^ 32

/-! ### The cursor that is installed -/

/-- The cursor that shows `fb` at `(x, y)`. -/
def Cursor.showing (fb : Framebuffer) (x y : Int32) : Cursor where
  enabled := true
  x := x
  y := y
  width := fb.width
  height := fb.height
  hotX := 0
  hotY := 0
  pixelFormat := fb.format.format
  stride := 4 * fb.width
  obj := some fb.obj

/-- **An update to another framebuffer**, whose object is mapped, installs that framebuffer. -/
theorem cursorAtomicUpdate_cursor {old new : PlaneState} {fb : Framebuffer} {t : GemTable}
    {ans : VmapAnswers} (hfb : new.fb = some fb) (hother : new.fb ≠ old.fb)
    (hmapped : (gemMapOnDemand (t.state fb.obj) ans).2 = 0) (gemHandle : UInt32) (d : Device) :
    ((cursorAtomicUpdate old new ⟨t.state, ans, gemHandle⟩).exec d).1.cursor =
      .showing fb new.crtcX new.crtcY := by
  have hobj : cursorMapObject (some (t.state fb.obj)) ans = some fb.obj := by
    rw [cursorMapObject_some, if_neg (not_not.2 hmapped)]
  have hcursor := congrArg (·.1)
    (cursorAndRefs_cursorAtomicUpdate old new ⟨t.state, ans, gemHandle⟩ d)
  refine hcursor.trans ?_
  rw [Prog.exec_when, if_pos (bne_iff_ne.2 hother), hfb]
  show (cursorEnable true (cursorSet (some (t.state fb.obj)) ans
    ⟨fb.width, fb.height, 0, 0, fb.format.format, 4 * fb.width⟩
    (cursorMove new.crtcX new.crtcY d))).cursor = _
  rw [cursorEnable, if_pos rfl, cursorSet]
  dsimp only
  rw [hobj, cursorSetGem_cursor_eq]
  rfl

theorem cursorStride_cursorSetEvent (cursor : Cursor) (gemHandle : UInt32) :
    (cursorSetEvent cursor gemHandle).cursorStride = some cursor.stride := by
  unfold cursorSetEvent
  split
  · split_ifs
    · rfl
    · rfl
  · rfl

/-! ### Packed framebuffers -/

section

variable {cmd : ModeFbCmd2} {fb : Framebuffer}

/-- Below the width and the height, neither the stride nor an index wraps. -/
theorem ModeFbCmd2.RowsFit.area_lt (h : cmd.RowsFit) :
    4 * (cmd.width.toNat * cmd.height.toNat) < 2 ^ 32 := by
  have hspan := h.span_lt
  have hrows := Nat.mul_le_mul_right cmd.height.toNat h.pitch_ge
  rw [ModeFbCmd2.span] at hspan
  rw [← mul_assoc]
  omega

/-- The first pixel of the second row, and the first of all, tell the layout. -/
theorem packed_of_stride {stride : ℕ} (hstride : stride = 4 * fb.width.toNat)
    (hsent : ∀ i < fb.width.toNat, ∀ j < fb.height.toNat, stride * j + 4 * i = fb.pixelByte i j) :
    fb.Packed := by
  by_cases hw : fb.width.toNat = 0
  · exact .inl hw
  by_cases hh : fb.height.toNat = 0
  · exact .inr (.inl hh)
  have hfirst := hsent 0 (by omega) 0 (by omega)
  have hoffset : fb.offset0.toNat = 0 := by
    simp only [Framebuffer.pixelByte] at hfirst
    omega
  refine .inr (.inr ⟨hoffset, ?_⟩)
  by_cases hone : fb.height.toNat = 1
  · exact .inl hone
  · have hsecond := hsent 0 (by omega) 1 (by omega)
    simp only [Framebuffer.pixelByte] at hsecond
    exact .inr (by omega)

/-- In packed rows, the pixel `(i, j)` is the one with the index `i + j * width`. -/
theorem Framebuffer.Packed.pixelByte (h : fb.Packed) {i j : ℕ} (hi : i < fb.width.toNat)
    (hj : j < fb.height.toNat) : fb.pixelByte i j = 4 * fb.width.toNat * j + 4 * i := by
  rcases h with hw | hh | ⟨hoffset, hone | hpitch⟩
  · omega
  · omega
  · obtain rfl : j = 0 := by omega
    simp [Framebuffer.pixelByte, hoffset]
  · rw [Framebuffer.pixelByte, hoffset, hpitch, zero_add]

/-- A framebuffer has the size, the pitch and the offset that it was asked for. -/
theorem fbUserFbCreate_layout {ans : FbCreateAnswers} (h : fbUserFbCreate ans cmd = .ok fb) :
    fb.width = cmd.width ∧ fb.height = cmd.height ∧ fb.pitch0 = cmd.pitch0 ∧
      fb.offset0 = cmd.offset0 := by
  obtain ⟨-, obj, -, -, rfl⟩ := fbUserFbCreate_ok h
  exact ⟨rfl, rfl, rfl, rfl⟩

/-- **The cursor that is shown** is read from its framebuffer exactly when that is packed. -/
theorem readFrom_showing_iff {ans : FbCreateAnswers} (hcreate : fbUserFbCreate ans cmd = .ok fb)
    (hcore : cmd.RowsFit) (x y : Int32) (gemHandle : UInt32) :
    ReadFrom fb (.showing fb x y) gemHandle ↔ fb.Packed := by
  obtain ⟨hw, hh, hpitch, -⟩ := fbUserFbCreate_layout hcreate
  have harea := hcore.area_lt
  rw [← hw, ← hh] at harea
  have hstride : (4 * fb.width).toNat = 4 * fb.width.toNat := by
    have hfour : (4 : UInt32).toNat = 4 := rfl
    have hge := hcore.pitch_ge
    rw [← hw] at hge
    rw [UInt32.toNat_mul, hfour]
    have hlt := cmd.pitch0.toNat_lt
    exact Nat.mod_eq_of_lt (by omega)
  have hsent := cursorStride_cursorSetEvent (.showing fb x y) gemHandle
  constructor
  · intro h
    obtain ⟨stride, hstride', hbytes⟩ := h.sent
    rw [hsent] at hstride'
    obtain rfl := Option.some.inj hstride'
    exact packed_of_stride hstride hbytes
  · intro hpacked
    refine ⟨fun i hi j hj => ?_, _, hsent, fun i hi j hj => ?_⟩
    · have hi' : i < fb.width.toNat := by
        have : i < 2 * (fb.width.toNat / 2) := hi
        omega
      have hj' : j < fb.height.toNat := by
        have : j < 2 * (fb.height.toNat / 2) := hj
        omega
      have hrows : (j + 1) * fb.width.toNat ≤ fb.height.toNat * fb.width.toNat :=
        Nat.mul_le_mul_right _ hj'
      rw [pix_of_columns, hpacked.pixelByte hi' hj']
      show 4 * s32 ((i + j * fb.width.toNat : ℕ) : ℤ) = _
      rw [s32_natCast (by rw [mul_comm fb.height.toNat] at hrows; rw [add_mul] at hrows; omega)]
      push_cast
      ring
    · rw [hpacked.pixelByte hi hj]
      show (4 * fb.width).toNat * j + 4 * i = _
      rw [hstride]

/-- **The cursor framebuffer is what is shown** exactly when its rows are packed. -/
theorem cursor_layout_iff {ans : FbCreateAnswers} (hcreate : fbUserFbCreate ans cmd = .ok fb)
    (hcore : cmd.RowsFit) {old new : PlaneState} (hfb : new.fb = some fb) (hother : new.fb ≠ old.fb)
    {t : GemTable} {vmap : VmapAnswers} (hmapped : (gemMapOnDemand (t.state fb.obj) vmap).2 = 0)
    (gemHandle : UInt32) (d : Device) :
    ReadFrom fb ((cursorAtomicUpdate old new ⟨t.state, vmap, gemHandle⟩).exec d).1.cursor gemHandle ↔
      fb.Packed := by
  rw [cursorAtomicUpdate_cursor hfb hother hmapped]
  exact readFrom_showing_iff hcreate hcore _ _ gemHandle

/-- A dumb buffer with more than one row is packed when its width is a multiple of 64 pixels. -/
theorem packed_dumb_iff {args : ModeCreateDumb} (hargs : args.Admitted) (hbpp : args.bpp = 32)
    (hsize : args.alignedSize < 2 ^ 32) {ans : GemCreateAnswers} (hw : fb.width = args.width)
    (hh : fb.height = args.height) (hpitch : fb.pitch0 = (dumbCreate ans args).pitch)
    (hoffset : fb.offset0 = 0) : fb.Packed ↔ args.height.toNat = 1 ∨ 64 ∣ args.width.toNat := by
  have hcpp : divRoundUp args.bpp.toNat 8 = 4 := by rw [hbpp]; rfl
  have haligned : alignedWidth args.width.toNat 4 = (args.width.toNat + 63) / 64 * 64 := rfl
  have hrow : (args.width.toNat + 63) / 64 * 64 * 4 < 2 ^ 32 := by
    simp only [ModeCreateDumb.alignedSize, hcpp, haligned] at hsize
    exact (Nat.le_mul_of_pos_right _ hargs.height_pos).trans_lt hsize
  have hwidth := hargs.width_pos
  have hheight := hargs.height_pos
  have hpitch' : fb.pitch0.toNat = (args.width.toNat + 63) / 64 * 64 * 4 := by
    rw [hpitch, dumbCreate_pitch hargs, hcpp, haligned, Nat.mod_eq_of_lt hrow]
  have hoffset' : fb.offset0.toNat = 0 := by rw [hoffset]; rfl
  rw [Framebuffer.Packed, hw, hh, hpitch', hoffset']
  omega

end

/-- The cursor of a device whose cursor plane comes to show `fb`, which can be mapped. -/
def Cursor.sampleShown (fb : Framebuffer) : Cursor :=
  ((cursorAtomicUpdate (.sample none) (.sample (some fb))
    ⟨CursorLife.sample.objects.state, ⟨0, true, .ok [5], true⟩, 0⟩).exec CursorLife.sample.device).1.cursor

/-- A cursor of 64 by 64 pixels in rows of 256 bytes. -/
theorem cursor_layout_packed :
    ReadFrom (framebufferInit (.sample 16384) (.sample 256) ⟨0, 16384, none, false⟩)
      (.sampleShown (framebufferInit (.sample 16384) (.sample 256) ⟨0, 16384, none, false⟩)) 0 :=
  (@cursor_layout_iff (.sample 256) _ (.sample 16384) rfl ⟨by decide, by decide⟩ _ _ rfl
    (by simp [PlaneState.sample]) _ _ rfl 0 _).2 (.inr (.inr ⟨rfl, .inr rfl⟩))

/-- A framebuffer of 100 by 100 pixels in a dumb buffer has rows of 512 bytes, of which the client is told
400. -/
theorem dumb_cursor_sheared :
    let cmd : ModeFbCmd2 := ⟨100, 100, 0x34325241, 1, 512, 0⟩
    let fb := framebufferInit (.sample 53248) cmd ⟨0, 53248, none, false⟩
    (dumbCreate .sample ⟨100, 100, 32⟩).pitch = 512 ∧ cmd.RowsFit ∧
      fbUserFbCreate (.sample 53248) cmd = .ok fb ∧ ¬ ReadFrom fb (.sampleShown fb) 0 := by
  intro cmd fb
  have hcore : cmd.RowsFit := ⟨by decide, by decide⟩
  have hcreate : fbUserFbCreate (.sample 53248) cmd = .ok fb := by
    simp only [cmd, fb]
    rfl
  refine ⟨by decide, hcore, hcreate, fun h => ?_⟩
  rw [Cursor.sampleShown, cursorAtomicUpdate_cursor rfl (by simp [PlaneState.sample]) rfl] at h
  rcases (readFrom_showing_iff hcreate hcore _ _ 0).1 h with hw | hh | ⟨-, hone | hpitch⟩
  · exact absurd hw (by decide)
  · exact absurd hh (by decide)
  · exact absurd hone (by decide)
  · exact absurd hpitch (by decide)

end Evdi
