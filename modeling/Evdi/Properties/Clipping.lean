import Evdi.Properties.CursorDamage
import Evdi.Properties.Capacity

/-!
# Clipping

`evdi_framebuffer_sanitize_rect` puts the corners of a rectangle in order and cuts them at the framebuffer,
in 16 bits.  The rectangle of a cursor plane comes to it with its corners cut to 16 bits already.

* `pixels_ordered`: a rectangle with its corners in order;
* `sanitize_exact`: clipping is intersection, and clipping again changes nothing;
* `cursor_rect_survives`: no pixel under a cursor is lost.
-/

namespace Evdi

/-- The pixels between the corners, whichever of them are first. -/
theorem pixels_ordered (r : ClipRect) : r.ordered.pixels =
    {p | (min r.x1.toNat r.x2.toNat ≤ p.1 ∧ p.1 < max r.x1.toNat r.x2.toNat) ∧
      min r.y1.toNat r.y2.toNat ≤ p.2 ∧ p.2 < max r.y1.toNat r.y2.toNat} := by
  have hfirst : ∀ x y : UInt16, (if x > y then y else x).toNat = min x.toNat y.toNat := by
    intro x y
    split_ifs with h
    · exact (min_eq_right (UInt16.lt_iff_toNat_lt.1 h).le).symm
    · exact (min_eq_left (UInt16.le_iff_toNat_le.1 (UInt16.not_lt.1 h))).symm
  have hlast : ∀ x y : UInt16, (if x > y then x else y).toNat = max x.toNat y.toNat := by
    intro x y
    split_ifs with h
    · exact (max_eq_left (UInt16.lt_iff_toNat_lt.1 h).le).symm
    · exact (max_eq_right (UInt16.le_iff_toNat_le.1 (UInt16.not_lt.1 h))).symm
  ext p
  rw [ClipRect.mem_pixels]
  simp only [ClipRect.ordered, hfirst, hlast, Set.mem_ofPred_eq]

theorem clipCoordinate_eq_self {limit : UInt32} {x : UInt16} (h : x.toNat ≤ limit.toNat) :
    clipCoordinate limit x = x := by
  apply UInt16.toNat.inj
  rw [toNat_clipCoordinate, min_eq_left h]

theorem clipCoordinate_le (limit : UInt32) (x : UInt16) :
    (clipCoordinate limit x).toNat ≤ limit.toNat := by
  rw [toNat_clipCoordinate]
  exact min_le_right _ _

/-- A rectangle that is in order and inside is left alone. -/
theorem sanitize_eq_self {width height : UInt32} {r : ClipRect} (hr : r.IsOrdered)
    (hwidth : r.x2.toNat ≤ width.toNat) (hheight : r.y2.toNat ≤ height.toNat) :
    framebufferSanitizeRect width height r = r := by
  have hx := UInt16.le_iff_toNat_le.1 hr.x_le
  have hy := UInt16.le_iff_toNat_le.1 hr.y_le
  rw [framebufferSanitizeRect, ClipRect.ordered_of_le hr.x_le hr.y_le]
  rw [clipCoordinate_eq_self (hx.trans hwidth), clipCoordinate_eq_self (hy.trans hheight),
    clipCoordinate_eq_self hwidth, clipCoordinate_eq_self hheight]

/-- **Clipping is intersection.** Whatever the order of the corners and the size of the framebuffer, the
result has its corners in order and inside, its pixels are those between the given corners that are pixels
of the framebuffer, and clipping it again changes nothing. -/
theorem sanitize_exact (width height : UInt32) (r : ClipRect) :
    let clipped := framebufferSanitizeRect width height r
    (clipped.x1 ≤ clipped.x2 ∧ clipped.x2.toNat ≤ width.toNat) ∧
    (clipped.y1 ≤ clipped.y2 ∧ clipped.y2.toNat ≤ height.toNat) ∧
    clipped.pixels =
      {p | (min r.x1.toNat r.x2.toNat ≤ p.1 ∧ p.1 < max r.x1.toNat r.x2.toNat) ∧
        min r.y1.toNat r.y2.toNat ≤ p.2 ∧ p.2 < max r.y1.toNat r.y2.toNat} ∩
      {p | p.1 < width.toNat ∧ p.2 < height.toNat} ∧
    framebufferSanitizeRect width height clipped = clipped := by
  intro clipped
  have hordered : clipped.IsOrdered := isOrdered_sanitize width height r
  have hwidth : clipped.x2.toNat ≤ width.toNat := clipCoordinate_le width _
  have hheight : clipped.y2.toNat ≤ height.toNat := clipCoordinate_le height _
  refine ⟨⟨hordered.x_le, hwidth⟩, ⟨hordered.y_le, hheight⟩, ?_, sanitize_eq_self hordered hwidth hheight⟩
  rw [← pixels_ordered]
  exact pixels_sanitize width height r

/-- **A cursor's rectangle survives its 16 bits.** Wherever the plane is, the clipped rectangle has every
pixel of the framebuffer that the plane is over; when there is one, it has no others. -/
theorem cursor_rect_survives {state : PlaneState} {width height : UInt32}
    (hw : state.crtcW.toNat ≤ 7680) (hh : state.crtcH.toNat ≤ 4320) (hwidth : width.toNat ≤ 7680)
    (hheight : height.toNat ≤ 4320) :
    (∀ px py : ℕ, px < width.toNat → py < height.toNat →
      state.crtcX.toInt ≤ px → (px : ℤ) < state.crtcX.toInt + state.crtcW.toNat →
      state.crtcY.toInt ≤ py → (py : ℤ) < state.crtcY.toInt + state.crtcH.toNat →
      (px, py) ∈ (framebufferSanitizeRect width height (cursorAtomicGetRect state)).pixels) ∧
    ((state.planePixels width height).Nonempty →
      (framebufferSanitizeRect width height (cursorAtomicGetRect state)).pixels =
        state.planePixels width height) := by
  have hexact := pixels_sanitize_cursorAtomicGetRect hw hh hwidth hheight
  refine ⟨fun px py hx hy hx1 hx2 hy1 hy2 => ?_, hexact⟩
  have hp : (px, py) ∈ state.planePixels width height := ⟨⟨hx, hy⟩, ⟨hx1, hx2⟩, hy1, hy2⟩
  rwa [hexact ⟨_, hp⟩]

/-- A cursor of 64 by 64 over the upper left corner of a screen, most of it to the left. -/
def PlaneState.sampleCorner : PlaneState := ⟨none, none, -60, -2, 64, 64⟩

theorem cursor_rect_survives_corner : (3, 61) ∈
    (framebufferSanitizeRect 1920 1080 (cursorAtomicGetRect .sampleCorner)).pixels := by
  have hw : PlaneState.sampleCorner.crtcW.toNat ≤ 7680 := by decide
  have hh : PlaneState.sampleCorner.crtcH.toNat ≤ 4320 := by decide
  exact (cursor_rect_survives hw hh (by decide) (by decide)).1 3 61 (by decide) (by decide) (by decide)
    (by decide) (by decide) (by decide)

end Evdi
