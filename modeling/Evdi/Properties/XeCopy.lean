import Evdi.Properties.CopyBounds

/-!
# The copy of a framebuffer from xe

`copy_primary_pixels_on_xe` copies the whole framebuffer, row by row, and is not told the rectangles.
It computes the offset of each row, where the plain copy moves pointers from the first row of a
rectangle on.

* `OffsetsFit`: the offsets of all pixels fit an `int`, on both sides;
* `XeAgrees`: both copies answer alike, and alike in the rectangles;
* `xe_agrees`: where the plain copy succeeds, they do.
-/

namespace Evdi

open Bytes Words Overwrite Absorption

/-- The offsets of both ends of all rows fit an `int`. -/
structure OffsetsFit (fb : Framebuffer) (stride : ℤ) : Prop where
  src : ∀ y < fb.height.toNat, fb.offset0.toNat + fb.pitch0.toNat * y + 4 * fb.width.toNat < 2 ^ 31
  dst : ∀ y < fb.height.toNat, -2 ^ 31 ≤ stride * y ∧ stride * y + 4 * fb.width.toNat < 2 ^ 31

/-- `copy_primary_pixels` of all of a framebuffer's size, with or without `is_from_xe`. -/
def copyAs (isFromXe : Bool) (fb : Framebuffer) (m : Memory) (u : UserRegion) (stride : ℤ)
    (rects : List ClipRect) : UserRegion × ℤ :=
  copyPrimaryPixels { fb with isFromXe := isFromXe } m u stride rects fb.width.toNat fb.height.toNat

/-- What differs after the copy are pixels of the framebuffer. -/
def CopiesOwnPixels (fb : Framebuffer) (m : Memory) (stride : ℤ) (u u' : UserRegion) : Prop :=
  ∀ a, u'.byte a ≠ u.byte a →
    ∃ c ∈ cells 4 fb.pixels, clientCell stride c = a ∧ u'.byte a = m (fbCell fb c)

/-- Both copies answer alike, and after a success the rectangles have the same bytes. -/
def XeAgrees (fb : Framebuffer) (m : Memory) (u : UserRegion) (stride : ℤ) (rects : List ClipRect) :
    Prop :=
  (copyAs true fb m u stride rects).2 = (copyAs false fb m u stride rects).2 ∧
    ((copyAs true fb m u stride rects).2 = 0 → ∀ c ∈ cells 4 (covered rects),
      (copyAs true fb m u stride rects).1.byte (clientCell stride c) =
        (copyAs false fb m u stride rects).1.byte (clientCell stride c))

section

variable {fb : Framebuffer} {stride : ℤ} {m : Memory} {u : UserRegion}

/-- When the offsets of the rows fit, their rows are those that pointers reach. -/
theorem copyRowsOnXe_eq (m : Memory) (span : ℤ) (n y : ℕ) (u : UserRegion)
    (hsrc : ∀ k < n, fb.offset0.toNat + fb.pitch0.toNat * (y + k) < 2 ^ 31)
    (hdst : ∀ k < n, -2 ^ 31 ≤ stride * (y + k : ℕ) ∧ stride * (y + k : ℕ) < 2 ^ 31) :
    copyRowsOnXe fb m stride span n y u =
      let copy := copyRows m fb.pitch0.toNat stride span n
        (fb.offset0.toNat + fb.pitch0.toNat * y : ℕ) (stride * y) u
      (copy.1, if copy.2 then -EFAULT else 0) := by
  induction n generalizing y u with
  | zero => rfl
  | succ n ih =>
    have hsrc0 : s32 (u32 (fb.offset0.toNat + fb.pitch0.toNat * y)) =
        (fb.offset0.toNat + fb.pitch0.toNat * y : ℕ) := by
      rw [s32_u32]
      exact s32_natCast (hsrc 0 n.succ_pos)
    have hdst0 : s32 (stride * y) = stride * y :=
      s32_of_bounds (hdst 0 n.succ_pos).1 (hdst 0 n.succ_pos).2
    have hnext : ∀ a p : ℕ, ((a + p * (y + 1) : ℕ) : ℤ) = (a + p * y : ℕ) + (p : ℤ) := by
      intro a p
      push_cast
      ring
    have hnext' : stride * ((y + 1 : ℕ) : ℤ) = stride * y + stride := by
      push_cast
      ring
    have hrest := fun u => ih (y + 1) u
      (fun k hk => by rw [Nat.add_assoc, Nat.add_comm 1]; exact hsrc (k + 1) (by omega))
      (fun k hk => by rw [Nat.add_assoc, Nat.add_comm 1]; exact hdst (k + 1) (by omega))
    rw [copyRowsOnXe, copyRows, hsrc0, hdst0]
    dsimp only
    by_cases hfault : (copyToUser u (stride * y) m (fb.offset0.toNat + fb.pitch0.toNat * y : ℕ)
        span).2 = true
    · simp only [hfault, if_true]
    · rw [if_neg hfault, if_neg hfault, hrest, hnext, hnext']

/-- The copy for xe sets all pixels of the framebuffer, whatever the rectangles. -/
theorem copyAs_xe (hfit : OffsetsFit fb stride) (hstride : 4 * fb.width.toNat ≤ stride.natAbs)
    (hu : UserMapped u) (m : Memory) (rects : List ClipRect) :
    (copyAs true fb m u stride rects).2 = 0 ∧
      Overwrites (clientCell stride) (fun c => m (fbCell fb c)) (cells 4 fb.pixels) u.byte
        (copyAs true fb m u stride rects).1.byte := by
  rcases Nat.eq_zero_or_pos fb.height.toNat with hempty | hpos
  · -- without rows there is nothing to copy, and no pixel
    have hcopy : copyAs true fb m u stride rects = (u, 0) := by
      simp [copyAs, copyPrimaryPixels, copyPrimaryPixelsOnXe, hempty, copyRowsOnXe]
    rw [hcopy]
    exact ⟨rfl, .refl_of_empty fun c hc => by simpa [hempty] using hc.1.2⟩
  · have hsrc := hfit.src
    have hdst := hfit.dst
    have hspan : s32 ((fb.width.toNat : ℤ) * 4) = ((fb.width.toNat : ℕ) - (0 : ℕ)) * 4 := by
      have hrow := hdst 0 hpos
      have hcast : (fb.width.toNat : ℤ) * 4 = ((fb.width.toNat * 4 : ℕ) : ℤ) := by push_cast; ring
      rw [hcast, s32_natCast (by omega)]
      push_cast
      ring
    have hsrc' : ∀ k < fb.height.toNat, fb.offset0.toNat + fb.pitch0.toNat * (0 + k) < 2 ^ 31 :=
        fun k hk => by
      rw [Nat.zero_add]
      exact (Nat.le_add_right _ _).trans_lt (hsrc k hk)
    have hdst' : ∀ k < fb.height.toNat,
        -2 ^ 31 ≤ stride * (0 + k : ℕ) ∧ stride * (0 + k : ℕ) < 2 ^ 31 := fun k hk => by
      have hrow := hdst k hk
      rw [Nat.zero_add]
      omega
    have hcopy := @copyRowsOnXe_eq { fb with isFromXe := true } stride m
      (((fb.width.toNat : ℕ) - (0 : ℕ)) * 4) fb.height.toNat 0 u hsrc' hdst'
    have hnonneg : (0 : ℤ) ≤ ((fb.width.toNat : ℕ) - (0 : ℕ)) * 4 := by omega
    obtain ⟨hdone, -⟩ := copyRows_mapped m fb.pitch0.toNat stride hnonneg fb.height.toNat
      (fb.offset0.toNat + fb.pitch0.toNat * 0 : ℕ) (stride * (0 : ℕ)) hu
    have hall : copyAs true fb m u stride rects =
        ((copyRows m fb.pitch0.toNat stride (((fb.width.toNat : ℕ) - (0 : ℕ)) * 4) fb.height.toNat
          (fb.offset0.toNat + fb.pitch0.toNat * 0 : ℕ) (stride * (0 : ℕ)) u).1, 0) := by
      dsimp only at hcopy
      rw [hdone, if_neg Bool.false_ne_true] at hcopy
      rw [← hcopy, copyAs, copyPrimaryPixels, if_pos rfl, copyPrimaryPixelsOnXe, hspan,
        Int.toNat_natCast]
    rw [hall]
    have hpixels : ∀ p : Pixel, p ∈ fb.pixels ↔
        ((0 : ℕ) ≤ p.1 ∧ p.1 < fb.width.toNat) ∧ (0 : ℕ) ≤ p.2 ∧ p.2 < 0 + fb.height.toNat := fun p => by
      show p.1 < _ ∧ p.2 < _ ↔ _
      omega
    refine ⟨rfl, copyBlock_overwrites hpixels (by omega) (fun p _ => ⟨?_, ?_⟩) (Prod.ext rfl hdone)⟩
    · simp [fbCell, cell]
    · simp [clientCell, cell]

/-- The plain copy succeeds on rectangles of the framebuffer only, and leaves its pixels there. -/
theorem copyAs_plain (hfit : OffsetsFit fb stride) (hstride : 4 * fb.width.toNat ≤ stride.natAbs)
    (m : Memory) {rects : List ClipRect} (h : (copyAs false fb m u stride rects).2 = 0) :
    covered rects ⊆ fb.pixels ∧
      Overwrites (clientCell stride) (fun c => m (fbCell fb c)) (cells 4 (covered rects)) u.byte
        (copyAs false fb m u stride rects).1.byte := by
  have hplain : copyAs false fb m u stride rects = copyRects { fb with isFromXe := false } m stride
      fb.width.toNat fb.height.toNat rects u := by
    simp [copyAs, copyPrimaryPixels]
  rw [hplain] at h ⊢
  have hwithin : ∀ r ∈ rects, r.x2.toNat ≤ fb.width.toNat ∧ r.y2.toNat ≤ fb.height.toNat := by
    rw [copyRects_eq] at h
    by_contra hnot
    simp [hnot, EFAULT] at h
  refine @copyRects_overwrites { fb with isFromXe := false } _ _ _ _ _ hstride (fun r hr => ?_)
    (Prod.ext rfl h)
  obtain ⟨hx, hy⟩ := hwithin r hr
  refine offsetsExact_of_fits ?_ ?_
  · rintro ⟨p, ⟨hx1, hx2⟩, hy1, hy2⟩
    have hsrc := hfit.src r.y1.toNat (by omega)
    show fb.offset0.toNat + fb.pitch0.toNat * r.y1.toNat + 4 * r.x1.toNat < 2 ^ 31
    omega
  · rintro ⟨p, ⟨hx1, hx2⟩, hy1, hy2⟩
    have hdst := hfit.dst r.y1.toNat (by omega)
    omega

/-- **The copy of a framebuffer from xe agrees with the plain one** where that succeeds, when the
offsets fit and the rows of the client's buffer do not overlap; what it changes are pixels of the
framebuffer, whatever the rectangles. -/
theorem xe_agrees (hfit : OffsetsFit fb stride) (hstride : 4 * fb.width.toNat ≤ stride.natAbs)
    (hu : UserMapped u) (m : Memory) (rects : List ClipRect) :
    ((copyAs false fb m u stride rects).2 = 0 → XeAgrees fb m u stride rects) ∧
      CopiesOwnPixels fb m stride u (copyAs true fb m u stride rects).1 := by
  obtain ⟨hdone, hall⟩ := copyAs_xe hfit hstride hu m rects
  refine ⟨fun hplain => ?_, fun a ha => ?_⟩
  · obtain ⟨hinside, hrects⟩ := copyAs_plain hfit hstride m hplain
    refine ⟨hdone.trans hplain.symm, fun _ c hc => ?_⟩
    rw [hall.fresh c ⟨hinside hc.1, hc.2⟩, hrects.fresh c hc]
  · obtain ⟨c, hc, rfl⟩ := hall.changed ha
    exact ⟨c, hc, rfl, hall.fresh c hc⟩

end

/-- A rectangle of a framebuffer of 64 by 64 pixels, whose rows the client has downwards or upwards. -/
theorem xe_agrees_sample :
    XeAgrees (.sample 1 64 64 256) (fun _ => 7) (sampleUser 0) 256 [⟨8, 8, 16, 16⟩] ∧
    XeAgrees (.sample 1 64 64 256) (fun _ => 7) (sampleUser 0) (-256) [⟨8, 8, 16, 16⟩] := by
  constructor
  · exact (xe_agrees ⟨by decide, by decide⟩ (by decide) (fun _ => rfl) _ _).1 (by decide +kernel)
  · exact (xe_agrees ⟨by decide, by decide⟩ (by decide) (fun _ => rfl) _ _).1 (by decide +kernel)

/-- Memory of zeroes, up to one byte. -/
def Memory.single (a : ℤ) : Memory := fun b => if b = a then 1 else 0

/-- The copies disagree on a rectangle left from a larger framebuffer, which only the plain one refuses;
when the rows of the client's buffer are all at one place; and when the offset of the third row does not
fit, in the framebuffer or in the client's buffer. -/
theorem xe_disagrees :
    ¬ XeAgrees (.sample 1 64 64 256) (fun _ => 7) (sampleUser 0) 256 [⟨0, 0, 65, 8⟩] ∧
    ¬ XeAgrees (.sample 1 1 2 4) (Memory.single 0) (sampleUser 0) 0 [⟨0, 0, 1, 1⟩] ∧
    ¬ XeAgrees (.sample 1 1 3 0x40000000) (Memory.single (2 ^ 31)) (sampleUser 0) 4 [⟨0, 0, 1, 3⟩] ∧
    ¬ XeAgrees (.sample 1 1 3 4) (Memory.single 8) (sampleUser 0) (2 ^ 30) [⟨0, 0, 1, 3⟩] := by
  refine ⟨fun h => ?_, fun h => ?_, fun h => ?_, fun h => ?_⟩
  · have hfit : OffsetsFit (.sample 1 64 64 256) 256 := ⟨by decide, by decide⟩
    obtain ⟨hxe, -⟩ := copyAs_xe hfit (by decide) (fun _ => rfl : UserMapped (sampleUser 0)) (fun _ => 7)
      [⟨0, 0, 65, 8⟩]
    exact absurd (h.1.symm.trans hxe) (by decide +kernel)
  · exact absurd (h.2 (by decide +kernel) ((0, 0), 0) ⟨⟨⟨0, 0, 1, 1⟩, by simp, by decide⟩, by decide⟩)
      (by decide +kernel)
  · exact absurd (h.2 (by decide +kernel) ((0, 2), 0) ⟨⟨⟨0, 0, 1, 3⟩, by simp, by decide⟩, by decide⟩)
      (by decide +kernel)
  · exact absurd (h.2 (by decide +kernel) ((0, 2), 0) ⟨⟨⟨0, 0, 1, 3⟩, by simp, by decide⟩, by decide⟩)
      (by decide +kernel)

end Evdi
