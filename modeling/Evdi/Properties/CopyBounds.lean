import Evdi.Properties.PlainCopy
import Evdi.Properties.Ready

/-!
# The copy of the pixels stays in bounds

`copy_primary_pixels` for a framebuffer that is not from xe, as the user copies it makes.

* `rowCopies`, `rectCopies`: the copies of one rectangle and of all, in order; `copyRects_eq` ties
  them to the function;
* `CopySetting`: a framebuffer in its object and a client's buffer, both small enough for `int` offsets;
* `RectExact`: the offsets of a rectangle are computed without overflow;
* `copyPrimaryPixels_exact`: the result.
-/

namespace Evdi

open Bytes Words Overwrite Absorption

/-! ### The copies -/

/-- The copies that `copyRows` makes. -/
def rowCopies (pitch stride byteSpan : ℤ) : ℕ → ℤ → ℤ → List UserCopy
  | 0, _, _ => []
  | n + 1, src, dst =>
    ⟨src, dst, byteSpan⟩ :: rowCopies pitch stride byteSpan n (src + pitch) (dst + stride)

/-- The copies that `copyRects` makes, up to the first rectangle that is too large. -/
def rectCopies (fb : Framebuffer) (bufByteStride maxX maxY : ℤ) : List ClipRect → List UserCopy
  | [] => []
  | r :: rects =>
    if maxX < r.x2.toNat ∨ maxY < r.y2.toNat then []
    else rowCopies fb.pitch0.toNat bufByteStride (((r.x2.toNat : ℤ) - r.x1.toNat) * 4)
      (r.y2.toNat - r.y1.toNat) (srcOffset fb r) (dstOffset bufByteStride r) ++
      rectCopies fb bufByteStride maxX maxY rects

theorem copyRows_eq (m : Memory) (pitch stride byteSpan : ℤ) (n : ℕ) (src dst : ℤ) (u : UserRegion) :
    copyRows m pitch stride byteSpan n src dst u =
      copiesToUser m (rowCopies pitch stride byteSpan n src dst) u := by
  induction n generalizing src dst u with
  | zero => rfl
  | succ n ih =>
    rw [copyRows, rowCopies, copiesToUser]
    dsimp only
    rw [ih]

/-- A function that makes these copies and fails with them, or on a rectangle that is too large. -/
theorem copyRects_eq (fb : Framebuffer) (m : Memory) (stride : ℤ) (maxX maxY : ℕ)
    (rects : List ClipRect) (u : UserRegion) :
    copyRects fb m stride maxX maxY rects u =
      ((copiesToUser m (rectCopies fb stride maxX maxY rects) u).1,
        if (copiesToUser m (rectCopies fb stride maxX maxY rects) u).2 = false ∧
          ∀ r ∈ rects, r.x2.toNat ≤ maxX ∧ r.y2.toNat ≤ maxY then 0 else -EFAULT) := by
  induction rects generalizing u with
  | nil => simp [copyRects, rectCopies, copiesToUser]
  | cons r rects ih =>
    rw [copyRects, rectCopies]
    by_cases hsize : (maxX : ℤ) < r.x2.toNat ∨ (maxY : ℤ) < r.y2.toNat
    · have hbeyond : ¬ (r.x2.toNat ≤ maxX ∧ r.y2.toNat ≤ maxY) := by omega
      rw [if_pos hsize, if_pos hsize]
      simp [copiesToUser, hbeyond]
    · have hinside : r.x2.toNat ≤ maxX ∧ r.y2.toNat ≤ maxY := by omega
      rw [if_neg hsize, if_neg hsize, copiesToUser_append, copyRows_eq]
      generalize copiesToUser m (rowCopies _ _ _ _ _ _) u = first
      obtain ⟨u₁, fault⟩ := first
      cases fault with
      | true => simp
      | false => simp [ih, hinside]

/-! ### Bounds -/

/-- The framebuffer lies in the first `size` bytes of its object, the rows of the client's buffer do not
overlap, and both are less than `2 ^ 30` bytes. -/
structure CopySetting (fb : Framebuffer) (stride size : ℕ) : Prop where
  not_xe : fb.isFromXe = false
  end_le : fb.offset0.toNat + fb.pitch0.toNat * fb.height.toNat ≤ size
  end_lt : fb.offset0.toNat + fb.pitch0.toNat * fb.height.toNat < 2 ^ 30
  pitch_ge : 4 * fb.width.toNat ≤ fb.pitch0.toNat
  height_pos : 1 ≤ fb.height.toNat
  stride_ge : 4 * fb.width.toNat ≤ stride
  stride_lt : stride * fb.height.toNat < 2 ^ 30

/-- Each value that `copy_primary_pixels` computes for a rectangle fits its type: the products with the
pitch and their sums an `unsigned int`, the offsets and the span an `int`. -/
structure RectExact (fb : Framebuffer) (stride : ℕ) (r : ClipRect) : Prop where
  byteOffset : 4 * r.x1.toNat < 2 ^ 31
  byteSpan : 4 * (r.x2.toNat - r.x1.toNat) < 2 ^ 31
  srcRow : fb.pitch0.toNat * r.y1.toNat < 2 ^ 32
  src : fb.offset0.toNat + fb.pitch0.toNat * r.y1.toNat + 4 * r.x1.toNat < 2 ^ 31
  dst : stride * r.y1.toNat + 4 * r.x1.toNat < 2 ^ 31

/-- The copy reads from the first `size` bytes and writes to the first `length`. -/
structure InBounds (size length : ℕ) (c : UserCopy) : Prop where
  len : 0 ≤ c.len
  src : 0 ≤ c.src ∧ c.src + c.len ≤ size
  dst : 0 ≤ c.dst ∧ c.dst + c.len ≤ length

section

variable {fb : Framebuffer} {stride size : ℕ}

theorem CopySetting.rectExact (hs : CopySetting fb stride size) {r : ClipRect} (hr : r.IsOrdered)
    (hfb : r.Within fb) : RectExact fb stride r := by
  have hx := UInt16.le_iff_toNat_le.1 hr.x_le
  have hy := UInt16.le_iff_toNat_le.1 hr.y_le
  have hx2 := hfb.x2_le
  have hy1 : r.y1.toNat ≤ fb.height.toNat := hy.trans hfb.y2_le
  have hend := hs.end_lt
  have hbuffer := hs.stride_lt
  have hpitch := hs.pitch_ge
  have hstride := hs.stride_ge
  -- a framebuffer with a row has room for it
  have hrow : fb.pitch0.toNat ≤ fb.pitch0.toNat * fb.height.toNat :=
    Nat.le_mul_of_pos_right _ hs.height_pos
  have hrow' : stride ≤ stride * fb.height.toNat := Nat.le_mul_of_pos_right _ hs.height_pos
  have hsrc : fb.pitch0.toNat * r.y1.toNat ≤ fb.pitch0.toNat * fb.height.toNat :=
    Nat.mul_le_mul_left _ hy1
  have hdst : stride * r.y1.toNat ≤ stride * fb.height.toNat := Nat.mul_le_mul_left _ hy1
  have hbits := r.x1.toNat_lt
  have hbits' := r.x2.toNat_lt
  exact ⟨by omega, by omega, by omega, by omega, by omega⟩

/-- A row of a raster ends where the next one starts, or before. -/
theorem rowEnd_le (base : ℕ) {pitch w h x1 x2 y : ℕ} (hpitch : 4 * w ≤ pitch) (hx : x1 ≤ x2)
    (hw : x2 ≤ w) (hy : y < h) : base + pitch * y + 4 * x1 + 4 * (x2 - x1) ≤ base + pitch * h := by
  have hnext : pitch * y + pitch ≤ pitch * h := Nat.mul_le_mul_left pitch hy
  omega

theorem inBounds_rowCopies {pitch stride span size length n src dst : ℕ}
    (hsrc : ∀ k < n, src + pitch * k + span ≤ size) (hdst : ∀ k < n, dst + stride * k + span ≤ length) :
    ∀ c ∈ rowCopies pitch stride span n src dst, InBounds size length c := by
  induction n generalizing src dst with
  | zero => simp [rowCopies]
  | succ n ih =>
    rw [rowCopies, List.forall_mem_cons]
    constructor
    · have h := hsrc 0 n.succ_pos
      have h' := hdst 0 n.succ_pos
      exact ⟨by positivity, ⟨by positivity, by dsimp only; omega⟩, by positivity, by dsimp only; omega⟩
    · have hnext : ∀ {a p k : ℕ}, a + p + p * k = a + p * (k + 1) := by
        intro a p k
        ring
      have hsrc' : ∀ k < n, src + pitch + pitch * k + span ≤ size := fun k hk => by
        rw [hnext]
        exact hsrc (k + 1) (by omega)
      have hdst' : ∀ k < n, dst + stride + stride * k + span ≤ length := fun k hk => by
        rw [hnext]
        exact hdst (k + 1) (by omega)
      exact_mod_cast ih hsrc' hdst'

theorem CopySetting.inBounds (hs : CopySetting fb stride size) {rects : List ClipRect}
    (hordered : ∀ r ∈ rects, r.IsOrdered) :
    ∀ c ∈ rectCopies fb stride fb.width.toNat fb.height.toNat rects,
      InBounds size (stride * fb.height.toNat) c := by
  induction rects with
  | nil => simp [rectCopies]
  | cons r rects ih =>
    obtain ⟨hr, hrects⟩ := List.forall_mem_cons.1 hordered
    rw [rectCopies]
    split_ifs with hsize
    · simp
    · have hfb : r.Within fb := ⟨by omega, by omega⟩
      have hexact := hs.rectExact hr hfb
      have hspan : ((r.x2.toNat : ℤ) - r.x1.toNat) * 4 = ((4 * (r.x2.toNat - r.x1.toNat) : ℕ) : ℤ) := by
        have hx := UInt16.le_iff_toNat_le.1 hr.x_le
        push_cast [hx]
        ring
      rw [List.forall_mem_append, hspan, srcOffset_eq hexact.src, dstOffset_eq hexact.dst]
      have hx := UInt16.le_iff_toNat_le.1 hr.x_le
      have hy : ∀ k < r.y2.toNat - r.y1.toNat, r.y1.toNat + k < fb.height.toNat := by
        have := hfb.y2_le
        omega
      refine ⟨inBounds_rowCopies (fun k hk => ?_) (fun k hk => ?_), ih hrects⟩
      · refine le_trans (le_of_eq ?_) ((rowEnd_le _ hs.pitch_ge hx hfb.x2_le (hy k hk)).trans hs.end_le)
        ring
      · have hend := rowEnd_le 0 hs.stride_ge hx hfb.x2_le (hy k hk)
        refine le_trans (le_of_eq ?_) (hend.trans (Nat.zero_add _).le)
        ring

/-- The rectangles from the first that is too large on are not looked at. -/
theorem rectCopies_takeWhile (fb : Framebuffer) (stride : ℕ) (rects : List ClipRect) :
    rectCopies fb stride fb.width.toNat fb.height.toNat (rects.takeWhile (·.Within fb)) =
      rectCopies fb stride fb.width.toNat fb.height.toNat rects := by
  induction rects with
  | nil => rfl
  | cons r rects ih =>
    by_cases hr : r.Within fb
    · rw [List.takeWhile_cons_of_pos (by simpa using hr), rectCopies, rectCopies, ih]
    · have hsize : (fb.width.toNat : ℤ) < r.x2.toNat ∨ (fb.height.toNat : ℤ) < r.y2.toNat := by
        rw [ClipRect.within_iff] at hr
        omega
      rw [List.takeWhile_cons_of_neg (by simpa using hr), rectCopies, rectCopies, if_pos hsize]

/-- When no copy faults, the function fails on a rectangle that is too large and on nothing else. -/
theorem CopySetting.copyRects_eq (hs : CopySetting fb stride size) {rects : List ClipRect}
    (hordered : ∀ r ∈ rects, r.IsOrdered) {u : UserRegion}
    (hmapped : ∀ a : ℕ, a < stride * fb.height.toNat → u.mapped a = true) (m : Memory) :
    copyRects fb m stride fb.width.toNat fb.height.toNat rects u =
      ((copiesToUser m (rectCopies fb stride fb.width.toNat fb.height.toNat rects) u).1,
        if ∀ r ∈ rects, r.Within fb then 0 else -EFAULT) := by
  have hdone : (copiesToUser m (rectCopies fb stride fb.width.toNat fb.height.toNat rects) u).2 =
      false := by
    refine copiesToUser_mapped fun c hc => ?_
    have hbounds := hs.inBounds hordered c hc
    refine ⟨hbounds.len, fun a hl hu => ?_⟩
    obtain ⟨k, rfl⟩ := Int.eq_ofNat_of_zero_le (hbounds.dst.1.trans hl)
    exact hmapped k (by exact_mod_cast hu.trans_le hbounds.dst.2)
  rw [Evdi.copyRects_eq, hdone]
  simp only [true_and, ClipRect.within_iff]

/-- What the copy of rectangles of the framebuffer leaves. -/
theorem CopySetting.overwrites (hs : CopySetting fb stride size) {rects : List ClipRect}
    (hordered : ∀ r ∈ rects, r.IsOrdered) (hwithin : ∀ r ∈ rects, r.Within fb) {u : UserRegion}
    (hmapped : ∀ a : ℕ, a < stride * fb.height.toNat → u.mapped a = true) (m : Memory) :
    Overwrites (clientCell stride) (fun c => m (fbCell fb c)) (cells 4 (covered rects)) u.byte
      (copiesToUser m (rectCopies fb stride fb.width.toNat fb.height.toNat rects) u).1.byte := by
  have hexact : ∀ r ∈ rects, OffsetsExact fb stride r := by
    intro r hr
    have hexact := hs.rectExact (hordered r hr) (hwithin r hr)
    exact CopyFits.exact fun _ => ⟨hexact.src, hexact.dst⟩
  have hcopy := hs.copyRects_eq hordered hmapped m
  rw [if_pos hwithin] at hcopy
  exact (copyRects_overwrites (by rw [Int.natAbs_natCast]; exact hs.stride_ge) hexact hcopy).2

/-- **The plain copy is exact and stays in bounds.** With `copies` the user copies that it makes, in
order:

* all of them read from the mapped object and write to the client's buffer;
* with rectangles of the framebuffer it returns 0, its offsets are computed without overflow, the
  bytes of the rectangles' pixels are those of the framebuffer, and all others as before;
* with a rectangle that is too large it returns `-EFAULT`, after copying those before it. -/
theorem copyPrimaryPixels_exact (hs : CopySetting fb stride size) {rects : List ClipRect}
    (hordered : ∀ r ∈ rects, r.IsOrdered) {u : UserRegion}
    (hmapped : ∀ a : ℕ, a < stride * fb.height.toNat → u.mapped a = true) (m : Memory) :
    let copies := rectCopies fb stride fb.width.toNat fb.height.toNat rects
    let copy := copyPrimaryPixels fb m u stride rects fb.width.toNat fb.height.toNat
    (copy.1 = (copiesToUser m copies u).1 ∧
      ∀ c ∈ copies, InBounds size (stride * fb.height.toNat) c) ∧
    ((∀ r ∈ rects, r.Within fb) → copy.2 = 0 ∧ (∀ r ∈ rects, RectExact fb stride r) ∧
      Overwrites (clientCell stride) (fun c => m (fbCell fb c)) (cells 4 (covered rects))
        u.byte copy.1.byte) ∧
    ((∃ r ∈ rects, ¬ r.Within fb) → copy.2 = -EFAULT ∧
      Overwrites (clientCell stride) (fun c => m (fbCell fb c))
        (cells 4 (covered (rects.takeWhile (·.Within fb)))) u.byte copy.1.byte) := by
  intro copies copy
  have hcopy : copy = ((copiesToUser m copies u).1, if ∀ r ∈ rects, r.Within fb then 0 else -EFAULT) := by
    simp only [copy, copyPrimaryPixels, hs.not_xe, Bool.false_eq_true, if_false]
    exact hs.copyRects_eq hordered hmapped m
  rw [hcopy]
  refine ⟨⟨rfl, hs.inBounds hordered⟩, fun hwithin => ?_, fun hbeyond => ?_⟩
  · exact ⟨if_pos hwithin, fun r hr => hs.rectExact (hordered r hr) (hwithin r hr),
      hs.overwrites hordered hwithin hmapped m⟩
  · have hnot : ¬ ∀ r ∈ rects, r.Within fb := by simpa using hbeyond
    refine ⟨if_neg hnot, ?_⟩
    have hordered' : ∀ r ∈ rects.takeWhile (·.Within fb), r.IsOrdered := fun r hr =>
      hordered r ((List.takeWhile_sublist _).mem hr)
    have hkept := hs.overwrites hordered' (fun r hr => by simpa using List.mem_takeWhile_imp hr) hmapped m
    rwa [rectCopies_takeWhile] at hkept

end

/-- A rectangle of a framebuffer of 64 by 64 pixels, and one that is left from a larger one. -/
theorem copyPrimaryPixels_exact_stale :
    let fb := Framebuffer.sample 1 64 64 256
    (copyPrimaryPixels fb (fun _ => 7) (sampleUser 0) 256 [⟨0, 0, 8, 8⟩, ⟨0, 0, 65, 8⟩] 64 64).2 =
      -EFAULT := by
  intro fb
  have hs : CopySetting fb 256 16384 := by constructor <;> decide
  have hordered : ∀ r ∈ ([⟨0, 0, 8, 8⟩, ⟨0, 0, 65, 8⟩] : List ClipRect), r.IsOrdered := by
    simp only [List.forall_mem_cons]
    exact ⟨⟨by decide, by decide⟩, ⟨by decide, by decide⟩, by simp⟩
  have hmapped : ∀ a : ℕ, a < 256 * fb.height.toNat → (sampleUser 0).mapped a = true := fun _ _ => rfl
  have h := copyPrimaryPixels_exact hs hordered hmapped fun _ => 7
  exact (h.2.2 ⟨⟨0, 0, 65, 8⟩, by simp, by decide⟩).1

end Evdi
