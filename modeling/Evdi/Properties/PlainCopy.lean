import Evdi.Foundations.Overwrite
import Evdi.Model.Grabpix

/-!
# What a grab copies

`copy_primary_pixels` as an overwrite of the client's buffer (`Overwrite.Overwrites`): one row, the rows
of a rectangle, and all rectangles, whose pixels are set to those of the framebuffer while no other byte
changes.  That needs the offsets at which a rectangle starts to fit an `int` (`CopyFits`); the rows below
the first are reached by moving the pointers.
-/

namespace Evdi

open Bytes Words Overwrite Absorption

/-! ### Rows -/

/-- One complete user copy. -/
theorem copyToUser_overwrites {m : Memory} {src dst span : ℤ} {u u' : UserRegion}
    (h : copyToUser u dst m src span = (u', false)) :
    Overwrites (fun j : ℕ => dst + j) (fun j => m (src + j)) {j | (j : ℤ) < span}
      u.byte u'.byte := by
  obtain ⟨-, -, hbyte⟩ := copyToUser_ok h
  constructor
  · intro j hj
    have hin : dst ≤ dst + (j : ℕ) ∧ dst + (j : ℕ) < dst + span :=
      ⟨by omega, by simpa using hj⟩
    rw [hbyte, if_pos hin, add_sub_cancel_left]
  · intro a ha
    rw [hbyte, if_neg]
    rintro ⟨hl, hu⟩
    obtain ⟨j, hj⟩ := Int.eq_ofNat_of_zero_le (sub_nonneg.2 hl)
    refine ha j ?_ (by omega)
    show (j : ℤ) < span
    omega

/-- The rows of a rectangle, where rows do not overlap. -/
theorem copyRows_overwrites {m : Memory} {pitch span stride : ℤ} (hspan : span ≤ stride.natAbs)
    (n : ℕ) {src dst : ℤ} {u u' : UserRegion}
    (h : copyRows m pitch stride span n src dst u = (u', false)) :
    Overwrites (fun c : ℕ × ℕ => dst + stride * c.1 + c.2)
      (fun c => m (src + pitch * c.1 + c.2)) {c | c.1 < n ∧ (c.2 : ℤ) < span}
      u.byte u'.byte := by
  induction n generalizing src dst u with
  | zero =>
    obtain rfl : u = u' := congrArg Prod.fst h
    exact .refl_of_empty fun c hc => absurd hc.1 (Nat.not_lt_zero _)
  | succ n ih =>
    rw [copyRows] at h
    rcases hrow : copyToUser u dst m src span with ⟨u₁, fault⟩
    rw [hrow] at h
    cases fault with
    | true => simp at h
    | false =>
      have hfirst : Overwrites (fun c : ℕ × ℕ => dst + stride * c.1 + c.2)
          (fun c => m (src + pitch * c.1 + c.2)) {c | c.1 = 0 ∧ (c.2 : ℤ) < span}
          u.byte u₁.byte := by
        refine (copyToUser_overwrites hrow).reindex (f := fun j => (0, j)) ?_ ?_
        · exact fun j hj => ⟨⟨rfl, hj⟩, by simp, by simp⟩
        · rintro ⟨k, j⟩ ⟨rfl, hj⟩
          exact ⟨j, hj, rfl⟩
      have hrest : Overwrites (fun c : ℕ × ℕ => dst + stride * c.1 + c.2)
          (fun c => m (src + pitch * c.1 + c.2))
          {c | (1 ≤ c.1 ∧ c.1 < n + 1) ∧ (c.2 : ℤ) < span} u₁.byte u'.byte := by
        refine (ih h).reindex (f := fun c => (c.1 + 1, c.2)) ?_ ?_
        · rintro ⟨k, j⟩ ⟨hk, hj⟩
          refine ⟨⟨⟨by simp, by simpa using hk⟩, hj⟩, ?_, ?_⟩
          · push_cast
            ring
          · push_cast
            congr 1
            ring
        · rintro ⟨k, j⟩ ⟨⟨hk, hk'⟩, hj⟩
          refine ⟨(k - 1, j), ⟨?_, hj⟩, ?_⟩
          · show k - 1 < n
            have hk1 : 1 ≤ k := hk
            have hkn : k < n + 1 := hk'
            omega
          · show (k - 1 + 1, j) = (k, j)
            rw [Nat.sub_add_cancel hk]
      have hall := hfirst.union hrest (by
        rintro ⟨k, j⟩ ⟨rfl, hj⟩ ⟨k', j'⟩ ⟨⟨hk, -⟩, hj'⟩ heq
        have hin : ∀ i : ℕ, (i : ℤ) < span → i < stride.natAbs := fun i hi => by omega
        rw [add_assoc, add_assoc] at heq
        obtain ⟨rfl, -⟩ := row_unique (hin j hj) (hin j' hj') (add_left_cancel heq)
        exact absurd hk (Nat.not_succ_le_zero 0))
      have hset : {c : ℕ × ℕ | c.1 = 0 ∧ (c.2 : ℤ) < span} ∪
          {c | (1 ≤ c.1 ∧ c.1 < n + 1) ∧ (c.2 : ℤ) < span} =
          {c | c.1 < n + 1 ∧ (c.2 : ℤ) < span} := by
        ext c
        simp only [Set.mem_union, Set.mem_ofPred_eq]
        omega
      rwa [hset] at hall

/-! ### Rectangles -/

/-- The address of a byte of a pixel in the framebuffer. -/
def fbCell (fb : Framebuffer) : (ℕ × ℕ) × ℕ → ℤ := cell fb.offset0.toNat fb.pitch0.toNat 4

/-- The same in the client's buffer. -/
def clientCell (stride : ℤ) : (ℕ × ℕ) × ℕ → ℤ := cell 0 stride 4

/-- The offsets at which a rectangle starts, if it has any pixel, are the addresses of its first pixel. -/
def OffsetsExact (fb : Framebuffer) (stride : ℤ) (r : ClipRect) : Prop :=
  r.pixels.Nonempty → srcOffset fb r = fbCell fb ((r.x1.toNat, r.y1.toNat), 0) ∧
    dstOffset stride r = clientCell stride ((r.x1.toNat, r.y1.toNat), 0)

/-- The first pixel of the rectangle, if it has any, starts below `2 ^ 31` on both sides. -/
def CopyFits (fb : Framebuffer) (stride : ℕ) (r : ClipRect) : Prop :=
  r.pixels.Nonempty →
    fb.offset0.toNat + fb.pitch0.toNat * r.y1.toNat + 4 * r.x1.toNat < 2 ^ 31 ∧
    stride * r.y1.toNat + 4 * r.x1.toNat < 2 ^ 31

/-- Offsets that fit an `int` are exact. -/
theorem offsetsExact_of_fits {fb : Framebuffer} {stride : ℤ} {r : ClipRect}
    (hsrc : r.pixels.Nonempty →
      fb.offset0.toNat + fb.pitch0.toNat * r.y1.toNat + 4 * r.x1.toNat < 2 ^ 31)
    (hdst : r.pixels.Nonempty →
      -2 ^ 31 ≤ stride * r.y1.toNat + 4 * r.x1.toNat ∧ stride * r.y1.toNat + 4 * r.x1.toNat < 2 ^ 31) :
    OffsetsExact fb stride r := by
  intro hp
  obtain ⟨hlow, hhigh⟩ := hdst hp
  constructor
  · rw [srcOffset_eq (hsrc hp), fbCell, cell]
    push_cast
    ring
  · rw [dstOffset, mul_comm (r.x1.toNat : ℤ) 4, s32_of_bounds hlow hhigh, clientCell, cell]
    push_cast
    ring

theorem CopyFits.exact {fb : Framebuffer} {stride : ℕ} {r : ClipRect} (h : CopyFits fb stride r) :
    OffsetsExact fb stride r := by
  refine offsetsExact_of_fits (fun hp => (h hp).1) fun hp => ⟨?_, by exact_mod_cast (h hp).2⟩
  have hrow : (0 : ℤ) ≤ stride * r.y1.toNat := by positivity
  omega

section

variable {fb : Framebuffer} {stride : ℤ} {m : Memory} {u u' : UserRegion}

/-- Rows of the framebuffer, from a column to another, are a block of its pixels. -/
theorem copyBlock_overwrites {x1 x2 y1 n : ℕ} {src dst : ℤ} {P : Set Pixel}
    (hP : ∀ p : Pixel, p ∈ P ↔ (x1 ≤ p.1 ∧ p.1 < x2) ∧ y1 ≤ p.2 ∧ p.2 < y1 + n)
    (hstride : ((x2 : ℤ) - x1) * 4 ≤ stride.natAbs)
    (hoffsets : ∀ p ∈ P, src = fbCell fb ((x1, y1), 0) ∧ dst = clientCell stride ((x1, y1), 0))
    (h : copyRows m fb.pitch0.toNat stride (((x2 : ℤ) - x1) * 4) n src dst u = (u', false)) :
    Overwrites (clientCell stride) (fun c => m (fbCell fb c)) (cells 4 P) u.byte u'.byte := by
  refine (copyRows_overwrites hstride _ h).reindex
    (f := fun c => ((x1 + c.2 / 4, y1 + c.1), c.2 % 4)) ?_ ?_
  · rintro ⟨k, j⟩ ⟨hk, hj⟩
    have hk' : k < n := hk
    have hj' : (j : ℤ) < ((x2 : ℤ) - x1) * 4 := hj
    have hp : (x1 + j / 4, y1 + k) ∈ P := by
      rw [hP]
      omega
    obtain ⟨hsrc, hdst⟩ := hoffsets _ hp
    refine ⟨⟨hp, Nat.mod_lt _ (by norm_num)⟩, ?_, ?_⟩
    · rw [hdst]
      exact cell_shift _ _ _ _ _ _ _
    · rw [hsrc]
      exact congrArg m (cell_shift _ _ _ _ _ _ _)
  · rintro ⟨⟨x, y⟩, i⟩ ⟨hp, hi⟩
    obtain ⟨⟨hx1, hx2⟩, hy1, hy2⟩ := (hP _).1 hp
    have hx1' : x1 ≤ x := hx1
    have hx2' : x < x2 := hx2
    have hy1' : y1 ≤ y := hy1
    have hy2' : y < y1 + n := hy2
    have hi' : i < 4 := hi
    refine ⟨(y - y1, 4 * (x - x1) + i), ⟨?_, ?_⟩, ?_⟩
    · show y - y1 < n
      omega
    · show ((4 * (x - x1) + i : ℕ) : ℤ) < ((x2 : ℤ) - x1) * 4
      omega
    · have hcol : x1 + (4 * (x - x1) + i) / 4 = x := by omega
      have hrow : y1 + (y - y1) = y := by omega
      have hrem : (4 * (x - x1) + i) % 4 = i := by omega
      simp only [hcol, hrow, hrem]

/-- The rows of a rectangle of the framebuffer are its pixels. -/
theorem copyRect_overwrites {r : ClipRect} (hstride : 4 * fb.width.toNat ≤ stride.natAbs)
    (hexact : OffsetsExact fb stride r) (hx : r.x2.toNat ≤ fb.width.toNat)
    (h : copyRows m fb.pitch0.toNat stride (((r.x2.toNat : ℤ) - r.x1.toNat) * 4)
      (r.y2.toNat - r.y1.toNat) (srcOffset fb r) (dstOffset stride r) u = (u', false)) :
    Overwrites (clientCell stride) (fun c => m (fbCell fb c)) (cells 4 r.pixels)
      u.byte u'.byte := by
  refine copyBlock_overwrites (fun p => ?_) (by omega) (fun p hp => hexact ⟨p, hp⟩) h
  rw [ClipRect.mem_pixels]
  omega

/-- All rectangles: their pixels, which are pixels of the framebuffer, are those of the framebuffer
afterwards, and no other byte of the client's buffer has changed. -/
theorem copyRects_overwrites {rects : List ClipRect} (hstride : 4 * fb.width.toNat ≤ stride.natAbs)
    (hexact : ∀ r ∈ rects, OffsetsExact fb stride r)
    (h : copyRects fb m stride fb.width.toNat fb.height.toNat rects u = (u', 0)) :
    covered rects ⊆ fb.pixels ∧ Overwrites (clientCell stride) (fun c => m (fbCell fb c))
      (cells 4 (covered rects)) u.byte u'.byte := by
  induction rects generalizing u with
  | nil =>
    obtain rfl : u = u' := congrArg Prod.fst h
    have hnone : covered [] = ∅ := cover_nil
    rw [hnone]
    exact ⟨Set.empty_subset _, .refl_of_empty fun c hc => hc.1⟩
  | cons r rects ih =>
    have hfault : -EFAULT ≠ 0 := by decide
    rw [copyRects] at h
    split_ifs at h with hsize
    · exact absurd (congrArg Prod.snd h) hfault
    rw [not_or, not_lt, not_lt, Nat.cast_le, Nat.cast_le] at hsize
    rcases hrows : copyRows m fb.pitch0.toNat stride (((r.x2.toNat : ℤ) - r.x1.toNat) * 4)
      (r.y2.toNat - r.y1.toNat) (srcOffset fb r) (dstOffset stride r) u with ⟨u₁, fault⟩
    rw [hrows] at h
    cases fault with
    | true => exact absurd (congrArg Prod.snd h) hfault
    | false =>
      obtain ⟨hinside, hrest⟩ := ih (fun r hr => hexact r (List.mem_cons_of_mem _ hr)) h
      have hfirst := copyRect_overwrites hstride (hexact r List.mem_cons_self) hsize.1 hrows
      have hr : r.pixels ⊆ fb.pixels := fun p hp =>
        ⟨hp.1.2.trans_le hsize.1, hp.2.2.trans_le hsize.2⟩
      have hall := hfirst.union hrest (by
        intro c hc c' hc' heq
        obtain rfl := cell_injOn_natAbs hstride (hr hc.1).1 (hinside hc'.1).1 hc.2 hc'.2 heq
        rfl)
      have hcons : covered (r :: rects) = r.pixels ∪ covered rects := cover_cons _ _
      have hset : cells 4 r.pixels ∪ cells 4 (covered rects) = cells 4 (covered (r :: rects)) := by
        ext c
        simp only [hcons, cells, Set.mem_union, Set.mem_ofPred_eq, or_and_right]
      rw [hset] at hall
      exact ⟨hcons ▸ Set.union_subset hr hinside, hall⟩

end

/-! ### Grabs -/

/-- A size compared as `unsigned int` is the size. -/
theorem toInt_of_toUInt32_eq {x : Int32} {y : UInt32} (h : x.toUInt32 = y) (hy : y.toNat < 2 ^ 31) :
    x.toInt = y.toNat := by
  subst h
  have hbits : 2 * x.toBitVec.toNat < 2 ^ 32 := by
    rw [Int32.toNat_toBitVec]
    omega
  exact BitVec.toInt_eq_toNat_of_lt hbits

/-- **A successful grab** of a framebuffer that is not from xe, with cursor events enabled: the pixels of
its rectangles become those of the framebuffer, and no other byte of the client's buffer changes. -/
theorem grabpixCopy_overwrites {env : GrabEnv} {g : Grab} {d : Device} {stride : ℕ}
    (hfb : g.efb.Admitted) (hxe : g.efb.isFromXe = false) (hge : 4 * g.efb.width.toNat ≤ stride)
    (hfits : ∀ r ∈ g.dirtyRects, CopyFits g.efb stride r)
    (hstride : g.cmd.bufByteStride.toInt = stride) (hcursor : d.cursorEventsEnabled = true)
    (h : (painterGrabpixCopy env g d).ret = 0) :
    covered g.dirtyRects ⊆ g.efb.pixels ∧ Overwrites (clientCell stride)
      (fun c => (env.objects g.efb.obj).memory (fbCell g.efb c)) (cells 4 (covered g.dirtyRects))
      (env.user g.cmd.buffer).byte (painterGrabpixCopy env g d).buffer.byte := by
  have hgrab := (painterGrabpixCopy_ret_eq_zero env g d).1 h
  have hwidth : g.cmd.bufWidth.toInt = g.efb.width.toNat :=
    toInt_of_toUInt32_eq hgrab.width_eq (hfb.width_le.trans_lt (by norm_num))
  have hheight : g.cmd.bufHeight.toInt = g.efb.height.toNat :=
    toInt_of_toUInt32_eq hgrab.height_eq (hfb.height_le.trans_lt (by norm_num))
  have hcopy := hgrab.pixels_mapped
  rw [painterGrabpixCopy_of_grabbable d hgrab]
  simp only [hcursor, if_true]
  simp only [copyPrimaryPixels, hxe, hstride, hwidth, hheight, Bool.false_eq_true, if_false]
    at hcopy ⊢
  exact copyRects_overwrites (by rwa [Int.natAbs_natCast]) (fun r hr => (hfits r hr).exact)
    (Prod.ext rfl hcopy)

end Evdi
