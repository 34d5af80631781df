import Evdi.Properties.CopyBounds

/-!
# Composing the cursor

`evdi_cursor_compose_and_copy` writes one pixel for each position of its two loops that is on the
framebuffer.  The positions run over twice half the width and twice half the height of the image, so
that the last column of an image of odd width, and the last row of one of odd height, are left out.

* `Cursor.pixels`: the pixels of the framebuffer that the image is over;
* `CursorOverlaid`: what drawing the image over the framebuffer leaves in the client's buffer;
* `cursor_overlay_iff`: the composition does that when no odd last column or row is on the framebuffer.
-/

namespace Evdi

open Bytes Words Overwrite

/-! ### The image over the framebuffer -/

/-- The pixels of the framebuffer that the cursor's image is over. -/
def Cursor.pixels (cursor : Cursor) (fb : Framebuffer) : Set Pixel :=
  {p | p ∈ fb.pixels ∧
    (cursor.x.toInt ≤ p.1 ∧ (p.1 : ℤ) < cursor.x.toInt + cursor.width.toNat) ∧
    (cursor.y.toInt ≤ p.2 ∧ (p.2 : ℤ) < cursor.y.toInt + cursor.height.toNat)}

/-- The address in the cursor's object of the pixel of the image that is over `p`. -/
def Cursor.addrAt (cursor : Cursor) (p : Pixel) : ℤ :=
  4 * ((p.1 - cursor.x.toInt) + (p.2 - cursor.y.toInt) * cursor.width.toNat)

/-- The pixel of the framebuffer with the image's pixel over it. -/
def overlayAt (cursor : Cursor) (cursorMem : Memory) (fb : Framebuffer) (mem : Memory) (p : Pixel) :
    UInt32 :=
  blendAlpha (wordAt mem (fbCell fb (p, 0))) (wordAt cursorMem (cursor.addrAt p))

/-- The client's buffer has the image drawn over the framebuffer, and is otherwise as before. -/
structure CursorOverlaid (cursor : Cursor) (cursorMem : Memory) (fb : Framebuffer) (mem : Memory)
    (stride : ℕ) (before after : Memory) : Prop where
  composed : ∀ p ∈ cursor.pixels fb,
    wordAt after (clientCell stride (p, 0)) = overlayAt cursor cursorMem fb mem p
  frame : ∀ a, (∀ p ∈ cursor.pixels fb, ∀ k < 4, clientCell stride (p, k) ≠ a) → after a = before a

/-- The pixels that the loops reach. -/
def Cursor.evenPixels (cursor : Cursor) (fb : Framebuffer) : Set Pixel :=
  {p | p ∈ fb.pixels ∧
    (cursor.x.toInt ≤ p.1 ∧ (p.1 : ℤ) < cursor.x.toInt + (2 * (cursor.width.toNat / 2) : ℕ)) ∧
    (cursor.y.toInt ≤ p.2 ∧ (p.2 : ℤ) < cursor.y.toInt + (2 * (cursor.height.toNat / 2) : ℕ))}

theorem evenPixels_subset (cursor : Cursor) (fb : Framebuffer) :
    cursor.evenPixels fb ⊆ cursor.pixels fb := by
  rintro p ⟨hp, ⟨hx, hx'⟩, hy, hy'⟩
  refine ⟨hp, ⟨hx, ?_⟩, hy, ?_⟩ <;> omega

/-- Positions in terms of columns: `i = x + h` runs from 0 to `2 * h - 1`. -/
theorem mem_halfRange {h : ℕ} {x : ℤ} : x ∈ halfRange h ↔ -(h : ℤ) ≤ x ∧ x < h := by
  simp only [halfRange, List.mem_map, List.mem_range]
  constructor
  · rintro ⟨i, hi, rfl⟩
    omega
  · rintro ⟨hl, hu⟩
    exact ⟨(x + h).toNat, by omega, by omega⟩

/-! ### Words -/

theorem wordAt_of_bytes {m : Memory} {a : ℤ} {w : UInt32}
    (h : ∀ k < 4, m (a + (k : ℕ)) = wordBytes w (k : ℕ)) : wordAt m a = w := by
  have h0 := h 0 (by norm_num)
  have h1 := h 1 (by norm_num)
  have h2 := h 2 (by norm_num)
  have h3 := h 3 (by norm_num)
  have hbytes : [m a, m (a + 1), m (a + 2), m (a + 3)] = le 4 w.toNat := by
    norm_num [wordBytes] at h0 h1 h2 h3
    rw [h0, h1, h2, h3]
    rfl
  rw [wordAt, hbytes, ofLe_le]
  apply UInt32.toNat.inj
  have hw := w.toNat_lt
  rw [UInt32.toNat_ofNat']
  norm_num

/-- The first byte of a word. -/
theorem wordBytes_wordAt (m : Memory) (a : ℤ) : wordBytes (wordAt m a) 0 = m a := by
  have hlow : wordBytes (wordAt m a) 0 = UInt8.ofNat (wordAt m a).toNat := rfl
  rw [hlow, wordAt, UInt32.toNat_ofNat']
  apply UInt8.toNat.inj
  have ha := (m a).toNat_lt
  rw [UInt8.toNat_ofNat', ofLe]
  omega

/-! ### One position -/

/-- The image is smaller than `2 ^ 31` bytes, and so are the coordinates of its end. -/
structure Cursor.Placed (cursor : Cursor) : Prop where
  size_lt : 4 * (cursor.width.toNat * cursor.height.toNat) < 2 ^ 31
  x_lt : cursor.x.toInt + cursor.width.toNat < 2 ^ 31
  y_lt : cursor.y.toInt + cursor.height.toNat < 2 ^ 31

/-- Rows of four-byte pixels on both sides, the framebuffer within the 32 bits that the DRM core lets
through and the client's buffer below `2 ^ 31` bytes. -/
structure Composable (fb : Framebuffer) (stride : ℕ) : Prop where
  pitch_dvd : 4 ∣ fb.pitch0.toNat
  pitch_ge : 4 * fb.width.toNat ≤ fb.pitch0.toNat
  span_lt : fb.offset0.toNat + fb.pitch0.toNat * fb.height.toNat < 2 ^ 32
  stride_ge : 4 * fb.width.toNat ≤ stride
  buffer_lt : stride * fb.height.toNat < 2 ^ 31

section

variable {cursor : Cursor} {cursorMem mem : Memory} {fb : Framebuffer} {stride : ℕ}
  {u u' : UserRegion}

/-- The end of a pixel lies in its row. -/
theorem pixel_end_le {pitch : ℕ} (h : 4 * fb.width.toNat ≤ pitch) {p : Pixel} (hp : p ∈ fb.pixels) :
    pitch * p.2 + 4 * p.1 + 4 ≤ pitch * fb.height.toNat := by
  have hcol : 4 * (p.1 + 1) ≤ pitch := (Nat.mul_le_mul_left 4 hp.1).trans h
  have hrow : pitch * (p.2 + 1) ≤ pitch * fb.height.toNat := Nat.mul_le_mul_left _ hp.2
  rw [Nat.mul_succ] at hrow
  omega

/-- `is_pix_sane`. -/
theorem isPixSane_iff (hf : Composable fb stride) (x y : ℤ) :
    (x ≥ 0 ∧ y ≥ 0 ∧ x < s32 fb.width.toNat ∧ y < s32 fb.height.toNat) ↔
      ∃ p ∈ fb.pixels, (p.1 : ℤ) = x ∧ (p.2 : ℤ) = y := by
  have hpitch := fb.pitch0.toNat_lt
  have hge := hf.pitch_ge
  have hwidth : s32 fb.width.toNat = fb.width.toNat := s32_natCast (by omega)
  have hheight : 0 < fb.width.toNat → s32 fb.height.toNat = fb.height.toNat := by
    intro hpos
    have hrows : 1 * fb.height.toNat ≤ stride * fb.height.toNat :=
      Nat.mul_le_mul_right _ (by have := hf.stride_ge; omega)
    exact s32_natCast (by have := hf.buffer_lt; omega)
  constructor
  · rintro ⟨hx, hy, hxw, hyh⟩
    rw [hwidth] at hxw
    rw [hheight (by omega)] at hyh
    exact ⟨(x.toNat, y.toNat), ⟨by simpa using by omega, by simpa using by omega⟩, by simp [hx],
      by simp [hy]⟩
  · rintro ⟨p, ⟨hx, hy⟩, rfl, rfl⟩
    rw [hwidth, hheight (by omega)]
    exact ⟨Int.natCast_nonneg _, Int.natCast_nonneg _, by exact_mod_cast hx, by exact_mod_cast hy⟩

/-- Where the framebuffer's pixel is read. -/
theorem fbIndex_eq (hf : Composable fb stride) {p : Pixel} (hp : p ∈ fb.pixels) :
    (fb.offset0.toNat + 4 * (u32 (fb.pitch0.toNat / 4 * p.2 + p.1) : ℕ) : ℤ) = fbCell fb (p, 0) := by
  have hend := pixel_end_le hf.pitch_ge hp
  have hspan := hf.span_lt
  obtain ⟨q, hq⟩ := hf.pitch_dvd
  have hrow : fb.pitch0.toNat * p.2 = 4 * (q * p.2) := by rw [hq, mul_assoc]
  have hquot : fb.pitch0.toNat / 4 = q := by omega
  have hfit : u32 (q * p.2 + p.1) = q * p.2 + p.1 := Nat.mod_eq_of_lt (by omega)
  have hcast : (fb.pitch0.toNat : ℤ) * p.2 = 4 * (q * p.2) := by exact_mod_cast hrow
  rw [hquot, hfit, fbCell, cell, hcast]
  push_cast
  ring

/-- Where the composed pixel is written. -/
theorem cmdOffset_eq (hf : Composable fb stride) {p : Pixel} (hp : p ∈ fb.pixels) :
    s32 (stride * (p.2 : ℤ) + p.1 * (4 : ℕ)) = clientCell stride (p, 0) := by
  have hend := pixel_end_le hf.stride_ge hp
  have hlt := hf.buffer_lt
  have hcast : (stride * (p.2 : ℤ) + p.1 * (4 : ℕ)) = ((stride * p.2 + 4 * p.1 : ℕ) : ℤ) := by
    push_cast
    ring
  rw [hcast, s32_natCast (by omega), clientCell, cell]
  push_cast
  ring

/-- The coordinates of a position do not wrap. -/
theorem mousePix_eq {start : Int32} {length : UInt32} {x : ℤ}
    (h : start.toInt + length.toNat < 2 ^ 31) (hx : x ∈ halfRange (length.toNat / 2)) :
    s32 (start.toInt + x + (length.toNat / 2 : ℕ)) = start.toInt + (x + (length.toNat / 2 : ℕ)) := by
  have hlow := start.le_toInt
  rw [mem_halfRange] at hx
  rw [add_assoc]
  exact s32_of_bounds (by omega) (by omega)

/-- Where the image's pixel is read. -/
theorem cursorPix_eq (hc : cursor.Placed) {p : Pixel} {x y : ℤ}
    (hx : x ∈ halfRange (cursor.width.toNat / 2)) (hy : y ∈ halfRange (cursor.height.toNat / 2))
    (hpx : (p.1 : ℤ) = cursor.x.toInt + (x + (cursor.width.toNat / 2 : ℕ)))
    (hpy : (p.2 : ℤ) = cursor.y.toInt + (y + (cursor.height.toNat / 2 : ℕ))) :
    4 * s32 ((cursor.width.toNat / 2 : ℕ) + x +
      ((cursor.height.toNat / 2 : ℕ) + y) * cursor.width.toNat) = cursor.addrAt p := by
  rw [mem_halfRange] at hx hy
  have hsize := hc.size_lt
  have hcol : (p.1 : ℤ) - cursor.x.toInt = (cursor.width.toNat / 2 : ℕ) + x := by omega
  have hrow : (p.2 : ℤ) - cursor.y.toInt = (cursor.height.toNat / 2 : ℕ) + y := by omega
  rw [Cursor.addrAt, hcol, hrow]
  congr 1
  obtain ⟨i, hi⟩ := Int.eq_ofNat_of_zero_le (a := (cursor.width.toNat / 2 : ℕ) + x) (by omega)
  obtain ⟨j, hj⟩ := Int.eq_ofNat_of_zero_le (a := (cursor.height.toNat / 2 : ℕ) + y) (by omega)
  rw [hi, hj]
  have hj' : j + 1 ≤ cursor.height.toNat := by omega
  have hrows : cursor.width.toNat * (j + 1) ≤ cursor.width.toNat * cursor.height.toNat :=
    Nat.mul_le_mul_left _ hj'
  rw [Nat.mul_succ, mul_comm _ j] at hrows
  have hcast : (i : ℤ) + j * cursor.width.toNat = ((i + j * cursor.width.toNat : ℕ) : ℤ) := by
    push_cast
    rfl
  rw [hcast]
  exact s32_natCast (by omega)

/-- One position of the loops. -/
theorem composePixel_overwrites (hc : cursor.Placed) (hf : Composable fb stride) {x y : ℤ}
    (hx : x ∈ halfRange (cursor.width.toNat / 2)) (hy : y ∈ halfRange (cursor.height.toNat / 2))
    (h : composePixel cursor cursorMem fb mem stride 4 x y u = (u', false)) :
    Overwrites (clientCell stride)
      (fun c => wordBytes (overlayAt cursor cursorMem fb mem c.1) (c.2 : ℕ))
      (cells 4 {p | p ∈ fb.pixels ∧ (p.1 : ℤ) = cursor.x.toInt + (x + (cursor.width.toNat / 2 : ℕ)) ∧
        (p.2 : ℤ) = cursor.y.toInt + (y + (cursor.height.toNat / 2 : ℕ))}) u.byte u'.byte := by
  rw [composePixel] at h
  dsimp only at h
  rw [mousePix_eq hc.x_lt hx, mousePix_eq hc.y_lt hy] at h
  by_cases hsane : ∃ p ∈ fb.pixels,
      (p.1 : ℤ) = cursor.x.toInt + (x + (cursor.width.toNat / 2 : ℕ)) ∧
      (p.2 : ℤ) = cursor.y.toInt + (y + (cursor.height.toNat / 2 : ℕ))
  · rw [if_pos ((isPixSane_iff hf _ _).2 hsane)] at h
    obtain ⟨p, hp, hpx, hpy⟩ := hsane
    rw [cursorPix_eq hc hx hy hpx hpy, ← hpx, ← hpy, Int.toNat_natCast, Int.toNat_natCast,
      cmdOffset_eq hf hp, fbIndex_eq hf hp] at h
    refine (copyToUser_overwrites h).reindex (f := fun k => (p, k)) ?_ ?_
    · intro k hk
      have hk' : (k : ℤ) < 4 := hk
      refine ⟨⟨⟨hp, hpx, hpy⟩, by simpa using by omega⟩, ?_, ?_⟩
      · simp [clientCell, cell, add_assoc]
      · simp [overlayAt]
    · rintro ⟨q, k⟩ ⟨⟨hq, hqx, hqy⟩, hk⟩
      have hk' : k < 4 := hk
      refine ⟨k, by simpa using by omega, ?_⟩
      have hpq : p = q := Prod.ext (by exact_mod_cast hpx.trans hqx.symm)
        (by exact_mod_cast hpy.trans hqy.symm)
      rw [hpq]
  · rw [if_neg fun hpos => hsane ((isPixSane_iff hf _ _).1 hpos)] at h
    obtain rfl : u = u' := congrArg Prod.fst h
    exact .refl_of_empty fun c hc => hsane ⟨c.1, hc.1⟩

/-! ### The loops -/

/-- A loop whose positions overwrite cells of `T` that do not overlap overwrites all of them. -/
theorem composeLoop_overwrites {ι : Type*} {dst : ι → ℤ} {val : ι → UInt8} {T : Set ι}
    {body : ℤ → UserRegion → UserRegion × Bool} {S : ℤ → Set ι} {xs : List ℤ}
    (hT : ∀ c ∈ T, ∀ c' ∈ T, dst c = dst c' → c = c') (hS : ∀ x, S x ⊆ T)
    (hbody : ∀ x ∈ xs, ∀ u u', body x u = (u', false) →
      Overwrites dst val (S x) u.byte u'.byte)
    (h : composeLoop body xs u = (u', false)) :
    Overwrites dst val {c | ∃ x ∈ xs, c ∈ S x} u.byte u'.byte := by
  induction xs generalizing u with
  | nil =>
    obtain rfl : u = u' := congrArg Prod.fst h
    exact .refl_of_empty fun c hc => by simp at hc
  | cons x xs ih =>
    rw [composeLoop] at h
    rcases hx : body x u with ⟨u₁, fault⟩
    rw [hx] at h
    cases fault with
    | true => simp at h
    | false =>
      have hfirst := hbody x List.mem_cons_self u u₁ hx
      have hrest := ih (fun y hy => hbody y (List.mem_cons_of_mem _ hy)) h
      have hall := hfirst.union hrest (by
        rintro c hc c' ⟨y, -, hc'⟩ heq
        rw [hT c (hS x hc) c' (hS y hc') heq])
      have hset : S x ∪ {c | ∃ y ∈ xs, c ∈ S y} = {c | ∃ y ∈ x :: xs, c ∈ S y} := by
        ext c
        simp
      rwa [hset] at hall

/-- A loop does not fault when no position does. -/
theorem composeLoop_mapped {body : ℤ → UserRegion → UserRegion × Bool} {xs : List ℤ}
    (hbody : ∀ x ∈ xs, ∀ u, UserMapped u → (body x u).2 = false ∧ UserMapped (body x u).1)
    (hu : UserMapped u) :
    (composeLoop body xs u).2 = false ∧ UserMapped (composeLoop body xs u).1 := by
  induction xs generalizing u with
  | nil => exact ⟨rfl, hu⟩
  | cons x xs ih =>
    obtain ⟨hx, hxs⟩ := List.forall_mem_cons.1 hbody
    obtain ⟨hfault, hmapped⟩ := hx u hu
    rw [composeLoop]
    dsimp only
    rw [hfault, if_neg Bool.false_ne_true]
    exact ih hxs hmapped

/-- The two loops of `evdi_cursor_compose_and_copy`. -/
def composeLoops (cursor : Cursor) (cursorMem : Memory) (fb : Framebuffer) (mem : Memory)
    (stride : ℤ) (u : UserRegion) : UserRegion × Bool :=
  composeLoop (fun y => composeLoop
    (fun x => composePixel cursor cursorMem fb mem stride 4 x y)
    (halfRange (cursor.width.toNat / 2))) (halfRange (cursor.height.toNat / 2)) u

/-- No two bytes of pixels share an address. -/
theorem clientCell_injOn (hf : Composable fb stride) {P : Set Pixel} (hP : P ⊆ fb.pixels)
    {c c' : Pixel × ℕ} (hc : c ∈ cells 4 P) (hc' : c' ∈ cells 4 P)
    (h : clientCell stride c = clientCell stride c') : c = c' :=
  cell_injOn hf.stride_ge (hP hc.1).1 (hP hc'.1).1 hc.2 hc'.2 h

/-- **The loops**, when no copy faults: the pixels they reach are composed, and no other byte of the
client's buffer changes. -/
theorem composeLoops_overwrites (hc : cursor.Placed) (hf : Composable fb stride)
    (h : composeLoops cursor cursorMem fb mem stride u = (u', false)) :
    Overwrites (clientCell stride)
      (fun c => wordBytes (overlayAt cursor cursorMem fb mem c.1) (c.2 : ℕ))
      (cells 4 (cursor.evenPixels fb)) u.byte u'.byte := by
  have hinj := fun c hc c' hc' => @clientCell_injOn fb stride hf fb.pixels subset_rfl c c' hc hc'
  have hrow : ∀ y ∈ halfRange (cursor.height.toNat / 2), ∀ u u',
      composeLoop (fun x => composePixel cursor cursorMem fb mem stride 4 x y)
        (halfRange (cursor.width.toNat / 2)) u = (u', false) →
      Overwrites (clientCell stride)
        (fun c => wordBytes (overlayAt cursor cursorMem fb mem c.1) (c.2 : ℕ))
        {c | ∃ x ∈ halfRange (cursor.width.toNat / 2), c ∈ cells 4 {p | p ∈ fb.pixels ∧
          (p.1 : ℤ) = cursor.x.toInt + (x + (cursor.width.toNat / 2 : ℕ)) ∧
          (p.2 : ℤ) = cursor.y.toInt + (y + (cursor.height.toNat / 2 : ℕ))}} u.byte u'.byte := by
    intro y hy u u' hloop
    refine composeLoop_overwrites hinj (fun x c hx => ⟨hx.1.1, hx.2⟩) ?_ hloop
    exact fun x hx u u' hpixel => composePixel_overwrites hc hf hx hy hpixel
  have hall := composeLoop_overwrites hinj (by
    rintro y c ⟨x, -, hc⟩
    exact ⟨hc.1.1, hc.2⟩) hrow h
  refine hall.reindex (f := id) ?_ ?_
  · rintro ⟨p, k⟩ ⟨y, hy, x, hx, ⟨hp, hpx, hpy⟩, hk⟩
    rw [mem_halfRange] at hx hy
    have hpx' : (p.1 : ℤ) = cursor.x.toInt + (x + (cursor.width.toNat / 2 : ℕ)) := hpx
    have hpy' : (p.2 : ℤ) = cursor.y.toInt + (y + (cursor.height.toNat / 2 : ℕ)) := hpy
    have heven : p ∈ cursor.evenPixels fb :=
      ⟨hp, ⟨by omega, by omega⟩, by omega, by omega⟩
    exact ⟨⟨heven, hk⟩, rfl, rfl⟩
  · rintro ⟨p, k⟩ ⟨⟨hp, ⟨hx, hx'⟩, hy, hy'⟩, hk⟩
    have hmem : ∀ (start : Int32) (length q : ℕ), start.toInt ≤ q →
        (q : ℤ) < start.toInt + (2 * (length / 2) : ℕ) →
        (q : ℤ) - start.toInt - (length / 2 : ℕ) ∈ halfRange (length / 2) := by
      intro start length q hl hu
      rw [mem_halfRange]
      omega
    refine ⟨(p, k), ⟨_, hmem _ _ _ hy hy', _, hmem _ _ _ hx hx', ⟨hp, ?_, ?_⟩, hk⟩, rfl⟩
    · show (p.1 : ℤ) = _
      ring
    · show (p.2 : ℤ) = _
      ring

/-- A position does not fault when all of the client's memory is mapped. -/
theorem composePixel_mapped (stride : ℤ) (bytespp : ℕ) (x y : ℤ) (hu : UserMapped u) :
    (composePixel cursor cursorMem fb mem stride bytespp x y u).2 = false ∧
      UserMapped (composePixel cursor cursorMem fb mem stride bytespp x y u).1 := by
  rw [composePixel]
  dsimp only
  split_ifs
  · refine ⟨copyToUser_mapped (by norm_num) fun a _ _ => hu a, fun a => ?_⟩
    rw [copyToUser_fst_mapped]
    exact hu a
  · exact ⟨rfl, hu⟩

/-- Neither do the loops. -/
theorem composeLoops_mapped (hu : UserMapped u) :
    (composeLoops cursor cursorMem fb mem stride u).2 = false := by
  refine (composeLoop_mapped (fun y _ u hu => ?_) hu).1
  exact composeLoop_mapped (fun x _ u hu => composePixel_mapped stride 4 x y hu) hu

/-! ### The composition -/

/-- With its checks passed, the composition is its loops. -/
theorem cursorComposeAndCopy_eq {drmFormatInfo : UInt32 → Option DrmFormatInfo} {obj : GemRef}
    {cursorObj : GemObject} (henabled : cursor.enabled = true) (hobj : cursor.obj = some obj)
    (hmapped : cursorObj.vmapped = true) (hformat : fbGetBpp drmFormatInfo cursor.pixelFormat = 32)
    (hsize : (cursor.width * cursor.height * 4).toNat ≤ obj.size) (stride : ℤ) (u : UserRegion) :
    cursorComposeAndCopy drmFormatInfo cursor cursorObj fb mem u stride =
      let loops := composeLoops cursor cursorObj.memory fb mem stride u
      (loops.1, if loops.2 then -EFAULT else 0) := by
  have hbytes : ¬ (cursor.width * cursor.height * UInt32.ofNat ((32 + 7) / 8)).toNat > obj.size :=
    not_lt.2 hsize
  rw [cursorComposeAndCopy]
  simp only [henabled, hobj, hmapped, hformat, if_neg hbytes, Bool.not_true, Bool.false_eq_true,
    if_false]
  rfl

/-- What is overwritten with words has them. -/
theorem cursorOverlaid_of_overwrites {b b' : Memory} (h : Overwrites (clientCell stride)
      (fun c => wordBytes (overlayAt cursor cursorMem fb mem c.1) (c.2 : ℕ))
      (cells 4 (cursor.pixels fb)) b b') :
    CursorOverlaid cursor cursorMem fb mem stride b b' where
  composed := by
    intro p hp
    refine wordAt_of_bytes fun k hk => ?_
    have hcell : clientCell stride (p, 0) + (k : ℕ) = clientCell stride (p, k) := by
      simp [clientCell, cell, add_assoc]
    rw [hcell]
    exact h.fresh (p, k) ⟨hp, hk⟩
  frame := fun a ha => h.frame a fun c hc => ha c.1 hc.1 c.2 hc.2

/-- **Cursor composition equals overlay** exactly when no pixel of the framebuffer is under the last
column of an image of odd width, or under the last row of one of odd height. -/
theorem cursor_overlay_iff {drmFormatInfo : UInt32 → Option DrmFormatInfo} {obj : GemRef}
    {cursorObj : GemObject} (henabled : cursor.enabled = true) (hobj : cursor.obj = some obj)
    (hmapped : cursorObj.vmapped = true) (hformat : fbGetBpp drmFormatInfo cursor.pixelFormat = 32)
    (hsize : 4 * (cursor.width.toNat * cursor.height.toNat) ≤ obj.size) (hc : cursor.Placed)
    (hf : Composable fb stride) :
    (∀ u u', cursorComposeAndCopy drmFormatInfo cursor cursorObj fb mem u stride = (u', 0) →
      CursorOverlaid cursor cursorObj.memory fb mem stride u.byte u'.byte) ↔
    ∀ p ∈ cursor.pixels fb,
      (Odd cursor.width.toNat → (p.1 : ℤ) ≠ cursor.x.toInt + cursor.width.toNat - 1) ∧
      (Odd cursor.height.toNat → (p.2 : ℤ) ≠ cursor.y.toInt + cursor.height.toNat - 1) := by
  have hguard : (cursor.width * cursor.height * 4).toNat ≤ obj.size := by
    have hlt := hc.size_lt
    refine le_trans ?_ hsize
    rw [UInt32.toNat_mul, UInt32.toNat_mul]
    refine (Nat.mod_le _ _).trans ?_
    rw [mul_comm 4]
    exact Nat.mul_le_mul_right _ (Nat.mod_le _ _)
  have heven : ∀ p ∈ cursor.pixels fb, p ∈ cursor.evenPixels fb ↔
      (Odd cursor.width.toNat → (p.1 : ℤ) ≠ cursor.x.toInt + cursor.width.toNat - 1) ∧
      (Odd cursor.height.toNat → (p.2 : ℤ) ≠ cursor.y.toInt + cursor.height.toNat - 1) := by
    rintro p ⟨hp, ⟨hx, hx'⟩, hy, hy'⟩
    rw [Nat.odd_iff, Nat.odd_iff]
    constructor
    · rintro ⟨-, ⟨-, hx''⟩, -, hy''⟩
      omega
    · rintro ⟨hcol, hrow⟩
      exact ⟨hp, ⟨hx, by omega⟩, hy, by omega⟩
  simp only [cursorComposeAndCopy_eq henabled hobj hmapped hformat hguard]
  constructor
  · intro hall p hp
    rw [← heven p hp]
    by_contra hodd
    -- a buffer of which no byte is the one to be written
    let byte := wordBytes (overlayAt cursor cursorObj.memory fb mem p) 0
    let u : UserRegion := ⟨fun _ => byte + 1, fun _ => true⟩
    have hdone := @composeLoops_mapped cursor cursorObj.memory mem fb stride u fun _ => rfl
    have hwrites := composeLoops_overwrites hc hf (Prod.ext rfl hdone)
    have hoverlaid := hall u _ (Prod.ext rfl (by rw [hdone, if_neg Bool.false_ne_true]))
    have hkept := hwrites.frame (clientCell stride (p, 0)) fun c hcell heq => by
      obtain rfl : c = (p, 0) := clientCell_injOn hf (P := fb.pixels) subset_rfl
        ⟨hcell.1.1, hcell.2⟩ ⟨hp.1, by norm_num⟩ heq
      exact hodd hcell.1
    have hword := congrArg (wordBytes · 0) (hoverlaid.composed p hp)
    rw [wordBytes_wordAt, hkept] at hword
    exact absurd hword (by simp [u, byte])
  · intro hcond u u' h
    have hdone : (composeLoops cursor cursorObj.memory fb mem stride u).2 = false := by
      by_contra hfault
      rw [Bool.not_eq_false] at hfault
      rw [hfault, if_pos rfl] at h
      exact absurd (congrArg Prod.snd h) (by decide : ¬ -EFAULT = 0)
    have hpixels : cursor.evenPixels fb = cursor.pixels fb :=
      (evenPixels_subset cursor fb).antisymm fun p hp => (heven p hp).2 (hcond p hp)
    have hwrites := composeLoops_overwrites hc hf (Prod.ext rfl hdone)
    rw [hpixels] at hwrites
    obtain rfl := congrArg Prod.fst h
    exact cursorOverlaid_of_overwrites hwrites

end

/-- A cursor at the upper left corner, with an object of one page. -/
def Cursor.sample (width height : UInt32) : Cursor :=
  { Cursor.init with
    enabled := true
    width := width
    height := height
    pixelFormat := 0x34325241
    stride := 4 * width
    obj := some ⟨3, 4096, none, false⟩ }

/-- The object of a cursor: mapped, and white. -/
def GemObject.sampleWhite : GemObject := ⟨⟨3, 4096, none, false⟩, some [0], 1, true, fun _ => 255⟩

/-- The composition of a white cursor over a black framebuffer, in a black buffer. -/
def Cursor.sampleCompose (cursor : Cursor) : UserRegion × ℤ :=
  cursorComposeAndCopy (fun format => some ⟨format, 4⟩) cursor .sampleWhite (.sample 1 64 64 256)
    (fun _ => 0) (sampleUser 0) 256

/-- An image of two by two pixels is drawn. -/
theorem cursor_overlay_even :
    CursorOverlaid (.sample 2 2) (fun _ => 255) (.sample 1 64 64 256) (fun _ => 0) 256 (fun _ => 0)
      (Cursor.sample 2 2).sampleCompose.1.byte :=
  (@cursor_overlay_iff (.sample 2 2) _ _ 256 (fun format => some ⟨format, 4⟩) _ .sampleWhite rfl rfl
    rfl rfl (by decide)
    ⟨by decide, by decide, by decide⟩ ⟨by decide, by decide, by decide, by decide, by decide⟩).2
    (fun p _ => ⟨fun h => absurd h (by decide), fun h => absurd h (by decide)⟩) (sampleUser 0) _
    (Prod.ext rfl (by decide +kernel))

/-- An image of one pixel is left out. -/
theorem cursor_overlay_odd :
    (Cursor.sample 1 1).sampleCompose = (sampleUser 0, 0) ∧
      ¬ CursorOverlaid (.sample 1 1) (fun _ => 255) (.sample 1 64 64 256) (fun _ => 0) 256
        (fun _ => 0) (Cursor.sample 1 1).sampleCompose.1.byte := by
  have hnone : (Cursor.sample 1 1).sampleCompose = (sampleUser 0, 0) := rfl
  refine ⟨hnone, fun h => ?_⟩
  have hpixel : (0, 0) ∈ (Cursor.sample 1 1).pixels (.sample 1 64 64 256) :=
    ⟨⟨by decide, by decide⟩, ⟨by decide, by decide⟩, by decide, by decide⟩
  have hword := h.composed _ hpixel
  rw [hnone] at hword
  exact absurd hword (by decide)

end Evdi
