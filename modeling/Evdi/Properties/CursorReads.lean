import Evdi.Properties.CursorOverlay

/-!
# What composing the cursor reads

The loops of `evdi_cursor_compose_and_copy` read one word of the cursor's object for each position that
is on the framebuffer.  The check before them multiplies width, height and pixel size in 32 bits.

* `composeReads`: the indices that the loops read, in order, up to the first fault;
* `composeLoops_congr`: the composition depends on these words only;
* `cursor_reads_inside_iff`: they lie in the object, wherever the cursor is, exactly when the last of them
  does.
-/

namespace Evdi

open Bytes Words

/-- `cursor_pix` at a position of the loops. -/
def Cursor.pix (cursor : Cursor) (x y : ℤ) : ℤ :=
  s32 ((cursor.width.toNat / 2 : ℕ) + x +
    ((cursor.height.toNat / 2 : ℕ) + y) * cursor.width.toNat)

/-- `is_pix_sane` at a position of the loops. -/
def Cursor.isPixSane (cursor : Cursor) (fb : Framebuffer) (x y : ℤ) : Bool :=
  let mousePixX := s32 (cursor.x.toInt + x + (cursor.width.toNat / 2 : ℕ))
  let mousePixY := s32 (cursor.y.toInt + y + (cursor.height.toNat / 2 : ℕ))
  mousePixX ≥ 0 ∧ mousePixY ≥ 0 ∧ mousePixX < s32 fb.width.toNat ∧ mousePixY < s32 fb.height.toNat

/-- The indices read by a loop, given those that its positions read, up to the first fault. -/
def composeLoopReads (body : ℤ → UserRegion → UserRegion × Bool) (reads : ℤ → UserRegion → List ℤ) :
    List ℤ → UserRegion → List ℤ
  | [], _ => []
  | x :: xs, u =>
    reads x u ++ if (body x u).2 then [] else composeLoopReads body reads xs (body x u).1

/-- The index read at a position of the loops, if it is on the framebuffer. -/
def composePixelReads (cursor : Cursor) (fb : Framebuffer) (x y : ℤ) : List ℤ :=
  if cursor.isPixSane fb x y then [cursor.pix x y] else []

/-- The indices read by the two loops of `evdi_cursor_compose_and_copy`. -/
def composeReads (cursor : Cursor) (cursorMem : Memory) (fb : Framebuffer) (mem : Memory)
    (stride : ℤ) (u : UserRegion) : List ℤ :=
  let pixel := fun x y => composePixel cursor cursorMem fb mem stride 4 x y
  let xs := halfRange (cursor.width.toNat / 2)
  composeLoopReads (fun y => composeLoop (pixel · y) xs)
    (fun y => composeLoopReads (pixel · y) (fun x _ => composePixelReads cursor fb x y) xs)
    (halfRange (cursor.height.toNat / 2)) u

section

variable {body body' : ℤ → UserRegion → UserRegion × Bool} {reads : ℤ → UserRegion → List ℤ}
  {xs : List ℤ} {u : UserRegion} {k : ℤ}

theorem exists_of_mem_composeLoopReads (h : k ∈ composeLoopReads body reads xs u) :
    ∃ x ∈ xs, ∃ u, k ∈ reads x u := by
  induction xs generalizing u with
  | nil => simp [composeLoopReads] at h
  | cons x xs ih =>
    rw [composeLoopReads, List.mem_append] at h
    rcases h with h | h
    · exact ⟨x, List.mem_cons_self, u, h⟩
    · split_ifs at h
      · simp at h
      · obtain ⟨y, hy, hk⟩ := ih h
        exact ⟨y, List.mem_cons_of_mem _ hy, hk⟩

/-- Without a fault, all positions are reached. -/
theorem mem_composeLoopReads
    (hbody : ∀ x ∈ xs, ∀ u, UserMapped u → (body x u).2 = false ∧ UserMapped (body x u).1)
    {x : ℤ} (hx : x ∈ xs) (hk : ∀ u, UserMapped u → k ∈ reads x u) (hu : UserMapped u) :
    k ∈ composeLoopReads body reads xs u := by
  induction xs generalizing u with
  | nil => simp at hx
  | cons y ys ih =>
    obtain ⟨hy, hys⟩ := List.forall_mem_cons.1 hbody
    rw [composeLoopReads, List.mem_append]
    rcases List.mem_cons.1 hx with rfl | hx
    · exact .inl (hk u hu)
    · right
      rw [(hy u hu).1, if_neg Bool.false_ne_true]
      exact ih hys hx (hy u hu).2

/-- A loop that reads values with the property `G` only is as good as one whose positions are the same on
such values. -/
theorem composeLoop_congr {G : ℤ → Prop}
    (hbody : ∀ x ∈ xs, ∀ u, (∀ k ∈ reads x u, G k) → body x u = body' x u)
    (hG : ∀ k ∈ composeLoopReads body reads xs u, G k) :
    composeLoop body xs u = composeLoop body' xs u := by
  induction xs generalizing u with
  | nil => rfl
  | cons x xs ih =>
    obtain ⟨hx, hxs⟩ := List.forall_mem_cons.1 hbody
    rw [composeLoopReads, List.forall_mem_append] at hG
    obtain ⟨hhere, hrest⟩ := hG
    rw [composeLoop, composeLoop, ← hx u hhere]
    dsimp only
    split_ifs with hfault
    · rfl
    · rw [if_neg hfault] at hrest
      exact ih hxs hrest

end

section

variable {cursor : Cursor} {cursorMem cursorMem' mem : Memory} {fb : Framebuffer} {stride : ℤ}
  {u : UserRegion} {k : ℤ}

/-- One position, in terms of `cursor_pix`. -/
theorem composePixel_eq (bytespp : ℕ) (x y : ℤ) :
    composePixel cursor cursorMem fb mem stride bytespp x y u =
      if cursor.isPixSane fb x y then
        let mousePixX := s32 (cursor.x.toInt + x + (cursor.width.toNat / 2 : ℕ))
        let mousePixY := s32 (cursor.y.toInt + y + (cursor.height.toNat / 2 : ℕ))
        copyToUser u (s32 (stride * mousePixY + mousePixX * bytespp))
          (wordBytes (blendAlpha
            (wordAt mem (fb.offset0.toNat +
              4 * (u32 (fb.pitch0.toNat / 4 * mousePixY.toNat + mousePixX.toNat) : ℕ)))
            (wordAt cursorMem (4 * cursor.pix x y)))) 0 4
      else (u, false) := by
  simp only [Cursor.isPixSane, decide_eq_true_eq]
  rfl

/-- **The composition reads nothing else** of the cursor's object. -/
theorem composeLoops_congr (h : ∀ k ∈ composeReads cursor cursorMem fb mem stride u,
    wordAt cursorMem (4 * k) = wordAt cursorMem' (4 * k)) :
    composeLoops cursor cursorMem fb mem stride u = composeLoops cursor cursorMem' fb mem stride u := by
  refine composeLoop_congr (G := fun k => wordAt cursorMem (4 * k) = wordAt cursorMem' (4 * k))
    (fun y _ u hrow => composeLoop_congr (fun x _ u hpixel => ?_) hrow) h
  rw [composePixel_eq, composePixel_eq]
  split_ifs with hsane
  · have hword := hpixel (cursor.pix x y) (by simp [composePixelReads, hsane])
    simp only [hword]
  · rfl

/-- What is read is the index of some position. -/
theorem exists_of_mem_composeReads (h : k ∈ composeReads cursor cursorMem fb mem stride u) :
    ∃ x ∈ halfRange (cursor.width.toNat / 2), ∃ y ∈ halfRange (cursor.height.toNat / 2),
      cursor.isPixSane fb x y = true ∧ k = cursor.pix x y := by
  obtain ⟨y, hy, u, h⟩ := exists_of_mem_composeLoopReads h
  obtain ⟨x, hx, u, h⟩ := exists_of_mem_composeLoopReads h
  rw [composePixelReads] at h
  split_ifs at h with hsane
  · exact ⟨x, hx, y, hy, hsane, List.mem_singleton.1 h⟩
  · simp at h

/-- Without a fault, the index of each position on the framebuffer is read. -/
theorem mem_composeReads {x y : ℤ} (hx : x ∈ halfRange (cursor.width.toNat / 2))
    (hy : y ∈ halfRange (cursor.height.toNat / 2)) (hsane : cursor.isPixSane fb x y = true)
    (hu : UserMapped u) : cursor.pix x y ∈ composeReads cursor cursorMem fb mem stride u := by
  refine mem_composeLoopReads (fun y _ u hu => ?_) hy (fun u hu => ?_) hu
  · exact composeLoop_mapped (fun x _ u hu => composePixel_mapped stride 4 x y hu) hu
  · refine mem_composeLoopReads (fun x _ u hu => composePixel_mapped stride 4 x y hu) hx (fun u _ => ?_) hu
    simp [composePixelReads, hsane]

end

/-! ### The checks -/

/-- The cursor gets past the checks of `evdi_cursor_compose_and_copy`. -/
structure Cursor.PassesChecks (drmFormatInfo : UInt32 → Option DrmFormatInfo) (cursor : Cursor)
    (obj : GemRef) (cursorObj : GemObject) : Prop where
  enabled : cursor.enabled = true
  obj_eq : cursor.obj = some obj
  vmapped : cursorObj.vmapped = true
  bytespp : (fbGetBpp drmFormatInfo cursor.pixelFormat + 7) / 8 = 4
  size : (cursor.width * cursor.height * 4).toNat ≤ obj.size

/-- The indices that `evdi_cursor_compose_and_copy` reads. -/
def cursorReads (drmFormatInfo : UInt32 → Option DrmFormatInfo) (cursor : Cursor)
    (cursorObj : GemObject) (fb : Framebuffer) (mem : Memory) (u : UserRegion) (stride : ℤ) : List ℤ :=
  let bytespp := (fbGetBpp drmFormatInfo cursor.pixelFormat + 7) / 8
  if !cursor.enabled then []
  else match cursor.obj with
  | none => []
  | some obj =>
    if !cursorObj.vmapped then []
    else if bytespp ≠ 4 then []
    else if (cursor.width * cursor.height * UInt32.ofNat bytespp).toNat > obj.size then []
    else composeReads cursor cursorObj.memory fb mem stride u

/-- Without its odd last column and row, the image ends in the object, and below `2 ^ 31` pixels. -/
def Cursor.EvenPartInside (cursor : Cursor) (size : ℕ) : Prop :=
  let w := 2 * (cursor.width.toNat / 2)
  let h := 2 * (cursor.height.toNat / 2)
  w = 0 ∨ h = 0 ∨
    (4 * ((h - 1) * cursor.width.toNat + w) ≤ size ∧ (h - 1) * cursor.width.toNat + w ≤ 2 ^ 31)

section

variable {drmFormatInfo : UInt32 → Option DrmFormatInfo} {cursor : Cursor} {cursorObj : GemObject}
  {fb : Framebuffer} {mem : Memory} {u : UserRegion} {stride : ℤ} {obj : GemRef}

theorem cursorReads_of_passesChecks (h : cursor.PassesChecks drmFormatInfo obj cursorObj) :
    cursorReads drmFormatInfo cursor cursorObj fb mem u stride =
      composeReads cursor cursorObj.memory fb mem stride u := by
  have hsize : ¬ (cursor.width * cursor.height * UInt32.ofNat 4).toNat > obj.size := not_lt.2 h.size
  simp only [cursorReads, h.enabled, h.obj_eq, h.vmapped, h.bytespp, if_neg hsize, Bool.not_true,
    Bool.false_eq_true, ne_eq, not_true_eq_false, if_false]

/-- A cursor that is refused is not read. -/
theorem cursorReads_of_not_passesChecks (hobj : cursor.obj = some obj)
    (h : ¬ cursor.PassesChecks drmFormatInfo obj cursorObj) :
    cursorReads drmFormatInfo cursor cursorObj fb mem u stride = [] := by
  rw [cursorReads, hobj]
  dsimp only
  split_ifs with henabled hmapped hbytespp hsize
  · rfl
  · rfl
  · rfl
  · rfl
  · rw [not_not] at hbytespp
    rw [hbytespp] at hsize
    exact absurd ⟨by simpa using henabled, hobj, by simpa using hmapped, hbytespp,
      not_lt.1 hsize⟩ h

/-- The cursor somewhere else. -/
def Cursor.moved (cursor : Cursor) (x y : Int32) : Cursor := { cursor with x := x, y := y }

theorem passesChecks_moved (x y : Int32) : (cursor.moved x y).PassesChecks drmFormatInfo obj cursorObj ↔
    cursor.PassesChecks drmFormatInfo obj cursorObj :=
  ⟨fun h => ⟨h.1, h.2, h.3, h.4, h.5⟩, fun h => ⟨h.1, h.2, h.3, h.4, h.5⟩⟩

/-- Every pixel of the image can be brought to the upper left corner of the framebuffer. -/
theorem exists_isPixSane (cursor : Cursor) (x y : ℤ) :
    ∃ x₀ y₀ : Int32, (cursor.moved x₀ y₀).isPixSane (.sample 1 64 64 256) x y = true := by
  have hcorner : ∀ i : ℤ, s32 ((Int32.ofInt (-i)).toInt + i) = 0 := by
    intro i
    have hwrap : s32 ((Int32.ofInt (-i)).toInt + i) = s32 (-i + i) := by
      rw [Int32.toInt_ofInt]
      exact Int.bmod_add_bmod
    rw [hwrap, neg_add_cancel]
    rfl
  refine ⟨.ofInt (-(x + (cursor.width.toNat / 2 : ℕ))),
    .ofInt (-(y + (cursor.height.toNat / 2 : ℕ))), ?_⟩
  rw [Cursor.isPixSane, Cursor.moved]
  simp only [add_assoc, hcorner]
  decide

/-- The index of a pixel of the image, by its column and row. -/
theorem pix_of_columns (cursor : Cursor) (i j : ℕ) :
    cursor.pix (i - (cursor.width.toNat / 2 : ℕ)) (j - (cursor.height.toNat / 2 : ℕ)) =
      s32 (i + j * cursor.width.toNat : ℕ) := by
  rw [Cursor.pix]
  push_cast
  congr 1
  ring

theorem exists_of_mem_halfRange {h : ℕ} {x : ℤ} (hx : x ∈ halfRange h) :
    ∃ i < 2 * h, x = (i : ℤ) - (h : ℕ) := by
  rw [mem_halfRange] at hx
  exact ⟨(x + h).toNat, by omega, by omega⟩

theorem mem_halfRange_of_lt {h i : ℕ} (hi : i < 2 * h) : (i : ℤ) - (h : ℕ) ∈ halfRange h := by
  rw [mem_halfRange]
  omega

/-- The pixels before the last one come before it in memory. -/
theorem Cursor.EvenPartInside.index {size i j : ℕ} (h : cursor.EvenPartInside size)
    (hi : i < 2 * (cursor.width.toNat / 2)) (hj : j < 2 * (cursor.height.toNat / 2)) :
    4 * (i + j * cursor.width.toNat) + 4 ≤ size ∧ i + j * cursor.width.toNat < 2 ^ 31 := by
  have hrow : j * cursor.width.toNat ≤
      (2 * (cursor.height.toNat / 2) - 1) * cursor.width.toNat :=
    Nat.mul_le_mul_right _ (by omega)
  rcases h with hw | hh | ⟨hsize, hlt⟩
  · omega
  · omega
  · omega

/-- When the last pixel does not lie in the object, some pixel that can be read does not either: the last
one itself, or the first whose index is no `int`. -/
theorem exists_pixel_outside {size : ℕ} (h : ¬ cursor.EvenPartInside size) :
    ∃ i < 2 * (cursor.width.toNat / 2), ∃ j < 2 * (cursor.height.toNat / 2),
      ¬ (0 ≤ s32 (i + j * cursor.width.toNat : ℕ) ∧
        4 * s32 (i + j * cursor.width.toNat : ℕ) + 4 ≤ size) := by
  simp only [Cursor.EvenPartInside, not_or] at h
  obtain ⟨hw, hh, hlast⟩ := h
  generalize cursor.width.toNat = w at hw hlast ⊢
  generalize hh' : 2 * (cursor.height.toNat / 2) = h' at hh hlast ⊢
  by_cases hlt : (h' - 1) * w + 2 * (w / 2) ≤ 2 ^ 31
  · refine ⟨2 * (w / 2) - 1, by omega, h' - 1, by omega, fun hinside => hlast ⟨?_, hlt⟩⟩
    rw [s32_natCast (by omega)] at hinside
    omega
  · have hneg : ∀ n : ℕ, 2 ^ 31 ≤ n → n ≤ 2 ^ 31 + 1 → ¬ 0 ≤ s32 (n : ℕ) := by
      intro n hl hu hpos
      have hwrapped := s32_le_sub (z := n) (by exact_mod_cast hl)
      omega
    have hdiv := Nat.div_add_mod (2 ^ 31) w
    have hmod : 2 ^ 31 % w < w := Nat.mod_lt _ (by omega)
    generalize 2 ^ 31 / w = q at hdiv
    generalize 2 ^ 31 % w = r at hdiv hmod
    rw [mul_comm] at hdiv
    by_cases hr : r < 2 * (w / 2)
    · refine ⟨r, hr, q, ?_, fun hinside => hneg _ (by omega) (by omega) hinside.1⟩
      by_contra hq
      have hrows : (h' - 1 + 1) * w ≤ q * w := Nat.mul_le_mul_right _ (by omega)
      rw [Nat.succ_mul] at hrows
      omega
    · -- the odd last column is never read: the first pixel of the next row
      have hnext : (q + 1) * w = 2 ^ 31 + 1 := by
        rw [Nat.succ_mul]
        omega
      refine ⟨0, by omega, q + 1, ?_, fun hinside => hneg _ (by omega) (by omega) hinside.1⟩
      by_contra hq
      have hrows : (h' - 1) * w ≤ q * w := Nat.mul_le_mul_right _ (by omega)
      omega

/-- **Cursor reads stay in the cursor object**, wherever the cursor is and whatever the size of the
framebuffer, exactly when the cursor is refused or the last pixel that can be read lies in the object. -/
theorem cursor_reads_inside_iff (hobj : cursor.obj = some obj) :
    (∀ (x y : Int32) (fb : Framebuffer) (mem : Memory) (u : UserRegion) (stride : ℤ),
      ∀ k ∈ cursorReads drmFormatInfo (cursor.moved x y) cursorObj fb mem u stride,
        0 ≤ k ∧ 4 * k + 4 ≤ obj.size) ↔
    (cursor.PassesChecks drmFormatInfo obj cursorObj → cursor.EvenPartInside obj.size) := by
  constructor
  · intro hall hpass
    by_contra houtside
    obtain ⟨i, hi, j, hj, hbad⟩ := exists_pixel_outside houtside
    obtain ⟨x, y, hsane⟩ := exists_isPixSane cursor (i - (cursor.width.toNat / 2 : ℕ))
      (j - (cursor.height.toNat / 2 : ℕ))
    have hread := @mem_composeReads (cursor.moved x y) cursorObj.memory (fun _ => 0) _ 256
      (sampleUser 0) _ _ (mem_halfRange_of_lt hi) (mem_halfRange_of_lt hj) hsane fun _ => rfl
    rw [← cursorReads_of_passesChecks ((passesChecks_moved x y).2 hpass)] at hread
    have hinside := hall _ _ _ _ _ _ _ hread
    rw [pix_of_columns (cursor.moved x y) i j] at hinside
    exact hbad hinside
  · intro hinside x y fb mem u stride k hk
    by_cases hpass : cursor.PassesChecks drmFormatInfo obj cursorObj
    · rw [cursorReads_of_passesChecks ((passesChecks_moved x y).2 hpass)] at hk
      obtain ⟨x', hx, y', hy, -, rfl⟩ := exists_of_mem_composeReads hk
      obtain ⟨i, hi, rfl⟩ := exists_of_mem_halfRange hx
      obtain ⟨j, hj, rfl⟩ := exists_of_mem_halfRange hy
      obtain ⟨hend, hlt⟩ := (hinside hpass).index hi hj
      rw [pix_of_columns (cursor.moved x y) i j]
      simp only [Cursor.moved]
      rw [s32_natCast hlt]
      omega
    · have hobj' : (cursor.moved x y).obj = some obj := hobj
      rw [cursorReads_of_not_passesChecks hobj' fun h => hpass ((passesChecks_moved x y).1 h)] at hk
      simp at hk

end

/-- Without a wrap, the check covers what is read. -/
theorem evenPartInside_of_size {cursor : Cursor} {size : ℕ}
    (hsize : 4 * (cursor.width.toNat * cursor.height.toNat) ≤ size)
    (hlt : 4 * (cursor.width.toNat * cursor.height.toNat) < 2 ^ 32) : cursor.EvenPartInside size := by
  unfold Cursor.EvenPartInside
  dsimp only
  by_cases hh : 2 * (cursor.height.toNat / 2) = 0
  · exact .inr (.inl hh)
  · have hrows : (2 * (cursor.height.toNat / 2) - 1 + 1) * cursor.width.toNat ≤
        cursor.height.toNat * cursor.width.toNat := Nat.mul_le_mul_right _ (by omega)
    rw [Nat.succ_mul, mul_comm cursor.height.toNat] at hrows
    omega

/-- A cursor of 64 by 16 is read in its page. -/
theorem cursor_reads_inside :
    65 ∈ cursorReads (fun format => some ⟨format, 4⟩) (.sample 64 16) .sampleWhite
      (.sample 1 64 64 256) (fun _ => 0) (sampleUser 0) 256 ∧ 0 ≤ (65 : ℤ) ∧ 4 * (65 : ℤ) + 4 ≤ 4096 := by
  have hpass : (Cursor.sample 64 16).PassesChecks (fun format => some ⟨format, 4⟩)
      ⟨3, 4096, none, false⟩ .sampleWhite := ⟨rfl, rfl, rfl, rfl, by decide⟩
  have hread : 65 ∈ cursorReads (fun format => some ⟨format, 4⟩) (.sample 64 16) .sampleWhite
      (.sample 1 64 64 256) (fun _ => 0) (sampleUser 0) 256 := by
    rw [cursorReads_of_passesChecks hpass]
    exact @mem_composeReads (.sample 64 16) _ _ (.sample 1 64 64 256) _ (sampleUser 0) (-31) (-7)
      (by decide) (by decide) (by decide) fun _ => rfl
  exact ⟨hread, (@cursor_reads_inside_iff _ (.sample 64 16) _ _ rfl).2
    (fun _ => evenPartInside_of_size (by decide) (by decide)) 0 0 _ _ _ _ _ hread⟩

/-- A cursor of 65536 by 16384 takes no bytes in 32 bits: with an object of one page it is set and passes
the check, and the second row is read 256 KiB behind its start. -/
theorem huge_cursor_read_outside :
    (cursorSet (some .sampleWhite) ⟨0, true, .ok [], true⟩ ⟨65536, 16384, 0, 0, 0x34325241, 262144⟩
      (Device.init 0 (.init (.const true) (.const true)))).cursor = .sample 65536 16384 ∧
    (Cursor.sample 65536 16384).PassesChecks (fun format => some ⟨format, 4⟩) ⟨3, 4096, none, false⟩
      .sampleWhite ∧
    65536 ∈ cursorReads (fun format => some ⟨format, 4⟩) (.sample 65536 16384) .sampleWhite
      (.sample 1 64 64 256) (fun _ => 0) (sampleUser 0) 256 ∧ ¬ 4 * (65536 : ℤ) + 4 ≤ 4096 := by
  have hpass : (Cursor.sample 65536 16384).PassesChecks (fun format => some ⟨format, 4⟩)
      ⟨3, 4096, none, false⟩ .sampleWhite := ⟨rfl, rfl, rfl, rfl, by decide⟩
  refine ⟨rfl, hpass, ?_, by decide⟩
  rw [cursorReads_of_passesChecks hpass]
  exact @mem_composeReads (.sample 65536 16384) _ _ (.sample 1 64 64 256) _ (sampleUser 0) (-32768)
    (-8191) (mem_halfRange.2 (by decide)) (mem_halfRange.2 (by decide)) (by decide) fun _ => rfl

end Evdi
