import Evdi.Model.Client
import Evdi.Model.Framebuffer

/-!
# What is validated

Two checks of the driver on what user space gives it, and exactly when they are enough for what the
driver does later: the size check of `evdi_fb_user_fb_create` for the reads of
`copy_primary_pixels`, and the length check of `evdi_painter_connect` for the EDID blocks the DRM core
reads.
-/

namespace Evdi

open Bytes Words

/-! ### Framebuffers -/

/-- A rectangle inside a framebuffer. -/
structure ClipRect.Inside (r : ClipRect) (fb : Framebuffer) : Prop where
  x_le : r.x1 ≤ r.x2
  y_le : r.y1 ≤ r.y2
  x2_le : r.x2.toNat ≤ fb.width.toNat
  y2_le : r.y2.toNat ≤ fb.height.toNat

/-- The address of byte `i` of the row `k` that `copy_primary_pixels` reads for a rectangle. -/
def sourceByte (fb : Framebuffer) (r : ClipRect) (k i : ℕ) : ℤ :=
  srcOffset fb r + fb.pitch0.toNat * k + i

/-- Every byte that `copy_primary_pixels` reads for the rectangle is a byte of the object. -/
def SourceInside (fb : Framebuffer) (r : ClipRect) : Prop :=
  ∀ k < r.y2.toNat - r.y1.toNat, ∀ i < 4 * (r.x2.toNat - r.x1.toNat),
    0 ≤ sourceByte fb r k i ∧ sourceByte fb r k i < fb.obj.size

/-- The framebuffer's span is part of its object, and so is what is read of it. -/
structure FbSound (cmd : ModeFbCmd2) (fb : Framebuffer) : Prop where
  span_le : cmd.span ≤ fb.obj.size
  source : ∀ r : ClipRect, r.Inside fb → SourceInside fb r

/-- When all rectangles are read inside the object, what is copied does not depend on the memory
around it. -/
theorem copyRects_congr {fb : Framebuffer} {m m' : Memory} {stride maxX maxY : ℤ}
    {rects : List ClipRect} (h : ∀ r ∈ rects, r.x1 ≤ r.x2 ∧ SourceInside fb r)
    (hm : ∀ a : ℤ, 0 ≤ a → a < fb.obj.size → m a = m' a) (buffer : UserRegion) :
    copyRects fb m stride maxX maxY rects buffer =
      copyRects fb m' stride maxX maxY rects buffer := by
  induction rects generalizing buffer with
  | nil => rfl
  | cons r rects ih =>
    obtain ⟨hx, hinside⟩ := h r (by simp)
    have hx' : r.x1.toNat ≤ r.x2.toNat := UInt16.le_iff_toNat_le.1 hx
    have hrows : copyRows m fb.pitch0.toNat stride (((r.x2.toNat : ℤ) - r.x1.toNat) * 4)
        (r.y2.toNat - r.y1.toNat) (srcOffset fb r) (dstOffset stride r) buffer =
        copyRows m' fb.pitch0.toNat stride (((r.x2.toNat : ℤ) - r.x1.toNat) * 4)
          (r.y2.toNat - r.y1.toNat) (srcOffset fb r) (dstOffset stride r) buffer := by
      refine copyRows_congr _ fun k hk i hi hin => ?_
      obtain ⟨i, rfl⟩ := Int.eq_ofNat_of_zero_le hi
      obtain ⟨hl, hu⟩ := hinside k hk i (by omega)
      exact hm _ hl hu
    rw [copyRects, copyRects, hrows]
    simp only [ih fun r hr => h r (by simp [hr])]

/-- The start of the last pixel of the framebuffer, without wrap-around. -/
def ModeFbCmd2.lastPixel (cmd : ModeFbCmd2) : ℕ :=
  cmd.offset0.toNat + cmd.pitch0.toNat * (cmd.height.toNat - 1) + 4 * (cmd.width.toNat - 1)

/-- The driver refuses for a reason that has nothing to do with the span. -/
def FbCreateAnswers.Refuses (ans : FbCreateAnswers) (cmd : ModeFbCmd2) : Prop :=
  fbGetBpp ans.drmFormatInfo cmd.pixelFormat ≠ 32 ∨ ans.gemObjectLookup cmd.handle0 = none ∨
    ans.kzalloc = false ∨ ans.framebufferInit ≠ 0

theorem toNat_span {cmd : ModeFbCmd2} (h : cmd.LetThrough) :
    (cmd.offset0 + cmd.pitch0 * cmd.height).toNat = cmd.span := by
  have hspan := h.span_lt
  unfold ModeFbCmd2.span at hspan ⊢
  rw [UInt32.toNat_add, UInt32.toNat_mul, Nat.mod_eq_of_lt (a := _ * _) (by omega),
    Nat.mod_eq_of_lt hspan]

/-- The size compared with the object: the span rounded up to a page, or 0 when that does not fit. -/
theorem toNat_alignToPage_span {cmd : ModeFbCmd2} (h : cmd.LetThrough) :
    (alignToPage (cmd.offset0 + cmd.pitch0 * cmd.height)).toNat =
      if cmd.span ≤ 2 ^ 32 - 4096 then (cmd.span + 4095) / 4096 * 4096 else 0 := by
  have hspan := h.span_lt
  rw [toNat_alignToPage, toNat_span h]
  split_ifs with hfit
  · rw [Nat.mod_eq_of_lt (by omega)]
  · omega

/-- What a framebuffer is created from. -/
theorem fbUserFbCreate_ok {ans : FbCreateAnswers} {cmd : ModeFbCmd2} {fb : Framebuffer}
    (h : fbUserFbCreate ans cmd = .ok fb) :
    ¬ ans.Refuses cmd ∧ ∃ obj, ans.gemObjectLookup cmd.handle0 = some obj ∧
      (alignToPage (cmd.offset0 + cmd.pitch0 * cmd.height)).toNat ≤ obj.size ∧
      fb = framebufferInit ans cmd obj := by
  by_cases hbpp : fbGetBpp ans.drmFormatInfo cmd.pixelFormat ≠ 32
  · simp [fbUserFbCreate, if_pos hbpp] at h
  · cases hobj : ans.gemObjectLookup cmd.handle0 with
    | none => simp [fbUserFbCreate, if_neg hbpp, hobj] at h
    | some obj =>
      simp only [fbUserFbCreate, if_neg hbpp, hobj] at h
      split_ifs at h with hsize hk hinit
      refine ⟨?_, obj, rfl, not_lt.1 hsize, (Except.ok.inj h).symm⟩
      simp only [FbCreateAnswers.Refuses, hobj, not_or]
      exact ⟨hbpp, by simp, by simpa using hk, hinit⟩

/-- When the driver does not refuse, the comparison decides. -/
theorem fbUserFbCreate_of_size_le {ans : FbCreateAnswers} {cmd : ModeFbCmd2} {obj : GemRef}
    (hrefuses : ¬ ans.Refuses cmd) (hobj : ans.gemObjectLookup cmd.handle0 = some obj)
    (hsize : (alignToPage (cmd.offset0 + cmd.pitch0 * cmd.height)).toNat ≤ obj.size) :
    fbUserFbCreate ans cmd = .ok (framebufferInit ans cmd obj) := by
  simp only [FbCreateAnswers.Refuses, not_or] at hrefuses
  obtain ⟨hbpp, -, hk, hinit⟩ := hrefuses
  have hk' : ¬ (!ans.kzalloc) = true := by simpa using hk
  rw [fbUserFbCreate, if_neg hbpp]
  simp only [hobj]
  rw [if_neg (not_lt.2 hsize), if_neg hk', if_neg hinit]

/-- Below `2 ^ 31` the source offset of a rectangle that is not empty is where its first pixel is. -/
theorem srcOffset_framebufferInit {ans : FbCreateAnswers} {cmd : ModeFbCmd2} {obj : GemRef}
    {r : ClipRect} (hx : r.x1.toNat ≤ cmd.width.toNat - 1) (hy : r.y1.toNat ≤ cmd.height.toNat - 1)
    (hlast : cmd.lastPixel < 2 ^ 31) :
    srcOffset (framebufferInit ans cmd obj) r =
      (cmd.offset0.toNat + cmd.pitch0.toNat * r.y1.toNat + 4 * r.x1.toNat : ℕ) := by
  have hrow : cmd.pitch0.toNat * r.y1.toNat ≤ cmd.pitch0.toNat * (cmd.height.toNat - 1) :=
    Nat.mul_le_mul_left _ hy
  unfold ModeFbCmd2.lastPixel at hlast
  refine srcOffset_eq ?_
  simp only [framebufferInit]
  omega

/-- With its last pixel below `2 ^ 31`, a framebuffer of 64 rows or more stays away from the last page
below `2 ^ 32`. -/
theorem span_le_of_lastPixel {cmd : ModeFbCmd2} (h : cmd.LetThrough)
    (hlast : cmd.lastPixel < 2 ^ 31) : cmd.span ≤ 2 ^ 32 - 4096 := by
  have hh := h.height_ge
  have hspan := h.span_lt
  obtain ⟨n, hn⟩ : ∃ n, cmd.height.toNat = n + 64 := ⟨cmd.height.toNat - 64, by omega⟩
  have hrow : cmd.pitch0.toNat * (n + 64) = cmd.pitch0.toNat * n + 64 * cmd.pitch0.toNat := by ring
  have hrow' : cmd.pitch0.toNat * (n + 63) = cmd.pitch0.toNat * n + 63 * cmd.pitch0.toNat := by ring
  unfold ModeFbCmd2.lastPixel at hlast
  unfold ModeFbCmd2.span at hspan ⊢
  rw [hn] at hlast hspan ⊢
  rw [show n + 64 - 1 = n + 63 by omega, hrow'] at hlast
  rw [hrow] at hspan ⊢
  omega

/-- Below `2 ^ 31` all that is read lies in the framebuffer's span. -/
theorem sourceInside_of_lastPixel {ans : FbCreateAnswers} {cmd : ModeFbCmd2} {obj : GemRef}
    (h : cmd.LetThrough) (hlast : cmd.lastPixel < 2 ^ 31) (hspan : cmd.span ≤ obj.size)
    {r : ClipRect} (hr : r.Inside (framebufferInit ans cmd obj)) :
    SourceInside (framebufferInit ans cmd obj) r := by
  intro k hk i hi
  have hx2 : r.x2.toNat ≤ cmd.width.toNat := hr.x2_le
  have hy2 : r.y2.toNat ≤ cmd.height.toNat := hr.y2_le
  have hpitch := h.pitch_ge
  have hrows : cmd.pitch0.toNat * (r.y1.toNat + k + 1) ≤ cmd.pitch0.toNat * cmd.height.toNat :=
    Nat.mul_le_mul_left _ (by omega)
  have hsplit : cmd.pitch0.toNat * (r.y1.toNat + k + 1) =
      cmd.pitch0.toNat * r.y1.toNat + cmd.pitch0.toNat * k + cmd.pitch0.toNat := by ring
  have haddr : sourceByte (framebufferInit ans cmd obj) r k i =
      ((cmd.offset0.toNat + (cmd.pitch0.toNat * r.y1.toNat + cmd.pitch0.toNat * k) +
        (4 * r.x1.toNat + i) : ℕ) : ℤ) := by
    rw [sourceByte, srcOffset_framebufferInit (by omega) (by omega) hlast]
    simp only [framebufferInit]
    push_cast
    ring
  have hlt : cmd.offset0.toNat + (cmd.pitch0.toNat * r.y1.toNat + cmd.pitch0.toNat * k) +
      (4 * r.x1.toNat + i) < obj.size := by
    clear haddr hlast h
    unfold ModeFbCmd2.span at hspan
    omega
  rw [haddr]
  exact ⟨Int.natCast_nonneg _, Int.ofNat_lt.2 hlt⟩

/-- From `2 ^ 31` on, the read of the last pixel starts before the object. -/
theorem not_sourceInside_lastPixel {ans : FbCreateAnswers} {cmd : ModeFbCmd2} {obj : GemRef}
    (h : cmd.LetThrough) (hlast : 2 ^ 31 ≤ cmd.lastPixel) :
    ∃ r : ClipRect, r.Inside (framebufferInit ans cmd obj) ∧
      ¬ SourceInside (framebufferInit ans cmd obj) r := by
  have hw := h.width_ge
  have hw' := h.width_le
  have hh := h.height_ge
  have hh' := h.height_le
  have hlt : cmd.lastPixel < 2 ^ 32 := by
    have hspan := h.span_lt
    have hpitch := h.pitch_ge
    have hrows : cmd.pitch0.toNat * cmd.height.toNat =
        cmd.pitch0.toNat * (cmd.height.toNat - 1) + cmd.pitch0.toNat := by
      rw [← Nat.mul_succ]
      congr 1
      omega
    unfold ModeFbCmd2.span at hspan
    unfold ModeFbCmd2.lastPixel
    omega
  have hnat : ∀ n : ℕ, n ≤ 7680 → (UInt16.ofNat n).toNat = n := fun n hn =>
    UInt16.toNat_ofNat_of_lt' (by norm_num; omega)
  have hx1 := hnat (cmd.width.toNat - 1) (by omega)
  have hy1 := hnat (cmd.height.toNat - 1) (by omega)
  have hx2 := hnat cmd.width.toNat (by omega)
  have hy2 := hnat cmd.height.toNat (by omega)
  refine ⟨⟨.ofNat (cmd.width.toNat - 1), .ofNat (cmd.height.toNat - 1), .ofNat cmd.width.toNat,
    .ofNat cmd.height.toNat⟩, ⟨?_, ?_, hx2.le, hy2.le⟩, fun hinside => ?_⟩
  · rw [UInt16.le_iff_toNat_le, hx1, hx2]
    omega
  · rw [UInt16.le_iff_toNat_le, hy1, hy2]
    omega
  · obtain ⟨hnonneg, -⟩ := hinside 0 (by simp only [hy1, hy2]; omega) 0 (by
      simp only [hx1, hx2]; omega)
    -- the offset of the last pixel comes out negative
    have hoffset : srcOffset (framebufferInit ans cmd obj) ⟨.ofNat (cmd.width.toNat - 1),
        .ofNat (cmd.height.toNat - 1), .ofNat cmd.width.toNat, .ofNat cmd.height.toNat⟩ =
        s32 cmd.lastPixel := by
      simp only [srcOffset, s32_u32, hx1, hy1, framebufferInit, ModeFbCmd2.lastPixel]
      congr 1
      push_cast
      ring
    have hneg := s32_le_sub (z := cmd.lastPixel) (by exact_mod_cast hlast)
    have hlt' : (cmd.lastPixel : ℤ) < 2 ^ 32 := by exact_mod_cast hlt
    rw [sourceByte, hoffset] at hnonneg
    simp only [Nat.cast_zero, mul_zero, add_zero] at hnonneg
    linarith

/-- **The size check is enough** exactly when the framebuffer is refused, or its last pixel starts
below `2 ^ 31`. Rounding the span up wraps to 0 in the last page below `2 ^ 32`, and from `2 ^ 31` on an
offset is negative when it is converted to `int`. -/
theorem fbUserFbCreate_sound_iff {ans : FbCreateAnswers} {cmd : ModeFbCmd2}
    (h : cmd.LetThrough) :
    (∀ fb, fbUserFbCreate ans cmd = .ok fb → FbSound cmd fb) ↔
      ans.Refuses cmd ∨
      (cmd.span ≤ 2 ^ 32 - 4096 ∧ ∃ obj, ans.gemObjectLookup cmd.handle0 = some obj ∧
        obj.size < (cmd.span + 4095) / 4096 * 4096) ∨
      cmd.lastPixel < 2 ^ 31 := by
  have halign := toNat_alignToPage_span h
  constructor
  · intro hsound
    by_contra hfails
    simp only [not_or, not_lt, not_and, not_exists] at hfails
    obtain ⟨hrefuses, hsize, hlast⟩ := hfails
    obtain ⟨obj, hobj⟩ := Option.ne_none_iff_exists'.1 fun hnone =>
      hrefuses (.inr (.inl hnone))
    have haccept := fbUserFbCreate_of_size_le hrefuses hobj (by
      rw [halign]
      split_ifs with hfit
      · exact hsize hfit obj hobj
      · exact Nat.zero_le _)
    obtain ⟨r, hr, hout⟩ : ∃ r : ClipRect, r.Inside (framebufferInit ans cmd obj) ∧
        ¬ SourceInside (framebufferInit ans cmd obj) r := not_sourceInside_lastPixel h hlast
    exact hout ((hsound _ haccept).source r hr)
  · intro hcond fb hfb
    obtain ⟨hrefuses, obj, hobj, hsize, rfl⟩ := fbUserFbCreate_ok hfb
    rw [halign] at hsize
    rcases hcond with hcond | ⟨hfit, obj', hobj', hsmall⟩ | hlast
    · exact absurd hcond hrefuses
    · obtain rfl : obj = obj' := Option.some.inj (hobj.symm.trans hobj')
      rw [if_pos hfit] at hsize
      omega
    · have hfit : cmd.span ≤ 2 ^ 32 - 4096 := span_le_of_lastPixel h hlast
      rw [if_pos hfit] at hsize
      have hspan : cmd.span ≤ obj.size := by omega
      exact ⟨hspan, fun r hr => sourceInside_of_lastPixel h hlast hspan hr⟩

/-- A kernel with one object of `size` bytes, under the handle 1, in which nothing fails. -/
def FbCreateAnswers.sample (size : ℕ) : FbCreateAnswers where
  drmFormatInfo := fun format => some ⟨format, 4⟩
  gemObjectLookup := fun handle => if handle = 1 then some ⟨0, size, none, false⟩ else none
  kzalloc := true
  framebufferInit := 0
  id := 0
  isXeGem := fun _ => false

/-- A buffer of 64 by 64 in the object 1. -/
def ModeFbCmd2.sample (pitch : UInt32) : ModeFbCmd2 where
  width := 64
  height := 64
  pixelFormat := 0x34325258
  handle0 := 1
  pitch0 := pitch
  offset0 := 0

theorem ModeFbCmd2.letThrough_sample {pitch : UInt32} (hl : 256 ≤ pitch.toNat)
    (hu : pitch.toNat * 64 < 2 ^ 32) : (ModeFbCmd2.sample pitch).LetThrough where
  width_ge := by simp [ModeFbCmd2.sample]
  width_le := by simp [ModeFbCmd2.sample]
  height_ge := by simp [ModeFbCmd2.sample]
  height_le := by simp [ModeFbCmd2.sample]
  pitch_ge := hl
  span_lt := by rw [ModeFbCmd2.span]; exact lt_of_eq_of_lt (Nat.zero_add _) hu

/-- A buffer of 16 KiB, in an object of that size: all of it can be read. -/
theorem fbUserFbCreate_sound_sample :
    FbSound (.sample 256)
      (framebufferInit (.sample 16384) (.sample 256) ⟨0, 16384, none, false⟩) := by
  have hcreate : fbUserFbCreate (.sample 16384) (.sample 256) =
    .ok (framebufferInit (.sample 16384) (.sample 256) ⟨0, 16384, none, false⟩) := rfl
  have hlet : (ModeFbCmd2.sample 256).LetThrough :=
    ModeFbCmd2.letThrough_sample (by decide) (by decide)
  exact (fbUserFbCreate_sound_iff hlet).2 (.inr (.inr (by decide))) _ hcreate

/-- With a span that ends 256 bytes below `2 ^ 32`, an object of one page passes the check. -/
theorem huge_framebuffer_accepted : ¬ ∀ (ans : FbCreateAnswers) (cmd : ModeFbCmd2)
    (fb : Framebuffer), cmd.LetThrough → fbUserFbCreate ans cmd = .ok fb →
    cmd.span ≤ fb.obj.size := by
  intro hclaim
  have hspan := hclaim (.sample 4096) (.sample 67108860)
    (framebufferInit (.sample 4096) (.sample 67108860) ⟨0, 4096, none, false⟩)
    (ModeFbCmd2.letThrough_sample (by decide) (by decide)) rfl
  exact absurd hspan (by decide)

/-! ### EDIDs -/

/-- The number of bytes that the DRM core reads of an EDID with the extension count `n`. -/
def edidBytesRead (n : UInt8) : ℕ := edidBlockSize * (1 + n.toNat)

/-- The offset of the extension count, `extensions` of `struct edid`. -/
def edidExtensions : ℕ := 126

/-- An EDID has all the blocks it announces. -/
def EdidComplete (edid : List UInt8) : Prop :=
  ∃ n, edid[edidExtensions]? = some n ∧ edidBytesRead n ≤ edid.length

/-- The byte at a position of what was copied from user space. -/
theorem getElem?_copyFromUser {u : UserRegion} {n i : ℕ} {bs : List UInt8}
    (h : copyFromUser u n = some bs) (hi : i < n) : bs[i]? = some (u.byte i) := by
  rw [copyFromUser_eq h]
  simp [hi]

/-- The copy that `evdi_get_modes` takes after an accepted connect is what was read from the client. -/
theorem painterGetEdidCopy_connected {kmalloc : Bool} {d : Device} {file : DrmFile} {n : UInt32}
    {edid copy : List UInt8} (hn : 0 < n.toNat) (hlength : edid.length = n.toNat)
    (h : painterGetEdidCopy kmalloc { d with painter := d.painter.map (·.connected file n edid) } =
      some copy) : copy = edid := by
  cases hp : d.painter with
  | none => simp [painterGetEdidCopy, hp] at h
  | some p =>
    have hne : n ≠ 0 := by
      rintro rfl
      exact absurd hn (by decide)
    cases kmalloc with
    | false => simp [painterGetEdidCopy, hp, Painter.connected, hne] at h
    | true => simpa [painterGetEdidCopy, hp, Painter.connected, hne, ← hlength, eq_comm] using h

/-- What the connector hands to the DRM core is the copy. -/
theorem mem_getModes {kmalloc : Bool} {upd add : ℤ} {d : Device} {edid : List UInt8}
    (h : some edid ∈ (getModes kmalloc upd add d).2) : painterGetEdidCopy kmalloc d = some edid := by
  unfold getModes at h
  cases hcopy : painterGetEdidCopy kmalloc d with
  | none => simp [hcopy] at h
  | some copy =>
    simp only [hcopy] at h
    split_ifs at h <;> simpa [eq_comm] using h

/-- **An accepted EDID has all its blocks** exactly when it is refused or its byte 126 announces no
more than what was passed: the driver never looks at that byte. -/
theorem connect_edid_complete_iff (u : UserRegion) (n area pps : UInt32) (file : DrmFile)
    (ans : ConnectAnswers) (d : Device) :
    (∀ d', painterConnect u n area pps file ans d = (d', 0) →
      edidBytesRead (u.byte edidExtensions) ≤ n.toNat ∧
        ∀ kmalloc upd add edid, some edid ∈ (getModes kmalloc upd add d').2 → EdidComplete edid) ↔
      n.toNat < edidBlockSize ∨ n.toNat > maxEdidSize ∨ ans.kzalloc = false ∨
        copyFromUser u n.toNat = none ∨ edidBytesRead (u.byte edidExtensions) ≤ n.toNat := by
  rcases painterConnect_cases u n area pps file ans d with ⟨err, heq, hneg, hwhy⟩ |
    ⟨edid, hsmall, hlarge, hk, hcopy, heq⟩
  · have hrefused : ∀ d', painterConnect u n area pps file ans d ≠ (d', 0) := by
      intro d' hd'
      rw [heq] at hd'
      have herr := congrArg Prod.snd hd'
      exact hneg.ne herr
    refine ⟨fun _ => ?_, fun _ d' hd' => absurd hd' (hrefused d')⟩
    rcases hwhy with hwhy | hwhy | hwhy | hwhy
    · exact .inl hwhy
    · exact .inr (.inl hwhy)
    · exact .inr (.inr (.inl hwhy))
    · exact .inr (.inr (.inr (.inl hwhy)))
  · constructor
    · intro h
      exact .inr (.inr (.inr (.inr (h _ heq).1)))
    · intro hcond d' hd'
      have hread : edidBytesRead (u.byte edidExtensions) ≤ n.toNat := by
        rcases hcond with h | h | h | h | h
        · omega
        · omega
        · simp [hk] at h
        · simp [hcopy] at h
        · exact h
      refine ⟨hread, fun kmalloc upd add copy hmem => ?_⟩
      obtain rfl := congrArg Prod.fst (heq.symm.trans hd')
      have hlength := length_copyFromUser hcopy
      unfold edidBlockSize at hsmall
      obtain rfl := painterGetEdidCopy_connected (d := { d with
          pixelAreaLimit := area
          pixelPerSecondLimit := pps
          i2cAdapter := d.i2cAdapter || ans.i2cAdd }) (by omega) hlength (mem_getModes hmem)
      exact ⟨_, getElem?_copyFromUser hcopy (by unfold edidExtensions; omega),
        hlength ▸ hread⟩

/-- One block that announces another is accepted as it is, and handed on. -/
theorem truncated_edid_accepted : ¬ ∀ (u : UserRegion) (n area pps : UInt32) (file : DrmFile)
    (ans : ConnectAnswers) (d d' : Device), painterConnect u n area pps file ans d = (d', 0) →
    edidBytesRead (u.byte edidExtensions) ≤ n.toNat := by
  intro hclaim
  have hread := hclaim (sampleUser 1) 128 0 0 1 ⟨true, true⟩
    (Device.init 0 (.init (.const true) (.const true))) _
    (Prod.ext rfl (by decide +kernel))
  exact absurd hread (by decide)

end Evdi
