import Evdi.Model.Copy
import Evdi.Model.Connect

/-!
# Creating framebuffers, and the connector

`evdi_fb_user_fb_create`, which checks that a framebuffer fits its GEM object, and `evdi_get_modes`,
which hands the client's EDID to the DRM core.
-/

namespace Evdi

open Words

/-! ### Framebuffers -/

/-- What the driver reads of `struct drm_mode_fb_cmd2`. -/
structure ModeFbCmd2 where
  width : UInt32
  height : UInt32
  pixelFormat : UInt32
  handle0 : UInt32
  pitch0 : UInt32
  offset0 : UInt32

/-- The number of bytes the framebuffer spans, without wrap-around. -/
def ModeFbCmd2.span (cmd : ModeFbCmd2) : ℕ :=
  cmd.offset0.toNat + cmd.pitch0.toNat * cmd.height.toNat

/-- What the DRM core has checked before it calls the driver: sizes within the limits set by
`evdi_modeset_init`, rows of four-byte pixels that fit the pitch, and a span that fits 32 bits. -/
structure ModeFbCmd2.LetThrough (cmd : ModeFbCmd2) : Prop where
  width_ge : 64 ≤ cmd.width.toNat
  width_le : cmd.width.toNat ≤ 7680
  height_ge : 64 ≤ cmd.height.toNat
  height_le : cmd.height.toNat ≤ 4320
  pitch_ge : 4 * cmd.width.toNat ≤ cmd.pitch0.toNat
  span_lt : cmd.span < 2 ^ 32

/-- Answers of the kernel during one `evdi_fb_user_fb_create`: the format table of the DRM core, the
objects of the client's file, whether the framebuffer was allocated, the result of
`drm_framebuffer_init` and the identity of the new framebuffer, and `is_xe_gem`. -/
structure FbCreateAnswers where
  drmFormatInfo : UInt32 → Option DrmFormatInfo
  gemObjectLookup : UInt32 → Option GemRef
  kzalloc : Bool
  framebufferInit : ℤ
  id : ℕ
  isXeGem : GemRef → Bool

/-- `ALIGN(size, PAGE_SIZE)`, in `uint32_t`. -/
def alignToPage (size : UInt32) : UInt32 := (size + 4095) &&& ~~~4095

/-- The framebuffer made by `evdi_framebuffer_init`. -/
def framebufferInit (ans : FbCreateAnswers) (cmd : ModeFbCmd2) (obj : GemRef) : Framebuffer where
  id := ans.id
  width := cmd.width
  height := cmd.height
  pitch0 := cmd.pitch0
  offset0 := cmd.offset0
  format := (ans.drmFormatInfo cmd.pixelFormat).getD ⟨cmd.pixelFormat, 0⟩
  obj := obj
  isFromXe := ans.isXeGem obj

/-- `evdi_fb_user_fb_create`. -/
def fbUserFbCreate (ans : FbCreateAnswers) (cmd : ModeFbCmd2) : Except ℤ Framebuffer :=
  if fbGetBpp ans.drmFormatInfo cmd.pixelFormat ≠ 32 then .error (-EINVAL)
  else match ans.gemObjectLookup cmd.handle0 with
  | none => .error (-ENOENT)
  | some obj =>
    let size := alignToPage (cmd.offset0 + cmd.pitch0 * cmd.height)
    if size.toNat > obj.size then .error (-ENOMEM)
    else if !ans.kzalloc then .error (-ENOMEM)
    else if ans.framebufferInit ≠ 0 then .error (-EINVAL)
    else .ok (framebufferInit ans cmd obj)

/-- Rounding up to a page loses the carry out of 32 bits. -/
theorem toNat_alignToPage (size : UInt32) :
    (alignToPage size).toNat = (size.toNat + 4095) % 2 ^ 32 / 4096 * 4096 := by
  rw [alignToPage, UInt32.toNat_and, UInt32.toNat_add]
  exact and_highMask (k := 12) (w := 32) (by norm_num) (Nat.mod_lt _ (by norm_num))

/-! ### The connector -/

/-- `evdi_get_modes`: its result, and what it hands to `drm_connector_update_edid_property` and
`drm_add_edid_modes`, which answer `updateEdidProperty` and `addEdidModes`; `kmalloc` is for the copy. -/
def getModes (kmalloc : Bool) (updateEdidProperty addEdidModes : ℤ) (d : Device) :
    ℤ × List (Option (List UInt8)) :=
  match painterGetEdidCopy kmalloc d with
  | none => (0, [none])
  | some edid =>
    if updateEdidProperty ≠ 0 then (updateEdidProperty, [some edid])
    else (addEdidModes, [some edid, some edid])

end Evdi
