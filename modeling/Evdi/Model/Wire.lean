import Evdi.Foundations.Words
import Evdi.Model.Ddcci

/-!
# Events as bytes

The structures of `evdi_drm.h` that the `create_*_event` functions fill in, as `drm_read` copies them to
the client.  Each is allocated by `kzalloc`, so its padding and what is left of the buffer of a DDC/CI
event are zero.

`EventRead` is a read of whole events, as many as the 1024 bytes of the library's buffer hold.
-/

namespace Evdi

open Bytes Words

/-! ### Layouts -/

/-- The `sizeof` of the event's structure, which the driver puts in the header. -/
def Event.size : Event → ℕ
  | .updateReady => 8
  | .dpms _ => 12
  | .modeChanged .. => 28
  | .cursorSet .. => 44
  | .cursorMove .. => 16
  | .ddcciData .. => 80

/-- The bytes behind the header. -/
def Event.body : Event → List UInt8
  | .updateReady => []
  | .dpms mode => pack [(4, mode.toUInt32.toNat)]
  | .modeChanged hdisplay vdisplay vrefresh bitsPerPixel pixelFormat =>
    pack [(4, hdisplay.toUInt32.toNat), (4, vdisplay.toUInt32.toNat), (4, vrefresh.toUInt32.toNat),
      (4, bitsPerPixel.toUInt32.toNat), (4, pixelFormat.toNat)]
  | .cursorSet hotX hotY width height enabled bufferHandle bufferLength pixelFormat stride =>
    pack [(4, hotX.toUInt32.toNat), (4, hotY.toUInt32.toNat), (4, width.toNat), (4, height.toNat),
      (1, enabled.toNat), (3, 0), (4, bufferHandle.toNat), (4, bufferLength.toNat),
      (4, pixelFormat.toNat), (4, stride.toNat)]
  | .cursorMove x y => pack [(4, x.toUInt32.toNat), (4, y.toUInt32.toNat)]
  | .ddcciData buffer bufferLength flags address =>
    buffer ++ List.replicate (64 - buffer.length) 0 ++
      pack [(4, bufferLength.toNat), (2, flags.toNat), (2, address.toNat)]

/-- The event's structure: `struct drm_event` and the body. -/
def Event.bytes (e : Event) : List UInt8 := pack [(4, e.type.toNat), (4, e.size)] ++ e.body

/-- A DDC/CI event has as many bytes as it says, at most 64. -/
def Event.WellFormed : Event → Prop
  | .ddcciData buffer bufferLength _ _ =>
    buffer.length = bufferLength.toNat ∧ bufferLength ≤ ddcciBufferSize
  | _ => True

/-- What the `create_*_event` functions make; a message has the bytes that its length says. -/
inductive Event.Created : Event → Prop
  | updateReady : Event.Created .updateReady
  | dpms (mode : Int32) : Event.Created (.dpms mode)
  | modeChanged (hdisplay vdisplay vrefresh bitsPerPixel : Int32) (pixelFormat : UInt32) :
      Event.Created (.modeChanged hdisplay vdisplay vrefresh bitsPerPixel pixelFormat)
  | cursorSet (cursor : Cursor) (gemHandle : UInt32) :
      Event.Created (cursorSetEvent cursor gemHandle)
  | cursorMove (cursor : Cursor) : Event.Created (.cursorMove cursor.x cursor.y)
  | ddcciData {msg : I2cMsg} : msg.len.toNat ≤ msg.buf.length → Event.Created (ddcciDataEvent msg)

theorem toNat_ddcciLength (msg : I2cMsg) : (ddcciLength msg).toNat = min msg.len.toNat 64 := by
  have h64 : ddcciBufferSize.toUInt16.toNat = 64 := by decide
  have hmin : min msg.len ddcciBufferSize.toUInt16 =
      if msg.len ≤ ddcciBufferSize.toUInt16 then msg.len else ddcciBufferSize.toUInt16 := rfl
  rw [ddcciLength, UInt16.toNat_toUInt32, hmin]
  split_ifs with hle <;> rw [UInt16.le_iff_toNat_le] at hle <;> omega

theorem Event.Created.wellFormed {e : Event} (h : e.Created) : e.WellFormed := by
  cases h with
  | updateReady => trivial
  | dpms mode => trivial
  | modeChanged hdisplay vdisplay vrefresh bitsPerPixel pixelFormat => trivial
  | cursorSet cursor gemHandle =>
    unfold cursorSetEvent
    split
    · split_ifs <;> trivial
    · trivial
  | cursorMove cursor => trivial
  | @ddcciData msg hbuf =>
    -- the driver cuts a message to 64 bytes
    have hlength := toNat_ddcciLength msg
    refine ⟨?_, ?_⟩
    · rw [List.length_take, hlength]
      omega
    · rw [UInt32.le_iff_toNat_le, hlength]
      exact min_le_right _ _

theorem length_body {e : Event} (h : e.WellFormed) : 8 + e.body.length = e.size := by
  cases e with
  | ddcciData buffer bufferLength flags address =>
    obtain ⟨hlength, hle⟩ := h
    have h64 : buffer.length ≤ 64 := hlength ▸ UInt32.le_iff_toNat_le.1 hle
    simp [Event.body, Event.size]
    omega
  | _ => simp [Event.body, Event.size]

/-- An event takes the bytes that its header says. -/
theorem length_bytes {e : Event} (h : e.WellFormed) : e.bytes.length = e.size := by
  rw [← length_body h]
  simp [Event.bytes]
  omega

theorem eight_le_size (e : Event) : 8 ≤ e.size := by
  cases e <;> simp [Event.size]

/-! ### Reads -/

/-- A successful read of whole events; `stale` is what the library's buffer held before. -/
structure EventRead where
  events : List Event
  stale : Memory
  wellFormed : ∀ e ∈ events, e.WellFormed
  fits : (events.flatMap Event.bytes).length ≤ 1024

end Evdi
