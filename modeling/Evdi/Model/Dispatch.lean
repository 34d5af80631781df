import Evdi.Foundations.While
import Evdi.Model.Ioctl
import Evdi.Model.Library

/-!
# The client library: events

`evdi_handle_events` of `evdi_lib.c`: one read into a buffer of 1024 bytes on the stack, and a walk over
it that casts each event by its type and goes on by its length.  The handlers are the client's code, and
may change whatever they like, the library's handle included; they do not write to the bytes they are
given a pointer to.  `malloc` does not fail.
-/

namespace Evdi

open Bytes While Words

/-! ### Handlers -/

/-- `struct evdi_mode`. -/
structure EvdiMode where
  width : Int32
  height : Int32
  refreshRate : Int32
  bitsPerPixel : Int32
  pixelFormat : UInt32
  deriving DecidableEq

/-- `struct evdi_cursor_set`, with the bytes at `buffer`. -/
structure EvdiCursorSet where
  hotX : Int32
  hotY : Int32
  width : UInt32
  height : UInt32
  enabled : UInt8
  bufferLength : UInt32
  buffer : Option (List UInt8)
  pixelFormat : UInt32
  stride : UInt32
  deriving DecidableEq

/-- `struct evdi_cursor_move`. -/
structure EvdiCursorMove where
  x : Int32
  y : Int32
  deriving DecidableEq

/-- `struct evdi_ddcci_data`, with the array that `buffer` points to. -/
structure EvdiDdcciData where
  address : UInt16
  flags : UInt16
  bufferLength : UInt32
  buffer : List UInt8
  deriving DecidableEq

/-- The client's process: the library's handle, the device behind its file, and all else. -/
structure Process (σ : Type*) where
  handle : EvdiDeviceContext
  device : Device
  rest : σ

/-- `struct evdi_event_context`: the handlers registered, each with its `user_data`. -/
structure EvdiEventContext (σ : Type*) where
  dpmsHandler : Option (Int32 → Process σ → Process σ)
  modeChangedHandler : Option (EvdiMode → Process σ → Process σ)
  updateReadyHandler : Option (Int32 → Process σ → Process σ)
  crtcStateHandler : Option (Int32 → Process σ → Process σ)
  cursorSetHandler : Option (EvdiCursorSet → Process σ → Process σ)
  cursorMoveHandler : Option (EvdiCursorMove → Process σ → Process σ)
  ddcciDataHandler : Option (EvdiDdcciData → Process σ → Process σ)

/-- A call of a handler. -/
inductive HandlerCall
  | dpms (dpmsMode : Int32)
  | modeChanged (mode : EvdiMode)
  | updateReady (bufferToBeUpdated : Int32)
  | crtcState (state : Int32)
  | cursorSet (cursorSet : EvdiCursorSet)
  | cursorMove (cursorMove : EvdiCursorMove)
  | ddcciData (ddcciData : EvdiDdcciData)
  deriving DecidableEq

/-- The process, and the calls of handlers so far. -/
structure Dispatch (σ : Type*) where
  process : Process σ
  calls : List HandlerCall

section

variable {σ : Type*}

/-- The call of a handler, if there is one. -/
def Dispatch.call {α : Type*} (name : α → HandlerCall) (handler : α → Process σ → Process σ) (arg : α)
    (s : Dispatch σ) : Dispatch σ :=
  ⟨handler arg s.process, s.calls ++ [name arg]⟩

/-! ### Cursor images -/

/-- The system calls that map the image of a cursor: `DRM_IOCTL_MODE_MAP_DUMB`, with the offset for a
handle, and `mmap` of so many bytes at an offset. -/
structure MapCalls (σ : Type*) where
  mapDumb : UInt32 → Process σ → Process σ × Option UInt64
  mmap : UInt32 → UInt64 → Process σ → Process σ × Option Memory

/-- `evdi_enable_cursor_events`. -/
def evdiEnableCursorEvents (enable : Bool) (p : Process σ) : Process σ :=
  { p with device := (painterEnableCursorEventsIoctl ⟨enable.toUInt8⟩ p.device).1 }

/-- `to_evdi_mode`. -/
def toEvdiMode (event : List UInt8) : EvdiMode where
  width := int32Field event 8
  height := int32Field event 12
  refreshRate := int32Field event 16
  bitsPerPixel := int32Field event 20
  pixelFormat := .ofNat (field event 24 4)

/-- `to_evdi_cursor_set`. -/
def toEvdiCursorSet (sys : MapCalls σ) (event : List UInt8) (p : Process σ) :
    Process σ × EvdiCursorSet :=
  let cursorSet : EvdiCursorSet :=
    { hotX := int32Field event 8
      hotY := int32Field event 12
      width := .ofNat (field event 16 4)
      height := .ofNat (field event 20 4)
      enabled := .ofNat (field event 24 1)
      bufferLength := 0
      buffer := none
      pixelFormat := .ofNat (field event 36 4)
      stride := .ofNat (field event 40 4) }
  if cursorSet.enabled ≠ 0 then
    let size := UInt32.ofNat (field event 32 4)
    match sys.mapDumb (.ofNat (field event 28 4)) p with
    | (p, none) => (p, cursorSet)
    | (p, some offset) =>
      match sys.mmap size offset p with
      | (p, some ptr) =>
        (p, { cursorSet with buffer := some (bytesAt ptr 0 size.toNat), bufferLength := size })
      | (p, none) => (p, cursorSet)
  else (p, cursorSet)

/-- `to_evdi_cursor_move`. -/
def toEvdiCursorMove (event : List UInt8) : EvdiCursorMove where
  x := int32Field event 8
  y := int32Field event 12

/-- `to_evdi_ddcci_data`. -/
def toEvdiDdcciData (event : List UInt8) : EvdiDdcciData where
  address := .ofNat (field event 78 2)
  flags := .ofNat (field event 76 2)
  buffer := (event.drop 8).take 64
  bufferLength := .ofNat (field event 72 4)

/-! ### The walk -/

/-- `evdi_handle_event`, for the event at the offset `e` of the buffer. -/
def evdiHandleEvent (sys : MapCalls σ) (evtctx : EvdiEventContext σ) (buffer : Memory) (e : ℤ)
    (s : Dispatch σ) : Dispatch σ :=
  match UInt32.ofNat (field (bytesAt buffer e 8) 0 4) with
  | 0x80000000 =>
    match evtctx.updateReadyHandler with
    | some handler => s.call .updateReady handler s.process.handle.bufferToUpdate
    | none => s
  | 0x80000001 =>
    match evtctx.dpmsHandler with
    | some handler => s.call .dpms handler (int32Field (bytesAt buffer e 12) 8)
    | none => s
  | 0x80000002 =>
    match evtctx.modeChangedHandler with
    | some handler => s.call .modeChanged handler (toEvdiMode (bytesAt buffer e 28))
    | none => s
  | 0x80000003 =>
    match evtctx.crtcStateHandler with
    | some handler => s.call .crtcState handler (int32Field (bytesAt buffer e 12) 8)
    | none => s
  | 0x80000004 =>
    match evtctx.cursorSetHandler with
    | some handler =>
      let (p, cursorSet) := toEvdiCursorSet sys (bytesAt buffer e 44) s.process
      if cursorSet.enabled ≠ 0 ∧ cursorSet.buffer = none then
        { s with process := evdiEnableCursorEvents false p }.call .cursorSet handler
          { cursorSet with enabled := 0, bufferLength := 0 }
      else { s with process := p }.call .cursorSet handler cursorSet
    | none => s
  | 0x80000005 =>
    match evtctx.cursorMoveHandler with
    | some handler => s.call .cursorMove handler (toEvdiCursorMove (bytesAt buffer e 16))
    | none => s
  | 0x80000006 =>
    match evtctx.ddcciDataHandler with
    | some handler => s.call .ddcciData handler (toEvdiDdcciData (bytesAt buffer e 80))
    | none => s
  | _ => s

/-- What `read` has returned, and the library's buffer after it. -/
structure ReadResult where
  bytesRead : ℤ
  buffer : Memory

/-- A turn of the loop of `evdi_handle_events`, at the offset `i`. -/
def handleEventAt (sys : MapCalls σ) (evtctx : EvdiEventContext σ) (buffer : Memory)
    (t : ℤ × Dispatch σ) : ℤ × Dispatch σ :=
  (s32 (t.1 + field (bytesAt buffer t.1 8) 4 4), evdiHandleEvent sys evtctx buffer t.1 t.2)

/-- `evdi_handle_events`, given up after `n` events. -/
def evdiHandleEvents (n : ℕ) (sys : MapCalls σ) (evtctx : Option (EvdiEventContext σ))
    (read : ReadResult) (s : Dispatch σ) : Option (Dispatch σ) :=
  match evtctx with
  | none => some s
  | some evtctx =>
    (whileLoop (fun t => t.1 < read.bytesRead) (handleEventAt sys evtctx read.buffer) n (0, s)).map
      Prod.snd

end

end Evdi
