import Evdi.Model.Dispatch
import Evdi.Model.Wire

/-!
# The library decodes what the driver encodes

`Event.deliver` is what an event is meant to do to the client: its handler, if there is one, is called
with the event's own fields.  The library gets there from the bytes: `evdiHandleEvent_deliver` for one
event, wherever it stands in the buffer, `whileLoop_events` for the walk over a read, and
`decoding_undoes_encoding` for any number of reads.
-/

namespace Evdi

open Bytes While Words

section

variable {σ : Type*}

/-! ### What an event is meant to do -/

/-- The image of a cursor, if it can be mapped. -/
def MapCalls.image (sys : MapCalls σ) (bufferHandle bufferLength : UInt32) (p : Process σ) :
    Process σ × Option (List UInt8) :=
  match sys.mapDumb bufferHandle p with
  | (p, none) => (p, none)
  | (p, some offset) =>
    ((sys.mmap bufferLength offset p).1,
      (sys.mmap bufferLength offset p).2.map (bytesAt · 0 bufferLength.toNat))

/-- A handler is called, if it is registered. -/
def Dispatch.callIf {α : Type*} (name : α → HandlerCall)
    (handler : Option (α → Process σ → Process σ)) (arg : α) (s : Dispatch σ) : Dispatch σ :=
  handler.elim s fun handler => s.call name handler arg

/-- The call for a cursor: it is reported enabled when it is and its image could be mapped. When the
image could not, cursor events are turned off. -/
def Dispatch.callCursorSet (sys : MapCalls σ) (handler : EvdiCursorSet → Process σ → Process σ)
    (cursorSet : EvdiCursorSet) (enabled : Bool) (bufferHandle bufferLength : UInt32)
    (s : Dispatch σ) : Dispatch σ :=
  if enabled then
    match sys.image bufferHandle bufferLength s.process with
    | (p, some image) => { s with process := p }.call .cursorSet handler
        { cursorSet with enabled := 1, buffer := some image, bufferLength := bufferLength }
    | (p, none) => { s with process := evdiEnableCursorEvents false p }.call .cursorSet handler
        cursorSet
  else s.call .cursorSet handler cursorSet

/-- What an event is meant to do. -/
def Event.deliver (sys : MapCalls σ) (evtctx : EvdiEventContext σ) (s : Dispatch σ) :
    Event → Dispatch σ
  | .updateReady =>
    s.callIf .updateReady evtctx.updateReadyHandler s.process.handle.bufferToUpdate
  | .dpms mode => s.callIf .dpms evtctx.dpmsHandler mode
  | .modeChanged hdisplay vdisplay vrefresh bitsPerPixel pixelFormat =>
    s.callIf .modeChanged evtctx.modeChangedHandler
      ⟨hdisplay, vdisplay, vrefresh, bitsPerPixel, pixelFormat⟩
  | .cursorSet hotX hotY width height enabled bufferHandle bufferLength pixelFormat stride =>
    evtctx.cursorSetHandler.elim s fun handler => s.callCursorSet sys handler
      { hotX, hotY, width, height, enabled := 0, bufferLength := 0, buffer := none, pixelFormat,
        stride }
      enabled bufferHandle bufferLength
  | .cursorMove x y => s.callIf .cursorMove evtctx.cursorMoveHandler ⟨x, y⟩
  | .ddcciData buffer bufferLength flags address =>
    s.callIf .ddcciData evtctx.ddcciDataHandler
      { address, flags, bufferLength, buffer := buffer ++ List.replicate (64 - buffer.length) 0 }

/-- The handler for an event is registered. -/
def Event.handled (evtctx : EvdiEventContext σ) : Event → Bool
  | .updateReady => evtctx.updateReadyHandler.isSome
  | .dpms _ => evtctx.dpmsHandler.isSome
  | .modeChanged .. => evtctx.modeChangedHandler.isSome
  | .cursorSet .. => evtctx.cursorSetHandler.isSome
  | .cursorMove .. => evtctx.cursorMoveHandler.isSome
  | .ddcciData .. => evtctx.ddcciDataHandler.isSome

/-- A call carries the fields of the event. A cursor is reported with as many bytes as the event says,
or as disabled, without any. -/
inductive Event.ReportedAs : Event → HandlerCall → Prop
  | updateReady (bufferToUpdate : Int32) :
      Event.ReportedAs .updateReady (.updateReady bufferToUpdate)
  | dpms (mode : Int32) : Event.ReportedAs (.dpms mode) (.dpms mode)
  | modeChanged (hdisplay vdisplay vrefresh bitsPerPixel : Int32) (pixelFormat : UInt32) :
      Event.ReportedAs (.modeChanged hdisplay vdisplay vrefresh bitsPerPixel pixelFormat)
        (.modeChanged ⟨hdisplay, vdisplay, vrefresh, bitsPerPixel, pixelFormat⟩)
  | cursorSetMapped (hotX hotY : Int32)
      (width height bufferHandle bufferLength pixelFormat stride : UInt32) (image : List UInt8) :
      image.length = bufferLength.toNat →
      Event.ReportedAs
        (.cursorSet hotX hotY width height true bufferHandle bufferLength pixelFormat stride)
        (.cursorSet ⟨hotX, hotY, width, height, 1, bufferLength, some image, pixelFormat, stride⟩)
  | cursorSetDisabled (hotX hotY : Int32) (width height : UInt32) (enabled : Bool)
      (bufferHandle bufferLength pixelFormat stride : UInt32) :
      Event.ReportedAs
        (.cursorSet hotX hotY width height enabled bufferHandle bufferLength pixelFormat stride)
        (.cursorSet ⟨hotX, hotY, width, height, 0, 0, none, pixelFormat, stride⟩)
  | cursorMove (x y : Int32) : Event.ReportedAs (.cursorMove x y) (.cursorMove ⟨x, y⟩)
  | ddcciData (data : List UInt8) (bufferLength : UInt32) (flags address : UInt16) :
      Event.ReportedAs (.ddcciData data bufferLength flags address)
        (.ddcciData ⟨address, flags, bufferLength, data ++ List.replicate (64 - data.length) 0⟩)

theorem calls_callIf {α : Type*} (name : α → HandlerCall)
    (handler : Option (α → Process σ → Process σ)) (arg : α) (s : Dispatch σ) :
    (s.callIf name handler arg).calls =
      s.calls ++ if handler.isSome then [name arg] else [] := by
  cases handler <;> simp [Dispatch.callIf, Dispatch.call]

/-- The bytes of an image are as many as asked for. -/
theorem length_image {sys : MapCalls σ} {bufferHandle bufferLength : UInt32} {p : Process σ}
    {image : List UInt8} (h : (sys.image bufferHandle bufferLength p).2 = some image) :
    image.length = bufferLength.toNat := by
  unfold MapCalls.image at h
  split at h
  · simp at h
  · obtain ⟨ptr, -, rfl⟩ := Option.map_eq_some_iff.1 h
    exact length_bytesAt _ _ _

/-- An event makes one call if its handler is registered, and none otherwise. -/
theorem calls_deliver (sys : MapCalls σ) (evtctx : EvdiEventContext σ) (s : Dispatch σ) (e : Event) :
    ∃ call, e.ReportedAs call ∧
      (e.deliver sys evtctx s).calls = s.calls ++ if e.handled evtctx then [call] else [] := by
  cases e with
  | updateReady => exact ⟨_, .updateReady _, calls_callIf _ _ _ _⟩
  | dpms mode => exact ⟨_, .dpms mode, calls_callIf _ _ _ _⟩
  | modeChanged hdisplay vdisplay vrefresh bitsPerPixel pixelFormat =>
    exact ⟨_, .modeChanged .., calls_callIf _ _ _ _⟩
  | cursorSet hotX hotY width height enabled bufferHandle bufferLength pixelFormat stride =>
    have hdisabled := Event.ReportedAs.cursorSetDisabled hotX hotY width height enabled bufferHandle
      bufferLength pixelFormat stride
    rw [Event.deliver, Event.handled]
    cases evtctx.cursorSetHandler with
    | none => exact ⟨_, hdisabled, by simp⟩
    | some handler =>
      cases enabled with
      | false => exact ⟨_, hdisabled, by simp [Dispatch.callCursorSet, Dispatch.call]⟩
      | true =>
        rcases himage : sys.image bufferHandle bufferLength s.process with ⟨p, _ | image⟩
        · exact ⟨_, hdisabled, by simp [Dispatch.callCursorSet, himage, Dispatch.call]⟩
        · exact ⟨_, .cursorSetMapped _ _ _ _ _ _ _ _ image (length_image (by rw [himage])),
            by simp [Dispatch.callCursorSet, himage, Dispatch.call]⟩
  | cursorMove x y => exact ⟨_, .cursorMove x y, calls_callIf _ _ _ _⟩
  | ddcciData data bufferLength flags address =>
    exact ⟨_, .ddcciData data bufferLength flags address, calls_callIf _ _ _ _⟩

/-- Events make their calls in their order. -/
theorem calls_foldl_deliver (sys : MapCalls σ) (evtctx : EvdiEventContext σ) (events : List Event)
    (s : Dispatch σ) : ∃ calls,
      (events.foldl (Event.deliver sys evtctx) s).calls = s.calls ++ calls ∧
      List.Forall₂ Event.ReportedAs (events.filter (·.handled evtctx)) calls := by
  induction events generalizing s with
  | nil => exact ⟨[], by simp, .nil⟩
  | cons e events ih =>
    obtain ⟨call, hcall, hcalls⟩ := calls_deliver sys evtctx s e
    obtain ⟨rest, hrest, hforall⟩ := ih (e.deliver sys evtctx s)
    rw [List.foldl_cons, hrest, hcalls]
    cases hh : e.handled evtctx with
    | true =>
      rw [List.filter_cons_of_pos hh]
      exact ⟨call :: rest, by simp, .cons hcall hforall⟩
    | false =>
      rw [List.filter_cons_of_neg (by simp [hh])]
      exact ⟨rest, by simp, hforall⟩

/-! ### One event -/

variable {buffer : Memory} {i : ℤ} {e : Event}

/-- The header of an event in the buffer. -/
theorem bytesAt_header (h : bytesAt buffer i e.size = e.bytes) :
    bytesAt buffer i 8 = pack [(4, e.type.toNat), (4, e.size)] := by
  rw [← take_bytesAt buffer i (eight_le_size e), h, Event.bytes]
  exact List.take_left' (by simp)

theorem type_header (h : bytesAt buffer i e.size = e.bytes) :
    UInt32.ofNat (field (bytesAt buffer i 8) 0 4) = e.type := by
  rw [bytesAt_header h]
  simp [field_le]

theorem length_header (h : bytesAt buffer i e.size = e.bytes) :
    field (bytesAt buffer i 8) 4 4 = e.size := by
  rw [bytesAt_header h]
  cases e <;> simp [field_le_self, field_of_le, Event.size]

theorem toEvdiMode_bytes (hdisplay vdisplay vrefresh bitsPerPixel : Int32) (pixelFormat : UInt32) :
    toEvdiMode (Event.modeChanged hdisplay vdisplay vrefresh bitsPerPixel pixelFormat).bytes =
      ⟨hdisplay, vdisplay, vrefresh, bitsPerPixel, pixelFormat⟩ := by
  simp [toEvdiMode, Event.bytes, Event.body, int32Field, field_le, field_le_self, field_of_le]

theorem toEvdiCursorMove_bytes (x y : Int32) :
    toEvdiCursorMove (Event.cursorMove x y).bytes = ⟨x, y⟩ := by
  simp [toEvdiCursorMove, Event.bytes, Event.body, int32Field, field_le, field_le_self, field_of_le]

theorem toEvdiDdcciData_bytes {data : List UInt8} {bufferLength : UInt32} (flags address : UInt16)
    (h : data.length ≤ 64) :
    toEvdiDdcciData (Event.ddcciData data bufferLength flags address).bytes =
      { address, flags, bufferLength, buffer := data ++ List.replicate (64 - data.length) 0 } := by
  let header := pack [(4, (Event.ddcciData data bufferLength flags address).type.toNat), (4, 80)]
  let array := data ++ List.replicate (64 - data.length) 0
  let rest := pack [(4, bufferLength.toNat), (2, flags.toNat), (2, address.toNat)]
  have hheader : header.length = 8 := by simp [header]
  have harray : array.length = 64 := by
    simp only [array, List.length_append, List.length_replicate]
    omega
  have hbytes : (Event.ddcciData data bufferLength flags address).bytes = header ++ (array ++ rest) :=
    rfl
  have hfield : ∀ offset size, 72 ≤ offset →
      field (header ++ (array ++ rest)) offset size = field rest (offset - 72) size := by
    intro offset size hoffset
    rw [field_append hheader _ _ (by omega), field_append harray _ _ (by omega), Nat.sub_sub]
  have hbuffer : ((header ++ (array ++ rest)).drop 8).take 64 = array := by
    rw [List.drop_left' hheader, List.take_left' harray]
  rw [hbytes, toEvdiDdcciData, hfield _ _ (by norm_num), hfield _ _ (by norm_num),
    hfield _ _ (by norm_num), hbuffer]
  simp [rest, array, field_le, field_le_self, field_of_le]

theorem toEvdiCursorSet_bytes (sys : MapCalls σ) (hotX hotY : Int32) (width height : UInt32)
    (enabled : Bool) (bufferHandle bufferLength pixelFormat stride : UInt32) (p : Process σ) :
    toEvdiCursorSet sys (Event.cursorSet hotX hotY width height enabled bufferHandle bufferLength
      pixelFormat stride).bytes p =
    if enabled then
      ((sys.image bufferHandle bufferLength p).1,
        { hotX, hotY, width, height, enabled := 1
          bufferLength := if (sys.image bufferHandle bufferLength p).2.isSome then bufferLength else 0
          buffer := (sys.image bufferHandle bufferLength p).2, pixelFormat, stride })
    else
      (p, { hotX, hotY, width, height, enabled := 0, bufferLength := 0, buffer := none, pixelFormat,
            stride }) := by
  cases enabled with
  | false =>
    simp [toEvdiCursorSet, Event.bytes, Event.body, int32Field, field_le, field_le_self, field_of_le]
  | true =>
    rw [MapCalls.image]
    simp [toEvdiCursorSet, Event.bytes, Event.body, int32Field, field_le, field_le_self, field_of_le]
    rcases sys.mapDumb bufferHandle p with ⟨q, _ | offset⟩
    · simp
    · simp
      rcases sys.mmap bufferLength offset q with ⟨r, _ | ptr⟩ <;> simp

theorem mode_bytes (mode : Int32) : int32Field (Event.dpms mode).bytes 8 = mode := by
  simp [Event.bytes, Event.body, int32Field, field_le_self, field_of_le]

/-- **One event.** -/
theorem evdiHandleEvent_deliver (sys : MapCalls σ) (evtctx : EvdiEventContext σ) (s : Dispatch σ)
    (hwf : e.WellFormed) (h : bytesAt buffer i e.size = e.bytes) :
    evdiHandleEvent sys evtctx buffer i s = e.deliver sys evtctx s := by
  rw [evdiHandleEvent, type_header h]
  cases e with
  | updateReady =>
    cases hh : evtctx.updateReadyHandler <;> simp [Event.type, Event.deliver, Dispatch.callIf, hh]
  | dpms mode =>
    have hbytes : bytesAt buffer i 12 = (Event.dpms mode).bytes := h
    cases hh : evtctx.dpmsHandler <;>
      simp [Event.type, Event.deliver, Dispatch.callIf, hh, hbytes, mode_bytes]
  | modeChanged hdisplay vdisplay vrefresh bitsPerPixel pixelFormat =>
    have hbytes : bytesAt buffer i 28 =
      (Event.modeChanged hdisplay vdisplay vrefresh bitsPerPixel pixelFormat).bytes := h
    cases hh : evtctx.modeChangedHandler <;>
      simp [Event.type, Event.deliver, Dispatch.callIf, hh, hbytes, toEvdiMode_bytes]
  | cursorSet hotX hotY width height enabled bufferHandle bufferLength pixelFormat stride =>
    have hbytes : bytesAt buffer i 44 = (Event.cursorSet hotX hotY width height enabled bufferHandle
      bufferLength pixelFormat stride).bytes := h
    cases hh : evtctx.cursorSetHandler with
    | none => simp [Event.type, Event.deliver, hh]
    | some handler =>
      simp only [Event.type, Event.deliver, hh, hbytes, toEvdiCursorSet_bytes,
        Dispatch.callCursorSet, Option.elim_some]
      cases enabled with
      | false => simp
      | true =>
        rcases sys.image bufferHandle bufferLength s.process with ⟨p, _ | image⟩ <;> simp
  | cursorMove x y =>
    have hbytes : bytesAt buffer i 16 = (Event.cursorMove x y).bytes := h
    cases hh : evtctx.cursorMoveHandler <;>
      simp [Event.type, Event.deliver, Dispatch.callIf, hh, hbytes, toEvdiCursorMove_bytes]
  | ddcciData data bufferLength flags address =>
    have hbytes : bytesAt buffer i 80 =
      (Event.ddcciData data bufferLength flags address).bytes := h
    have h64 : data.length ≤ 64 := hwf.1 ▸ UInt32.le_iff_toNat_le.1 hwf.2
    cases hh : evtctx.ddcciDataHandler <;>
      simp [Event.type, Event.deliver, Dispatch.callIf, hh, hbytes, toEvdiDdcciData_bytes _ _ h64]

/-! ### Reads -/

/-- What the library's `read` returns for the events. -/
def EventRead.result (r : EventRead) : ReadResult where
  bytesRead := (r.events.flatMap Event.bytes).length
  buffer := overwrite (r.events.flatMap Event.bytes) r.stale

/-- `evdi_handle_events` called once for each read. -/
def handleReads (n : ℕ) (sys : MapCalls σ) (evtctx : EvdiEventContext σ) (reads : List EventRead)
    (s : Dispatch σ) : Option (Dispatch σ) :=
  reads.foldlM (fun s r => evdiHandleEvents n sys (some evtctx) r.result s) s

/-- The walk from behind the bytes `before` to the end. -/
theorem whileLoop_events (sys : MapCalls σ) (evtctx : EvdiEventContext σ) (stale : Memory)
    {total : List UInt8} (hfits : total.length ≤ 1024) {events : List Event}
    (hwf : ∀ e ∈ events, e.WellFormed) {before : List UInt8}
    (htotal : total = before ++ events.flatMap Event.bytes) (s : Dispatch σ) {n : ℕ}
    (hn : events.length ≤ n) :
    whileLoop (fun t => t.1 < (total.length : ℤ))
      (handleEventAt sys evtctx (overwrite total stale)) n ((before.length : ℤ), s) =
      some ((total.length : ℤ), events.foldl (Event.deliver sys evtctx) s) := by
  induction events generalizing before s n with
  | nil =>
    rw [List.flatMap_nil, List.append_nil] at htotal
    rw [htotal]
    exact whileLoop_stop (by simp) n
  | cons e events ih =>
    obtain ⟨m, rfl⟩ : ∃ m, n = m + 1 := ⟨n - 1, by simp at hn; omega⟩
    have hwfe : e.WellFormed := hwf e List.mem_cons_self
    have hsize : e.bytes.length = e.size := length_bytes hwfe
    have hpos := eight_le_size e
    rw [List.flatMap_cons] at htotal
    have hlength : total.length =
        before.length + (e.size + (events.flatMap Event.bytes).length) := by
      rw [htotal, List.length_append, List.length_append, hsize]
    have hbytes : bytesAt (overwrite total stale) before.length e.size = e.bytes := by
      rw [htotal, ← hsize, bytesAt_overwrite]
    have hnext : s32 (before.length + e.size) = ((before ++ e.bytes).length : ℕ) := by
      rw [s32_of_bounds (by omega) (by omega), List.length_append, hsize, Nat.cast_add]
    rw [whileLoop_turn (by simp; omega), handleEventAt, length_header hbytes, hnext,
      evdiHandleEvent_deliver sys evtctx s hwfe hbytes]
    exact ih (fun e' he' => hwf e' (List.mem_cons_of_mem _ he')) (by rw [htotal, List.append_assoc])
      _ (by simp at hn; omega)

/-- A read has at most 128 events. -/
theorem length_events_le (r : EventRead) : r.events.length ≤ 128 := by
  have hlength : ∀ events : List Event, (∀ e ∈ events, e.WellFormed) →
      8 * events.length ≤ (events.flatMap Event.bytes).length := by
    intro events hwf
    induction events with
    | nil => simp
    | cons e events ih =>
      have hsize := length_bytes (hwf e List.mem_cons_self)
      have hpos := eight_le_size e
      have := ih fun e' he' => hwf e' (List.mem_cons_of_mem _ he')
      simp only [List.flatMap_cons, List.length_append, List.length_cons]
      omega
  have := hlength r.events r.wellFormed
  have := r.fits
  omega

/-- **One read.** -/
theorem evdiHandleEvents_read (sys : MapCalls σ) (evtctx : EvdiEventContext σ) (r : EventRead)
    (s : Dispatch σ) {n : ℕ} (hn : 128 ≤ n) :
    evdiHandleEvents n sys (some evtctx) r.result s =
      some (r.events.foldl (Event.deliver sys evtctx) s) := by
  have hwalk := whileLoop_events sys evtctx r.stale r.fits r.wellFormed (List.nil_append _).symm s
    ((length_events_le r).trans hn)
  exact congrArg (Option.map Prod.snd) hwalk

/-- **Decoding undoes encoding.** However a sequence of events is cut into reads, the calls end, with
what the events are meant to do in their order: one call for each event that has a handler. -/
theorem decoding_undoes_encoding (sys : MapCalls σ) (evtctx : EvdiEventContext σ)
    (reads : List EventRead) (s : Dispatch σ) :
    let events := reads.flatMap (·.events)
    let final := events.foldl (Event.deliver sys evtctx) s
    (∃ turns, ∀ n ≥ turns, handleReads n sys evtctx reads s = some final) ∧
    ∃ calls, final.calls = s.calls ++ calls ∧
      List.Forall₂ Event.ReportedAs (events.filter (·.handled evtctx)) calls := by
  refine ⟨⟨128, fun n hn => ?_⟩, calls_foldl_deliver sys evtctx _ s⟩
  induction reads generalizing s with
  | nil => rfl
  | cons r reads ih =>
    rw [handleReads, List.foldlM_cons, evdiHandleEvents_read sys evtctx r s hn, List.flatMap_cons,
      List.foldl_append]
    exact ih _

end

end Evdi
