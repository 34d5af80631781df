import Evdi.Properties.Decoding

/-!
# The walk over a read

`evdi_handle_events` trusts the bytes: it goes on by the length that it finds in them, and looks at no
more than the type before it casts an event.  So where it looks depends on what the file behind the
handle gives.  `WholeRecords` says what `drm_read` gives: nothing, or records that lie whole in the
bytes read, each with its length in its header and as long as the structure of its type.

* `eventOffsets`: the offsets at which the walk hands an event to `evdi_handle_event`;
  `evdiHandleEvents_offsets` ties it to `evdi_handle_events`;
* `evdiHandleEvent_congr`: handling an event looks at `recordSize` bytes and no others;
* `events_inside`: over whole records the walk ends and stays inside the bytes read;
* `EventRead.wholeRecords`: the driver's events are whole records.
-/

namespace Evdi

open Bytes While Words

section

variable {σ : Type*}

/-! ### What an event takes -/

/-- The type in an event's header. -/
def eventType (buffer : Memory) (i : ℤ) : UInt32 := .ofNat (field (bytesAt buffer i 8) 0 4)

/-- The `sizeof` of the structure that an event of the type is cast to; the header for a type that is
not known. -/
def recordSize (type : UInt32) : ℕ :=
  match type with
  | 0x80000001 => 12
  | 0x80000002 => 28
  | 0x80000003 => 12
  | 0x80000004 => 44
  | 0x80000005 => 16
  | 0x80000006 => 80
  | _ => 8

theorem eight_le_recordSize (type : UInt32) : 8 ≤ recordSize type := by
  unfold recordSize
  split <;> norm_num

theorem recordSize_type (e : Event) : recordSize e.type = e.size := by
  cases e <;> rfl

/-- Handling an event looks at the bytes of its structure. -/
theorem evdiHandleEvent_congr (sys : MapCalls σ) (evtctx : EvdiEventContext σ) {buffer buffer' : Memory}
    {i : ℤ} (s : Dispatch σ)
    (h : bytesAt buffer i (recordSize (eventType buffer i)) =
      bytesAt buffer' i (recordSize (eventType buffer i))) :
    evdiHandleEvent sys evtctx buffer i s = evdiHandleEvent sys evtctx buffer' i s := by
  have hfront : ∀ n ≤ recordSize (eventType buffer i), bytesAt buffer i n = bytesAt buffer' i n := by
    intro n hn
    rw [← take_bytesAt buffer i hn, h, take_bytesAt buffer' i hn]
  have hheader := hfront 8 (eight_le_recordSize _)
  have htype : eventType buffer i = eventType buffer' i := by rw [eventType, eventType, hheader]
  have hmatch : ∀ b : Memory, UInt32.ofNat (field (bytesAt b i 8) 0 4) = eventType b i :=
    fun _ => rfl
  unfold evdiHandleEvent
  rw [hmatch, hmatch, ← htype]
  -- each type is cast to a structure of its `recordSize`
  split
  case h_1 => rfl
  case h_8 => rfl
  all_goals
    rename_i heq
    rw [heq] at hfront
    have hrecord := hfront _ le_rfl
    simp only [recordSize] at hrecord
    simp only [hrecord]

/-! ### Where the walk looks -/

/-- A turn of the walk, with the offsets so far. -/
def offsetAt (buffer : Memory) (t : ℤ × List ℤ) : ℤ × List ℤ :=
  (s32 (t.1 + field (bytesAt buffer t.1 8) 4 4), t.2 ++ [t.1])

/-- The offsets of the events that `evdi_handle_events` hands to `evdi_handle_event`, given up after `n`
events. -/
def eventOffsets (n : ℕ) (read : ReadResult) : Option (List ℤ) :=
  (whileLoop (fun t => t.1 < read.bytesRead) (offsetAt read.buffer) n (0, [])).map Prod.snd

/-- The calls are those at the offsets, one after another. -/
theorem evdiHandleEvents_offsets (n : ℕ) (sys : MapCalls σ) (evtctx : EvdiEventContext σ)
    (read : ReadResult) (s : Dispatch σ) :
    evdiHandleEvents n sys (some evtctx) read s = (eventOffsets n read).map
      fun offsets => offsets.foldl (fun s i => evdiHandleEvent sys evtctx read.buffer i s) s := by
  let calls : ℤ × List ℤ → ℤ × Dispatch σ := fun t =>
    (t.1, t.2.foldl (fun s i => evdiHandleEvent sys evtctx read.buffer i s) s)
  have hturn : ∀ t, handleEventAt sys evtctx read.buffer (calls t) = calls (offsetAt read.buffer t) :=
    fun t => by simp [calls, handleEventAt, offsetAt]
  have hwalk : whileLoop (fun t => t.1 < read.bytesRead) (handleEventAt sys evtctx read.buffer) n
      (0, s) = (whileLoop (fun t => t.1 < read.bytesRead) (offsetAt read.buffer) n (0, [])).map calls :=
    whileLoop_map calls (fun _ => rfl) hturn n (0, [])
  rw [evdiHandleEvents, eventOffsets, hwalk, Option.map_map, Option.map_map]
  rfl

/-! ### Whole records -/

/-- A record: its length is in its header, and the structure of its type fits into it. -/
structure IsRecord (r : List UInt8) : Prop where
  length : field r 4 4 = r.length
  size : recordSize (.ofNat (field r 0 4)) ≤ r.length

/-- The bytes read, if any, are whole records. -/
def WholeRecords (read : ReadResult) : Prop :=
  ∃ records : List (List UInt8), (∀ r ∈ records, IsRecord r) ∧
    bytesAt read.buffer 0 read.bytesRead.toNat = records.flatten

/-- An event of the driver is a record. -/
theorem isRecord_bytes {e : Event} (h : e.WellFormed) : IsRecord e.bytes where
  length := by
    rw [length_bytes h]
    cases e <;> simp [Event.bytes, field_le, field_of_le, Event.size]
  size := by
    have htype : UInt32.ofNat (field e.bytes 0 4) = e.type := by simp [Event.bytes, field_le]
    rw [htype, recordSize_type, length_bytes h]

/-- What the driver's `drm_read` gives. -/
theorem EventRead.wholeRecords (r : EventRead) : WholeRecords r.result := by
  refine ⟨r.events.map Event.bytes, ?_, ?_⟩
  · intro bs hbs
    obtain ⟨e, he, rfl⟩ := List.mem_map.1 hbs
    exact isRecord_bytes (r.wellFormed e he)
  · rw [← List.flatMap_def]
    exact bytesAt_overwrite_all r.stale _

/-- An event at the offset lies in the bytes read, its structure included. -/
def Inside (read : ReadResult) (i : ℤ) : Prop :=
  0 ≤ i ∧ i + recordSize (eventType read.buffer i) ≤ read.bytesRead

/-- What the walk finds where a record stands. -/
theorem eventType_record {read : ReadResult} {before after : List (List UInt8)} {r : List UInt8}
    (h : bytesAt read.buffer 0 read.bytesRead.toNat = (before ++ r :: after).flatten)
    (hr : IsRecord r) :
    eventType read.buffer before.flatten.length = .ofNat (field r 0 4) ∧
      field (bytesAt read.buffer before.flatten.length 8) 4 4 = r.length := by
  have hsize : 8 ≤ r.length := (eight_le_recordSize _).trans hr.size
  have hat : bytesAt read.buffer before.flatten.length r.length = r :=
    bytesAt_segment (by rw [h, List.flatten_append, List.flatten_cons])
  have hheader : bytesAt read.buffer before.flatten.length 8 = r.take 8 := by
    rw [← take_bytesAt _ _ hsize, hat]
  refine ⟨?_, ?_⟩
  · rw [eventType, hheader, field_take _ (by norm_num)]
  · rw [hheader, field_take _ (by norm_num), hr.length]

/-- The walk over whole records. -/
theorem eventOffsets_wholeRecords {read : ReadResult} (h1024 : read.bytesRead ≤ 1024)
    (h : WholeRecords read) {n : ℕ} (hn : 1024 ≤ n) :
    ∃ offsets, eventOffsets n read = some offsets ∧ ∀ i ∈ offsets, Inside read i := by
  obtain ⟨records, hrecords, hbytes⟩ := h
  -- the position is behind the first records, and every offset so far was inside
  let inv : ℤ × List ℤ → Prop := fun t =>
    (∃ before after, records = before ++ after ∧ t.1 = before.flatten.length) ∧
      ∀ i ∈ t.2, Inside read i
  have hbody : ∀ t : ℤ × List ℤ, inv t → decide (t.1 < read.bytesRead) = true →
      inv (offsetAt read.buffer t) ∧
        (read.bytesRead - (offsetAt read.buffer t).1).toNat < (read.bytesRead - t.1).toNat := by
    rintro ⟨i, offsets⟩ ⟨⟨before, after, rfl, hi⟩, hinside⟩ hlt
    dsimp only at hi hlt hinside
    subst hi
    rw [decide_eq_true_iff] at hlt
    have hlength := congrArg List.length hbytes
    rw [length_bytesAt, List.flatten_append, List.length_append] at hlength
    cases after with
    | nil =>
      rw [List.flatten_nil, List.length_nil] at hlength
      omega
    | cons r after =>
      have hr : IsRecord r := hrecords r (by simp)
      obtain ⟨htype, hfield⟩ := eventType_record hbytes hr
      have hsize : 8 ≤ r.length := (eight_le_recordSize _).trans hr.size
      have hfits := hr.size
      rw [List.flatten_cons, List.length_append] at hlength
      rw [offsetAt, hfield, s32_of_bounds (by omega) (by omega)]
      refine ⟨⟨⟨before ++ [r], after, by simp, by simp⟩, ?_⟩, by omega⟩
      rintro i hi
      rcases List.mem_append.1 hi with hi | hi
      · exact hinside i hi
      · rw [List.mem_singleton] at hi
        subst hi
        refine ⟨by omega, ?_⟩
        rw [htype]
        omega
  obtain ⟨t, hend, ⟨-, hinside⟩, -⟩ := whileLoop_total
    (fun t => (read.bytesRead - t.1).toNat) hbody (s := (0, []))
    ⟨⟨[], records, rfl, rfl⟩, by simp⟩ (n := n) (by dsimp only; omega)
  exact ⟨t.2, by rw [eventOffsets, hend, Option.map_some], hinside⟩

/-- **The walk stays inside whole records.** Over an error, an end of file or whole records it ends, and
every event that it hands on lies in the bytes read, its structure included. -/
theorem events_inside (sys : MapCalls σ) (evtctx : Option (EvdiEventContext σ)) {read : ReadResult}
    (s : Dispatch σ) (h1024 : read.bytesRead ≤ 1024) (h : WholeRecords read) {n : ℕ}
    (hn : 1024 ≤ n) :
    ∃ offsets, eventOffsets n read = some offsets ∧
      evdiHandleEvents n sys evtctx read s = some (evtctx.elim s fun evtctx =>
        offsets.foldl (fun s i => evdiHandleEvent sys evtctx read.buffer i s) s) ∧
      ∀ i ∈ offsets, Inside read i := by
  obtain ⟨offsets, hoffsets, hinside⟩ := eventOffsets_wholeRecords h1024 h hn
  refine ⟨offsets, hoffsets, ?_, hinside⟩
  cases evtctx with
  | none => rfl
  | some evtctx => rw [evdiHandleEvents_offsets, hoffsets, Option.map_some, Option.elim_some]

end

/-! ### Bytes that are not whole records -/

/-- No image can be mapped. -/
def MapCalls.unmapped : MapCalls Unit := ⟨fun _ p => (p, none), fun _ _ p => (p, none)⟩

/-- No handler is registered. -/
def EvdiEventContext.silent : EvdiEventContext Unit := ⟨none, none, none, none, none, none, none⟩

/-- A client without buffers. -/
def Dispatch.sample : Dispatch Unit :=
  ⟨⟨⟨0, []⟩, Device.init 0 (.init (.const true) (.const true)), ()⟩, []⟩

/-- A read of the given bytes. -/
def ReadResult.ofBytes (bs : List UInt8) : ReadResult := ⟨bs.length, overwrite bs fun _ => 0⟩

/-- A mode and an update. -/
def EventRead.sample : EventRead where
  events := [.modeChanged 1920 1080 60 32 0, .updateReady]
  stale := fun _ => 0
  wellFormed := by simp [Event.WellFormed]
  fits := by decide

theorem events_inside_sample : ∃ offsets, eventOffsets 1024 EventRead.sample.result = some offsets ∧
    evdiHandleEvents 1024 .unmapped (some .silent) EventRead.sample.result .sample =
      some (offsets.foldl
        (fun s i => evdiHandleEvent .unmapped .silent EventRead.sample.result.buffer i s) .sample) ∧
    ∀ i ∈ offsets, Inside EventRead.sample.result i :=
  events_inside _ (some .silent) _ (by decide) (EventRead.wholeRecords _) le_rfl

/-- An update whose length is zero. -/
def ReadResult.stuck : ReadResult := .ofBytes (pack [(4, 0x80000000), (4, 0)])

/-- The header of a mode, and nothing behind it. -/
def ReadResult.truncated : ReadResult := .ofBytes (pack [(4, 0x80000002), (4, 8)])

/-- Over a zero length the walk does not end; a mode cut short is read past its end. -/
theorem unframed_reads :
    (∀ n, evdiHandleEvents n .unmapped (some .silent) .stuck .sample = none) ∧
      eventOffsets 1 .truncated = some [0] ∧ ¬ Inside .truncated 0 := by
  refine ⟨fun n => ?_, by decide +kernel, ?_⟩
  · have hlength : field (bytesAt ReadResult.stuck.buffer 0 8) 4 4 = 0 := by decide +kernel
    have hspin : whileLoop (fun t => t.1 < ReadResult.stuck.bytesRead)
        (offsetAt ReadResult.stuck.buffer) n (0, []) = none := by
      refine whileLoop_none (fun t (ht : t.1 = 0) => ?_) (fun t ht => ?_) rfl n
      · rw [ht]
        decide
      · rw [offsetAt, ht, hlength]
        rfl
    rw [evdiHandleEvents_offsets, eventOffsets, hspin]
    rfl
  · rintro ⟨-, hend⟩
    exact absurd hend (by decide +kernel)

end Evdi
