import Evdi.Foundations.Section
import Evdi.Model.Device

/-!
# The painter's event queue

Events for the client are appended to `painter->pending_events` and handed to the DRM core in
order, as long as the client's queue has room (`drm_event_reserve_init_locked`); what does not fit
waits for the delayed work.  The steps of `evdi_painter_send_event` are atomic sections: the append
and the flush each run under the event lock, and other code may run in between.
-/

namespace Evdi

open Atomic

/-! ### Allocation -/

/-- The allocation and initialisation done by every `create_*_event` function: `NULL` when `kzalloc`
fails. -/
def createEvent (event : Event) (d : Device) : Device × Option PendingEvent :=
  if d.drm.kzalloc.head then
    (d.onDrm fun drm => { drm with kzalloc := drm.kzalloc.tail, nextSerial := drm.nextSerial + 1 },
      some ⟨d.drm.nextSerial, event⟩)
  else (d.onDrm fun drm => { drm with kzalloc := drm.kzalloc.tail }, none)

/-! ### The pending list -/

/-- `is_evdi_event_squashable`. -/
def isEvdiEventSquashable (e : PendingEvent) : Bool :=
  e.event.type == 0x80000004 || e.event.type == 0x80000005

/-- A new event takes the place of the last pending one. -/
def Supersedes (last e : PendingEvent) : Prop :=
  e.event.type = last.event.type ∧ isEvdiEventSquashable e = true

instance (last e : PendingEvent) : Decidable (Supersedes last e) :=
  inferInstanceAs (Decidable (_ ∧ _))

/-- The list operation of `evdi_painter_add_event_to_pending_list`: the list after it, and the
event freed. -/
def pushEvent (pending : List PendingEvent) (e : PendingEvent) :
    List PendingEvent × List PendingEvent :=
  match pending.getLast? with
  | some last =>
    if Supersedes last e then (pending.dropLast ++ [e], [last]) else (pending ++ [e], [])
  | none => (pending ++ [e], [])

/-- A new event goes behind the others, or takes the place of the last of them. -/
theorem pushEvent_cases (pending : List PendingEvent) (e : PendingEvent) :
    pushEvent pending e = (pending ++ [e], []) ∨
      ∃ rest last, pending = rest ++ [last] ∧ Supersedes last e ∧
        pushEvent pending e = (rest ++ [e], [last]) := by
  unfold pushEvent
  cases hlast : pending.getLast? with
  | none => exact .inl rfl
  | some last =>
    by_cases hsq : Supersedes last e
    · exact .inr ⟨pending.dropLast, last, (List.dropLast_append_getLast? last hlast).symm, hsq,
        if_pos hsq⟩
    · exact .inl (if_neg hsq)

/-- `evdi_painter_add_event_to_pending_list`. -/
def painterAddEventToPendingList (e : PendingEvent) (d : Device) : Device :=
  match d.painter with
  | none => d
  | some p =>
    { d with
      painter := some { p with pendingEvents := (pushEvent p.pendingEvents e).1 }
      drm := { d.drm with
        submitted := d.drm.submitted ++ [e]
        freed := d.drm.freed ++ (pushEvent p.pendingEvents e).2 } }

/-- The loop of `evdi_painter_flush_pending_events`: what stays pending, and the kernel after it. -/
def flushEvents : List PendingEvent → DrmCore → List PendingEvent × DrmCore
  | [], drm => ([], drm)
  | e :: rest, drm =>
    let hasSpace := drm.hasSpace.head
    let drm := { drm with hasSpace := drm.hasSpace.tail }
    if hasSpace then flushEvents rest { drm with delivered := drm.delivered ++ [e] }
    else (e :: rest, drm)

/-- `evdi_painter_flush_pending_events`: true when nothing is left. -/
def painterFlushPendingEvents (d : Device) : Device × Bool :=
  match d.painter with
  | none => (d, true)
  | some p =>
    let (left, drm) := flushEvents p.pendingEvents d.drm
    ({ d with painter := some { p with pendingEvents := left }, drm := drm }, left.isEmpty)

/-- `delayed_work_pending(&painter->send_events_work)`. -/
def delayedWorkPending (d : Device) : Bool :=
  match d.painter with
  | some p => p.sendEventsWorkPending
  | none => false

/-- `schedule_delayed_work(&painter->send_events_work, ...)`. -/
def scheduleDelayedWork (d : Device) : Device :=
  d.onPainter fun p => { p with sendEventsWorkPending := true }

/-- `painter->drm_filp` is set and `painter->is_connected` holds. The painter's `drm_device` is set
for as long as there is a painter. -/
def canSend (d : Device) : Bool :=
  match d.painter with
  | some p => p.drmFilp.isSome && p.isConnected
  | none => false

/-- `drm_event_cancel_free`. -/
def drmEventCancelFree (e : PendingEvent) (d : Device) : Device :=
  d.onDrm fun drm => { drm with freed := drm.freed ++ [e] }

/-- The part of `evdi_painter_send_event` after the append. -/
def flushOrSchedule : Prog Device Unit := do
  if ← .read delayedWorkPending then pure ()
  else if ← .act painterFlushPendingEvents then pure ()
  else .modify scheduleDelayedWork

/-- `evdi_painter_send_event`. -/
def painterSendEvent : Option PendingEvent → Prog Device Unit
  | none => pure ()
  | some e => do
    if ← .read canSend then
      .modify (painterAddEventToPendingList e)
      flushOrSchedule
    else .modify (drmEventCancelFree e)

/-- The delayed work starts, and is no longer pending. -/
def startDelayedWork (d : Device) : Device :=
  d.onPainter fun p => { p with sendEventsWorkPending := false }

/-- A run of `evdi_send_events_work`: flush and, if something is left, schedule again. -/
def sendEventsWork : Prog Device Unit := do
  .modify startDelayedWork
  if ← .act painterFlushPendingEvents then pure ()
  else .modify scheduleDelayedWork

/-- Create an event and send it, as every `evdi_painter_send_*` function does. -/
def createAndSend (event : Event) : Prog Device Unit := do
  painterSendEvent (← .act (createEvent event))

/-! ### The sections of sending -/

/-- The atomic sections that notifying the client and the delayed work are made of. -/
inductive SendSection : (Device → Device) → Prop
  | read : SendSection id
  | fgConsole : SendSection fun d => d.onPainter fun p => { p with fgConsole := d.fgConsole }
  | start : SendSection startDelayedWork
  | create (event : Device → Event) : SendSection fun d => (createEvent (event d) d).1
  | add (e : PendingEvent) : SendSection (painterAddEventToPendingList e)
  | flush : SendSection fun d => (painterFlushPendingEvents d).1
  | schedule : SendSection scheduleDelayedWork
  | cancel (e : PendingEvent) : SendSection (drmEventCancelFree e)

/-- What the flushing parts of sending are made of. -/
structure FlushKinds (P : (Device → Device) → Prop) : Prop where
  read : P id
  start : P startDelayedWork
  flush : P fun d => (painterFlushPendingEvents d).1
  schedule : P scheduleDelayedWork

section

variable {P : (Device → Device) → Prop}

theorem FlushKinds.flushOrSchedule (h : FlushKinds P) : flushOrSchedule.Uses P := by
  refine Prog.Uses.bind (Prog.uses_read h.read) fun pending => ?_
  split
  · exact Prog.uses_pure _
  · refine Prog.Uses.bind (Prog.uses_act h.flush) fun flushedAll => ?_
    split
    · exact Prog.uses_pure _
    · exact Prog.uses_modify h.schedule

theorem FlushKinds.sendEventsWork (h : FlushKinds P) : sendEventsWork.Uses P := by
  refine Prog.Uses.bind (Prog.uses_modify h.start) fun _ => ?_
  refine Prog.Uses.bind (Prog.uses_act h.flush) fun flushedAll => ?_
  split
  · exact Prog.uses_pure _
  · exact Prog.uses_modify h.schedule

theorem FlushKinds.sendEvent (h : FlushKinds P) {e : PendingEvent}
    (hadd : P (painterAddEventToPendingList e)) (hcancel : P (drmEventCancelFree e)) :
    (painterSendEvent (some e)).Uses P := by
  refine Prog.Uses.bind (Prog.uses_read h.read) fun connected => ?_
  split
  · exact Prog.Uses.bind (Prog.uses_modify hadd) fun _ => h.flushOrSchedule
  · exact Prog.uses_modify hcancel

/-- Sending what was just created: only that event is added or freed. -/
theorem FlushKinds.createAndSend (h : FlushKinds P) {event : Device → Event}
    (hcreate : P fun d => (createEvent (event d) d).1)
    (hadd : ∀ (serial : ℕ) (d : Device), P (painterAddEventToPendingList ⟨serial, event d⟩))
    (hcancel : ∀ e, P (drmEventCancelFree e)) :
    (Prog.act (fun d => createEvent (event d) d) >>= painterSendEvent).Uses P := by
  refine Prog.uses_act_bind hcreate fun d => ?_
  by_cases hk : d.drm.kzalloc.head = true
  · rw [createEvent, if_pos hk]
    exact h.sendEvent (hadd _ d) (hcancel _)
  · rw [createEvent, if_neg hk]
    exact Prog.uses_pure _

end

theorem flushKinds_sendSection : FlushKinds SendSection := ⟨.read, .start, .flush, .schedule⟩

theorem createAndSend_kinds (event : Device → Event) :
    (Prog.act (fun d => createEvent (event d) d) >>= painterSendEvent).Uses SendSection :=
  flushKinds_sendSection.createAndSend (.create event) (fun _ _ => .add _) .cancel

theorem createAndSend_uses (event : Event) : (createAndSend event).Uses SendSection :=
  createAndSend_kinds fun _ => event

theorem sendEventsWork_uses : sendEventsWork.Uses SendSection :=
  flushKinds_sendSection.sendEventsWork

/-! ### What the flush does -/

/-- The flush delivers a prefix of the pending events and changes nothing else. -/
theorem flushEvents_spec (pending : List PendingEvent) (drm : DrmCore) :
    ∃ sent left space, pending = sent ++ left ∧
      flushEvents pending drm =
        (left, { drm with hasSpace := space, delivered := drm.delivered ++ sent }) := by
  induction pending generalizing drm with
  | nil => exact ⟨[], [], drm.hasSpace, rfl, by simp [flushEvents]⟩
  | cons e rest ih =>
    by_cases h : drm.hasSpace.head = true
    · obtain ⟨sent, left, space, hrest, heq⟩ :=
        ih { drm with hasSpace := drm.hasSpace.tail, delivered := drm.delivered ++ [e] }
      refine ⟨e :: sent, left, space, by rw [hrest]; rfl, ?_⟩
      simp [flushEvents, h, heq]
    · exact ⟨[], e :: rest, drm.hasSpace.tail, rfl, by simp [flushEvents, h]⟩

/-! ### What the sections of sending do -/

/-- What sending changes: the queue, the delayed work and the console of the painter, and in the kernel
its answers, its serial numbers and what it has seen of events. -/
structure SendEffect (d d' : Device) : Prop where
  painter : ∃ g : Painter → Painter, d'.painter = d.painter.map g ∧
    ∀ p, ∃ pending work fgConsole, g p =
      { p with
        pendingEvents := pending
        sendEventsWorkPending := work
        fgConsole := fgConsole }
  drm : ∃ used space serial submitted delivered freed,
    d.drm.submitted <+: submitted ∧ d.drm.delivered <+: delivered ∧ d'.drm =
    { d.drm with
      kzalloc := d.drm.kzalloc.drop used
      hasSpace := space
      nextSerial := serial
      submitted := submitted
      delivered := delivered
      freed := freed }
  rest : d' = { d with painter := d'.painter, drm := d'.drm }

theorem SendEffect.refl (d : Device) : SendEffect d d where
  painter := ⟨id, by rw [Option.map_id, id], fun _ => ⟨_, _, _, rfl⟩⟩
  drm := ⟨0, _, _, _, _, _, List.prefix_rfl, List.prefix_rfl, rfl⟩
  rest := rfl

/-- **Every section of sending** changes nothing else. -/
theorem SendSection.effect {f : Device → Device} (h : SendSection f) (d : Device) :
    SendEffect d (f d) := by
  obtain ⟨hpainter, hkernel, -⟩ := SendEffect.refl d
  cases h with
  | read => exact .refl d
  | fgConsole => exact ⟨⟨_, rfl, fun _ => ⟨_, _, _, rfl⟩⟩, hkernel, rfl⟩
  | start => exact ⟨⟨_, rfl, fun _ => ⟨_, _, _, rfl⟩⟩, hkernel, rfl⟩
  | create event =>
    show SendEffect d (createEvent (event d) d).1
    unfold createEvent
    split_ifs
    · exact ⟨hpainter, ⟨1, _, _, _, _, _, List.prefix_rfl, List.prefix_rfl, rfl⟩, rfl⟩
    · exact ⟨hpainter, ⟨1, _, _, _, _, _, List.prefix_rfl, List.prefix_rfl, rfl⟩, rfl⟩
  | add e =>
    unfold painterAddEventToPendingList
    cases hp : d.painter with
    | none => exact .refl d
    | some p =>
      refine ⟨⟨fun p => { p with pendingEvents := (pushEvent p.pendingEvents e).1 }, ?_,
        fun _ => ⟨_, _, _, rfl⟩⟩, ⟨0, _, _, _, _, _, List.prefix_append _ [e],
        List.prefix_rfl, rfl⟩, rfl⟩
      rw [hp]
      rfl
  | flush =>
    show SendEffect d (painterFlushPendingEvents d).1
    unfold painterFlushPendingEvents
    cases hp : d.painter with
    | none => exact .refl d
    | some p =>
      obtain ⟨sent, left, space, -, heq⟩ := flushEvents_spec p.pendingEvents d.drm
      simp only [heq]
      refine ⟨⟨fun p => { p with pendingEvents := left }, ?_, fun _ => ⟨_, _, _, rfl⟩⟩,
        ⟨0, _, _, _, _, _, List.prefix_rfl, List.prefix_append _ sent, rfl⟩, rfl⟩
      rw [hp]
      rfl
  | schedule => exact ⟨⟨_, rfl, fun _ => ⟨_, _, _, rfl⟩⟩, hkernel, rfl⟩
  | cancel e =>
    exact ⟨hpainter, ⟨0, _, _, _, _, _, List.prefix_rfl, List.prefix_rfl, rfl⟩, rfl⟩

end Evdi
