import Evdi.Properties.EventQueue

/-!
# No stranded events

A sender that finds the delayed work pending leaves its event to it, and the work may start between any
two sections of a sender.  Whoever leaves events behind has seen somebody who will come for them.

* `Device.Served`: nothing is queued, or the delayed work is pending;
* `Obliged`: what is left of a thread that is between its append or flush (or, for the delayed work,
  its start) and the flush or schedule that follows it;
* `no_stranded_events`: in every state of every run the device is served or a thread is obliged.
-/

namespace Evdi

open Atomic Transition

/-- The events waiting for the client. -/
def Device.pendingEvents (d : Device) : List PendingEvent := d.painter.elim [] (·.pendingEvents)

/-- Nothing is queued, or the delayed work is pending. -/
def Device.Served (d : Device) : Prop := d.pendingEvents = [] ∨ delayedWorkPending d = true

/-! ### The stages of a thread -/

/-- A flush, and the schedule when it left something. -/
def flushThenSchedule : Prog Device Unit := do
  if ← .act painterFlushPendingEvents then pure ()
  else .modify scheduleDelayedWork

/-- What is left of a thread that has appended an event (`looks`: it is about to test whether the delayed
work is pending), has found no work pending or is the work itself (`flushes`), or has left events behind
(`schedules`). -/
inductive Obliged : Prog Device Unit → Prop
  | looks : Obliged flushOrSchedule
  | flushes : Obliged flushThenSchedule
  | schedules : Obliged (.modify scheduleDelayedWork)

/-- What is left of a thread. -/
inductive Stage : Prog Device Unit → Prop
  | start {p : Prog Device Unit} : QueueThread p → Stage p
  | appends (e : PendingEvent) :
      Stage (Prog.modify (painterAddEventToPendingList e) >>= fun _ => flushOrSchedule)
  | cancels (e : PendingEvent) : Stage (.modify (drmEventCancelFree e))
  | obliged {p : Prog Device Unit} : Obliged p → Stage p
  | done (u : Unit) : Stage (.pure u)

/-! ### What a section does -/

theorem served_schedule (d : Device) : (scheduleDelayedWork d).Served := by
  cases hp : d.painter with
  | none => exact .inl (by simp [Device.pendingEvents, scheduleDelayedWork, hp])
  | some p => exact .inr (by simp [delayedWorkPending, scheduleDelayedWork, hp])

/-- A flush that says so leaves nothing. -/
theorem served_flush {d : Device} (h : (painterFlushPendingEvents d).2 = true) :
    (painterFlushPendingEvents d).1.Served := by
  refine .inl ?_
  unfold painterFlushPendingEvents at h ⊢
  cases hp : d.painter with
  | none => simp [Device.pendingEvents, hp]
  | some p =>
    simp only [hp] at h
    simpa [Device.pendingEvents] using h

/-- **What an obliged thread does next** serves the device, or leaves the thread obliged. -/
theorem Obliged.section {p : Prog Device Unit} (h : Obliged p) {f : Device → Device}
    {k : Device → Prog Device Unit} (hp : p = .sec f k) (d : Device) :
    Stage (k d) ∧ ((f d).Served ∨ Obliged (k d)) := by
  cases h with
  | looks =>
    obtain ⟨rfl, rfl⟩ := Prog.sec.inj hp
    cases hpending : delayedWorkPending d with
    | true =>
      -- the work will come
      simp only [hpending]
      exact ⟨.done (), .inl (.inr hpending)⟩
    | false =>
      simp only [hpending]
      exact ⟨.obliged .flushes, .inr .flushes⟩
  | flushes =>
    obtain ⟨rfl, rfl⟩ := Prog.sec.inj hp
    cases hflushed : (painterFlushPendingEvents d).2 with
    | true =>
      simp only [hflushed]
      exact ⟨.done (), .inl (served_flush hflushed)⟩
    | false =>
      simp only [hflushed]
      exact ⟨.obliged .schedules, .inr .schedules⟩
  | schedules =>
    obtain ⟨rfl, rfl⟩ := Prog.sec.inj hp
    exact ⟨.done (), .inl (served_schedule d)⟩

/-- What any thread does next leaves it obliged, or keeps the device served. -/
theorem Stage.section {p : Prog Device Unit} (h : Stage p) {f : Device → Device}
    {k : Device → Prog Device Unit} (hp : p = .sec f k) (d : Device) :
    Stage (k d) ∧ (Obliged (k d) ∨ (d.Served → (f d).Served)) := by
  cases h with
  | start hthread =>
    cases hthread with
    | send e =>
      cases e with
      | none => exact absurd hp nofun
      | some e =>
        obtain ⟨rfl, rfl⟩ := Prog.sec.inj hp
        refine ⟨?_, .inr id⟩
        cases hsend : canSend d with
        | true =>
          simp only [hsend]
          exact .appends e
        | false =>
          simp only [hsend]
          exact .cancels e
    | work =>
      obtain ⟨rfl, rfl⟩ := Prog.sec.inj hp
      exact ⟨.obliged .flushes, .inl .flushes⟩
  | appends e =>
    obtain ⟨rfl, rfl⟩ := Prog.sec.inj hp
    exact ⟨.obliged .looks, .inl .looks⟩
  | cancels e =>
    obtain ⟨rfl, rfl⟩ := Prog.sec.inj hp
    exact ⟨.done (), .inr id⟩
  | obliged hob =>
    obtain ⟨hstage, hserved | hob'⟩ := hob.section hp d
    · exact ⟨hstage, .inr fun _ => hserved⟩
    · exact ⟨hstage, .inl hob'⟩
  | done u => exact absurd hp nofun

/-! ### The pool -/

/-- Every thread is at one of its stages, and the device is served or a thread is obliged. -/
def NotStranded (c : Device × List (Prog Device Unit)) : Prop :=
  (∀ p ∈ c.2, Stage p) ∧ (c.1.Served ∨ ∃ p ∈ c.2, Obliged p)

/-- **Every step of the threads keeps it.** -/
theorem notStranded_step (c c' : Device × List (Prog Device Unit)) (u : Unit) (h : NotStranded c)
    (hstep : PoolStep QueueThread c u c') : NotStranded c' := by
  obtain ⟨hstages, hserved⟩ := h
  rcases hstep with hp | ⟨⟩
  · rename_i d ts p
    refine ⟨fun q hq => ?_, hserved.imp_right ?_⟩
    · rcases List.mem_append.1 hq with hq | hq
      · exact hstages q hq
      · rw [List.mem_singleton.1 hq]
        exact .start hp
    · rintro ⟨q, hq, hob⟩
      exact ⟨q, List.mem_append_left _ hq, hob⟩
  · rename_i d l r f k
    have hstage := hstages (.sec f k) (by simp)
    obtain ⟨hnext, hdoes⟩ := hstage.section rfl d
    refine ⟨fun q hq => ?_, ?_⟩
    · simp only [List.mem_append, List.mem_cons] at hq hstages
      rcases hq with hq | rfl | hq
      · exact hstages q (.inl hq)
      · exact hnext
      · exact hstages q (.inr (.inr hq))
    · by_cases hself : Obliged (.sec f k)
      · -- the thread that runs was obliged: it has done its part, or still is
        refine (hself.section rfl d).2.imp_right fun hob => ?_
        exact ⟨k d, by simp, hob⟩
      · rcases hdoes with hob | hkeeps
        · exact .inr ⟨k d, by simp, hob⟩
        · refine hserved.imp hkeeps ?_
          rintro ⟨q, hq, hob⟩
          simp only [List.mem_append, List.mem_cons] at hq
          rcases hq with hq | rfl | hq
          · exact ⟨q, by simp [hq], hob⟩
          · exact absurd hob hself
          · exact ⟨q, by simp [hq], hob⟩

/-- **No event is stranded.** From a state where nothing is queued, as at the start of a connection, or
the delayed work is pending, in every state of every run of senders and delayed work, with any answers
of the client's queue: events are queued only while the delayed work is pending, or a thread is between
its append or flush and the flush or schedule that follows it. So when no thread has anything left to do,
nothing is queued or the delayed work is pending. -/
theorem no_stranded_events {d₀ d : Device} {ts : List (Prog Device Unit)} {as : List Unit}
    (hserved : d₀.Served) (hrun : Run (PoolStep QueueThread) (d₀, []) as (d, ts)) :
    (d.pendingEvents ≠ [] → delayedWorkPending d = true ∨ ∃ p ∈ ts, Obliged p) ∧
      ((∀ p ∈ ts, p = .pure ()) → d.Served) := by
  have hstart : NotStranded (d₀, []) := ⟨by simp, .inl hserved⟩
  obtain ⟨-, hinv⟩ := hrun.invariant (fun c u c' h hstep => notStranded_step c c' u h hstep) hstart
  refine ⟨fun hqueued => ?_, fun hdone => ?_⟩
  · rcases hinv with (hnil | hpending) | hob
    · exact absurd hnil hqueued
    · exact .inl hpending
    · exact .inr hob
  · refine hinv.resolve_right ?_
    rintro ⟨p, hp, hob⟩
    rw [hdone p hp] at hob
    generalize hq : (Prog.pure () : Prog Device Unit) = q at hob
    cases hob <;> exact absurd hq nofun

/-- A client is connected, and its queue is full. -/
def Device.sampleFull : Device :=
  { Device.init 0 (.init (.const true) (.const false)) with
    painter := some { Painter.init with isConnected := true, drmFilp := some 1 } }

/-- An event is sent while the client's queue is full: it waits, and the delayed work is pending. -/
theorem no_stranded_events_full : ∃ as d ts, Run (PoolStep QueueThread) (Device.sampleFull, []) as (d, ts) ∧
    d.pendingEvents = [⟨0, .updateReady⟩] ∧ delayedWorkPending d = true := by
  obtain ⟨n, hexec⟩ := @PoolStep.exec _ QueueThread (painterSendEvent (some ⟨0, .updateReady⟩))
    Device.sampleFull [] []
  have hrun := (Run.one (PoolStep.start (.send _))).append hexec
  refine ⟨_, _, _, hrun, rfl, ?_⟩
  -- the thread is done, so the event is left to the work
  exact ((no_stranded_events (.inl rfl) hrun).2 (by simp)).resolve_left nofun

end Evdi
