import Evdi.Foundations.Custody
import Evdi.Model.Driver
import Evdi.Properties.Stranded

/-!
# Every event is in one place

An event is created by one thread, and from then on it is in the hands of that thread, pending in the
painter, delivered to the client, or freed: in one of these places, once.

* `EventBalance`: the events created are those in the device and those in hand;
* `carries_createEvent`, `carries_sendEvent`: an event passes from its creation to the queue;
* `event_custody`: the result, over runs of the whole driver.
-/

namespace Evdi

open Atomic Transition

/-! ### The accounts -/

/-- The serial numbers of the events that the device accounts for. -/
def Device.eventSerials (d : Device) : Multiset ℕ :=
  (d.pendingEvents ++ d.drm.delivered ++ d.drm.freed).map (·.serial)

/-- The events created are those in the device and those in hand. -/
def EventBalance (d : Device) (hand : Multiset ℕ) : Prop :=
  d.eventSerials + hand = Multiset.range d.drm.nextSerial

/-- The balance, while there is a painter. -/
def Accounted (d : Device) (hand : Multiset ℕ) : Prop := d.painter ≠ none ∧ EventBalance d hand

/-- An event in hand. -/
def inHand (e : Option PendingEvent) : Multiset ℕ := e.elim 0 fun e => {e.serial}

theorem accounted_congr {d d' : Device} (h : queueView d' = queueView d) (hand : Multiset ℕ) :
    Accounted d' hand ↔ Accounted d hand := by
  simp only [queueView, Prod.mk.injEq] at h
  obtain ⟨hpainter, -, hdelivered, hfreed, hserial, -⟩ := h
  have hpending : d'.pendingEvents = d.pendingEvents := by
    cases hp : d.painter <;> cases hp' : d'.painter <;>
      simp_all [Device.pendingEvents]
  have hnone : d'.painter = none ↔ d.painter = none := by
    rw [← Option.map_eq_none_iff (f := (·.pendingEvents)), hpainter, Option.map_eq_none_iff]
  rw [Accounted, Accounted, EventBalance, EventBalance, Device.eventSerials, Device.eventSerials,
    hpending, hdelivered, hfreed, hserial, Ne, hnone, Ne]

/-- A section that leaves the events alone. -/
theorem settles_of_queueView {f : Device → Device} (h : ∀ d, queueView (f d) = queueView d) :
    (Prog.modify f).Settles Accounted :=
  Prog.settles_modify fun d hand hB => (accounted_congr (h d) hand).2 hB

/-! ### Creating and sending -/

/-- A new event is in the hands of its creator. -/
theorem carries_createEvent (event : Device → Event) :
    (Prog.act fun d => createEvent (event d) d).Carries Accounted 0 inHand := by
  refine Prog.carries_act fun d rest hB => ?_
  obtain ⟨hsome, heq⟩ := hB
  rw [EventBalance, zero_add] at heq
  by_cases hk : d.drm.kzalloc.head = true
  · refine ⟨by simpa [createEvent, hk] using hsome, ?_⟩
    have hserials : (createEvent (event d) d).1.eventSerials = d.eventSerials := by
      simp [createEvent, hk, Device.eventSerials, Device.pendingEvents, Device.onDrm]
    have hnext : (createEvent (event d) d).1.drm.nextSerial = d.drm.nextSerial + 1 := by
      simp [createEvent, hk]
    have hhand : inHand (createEvent (event d) d).2 = {d.drm.nextSerial} := by
      simp [createEvent, hk, inHand]
    rw [EventBalance, hserials, hnext, hhand, Multiset.range_succ, ← heq, add_left_comm,
      Multiset.singleton_add]
  · have hhand : inHand (createEvent (event d) d).2 = 0 := by simp [createEvent, hk, inHand]
    rw [hhand, zero_add, createEvent, if_neg hk]
    exact ⟨hsome, heq⟩

/-- What is pending, delivered and freed may change places. -/
theorem accounted_of_perm {d d' : Device} {hand hand' : Multiset ℕ} (hB : Accounted d hand)
    (hsome : d'.painter ≠ none) (hserial : d'.drm.nextSerial = d.drm.nextSerial)
    (h : d'.eventSerials + hand' = d.eventSerials + hand) : Accounted d' hand' :=
  ⟨hsome, by rw [EventBalance, h, hB.2, hserial]⟩

/-- The append takes the event over; it may free the last one. -/
theorem carries_addEvent (e : PendingEvent) :
    (Prog.modify (painterAddEventToPendingList e)).Carries Accounted {e.serial} fun _ => 0 := by
  refine Prog.carries_modify fun d rest hB => ?_
  obtain ⟨p, hp⟩ := Option.ne_none_iff_exists'.1 hB.1
  refine accounted_of_perm hB (by simp [painterAddEventToPendingList, hp])
    (by simp [painterAddEventToPendingList, hp]) ?_
  have hmoved : ((pushEvent p.pendingEvents e).1 ++ d.drm.delivered ++
      (d.drm.freed ++ (pushEvent p.pendingEvents e).2)).Perm
      (p.pendingEvents ++ d.drm.delivered ++ d.drm.freed ++ [e]) := by
    rcases pushEvent_cases p.pendingEvents e with hpush | ⟨older, last, hpending, -, hpush⟩
    · rw [hpush]
      refine List.perm_iff_count.2 fun a => ?_
      simp only [List.count_append, List.count_nil]
      omega
    · rw [hpush, hpending]
      -- the last event and the new one change places
      refine List.perm_iff_count.2 fun a => ?_
      simp only [List.count_append]
      omega
  have hnew : (painterAddEventToPendingList e d).eventSerials = d.eventSerials + {e.serial} := by
    rw [← Multiset.coe_singleton, Device.eventSerials, Device.eventSerials, Multiset.coe_add,
      Multiset.coe_eq_coe]
    simpa [Device.pendingEvents, painterAddEventToPendingList, hp] using hmoved.map (·.serial)
  rw [zero_add, hnew, add_assoc]

/-- A flush delivers what it takes off the queue. -/
theorem settles_flush : (Prog.act painterFlushPendingEvents).Settles Accounted := by
  refine Prog.settles_act fun d hand hB => ?_
  obtain ⟨p, hp⟩ := Option.ne_none_iff_exists'.1 hB.1
  obtain ⟨sent, left, space, hpending, heq⟩ := flushEvents_spec p.pendingEvents d.drm
  have hflush : (painterFlushPendingEvents d).1 =
      { d with
        painter := some { p with pendingEvents := left }
        drm := { d.drm with hasSpace := space, delivered := d.drm.delivered ++ sent } } := by
    simp [painterFlushPendingEvents, hp, heq]
  rw [hflush]
  refine accounted_of_perm hB (by simp) rfl (congrArg (· + hand) ?_)
  simp only [Device.eventSerials, Device.pendingEvents, hp, Option.elim_some, hpending]
  refine Multiset.coe_eq_coe.2 (List.Perm.map _ ?_)
  refine List.perm_iff_count.2 fun a => ?_
  simp only [List.count_append]
  omega

/-- An event that cannot be sent is freed. -/
theorem carries_cancel (e : PendingEvent) :
    (Prog.modify (drmEventCancelFree e)).Carries Accounted {e.serial} fun _ => 0 := by
  refine Prog.carries_modify fun d rest hB => accounted_of_perm hB hB.1 rfl ?_
  have hfreed : (drmEventCancelFree e d).eventSerials = d.eventSerials + {e.serial} := by
    simp [Device.eventSerials, Device.pendingEvents, drmEventCancelFree, Device.onDrm,
      ← Multiset.coe_add, add_assoc]
  rw [zero_add, hfreed, add_assoc]

theorem settles_flushOrSchedule : flushOrSchedule.Settles Accounted := by
  refine (Prog.settles_read _).bind fun pending => ?_
  cases pending with
  | true => exact Prog.settles_pure ()
  | false =>
    refine settles_flush.bind fun flushedAll => ?_
    cases flushedAll with
    | true => exact Prog.settles_pure ()
    | false => exact settles_of_queueView fun d => queueView_onPainter d

/-- **Sending** takes the event over: it is queued, or freed. -/
theorem carries_sendEvent (e : Option PendingEvent) :
    (painterSendEvent e).Carries Accounted (inHand e) fun _ => 0 := by
  cases e with
  | none => exact (rfl : inHand none = 0)
  | some e =>
    refine Prog.Carries.bind (Prog.carries_read canSend (inHand (some e))) fun connected => ?_
    cases connected with
    | true => exact Prog.Carries.bind (carries_addEvent e) fun _ => settles_flushOrSchedule
    | false => exact carries_cancel e

theorem settles_createAndSend (event : Device → Event) :
    (Prog.act (fun d => createEvent (event d) d) >>= painterSendEvent).Settles Accounted :=
  Prog.Carries.bind (carries_createEvent event) carries_sendEvent

/-! ### The threads -/

/-- The accounts are kept by all that has nothing to do with the cursor. -/
theorem settles_rules : QueueRules fun _ p => p.Settles Accounted where
  pure := Prog.settles_pure
  bind := Prog.Settles.bind
  atomically := Prog.Settles.atomically
  read := Prog.settles_read
  act hf := Prog.settles_act fun d hand hB => (accounted_congr (hf d).1 hand).2 hB
  flush := settles_flush
  send _ := settles_createAndSend _
  sendLate {event f} _ hf := by
    refine Prog.Carries.bind (carries_createEvent fun _ => event) fun e => ?_
    -- the event is in hand while the other section runs
    refine Prog.Carries.bind (n := fun _ => inHand e) ?_ fun _ => carries_sendEvent e
    exact Prog.carries_modify fun d rest hB => (accounted_congr (hf d).1 _).2 hB

theorem settles_cursorSet (obj : Option GemObject) (ans : VmapAnswers) (image : CursorImage) :
    (Prog.modify (cursorSet obj ans image)).Settles Accounted :=
  settles_of_queueView (queueView_cursorSet obj ans image)

theorem settles_cursorShow (fb : Option Framebuffer) (env : CursorEnv) :
    (cursorShow fb env).Settles Accounted := by
  have henable (enable : Bool) : (Prog.modify (cursorEnable enable)).Settles Accounted :=
    settles_of_queueView (queueView_cursorEnable enable)
  cases fb with
  | none => exact henable false
  | some fb => exact (settles_cursorSet _ _ _).bind fun _ => henable true

theorem settles_cursorAtomicUpdate (old new : PlaneState) (env : CursorEnv) :
    (cursorAtomicUpdate old new env).Settles Accounted := by
  refine (Prog.settles_read _).bind fun position => ?_
  refine (settles_of_queueView fun d => rfl).bind fun _ => ?_
  refine (Prog.settles_when (settles_cursorShow _ _)).bind fun _ => ?_
  refine (Prog.settles_read _).bind fun enabled => ?_
  cases enabled with
  | true =>
    refine (Prog.settles_when (settles_createAndSend _)).bind fun _ => ?_
    exact Prog.settles_when (settles_createAndSend _)
  | false =>
    cases new.fb with
    | none => exact Prog.settles_pure ()
    | some fb => exact settles_rules.cursorMarkDirty old new fb

theorem settles_kernelThread {p : Prog Device Unit} (h : KernelThread p) : p.Settles Accounted := by
  cases h with
  | commit c =>
    refine (Prog.settles_each (fun u => ?_) _).bind fun _ => settles_rules.crtcAtomicFlush _ _
    cases u with
    | primary old new damage => exact settles_rules.planeAtomicUpdate old new damage
    | cursor old new env => exact settles_cursorAtomicUpdate old new env
  | userFramebufferDirty clips => exact settles_rules.userFramebufferDirty clips
  | setScanoutBuffer fb => exact settles_rules.setScanoutBuffer fb
  | sendEventsWork => exact settles_rules.sendEventsWork

/-- **All threads** start and end with empty hands. -/
theorem settles_driverThread {p : Prog Device Unit} (h : DriverThread p) : p.Settles Accounted := by
  cases h with
  | kernel hp => exact settles_kernelThread hp
  | vtNotifier => exact settles_rules.vtNotifierCall
  | i2c msg => exact settles_rules.i2cDataNotify msg
  | cursorSet gemObjectLookup env handle width height hotX hotY =>
    refine (settles_of_queueView (queueView_gemObjectRef _ 1)).bind fun _ => ?_
    refine (settles_cursorSet _ _ _).bind fun _ => ?_
    refine (settles_of_queueView (queueView_gemObjectRef _ (-1))).bind fun _ => ?_
    refine (Prog.settles_read _).bind fun enabled => ?_
    cases enabled with
    | true => exact settles_createAndSend _
    | false => exact settles_rules.markFullScreenDirty
  | cursorMove x y =>
    refine (settles_of_queueView fun d => rfl).bind fun _ => ?_
    refine (Prog.settles_read _).bind fun enabled => ?_
    cases enabled with
    | true => exact settles_createAndSend _
    | false => exact settles_rules.markFullScreenDirty

/-! ### The clients -/

/-- What was pending is freed by the owner's disconnect. -/
theorem accounted_disconnect {d : Device} {hand : Multiset ℕ} (hB : Accounted d hand)
    (file : DrmFile) : Accounted (painterDisconnect file d).1 hand := by
  rcases painterDisconnect_cases file d with heq | ⟨p, hp, hfile⟩
  · rwa [heq]
  · rw [painterDisconnect_owner hp hfile]
    refine accounted_of_perm hB (by simp) rfl (congrArg (· + hand) ?_)
    simp only [Device.eventSerials, Device.pendingEvents, hp, Option.elim_some, Painter.disconnected]
    refine Multiset.coe_eq_coe.2 (List.Perm.map _ (List.perm_iff_count.2 fun a => ?_))
    simp only [List.count_append, List.count_nil]
    omega

theorem accounted_client {f : Device → Device} (h : ClientSection f) {d : Device}
    {hand : Multiset ℕ} (hB : Accounted d hand) : Accounted (f d) hand := by
  have hkeep {d' : Device} (hview : queueView d' = queueView d) : Accounted d' hand :=
    (accounted_congr hview hand).2 hB
  cases h with
  | requestUpdate =>
    dsimp only
    rcases painterRequestUpdateIoctl_device d with heq | heq
    · rwa [heq]
    · rw [heq]
      exact hkeep (queueView_onPainter d)
  | grabpix cmd =>
    dsimp only
    rcases painterGrabpixLocked_cases cmd d with ⟨err, heq, -⟩ | ⟨p, -, -, heq⟩ |
      ⟨p, efb, cmd', -, -, -, heq⟩
    · rwa [heq]
    · rw [heq]
      exact hkeep (queueView_onPainter d)
    · rw [heq]
      exact hkeep ((queueView_onPainter _).trans (queueView_framebufferRef efb 1 d))
  | grabpixDone g => exact hkeep (queueView_grabpixFinish g d)
  | connect user ans cmd file =>
    dsimp only
    rcases painterConnectIoctl_cases user ans cmd file d with ⟨err, heq, -⟩ |
      ⟨edid, -, -, -, -, heq⟩ | ⟨-, heq⟩
    · rwa [heq]
    · rw [heq]
      exact hkeep (queueView_onPainter (f := (·.connected file cmd.edidLength edid)) d)
    · rw [heq]
      exact accounted_disconnect hB file
  | close file =>
    rw [painterClose_eq]
    exact accounted_disconnect hB file
  | ddcciResponse user kzalloc cmd =>
    obtain ⟨buffer, length, received, heq⟩ := painterDdcciResponseIoctl_device user kzalloc cmd d
    dsimp only
    rw [heq]
    exact hkeep (queueView_onPainter d)
  | enableCursorEvents cmd => exact hkeep rfl

/-- What was pending is freed with the painter. -/
theorem eventBalance_cleanup {d : Device} (hB : Accounted d 0) :
    (painterCleanup d).painter = none ∧ EventBalance (painterCleanup d) 0 := by
  refine ⟨rfl, ?_⟩
  obtain ⟨p, hp⟩ := Option.ne_none_iff_exists'.1 hB.1
  have hput : queueView (putScanoutBuffer d) = queueView d := by
    unfold putScanoutBuffer
    split
    · exact (queueView_onPainter _).trans (queueView_framebufferRef _ (-1) d)
    · rfl
  have hB' := (accounted_congr ((queueView_painterSendVblank _).trans hput) 0).2 hB
  obtain ⟨q, hq⟩ := Option.ne_none_iff_exists'.1 hB'.1
  have hbalance := hB'.2
  rw [EventBalance, Device.eventSerials, Device.pendingEvents, hq] at hbalance
  rw [EventBalance, painterCleanup, painterEventsCleanup, hq, Device.eventSerials,
    Device.pendingEvents]
  dsimp only [Device.onPainter, Device.onDrm, Option.elim_none, Option.elim_some] at hbalance ⊢
  rw [← hbalance, add_zero, add_zero, Multiset.coe_eq_coe]
  refine List.Perm.map _ (List.perm_iff_count.2 fun a => ?_)
  simp only [List.count_append, List.count_nil]
  omega

/-! ### Runs -/

/-- The balance of a run: with what the threads have in hand, or after the end. -/
def Driver.Balanced (s : System) : Prop :=
  (∃ hands, Custody Accounted s.device s.threads hands) ∨
    (s.device.painter = none ∧ EventBalance s.device 0)

/-- **Every step** keeps the balance. -/
theorem Driver.Step.balanced {s t : System} {a : Driver.Action} (h : Driver.Step s a t)
    (hs : Driver.Balanced s) : Driver.Balanced t := by
  rcases hs with ⟨hands, hc⟩ | ⟨hnone, hbalance⟩
  · cases h with
    | client hsome hstep =>
      obtain ⟨f, hf, heq⟩ := hstep.section
      refine .inl ⟨hands, hc.1, ?_⟩
      rw [heq]
      exact accounted_client hf hc.2
    | thread hsome hpool =>
      exact .inl (PoolStep.custody (fun p hp => settles_driverThread hp) hpool hc)
    | switchConsole console hsome => exact .inl ⟨hands, hc.1, hc.2⟩
    | cleanup hsome hgrabs hthreads => exact .inr (eventBalance_cleanup (hc.over hthreads))
  · cases h with
    | client hsome hstep => exact absurd hnone hsome
    | thread hsome hpool => exact absurd hnone hsome
    | switchConsole console hsome => exact absurd hnone hsome
    | cleanup hsome hgrabs hthreads => exact absurd hnone hsome

theorem balanced_init (fgConsole : ℤ) (kzalloc hasSpace : Stream' Bool) :
    Driver.Balanced (System.init fgConsole (.init kzalloc hasSpace)) :=
  .inl ⟨[], List.Forall₂.nil, by simp [System.init, Device.init], rfl⟩

/-- **Every event is in one place.** In every state of every run of the whole driver, whatever memory
there is for events and whatever room in the client's queue:

* an event is pending, delivered or freed, and that once: none is delivered or freed twice, or delivered
  and freed, or freed while it is pending;
* all these events were created; and when no thread is under way, every event created is one of them;
* when the painter has ended, every event created was delivered or freed;
* before that, an event that is nowhere is in the hands of one thread, which will put it in one of these
  places: with the hands of the threads, there is each event created, once. -/
theorem event_custody {fgConsole : ℤ} {kzalloc hasSpace : Stream' Bool} {as : List Driver.Action}
    {s : System} (h : Run Driver.Step (System.init fgConsole (.init kzalloc hasSpace)) as s) :
    let placed := s.device.pendingEvents ++ s.device.drm.delivered ++ s.device.drm.freed
    (placed.map (·.serial)).Nodup ∧ (∀ e ∈ placed, e.serial < s.device.drm.nextSerial) ∧
      ((∀ p ∈ s.threads, p = .pure ()) →
        ∀ n < s.device.drm.nextSerial, ∃ e ∈ placed, e.serial = n) ∧
      (s.device.painter = none → ∀ n < s.device.drm.nextSerial,
        ∃ e ∈ s.device.drm.delivered ++ s.device.drm.freed, e.serial = n) ∧
      (s.device.painter ≠ none → ∃ hands : List (Multiset ℕ),
        List.Forall₂ (fun p hand => p.Carries Accounted hand fun _ => 0) s.threads hands ∧
        (↑(placed.map (·.serial)) : Multiset ℕ) + hands.sum = Multiset.range s.device.drm.nextSerial) := by
  intro placed
  have hs := h.invariant (I := Driver.Balanced) (fun _ _ _ hs hstep => hstep.balanced hs)
    (balanced_init fgConsole kzalloc hasSpace)
  obtain ⟨hand, hbalance⟩ : ∃ hand, EventBalance s.device hand := by
    rcases hs with ⟨hands, hc⟩ | ⟨-, hbalance⟩
    · exact ⟨hands.sum, hc.2.2⟩
    · exact ⟨0, hbalance⟩
  have hle : (↑(placed.map (·.serial)) : Multiset ℕ) ≤ Multiset.range s.device.drm.nextSerial :=
    hbalance ▸ Multiset.le_add_right _ _
  have hall (h0 : EventBalance s.device 0) (n : ℕ) (hn : n < s.device.drm.nextSerial) :
      ∃ e ∈ placed, e.serial = n := by
    rw [EventBalance, add_zero] at h0
    have hmem : n ∈ s.device.eventSerials := by
      rw [h0]
      exact Multiset.mem_range.2 hn
    obtain ⟨e, he, hserial⟩ := List.mem_map.1 (Multiset.mem_coe.1 hmem)
    exact ⟨e, he, hserial⟩
  refine ⟨Multiset.coe_nodup.1 (Multiset.nodup_of_le hle (Multiset.nodup_range _)), ?_, ?_, ?_, ?_⟩
  · intro e he
    exact Multiset.mem_range.1 (Multiset.mem_of_le hle (Multiset.mem_coe.2 (List.mem_map_of_mem he)))
  · intro hover
    rcases hs with ⟨hands, hc⟩ | ⟨-, h0⟩
    · exact hall (hc.over hover).2
    · exact hall h0
  · intro hnone n hn
    have h0 : EventBalance s.device 0 := by
      rcases hs with ⟨hands, hc⟩ | ⟨-, h0⟩
      · exact absurd hnone hc.2.1
      · exact h0
    have hpending : s.device.pendingEvents = [] := by rw [Device.pendingEvents, hnone]; rfl
    obtain ⟨e, he, hserial⟩ := hall h0 n hn
    refine ⟨e, ?_, hserial⟩
    simpa only [placed, hpending, List.nil_append] using he
  · intro hsome
    rcases hs with ⟨hands, hc⟩ | ⟨hnone, -⟩
    · exact ⟨hands, hc.1, hc.2.2⟩
    · exact absurd hnone hsome

/-- A thread among others, run from where it is to its end. -/
theorem Driver.run_rest {p : Prog Device Unit} {m rest : Multiset ℕ}
    (hp : p.Carries Accounted m fun _ => 0) (s : System) (hB : Accounted s.device (m + rest))
    (ts : List (Prog Device Unit)) : ∃ as, Run Driver.Step { s with threads := ts ++ [p] } as
      { s with device := (p.exec s.device).1, threads := ts ++ [.pure ()] } := by
  induction p generalizing m s with
  | pure a => exact ⟨[], Run.nil _⟩
  | sec f k ih =>
    obtain ⟨m', hB', hk⟩ := hp s.device rest hB
    obtain ⟨as, hrun⟩ := ih s.device hk { s with device := f s.device } hB'
    have hstep : Driver.Step { s with threads := ts ++ [.sec f k] } .thread
        { s with device := f s.device, threads := ts ++ [k s.device] } :=
      .thread hB.1 PoolStep.section
    exact ⟨[.thread] ++ as, (Run.one hstep).append hrun⟩

/-- A thread that starts with no other under way, and runs to its end. -/
theorem Driver.run_thread {p : Prog Device Unit} (hp : DriverThread p) {s : System}
    (hB : Accounted s.device 0) : ∃ as, Run Driver.Step s as
      { s with device := (p.exec s.device).1, threads := s.threads ++ [.pure ()] } := by
  have hB' : Accounted s.device (0 + 0) := by rwa [add_zero]
  obtain ⟨as, hrun⟩ := Driver.run_rest (settles_driverThread hp) s hB' s.threads
  exact ⟨[.thread] ++ as, (Run.one (.thread hB.1 (PoolStep.start hp))).append hrun⟩

/-- A request of the i2c adapter that does not fit in the client's queue is freed with the painter. -/
theorem event_custody_full : ∃ as s,
    Run Driver.Step (System.init 0 (.init (.const true) (.const false))) as s ∧
      s.device.painter = none ∧ ∃ e ∈ s.device.drm.delivered ++ s.device.drm.freed, e.serial = 0 := by
  let s₀ := System.init 0 (.init (.const true) (.const false))
  let d₁ := (painterConnectIoctl (fun _ => sampleUser 0) ⟨true, true⟩ .sample 1 s₀.device).1
  have hconnect : Driver.Step s₀ (.client (.connect .sample 1 0)) { s₀ with device := d₁ } :=
    .client (Option.some_ne_none _) (.connect (fun _ => sampleUser 0) ⟨true, true⟩ (Prod.ext rfl rfl))
  let msg : I2cMsg := ⟨i2cAddressDdcci, 0, 1, [0]⟩
  have hB : Accounted d₁ 0 := by
    rcases hconnect.balanced (balanced_init 0 _ _) with ⟨hands, hc⟩ | ⟨hnone, -⟩
    · exact hc.over (by simp [s₀, System.init])
    · exact absurd hnone (Option.some_ne_none _)
  obtain ⟨as, hthread⟩ := Driver.run_thread (.i2c msg) (s := { s₀ with device := d₁ }) hB
  have hrun := (Run.one hconnect).append hthread
  have hend := hrun.snoc (.cleanup (Option.some_ne_none _) rfl (by simp [s₀, System.init]))
  exact ⟨_, _, hend, rfl, (event_custody hend).2.2.2.1 rfl 0 (by decide)⟩

end Evdi
