import Evdi.Properties.Lifecycle
import Evdi.Properties.Notify

/-!
# Who queues `UPDATE_READY` events

The events of this kind are counted in what was submitted and in the queue.

* `Silent`: what a section does that neither queues such an event nor touches the request flag;
* `Announces`: what the last section of a commit does when it answers a request;
* `kernelThread_announces`: the threads of the kernel do nothing else;
* `painterRequestUpdateIoctl_cases`, `ClientStep.silent`, `Ends`: what the calls of a client do;
* `Accounts`: what pays for an `UPDATE_READY` event.
-/

namespace Evdi

open Atomic Transition Bytes

/-- The number of `UPDATE_READY` events among some events. -/
def updateReadys (es : List PendingEvent) : ℕ := es.countP fun e => e.event == .updateReady

@[simp] theorem updateReadys_nil : updateReadys [] = 0 := rfl

@[simp] theorem updateReadys_append (es es' : List PendingEvent) :
    updateReadys (es ++ es') = updateReadys es + updateReadys es' := List.countP_append

theorem updateReadys_singleton (e : PendingEvent) :
    updateReadys [e] = if e.event = .updateReady then 1 else 0 := by
  simp [updateReadys, List.countP_singleton]

/-! ### Silent sections -/

/-- The request flag and the `UPDATE_READY` events are as before; events may have been delivered. -/
structure Silent (d d' : Device) : Prop where
  requested_eq : requested d' = requested d
  submitted : updateReadys d'.drm.submitted = updateReadys d.drm.submitted
  queue : updateReadys d'.queue = updateReadys d.queue
  delivered : d.drm.delivered <+: d'.drm.delivered

/-- What the counts are taken of. -/
def announceView (d : Device) :
    List PendingEvent × List PendingEvent × Option (Bool × List PendingEvent) :=
  (d.drm.submitted, d.drm.delivered, d.painter.map fun p => (p.wasUpdateRequested, p.pendingEvents))

theorem silent_of_view {d d' : Device} (h : announceView d' = announceView d) : Silent d d' := by
  have hrequested : ∀ d, requested d = (announceView d).2.2.any (·.1) := by
    intro d
    cases h : d.painter <;> simp [requested, announceView, h]
  have hqueue : ∀ d : Device, d.queue = (announceView d).2.1 ++
      (announceView d).2.2.elim [] (·.2) := by
    intro d
    cases h : d.painter <;> simp [Device.queue, announceView, h]
  refine ⟨by rw [hrequested, hrequested, h], ?_, by rw [hqueue, hqueue, h], ?_⟩
  · rw [show d'.drm.submitted = d.drm.submitted from congrArg Prod.fst h]
  · rw [show d'.drm.delivered = d.drm.delivered from congrArg (fun v => v.2.1) h]

theorem Silent.refl (d : Device) : Silent d d := silent_of_view rfl

theorem Silent.trans {d d' d'' : Device} (h : Silent d d') (h' : Silent d' d'') : Silent d d'' where
  requested_eq := h'.requested_eq.trans h.requested_eq
  submitted := h'.submitted.trans h.submitted
  queue := h'.queue.trans h.queue
  delivered := h.delivered.trans h'.delivered

theorem announceView_onPainter {f : Painter → Painter} (d : Device)
    (hr : ∀ p, (f p).wasUpdateRequested = p.wasUpdateRequested)
    (he : ∀ p, (f p).pendingEvents = p.pendingEvents) :
    announceView (d.onPainter f) = announceView d := by
  cases h : d.painter <;> simp [announceView, h, hr, he]

theorem silent_onPainter {f : Painter → Painter} {d : Device}
    (hr : ∀ p, (f p).wasUpdateRequested = p.wasUpdateRequested)
    (he : ∀ p, (f p).pendingEvents = p.pendingEvents) : Silent d (d.onPainter f) :=
  silent_of_view (announceView_onPainter d hr he)

/-- A replaced event is a cursor event. -/
theorem updateReadys_pushEvent (pending : List PendingEvent) (e : PendingEvent) :
    updateReadys (pushEvent pending e).1 = updateReadys pending + updateReadys [e] := by
  rcases pushEvent_cases pending e with heq | ⟨rest, last, rfl, hsq, heq⟩
  · rw [heq, updateReadys_append]
  · have hcursor : updateReadys [last] = 0 := by
      rw [updateReadys_singleton, if_neg]
      intro hready
      have htype : e.event.type = 0x80000000 := by rw [hsq.1, hready]; rfl
      have hsquashable := hsq.2
      rw [isEvdiEventSquashable, htype] at hsquashable
      exact absurd hsquashable (by decide)
    rw [heq, updateReadys_append, updateReadys_append, hcursor, Nat.add_zero]

theorem silent_addEvent {e : PendingEvent} (he : e.event ≠ .updateReady) (d : Device) :
    Silent d (painterAddEventToPendingList e d) := by
  have hcount : updateReadys [e] = 0 := by rw [updateReadys_singleton, if_neg he]
  unfold painterAddEventToPendingList
  cases h : d.painter with
  | none => exact .refl d
  | some p =>
    refine ⟨by simp [requested, h], ?_, ?_, List.prefix_rfl⟩
    · rw [updateReadys_append, hcount, Nat.add_zero]
    · simp [Device.queue, h, updateReadys_pushEvent, hcount]

theorem delivered_flush (d : Device) :
    d.drm.delivered <+: (painterFlushPendingEvents d).1.drm.delivered := by
  unfold painterFlushPendingEvents
  cases d.painter with
  | none => exact List.prefix_rfl
  | some p =>
    obtain ⟨sent, left, space, -, heq⟩ := flushEvents_spec p.pendingEvents d.drm
    simp only [heq]
    exact List.prefix_append _ _

theorem silent_flush (d : Device) : Silent d (painterFlushPendingEvents d).1 where
  requested_eq := (keeps_flush d).requested_eq
  submitted := by rw [submitted_flush]
  queue := by rw [queue_flush]
  delivered := delivered_flush d

theorem silent_createEvent (event : Event) (d : Device) : Silent d (createEvent event d).1 := by
  refine silent_of_view ?_
  unfold createEvent
  split_ifs <;> rfl

theorem announceView_sendVblank (crtc : Option Crtc) (vblank : Option VblankEvent) (d : Device) :
    announceView (sendVblank crtc vblank d) = announceView d := by
  rw [sendVblank_eq]
  rfl

theorem silent_setVblank (crtc : Option Crtc) (vblank : Option VblankEvent) (d : Device) :
    Silent d (painterSetVblank crtc vblank d) := by
  have hsend : Silent d (painterSendVblank d) := by
    unfold painterSendVblank
    cases d.painter with
    | none => exact .refl d
    | some p =>
      refine (silent_of_view (announceView_sendVblank p.crtc p.vblank d)).trans ?_
      exact silent_onPainter (fun _ => rfl) fun _ => rfl
  unfold painterSetVblank
  cases d.painter with
  | none => exact silent_of_view (announceView_sendVblank _ _ d)
  | some p =>
    dsimp only
    split_ifs
    · exact hsend.trans (silent_onPainter (fun _ => rfl) fun _ => rfl)
    · exact hsend.trans (silent_of_view (announceView_sendVblank _ _ _))

theorem announceView_cursorSetGem (obj : Option GemRef) (d : Device) :
    announceView (cursorSetGem obj d) = announceView d := by
  have hrefs : ∀ (obj : Option GemRef) (n : ℤ) (d : Device),
      announceView (drmGemObjectRef obj n d) = announceView d := by
    intro obj n d
    cases obj <;> rfl
  show announceView (drmGemObjectRef _ (-1) (drmGemObjectRef obj 1 d)) = announceView d
  rw [hrefs, hrefs]

theorem silent_cursorEnable (enable : Bool) (d : Device) : Silent d (cursorEnable enable d) := by
  cases enable with
  | false => exact silent_of_view (announceView_cursorSetGem none _)
  | true => exact silent_of_view rfl

theorem silent_markDirty (rect : ClipRect) (d : Device) : Silent d (painterMarkDirty rect d) := by
  refine silent_onPainter (fun p => ?_) (fun p => ?_) <;>
    (unfold Painter.markDirty; split <;> rfl)

/-! ### The section that answers a request -/

/-- A request is answered while rectangles are pending: at most one `UPDATE_READY` event is queued (none
when there is no memory, or nobody to send it to). -/
structure Announces (d d' : Device) : Prop where
  was_requested : requested d = true
  cleared : requested d' = false
  dirty : d.dirtyRects ≠ []
  dirtyRects_eq : d'.dirtyRects = d.dirtyRects
  count : ∃ n ≤ 1, updateReadys d'.drm.submitted = updateReadys d.drm.submitted + n ∧
    updateReadys d'.queue = updateReadys d.queue + n
  delivered : d.drm.delivered <+: d'.drm.delivered

theorem dirtyRects_of_keepsCore {d d' : Device} (h : KeepsCore d d') :
    d'.dirtyRects = d.dirtyRects := by
  have hview : ∀ d : Device, d.dirtyRects = (d.painter.map Painter.core).elim [] (·.dirtyRects) := by
    intro d
    cases h : d.painter <;> simp [Device.dirtyRects, Painter.core, h]
  rw [hview, hview, show d'.painter.map Painter.core = _ from h]

/-- Sending an `UPDATE_READY` event delivers no more than the flush does. -/
theorem delivered_sendUpdateReady (d : Device) :
    d.drm.delivered <+: (painterSendUpdateReady.exec d).1.drm.delivered := by
  refine (createAndSend_uses .updateReady).exec (R := fun d d' => d.drm.delivered <+: d'.drm.delivered)
    (fun f hf d => ?_) (fun _ => List.prefix_rfl) (fun _ _ _ => List.IsPrefix.trans) d
  obtain ⟨used, space, serial, submitted, delivered, freed, -, hprefix, hdrm⟩ := (hf.effect d).drm
  rw [hdrm]
  exact hprefix

/-- The event is queued, or there is no memory for it, or nobody to send it to. -/
theorem count_sendUpdateReady (d : Device) :
    ∃ n ≤ 1, updateReadys (painterSendUpdateReady.exec d).1.drm.submitted =
        updateReadys d.drm.submitted + n ∧
      updateReadys (painterSendUpdateReady.exec d).1.queue = updateReadys d.queue + n := by
  by_cases hk : d.drm.kzalloc.head = true
  · by_cases hd : canSend d = true
    · obtain ⟨e, he, hqueue, hsub⟩ := queue_sendUpdateReady hd hk
      refine ⟨1, le_rfl, ?_, ?_⟩
      · rw [hsub, updateReadys_append, updateReadys_singleton, if_pos he]
      · rw [hqueue, updateReadys_append, updateReadys_singleton, if_pos he]
    · -- the event is freed again
      have hd' : canSend (createEvent .updateReady d).1 = false := by
        rw [createEvent, if_pos hk]
        exact Bool.eq_false_iff.2 hd
      have hview : announceView (drmEventCancelFree ⟨d.drm.nextSerial, .updateReady⟩
          (createEvent .updateReady d).1) = announceView (createEvent .updateReady d).1 := rfl
      have hsilent := (silent_createEvent .updateReady d).trans (silent_of_view hview)
      have hexec : (painterSendUpdateReady.exec d).1 = drmEventCancelFree
          ⟨d.drm.nextSerial, .updateReady⟩ (createEvent .updateReady d).1 := by
        simp only [painterSendUpdateReady, createAndSend, Prog.exec_bind, Prog.exec_act]
        rw [createEvent, if_pos hk] at hd' ⊢
        simp only [painterSendEvent, Prog.exec_bind, Prog.exec_read, hd', Bool.false_eq_true,
          if_false, Prog.exec_modify]
      rw [hexec]
      exact ⟨0, Nat.zero_le _, hsilent.submitted, hsilent.queue⟩
  · have hexec : (painterSendUpdateReady.exec d).1 = (createEvent .updateReady d).1 := by
      simp [painterSendUpdateReady, createAndSend, createEvent, hk, painterSendEvent]
    rw [hexec]
    exact ⟨0, Nat.zero_le _, (silent_createEvent _ d).submitted, (silent_createEvent _ d).queue⟩

/-- The last section of a commit answers the request that waits on pending rectangles. -/
theorem updateReadyIfNeeded_announces (d : Device) :
    Silent d (updateReadyIfNeeded.exec d).1 ∨ Announces d (updateReadyIfNeeded.exec d).1 := by
  have hcore := keepsCore_updateReadyIfNeeded d
  by_cases h : (d.painter.any fun p => p.wasUpdateRequested && p.numDirts != 0) = true
  · rw [updateReadyIfNeeded_exec, if_pos h] at hcore ⊢
    refine .inr ⟨?_, requested_clear _, ?_, dirtyRects_of_keepsCore hcore, ?_,
      delivered_sendUpdateReady d⟩
    · cases hp : d.painter with
      | none => simp [hp] at h
      | some p => simp_all [requested]
    · cases hp : d.painter with
      | none => simp [hp] at h
      | some p =>
        rw [Device.dirtyRects_some hp]
        simp only [hp, Option.any_some, Bool.and_eq_true, bne_iff_ne, Painter.numDirts] at h
        intro hnil
        simp [hnil] at h
    · obtain ⟨n, hn, hsub, hqueue⟩ := count_sendUpdateReady d
      refine ⟨n, hn, hsub, ?_⟩
      rw [← hqueue]
      cases hp : (painterSendUpdateReady.exec d).1.painter <;> simp [Device.queue, hp]
  · rw [updateReadyIfNeeded_exec, if_neg h]
    exact .inl (.refl d)

/-! ### The threads of the kernel -/

/-- A section that queues no `UPDATE_READY` event but in answer to a request. -/
def AnnounceSection (f : Device → Device) : Prop := ∀ d, Silent d (f d) ∨ Announces d (f d)

theorem flushKinds_silent : FlushKinds fun f => ∀ d, Silent d (f d) where
  read := Silent.refl
  start _ := silent_onPainter (fun _ => rfl) fun _ => rfl
  flush := silent_flush
  schedule _ := silent_onPainter (fun _ => rfl) fun _ => rfl

theorem commitKinds_announceSection : CommitKinds AnnounceSection where
  read d := .inl (.refl d)
  fgConsole d := by
    refine .inl (silent_onPainter (fun _ => rfl) fun _ => rfl)
  send event hevent := by
    refine (flushKinds_silent.createAndSend (fun d => silent_createEvent _ d)
      (fun serial d => silent_addEvent (hevent d)) fun e d => ?_).mono fun f hf d => .inl (hf d)
    exact silent_of_view rfl
  forceModeset d := .inl (silent_onPainter (fun _ => rfl) fun _ => rfl)
  modesetDone d := .inl (silent_onPainter (fun _ => rfl) fun _ => rfl)
  fbRef fb n d := .inl (silent_of_view rfl)
  swap fb d := .inl (silent_onPainter (fun _ => rfl) fun _ => rfl)
  markDirty rect d := .inl (silent_markDirty rect d)
  cursorMove x y d := .inl (silent_of_view rfl)
  cursorSet obj ans image d := .inl (silent_of_view (announceView_cursorSetGem _ _))
  cursorEnable enable d := .inl (silent_cursorEnable enable d)
  setVblank crtc vblank d := .inl (silent_setVblank crtc vblank d)
  updateReady := updateReadyIfNeeded_announces

/-- What the threads of the kernel are made of. -/
def KernelSection (f : Device → Device) : Prop := CommitSection f ∧ AnnounceSection f

/-- **The threads of the kernel** queue `UPDATE_READY` events in answer to a request only. -/
theorem kernelThread_announces (p : Prog Device Unit) (h : KernelThread p) : p.Uses KernelSection :=
  h.uses.and (h.uses_of commitKinds_announceSection
    (flushKinds_silent.sendEventsWork.mono fun _ hf d => .inl (hf d)))

/-! ### The calls of a client -/

theorem announceView_grabpixLocked (cmd : GrabpixCmd) (d : Device) :
    announceView (painterGrabpixLocked cmd d).1 = announceView d := by
  rcases painterGrabpixLocked_cases cmd d with ⟨err, heq, -⟩ | ⟨p, -, -, heq⟩ |
    ⟨p, efb, cmd', -, -, -, heq⟩
  · rw [heq]
  · rw [heq]
    exact announceView_onPainter d (fun _ => rfl) fun _ => rfl
  · rw [heq]
    exact announceView_onPainter _ (fun _ => rfl) fun _ => rfl

theorem announceView_ddcciResponse (user : UInt64 → UserRegion) (kzalloc : Bool)
    (cmd : DdcciResponseCmd) (d : Device) :
    announceView (painterDdcciResponseIoctl user kzalloc cmd d).1 = announceView d := by
  obtain ⟨buffer, length, received, heq⟩ := painterDdcciResponseIoctl_device user kzalloc cmd d
  rw [heq]
  exact announceView_onPainter d (fun _ => rfl) fun _ => rfl

theorem announceView_connectIoctl (user : UInt64 → UserRegion) (ans : ConnectAnswers)
    {cmd : ConnectCmd} (hcmd : cmd.connected ≠ 0) (file : DrmFile) (d : Device) :
    announceView (painterConnectIoctl user ans cmd file d).1 = announceView d := by
  rcases painterConnectIoctl_cases user ans cmd file d with ⟨err, heq, -⟩ |
    ⟨edid, -, -, -, -, heq⟩ | ⟨hdisconnect, -⟩
  · rw [heq]
  · rw [heq]
    exact announceView_onPainter (f := (·.connected file cmd.edidLength edid)) d (fun _ => rfl)
      fun _ => rfl
  · exact absurd hdisconnect hcmd

/-- The calls that do not ask and do not end a session. -/
def ClientCall.Plain : ClientCall → Prop
  | .requestUpdate _ => False
  | .connect cmd _ _ => cmd.connected ≠ 0
  | .close _ => False
  | _ => True

theorem ClientStep.silent {s t : Clients} {call : ClientCall} (h : ClientStep s call t)
    (hcall : call.Plain) : Silent s.device t.device := by
  refine silent_of_view ?_
  cases h with
  | requestUpdate _ => exact hcall.elim
  | grabpix heq =>
    obtain rfl := (congrArg Prod.fst heq).symm
    exact announceView_grabpixLocked _ s.device
  | grabpixRefused heq =>
    obtain rfl := (congrArg Prod.fst heq).symm
    exact announceView_grabpixLocked _ s.device
  | @grabpixDone l r g env _ => exact announceView_sendVblank g.crtc g.vblank s.device
  | connect user ans heq =>
    obtain rfl := (congrArg Prod.fst heq).symm
    exact announceView_connectIoctl user ans hcall _ _
  | close file => exact hcall.elim
  | ddcciResponse user kzalloc heq =>
    obtain rfl := (congrArg Prod.fst heq).symm
    exact announceView_ddcciResponse user kzalloc _ s.device
  | enableCursorEvents cmd => rfl

/-! ### The end of a session -/

/-- The end of a session: no request waits, and nothing is pending for the client. -/
structure Ends (d d' : Device) : Prop where
  cleared : requested d' = false
  submitted : d'.drm.submitted = d.drm.submitted
  delivered : d'.drm.delivered = d.drm.delivered
  queue : d'.queue = d'.drm.delivered

theorem ends_disconnect {file : DrmFile} {d : Device}
    (howner : d.painter.bind (·.drmFilp) = some file) : Ends d (painterDisconnect file d).1 := by
  obtain ⟨p, hp, hfile⟩ := Option.bind_eq_some_iff.1 howner
  rw [painterDisconnect_owner hp hfile]
  exact ⟨rfl, rfl, rfl, by simp [Device.queue, Painter.disconnected]⟩

theorem ends_close {file : DrmFile} {d : Device}
    (howner : d.painter.bind (·.drmFilp) = some file) : Ends d (painterClose file d) := by
  rw [painterClose, if_pos howner]
  exact ends_disconnect howner

theorem ends_connectIoctl {user : UInt64 → UserRegion} {ans : ConnectAnswers} {cmd : ConnectCmd}
    {file : DrmFile} {d d' : Device} (hcmd : cmd.connected = 0)
    (h : painterConnectIoctl user ans cmd file d = (d', 0)) : Ends d d' := by
  obtain ⟨p, hp, hfile, rfl⟩ := painterConnectIoctl_disconnect hcmd h
  exact ends_disconnect (Option.bind_eq_some_iff.2 ⟨p, hp, hfile⟩)

/-! ### Accounts -/

/-- The `UPDATE_READY` events submitted so far. -/
def readys (d : Device) : ℕ := updateReadys d.drm.submitted

/-- What an `UPDATE_READY` event is paid with: a request that waits, and `n` more. -/
structure Accounts (n : ℕ) (d d' : Device) : Prop where
  readys_le : readys d ≤ readys d'
  paid : readys d' + (requested d').toNat ≤ readys d + (requested d).toNat + n
  queued : readys d < readys d' →
    requested d = true ∧ requested d' = false ∧ readys d' = readys d + 1

theorem Silent.accounts {d d' : Device} (h : Silent d d') : Accounts 0 d d' := by
  have hreadys : readys d' = readys d := h.submitted
  refine ⟨hreadys.ge, ?_, fun hlt => ?_⟩
  · rw [hreadys, h.requested_eq, Nat.add_zero]
  · omega

theorem Announces.accounts {d d' : Device} (h : Announces d d') : Accounts 0 d d' := by
  obtain ⟨n, hn, hsub, -⟩ := h.count
  have hreadys : readys d' = readys d + n := hsub
  refine ⟨by omega, ?_, fun hlt => ⟨h.was_requested, h.cleared, by omega⟩⟩
  rw [h.was_requested, h.cleared]
  simp only [Bool.toNat_false, Bool.toNat_true]
  omega

theorem Ends.accounts {d d' : Device} (h : Ends d d') : Accounts 0 d d' := by
  have hreadys : readys d' = readys d := congrArg updateReadys h.submitted
  refine ⟨hreadys.ge, ?_, fun hlt => by omega⟩
  rw [hreadys, h.cleared, Bool.toNat_false]
  omega

end Evdi
