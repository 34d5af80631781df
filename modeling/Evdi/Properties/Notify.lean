import Evdi.Model.Client
import Evdi.Model.Modeset

/-!
# The request flag and its notification

A client asks for an update (`REQUEST_UPDATE`); when nothing is dirty it is answered 0 and waits for
an `UPDATE_READY` event.

* `Device.Quiet`: the request flag is not set while rectangles are pending;
* `Keeps`: what a step that has nothing to do with the flag leaves alone;
* `createAndSend_submitted`: what sending an event queues;
* `Notifies`: what the one section of a commit does that clears the flag;
* `CommitSection.advances`, `Commit.run_establishes`: what the sections of a commit do, and what the
  last one leaves;
* `CallEffect`: what a client's calls do.
-/

namespace Evdi

open Atomic Bytes

/-- `painter->was_update_requested`. -/
def requested (d : Device) : Bool := d.painter.any (·.wasUpdateRequested)

/-- Not both: the update was requested, and rectangles are pending. -/
def Device.Quiet (d : Device) : Prop := ¬ (requested d = true ∧ painterGetNumDirts d > 0)

/-- The events handed to the client, then those pending. -/
def Device.queue (d : Device) : List PendingEvent :=
  d.drm.delivered ++ (d.painter.elim [] (·.pendingEvents))

/-! ### What the sections keep -/

/-- The request flag is as before, events were only added to those submitted, and answers of the
allocator were only used up. -/
structure Keeps (d d' : Device) : Prop where
  requested_eq : requested d' = requested d
  submitted : d.drm.submitted <+: d'.drm.submitted
  kzalloc : ∃ n, d'.drm.kzalloc = d.drm.kzalloc.drop n

theorem Keeps.refl (d : Device) : Keeps d d := ⟨rfl, List.prefix_rfl, 0, rfl⟩

theorem Keeps.trans {d d' d'' : Device} (h : Keeps d d') (h' : Keeps d' d'') : Keeps d d'' := by
  refine ⟨h'.requested_eq.trans h.requested_eq, h.submitted.trans h'.submitted, ?_⟩
  obtain ⟨m, hm⟩ := h.kzalloc
  obtain ⟨n, hn⟩ := h'.kzalloc
  exact ⟨m + n, by rw [hn, hm, Stream'.drop_drop]⟩

theorem keeps_onPainter {f : Painter → Painter} (d : Device)
    (hf : ∀ p, (f p).wasUpdateRequested = p.wasUpdateRequested) : Keeps d (d.onPainter f) := by
  refine ⟨?_, List.prefix_rfl, 0, rfl⟩
  cases h : d.painter <;> simp [requested, h, hf]

theorem keeps_onDrm {g : DrmCore → DrmCore} (d : Device)
    (hg : (g d.drm).submitted = d.drm.submitted) (hk : (g d.drm).kzalloc = d.drm.kzalloc) :
    Keeps d (d.onDrm g) :=
  ⟨rfl, by simp [hg], 0, hk⟩

theorem keeps_markDirty (r : ClipRect) (d : Device) : Keeps d (painterMarkDirty r d) :=
  keeps_onPainter d fun p => by unfold Painter.markDirty; split <;> rfl

theorem keeps_flush (d : Device) : Keeps d (painterFlushPendingEvents d).1 := by
  unfold painterFlushPendingEvents
  cases h : d.painter with
  | none => exact Keeps.refl d
  | some p =>
    obtain ⟨sent, left, space, -, heq⟩ := flushEvents_spec p.pendingEvents d.drm
    simp only [heq]
    exact ⟨by simp [requested, h], List.prefix_rfl, 0, rfl⟩

theorem keeps_sendVblank (c : Option Crtc) (v : Option VblankEvent) (d : Device) :
    Keeps d (sendVblank c v d) := by
  unfold sendVblank
  split
  · exact ⟨rfl, List.prefix_rfl, 0, rfl⟩
  · exact Keeps.refl d

theorem keeps_painterSendVblank (d : Device) : Keeps d (painterSendVblank d) := by
  unfold painterSendVblank
  split
  · exact Keeps.refl d
  · exact (keeps_sendVblank _ _ d).trans (keeps_onPainter _ fun _ => rfl)

theorem keeps_setVblank (c : Option Crtc) (v : Option VblankEvent) (d : Device) :
    Keeps d (painterSetVblank c v d) := by
  unfold painterSetVblank
  split
  · exact keeps_sendVblank _ _ d
  · dsimp only
    split_ifs
    · exact (keeps_painterSendVblank d).trans (keeps_onPainter _ fun _ => rfl)
    · exact (keeps_painterSendVblank d).trans (keeps_sendVblank _ _ _)

theorem keeps_gemObjectRef (obj : Option GemRef) (n : ℤ) (d : Device) :
    Keeps d (drmGemObjectRef obj n d) := by
  cases obj with
  | none => exact Keeps.refl d
  | some o => exact ⟨rfl, List.prefix_rfl, 0, rfl⟩

/-- The cursor is not looked at. -/
theorem Keeps.cursor {d d' : Device} (h : Keeps d d') (c : Cursor) :
    Keeps d { d' with cursor := c } := ⟨h.requested_eq, h.submitted, h.kzalloc⟩

theorem keeps_cursorSetGem (obj : Option GemRef) (d : Device) : Keeps d (cursorSetGem obj d) :=
  ((keeps_gemObjectRef obj 1 d).trans (keeps_gemObjectRef _ (-1) _)).cursor _

theorem keeps_cursorEnable (enable : Bool) (d : Device) : Keeps d (cursorEnable enable d) := by
  unfold cursorEnable
  dsimp only
  split_ifs
  · exact (Keeps.refl d).cursor _
  · exact ((Keeps.refl d).cursor _).trans (keeps_cursorSetGem _ _)

theorem keeps_cursorSet (obj : Option GemObject) (ans : VmapAnswers) (image : CursorImage)
    (d : Device) : Keeps d (cursorSet obj ans image d) :=
  ((Keeps.refl d).cursor _).trans (keeps_cursorSetGem _ _)

/-- Sending an event keeps the request flag. -/
theorem SendSection.keeps {f : Device → Device} (h : SendSection f) (d : Device) :
    Keeps d (f d) := by
  have heffect := h.effect d
  obtain ⟨g, hpainter, hg⟩ := heffect.painter
  obtain ⟨used, space, serial, submitted, delivered, freed, hprefix, -, hdrm⟩ := heffect.drm
  refine ⟨?_, by rw [hdrm]; exact hprefix, used, by rw [hdrm]⟩
  rw [requested, requested, hpainter, Option.any_map]
  refine congrArg (fun flag => d.painter.any flag) (funext fun p => ?_)
  obtain ⟨pending, work, fgConsole, hp⟩ := hg p
  rw [hp]

/-! ### The section that clears the flag -/

/-- The request flag is cleared, and a client that can be told is told: an `UPDATE_READY` event is
put at the end of the queue. -/
structure Notifies (d d' : Device) : Prop where
  was_requested : requested d = true
  cleared : requested d' = false
  submitted : d.drm.submitted <+: d'.drm.submitted
  kzalloc : ∃ n, d'.drm.kzalloc = d.drm.kzalloc.drop n
  appended : canSend d = true → d.drm.kzalloc.head = true → ∃ e : PendingEvent,
    e.event = .updateReady ∧ d'.queue = d.queue ++ [e] ∧
      d'.drm.submitted = d.drm.submitted ++ [e]

theorem queue_flush (d : Device) : (painterFlushPendingEvents d).1.queue = d.queue := by
  unfold painterFlushPendingEvents
  cases h : d.painter with
  | none => rfl
  | some p =>
    obtain ⟨sent, left, space, hpending, heq⟩ := flushEvents_spec p.pendingEvents d.drm
    simp only [heq, Device.queue, h, Option.elim_some, List.append_assoc, ← hpending]

theorem submitted_flush (d : Device) :
    (painterFlushPendingEvents d).1.drm.submitted = d.drm.submitted := by
  unfold painterFlushPendingEvents
  cases d.painter with
  | none => rfl
  | some p =>
    obtain ⟨sent, left, space, -, heq⟩ := flushEvents_spec p.pendingEvents d.drm
    simp only [heq]

/-- What follows the append leaves the queue as it is. -/
theorem queue_flushOrSchedule (d : Device) :
    (flushOrSchedule.exec d).1.queue = d.queue ∧
      (flushOrSchedule.exec d).1.drm.submitted = d.drm.submitted := by
  have hschedule : ∀ d : Device, (scheduleDelayedWork d).queue = d.queue := by
    intro d
    cases h : d.painter <;> simp [scheduleDelayedWork, Device.queue, h]
  by_cases hpending : delayedWorkPending d = true
  · simp [flushOrSchedule, hpending]
  · by_cases hall : (painterFlushPendingEvents d).2 = true
    · simp [flushOrSchedule, hpending, hall, queue_flush, submitted_flush]
    · have hexec : (flushOrSchedule.exec d).1 =
          scheduleDelayedWork (painterFlushPendingEvents d).1 := by
        simp [flushOrSchedule, hpending, hall]
      rw [hexec, hschedule, queue_flush]
      exact ⟨rfl, submitted_flush d⟩

theorem submitted_addEvent {d : Device} (hd : canSend d = true) (e : PendingEvent) :
    (painterAddEventToPendingList e d).drm.submitted = d.drm.submitted ++ [e] := by
  cases hp : d.painter with
  | none => simp [canSend, hp] at hd
  | some p => simp [painterAddEventToPendingList, hp]

/-- **Sending an event** queues it when it could be allocated and there is a client to send it to. -/
theorem createAndSend_submitted (event : Event) (d : Device) :
    ((createAndSend event).exec d).1.drm.submitted = d.drm.submitted ++
      if d.drm.kzalloc.head && canSend d then [⟨d.drm.nextSerial, event⟩] else [] := by
  by_cases hk : d.drm.kzalloc.head = true
  · have hcreate : createEvent event d =
        (d.onDrm fun drm => { drm with
          kzalloc := drm.kzalloc.tail, nextSerial := drm.nextSerial + 1 },
          some ⟨d.drm.nextSerial, event⟩) := if_pos hk
    by_cases hd : canSend d = true
    · have hadd := submitted_addEvent (d := (createEvent event d).1) (by rwa [hcreate])
        ⟨d.drm.nextSerial, event⟩
      have hsend : canSend (createEvent event d).1 = true := by rwa [hcreate]
      simp only [hcreate] at hadd hsend
      simp only [createAndSend, Prog.exec_bind, Prog.exec_act, hcreate, painterSendEvent,
        Prog.exec_read, hsend, if_true, Prog.exec_modify, (queue_flushOrSchedule _).2, hadd]
      simp [hk, hd]
    · have hsend : canSend (createEvent event d).1 = false := by
        rw [hcreate]
        exact Bool.eq_false_iff.2 hd
      simp only [hcreate] at hsend
      simp [createAndSend, hcreate, painterSendEvent, hsend, hd, drmEventCancelFree]
  · have hcreate : createEvent event d =
        (d.onDrm fun drm => { drm with kzalloc := drm.kzalloc.tail }, none) := if_neg hk
    simp [createAndSend, hcreate, painterSendEvent, hk]

/-- An event that is not squashable goes to the end of the queue. -/
theorem queue_addEvent {e : PendingEvent} {d : Device} (he : isEvdiEventSquashable e = false)
    (hd : canSend d = true) : (painterAddEventToPendingList e d).queue = d.queue ++ [e] := by
  cases hp : d.painter with
  | none => simp [canSend, hp] at hd
  | some p =>
    have hpush : pushEvent p.pendingEvents e = (p.pendingEvents ++ [e], []) := by
      refine (pushEvent_cases p.pendingEvents e).resolve_right ?_
      rintro ⟨rest, last, -, hsq, -⟩
      exact Bool.false_ne_true (he.symm.trans hsq.2)
    simp [painterAddEventToPendingList, hp, hpush, Device.queue]

/-- A client that can be told is sent its `UPDATE_READY` event. -/
theorem queue_sendUpdateReady {d : Device} (hd : canSend d = true)
    (hk : d.drm.kzalloc.head = true) : ∃ e : PendingEvent, e.event = .updateReady ∧
      (painterSendUpdateReady.exec d).1.queue = d.queue ++ [e] ∧
      (painterSendUpdateReady.exec d).1.drm.submitted = d.drm.submitted ++ [e] := by
  have hsubmitted := createAndSend_submitted .updateReady d
  rw [hk, hd] at hsubmitted
  refine ⟨⟨d.drm.nextSerial, .updateReady⟩, rfl, ?_, hsubmitted⟩
  obtain ⟨d₁, hcreate, hsend, hqueue⟩ : ∃ d₁ : Device,
      createEvent .updateReady d = (d₁, some ⟨d.drm.nextSerial, .updateReady⟩) ∧
      canSend d₁ = true ∧ d₁.queue = d.queue := by
    rw [createEvent, if_pos hk]
    exact ⟨_, rfl, hd, rfl⟩
  have hadd := queue_addEvent (e := ⟨d.drm.nextSerial, .updateReady⟩) rfl hsend
  simp only [painterSendUpdateReady, createAndSend, Prog.exec_bind, Prog.exec_act, hcreate,
    painterSendEvent, Prog.exec_read, hsend, if_true, Prog.exec_modify]
  rw [(queue_flushOrSchedule _).1, hadd, hqueue]

theorem requested_clear (d : Device) :
    requested (d.onPainter fun p => { p with wasUpdateRequested := false }) = false := by
  cases h : d.painter <;> simp [requested, h]

theorem keeps_sendUpdateReady (d : Device) : Keeps d (painterSendUpdateReady.exec d).1 :=
  (createAndSend_uses .updateReady).exec (fun _ hf => hf.keeps) Keeps.refl (fun _ _ _ => Keeps.trans) d

/-- The section clears the flag with a notification, or does nothing to it. -/
theorem updateReadyIfNeeded_advances (d : Device) :
    Keeps d (updateReadyIfNeeded.exec d).1 ∨ Notifies d (updateReadyIfNeeded.exec d).1 := by
  rw [updateReadyIfNeeded_exec]
  split_ifs with h
  · have hkeeps := keeps_sendUpdateReady d
    refine .inr ⟨?_, requested_clear _, hkeeps.submitted, hkeeps.kzalloc, fun hd hk => ?_⟩
    · cases hp : d.painter with
      | none => simp [hp] at h
      | some p => simp_all [requested]
    · obtain ⟨e, he, hqueue, hsubmitted⟩ := queue_sendUpdateReady hd hk
      refine ⟨e, he, ?_, hsubmitted⟩
      rw [← hqueue]
      cases hp : (painterSendUpdateReady.exec d).1.painter <;> simp [Device.queue, hp]
  · exact .inl (Keeps.refl d)

/-- After the section no request is waiting on pending rectangles. -/
theorem quiet_updateReadyIfNeeded (d : Device) : (updateReadyIfNeeded.exec d).1.Quiet := by
  rw [updateReadyIfNeeded_exec]
  rintro ⟨hrequested, hdirts⟩
  split_ifs at hrequested hdirts with h
  · rw [requested_clear] at hrequested
    exact Bool.false_ne_true hrequested
  · cases hp : d.painter with
    | none => simp [requested, hp] at hrequested
    | some p =>
      simp only [requested, painterGetNumDirts, hp, Option.any_some] at hrequested hdirts h
      exact h (by simp [hrequested, hdirts.ne'])

/-- **Every section of a commit** keeps the flag or clears it with a notification. -/
theorem CommitSection.advances {f : Device → Device} (h : CommitSection f) (d : Device) :
    Keeps d (f d) ∨ Notifies d (f d) := by
  cases h with
  | updateReady => exact updateReadyIfNeeded_advances d
  | read => exact .inl (Keeps.refl d)
  | send h => exact .inl (h.keeps d)
  | forceModeset => exact .inl (keeps_onPainter d fun _ => rfl)
  | modesetDone => exact .inl (keeps_onPainter d fun _ => rfl)
  | fbRef fb n => exact .inl (keeps_onDrm d rfl rfl)
  | swap fb => exact .inl (keeps_onPainter d fun _ => rfl)
  | markDirty rect => exact .inl (keeps_markDirty rect d)
  | cursorMove x y => exact .inl ((Keeps.refl d).cursor _)
  | cursorSet obj ans image => exact .inl (keeps_cursorSet obj ans image d)
  | cursorEnable enable => exact .inl (keeps_cursorEnable enable d)
  | setVblank crtc vblank => exact .inl (keeps_setVblank crtc vblank d)

/-- The last section of a commit leaves the device quiet. -/
theorem Commit.run_establishes (c : Commit) : c.run.Establishes Device.Quiet := by
  refine Prog.Establishes.after (fun _ => ?_) _
  refine Prog.Establishes.after (fun _ => ?_) _
  refine Prog.Establishes.after (fun _ => ?_) _
  refine Prog.Establishes.after (fun _ => ?_) _
  refine Prog.Establishes.after (fun _ => ?_) _
  refine Prog.Establishes.after (fun _ => ?_) _
  exact Prog.establishes_act quiet_updateReadyIfNeeded

/-! ### The calls of the client -/

/-- A client's call may ask, or end the session; otherwise it keeps the flag. -/
inductive CallEffect (d d' : Device) : Prop
  | keeps (h : Keeps d d')
  | asks (h : requested d' = true) (hs : d'.drm.submitted = d.drm.submitted)
      (hk : d'.drm.kzalloc = d.drm.kzalloc)
  | ends (h : requested d' = false) (hc : canSend d' = false)
      (hs : d'.drm.submitted = d.drm.submitted)

/-- A request, by its outcomes: there is no painter, a request waits already, rectangles are pending, or
the request is accepted. -/
theorem painterRequestUpdateIoctl_cases (d : Device) :
    (d.painter = none ∧ painterRequestUpdateIoctl d = (d, -ENODEV)) ∨
    (requested d = true ∧ painterRequestUpdateIoctl d = (d, 0)) ∨
    (requested d = false ∧ d.dirtyRects ≠ [] ∧ painterRequestUpdateIoctl d = (d, 1)) ∨
    (requested d = false ∧ d.dirtyRects = [] ∧ d.painter ≠ none ∧ painterRequestUpdateIoctl d =
      (d.onPainter fun p => { p with wasUpdateRequested := true }, 0)) := by
  unfold painterRequestUpdateIoctl
  cases hp : d.painter with
  | none => exact .inl ⟨rfl, rfl⟩
  | some p =>
    have hflag : requested d = p.wasUpdateRequested := by simp [requested, hp]
    have hdirts : p.numDirts > 0 ↔ d.dirtyRects ≠ [] := by
      rw [← numDirts_pos, painterGetNumDirts, hp]
    dsimp only
    by_cases hreq : p.wasUpdateRequested = true
    · exact .inr (.inl ⟨hflag.trans hreq, if_pos hreq⟩)
    · have hclear : requested d = false := hflag.trans (Bool.eq_false_iff.2 hreq)
      by_cases hdirty : p.numDirts > 0
      · exact .inr (.inr (.inl ⟨hclear, hdirts.1 hdirty, by rw [if_neg hreq, if_pos hdirty]⟩))
      · refine .inr (.inr (.inr ⟨hclear, ?_, by simp, by rw [if_neg hreq, if_neg hdirty]⟩))
        exact not_not.1 fun hne => hdirty (hdirts.2 hne)

/-- An accepted request waits. -/
theorem requested_accepted {d : Device} (hp : d.painter ≠ none) :
    requested (d.onPainter fun p => { p with wasUpdateRequested := true }) = true := by
  obtain ⟨p, hp⟩ := Option.ne_none_iff_exists'.1 hp
  simp [requested, hp]

theorem callEffect_requestUpdate (d : Device) :
    CallEffect d (painterRequestUpdateIoctl d).1 := by
  rcases painterRequestUpdateIoctl_cases d with ⟨-, heq⟩ | ⟨-, heq⟩ | ⟨-, -, heq⟩ | ⟨-, -, hp, heq⟩
  · rw [heq]
    exact .keeps (Keeps.refl d)
  · rw [heq]
    exact .keeps (Keeps.refl d)
  · rw [heq]
    exact .keeps (Keeps.refl d)
  · rw [heq]
    exact .asks (requested_accepted hp) rfl rfl

theorem keeps_fbRef (fb : Framebuffer) (n : ℤ) (d : Device) : Keeps d (drmFramebufferRef fb n d) :=
  ⟨rfl, List.prefix_rfl, 0, rfl⟩

theorem keeps_grabpixLocked (cmd : GrabpixCmd) (d : Device) :
    Keeps d (painterGrabpixLocked cmd d).1 := by
  rcases painterGrabpixLocked_cases cmd d with ⟨err, h, -⟩ | ⟨p, -, -, h⟩ |
    ⟨p, efb, cmd', -, -, -, h⟩
  · rw [h]; exact Keeps.refl d
  · rw [h]; exact keeps_onPainter d fun _ => rfl
  · rw [h]; exact (keeps_fbRef efb 1 d).trans (keeps_onPainter _ fun _ => rfl)

theorem keeps_grabpixFinish (g : Grab) (d : Device) : Keeps d (painterGrabpixFinish g d) :=
  (keeps_sendVblank _ _ d).trans (keeps_fbRef _ _ _)

/-- Connecting keeps the flag. -/
theorem keeps_connected (file : DrmFile) (n : UInt32) (edid : List UInt8) (area pps : UInt32)
    (i2cAdapter : Bool) (d : Device) :
    Keeps d { d with
      painter := d.painter.map (·.connected file n edid)
      pixelAreaLimit := area
      pixelPerSecondLimit := pps
      i2cAdapter := i2cAdapter } := by
  obtain ⟨hreq, hsub, hkz⟩ := keeps_onPainter (f := (·.connected file n edid)) d fun _ => rfl
  exact ⟨hreq, hsub, hkz⟩

theorem callEffect_disconnect (file : DrmFile) (d : Device) :
    CallEffect d (painterDisconnect file d).1 := by
  rcases painterDisconnect_cases file d with heq | ⟨p, hp, hfile⟩
  · rw [heq]
    exact .keeps (Keeps.refl d)
  · rw [painterDisconnect_owner hp hfile]
    exact .ends rfl rfl rfl

theorem callEffect_connectIoctl (user : UInt64 → UserRegion) (ans : ConnectAnswers)
    (cmd : ConnectCmd) (file : DrmFile) (d : Device) :
    CallEffect d (painterConnectIoctl user ans cmd file d).1 := by
  rcases painterConnectIoctl_cases user ans cmd file d with ⟨err, heq, -⟩ |
    ⟨edid, -, -, -, -, heq⟩ | ⟨-, heq⟩
  · rw [heq]
    exact .keeps (Keeps.refl d)
  · rw [heq]
    exact .keeps (keeps_connected file _ edid _ _ _ d)
  · rw [heq]
    exact callEffect_disconnect file d

/-! ### Quiet states -/

theorem quiet_of_not_requested {d : Device} (h : requested d = false) : d.Quiet := by
  rintro ⟨hreq, -⟩
  rw [h] at hreq
  exact Bool.false_ne_true hreq

/-- A step that keeps the flag and adds no damage to a device without any keeps it quiet. -/
theorem Device.Quiet.of_keeps {d d' : Device} (h : d.Quiet) (hk : Keeps d d')
    (hdirts : painterGetNumDirts d' > 0 → painterGetNumDirts d > 0) : d'.Quiet := by
  rintro ⟨hreq, hd'⟩
  exact h ⟨hk.requested_eq ▸ hreq, hdirts hd'⟩

theorem quiet_requestUpdate {d : Device} (h : d.Quiet) : (painterRequestUpdateIoctl d).1.Quiet := by
  rcases painterRequestUpdateIoctl_cases d with ⟨-, heq⟩ | ⟨-, heq⟩ | ⟨-, -, heq⟩ |
    ⟨-, hclean, -, heq⟩
  · rwa [heq]
  · rwa [heq]
  · rwa [heq]
  · -- a request is accepted only when nothing is pending
    rw [heq]
    have hsame : (d.onPainter fun p => { p with wasUpdateRequested := true }).dirtyRects =
        d.dirtyRects := dirtyRects_onPainter d fun _ => rfl
    rintro ⟨-, hdirts⟩
    exact numDirts_pos.1 hdirts (hsame.trans hclean)

theorem quiet_grabpixLocked (cmd : GrabpixCmd) {d : Device} (h : d.Quiet) :
    (painterGrabpixLocked cmd d).1.Quiet := by
  refine h.of_keeps (keeps_grabpixLocked cmd d) ?_
  rw [numDirts_pos, numDirts_pos]
  rcases painterGrabpixLocked_cases cmd d with ⟨err, h, -⟩ | ⟨p, hp, -, h⟩ |
    ⟨p, efb, cmd', hp, -, -, h⟩
  · rw [h]; exact id
  · rw [h]; simp [Device.dirtyRects, hp]
  · rw [h]; simp [Device.dirtyRects, hp, drmFramebufferRef]

theorem quiet_grabpixFinish (g : Grab) {d : Device} (h : d.Quiet) :
    (painterGrabpixFinish g d).Quiet := by
  refine h.of_keeps (keeps_grabpixFinish g d) ?_
  rw [painterGrabpixFinish, sendVblank_eq]
  exact id

theorem quiet_disconnect (file : DrmFile) {d : Device} (h : d.Quiet) :
    (painterDisconnect file d).1.Quiet := by
  rcases painterDisconnect_cases file d with heq | ⟨p, hp, hfile⟩
  · rwa [heq]
  · rw [painterDisconnect_owner hp hfile]
    exact quiet_of_not_requested rfl

theorem quiet_connectIoctl (user : UInt64 → UserRegion) (ans : ConnectAnswers)
    (cmd : ConnectCmd) (file : DrmFile) {d : Device} (h : d.Quiet) :
    (painterConnectIoctl user ans cmd file d).1.Quiet := by
  rcases painterConnectIoctl_cases user ans cmd file d with ⟨err, heq, -⟩ |
    ⟨edid, -, -, -, -, heq⟩ | ⟨-, heq⟩
  · rwa [heq]
  · rw [heq]
    refine h.of_keeps (keeps_connected file _ edid _ _ _ d) ?_
    rw [numDirts_pos, numDirts_pos]
    intro hd hd'
    refine hd (Eq.trans ?_ hd')
    exact dirtyRects_onPainter (f := (·.connected file cmd.edidLength edid)) d fun _ => rfl
  · rw [heq]
    exact quiet_disconnect file h

/-! ### The steps of the clients -/

theorem keeps_ddcciResponse (user : UInt64 → UserRegion) (kzalloc : Bool)
    (cmd : DdcciResponseCmd) (d : Device) :
    Keeps d (painterDdcciResponseIoctl user kzalloc cmd d).1 := by
  obtain ⟨buffer, length, received, h⟩ := painterDdcciResponseIoctl_device user kzalloc cmd d
  rw [h]
  exact keeps_onPainter d fun _ => rfl

/-- **Every call of a client** asks, ends the session, or keeps the flag. -/
theorem ClientSection.effect {f : Device → Device} (h : ClientSection f) (d : Device) :
    CallEffect d (f d) := by
  cases h with
  | requestUpdate => exact callEffect_requestUpdate d
  | grabpix cmd => exact .keeps (keeps_grabpixLocked cmd d)
  | grabpixDone g => exact .keeps (keeps_grabpixFinish g d)
  | connect user ans cmd file => exact callEffect_connectIoctl user ans cmd file d
  | close file =>
    show CallEffect d (painterClose file d)
    rw [painterClose_eq]
    exact callEffect_disconnect file d
  | ddcciResponse user kzalloc cmd => exact .keeps (keeps_ddcciResponse user kzalloc cmd d)
  | enableCursorEvents cmd => exact .keeps ⟨rfl, List.prefix_rfl, 0, rfl⟩

theorem quiet_ddcciResponse (user : UInt64 → UserRegion) (kzalloc : Bool)
    (cmd : DdcciResponseCmd) {d : Device} (h : d.Quiet) :
    (painterDdcciResponseIoctl user kzalloc cmd d).1.Quiet := by
  refine h.of_keeps (keeps_ddcciResponse user kzalloc cmd d) ?_
  obtain ⟨buffer, length, received, heq⟩ := painterDdcciResponseIoctl_device user kzalloc cmd d
  rw [heq, numDirts_pos, numDirts_pos]
  intro hd hd'
  exact hd ((dirtyRects_onPainter d (by intro p; rfl)).trans hd')

/-- No client makes a quiet device unquiet. -/
theorem ClientSection.quiet {f : Device → Device} (h : ClientSection f) {d : Device}
    (hq : d.Quiet) : (f d).Quiet := by
  cases h with
  | requestUpdate => exact quiet_requestUpdate hq
  | grabpix cmd => exact quiet_grabpixLocked cmd hq
  | grabpixDone g => exact quiet_grabpixFinish g hq
  | connect user ans cmd file => exact quiet_connectIoctl user ans cmd file hq
  | close file =>
    show (painterClose file d).Quiet
    rw [painterClose_eq]
    exact quiet_disconnect file hq
  | ddcciResponse user kzalloc cmd => exact quiet_ddcciResponse user kzalloc cmd hq
  | enableCursorEvents cmd => exact hq

end Evdi
