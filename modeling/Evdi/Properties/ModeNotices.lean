import Evdi.Properties.VtSwitch

/-!
# Obligations and their notifications

The driver owes a client an `UPDATE_READY` event (`was_update_requested`) or a `MODE_CHANGED` event
(`needs_full_modeset`).  The first is given up under the painter lock, together with the append; the
second without the lock, some time after it, whether or not anything was appended.

* `updateReadyIfNeeded_told`: when the first obligation is given up with its event queued;
* `ModeNotice`: a call of `evdi_painter_mode_changed_notify` under way, section by section
  (`ModeNotice.next_section`);
* `ModeNotices.Step`: such calls, clients' calls and the other sections of the kernel, in any order;
* `ModeNotices.Settled`: the events are allocated, and no client connects between the append and the
  clear; `ModeNotices.told_before_clear`: then no obligation is given up without its event;
* `ModeNotices.mode_never_told`: without, a client may never learn the mode.
-/

namespace Evdi

open Atomic Transition Bytes

/-! ### The update request -/

/-- **The update request** of a client that can be told is cleared with an `UPDATE_READY` event in the
queue exactly when nothing is due, or the event can be allocated. -/
theorem updateReadyIfNeeded_told {d : Device} (hd : canSend d = true) :
    (requested d = true → requested (updateReadyIfNeeded.exec d).1 = false → ∃ e : PendingEvent,
      e.event = .updateReady ∧
        (updateReadyIfNeeded.exec d).1.drm.submitted = d.drm.submitted ++ [e]) ↔
      (d.drm.kzalloc.head = true ∨ ¬ (requested d = true ∧ d.dirtyRects ≠ [])) := by
  have hdue : (d.painter.any fun p => p.wasUpdateRequested && p.numDirts != 0) = true ↔
      requested d = true ∧ d.dirtyRects ≠ [] := by
    cases hp : d.painter with
    | none => simp [requested, hp]
    | some p => simp [requested, Device.dirtyRects, Painter.numDirts, hp]
  rw [updateReadyIfNeeded_exec]
  by_cases h : requested d = true ∧ d.dirtyRects ≠ []
  · rw [if_pos (hdue.2 h)]
    have hsub := createAndSend_submitted .updateReady d
    rw [hd, Bool.and_true] at hsub
    constructor
    · intro htold
      obtain ⟨e, -, heq⟩ := htold h.1 (requested_clear _)
      refine .inl ?_
      by_contra hk
      rw [Bool.not_eq_true] at hk
      rw [hk] at hsub
      have hnone : d.drm.submitted ++ [e] = d.drm.submitted := heq.symm.trans (hsub.trans (by simp))
      simp at hnone
    · rintro (hk | hnot) - -
      · rw [hk] at hsub
        exact ⟨_, rfl, hsub⟩
      · exact absurd h hnot
  · rw [if_neg (mt hdue.1 h)]
    refine ⟨fun _ => .inr h, fun _ hset hclear => ?_⟩
    rw [hset] at hclear
    cases hclear

/-! ### The notification of a mode -/

/-- The event of `evdi_painter_mode_changed_notify`. -/
def modeChangedEvent (mode : DisplayMode) (fb : Framebuffer) : Event :=
  .modeChanged (.ofNat mode.hdisplay.toNat) (.ofNat mode.vdisplay.toNat) mode.vrefresh
    (.ofNat (fb.format.cpp0.toNat * 8)) fb.format.format

/-- `painter->needs_full_modeset = false`. -/
def clearFullModeset (d : Device) : Device := d.onPainter fun p => { p with needsFullModeset := false }

/-- A call of `evdi_painter_mode_changed_notify`: before it looks at the scanout buffer, before it
creates its event, before it sees whether there is a client, before it appends the event or frees it,
while it flushes, and when nothing was queued. -/
inductive ModeNotice
  | called (mode : DisplayMode)
  | noted (event : Event)
  | created (e : PendingEvent)
  | adding (e : PendingEvent)
  | cancelling (e : PendingEvent)
  | flushing (e : PendingEvent) (rest : Prog Device Unit)
  | dropped

namespace ModeNotice

/-- The next step of a call: what it does to the device, and what is left of the call. -/
def next (d : Device) : ModeNotice → Device × Option ModeNotice
  | .called mode => (d, (d.painter.bind (·.scanoutFb)).map fun fb => .noted (modeChangedEvent mode fb))
  | .noted event => ((createEvent event d).1, some ((createEvent event d).2.elim .dropped .created))
  | .created e => (d, some (if canSend d then .adding e else .cancelling e))
  | .adding e => (painterAddEventToPendingList e d, some (.flushing e flushOrSchedule))
  | .cancelling e => (drmEventCancelFree e d, some .dropped)
  | .flushing e (.sec f k) => (f d, some (.flushing e (k d)))
  | .flushing _ (.pure ()) => (clearFullModeset d, none)
  | .dropped => (clearFullModeset d, none)

/-- What is left of the program of the call. -/
def run : ModeNotice → Prog Device Unit
  | .called mode => painterModeChangedNotify mode
  | .noted event => createAndSend event >>= fun _ => .modify clearFullModeset
  | .created e => painterSendEvent (some e) >>= fun _ => .modify clearFullModeset
  | .adding e => (Prog.modify (painterAddEventToPendingList e) >>= fun _ => flushOrSchedule) >>=
      fun _ => .modify clearFullModeset
  | .cancelling e => Prog.modify (drmEventCancelFree e) >>= fun _ => .modify clearFullModeset
  | .flushing _ rest => rest >>= fun _ => .modify clearFullModeset
  | .dropped => .modify clearFullModeset

/-- A step is the next section of the program. -/
theorem next_section (w : ModeNotice) (d : Device) : ∃ f k, w.run = .sec f k ∧ (w.next d).1 = f d ∧
    (w.next d).2.elim (.pure ()) run = k d := by
  cases w with
  | called mode =>
    refine ⟨_, _, rfl, rfl, ?_⟩
    cases hfb : d.painter.bind (·.scanoutFb) <;> simp only [next, hfb] <;> rfl
  | noted event =>
    refine ⟨_, _, rfl, rfl, ?_⟩
    cases he : (createEvent event d).2 <;> simp only [next, he] <;> rfl
  | created e =>
    refine ⟨_, _, rfl, rfl, ?_⟩
    cases hd : canSend d <;> simp only [next, hd] <;> rfl
  | adding e => exact ⟨_, _, rfl, rfl, rfl⟩
  | cancelling e => exact ⟨_, _, rfl, rfl, rfl⟩
  | flushing e rest =>
    cases rest with
    | pure u => exact ⟨_, _, rfl, rfl, rfl⟩
    | sec f k => exact ⟨_, _, rfl, rfl, rfl⟩
  | dropped => exact ⟨_, _, rfl, rfl, rfl⟩

/-- A call that has appended or dropped its event, and has still to clear the flag. -/
def late : ModeNotice → Bool
  | .cancelling _ => true
  | .flushing _ _ => true
  | .dropped => true
  | _ => false

/-- A call about to clear the flag. -/
def clears : ModeNotice → Bool
  | .flushing _ (.pure ()) => true
  | .dropped => true
  | _ => false

end ModeNotice

/-! ### The parties -/

/-- A section that does not clear the flag. -/
def KeepsModeset (f : Device → Device) : Prop :=
  ∀ d, painterNeedsFullModeset d = true → painterNeedsFullModeset (f d) = true

/-- A device with its clients, the notifications under way, and how many events had been queued when the
client connected. -/
structure ModeNotices extends Clients where
  notices : List ModeNotice
  connectedAt : ℕ

/-- A call that connects its caller. -/
def ClientCall.Connects : ClientCall → Prop
  | .connect cmd _ ret => cmd.connected ≠ 0 ∧ ret = 0
  | _ => False

namespace ModeNotices

/-- What may happen. -/
inductive Action
  | client (call : ClientCall)
  | call (mode : DisplayMode)
  | notice (w : ModeNotice)
  | kernel

/-- One step: a call of a client (a connect is remembered), the start or a step of a notification, or
another section of a commit or of the delayed work. -/
inductive Step : ModeNotices → Action → ModeNotices → Prop
  | connect {s : ModeNotices} {c : Clients} {call : ClientCall} :
      ClientStep s.toClients call c → call.Connects →
      Step s (.client call) { s with
        toClients := c
        connectedAt := c.device.drm.submitted.length }
  | client {s : ModeNotices} {c : Clients} {call : ClientCall} :
      ClientStep s.toClients call c → ¬ call.Connects →
      Step s (.client call) { s with toClients := c }
  | call {s : ModeNotices} (mode : DisplayMode) :
      Step s (.call mode) { s with notices := s.notices ++ [.called mode] }
  | notice {s : ModeNotices} {l r : List ModeNotice} {w : ModeNotice} :
      s.notices = l ++ w :: r →
      Step s (.notice w) { s with
        device := (w.next s.device).1
        notices := l ++ (w.next s.device).2.toList ++ r }
  | kernel {s : ModeNotices} {f : Device → Device} :
      CommitSection f → KeepsModeset f → Step s .kernel { s with device := f s.device }

/-- A fresh device, and nothing under way. -/
def init (fgConsole : ℤ) (drm : DrmCore) : ModeNotices where
  device := Device.init fgConsole drm
  grabs := []
  notices := []
  connectedAt := drm.submitted.length

/-- A `MODE_CHANGED` event has been queued since the client connected. -/
def Told (s : ModeNotices) : Prop :=
  ∃ e ∈ s.device.drm.submitted.drop s.connectedAt, e.event.IsModeChanged

/-- The condition on a step: the notification's event is allocated when there is a client to tell, and
no client connects while a notification that has appended or dropped its event has still to clear the
flag. -/
def Settled (s : ModeNotices) : Action → Prop
  | .client call => call.Connects → ∀ w ∈ s.notices, w.late = false
  | .notice (.noted _) => s.device.connected = true → s.device.drm.kzalloc.head = true
  | _ => True

/-- A step that meets the condition. -/
def SettledStep (s : ModeNotices) (a : Action) (t : ModeNotices) : Prop := Step s a t ∧ s.Settled a

end ModeNotices

/-! ### What the sections do -/

theorem SendSection.keepsModeset {f : Device → Device} (h : SendSection f) : KeepsModeset f := by
  intro d hneeds
  have hview : ∀ d, painterNeedsFullModeset d = (damageView d).any (·.2.2) := by
    intro d
    cases hp : d.painter <;> simp [painterNeedsFullModeset, damageView, hp]
  rw [hview, h.damageView_eq, ← hview]
  exact hneeds

/-- Every section of a commit is the clear of the flag, or keeps it. -/
theorem CommitSection.keepsModeset {f : Device → Device} (h : CommitSection f) :
    f = clearFullModeset ∨ KeepsModeset f := by
  have hview : (∀ d, vtView (f d) = vtView d) → KeepsModeset f := fun hf d hneeds =>
    (needs_of_switchView (switchView_of_vtView (hf d))).trans hneeds
  cases h with
  | read => exact .inr (hview fun _ => rfl)
  | send h => exact .inr h.keepsModeset
  | forceModeset =>
    refine .inr fun d hneeds => ?_
    cases hp : d.painter with
    | none => simp [painterNeedsFullModeset, hp] at hneeds
    | some p => simp [painterForceFullModeset, painterNeedsFullModeset, hp]
  | modesetDone => exact .inl rfl
  | fbRef fb n => exact .inr (hview fun _ => rfl)
  | swap fb => exact .inr (hview fun d => vtView_onPainter d fun _ => rfl)
  | markDirty rect => exact .inr (hview (vtView_markDirty rect))
  | cursorMove x y => exact .inr (hview fun _ => rfl)
  | cursorSet obj ans image => exact .inr (hview fun d => vtView_cursorSetGem _ _)
  | cursorEnable enable => exact .inr (hview (vtView_cursorEnable enable))
  | setVblank crtc vblank => exact .inr (hview (vtView_setVblank crtc vblank))
  | updateReady => exact .inr fun d hneeds => (needs_updateReadyIfNeeded d).trans hneeds

/-- What no section of the kernel touches, and what it only adds to. -/
structure SessionKept (d d' : Device) : Prop where
  connected : d'.connected = d.connected
  canSend : Evdi.canSend d' = Evdi.canSend d
  submitted : d.drm.submitted <+: d'.drm.submitted

theorem CommitSection.sessionKept {f : Device → Device} (h : CommitSection f) (d : Device) :
    SessionKept d (f d) := by
  have hview := h.painter_eq (v := fun p => (p.isConnected, p.drmFilp)) (fun p q hcore => ?_)
    (fun p r => ?_) (fun _ _ => rfl) d
  · refine ⟨?_, ?_, ?_⟩
    · have hconn : ∀ d : Device,
          d.connected = (d.painter.map fun p => (p.isConnected, p.drmFilp)).any (·.1) := by
        intro d
        cases hp : d.painter <;> simp [Device.connected, hp]
      rw [hconn, hconn, hview]
    · have hsend : ∀ d : Device, Evdi.canSend d =
          (d.painter.map fun p => (p.isConnected, p.drmFilp)).any fun v => v.2.isSome && v.1 := by
        intro d
        cases hp : d.painter <;> simp [Evdi.canSend, hp]
      rw [hsend, hsend, hview]
    · rcases h.advances d with hkeeps | hnotifies
      · exact hkeeps.submitted
      · exact hnotifies.submitted
  · have hread : ∀ p : Painter, (p.isConnected, p.drmFilp) = (p.core.isConnected, p.core.drmFilp) :=
      fun _ => rfl
    rw [hread p, hread q, hcore]
  · unfold Painter.markDirty
    cases p.scanoutFb <;> rfl

/-- What a client's call does to the session: it ends it, starts one, or leaves it as it is. -/
structure SessionEffect (call : ClientCall) (d d' : Device) : Prop where
  submitted : d'.drm.submitted = d.drm.submitted
  session : d'.connected = false ∨
    (call.Connects ∧ canSend d' = true ∧ painterNeedsFullModeset d' = true) ∨
    ¬ call.Connects ∧ switchView d' = switchView d

theorem sessionEffect_of_view {call : ClientCall} {d d' : Device} (hcall : ¬ call.Connects)
    (hview : vtView d' = vtView d) : SessionEffect call d d' :=
  ⟨submitted_of_vtView hview, .inr (.inr ⟨hcall, switchView_of_vtView hview⟩)⟩

theorem sessionEffect_disconnect {call : ClientCall} (hcall : ¬ call.Connects) (file : DrmFile)
    (d : Device) : SessionEffect call d (painterDisconnect file d).1 := by
  rcases painterDisconnect_cases file d with heq | ⟨p, hp, hfile⟩
  · exact sessionEffect_of_view hcall (by rw [heq])
  · rw [painterDisconnect_owner hp hfile]
    exact ⟨rfl, .inl rfl⟩

/-- **Every call of a client** ends the session, starts one, or leaves it as it is. -/
theorem ClientStep.session {s t : Clients} {call : ClientCall} (h : ClientStep s call t) :
    SessionEffect call s.device t.device := by
  cases h with
  | requestUpdate heq =>
    obtain rfl := (congrArg Prod.fst heq).symm
    exact sessionEffect_of_view id (vtView_requestUpdate s.device)
  | grabpix heq =>
    obtain rfl := (congrArg Prod.fst heq).symm
    exact sessionEffect_of_view id (vtView_grabpixLocked _ s.device)
  | grabpixRefused heq =>
    obtain rfl := (congrArg Prod.fst heq).symm
    exact sessionEffect_of_view id (vtView_grabpixLocked _ s.device)
  | @grabpixDone l r g env _ => exact sessionEffect_of_view id (vtView_grabpixFinish g s.device)
  | @connect d cmd file ret user ans heq =>
    rcases painterConnectIoctl_cases user ans cmd file s.device with ⟨err, herr, hneg⟩ |
      ⟨edid, hcmd, -, -, -, hok⟩ | ⟨hcmd, hdisc⟩
    · obtain ⟨rfl, rfl⟩ := Prod.mk.inj (herr.symm.trans heq)
      have hrefused : ¬ (ClientCall.connect cmd file err).Connects := fun hcall => hneg.ne hcall.2
      exact sessionEffect_of_view hrefused rfl
    · obtain ⟨rfl, rfl⟩ := Prod.mk.inj (hok.symm.trans heq)
      refine ⟨rfl, ?_⟩
      cases hp : s.device.painter with
      | none => exact .inl rfl
      | some p => exact .inr (.inl ⟨⟨hcmd, rfl⟩, rfl, rfl⟩)
    · obtain rfl : (painterDisconnect file s.device).1 = d :=
        congrArg Prod.fst (hdisc.symm.trans heq)
      have hends : ¬ (ClientCall.connect cmd file ret).Connects := fun hcall => hcall.1 hcmd
      exact sessionEffect_disconnect hends file s.device
  | close file =>
    show SessionEffect _ s.device (painterClose file s.device)
    rw [painterClose_eq]
    exact sessionEffect_disconnect id file s.device
  | ddcciResponse user kzalloc heq =>
    obtain rfl := (congrArg Prod.fst heq).symm
    exact sessionEffect_of_view id (vtView_ddcciResponse user kzalloc _ s.device)
  | enableCursorEvents cmd =>
    exact sessionEffect_of_view id (vtView_enableCursorEvents cmd s.device)

/-! ### The invariant -/

namespace ModeNotices

/-- What holds of a notification under way, of `n` events queued before the client connected. -/
def Ok (d : Device) (n : ℕ) : ModeNotice → Prop
  | .called _ => True
  | .noted event => event.IsModeChanged
  | .created e => e.event.IsModeChanged
  | .adding e => e.event.IsModeChanged
  | .cancelling _ => d.connected = false
  | .flushing e rest => e.event.IsModeChanged ∧
      (d.connected = true → e ∈ d.drm.submitted.drop n) ∧ rest.Uses SendSection
  | .dropped => d.connected = false

/-- What other parties do, but a connect, leaves it. -/
theorem Ok.mono {d d' : Device} {n : ℕ} {w : ModeNotice} (h : Ok d n w)
    (hconn : d'.connected = true → d.connected = true)
    (hsub : d.drm.submitted <+: d'.drm.submitted) : Ok d' n w := by
  have hgone : d.connected = false → d'.connected = false := by
    intro hd
    by_contra hd'
    rw [hconn (Bool.not_eq_false _ ▸ hd')] at hd
    cases hd
  cases w with
  | cancelling e => exact hgone h
  | dropped => exact hgone h
  | flushing e rest => exact ⟨h.1, fun hd => (hsub.drop n).subset (h.2.1 (hconn hd)), h.2.2⟩
  | _ => exact h

/-- A connect leaves what has still its event to queue. -/
theorem Ok.of_not_late {d d' : Device} {n n' : ℕ} {w : ModeNotice} (h : Ok d n w)
    (hlate : w.late = false) : Ok d' n' w := by
  cases w with
  | cancelling e => cases hlate
  | dropped => cases hlate
  | flushing e rest => cases hlate
  | _ => exact h

/-- **The invariant of the runs that meet the condition.** -/
structure Inv (s : ModeNotices) : Prop where
  sends : s.device.connected = true → canSend s.device = true
  bound : s.connectedAt ≤ s.device.drm.submitted.length
  notices : ∀ w ∈ s.notices, Ok s.device s.connectedAt w
  told : s.device.connected = true → painterNeedsFullModeset s.device = false → s.Told

theorem inv_init (fgConsole : ℤ) (drm : DrmCore) : Inv (init fgConsole drm) where
  sends h := by simp [init, Device.connected, Device.init, Painter.init] at h
  bound := le_rfl
  notices w hw := by simp [init] at hw
  told h := by simp [init, Device.connected, Device.init, Painter.init] at h

/-- What the kernel does but clear the flag. -/
theorem Inv.kernel {s : ModeNotices} (h : Inv s) {d : Device} {ws : List ModeNotice}
    (hd : SessionKept s.device d)
    (hneeds : painterNeedsFullModeset s.device = true → painterNeedsFullModeset d = true)
    (hws : ∀ w ∈ ws, Ok d s.connectedAt w) : Inv { s with device := d, notices := ws } where
  sends hconn := by rw [hd.canSend, h.sends (hd.connected ▸ hconn)]
  bound := h.bound.trans hd.submitted.length_le
  notices := hws
  told hconn hdone := by
    have hdone' : painterNeedsFullModeset s.device = false := by
      by_contra hset
      rw [hneeds (Bool.not_eq_false _ ▸ hset)] at hdone
      cases hdone
    obtain ⟨e, he, hmode⟩ := h.told (hd.connected ▸ hconn) hdone'
    exact ⟨e, (hd.submitted.drop _).subset he, hmode⟩

/-- A step of a notification is a section of a commit, and only the last one clears the flag. -/
theorem Ok.section {d : Device} {n : ℕ} {w : ModeNotice} (h : Ok d n w) : ∃ f, CommitSection f ∧
    (w.next d).1 = f d ∧ (w.clears = false → KeepsModeset f) := by
  cases w with
  | called mode => exact ⟨id, .read, rfl, fun _ _ hneeds => hneeds⟩
  | noted event =>
    have hsend : SendSection fun d => (createEvent event d).1 := .create fun _ => event
    exact ⟨_, .send hsend, rfl, fun _ => hsend.keepsModeset⟩
  | created e => exact ⟨id, .read, rfl, fun _ _ hneeds => hneeds⟩
  | adding e => exact ⟨_, .send (.add e), rfl, fun _ => (SendSection.add e).keepsModeset⟩
  | cancelling e => exact ⟨_, .send (.cancel e), rfl, fun _ => (SendSection.cancel e).keepsModeset⟩
  | flushing e rest =>
    cases rest with
    | pure u => exact ⟨_, .modesetDone, rfl, fun hclears => by cases hclears⟩
    | sec f k => exact ⟨f, .send h.2.2.1, rfl, fun _ => h.2.2.1.keepsModeset⟩
  | dropped => exact ⟨_, .modesetDone, rfl, fun hclears => by cases hclears⟩

/-- A step of a notification whose event is allocated when there is a client to tell. -/
theorem Ok.next {d : Device} {n : ℕ} {w : ModeNotice} (h : Ok d n w)
    (hsends : d.connected = true → canSend d = true) (hn : n ≤ d.drm.submitted.length)
    (halloc : ∀ event, w = .noted event → d.connected = true → d.drm.kzalloc.head = true) :
    ∀ w' ∈ (w.next d).2, Ok (w.next d).1 n w' := by
  obtain ⟨f, hf, hnext, -⟩ := h.section
  have hkept := hf.sessionKept d
  rw [← hnext] at hkept
  intro w' hw'
  cases w with
  | called mode =>
    obtain ⟨fb, -, rfl⟩ := Option.map_eq_some_iff.1 hw'
    exact trivial
  | noted event =>
    by_cases hk : d.drm.kzalloc.head = true
    · have hcreate : (createEvent event d).2 = some ⟨d.drm.nextSerial, event⟩ := by
        rw [createEvent, if_pos hk]
      obtain rfl : ModeNotice.created ⟨d.drm.nextSerial, event⟩ = w' := by
        simpa [ModeNotice.next, hcreate] using hw'
      exact h
    · have hcreate : (createEvent event d).2 = none := by rw [createEvent, if_neg hk]
      obtain rfl : ModeNotice.dropped = w' := by simpa [ModeNotice.next, hcreate] using hw'
      have hgone : d.connected = false := Bool.eq_false_iff.2 fun hd => hk (halloc event rfl hd)
      exact hkept.connected.trans hgone
  | created e =>
    by_cases hsend : canSend d = true
    · obtain rfl : ModeNotice.adding e = w' := by simpa [ModeNotice.next, hsend] using hw'
      exact h
    · obtain rfl : ModeNotice.cancelling e = w' := by simpa [ModeNotice.next, hsend] using hw'
      exact Bool.eq_false_iff.2 fun hd => hsend (hsends hd)
  | adding e =>
    obtain rfl := Option.some.inj hw'
    refine ⟨h, fun hconn => ?_, flushKinds_sendSection.flushOrSchedule⟩
    show e ∈ (painterAddEventToPendingList e d).drm.submitted.drop n
    rw [submitted_addEvent (hsends (hkept.connected ▸ hconn)), List.drop_append_of_le_length hn]
    simp
  | cancelling e =>
    obtain rfl := Option.some.inj hw'
    exact hkept.connected.trans h
  | flushing e rest =>
    cases rest with
    | pure u => cases hw'
    | sec f k =>
      obtain rfl := Option.some.inj hw'
      refine ⟨h.1, fun hconn => ?_, h.2.2.2 d⟩
      exact (hkept.submitted.drop n).subset (h.2.1 (hkept.connected ▸ hconn))
  | dropped => cases hw'

/-- A notification that clears the flag has told the client there is. -/
theorem Inv.told_of_clears {s : ModeNotices} (h : Inv s) {w : ModeNotice} (hw : w ∈ s.notices)
    (hclears : w.clears = true) (hconn : s.device.connected = true) :
    ∃ e, w = .flushing e (.pure ()) ∧ e.event.IsModeChanged ∧
      e ∈ s.device.drm.submitted.drop s.connectedAt := by
  have hok := h.notices w hw
  cases w with
  | flushing e rest =>
    cases rest with
    | pure u => exact ⟨e, rfl, hok.1, hok.2.1 hconn⟩
    | sec f k => cases hclears
  | dropped =>
    rw [show s.device.connected = false from hok] at hconn
    cases hconn
  | _ => cases hclears

/-- A client connects while no notification is about to clear the flag. -/
theorem Inv.connect {s : ModeNotices} (h : Inv s) {c : Clients} {call : ClientCall}
    (hcall : ClientStep s.toClients call c) (hconnects : call.Connects)
    (hlate : ∀ w ∈ s.notices, w.late = false) :
    Inv { s with toClients := c, connectedAt := c.device.drm.submitted.length } := by
  have hsession : c.device.connected = true →
      canSend c.device = true ∧ painterNeedsFullModeset c.device = true := by
    intro hconn
    rcases hcall.session.session with hgone | ⟨-, hnew⟩ | ⟨hnot, -⟩
    · rw [hgone] at hconn
      cases hconn
    · exact hnew
    · exact absurd hconnects hnot
  refine ⟨fun hconn => (hsession hconn).1, le_rfl, fun w hw => ?_, fun hconn hdone => ?_⟩
  · exact (h.notices w hw).of_not_late (hlate w hw)
  · rw [(hsession hconn).2] at hdone
    cases hdone

/-- Another call of a client: the session goes on, or it ends. -/
theorem Inv.client {s : ModeNotices} (h : Inv s) {c : Clients} {call : ClientCall}
    (hcall : ClientStep s.toClients call c) (hnot : ¬ call.Connects) :
    Inv { s with toClients := c } := by
  have hsub := hcall.session.submitted
  rcases hcall.session.session with hgone | ⟨hconnects, -⟩ | ⟨-, hview⟩
  · have hdead : c.device.connected = true → False := fun hconn => by
      rw [hgone] at hconn
      cases hconn
    refine ⟨fun hconn => (hdead hconn).elim, by rw [hsub]; exact h.bound, fun w hw => ?_,
      fun hconn => (hdead hconn).elim⟩
    exact (h.notices w hw).mono (fun hconn => (hdead hconn).elim) (by rw [hsub])
  · exact absurd hconnects hnot
  · have hkept : SessionKept s.device c.device :=
      ⟨connected_of_switchView hview, canSend_of_switchView hview, by rw [hsub]⟩
    obtain ⟨hsends, hbound, hnotices, htold⟩ := h.kernel hkept
      (fun hneeds => (needs_of_switchView hview).trans hneeds) fun w hw =>
        (h.notices w hw).mono (fun hconn => hkept.connected ▸ hconn) hkept.submitted
    exact ⟨hsends, hbound, hnotices, htold⟩

/-- A step of a notification whose event is allocated when there is a client to tell. -/
theorem Inv.notice {s : ModeNotices} (h : Inv s) {l r : List ModeNotice} {w : ModeNotice}
    (hsplit : s.notices = l ++ w :: r) (halloc : ∀ event, w = .noted event →
      s.device.connected = true → s.device.drm.kzalloc.head = true) :
    Inv { s with
      device := (w.next s.device).1
      notices := l ++ (w.next s.device).2.toList ++ r } := by
  have hmem : w ∈ s.notices := by simp [hsplit]
  have hok := h.notices w hmem
  obtain ⟨f, hf, hnext, hkeeps⟩ := hok.section
  have hkept := hf.sessionKept s.device
  rw [← hnext] at hkept
  have hothers : ∀ w' ∈ s.notices, Ok (w.next s.device).1 s.connectedAt w' := fun w' hw' =>
    (h.notices w' hw').mono (fun hconn => hkept.connected ▸ hconn) hkept.submitted
  have hrest : ∀ w' ∈ l ++ (w.next s.device).2.toList ++ r,
      Ok (w.next s.device).1 s.connectedAt w' := by
    intro w' hw'
    rcases List.mem_append.1 hw' with hw' | hw'
    · rcases List.mem_append.1 hw' with hw' | hw'
      · exact hothers w' (by simp [hsplit, hw'])
      · exact hok.next h.sends h.bound halloc w' (Option.mem_toList.1 hw')
    · exact hothers w' (by simp [hsplit, hw'])
  by_cases hclears : w.clears = true
  · -- the flag is cleared, and the event of the notification is in the queue
    refine ⟨fun hconn => ?_, h.bound.trans hkept.submitted.length_le, hrest, fun hconn _ => ?_⟩
    · rw [hkept.canSend, h.sends (hkept.connected ▸ hconn)]
    · obtain ⟨e, -, hmode, he⟩ := h.told_of_clears hmem hclears (hkept.connected ▸ hconn)
      exact ⟨e, (hkept.submitted.drop _).subset he, hmode⟩
  · refine h.kernel hkept (fun hneeds => ?_) hrest
    rw [hnext]
    exact hkeeps (Bool.eq_false_iff.2 hclears) _ hneeds

/-- **Every step that meets the condition** keeps the invariant. -/
theorem inv_step (s : ModeNotices) (a : Action) (t : ModeNotices) (h : Inv s)
    (hstep : SettledStep s a t) : Inv t := by
  obtain ⟨hstep, hsettled⟩ := hstep
  cases hstep with
  | connect hcall hconnects => exact h.connect hcall hconnects (hsettled hconnects)
  | client hcall hnot => exact h.client hcall hnot
  | call mode =>
    refine ⟨h.sends, h.bound, fun w hw => ?_, h.told⟩
    rcases List.mem_append.1 hw with hw | hw
    · exact h.notices w hw
    · rw [List.mem_singleton.1 hw]
      exact trivial
  | @notice l r w hsplit =>
    refine h.notice hsplit fun event heq hconn => ?_
    subst heq
    exact hsettled hconn
  | kernel hf hkeeps =>
    have hkept := hf.sessionKept s.device
    exact h.kernel hkept (hkeeps _) fun w hw =>
      (h.notices w hw).mono (fun hconn => hkept.connected ▸ hconn) hkept.submitted

theorem inv_run {fgConsole : ℤ} {drm : DrmCore} {as : List Action} {s : ModeNotices}
    (h : Run SettledStep (init fgConsole drm) as s) : Inv s :=
  h.invariant inv_step (inv_init fgConsole drm)

/-- **Obligations and notifications.** The update request of a client that can be told is cleared with
its event queued exactly when nothing is due or the event can be allocated.  In every run whose steps
meet the condition, a notification that clears the flag of a connected client has appended its
`MODE_CHANGED` since the client connected, and a connected client without a pending modeset has had one
queued since it connected. -/
theorem told_before_clear {fgConsole : ℤ} {drm : DrmCore} {as : List Action} {s : ModeNotices}
    (h : Run SettledStep (init fgConsole drm) as s) :
    (∀ d, canSend d = true →
      ((requested d = true → requested (updateReadyIfNeeded.exec d).1 = false → ∃ e : PendingEvent,
        e.event = .updateReady ∧
          (updateReadyIfNeeded.exec d).1.drm.submitted = d.drm.submitted ++ [e]) ↔
      (d.drm.kzalloc.head = true ∨ ¬ (requested d = true ∧ d.dirtyRects ≠ [])))) ∧
    (∀ w t, Step s (.notice w) t → w.clears = true → s.device.connected = true →
      ∃ e, w = .flushing e (.pure ()) ∧ e.event.IsModeChanged ∧
        e ∈ s.device.drm.submitted.drop s.connectedAt) ∧
    (s.device.connected = true → painterNeedsFullModeset s.device = false → s.Told) := by
  have hinv := inv_run h
  refine ⟨fun d hd => updateReadyIfNeeded_told hd, fun w t hstep hclears hconn => ?_, hinv.told⟩
  cases hstep with
  | notice hsplit => exact hinv.told_of_clears (by simp [hsplit]) hclears hconn

/-! ### Sample runs -/

/-- A connect by `file`. -/
def sampleConnect (file : DrmFile) (s : ModeNotices) : ModeNotices :=
  let d := (painterConnectIoctl (fun _ => sampleUser 0) ⟨true, true⟩ .sample file s.device).1
  { s with toClients := ⟨d, s.grabs⟩, connectedAt := d.drm.submitted.length }

/-- The next step of the first notification under way. -/
def tick (s : ModeNotices) : ModeNotices :=
  match s.notices with
  | [] => s
  | w :: r => { s with
      device := (w.next s.device).1
      notices := (w.next s.device).2.toList ++ r }

/-- A client has connected, there is a scanout buffer, and a flush starts to notify its mode. -/
def sampleCalled (kzalloc : Stream' Bool) : ModeNotices :=
  let s := sampleConnect 1 (init 0 (.init kzalloc (.const true)))
  { s with
    device := (swapScanoutBuffer (some (.sample 1 64 64 256)) s.device).1
    notices := [.called ⟨64, 64, 60⟩] }

theorem step_sampleConnect {s : ModeNotices} (file : DrmFile)
    (h : (painterConnectIoctl (fun _ => sampleUser 0) ⟨true, true⟩ .sample file s.device).2 = 0) :
    Step s (.client (.connect .sample file 0)) (sampleConnect file s) :=
  .connect (.connect (fun _ => sampleUser 0) ⟨true, true⟩ (Prod.ext rfl h)) ⟨by decide, rfl⟩

theorem step_tick {s : ModeNotices} (h : s.notices.isEmpty = false) :
    ∃ w, Step s (.notice w) (tick s) := by
  cases hs : s.notices with
  | nil => simp [hs] at h
  | cons w r =>
    refine ⟨w, ?_⟩
    have hstep := Step.notice (s := s) (l := []) hs
    simpa [tick, hs] using hstep

theorem run_sampleCalled (kzalloc : Stream' Bool) :
    ∃ as, Run SettledStep (init 0 (.init kzalloc (.const true))) as (sampleCalled kzalloc) := by
  have hswap : KeepsModeset fun d => (swapScanoutBuffer (some (.sample 1 64 64 256)) d).1 := by
    intro d hneeds
    refine Eq.trans (needs_of_switchView (switchView_of_vtView ?_)) hneeds
    exact vtView_onPainter d fun _ => rfl
  have hconnect : SettledStep (init 0 (.init kzalloc (.const true)))
      (.client (.connect .sample 1 0)) (sampleConnect 1 (init 0 (.init kzalloc (.const true)))) :=
    ⟨step_sampleConnect 1 rfl, fun _ w hw => by simp [init] at hw⟩
  have hkernel : SettledStep (sampleConnect 1 (init 0 (.init kzalloc (.const true)))) .kernel _ :=
    ⟨.kernel (.swap (some (.sample 1 64 64 256))) hswap, trivial⟩
  have hcalled := ((Run.one hconnect).snoc hkernel).snoc ⟨.call ⟨64, 64, 60⟩, trivial⟩
  exact ⟨_, hcalled⟩

theorem run_ticks {step : ModeNotices → Action → ModeNotices → Prop} {s : ModeNotices} (n : ℕ)
    (h : ∀ k < n, ∃ a, step (tick^[k] s) a (tick (tick^[k] s))) :
    ∃ as, Run step s as (tick^[n] s) := by
  induction n with
  | zero => exact ⟨[], Run.nil s⟩
  | succ n ih =>
    obtain ⟨as, hrun⟩ := ih fun k hk => h k (by omega)
    obtain ⟨a, hstep⟩ := h n (by omega)
    rw [Function.iterate_succ_apply']
    exact ⟨_, hrun.snoc hstep⟩

theorem run_tick_steps {s : ModeNotices} (n : ℕ)
    (h : ∀ k < n, (tick^[k] s).notices.isEmpty = false) : ∃ as, Run Step s as (tick^[n] s) := by
  refine run_ticks n fun k hk => ?_
  obtain ⟨w, hstep⟩ := step_tick (h k hk)
  exact ⟨_, hstep⟩

/-- A client is told of the mode, and then the flag is cleared. -/
theorem told_before_clear_told :
    (tick^[7] (sampleCalled (.const true))).device.connected = true ∧
    painterNeedsFullModeset (tick^[7] (sampleCalled (.const true))).device = false ∧
    (tick^[7] (sampleCalled (.const true))).Told := by
  have hconn : (tick^[7] (sampleCalled (.const true))).device.connected = true := by decide +kernel
  have hdone : painterNeedsFullModeset (tick^[7] (sampleCalled (.const true))).device = false := by
    decide +kernel
  obtain ⟨as, hcalled⟩ := run_sampleCalled (.const true)
  have halloc : ∀ k < 7, (tick^[k] (sampleCalled (.const true))).notices.isEmpty = false ∧
      (tick^[k] (sampleCalled (.const true))).device.drm.kzalloc.head = true := by
    decide +kernel
  have hticks : ∃ bs, Run SettledStep (sampleCalled (.const true)) bs
      (tick^[7] (sampleCalled (.const true))) := run_ticks 7 fun k hk => by
    obtain ⟨w, hstep⟩ := step_tick (halloc k hk).1
    refine ⟨_, hstep, ?_⟩
    cases w with
    | noted event => exact fun _ => (halloc k hk).2
    | _ => trivial
  obtain ⟨bs, hticks⟩ := hticks
  exact ⟨hconn, hdone, (told_before_clear (hcalled.append hticks)).2.2 hconn hdone⟩

/-- **A client that is never told its mode**: the event of the notification cannot be allocated; or
everything can, and another client connects after the event was queued for the first one, before the
flag is cleared. In both runs a client is connected, no modeset is pending, and no `MODE_CHANGED` has
been queued since it connected. -/
theorem mode_never_told :
    (∃ as s, Run Step (init 0 (.init (.cons false (.const true)) (.const true))) as s ∧
      s.device.connected = true ∧ painterNeedsFullModeset s.device = false ∧ ¬ s.Told) ∧
    ∃ as s, Run Step (init 0 (.init (.const true) (.const true))) as s ∧
      s.device.connected = true ∧ painterNeedsFullModeset s.device = false ∧ ¬ s.Told := by
  have hcalled : ∀ kzalloc, ∃ as,
      Run Step (init 0 (.init kzalloc (.const true))) as (sampleCalled kzalloc) := by
    intro kzalloc
    obtain ⟨as, hrun⟩ := run_sampleCalled kzalloc
    exact ⟨as.map id, hrun.map id id fun _ _ _ hstep => hstep.1⟩
  have huntold : ∀ s : ModeNotices, s.device.drm.submitted.drop s.connectedAt = [] → ¬ s.Told := by
    rintro s hnone ⟨e, he, -⟩
    simp [hnone] at he
  constructor
  · obtain ⟨as, hrun⟩ := hcalled (.cons false (.const true))
    have hopen : ∀ k < 3, (tick^[k] (sampleCalled (.cons false (.const true)))).notices.isEmpty =
        false := by decide +kernel
    obtain ⟨bs, hticks⟩ := run_tick_steps 3 hopen
    exact ⟨_, _, hrun.append hticks, by decide +kernel, by decide +kernel,
      huntold _ (by decide +kernel)⟩
  · obtain ⟨as, hrun⟩ := hcalled (.const true)
    have hopen : ∀ k < 6, (tick^[k] (sampleCalled (.const true))).notices.isEmpty = false := by
      decide +kernel
    obtain ⟨bs, hticks⟩ := run_tick_steps 6 hopen
    have hconnect := step_sampleConnect (s := tick^[6] (sampleCalled (.const true))) 2
      (by decide +kernel)
    obtain ⟨w, hclear⟩ := step_tick
      (s := sampleConnect 2 (tick^[6] (sampleCalled (.const true)))) (by decide +kernel)
    exact ⟨_, _, ((hrun.append hticks).snoc hconnect).snoc hclear, by decide +kernel,
      by decide +kernel, huntold _ (by decide +kernel)⟩

end ModeNotices

end Evdi
