import Evdi.Foundations.Alternation
import Evdi.Model.VtSwitch
import Evdi.Properties.Lifecycle
import Evdi.Properties.Notify
import Evdi.Properties.ScanoutRefs

/-!
# The VT switch protocol

A VT notification that finds another console in the foreground than at the last DPMS ON queues a DPMS
OFF and forces a full modeset; the next flush with something to show queues `MODE_CHANGED` and DPMS ON.

* `vtView`: what a notification decides by, with what was queued; `switchView_createAndSend`,
  `VtReady.queued`: what sending an event does to it;
* `VtEffect`: what a call of the kernel does to it (`clears` says whether a pending modeset may be
  cleared, and then not without `MODE_CHANGED`); `VtAdvance`: what any call but a notification does;
* `painterVtNotifierCall_exec`, `crtcAtomicFlush_mode`: what a notification and a flush do;
* `VtRun.Inv`: the invariant of the runs, and `VtRun.vt_switch_protocol` from it.
-/

namespace Evdi

open Atomic Transition Alternation Bytes

/-! ### The view -/

/-- What a VT notification looks at, of the painter. -/
def Painter.vtView (p : Painter) : Bool × Option DrmFile × ℤ × Bool :=
  (p.isConnected, p.drmFilp, p.fgConsole, p.needsFullModeset)

/-- What a VT notification looks at. -/
def switchView (d : Device) : Option (Bool × Option DrmFile × ℤ × Bool) × ℤ :=
  (d.painter.map Painter.vtView, d.fgConsole)

/-- What a VT notification looks at, the events queued and the answers of the allocator to come. -/
def vtView (d : Device) :
    (Option (Bool × Option DrmFile × ℤ × Bool) × ℤ) × List PendingEvent × Stream' Bool :=
  (switchView d, d.drm.submitted, d.drm.kzalloc)

/-- The console recorded by the painter. -/
def Device.recorded (d : Device) : ℤ := d.painter.elim 0 (·.fgConsole)

section

variable {d d' : Device}

theorem submitted_of_vtView (h : vtView d' = vtView d) : d'.drm.submitted = d.drm.submitted :=
  congrArg (fun v => v.2.1) h

theorem kzalloc_of_vtView (h : vtView d' = vtView d) : d'.drm.kzalloc = d.drm.kzalloc :=
  congrArg (fun v => v.2.2) h

theorem switchView_of_vtView (h : vtView d' = vtView d) : switchView d' = switchView d :=
  congrArg (fun v => v.1) h

theorem fgConsole_of_switchView (h : switchView d' = switchView d) : d'.fgConsole = d.fgConsole :=
  congrArg (fun v => v.2) h

/-- What is computed from the view is the same for the same view. -/
theorem eq_of_switchView {β : Type} {v : Device → β}
    (g : Option (Bool × Option DrmFile × ℤ × Bool) × ℤ → β) (hv : ∀ d, v d = g (switchView d))
    (h : switchView d' = switchView d) : v d' = v d := by
  rw [hv, hv, h]

theorem connected_of_switchView (h : switchView d' = switchView d) :
    d'.connected = d.connected := by
  refine eq_of_switchView (fun view => view.1.any (·.1)) (fun d => ?_) h
  cases hp : d.painter <;> simp [Device.connected, switchView, Painter.vtView, hp]

theorem canSend_of_switchView (h : switchView d' = switchView d) : canSend d' = canSend d := by
  refine eq_of_switchView (fun view => view.1.any fun v => v.2.1.isSome && v.1) (fun d => ?_) h
  cases hp : d.painter <;> simp [canSend, switchView, Painter.vtView, hp]

theorem recorded_of_switchView (h : switchView d' = switchView d) : d'.recorded = d.recorded := by
  refine eq_of_switchView (fun view => view.1.elim 0 (·.2.2.1)) (fun d => ?_) h
  cases hp : d.painter <;> simp [Device.recorded, switchView, Painter.vtView, hp]

theorem needs_of_switchView (h : switchView d' = switchView d) :
    painterNeedsFullModeset d' = painterNeedsFullModeset d := by
  refine eq_of_switchView (fun view => view.1.any (·.2.2.2)) (fun d => ?_) h
  cases hp : d.painter <;> simp [painterNeedsFullModeset, switchView, Painter.vtView, hp]

end

theorem vtView_onPainter {f : Painter → Painter} (d : Device) (hf : ∀ p, (f p).vtView = p.vtView) :
    vtView (d.onPainter f) = vtView d := by
  cases h : d.painter <;> simp [vtView, switchView, Device.onPainter, h, hf]

theorem vtView_markDirty (rect : ClipRect) (d : Device) : vtView (painterMarkDirty rect d) = vtView d :=
  vtView_onPainter d fun p => by unfold Painter.markDirty; split <;> rfl

theorem vtView_flush (d : Device) : vtView (painterFlushPendingEvents d).1 = vtView d := by
  unfold painterFlushPendingEvents
  cases h : d.painter with
  | none => rfl
  | some p =>
    obtain ⟨sent, left, space, -, heq⟩ := flushEvents_spec p.pendingEvents d.drm
    simp [heq, vtView, switchView, h, Painter.vtView]

theorem vtView_sendVblank (crtc : Option Crtc) (vblank : Option VblankEvent) (d : Device) :
    vtView (sendVblank crtc vblank d) = vtView d := by
  rw [sendVblank_eq]
  rfl

theorem vtView_setVblank (crtc : Option Crtc) (vblank : Option VblankEvent) (d : Device) :
    vtView (painterSetVblank crtc vblank d) = vtView d := by
  have hsend : vtView (painterSendVblank d) = vtView d := by
    unfold painterSendVblank
    cases d.painter with
    | none => rfl
    | some p =>
      refine Eq.trans (vtView_onPainter _ fun _ => ?_) (vtView_sendVblank p.crtc p.vblank d)
      rfl
  unfold painterSetVblank
  cases d.painter with
  | none => exact vtView_sendVblank _ _ d
  | some p =>
    dsimp only
    split_ifs
    · refine Eq.trans (vtView_onPainter _ fun _ => ?_) hsend
      rfl
    · exact (vtView_sendVblank _ _ _).trans hsend

theorem vtView_cursorSetGem (obj : Option GemRef) (d : Device) :
    vtView (cursorSetGem obj d) = vtView d := by
  have hrefs : ∀ (obj : Option GemRef) (n : ℤ) (d : Device),
      vtView (drmGemObjectRef obj n d) = vtView d := by
    intro obj n d
    cases obj <;> rfl
  show vtView (drmGemObjectRef _ (-1) (drmGemObjectRef obj 1 d)) = vtView d
  rw [hrefs, hrefs]

theorem vtView_cursorEnable (enable : Bool) (d : Device) :
    vtView (cursorEnable enable d) = vtView d := by
  cases enable with
  | false => exact vtView_cursorSetGem none _
  | true => rfl

theorem flushKinds_vtView : FlushKinds fun f => ∀ d, vtView (f d) = vtView d where
  read _ := rfl
  start d := vtView_onPainter d fun _ => rfl
  flush := vtView_flush
  schedule d := vtView_onPainter d fun _ => rfl

theorem flushKinds_switchView : FlushKinds fun f => ∀ d, switchView (f d) = switchView d where
  read d := switchView_of_vtView (flushKinds_vtView.read d)
  start d := switchView_of_vtView (flushKinds_vtView.start d)
  flush d := switchView_of_vtView (flushKinds_vtView.flush d)
  schedule d := switchView_of_vtView (flushKinds_vtView.schedule d)

/-! ### Sending an event -/

theorem switchView_createEvent (event : Event) (d : Device) :
    switchView (createEvent event d).1 = switchView d := by
  unfold createEvent
  split_ifs <;> rfl

theorem switchView_addEvent (e : PendingEvent) (d : Device) :
    switchView (painterAddEventToPendingList e d) = switchView d := by
  unfold painterAddEventToPendingList
  cases hp : d.painter <;> simp [switchView, hp, Painter.vtView]

/-- Sending an event leaves what VT switching decides by as it is. -/
theorem switchView_createAndSend (event : Event) (d : Device) :
    switchView ((createAndSend event).exec d).1 = switchView d := by
  have huses : (createAndSend event).Uses fun f => ∀ d, switchView (f d) = switchView d :=
    flushKinds_switchView.createAndSend (switchView_createEvent event)
      (fun serial d => switchView_addEvent _) fun e d => rfl
  exact huses.exec_eq (v := switchView) (fun _ hf => hf) d

/-! ### What the calls of the kernel do -/

theorem queuedSince_of_append {d d' : Device} {es : List PendingEvent}
    (h : d'.drm.submitted = d.drm.submitted ++ es) : queuedSince d d' = es.map (·.event) := by
  rw [queuedSince, h, List.drop_left]

theorem queuedSince_of_eq {d d' : Device} (h : d'.drm.submitted = d.drm.submitted) :
    queuedSince d d' = [] :=
  @queuedSince_of_append d d' [] (h.trans (List.append_nil _).symm)

theorem queuedSince_trans {d d' d'' : Device} (h : d.drm.submitted <+: d'.drm.submitted)
    (h' : d'.drm.submitted <+: d''.drm.submitted) :
    queuedSince d d'' = queuedSince d d' ++ queuedSince d' d'' := by
  obtain ⟨es, hes⟩ := h
  obtain ⟨es', hes'⟩ := h'
  rw [queuedSince_of_append hes.symm, queuedSince_of_append hes'.symm, ← List.map_append]
  exact queuedSince_of_append (by rw [← hes', ← hes, List.append_assoc])

/-- A connected client can be sent events, and events can be allocated. -/
structure VtReady (d : Device) : Prop where
  sends : d.connected = true → canSend d = true
  kzalloc : d.drm.kzalloc = .const true

/-- What a call of the kernel does: the console recorded is the one in the foreground at the last DPMS
ON, and a pending modeset is cleared (if `clears` lets it) with a `MODE_CHANGED` for the client. -/
structure VtEffect (clears : Prop) (d d' : Device) : Prop where
  ready : VtReady d'
  connected : d'.connected = d.connected
  fgConsole : d'.fgConsole = d.fgConsole
  submitted : d.drm.submitted <+: d'.drm.submitted
  recorded : d'.recorded = if .dpms dpmsOn ∈ queuedSince d d' then d.fgConsole else d.recorded
  needs : painterNeedsFullModeset d = true → painterNeedsFullModeset d' = true ∨
    clears ∧ (d.connected = true → ∃ e ∈ queuedSince d d', e.IsModeChanged)

theorem VtEffect.mono {c c' : Prop} (hc : c → c') {d d' : Device} (h : VtEffect c d d') :
    VtEffect c' d d' :=
  { h with needs := fun hneeds => (h.needs hneeds).imp_right fun hclears => ⟨hc hclears.1, hclears.2⟩ }

theorem VtReady.of_view {d d' : Device} (h : VtReady d) (hview : switchView d' = switchView d)
    (hk : d'.drm.kzalloc = .const true) : VtReady d' where
  sends := by
    rw [connected_of_switchView hview, canSend_of_switchView hview]
    exact h.sends
  kzalloc := hk

/-- A change outside the view. -/
theorem VtReady.effect {d d' : Device} (h : VtReady d) {c : Prop} (hview : vtView d' = vtView d) :
    VtEffect c d d' where
  ready := h.of_view (switchView_of_vtView hview) ((kzalloc_of_vtView hview).trans h.kzalloc)
  connected := connected_of_switchView (switchView_of_vtView hview)
  fgConsole := fgConsole_of_switchView (switchView_of_vtView hview)
  submitted := by rw [submitted_of_vtView hview]
  recorded := by
    rw [queuedSince_of_eq (submitted_of_vtView hview), if_neg (List.not_mem_nil)]
    exact recorded_of_switchView (switchView_of_vtView hview)
  needs hneeds := .inl ((needs_of_switchView (switchView_of_vtView hview)).trans hneeds)

theorem VtEffect.trans {c : Prop} {d d' d'' : Device} (h : VtEffect c d d') (h' : VtEffect c d' d'') :
    VtEffect c d d'' where
  ready := h'.ready
  connected := h'.connected.trans h.connected
  fgConsole := h'.fgConsole.trans h.fgConsole
  submitted := h.submitted.trans h'.submitted
  recorded := by
    rw [h'.recorded, h.recorded, h.fgConsole, queuedSince_trans h.submitted h'.submitted]
    simp only [List.mem_append]
    split_ifs <;> simp_all
  needs hneeds := by
    rw [queuedSince_trans h.submitted h'.submitted]
    rcases h.needs hneeds with hneeds' | ⟨hc, hmode⟩
    · refine (h'.needs hneeds').imp_right fun ⟨hc, hmode⟩ => ⟨hc, fun hconn => ?_⟩
      obtain ⟨e, he, hmode⟩ := hmode (h.connected.trans hconn)
      exact ⟨e, List.mem_append_right _ he, hmode⟩
    · refine .inr ⟨hc, fun hconn => ?_⟩
      obtain ⟨e, he, hmode⟩ := hmode hconn
      exact ⟨e, List.mem_append_left _ he, hmode⟩

theorem vtEffect_composes (c : Prop) : Prog.Composes VtReady (VtEffect c) where
  refl _ h := h.effect rfl
  trans _ _ _ := VtEffect.trans
  keeps _ _ h := h.ready

/-- What sending queues when events can be allocated. -/
theorem VtReady.queued {d : Device} (h : VtReady d) (event : Event) :
    ((createAndSend event).exec d).1.drm.submitted = d.drm.submitted ++
      if d.connected then [⟨d.drm.nextSerial, event⟩] else [] := by
  have hk : d.drm.kzalloc.head = true := by rw [h.kzalloc]; rfl
  have hsend : canSend d = d.connected := by
    refine Bool.eq_iff_iff.2 ⟨fun hd => ?_, h.sends⟩
    cases hp : d.painter with
    | none => simp [canSend, hp] at hd
    | some p =>
      simp only [canSend, hp, Bool.and_eq_true] at hd
      simp [Device.connected, hp, hd.2]
  rw [createAndSend_submitted, hk, hsend, Bool.true_and]

theorem VtReady.after_send {d : Device} (h : VtReady d) (event : Event) :
    VtReady ((createAndSend event).exec d).1 := by
  refine h.of_view (switchView_createAndSend event d) ?_
  obtain ⟨n, hn⟩ := ((createAndSend_uses event).exec (fun _ hf => hf.keeps) Keeps.refl
    (fun _ _ _ => Keeps.trans) d).kzalloc
  rw [hn, h.kzalloc]
  rfl

/-- An event other than a DPMS ON is sent. -/
theorem VtReady.effect_send {d : Device} (h : VtReady d) {c : Prop} {event : Event}
    (he : event ≠ .dpms dpmsOn) : VtEffect c d ((createAndSend event).exec d).1 where
  ready := h.after_send event
  connected := connected_of_switchView (switchView_createAndSend event d)
  fgConsole := fgConsole_of_switchView (switchView_createAndSend event d)
  submitted := by
    rw [h.queued]
    exact List.prefix_append _ _
  recorded := by
    rw [queuedSince_of_append (h.queued event), if_neg]
    · exact recorded_of_switchView (switchView_createAndSend event d)
    · cases d.connected <;> simp [he.symm]
  needs hneeds := .inl ((needs_of_switchView (switchView_createAndSend event d)).trans hneeds)

/-! ### The notifications -/

theorem painterDpmsNotify_exec (mode : Int32) (d : Device) :
    ((painterDpmsNotify mode).exec d).1 = if d.connected then
      ((createAndSend (.dpms mode)).exec (if mode == dpmsOn then
        d.onPainter fun p => { p with fgConsole := d.fgConsole } else d)).1 else d := by
  unfold painterDpmsNotify
  rw [Prog.exec_read_ite]
  show (if d.connected then _ else _ : Device × Unit).1 = _
  cases d.connected with
  | false => rfl
  | true =>
    rw [if_pos rfl, if_pos rfl, Prog.exec_bind, Prog.exec_when, Prog.exec_modify]
    split_ifs <;> rfl

/-- `painter->fg_console = fg_console`. -/
theorem VtReady.record {d d₁ : Device} (h : VtReady d)
    (hd₁ : d₁ = d.onPainter fun p => { p with fgConsole := d.fgConsole }) :
    VtReady d₁ ∧ d₁.connected = d.connected ∧ d₁.fgConsole = d.fgConsole ∧ d₁.drm = d.drm ∧
      painterNeedsFullModeset d₁ = painterNeedsFullModeset d ∧
      (d.connected = true → d₁.recorded = d.fgConsole) := by
  subst hd₁
  cases hp : d.painter with
  | none =>
    have hsame : (d.onPainter fun p => { p with fgConsole := d.fgConsole }) = d := by
      rw [Device.onPainter, hp, Option.map_none, ← hp]
    rw [hsame]
    refine ⟨h, rfl, rfl, rfl, rfl, fun hconn => ?_⟩
    simp [Device.connected, hp] at hconn
  | some p =>
    refine ⟨⟨fun hconn => ?_, h.kzalloc⟩, ?_, rfl, rfl, ?_, fun _ => ?_⟩
    · rw [← h.sends (by simpa [Device.connected, hp] using hconn)]
      simp [canSend, hp]
    · simp [Device.connected, hp]
    · simp [painterNeedsFullModeset, hp]
    · simp [Device.recorded, hp]

/-- **A DPMS ON** for a connected client is queued, and records the console. -/
theorem VtReady.notify_dpmsOn {d : Device} (h : VtReady d) (hconn : d.connected = true) (c : Prop) :
    VtEffect c d ((painterDpmsNotify dpmsOn).exec d).1 ∧
      queuedSince d ((painterDpmsNotify dpmsOn).exec d).1 = [.dpms dpmsOn] ∧
      painterNeedsFullModeset ((painterDpmsNotify dpmsOn).exec d).1 = painterNeedsFullModeset d := by
  rw [painterDpmsNotify_exec, if_pos hconn, if_pos (by decide)]
  generalize hd₁ : (d.onPainter fun p => { p with fgConsole := d.fgConsole }) = d₁
  obtain ⟨hready₁, hconn₁, hconsole₁, hdrm₁, hneeds₁, hrecorded₁⟩ := h.record hd₁.symm
  have hview := switchView_createAndSend (.dpms dpmsOn) d₁
  have hsub := hready₁.queued (.dpms dpmsOn)
  rw [hconn₁, if_pos hconn, hdrm₁] at hsub
  have hqueued : queuedSince d ((createAndSend (.dpms dpmsOn)).exec d₁).1 = [.dpms dpmsOn] :=
    queuedSince_of_append hsub
  have hneeds := (needs_of_switchView hview).trans hneeds₁
  refine ⟨⟨hready₁.after_send _, (connected_of_switchView hview).trans hconn₁,
    (fgConsole_of_switchView hview).trans hconsole₁, ⟨_, hsub.symm⟩, ?_,
    fun hd => .inl (hneeds.trans hd)⟩, hqueued, hneeds⟩
  rw [hqueued, if_pos (List.mem_singleton_self _)]
  exact (recorded_of_switchView hview).trans (hrecorded₁ hconn)

theorem VtReady.dpmsNotify {d : Device} (h : VtReady d) (c : Prop) (mode : Int32) :
    VtEffect c d ((painterDpmsNotify mode).exec d).1 := by
  by_cases hconn : d.connected = true
  · by_cases hmode : mode = dpmsOn
    · rw [hmode]
      exact (h.notify_dpmsOn hconn c).1
    · rw [painterDpmsNotify_exec, if_pos hconn, if_neg (by simp [hmode])]
      exact h.effect_send (by simp [hmode])
  · rw [painterDpmsNotify_exec, if_neg hconn]
    exact h.effect rfl

/-- A change of mode is notified when there is a scanout buffer. -/
theorem painterModeChangedNotify_exec {d : Device} {fb : Framebuffer}
    (hfb : d.painter.bind (·.scanoutFb) = some fb) (mode : DisplayMode) :
    ∃ event : Event, event.IsModeChanged ∧ ((painterModeChangedNotify mode).exec d).1 =
      ((createAndSend event).exec d).1.onPainter fun p => { p with needsFullModeset := false } := by
  refine ⟨.modeChanged (.ofNat mode.hdisplay.toNat) (.ofNat mode.vdisplay.toNat) mode.vrefresh
    (.ofNat (fb.format.cpp0.toNat * 8)) fb.format.format, trivial, ?_⟩
  unfold painterModeChangedNotify
  rw [Prog.exec_bind, Prog.exec_read]
  simp only [hfb, Prog.exec_bind, Prog.exec_modify]

theorem painterModeChangedNotify_noBuffer {d : Device} (hfb : d.painter.bind (·.scanoutFb) = none)
    (mode : DisplayMode) : ((painterModeChangedNotify mode).exec d).1 = d := by
  unfold painterModeChangedNotify
  rw [Prog.exec_bind, Prog.exec_read]
  simp only [hfb]
  rfl

theorem needs_modesetDone (d : Device) :
    painterNeedsFullModeset (d.onPainter fun p => { p with needsFullModeset := false }) = false := by
  cases hp : d.painter <;> simp [painterNeedsFullModeset, hp]

/-- **A change of mode** is queued for a connected client, and the modeset is done. -/
theorem VtReady.modeChangedNotify {d : Device} (h : VtReady d) {fb : Framebuffer}
    (hfb : d.painter.bind (·.scanoutFb) = some fb) (mode : DisplayMode) :
    VtEffect True d ((painterModeChangedNotify mode).exec d).1 ∧
      painterNeedsFullModeset ((painterModeChangedNotify mode).exec d).1 = false ∧
      ∃ event : Event, event.IsModeChanged ∧
        queuedSince d ((painterModeChangedNotify mode).exec d).1 =
          if d.connected then [event] else [] := by
  obtain ⟨event, hevent, heq⟩ := painterModeChangedNotify_exec hfb mode
  have hne : event ≠ .dpms dpmsOn := fun heq => by rw [heq] at hevent; exact hevent
  have hsend : VtEffect True d ((createAndSend event).exec d).1 := h.effect_send hne
  rw [heq]
  generalize hd₁ : ((createAndSend event).exec d).1 = d₁ at hsend ⊢
  have hsub := h.queued event
  rw [hd₁] at hsub
  have hqueued : queuedSince d (d₁.onPainter fun p => { p with needsFullModeset := false }) =
      if d.connected then [event] else [] := by
    refine (queuedSince_of_append hsub).trans ?_
    cases d.connected <;> rfl
  have hconn : (d₁.onPainter fun p => { p with needsFullModeset := false }).connected =
      d₁.connected := by
    cases hp : d₁.painter <;> simp [Device.connected, hp]
  refine ⟨⟨⟨?_, hsend.ready.kzalloc⟩, hconn.trans hsend.connected, hsend.fgConsole, hsend.submitted,
    ?_, fun _ => .inr ⟨trivial, fun hd => ?_⟩⟩, needs_modesetDone d₁, event, hevent, hqueued⟩
  · rw [hconn]
    intro hd
    rw [← hsend.ready.sends hd]
    cases hp : d₁.painter <;> simp [canSend, hp]
  · refine Eq.trans ?_ hsend.recorded
    cases hp : d₁.painter <;> simp [Device.recorded, hp]
  · rw [hqueued, if_pos hd]
    exact ⟨event, List.mem_singleton_self _, hevent⟩

theorem VtReady.updateReadyIfNeeded {d : Device} (h : VtReady d) (c : Prop) :
    VtEffect c d (updateReadyIfNeeded.exec d).1 := by
  rw [updateReadyIfNeeded_exec]
  split_ifs
  · have hsend : VtEffect c d (painterSendUpdateReady.exec d).1 := h.effect_send (by simp)
    exact hsend.trans (hsend.ready.effect (vtView_onPainter _ fun _ => rfl))
  · exact h.effect rfl

theorem needs_updateReadyIfNeeded (d : Device) :
    painterNeedsFullModeset (updateReadyIfNeeded.exec d).1 = painterNeedsFullModeset d := by
  rw [updateReadyIfNeeded_exec]
  split_ifs
  · refine Eq.trans ?_ (needs_of_switchView (switchView_createAndSend .updateReady d))
    exact needs_of_switchView (switchView_of_vtView (vtView_onPainter _ fun _ => rfl))
  · rfl

/-! ### Plane updates -/

theorem VtReady.forceFullModeset {d : Device} (h : VtReady d) (c : Prop) :
    VtEffect c d (painterForceFullModeset d) := by
  have hconn : (painterForceFullModeset d).connected = d.connected := by
    cases hp : d.painter <;> simp [painterForceFullModeset, Device.connected, hp]
  refine ⟨⟨fun hd => ?_, h.kzalloc⟩, hconn, rfl, List.prefix_rfl, ?_, fun hneeds => .inl ?_⟩
  · rw [hconn] at hd
    rw [← h.sends hd]
    cases hp : d.painter <;> simp [painterForceFullModeset, canSend, hp]
  · have hnone : queuedSince d (painterForceFullModeset d) = [] := queuedSince_of_eq rfl
    rw [hnone, if_neg List.not_mem_nil]
    cases hp : d.painter <;> simp [painterForceFullModeset, Device.recorded, hp]
  · rw [← hneeds]
    cases hp : d.painter with
    | none => simp [painterForceFullModeset, painterNeedsFullModeset, hp]
    | some p =>
      have hset : p.needsFullModeset = true := by simpa [painterNeedsFullModeset, hp] using hneeds
      simp [painterForceFullModeset, painterNeedsFullModeset, hp, hset]

/-- Sending an event that depends on the device. -/
theorem ensures_send (c : Prop) {event : Device → Event} (he : ∀ d, event d ≠ .dpms dpmsOn) :
    (Prog.act (fun d => createEvent (event d) d) >>= painterSendEvent).Ensures VtReady
      (VtEffect c) :=
  fun d h => h.effect_send (he d)

theorem cursorSetEvent_ne_dpms (cursor : Cursor) (gemHandle : UInt32) (mode : Int32) :
    cursorSetEvent cursor gemHandle ≠ .dpms mode := by
  unfold cursorSetEvent
  split
  · split_ifs <;> simp
  · simp

section

variable (c : Prop)

/-- A section outside the view. -/
theorem ensures_view {f : Device → Device} (hf : ∀ d, vtView (f d) = vtView d) :
    (Prog.modify f).Ensures VtReady (VtEffect c) :=
  Prog.ensures_modify fun d h => h.effect (hf d)

theorem ensures_dpmsNotify (mode : Int32) :
    (painterDpmsNotify mode).Ensures VtReady (VtEffect c) := fun _ h => h.dpmsNotify c mode

theorem ensures_setScanoutBuffer (fb : Option Framebuffer) :
    (painterSetScanoutBuffer fb).Ensures VtReady (VtEffect c) := by
  have hrest : (Prog.act (swapScanoutBuffer fb) >>= putOldfb).Ensures VtReady (VtEffect c) := by
    refine Prog.Ensures.bind (vtEffect_composes c) (fun d h => ?_) fun old => ?_
    · exact h.effect (vtView_onPainter d fun _ => rfl)
    · cases old with
      | none => exact Prog.ensures_pure (vtEffect_composes c) ()
      | some old => exact ensures_view c fun _ => rfl
  cases fb with
  | none => exact hrest
  | some fb =>
    refine Prog.Ensures.bind (vtEffect_composes c) (ensures_view c fun _ => ?_) fun _ => hrest
    rfl

theorem ensures_planeAtomicUpdate (old new : PlaneState) (damage : List DrmRect) :
    (planeAtomicUpdate old new damage).Ensures VtReady (VtEffect c) := by
  have hc := vtEffect_composes c
  refine Prog.Ensures.bind hc ?_ fun _ => ?_
  · unfold notifyCrtcChange
    split_ifs
    · exact ensures_dpmsNotify c _
    · exact ensures_dpmsNotify c _
    · exact Prog.ensures_pure hc ()
  cases new.fb with
  | none => exact Prog.ensures_pure hc ()
  | some fb =>
    refine Prog.Ensures.bind hc (Prog.ensures_when hc ?_) fun _ => ?_
    · exact Prog.ensures_modify fun d h => h.forceFullModeset c
    refine Prog.Ensures.bind hc (Prog.ensures_read hc _) fun needsModeset => ?_
    refine Prog.Ensures.bind hc (Prog.ensures_when hc ?_) fun _ => ?_
    · refine Prog.Ensures.bind hc (ensures_setScanoutBuffer c _) fun _ => ?_
      exact Prog.ensures_each hc (fun rect => ensures_view c (vtView_markDirty _)) _
    refine Prog.Ensures.bind hc (Prog.ensures_read hc _) fun numDirts => ?_
    exact Prog.ensures_when hc (ensures_view c (vtView_markDirty _))

theorem ensures_cursorShow (fb : Option Framebuffer) (env : CursorEnv) :
    (cursorShow fb env).Ensures VtReady (VtEffect c) := by
  cases fb with
  | none => exact ensures_view c (vtView_cursorEnable _)
  | some fb =>
    refine Prog.Ensures.bind (vtEffect_composes c) (ensures_view c fun d => ?_) fun _ =>
      ensures_view c (vtView_cursorEnable _)
    exact vtView_cursorSetGem _ _

theorem ensures_cursorMarkDirty (old new : PlaneState) (fb : Framebuffer) :
    (cursorMarkDirty old new fb).Ensures VtReady (VtEffect c) := by
  have hc := vtEffect_composes c
  unfold cursorMarkDirty
  split_ifs
  · refine Prog.Ensures.bind hc (ensures_view c (vtView_markDirty _)) fun _ => ?_
    exact ensures_view c (vtView_markDirty _)
  · refine Prog.Ensures.bind hc (Prog.ensures_read hc _) fun rect => ?_
    exact ensures_view c (vtView_markDirty _)

theorem ensures_cursorAtomicUpdate (old new : PlaneState) (env : CursorEnv) :
    (cursorAtomicUpdate old new env).Ensures VtReady (VtEffect c) := by
  have hc := vtEffect_composes c
  refine Prog.Ensures.bind hc (Prog.ensures_read hc _) fun position => ?_
  refine Prog.Ensures.bind hc (ensures_view c fun _ => rfl) fun _ => ?_
  refine Prog.Ensures.bind hc (Prog.ensures_when hc (ensures_cursorShow c _ _)) fun _ => ?_
  refine Prog.Ensures.bind hc (Prog.ensures_read hc _) fun enabled => ?_
  split
  · refine Prog.Ensures.bind hc (Prog.ensures_when hc ?_) fun _ => Prog.ensures_when hc ?_
    · exact ensures_send c fun d => cursorSetEvent_ne_dpms _ _ _
    · exact ensures_send c fun d => by simp
  · cases new.fb with
    | none => exact Prog.ensures_pure hc ()
    | some fb => exact ensures_cursorMarkDirty c _ _ _

/-- **A plane update** clears no modeset. -/
theorem ensures_planeUpdate (u : PlaneUpdate) : u.run.Ensures VtReady (VtEffect c) := by
  cases u with
  | primary old new damage => exact ensures_planeAtomicUpdate c old new damage
  | cursor old new env => exact ensures_cursorAtomicUpdate c old new env

theorem ensures_sendEventsWork : sendEventsWork.Ensures VtReady (VtEffect c) := fun d h =>
  h.effect (flushKinds_vtView.sendEventsWork.exec_eq (fun _ hf => hf) d)

end

/-! ### Flushes -/

/-- What follows the notification of a mode in a flush. -/
theorem ensures_flushRest (c : Prop) (crtc : Crtc) (state : CrtcState) (notifyDpms : Bool) :
    (Prog.when notifyDpms (painterDpmsNotify (if state.active then dpmsOn else dpmsOff)) >>= fun _ =>
      Prog.modify (painterSetVblank (some crtc) state.event) >>= fun _ =>
        painterSendUpdateReadyIfNeeded).Ensures VtReady (VtEffect c) := by
  have hc := vtEffect_composes c
  refine Prog.Ensures.bind hc (Prog.ensures_when hc (ensures_dpmsNotify c _)) fun _ => ?_
  refine Prog.Ensures.bind hc (ensures_view c (vtView_setVblank _ _)) fun _ => ?_
  exact fun d h => h.updateReadyIfNeeded c

/-- **A flush** clears a modeset only with an active CRTC and a scanout buffer. -/
theorem VtReady.flush {d : Device} (h : VtReady d) (crtc : Crtc) (state : CrtcState) :
    VtEffect (state.active = true ∧ d.painter.bind (·.scanoutFb) ≠ none) d
      ((crtcAtomicFlush crtc state).exec d).1 := by
  unfold crtcAtomicFlush
  rw [Prog.exec_bind, Prog.exec_read, Prog.exec_bind, Prog.exec_read, Prog.exec_bind]
  refine VtEffect.trans ?_ (ensures_flushRest _ crtc state _ _ ?_) <;> rw [Prog.exec_when]
  · split_ifs with hnotify
    · cases hfb : d.painter.bind (·.scanoutFb) with
      | none =>
        rw [painterModeChangedNotify_noBuffer hfb]
        exact h.effect rfl
      | some fb =>
        simp only [Bool.and_eq_true] at hnotify
        refine (h.modeChangedNotify hfb _).1.mono fun _ => ⟨hnotify.1, ?_⟩
        simp
    · exact h.effect rfl
  · split_ifs with hnotify
    · cases hfb : d.painter.bind (·.scanoutFb) with
      | none => rwa [painterModeChangedNotify_noBuffer hfb]
      | some fb => exact (h.modeChangedNotify hfb _).1.ready
    · exact h

/-- **The flush that shows a pending mode** to a connected client: `MODE_CHANGED` is queued, then DPMS
ON; the modeset is done, and the console recorded. -/
theorem VtReady.flush_mode {d : Device} (h : VtReady d) (crtc : Crtc) {state : CrtcState}
    (hactive : state.active = true) (hfb : d.painter.bind (·.scanoutFb) ≠ none)
    (hconn : d.connected = true) (hneeds : painterNeedsFullModeset d = true) :
    ∃ mode rest, mode.IsModeChanged ∧
      queuedSince d ((crtcAtomicFlush crtc state).exec d).1 = mode :: .dpms dpmsOn :: rest ∧
      painterNeedsFullModeset ((crtcAtomicFlush crtc state).exec d).1 = false ∧
      ((crtcAtomicFlush crtc state).exec d).1.recorded = d.fgConsole := by
  obtain ⟨fb, hfb⟩ := Option.ne_none_iff_exists'.1 hfb
  unfold crtcAtomicFlush
  simp only [Prog.exec_bind, Prog.exec_read, Prog.exec_when, hneeds, hactive, Bool.or_true,
    Bool.and_true, if_true, Prog.exec_modify]
  obtain ⟨hmode, hdone, mode, hevent, hqueued⟩ := h.modeChangedNotify hfb state.adjustedMode
  rw [if_pos hconn] at hqueued
  generalize ((painterModeChangedNotify state.adjustedMode).exec d).1 = d₁ at hmode hdone hqueued ⊢
  obtain ⟨hon, hqueued₁, hneeds₁⟩ := hmode.ready.notify_dpmsOn (hmode.connected.trans hconn) True
  generalize ((painterDpmsNotify dpmsOn).exec d₁).1 = d₂ at hon hqueued₁ hneeds₁ ⊢
  have hvblank : VtEffect True d₂ (painterSetVblank (some crtc) state.event d₂) :=
    hon.ready.effect (vtView_setVblank _ _ _)
  have hrest := hvblank.trans (hvblank.ready.updateReadyIfNeeded True)
  have hqueue := queuedSince_trans hmode.submitted (hon.trans hrest).submitted
  rw [queuedSince_trans hon.submitted hrest.submitted, hqueued, hqueued₁] at hqueue
  refine ⟨mode, _, hevent, hqueue, ?_, ?_⟩
  · refine (needs_updateReadyIfNeeded _).trans ?_
    exact (needs_of_switchView (switchView_of_vtView (vtView_setVblank _ _ _))).trans
      (hneeds₁.trans hdone)
  · refine ((hmode.trans hon).trans hrest).recorded.trans (if_pos ?_)
    rw [hqueue]
    simp

/-! ### VT notifications -/

/-- The test of `evdi_painter_vt_notifier_call`. -/
theorem vtSwitched_iff (d : Device) :
    (d.painter.any fun p => p.isConnected && d.fgConsole != p.fgConsole && !p.needsFullModeset) = true ↔
      d.connected = true ∧ d.fgConsole ≠ d.recorded ∧ painterNeedsFullModeset d = false := by
  cases hp : d.painter with
  | none => simp [Device.connected, hp]
  | some p =>
    simp [Device.connected, Device.recorded, painterNeedsFullModeset, hp, and_assoc]

/-- **A VT notification** that sees no switch changes nothing. -/
theorem painterVtNotifierCall_silent {d : Device}
    (h : ¬ (d.connected = true ∧ d.fgConsole ≠ d.recorded ∧ painterNeedsFullModeset d = false)) :
    (painterVtNotifierCall.exec d).1 = d := by
  unfold painterVtNotifierCall
  rw [Prog.exec_bind, Prog.exec_read, Prog.exec_when, if_neg (mt (vtSwitched_iff d).1 h)]

/-- **A VT notification** that sees a switch queues a DPMS OFF and forces a full modeset. -/
theorem VtReady.vtNotifierCall {d : Device} (h : VtReady d) (hconn : d.connected = true)
    (hswitch : d.fgConsole ≠ d.recorded) (hneeds : painterNeedsFullModeset d = false) :
    VtEffect False d (painterVtNotifierCall.exec d).1 ∧
      queuedSince d (painterVtNotifierCall.exec d).1 = [.dpms dpmsOff] ∧
      painterNeedsFullModeset (painterVtNotifierCall.exec d).1 = true := by
  have hexec : (painterVtNotifierCall.exec d).1 =
      painterForceFullModeset ((createAndSend (.dpms dpmsOff)).exec d).1 := by
    unfold painterVtNotifierCall
    rw [Prog.exec_bind, Prog.exec_read, Prog.exec_when,
      if_pos ((vtSwitched_iff d).2 ⟨hconn, hswitch, hneeds⟩), Prog.exec_bind, Prog.exec_modify,
      painterDpmsNotify_exec, if_pos hconn, if_neg (by decide)]
  have hoff : (.dpms dpmsOff : Event) ≠ .dpms dpmsOn := by decide
  have hsend : VtEffect False d ((createAndSend (.dpms dpmsOff)).exec d).1 := h.effect_send hoff
  have hsub := h.queued (.dpms dpmsOff)
  rw [if_pos hconn] at hsub
  rw [hexec]
  refine ⟨hsend.trans (hsend.ready.forceFullModeset False), queuedSince_of_append hsub, ?_⟩
  have hconn' := hsend.connected.trans hconn
  cases hp : ((createAndSend (.dpms dpmsOff)).exec d).1.painter with
  | none => simp [Device.connected, hp] at hconn'
  | some p => simp [painterForceFullModeset, painterNeedsFullModeset, hp]

/-! ### The other calls -/

/-- What a call other than a VT notification does. A client that is connected after it has a full
modeset to come, or was connected before and has been told of the modeset done. -/
structure VtAdvance (clears : Prop) (d d' : Device) : Prop where
  ready : VtReady d'
  recorded : d'.recorded = if .dpms dpmsOn ∈ queuedSince d d' then d.fgConsole else d.recorded
  needs : painterNeedsFullModeset d = true → painterNeedsFullModeset d' = true ∨ clears
  told : d'.connected = true → painterNeedsFullModeset d' = true ∨ d.connected = true ∧
    (painterNeedsFullModeset d = true → ∃ e ∈ queuedSince d d', e.IsModeChanged)

theorem VtEffect.advance {c : Prop} {d d' : Device} (h : VtEffect c d d') : VtAdvance c d d' where
  ready := h.ready
  recorded := h.recorded
  needs hneeds := (h.needs hneeds).imp_right (·.1)
  told hconn := by
    rw [h.connected] at hconn
    by_cases hneeds' : painterNeedsFullModeset d' = true
    · exact .inl hneeds'
    · exact .inr ⟨hconn, fun hneeds => ((h.needs hneeds).resolve_left hneeds').2 hconn⟩

theorem VtReady.disconnect {d : Device} (h : VtReady d) (file : DrmFile) :
    VtAdvance False d (painterDisconnect file d).1 := by
  rcases painterDisconnect_cases file d with heq | ⟨p, hp, hfile⟩
  · rw [heq]
    exact (h.effect rfl).advance
  · rw [painterDisconnect_owner hp hfile]
    refine ⟨⟨fun hconn => ?_, h.kzalloc⟩, ?_, fun hneeds => .inl ?_, fun hconn => ?_⟩
    · simp [Device.connected, Painter.disconnected] at hconn
    · rw [queuedSince_of_eq (by exact rfl), if_neg List.not_mem_nil]
      simp [Device.recorded, Painter.disconnected, hp]
    · simpa [painterNeedsFullModeset, Painter.disconnected, hp] using hneeds
    · simp [Device.connected, Painter.disconnected] at hconn

theorem VtReady.connectIoctl {d : Device} (h : VtReady d) (user : UInt64 → UserRegion)
    (ans : ConnectAnswers) (cmd : ConnectCmd) (file : DrmFile) :
    VtAdvance False d (painterConnectIoctl user ans cmd file d).1 := by
  rcases painterConnectIoctl_cases user ans cmd file d with ⟨err, heq, -⟩ |
    ⟨edid, -, -, -, -, heq⟩ | ⟨-, heq⟩
  · rw [heq]
    exact (h.effect rfl).advance
  · rw [heq]
    refine ⟨⟨fun hconn => ?_, h.kzalloc⟩, ?_, fun hneeds => .inl ?_, fun hconn => .inl ?_⟩
    · cases hp : d.painter with
      | none => simp [Device.connected, hp] at hconn
      | some p => simp [canSend, Painter.connected]
    · rw [queuedSince_of_eq (by exact rfl), if_neg List.not_mem_nil]
      cases hp : d.painter <;> simp [Device.recorded, Painter.connected, hp]
    · cases hp : d.painter with
      | none => simp [painterNeedsFullModeset, hp] at hneeds
      | some p => simp [painterNeedsFullModeset, Painter.connected]
    · cases hp : d.painter with
      | none => simp [Device.connected, hp] at hconn
      | some p => simp [painterNeedsFullModeset, Painter.connected]
  · rw [heq]
    exact h.disconnect file

theorem vtView_grabpixLocked (cmd : GrabpixCmd) (d : Device) :
    vtView (painterGrabpixLocked cmd d).1 = vtView d := by
  rcases painterGrabpixLocked_cases cmd d with ⟨err, heq, -⟩ | ⟨p, -, -, heq⟩ |
    ⟨p, efb, cmd', -, -, -, heq⟩
  · rw [heq]
  · rw [heq]
    exact vtView_onPainter d fun _ => rfl
  · rw [heq]
    refine (vtView_onPainter _ fun _ => ?_).trans rfl
    rfl

theorem vtView_requestUpdate (d : Device) : vtView (painterRequestUpdateIoctl d).1 = vtView d := by
  rcases painterRequestUpdateIoctl_device d with heq | heq
  · rw [heq]
  · rw [heq]
    exact vtView_onPainter d fun _ => rfl

theorem vtView_ddcciResponse (user : UInt64 → UserRegion) (kzalloc : Bool) (cmd : DdcciResponseCmd)
    (d : Device) : vtView (painterDdcciResponseIoctl user kzalloc cmd d).1 = vtView d := by
  obtain ⟨buffer, length, received, heq⟩ := painterDdcciResponseIoctl_device user kzalloc cmd d
  rw [heq]
  exact vtView_onPainter d fun _ => rfl

theorem vtView_grabpixFinish (g : Grab) (d : Device) : vtView (painterGrabpixFinish g d) = vtView d :=
  vtView_sendVblank g.crtc g.vblank d

theorem vtView_enableCursorEvents (cmd : EnableCursorEventsCmd) (d : Device) :
    vtView (painterEnableCursorEventsIoctl cmd d).1 = vtView d := rfl

/-- **A client's call** clears no modeset. -/
theorem ClientSection.vtAdvance {f : Device → Device} (hf : ClientSection f) {d : Device}
    (h : VtReady d) : VtAdvance False d (f d) := by
  cases hf with
  | requestUpdate => exact (h.effect (vtView_requestUpdate d)).advance
  | grabpix cmd => exact (h.effect (vtView_grabpixLocked cmd d)).advance
  | grabpixDone g => exact (h.effect (vtView_grabpixFinish g d)).advance
  | connect user ans cmd file => exact h.connectIoctl user ans cmd file
  | close file =>
    show VtAdvance False d (painterClose file d)
    rw [painterClose_eq]
    exact h.disconnect file
  | ddcciResponse user kzalloc cmd =>
    exact (h.effect (vtView_ddcciResponse user kzalloc cmd d)).advance
  | enableCursorEvents cmd => exact (h.effect (vtView_enableCursorEvents cmd d)).advance

theorem VtReady.switchConsole {d : Device} (h : VtReady d) (console : ℤ) :
    VtAdvance False d { d with fgConsole := console } where
  ready := ⟨h.sends, h.kzalloc⟩
  recorded := by
    rw [queuedSince_of_eq (by exact rfl), if_neg List.not_mem_nil]
    rfl
  needs := .inl
  told hconn := by
    by_cases hneeds : painterNeedsFullModeset d = true
    · exact .inl hneeds
    · exact .inr ⟨hconn, fun hneeds' => absurd hneeds' hneeds⟩

/-! ### Runs -/

/-- The console recorded is that of the last DPMS ON. -/
theorem recordedConsole_append (log : List Queued) (vt : Bool) (events : List Event) (console : ℤ) :
    recordedConsole (log ++ events.map fun event => ⟨vt, event, console⟩) =
      if .dpms dpmsOn ∈ events then console else recordedConsole log := by
  unfold recordedConsole
  rw [List.filter_append, List.getLast?_append]
  cases hlast : ((events.map fun event => (⟨vt, event, console⟩ : Queued)).filter fun q =>
      q.event = .dpms dpmsOn).getLast? with
  | none =>
    rw [List.getLast?_eq_none_iff, List.filter_eq_nil_iff] at hlast
    rw [if_neg, Option.none_or]
    intro hmem
    exact hlast _ (List.mem_map_of_mem hmem) (by simp)
  | some q =>
    obtain ⟨hq, hon⟩ := List.mem_filter.1 (List.mem_of_getLast? hlast)
    obtain ⟨event, hevent, rfl⟩ := List.mem_map.1 hq
    have hmem : .dpms dpmsOn ∈ events := (of_decide_eq_true hon) ▸ hevent
    rw [if_pos hmem]
    rfl

namespace VtRun

/-- **The invariant of the runs.** -/
structure Inv (s : VtRun) : Prop where
  ready : VtReady s.device
  recorded : s.device.recorded = recordedConsole s.log
  separated : Separated Queued.VtOff Queued.ModeChanged s.log
  pending : Open Queued.VtOff Queued.ModeChanged s.log → s.device.connected = true →
    painterNeedsFullModeset s.device = true

theorem inv_init (console : ℤ) (hasSpace : Stream' Bool) : Inv (init console hasSpace) where
  ready := ⟨fun h => by simp [init, Device.connected, Device.init, Painter.init] at h, rfl⟩
  recorded := rfl
  separated := separated_nil
  pending h := absurd h not_open_nil

/-- What a call other than a VT notification queues is no DPMS OFF of a VT notification. -/
theorem not_vtOff_next {s : VtRun} {d : Device} :
    ∀ q ∈ (queuedSince s.device d).map fun event => (⟨false, event, s.device.fgConsole⟩ : Queued),
      ¬ q.VtOff := by
  rintro q hq ⟨hvt, -⟩
  obtain ⟨event, -, rfl⟩ := List.mem_map.1 hq
  cases hvt

theorem Inv.next {s : VtRun} (h : Inv s) {c : Prop} {d : Device} (hd : VtAdvance c s.device d) :
    Inv (s.next false d) where
  ready := hd.ready
  recorded := by
    rw [VtRun.next, recordedConsole_append, ← h.recorded]
    exact hd.recorded
  separated := h.separated.append not_vtOff_next
  pending hopen hconn := by
    obtain ⟨hbefore, hanswer⟩ := Open.of_append hopen not_vtOff_next
    rcases hd.told hconn with hneeds | ⟨hconn', hmode⟩
    · exact hneeds
    · obtain ⟨e, he, hmode⟩ := hmode (h.pending hbefore hconn')
      exact absurd hmode (hanswer _ (List.mem_map_of_mem he))

/-- A VT notification does nothing, or what the protocol says. -/
theorem Inv.notification {s t : VtRun} (h : Inv s) (hstep : Step s .notification t) :
    t = s ∨ (s.device.connected = true ∧ s.device.fgConsole ≠ recordedConsole s.log ∧
      painterNeedsFullModeset s.device = false ∧ VtReady t.device ∧
      t.log = s.log ++ [⟨true, .dpms dpmsOff, s.device.fgConsole⟩] ∧
      t.device.recorded = s.device.recorded ∧ painterNeedsFullModeset t.device = true) := by
  cases hstep
  by_cases hswitch : s.device.connected = true ∧ s.device.fgConsole ≠ s.device.recorded ∧
      painterNeedsFullModeset s.device = false
  · obtain ⟨heffect, hqueued, hneeds⟩ :=
      h.ready.vtNotifierCall hswitch.1 hswitch.2.1 hswitch.2.2
    refine .inr ⟨hswitch.1, h.recorded ▸ hswitch.2.1, hswitch.2.2, heffect.ready, ?_, ?_, hneeds⟩
    · rw [VtRun.next, hqueued]
      rfl
    · refine heffect.recorded.trans (if_neg ?_)
      rw [hqueued]
      decide
  · left
    rw [painterVtNotifierCall_silent hswitch, VtRun.next, queuedSince_of_eq rfl, List.map_nil,
      List.append_nil]

/-- **What a call does**, other than a VT notification. -/
theorem Step.advance {s t : VtRun} {call : VtCall} (hstep : Step s call t)
    (hcall : call ≠ .notification) (h : VtReady s.device) :
    t = s.next false t.device ∧ VtAdvance (s.FlushesMode call) s.device t.device := by
  cases hstep with
  | notification => exact absurd rfl hcall
  | switchConsole console => exact ⟨rfl, h.switchConsole console⟩
  | client hf => exact ⟨rfl, hf.vtAdvance h⟩
  | planeUpdate update => exact ⟨rfl, (ensures_planeUpdate _ update _ h).advance⟩
  | flush crtc state => exact ⟨rfl, (h.flush crtc state).advance⟩
  | sendEventsWork => exact ⟨rfl, (ensures_sendEventsWork _ _ h).advance⟩

theorem inv_step (s : VtRun) (call : VtCall) (t : VtRun) (h : Inv s) (hstep : Step s call t) :
    Inv t := by
  by_cases hcall : call = .notification
  · subst hcall
    rcases h.notification hstep with rfl | ⟨hconn, -, hneeds, hready, hlog, hrecorded, hneeds'⟩
    · exact h
    · have hclosed : ¬ Open Queued.VtOff Queued.ModeChanged s.log := by
        intro hopen
        rw [h.pending hopen hconn] at hneeds
        exact Bool.noConfusion hneeds
      refine ⟨hready, ?_, ?_, fun _ _ => hneeds'⟩
      · rw [hlog, hrecorded, h.recorded]
        exact (recordedConsole_append s.log true [.dpms dpmsOff] _).symm
      · rw [hlog]
        exact h.separated.append_request hclosed
  · obtain ⟨heq, hadvance⟩ := hstep.advance hcall h.ready
    rw [heq]
    exact h.next hadvance

theorem inv_run {console : ℤ} {hasSpace : Stream' Bool} {calls : List VtCall} {s : VtRun}
    (h : Run Step (init console hasSpace) calls s) : Inv s :=
  h.invariant inv_step (inv_init console hasSpace)

/-- A full modeset stays pending until a flush shows the mode. -/
theorem needs_quiet {s t : VtRun} {calls : List VtCall} (h : Run QuietStep s calls t)
    (hinv : Inv s) (hneeds : painterNeedsFullModeset s.device = true) :
    Inv t ∧ painterNeedsFullModeset t.device = true := by
  refine h.invariant (I := fun t => Inv t ∧ painterNeedsFullModeset t.device = true) ?_ ⟨hinv, hneeds⟩
  rintro s call t ⟨hinv, hneeds⟩ ⟨hstep, hquiet⟩
  refine ⟨inv_step _ _ _ hinv hstep, ?_⟩
  by_cases hcall : call = .notification
  · subst hcall
    rcases hinv.notification hstep with rfl | ⟨-, -, -, -, -, -, hneeds'⟩
    · exact hneeds
    · exact hneeds'
  · exact ((hstep.advance hcall hinv.ready).2.needs hneeds).resolve_right hquiet

/-- **The VT switch protocol**, in every run of whole calls, in any order. A VT notification queues
nothing, or one DPMS OFF: then a client is connected, the console differs from that of the last DPMS ON
and no modeset is pending, and one is pending after it. Between two such DPMS OFFs there is a
`MODE_CHANGED`. After such a DPMS OFF, the next flush with an active CRTC and a scanout buffer, if the
client is connected, queues `MODE_CHANGED` and then DPMS ON, ends the modeset and records the console. -/
theorem vt_switch_protocol {console : ℤ} {hasSpace : Stream' Bool} {calls : List VtCall} {s : VtRun}
    (h : Run Step (init console hasSpace) calls s) :
    (∀ t, Step s .notification t → t = s ∨
      s.device.connected = true ∧ s.device.fgConsole ≠ recordedConsole s.log ∧
      painterNeedsFullModeset s.device = false ∧
      t.log = s.log ++ [⟨true, .dpms dpmsOff, s.device.fgConsole⟩] ∧
      painterNeedsFullModeset t.device = true) ∧
    Separated Queued.VtOff Queued.ModeChanged s.log ∧
    ∀ t u v calls' crtc state, Step s .notification t → t ≠ s → Run QuietStep t calls' u →
      Step u (.flush crtc state) v → u.FlushesMode (.flush crtc state) → u.device.connected = true →
      ∃ mode rest, mode.IsModeChanged ∧
        v.log = u.log ++ (mode :: .dpms dpmsOn :: rest).map
          (fun event => ⟨false, event, u.device.fgConsole⟩) ∧
        painterNeedsFullModeset v.device = false ∧ v.device.recorded = u.device.fgConsole := by
  have hinv := inv_run h
  refine ⟨fun t hstep => ?_, hinv.separated, ?_⟩
  · rcases hinv.notification hstep with heq | ⟨hconn, hswitch, hneeds, -, hlog, -, hneeds'⟩
    · exact .inl heq
    · exact .inr ⟨hconn, hswitch, hneeds, hlog, hneeds'⟩
  · intro t u v calls' crtc state hnotify hne hquiet hflush hmode hconn
    obtain ⟨-, -, -, -, -, -, hneeds⟩ := (hinv.notification hnotify).resolve_left hne
    obtain ⟨hinv', hneeds'⟩ := needs_quiet hquiet (inv_step _ _ _ hinv hnotify) hneeds
    cases hflush with
    | flush =>
      obtain ⟨mode, rest, hevent, hqueued, hdone, hrecorded⟩ :=
        hinv'.ready.flush_mode crtc hmode.1 hmode.2 hconn hneeds'
      exact ⟨mode, rest, hevent, by rw [VtRun.next, hqueued], hdone, hrecorded⟩

/-- A flush of CRTC 0, active, without a mode change. -/
def sampleState : CrtcState := ⟨true, false, false, ⟨64, 64, 60⟩, none⟩

/-- A client that connected on console 1 and is shown its first buffer. -/
def sampleShown : VtRun :=
  let s := init 1 (.const true)
  let s := s.next false
    (painterConnectIoctl (fun _ => sampleUser 0) ⟨true, true⟩ .sample 1 s.device).1
  let update := .primary (.sample none) (.sample (some (.sample 1 64 64 256))) []
  let s := s.next false ((PlaneUpdate.run update).exec s.device).1
  s.next false ((crtcAtomicFlush 0 sampleState).exec s.device).1

/-- Then console 2 comes to the foreground. -/
def sampleSwitched : VtRun := sampleShown.next false { sampleShown.device with fgConsole := 2 }

theorem run_sampleSwitched :
    ∃ calls, Run Step (init 1 (.const true)) calls sampleSwitched :=
  ⟨_, ((((Run.nil _).snoc (.client (.connect (fun _ => sampleUser 0) ⟨true, true⟩ .sample 1))).snoc
    (.planeUpdate _)).snoc (.flush 0 sampleState)).snoc (.switchConsole 2)⟩

/-- The client is told that the display is off, and by the next flush of the mode and that it is on. -/
theorem vt_switch_protocol_switched : ∃ t v mode rest,
    Step sampleSwitched .notification t ∧ Step t (.flush 0 sampleState) v ∧
    t.log = sampleSwitched.log ++ [⟨true, .dpms dpmsOff, 2⟩] ∧ mode.IsModeChanged ∧
    v.log = t.log ++ (mode :: .dpms dpmsOn :: rest).map (fun event => ⟨false, event, 2⟩) ∧
    v.device.recorded = 2 := by
  obtain ⟨calls, hrun⟩ := run_sampleSwitched
  obtain ⟨hnotify, -, hflush⟩ := vt_switch_protocol hrun
  let t := sampleSwitched.next true (painterVtNotifierCall.exec sampleSwitched.device).1
  have hne : t ≠ sampleSwitched := by
    intro heq
    exact absurd (congrArg (·.log.length) heq) (by decide +kernel)
  obtain ⟨-, -, -, hlog, -⟩ := (hnotify t .notification).resolve_left hne
  obtain ⟨mode, rest, hmode, hlog', -, hrecorded⟩ := hflush t t _ [] 0 sampleState .notification hne
    (Run.nil t) (.flush 0 sampleState) ⟨rfl, by decide +kernel⟩ (by decide +kernel)
  exact ⟨t, _, mode, rest, .notification, .flush 0 sampleState, hlog, hmode, hlog', hrecorded⟩

end VtRun

end Evdi
