import Evdi.Foundations.Interference
import Evdi.Model.Driver
import Evdi.Properties.DdcciMatch
import Evdi.Properties.Picture
import Evdi.Properties.Ready
import Evdi.Properties.Updates
import Evdi.Properties.Wakeup

/-!
# The client's screen

A compositor that flips pages, and one client that asks for updates and grabs them, for as long as the client
is connected and has cursor events: commits come one after the other, each when the event of the last was
sent; the client makes one call at a time; and other threads of the driver run in between.

* `Scene`, `Scene.Beside`: all but the commits;
* `Screen`, `Screen.Step`: the commits as well;
* `Scene.Pictured`, `Pictured.beside`: the device shows a picture, and what goes on beside a commit goes on in
  the picture;
* `Shows`, `under_commitRun`: a commit, section by section, in the picture;
* `Scene.Waits`: a client that waits has been heard, or will be told;
* `Inv`, `Step.inv`: what every step keeps; `Inv.mirrors`, `Inv.kept`: what follows from it;
* **`screen_mirrored`**: the result.
-/

namespace Evdi

open Atomic Transition Bytes

/-! ### The system -/

/-- The threads beside the commits. -/
inductive ScreenThread : Prog Device Unit → Prop
  | sendEventsWork : ScreenThread sendEventsWork
  | vtNotifier : ScreenThread painterVtNotifierCall
  | i2c (msg : I2cMsg) : ScreenThread (i2cDataNotify msg)

/-- A device, the compositor's framebuffers, the other threads of the driver, and the client: its buffer, its
place in the protocol, and how many events it has read. -/
structure Scene extends Clients, Frames where
  threads : List (Prog Device Unit)
  buffer : UserRegion
  phase : Phase
  read : ℕ

namespace Scene

/-- The vblank events sent. -/
def sent (s : Scene) : List (Crtc × VblankEvent) := s.device.drm.sentVblanks

/-- The `UPDATE_READY` events that the client has not read. -/
def unread (s : Scene) : ℕ := updateReadys (s.device.queue.drop s.read)

/-- The compositor may draw into the memory of an object: it is not that of a framebuffer it keeps. -/
def MayDraw (s : Scene) (obj : ℕ) : Prop := ∀ fb, s.Kept s.sent fb → fb.obj.id ≠ obj

/-- What may happen beside a commit. -/
inductive Action
  | requestUpdate (ret : ℤ)
  | readEvent (e : PendingEvent)
  | grabpix (cmd : GrabpixCmd)
  | grabpixDone
  | ddcciResponse (cmd : DdcciResponseCmd) (ret : ℤ)
  | thread
  | switchConsole (console : ℤ)
  | draw (obj : ℕ)

/-- One step: of the client, whose grabs get past their locked phase and copy to its buffer without an error;
of another thread; or of the compositor's renderer. -/
inductive Beside (stride : ℕ) : Scene → Action → Scene → Prop
  | requestUpdate {s : Scene} {d : Device} {ret : ℤ} : s.phase = .idle →
      painterRequestUpdateIoctl s.device = (d, ret) →
      Beside stride s (.requestUpdate ret) { s with device := d, phase := Phase.asked ret }
  | readEvent {s : Scene} {e : PendingEvent} : s.device.drm.delivered[s.read]? = some e →
      Beside stride s (.readEvent e) { s with phase := Phase.told s.phase e, read := s.read + 1 }
  | grabpix {s : Scene} {d : Device} {cmd cmd' : GrabpixCmd} {g : Grab} : s.phase = .mustGrab →
      s.grabs = [] → cmd.bufByteStride.toInt = stride →
      painterGrabpixLocked cmd s.device = (d, cmd', .ok g) →
      Beside stride s (.grabpix cmd) { s with device := d, grabs := [g], phase := .grabbing }
  | grabpixDone {s : Scene} {g : Grab} (env : GrabEnv) : s.grabs = [g] →
      env.user g.cmd.buffer = s.buffer →
      (env.objects g.efb.obj).memory = s.memory g.efb.obj.id →
      (painterGrabpixCopy env g s.device).ret = 0 →
      Beside stride s .grabpixDone { s with
        device := painterGrabpixFinish g s.device
        grabs := []
        buffer := (painterGrabpixCopy env g s.device).buffer
        phase := .idle }
  | ddcciResponse {s : Scene} {d : Device} {cmd : DdcciResponseCmd} {ret : ℤ}
      (user : UInt64 → UserRegion) (kzalloc : Bool) :
      painterDdcciResponseIoctl user kzalloc cmd s.device = (d, ret) →
      Beside stride s (.ddcciResponse cmd ret) { s with device := d }
  | thread {s : Scene} {d : Device} {ts : List (Prog Device Unit)} :
      PoolStep ScreenThread (s.device, s.threads) () (d, ts) →
      Beside stride s .thread { s with device := d, threads := ts }
  | switchConsole {s : Scene} (console : ℤ) :
      Beside stride s (.switchConsole console)
        { s with device := { s.device with fgConsole := console } }
  | draw {s : Scene} (obj : ℕ) (memory : Memory) : s.MayDraw obj →
      Beside stride s (.draw obj) { s with toFrames := s.toFrames.draw obj memory }

/-- Any number of such steps. -/
def Others (stride : ℕ) : Scene → Scene → Prop :=
  Relation.ReflTransGen fun s t => ∃ a, Beside stride s a t

/-- A program on the device. -/
def onDevice {α : Type} (p : Prog Device α) : Prog Scene α :=
  p.zoom (fun s => s.device) fun d s => { s with device := d }

end Scene

/-- An update of the cursor's plane. -/
def PlaneUpdate.isCursor : PlaneUpdate → Bool
  | .cursor .. => true
  | .primary .. => false

/-- Updates of the cursor's plane, and one of the primary plane: `fb` for `old`, with its damage. -/
def FlipUpdates (old fb : Framebuffer) (damage : List DrmRect) : List PlaneUpdate → Prop
  | [] => False
  | .primary o n rects :: us =>
    o.fb = some old ∧ n.fb = some fb ∧ rects = damage ∧ ∀ u ∈ us, u.isCursor = true
  | .cursor .. :: us => FlipUpdates old fb damage us

/-- A commit shows `fb` for `old`: it flips, or leaves the primary plane alone. -/
def Commit.Flips (c : Commit) (old fb : Framebuffer) (damage : List DrmRect) : Prop :=
  FlipUpdates old fb damage c.updates ∨ (fb = old ∧ ∀ u ∈ c.updates, u.isCursor = true)

/-- A scene with the commit under way. -/
structure Screen extends Scene where
  commit : Prog Device Unit

namespace Screen

/-- What may happen. -/
inductive Action
  | beside (a : Scene.Action)
  | commit (c : Commit)
  | section

/-- One step. A commit starts when the last one is over and, if commits are `synced`, its event was sent; it has
an event of its own, and its framebuffer suits the last one, and differs from it in the damage only. -/
inductive Step (stride : ℕ) (synced : Bool) : Screen → Action → Screen → Prop
  | beside {s : Screen} {a : Scene.Action} {t : Scene} : Scene.Beside stride s.toScene a t →
      Step stride synced s (.beside a) { s with toScene := t }
  | commit {s : Screen} {fb : Framebuffer} {damage : List DrmRect} {e : VblankEvent} (c : Commit) :
      s.commit = .pure () → (synced = true → s.Sent s.sent) → c.Flips s.front fb damage →
      c.state.event = some e → (∀ crtc, (crtc, e) ∉ s.sent) → fb.Suits s.front.width s.front.height stride →
      (∀ r ∈ damage, r.Inside fb) →
      (∀ p ∈ s.front.pixels, p ∉ damagePixels damage → s.content s.front p = s.content fb p) →
      Step stride synced s (.commit c)
        { s with front := fb, old := s.front, event := some e, commit := c.run }
  | section {s : Screen} {f : Device → Device} {k : Device → Prog Device Unit} :
      s.commit = .sec f k →
      Step stride synced s .section { s with device := f s.device, commit := k s.device }

end Screen

/-! ### What the screen is about -/

/-- Whether a client is connected and known, the damage, the scanout buffer and the event that waits; the events
sent; and whether there are cursor events. -/
def screenView (d : Device) : Option (Bool × Bool × List ClipRect × Option Framebuffer ×
    List (Crtc × VblankEvent)) × List (Crtc × VblankEvent) × Bool :=
  (d.painter.map fun p =>
    (p.isConnected, p.drmFilp.isSome, p.dirtyRects, p.scanoutFb, vblankPair p.crtc p.vblank),
    d.drm.sentVblanks, d.cursorEventsEnabled)

theorem screenView_onPainter {f : Painter → Painter} (d : Device)
    (hf : ∀ p, (f p).isConnected = p.isConnected ∧ (f p).drmFilp = p.drmFilp ∧
      (f p).dirtyRects = p.dirtyRects ∧ (f p).scanoutFb = p.scanoutFb ∧ (f p).crtc = p.crtc ∧
      (f p).vblank = p.vblank) : screenView (d.onPainter f) = screenView d := by
  cases hp : d.painter with
  | none => simp [screenView, hp, Device.onPainter]
  | some p =>
    obtain ⟨h1, h2, h3, h4, h5, h6⟩ := hf p
    simp [screenView, hp, h1, h2, h3, h4, h5, h6, Device.onPainter]

theorem dirtyRects_of_screenView {d d' : Device} (h : screenView d' = screenView d) :
    d'.dirtyRects = d.dirtyRects := by
  have hview : ∀ d : Device, d.dirtyRects = (screenView d).1.elim [] (·.2.2.1) := by
    intro d
    cases hp : d.painter <;> simp [Device.dirtyRects, screenView, hp]
  rw [hview, hview, h]

/-- The screen does not see the section. -/
def Unseen (f : Device → Device) : Prop := ∀ d, screenView (f d) = screenView d

theorem SendSection.unseen {f : Device → Device} (h : SendSection f) : Unseen f := by
  intro d
  obtain ⟨⟨g, hpainter, hg⟩, ⟨used, space, serial, submitted, delivered, freed, -, -, hdrm⟩, hrest⟩ :=
    h.effect d
  have hcursor : (f d).cursorEventsEnabled = d.cursorEventsEnabled := by rw [hrest]
  cases hp : d.painter with
  | none => simp [screenView, hpainter, hp, hdrm, hcursor]
  | some p =>
    obtain ⟨pending, work, console, hgp⟩ := hg p
    simp [screenView, hpainter, hp, hdrm, hcursor, hgp]

theorem unseen_onPainter {f : Painter → Painter}
    (hf : ∀ p, (f p).isConnected = p.isConnected ∧ (f p).drmFilp = p.drmFilp ∧
      (f p).dirtyRects = p.dirtyRects ∧ (f p).scanoutFb = p.scanoutFb ∧ (f p).crtc = p.crtc ∧
      (f p).vblank = p.vblank) : Unseen fun d => d.onPainter f :=
  fun d => screenView_onPainter d hf

/-- What the sections of the threads beside the commits do. -/
def BesideSection (f : Device → Device) : Prop :=
  Unseen f ∧ ∀ d, Keeps d (f d) ∧ Silent d (f d)

theorem besideSection_send {f : Device → Device} (h : SendSection f) (hsilent : ∀ d, Silent d (f d)) :
    BesideSection f :=
  ⟨h.unseen, fun d => ⟨h.keeps d, hsilent d⟩⟩

theorem besideSection_onPainter {f : Painter → Painter}
    (hf : ∀ p, (f p).isConnected = p.isConnected ∧ (f p).drmFilp = p.drmFilp ∧
      (f p).dirtyRects = p.dirtyRects ∧ (f p).scanoutFb = p.scanoutFb ∧ (f p).crtc = p.crtc ∧
      (f p).vblank = p.vblank) (hr : ∀ p, (f p).wasUpdateRequested = p.wasUpdateRequested)
    (he : ∀ p, (f p).pendingEvents = p.pendingEvents) : BesideSection fun d => d.onPainter f :=
  ⟨unseen_onPainter hf, fun d => ⟨keeps_onPainter d hr, silent_onPainter hr he⟩⟩

theorem flushKinds_beside : FlushKinds BesideSection where
  read := besideSection_send .read Silent.refl
  start := besideSection_send .start flushKinds_silent.start
  flush := besideSection_send .flush silent_flush
  schedule := besideSection_send .schedule flushKinds_silent.schedule

theorem sendKinds_beside : SendKinds BesideSection where
  read := besideSection_send .read Silent.refl
  fgConsole := besideSection_send .fgConsole fun _ => silent_onPainter (fun _ => rfl) fun _ => rfl
  send event hevent := by
    refine flushKinds_beside.createAndSend ?_ (fun serial d => ?_) fun e => ?_
    · exact besideSection_send (.create event) fun d => silent_createEvent (event d) d
    · exact besideSection_send (.add _) (silent_addEvent (hevent d))
    · exact besideSection_send (.cancel e) fun d => silent_of_view rfl

/-- **The other threads** do nothing else. -/
theorem ScreenThread.uses {p : Prog Device Unit} (h : ScreenThread p) : p.Uses BesideSection := by
  cases h with
  | sendEventsWork => exact flushKinds_beside.sendEventsWork
  | vtNotifier =>
    refine Prog.Uses.bind (Prog.uses_read sendKinds_beside.read) fun switched => Prog.uses_when ?_
    refine Prog.Uses.bind (sendKinds_beside.dpmsNotify dpmsOff) fun _ => Prog.uses_modify ?_
    exact besideSection_onPainter (fun _ => ⟨rfl, rfl, rfl, rfl, rfl, rfl⟩) (fun _ => rfl) fun _ => rfl
  | i2c msg =>
    refine Prog.Uses.bind (Prog.uses_read sendKinds_beside.read) fun accepted => ?_
    cases accepted with
    | false => exact Prog.uses_pure ()
    | true =>
      refine Prog.uses_act_bind ?_ fun d => Prog.Uses.bind (Prog.uses_modify ?_) fun _ => ?_
      · exact besideSection_send (.create fun _ => ddcciDataEvent msg) fun d => silent_createEvent _ d
      · exact besideSection_onPainter (fun _ => ⟨rfl, rfl, rfl, rfl, rfl, rfl⟩) (fun _ => rfl) fun _ => rfl
      · by_cases hk : d.drm.kzalloc.head = true
        · rw [createEvent, if_pos hk]
          refine flushKinds_beside.sendEvent ?_ ?_
          · exact besideSection_send (.add _) (silent_addEvent (by simp [ddcciDataEvent]))
          · exact besideSection_send (.cancel _) fun d => silent_of_view rfl
        · rw [createEvent, if_neg hk]
          exact Prog.uses_pure _

theorem sendKinds_unseen : SendKinds Unseen where
  read := SendSection.read.unseen
  fgConsole := SendSection.fgConsole.unseen
  send event _ := (createAndSend_kinds event).mono fun _ => SendSection.unseen

theorem unseen_updateReadyIfNeeded : Unseen fun d => (updateReadyIfNeeded.exec d).1 := by
  have huses : updateReadyIfNeeded.Uses Unseen := by
    refine Prog.Uses.bind (Prog.uses_read sendKinds_unseen.read) fun needed => ?_
    cases needed with
    | false => exact Prog.uses_pure _
    | true =>
      refine Prog.Uses.bind ((createAndSend_uses .updateReady).mono fun _ => SendSection.unseen)
        fun _ => ?_
      exact Prog.uses_modify (unseen_onPainter fun _ => ⟨rfl, rfl, rfl, rfl, rfl, rfl⟩)
  exact fun d => huses.exec_eq (fun _ hf => hf) d

theorem unseen_cursorSetGem (obj : Option GemRef) : Unseen (cursorSetGem obj) := by
  intro d
  have hrefs : ∀ (obj : Option GemRef) (n : ℤ) (d : Device),
      screenView (drmGemObjectRef obj n d) = screenView d := by
    intro obj n d
    cases obj <;> rfl
  show screenView (drmGemObjectRef _ (-1) (drmGemObjectRef obj 1 d)) = screenView d
  rw [hrefs, hrefs]

theorem unseen_cursorEnable (enable : Bool) : Unseen (cursorEnable enable) := by
  intro d
  cases enable with
  | false => exact unseen_cursorSetGem none _
  | true => rfl

/-- No section of a commit takes an event back. -/
theorem CommitSection.sent_prefix {f : Device → Device} (h : CommitSection f) (d : Device) :
    d.drm.sentVblanks <+: (f d).drm.sentVblanks := by
  have hsend (c : Option Crtc) (e : Option VblankEvent) (d : Device) :
      d.drm.sentVblanks <+: (sendVblank c e d).drm.sentVblanks := by
    rw [sendVblank_eq]
    exact List.prefix_append _ _
  have hunseen {d' : Device} (h : screenView d' = screenView d) :
      d.drm.sentVblanks <+: d'.drm.sentVblanks := by
    have heq : d'.drm.sentVblanks = d.drm.sentVblanks := congrArg (fun v => v.2.1) h
    rw [heq]
  cases h with
  | send h => exact hunseen (h.unseen d)
  | cursorSet obj ans image => exact hunseen (unseen_cursorSetGem _ _)
  | cursorEnable enable => exact hunseen (unseen_cursorEnable enable d)
  | updateReady => exact hunseen (unseen_updateReadyIfNeeded d)
  | setVblank c e =>
    unfold painterSetVblank
    cases hp : d.painter with
    | none => exact hsend c e d
    | some p =>
      have hheld : d.drm.sentVblanks <+: (painterSendVblank d).drm.sentVblanks := by
        rw [painterSendVblank, hp]
        exact hsend p.crtc p.vblank d
      dsimp only
      split_ifs
      · exact hheld
      · exact hheld.trans (hsend c e _)
  | _ => exact List.prefix_rfl

theorem CommitSection.canSend_eq {f : Device → Device} (h : CommitSection f) (d : Device) :
    canSend (f d) = canSend d := by
  have hpainter := h.painter_eq (v := fun p => (p.drmFilp, p.isConnected))
    (fun p q hcore => congrArg (fun p => (p.drmFilp, p.isConnected)) hcore)
    (fun p r => by unfold Painter.markDirty; cases p.scanoutFb <;> rfl) (fun _ _ => rfl) d
  have hview : ∀ d : Device, canSend d =
      (d.painter.map fun p => (p.drmFilp, p.isConnected)).any fun v => v.1.isSome && v.2 := by
    intro d
    cases hp : d.painter <;> simp [canSend, hp]
  rw [hview, hview, hpainter]

/-! ### The picture that a scene shows -/

namespace Scene

/-- The scene shows the picture: a client is connected, with cursor events, and the other threads are of the
kind they are. -/
structure Pictured (s : Scene) (P : Picture) : Prop where
  view : screenView s.device = (some (true, true, P.dirtyRects, some P.scanout, P.held), P.sent, true)
  grabs : s.grabs = P.grab.toList
  frames : s.toFrames = P.toFrames
  buffer : s.buffer = P.buffer
  threads : ∀ p ∈ s.threads, p.Uses BesideSection

variable {stride : ℕ} {rest : Set Pixel} {s t : Scene} {P : Picture} {a : Action}

/-- What the screen does not see changes nothing in the picture. -/
theorem Pictured.unseen {d : Device} (h : s.Pictured P) (hd : screenView d = screenView s.device) :
    Pictured { s with device := d } P :=
  ⟨hd.trans h.view, h.grabs, h.frames, h.buffer, h.threads⟩

/-- The painter of a scene that shows a picture. -/
theorem Pictured.painter (h : s.Pictured P) : ∃ p, s.device.painter = some p ∧ p.isConnected = true ∧
    p.drmFilp.isSome = true ∧ p.dirtyRects = P.dirtyRects ∧ p.scanoutFb = some P.scanout ∧
    vblankPair p.crtc p.vblank = P.held := by
  have hview := congrArg Prod.fst h.view
  cases hp : s.device.painter with
  | none => simp [screenView, hp] at hview
  | some p =>
    simp only [screenView, hp, Option.map_some, Option.some.injEq, Prod.mk.injEq] at hview
    exact ⟨p, rfl, hview⟩

theorem Pictured.sent_eq (h : s.Pictured P) : s.device.drm.sentVblanks = P.sent :=
  congrArg (fun v => v.2.1) h.view

theorem Pictured.cursorEvents (h : s.Pictured P) : s.device.cursorEventsEnabled = true :=
  congrArg (fun v => v.2.2) h.view

theorem Pictured.dirtyRects_eq (h : s.Pictured P) : s.device.dirtyRects = P.dirtyRects := by
  obtain ⟨p, hp, -, -, hdirty, -⟩ := h.painter
  rw [Device.dirtyRects_some hp, hdirty]

theorem Pictured.canSend (h : s.Pictured P) : canSend s.device = true := by
  obtain ⟨p, hp, hconnected, hfile, -⟩ := h.painter
  simp [Evdi.canSend, hp, hconnected, hfile]

/-- The picture of a device with another painter. -/
theorem Pictured.of_painter {d : Device} {p : Painter} {P' : Picture} (h : s.Pictured P)
    (hp : d.painter = some p) (hconnected : p.isConnected = true) (hfile : p.drmFilp.isSome = true)
    (hdirty : p.dirtyRects = P'.dirtyRects) (hscanout : p.scanoutFb = some P'.scanout)
    (hheld : vblankPair p.crtc p.vblank = P'.held) (hsent : d.drm.sentVblanks = P'.sent)
    (hcursor : d.cursorEventsEnabled = s.device.cursorEventsEnabled) (hgrab : s.grabs = P'.grab.toList)
    (hframes : P'.toFrames = P.toFrames) (hbuffer : P'.buffer = P.buffer) :
    Pictured { s with device := d } P' := by
  refine ⟨?_, hgrab, h.frames.trans hframes.symm, h.buffer.trans hbuffer.symm, h.threads⟩
  simp [screenView, hp, hconnected, hfile, hdirty, hscanout, hheld, hsent, hcursor, h.cursorEvents]

theorem Pictured.grabpix {d : Device} {cmd cmd' : GrabpixCmd} {g : Grab} (h : s.Pictured P)
    (hlocked : painterGrabpixLocked cmd s.device = (d, cmd', .ok g)) :
    Pictured { s with device := d, grabs := [g], phase := .grabbing }
      { P with dirtyRects := [], held := [], grab := some g } := by
  obtain ⟨p, efb, hp, hefb, -, rfl, rfl⟩ := painterGrabpixLocked_ok hlocked
  obtain ⟨p', hp', hconnected, hfile, -, hscanout, -⟩ := h.painter
  obtain rfl : p = p' := Option.some.inj (hp.symm.trans hp')
  refine ⟨?_, rfl, h.frames, h.buffer, h.threads⟩
  simp [screenView, drmFramebufferRef, hp, hconnected, hfile, hscanout, vblankPair, Device.onPainter,
    Device.onDrm, h.sent_eq, h.cursorEvents]

theorem Pictured.grabpixDone {g : Grab} {buffer : UserRegion} (h : s.Pictured P) :
    Pictured { s with
        device := painterGrabpixFinish g s.device, grabs := [], buffer := buffer, phase := .idle }
      { P with grab := none, sent := P.sent ++ g.vblanks, buffer := buffer } := by
  obtain ⟨p, hp, hconnected, hfile, hdirty, hscanout, hheld⟩ := h.painter
  refine ⟨?_, rfl, h.frames, rfl, h.threads⟩
  rw [painterGrabpixFinish, sendVblank_eq]
  simp [screenView, drmFramebufferRef, hp, hconnected, hfile, hdirty, hscanout, hheld, Device.onDrm,
    h.sent_eq, h.cursorEvents, Grab.vblanks]

/-- **Beside a commit**, the scene does what may happen in the picture, or nothing that is in it. -/
theorem Pictured.beside (h : s.Pictured P) (hP : P.Sound stride rest) (hstep : Beside stride s a t) :
    ∃ P', t.Pictured P' ∧ (P' = P ∨ P.Beside stride P') := by
  cases hstep with
  | @requestUpdate d ret hphase heq =>
    refine ⟨P, ⟨?_, h.grabs, h.frames, h.buffer, h.threads⟩, .inl rfl⟩
    refine Eq.trans ?_ h.view
    obtain rfl := (congrArg Prod.fst heq).symm
    show screenView (painterRequestUpdateIoctl s.device).1 = screenView s.device
    rcases painterRequestUpdateIoctl_device s.device with hsame | hset
    · rw [hsame]
    · rw [hset]
      exact screenView_onPainter _ fun _ => ⟨rfl, rfl, rfl, rfl, rfl, rfl⟩
  | readEvent he => exact ⟨P, ⟨h.view, h.grabs, h.frames, h.buffer, h.threads⟩, .inl rfl⟩
  | @grabpix d cmd cmd' g hphase hgrabs hstride hlocked =>
    refine ⟨_, h.grabpix hlocked, .inr ?_⟩
    obtain ⟨p, efb, hp, hefb, rfl, -, rfl⟩ := painterGrabpixLocked_ok hlocked
    obtain ⟨p', hp', -, -, hdirty, hscanout, hheld⟩ := h.painter
    obtain rfl : p = p' := Option.some.inj (hp.symm.trans hp')
    have hnone : P.grab = none := by
      have hgrab := h.grabs
      rw [hgrabs] at hgrab
      exact Option.toList_eq_nil_iff.1 hgrab.symm
    refine .lock hnone ?_ ?_ hheld hstride
    · exact Option.some.inj (hefb.symm.trans hscanout)
    · rw [← hdirty]
      exact covered_shrinkDirtyRects _ _
  | @grabpixDone g env hgrabs huser hmemory hret =>
    refine ⟨_, h.grabpixDone, .inr ?_⟩
    have hgrab : P.grab = some g := by
      have hlist := h.grabs
      rw [hgrabs] at hlist
      cases hP : P.grab with
      | none => simp [hP] at hlist
      | some g' =>
        rw [hP, Option.toList_some] at hlist
        exact congrArg some (List.singleton_inj.1 hlist).symm
    obtain ⟨hkept, hstride⟩ := hP.grab g hgrab
    have hsuits := hP.suits hkept
    obtain ⟨hinside, hcopy⟩ := grabpixCopy_overwrites hsuits.admitted hsuits.not_xe hsuits.stride_ge
      (fun r _ => hsuits.copyFits r) hstride h.cursorEvents hret
    rw [huser, hmemory, h.buffer, h.frames] at hcopy
    exact .done hgrab hinside hcopy
  | @ddcciResponse d cmd ret user kzalloc heq =>
    refine ⟨P, h.unseen ?_, .inl rfl⟩
    obtain rfl := (congrArg Prod.fst heq).symm
    obtain ⟨buffer, length, received, heq'⟩ := painterDdcciResponseIoctl_device user kzalloc cmd s.device
    show screenView (painterDdcciResponseIoctl user kzalloc cmd s.device).1 = _
    rw [heq']
    exact screenView_onPainter _ fun _ => ⟨rfl, rfl, rfl, rfl, rfl, rfl⟩
  | @thread d ts hpool =>
    obtain ⟨hdevice, hts⟩ := hpool.uses (fun _ => ScreenThread.uses) h.threads
    refine ⟨P, ⟨?_, h.grabs, h.frames, h.buffer, hts⟩, .inl rfl⟩
    refine Eq.trans ?_ h.view
    rcases hdevice with rfl | ⟨f, hf, rfl⟩
    · rfl
    · exact hf.1 s.device
  | switchConsole console => exact ⟨P, h.unseen rfl, .inl rfl⟩
  | draw obj memory hobj =>
    refine ⟨{ P with toFrames := P.toFrames.draw obj memory },
      ⟨h.view, h.grabs, ?_, h.buffer, h.threads⟩, .inr (.draw obj memory ?_)⟩
    · exact congrArg (fun F => Frames.draw F obj memory) h.frames
    · rw [← h.frames, ← h.sent_eq]
      exact hobj

/-! ### Commits in the picture -/

/-- An assertion about pictures that what goes on beside a commit keeps. -/
structure Stage (stride : ℕ) (A : Picture → Prop) : Prop where
  sound : ∀ P, A P → ∃ rest, P.Sound stride rest
  beside : ∀ P P', A P → P.Beside stride P' → A P'

/-- The commit under way shows `fb` for `old`, with the event `e`. -/
def Commits (fb old : Framebuffer) (e : VblankEvent) (P : Picture) : Prop :=
  P.front = fb ∧ P.old = old ∧ P.event = some e

variable {fb old : Framebuffer} {e : VblankEvent} {damage : Set Pixel} {A : Picture → Prop}

theorem Commits.beside {P' : Picture} (h : Commits fb old e P) (hstep : P.Beside stride P') :
    Commits fb old e P' := by
  cases hstep <;> exact h

theorem stage_before : Stage stride fun P => P.Before stride damage ∧ Commits fb old e P where
  sound _ h := ⟨_, h.1.sound⟩
  beside _ _ h hstep := ⟨h.1.beside hstep, h.2.beside hstep⟩

theorem stage_during : Stage stride fun P => P.During stride rest ∧ Commits fb old e P where
  sound _ h := ⟨_, h.1.sound⟩
  beside _ _ h hstep := ⟨h.1.beside hstep, h.2.beside hstep⟩

theorem stage_marked : Stage stride fun P => P.Marked stride ∧ Commits fb old e P where
  sound _ h := ⟨_, h.1.sound⟩
  beside _ _ h hstep := ⟨h.1.beside hstep, h.2.beside hstep⟩

theorem stage_rested : Stage stride fun P => P.Rested stride where
  sound _ h := ⟨_, h.sound⟩
  beside _ _ h hstep := h.beside hstep

/-- The scene shows a picture of which the assertion holds. -/
def Shows (A : Picture → Prop) (s : Scene) : Prop := ∃ P, s.Pictured P ∧ A P

theorem Shows.rely (hA : Stage stride A) (h : s.Shows A) (hothers : Others stride s t) : t.Shows A := by
  induction hothers with
  | refl => exact h
  | tail _ hstep ih =>
    obtain ⟨P, hP, hAP⟩ := ih
    obtain ⟨a, hstep⟩ := hstep
    obtain ⟨rest, hsound⟩ := hA.sound P hAP
    obtain ⟨P', hP', rfl | hbeside⟩ := hP.beside hsound hstep
    · exact ⟨_, hP', hAP⟩
    · exact ⟨P', hP', hA.beside P P' hAP hbeside⟩

/-- A program that the screen does not see. -/
theorem under_unseen {α : Type} {p : Prog Device α} (hA : Stage stride A) (hp : p.Uses Unseen)
    (hs : s.Shows A) : (onDevice p).Under (Others stride) (fun _ => Shows A) s := by
  refine Prog.under_zoom_of_uses (fun _ _ h ht => h.rely hA ht) (fun f hf t ht => ?_) hp hs
  obtain ⟨P, hP, hAP⟩ := ht
  exact ⟨P, hP.unseen (hf t.device), hAP⟩

/-- A section that changes the picture. -/
theorem under_modify {f : Device → Device} {B : Picture → Prop} (hA : Stage stride A) (hs : s.Shows A)
    (hf : ∀ t P, Pictured t P → A P → Shows B { t with device := f t.device }) :
    (onDevice (.modify f)).Under (Others stride) (fun _ => Shows B) s := by
  refine Prog.under_zoom_modify fun t ht => ?_
  obtain ⟨P, hP, hAP⟩ := hs.rely hA ht
  exact hf t P hP hAP

theorem uses_modeChangedNotify (mode : DisplayMode) : (painterModeChangedNotify mode).Uses Unseen := by
  refine Prog.Uses.bind (Prog.uses_read sendKinds_unseen.read) fun fb => ?_
  cases fb with
  | none => exact Prog.uses_pure _
  | some fb =>
    refine Prog.Uses.bind (sendKinds_unseen.send (fun _ => .modeChanged _ _ _ _ _) (by simp)) fun _ => ?_
    exact Prog.uses_modify (unseen_onPainter fun _ => ⟨rfl, rfl, rfl, rfl, rfl, rfl⟩)

theorem uses_cursorShow (fb : Option Framebuffer) (env : CursorEnv) : (cursorShow fb env).Uses Unseen := by
  cases fb with
  | none => exact Prog.uses_modify (unseen_cursorEnable _)
  | some fb =>
    refine Prog.Uses.bind (Prog.uses_modify fun d => ?_) fun _ => Prog.uses_modify (unseen_cursorEnable _)
    exact unseen_cursorSetGem _ _

/-- **An update of the cursor's plane** is not in the picture of a client with cursor events. -/
theorem under_cursorAtomicUpdate (hA : Stage stride A) (o n : PlaneState) (env : CursorEnv)
    (hs : s.Shows A) :
    (onDevice (cursorAtomicUpdate o n env)).Under (Others stride) (fun _ => Shows A) s := by
  refine Prog.Under.zoom_bind (Prog.under_zoom_read (fun _ => rfl) fun t₁ h₁ => ?_)
  have hs₁ := hs.rely hA h₁
  have hcursor : (Prog.modify (cursorMove n.crtcX n.crtcY)).Uses Unseen := Prog.uses_modify fun _ => rfl
  refine Prog.Under.zoom_bind ((under_unseen hA hcursor hs₁).mono fun _ t₂ hs₂ => ?_)
  refine Prog.Under.zoom_bind ((under_unseen hA (Prog.uses_when (uses_cursorShow n.fb env)) hs₂).mono
    fun _ t₃ hs₃ => ?_)
  refine Prog.Under.zoom_bind (Prog.under_zoom_read (fun _ => rfl) fun t₄ h₄ => ?_)
  have hs₄ := hs₃.rely hA h₄
  obtain ⟨P, hP, -⟩ := hs₄
  rw [hP.cursorEvents]
  have hset : (painterSendCursorSet env.gemHandle).Uses Unseen :=
    sendKinds_unseen.send _ fun d => cursorSetEvent_ne _ _
  have hmove : painterSendCursorMove.Uses Unseen := sendKinds_unseen.send _ fun d => by simp
  exact under_unseen hA (Prog.Uses.bind (Prog.uses_when hset) fun _ => Prog.uses_when hmove)
    (hs₃.rely hA h₄)

theorem Pictured.markDirty (h : s.Pictured P) (rect : ClipRect) :
    Pictured { s with device := painterMarkDirty rect s.device } { P with
      dirtyRects := addDirtyRect P.dirtyRects
        (framebufferSanitizeRect P.scanout.width P.scanout.height rect) } := by
  obtain ⟨p, hp, hconnected, hfile, hdirty, hscanout, hheld⟩ := h.painter
  have hmark : p.markDirty rect = { p with
      dirtyRects := addDirtyRect P.dirtyRects
        (framebufferSanitizeRect P.scanout.width P.scanout.height rect) } := by
    simp [Painter.markDirty, hscanout, hdirty]
  refine h.of_painter (p := p.markDirty rect) ?_ ?_ ?_ ?_ ?_ ?_ h.sent_eq rfl h.grabs rfl rfl
  · simp [painterMarkDirty, hp]
  all_goals
    rw [hmark]
  · exact hconnected
  · exact hfile
  · exact hscanout
  · exact hheld

theorem Pictured.swap (h : s.Pictured P) (fb : Framebuffer) :
    Pictured { s with device := (swapScanoutBuffer (some fb) s.device).1 } { P with scanout := fb } := by
  obtain ⟨p, hp, hconnected, hfile, hdirty, -, hheld⟩ := h.painter
  exact h.of_painter (p := { p with scanoutFb := some fb }) (by simp [swapScanoutBuffer, hp]) hconnected
    hfile hdirty rfl hheld h.sent_eq rfl h.grabs rfl rfl

theorem Pictured.setVblank (h : s.Pictured P) (c : Crtc) (e : VblankEvent) :
    Pictured { s with device := painterSetVblank (some c) (some e) s.device } (P.setVblank c e) := by
  obtain ⟨p, hp, hconnected, hfile, hdirty, hscanout, hheld⟩ := h.painter
  have hsend : painterSendVblank s.device =
      (s.device.onDrm fun drm => { drm with sentVblanks := drm.sentVblanks ++ P.held }).onPainter
        fun p => { p with crtc := none, vblank := none } := by
    rw [painterSendVblank, hp, ← hheld]
    dsimp only
    rw [sendVblank_eq]
  by_cases hnil : P.dirtyRects = []
  · have hnone : ¬ (p.numDirts > 0 ∧ p.isConnected = true) := by simp [Painter.numDirts, hdirty, hnil]
    rw [Picture.setVblank, if_pos hnil]
    refine h.of_painter (p := { p with crtc := none, vblank := none }) ?_ hconnected hfile hdirty hscanout
      rfl ?_ ?_ h.grabs rfl rfl
    all_goals
      rw [painterSetVblank, hp]
      dsimp only
      rw [if_neg hnone, hsend, sendVblank_eq]
    · simp [hp]
    · simp [vblankPair, h.sent_eq]
    · rfl
  · have hsome : p.numDirts > 0 ∧ p.isConnected = true :=
      ⟨by simp [Painter.numDirts, hdirty, List.length_pos_iff, hnil], hconnected⟩
    rw [Picture.setVblank, if_neg hnil]
    refine h.of_painter (p := { p with crtc := some c, vblank := some e }) ?_ hconnected hfile hdirty
      hscanout rfl ?_ ?_ h.grabs rfl rfl
    all_goals
      rw [painterSetVblank, hp]
      dsimp only
      rw [if_pos hsome, hsend]
    · simp [hp]
    · simp [h.sent_eq]
    · rfl

/-- **The flip** of a commit. -/
theorem under_setScanoutBuffer (hs : s.Shows fun P => P.Before stride damage ∧ Commits fb old e P) :
    (onDevice (painterSetScanoutBuffer (some fb))).Under (Others stride)
      (fun _ => Shows fun P => P.During stride damage ∧ Commits fb old e P) s := by
  have href (fb : Framebuffer) (n : ℤ) : (Prog.modify (drmFramebufferRef fb n)).Uses Unseen :=
    Prog.uses_modify fun _ => rfl
  refine Prog.Under.zoom_bind ((under_unseen stage_before (href fb 1) hs).mono fun _ t₁ hs₁ => ?_)
  refine Prog.Under.zoom_bind (Prog.under_zoom_act fun t₂ h₂ => ?_)
  obtain ⟨P, hP, hbefore, hfront, hold, hevent⟩ := hs₁.rely stage_before h₂
  have hflipped : Shows (fun P => P.During stride damage ∧ Commits fb old e P)
      { t₂ with device := (swapScanoutBuffer (some fb) t₂.device).1 } := by
    refine ⟨{ P with scanout := fb }, hP.swap fb, ?_, hfront, hold, hevent⟩
    rw [← hfront]
    exact hbefore.flip
  cases (swapScanoutBuffer (some fb) t₂.device).2 with
  | none => exact hflipped
  | some oldfb => exact under_unseen stage_during (href oldfb (-1)) hflipped

/-- **The marks** of a commit: after each of them, less is left to be marked. -/
theorem under_marks (rects : List DrmRect) (hrects : ∀ r ∈ rects, r.Inside fb)
    (hs : s.Shows fun P => P.During stride (damagePixels rects) ∧ Commits fb old e P) :
    (onDevice (Prog.each (fun rect => .modify (painterMarkDirty rect.toClip)) rects)).Under (Others stride)
      (fun _ => Shows fun P => P.During stride ∅ ∧ Commits fb old e P) s := by
  induction rects generalizing s with
  | nil =>
    have hnone : damagePixels [] = ∅ := Absorption.cover_nil
    rw [hnone] at hs
    exact hs
  | cons r rs ih =>
    refine Prog.Under.zoom_bind ((under_modify stage_during hs fun t P hP hduring => ?_).mono
      fun _ t ht => ih (fun r hr => hrects r (List.mem_cons_of_mem _ hr)) ht)
    obtain ⟨hduring, hfront, hold, hevent⟩ := hduring
    refine ⟨_, hP.markDirty r.toClip, hduring.mark ?_, hfront, hold, hevent⟩
    -- what the rectangle covers is marked, and the rest is still to be
    have hpixels : (framebufferSanitizeRect P.scanout.width P.scanout.height r.toClip).pixels =
        r.pixels := by
      rw [hduring.shown, hfront]
      exact pixels_sanitize_toClip (hrects r List.mem_cons_self) (hfront ▸ hduring.sound.front.admitted)
    have hcover := covered_addDirtyRect P.dirtyRects
      (framebufferSanitizeRect P.scanout.width P.scanout.height r.toClip)
    rw [hpixels] at hcover
    rw [damagePixels, Absorption.cover_cons, ← Set.union_assoc]
    exact Set.union_subset_union_left _ hcover

/-- What `num_dirts` says, and still does after others have run: without damage the marks are done, and with
damage nothing is amiss. -/
theorem under_getNumDirts (hs : s.Shows fun P => P.During stride ∅ ∧ Commits fb old e P) :
    (onDevice (.read painterGetNumDirts)).Under (Others stride)
      (fun n => Shows fun P => (P.During stride ∅ ∧ Commits fb old e P) ∧ (n ≠ 0 → P.Marked stride)) s := by
  refine Prog.under_zoom_read (fun _ => rfl) fun t ht => ?_
  obtain ⟨P, hP, hduring, hcommits⟩ := hs.rely stage_during ht
  refine ⟨P, hP, ⟨hduring, hcommits⟩, fun hn => hduring.marked fun hnil => hn ?_⟩
  obtain ⟨p, hp, -, -, hdirty, -⟩ := hP.painter
  simp [painterGetNumDirts, hp, Painter.numDirts, hdirty, hnil]

/-- **An update of the primary plane**: from the last framebuffer to the new one, with its damage marked. -/
theorem under_planeAtomicUpdate (o n : PlaneState) (rects : List DrmRect)
    (hold : o.fb = some old) (hnew : n.fb = some fb) (hrects : ∀ r ∈ rects, r.Inside fb)
    (hs : s.Shows fun P => P.Before stride (damagePixels rects) ∧ Commits fb old e P) :
    (onDevice (planeAtomicUpdate o n rects)).Under (Others stride)
      (fun _ => Shows fun P => P.Marked stride ∧ Commits fb old e P) s := by
  refine Prog.Under.zoom_bind ((under_unseen stage_before (sendKinds_unseen.notifyCrtcChange o n) hs).mono
    fun _ t₁ hs₁ => ?_)
  rw [hnew]
  have hforce : (Prog.when (forcesModeset o n fb) (.modify painterForceFullModeset)).Uses Unseen :=
    Prog.uses_when (Prog.uses_modify (unseen_onPainter fun _ => ⟨rfl, rfl, rfl, rfl, rfl, rfl⟩))
  refine Prog.Under.zoom_bind ((under_unseen stage_before hforce hs₁).mono fun _ t₂ hs₂ => ?_)
  refine Prog.Under.zoom_bind (Prog.under_zoom_read (fun _ => rfl) fun t₃ h₃ => ?_)
  have hs₃ := hs₂.rely stage_before h₃
  refine Prog.Under.zoom_bind (Prog.Under.mono
    (Q := fun _ => Shows fun P => P.During stride ∅ ∧ Commits fb old e P) ?_ fun _ t₄ hs₄ => ?_)
  · refine Prog.under_zoom_when (fun _ => ?_) fun hskip => ?_
    · refine Prog.Under.zoom_bind ((under_setScanoutBuffer hs₃).mono fun _ t₄ hs₄ => ?_)
      exact under_marks rects hrects hs₄
    · -- the same framebuffer again
      have hsame : fb = old := by simp_all
      obtain ⟨P, hP, hbefore, hfront, hold', hevent⟩ := hs₃
      have hstill : P.front = P.old := hfront.trans (hsame.trans hold'.symm)
      exact ⟨P, hP, (hbefore.still hstill).during, hfront, hold', hevent⟩
  · refine Prog.Under.zoom_bind ((under_getNumDirts hs₄).mono fun numDirts t₅ hs₅ => ?_)
    obtain ⟨P, hP, hduring, hmarked⟩ := hs₅
    refine Prog.under_zoom_when (fun _ => ?_) fun hn => ?_
    · refine under_modify stage_during ⟨P, hP, hduring⟩ fun t P hP hduring => ?_
      obtain ⟨hduring, hcommits⟩ := hduring
      refine ⟨_, hP.markDirty fb.fullscreenRect, (hduring.mark ?_).marked (addDirtyRect_ne_nil _ _), hcommits⟩
      rw [Set.union_empty, Set.union_empty]
      exact Set.subset_union_left.trans (covered_addDirtyRect P.dirtyRects _)
    · exact ⟨P, hP, hmarked (by simpa using hn), hduring.2⟩

/-- Updates of the cursor's plane. -/
theorem under_cursorUpdates (hA : Stage stride A) (us : List PlaneUpdate)
    (hus : ∀ u ∈ us, u.isCursor = true) (hs : s.Shows A) :
    (onDevice (Prog.each PlaneUpdate.run us)).Under (Others stride) (fun _ => Shows A) s := by
  induction us generalizing s with
  | nil => exact hs
  | cons u us ih =>
    have hrest := fun u hu => hus u (List.mem_cons_of_mem _ hu)
    cases u with
    | primary o n rects => exact absurd (hus _ List.mem_cons_self) Bool.false_ne_true
    | cursor o n env =>
      exact Prog.Under.zoom_bind ((under_cursorAtomicUpdate hA o n env hs).mono fun _ t ht => ih hrest ht)

/-- **The updates** of a commit that flips. -/
theorem under_flipUpdates {rects : List DrmRect} (us : List PlaneUpdate) (hus : FlipUpdates old fb rects us)
    (hrects : ∀ r ∈ rects, r.Inside fb)
    (hs : s.Shows fun P => P.Before stride (damagePixels rects) ∧ Commits fb old e P) :
    (onDevice (Prog.each PlaneUpdate.run us)).Under (Others stride)
      (fun _ => Shows fun P => P.Marked stride ∧ Commits fb old e P) s := by
  induction us generalizing s with
  | nil => exact hus.elim
  | cons u us ih =>
    cases u with
    | primary o n rects' =>
      obtain ⟨hold, hnew, rfl, hrest⟩ := hus
      exact Prog.Under.zoom_bind ((under_planeAtomicUpdate o n rects' hold hnew hrects hs).mono
        fun _ t ht => under_cursorUpdates stage_marked us hrest ht)
    | cursor o n env =>
      exact Prog.Under.zoom_bind ((under_cursorAtomicUpdate stage_before o n env hs).mono
        fun _ t ht => ih hus ht)

/-- **The flush** of a commit hands over its event. -/
theorem under_crtcAtomicFlush (crtc : Crtc) (state : CrtcState) (hevent : state.event = some e)
    (hs : s.Shows fun P => P.Marked stride ∧ Commits fb old e P) :
    (onDevice (crtcAtomicFlush crtc state)).Under (Others stride) (fun _ => Shows (·.Rested stride)) s := by
  refine Prog.Under.zoom_bind (Prog.under_zoom_read (fun _ => rfl) fun t₁ h₁ => ?_)
  refine Prog.Under.zoom_bind (Prog.under_zoom_read (fun _ => rfl) fun t₂ h₂ => ?_)
  have hs₂ := (hs.rely stage_marked h₁).rely stage_marked h₂
  refine Prog.Under.zoom_bind ((under_unseen stage_marked
    (Prog.uses_when (uses_modeChangedNotify state.adjustedMode)) hs₂).mono fun _ t₃ hs₃ => ?_)
  refine Prog.Under.zoom_bind ((under_unseen stage_marked
    (Prog.uses_when (sendKinds_unseen.dpmsNotify _)) hs₃).mono fun _ t₄ hs₄ => ?_)
  rw [hevent]
  refine Prog.Under.zoom_bind ((under_modify stage_marked hs₄ fun t P hP hmarked => ?_).mono
    fun _ t₅ hs₅ => under_unseen stage_rested (Prog.uses_act unseen_updateReadyIfNeeded) hs₅)
  exact ⟨_, hP.setVblank crtc e, hmarked.1.setVblank hmarked.2.2.2⟩

/-- **A commit** leaves the new framebuffer shown, and its event on its way. -/
theorem under_commitRun {rects : List DrmRect} (c : Commit) (hflips : c.Flips old fb rects)
    (hrects : ∀ r ∈ rects, r.Inside fb) (hevent : c.state.event = some e)
    (hs : s.Shows fun P => P.Before stride (damagePixels rects) ∧ Commits fb old e P) :
    (onDevice c.run).Under (Others stride) (fun _ => Shows (·.Rested stride)) s := by
  refine Prog.Under.zoom_bind (Prog.Under.mono
    (Q := fun _ => Shows fun P => P.Marked stride ∧ Commits fb old e P) ?_
    fun _ t ht => under_crtcAtomicFlush c.crtc c.state hevent ht)
  rcases hflips with hflip | ⟨hsame, hcursor⟩
  · exact under_flipUpdates c.updates hflip hrects hs
  · refine under_cursorUpdates stage_marked c.updates hcursor ?_
    obtain ⟨P, hP, hbefore, hfront, hold, he⟩ := hs
    exact ⟨P, hP, hbefore.still (hfront.trans (hsame.trans hold.symm)), hfront, hold, he⟩

/-- With nothing in between, a program on the device leaves the rest alone. -/
theorem exec_onDevice {α : Type} (p : Prog Device α) (s : Scene) : (onDevice p).exec s =
    ({ s with device := (p.exec s.device).1 }, (p.exec s.device).2) := by
  induction p generalizing s with
  | pure a => rfl
  | sec f k ih => exact ih s.device { s with device := f s.device }

/-! ### A client that waits -/

/-- Events can be allocated; the client makes one call at a time; and when it waits, the driver knows, or has an
`UPDATE_READY` event for it. -/
structure Waits (s : Scene) : Prop where
  plenty : Sessions.AllocationsSucceed s.device
  read_le : s.read ≤ s.device.drm.delivered.length
  single : s.phase ≠ .grabbing → s.grabs = []
  waiting : s.phase = .waiting → requested s.device = true ∨ 0 < s.unread

theorem plenty_of_drop {d d' : Device} (h : Sessions.AllocationsSucceed d)
    (hk : ∃ n, d'.drm.kzalloc = d.drm.kzalloc.drop n) : Sessions.AllocationsSucceed d' := by
  obtain ⟨n, hn⟩ := hk
  intro i
  rw [hn, Stream'.get_drop]
  exact h _

/-- A step that has nothing to do with requests and `UPDATE_READY` events. -/
theorem Waits.of_silent (h : s.Waits) (hkeeps : Keeps s.device t.device) (hsilent : Silent s.device t.device)
    (hread : t.read = s.read) (hsingle : t.phase ≠ .grabbing → t.grabs = [])
    (hphase : t.phase = .waiting → s.phase = .waiting) : t.Waits where
  plenty := plenty_of_drop h.plenty hkeeps.kzalloc
  read_le := by
    rw [hread]
    exact h.read_le.trans hsilent.delivered.length_le
  single := hsingle
  waiting hwaiting := by
    have hunread : t.unread = s.unread := by
      rw [unread, hread]
      exact Protocol.unread_eq (n := 0) h.read_le hsilent.delivered hsilent.queue
    rw [hsilent.requested_eq, hunread]
    exact h.waiting (hphase hwaiting)

/-- The client reads the next event. -/
theorem Waits.readEvent {e : PendingEvent} (h : s.Waits) (he : s.device.drm.delivered[s.read]? = some e) :
    Waits { s with phase := Phase.told s.phase e, read := s.read + 1 } := by
  obtain ⟨hlt, hget⟩ := List.getElem?_eq_some_iff.1 he
  have hunread : s.unread = updateReadys [e] +
      unread { s with phase := Phase.told s.phase e, read := s.read + 1 } := by
    have hlt' : s.read < s.device.queue.length := by
      rw [Device.queue, List.length_append]
      omega
    have hhead : s.device.queue[s.read] = e := by
      rw [← hget]
      exact List.getElem_append_left hlt
    rw [unread, unread, List.drop_eq_getElem_cons hlt', hhead, ← updateReadys_append]
    rfl
  rw [updateReadys_singleton] at hunread
  refine ⟨h.plenty, hlt, fun hgrabbing => h.single fun hphase => hgrabbing ?_, fun hwaiting => ?_⟩
  · show Phase.told s.phase e = .grabbing
    rw [hphase, Phase.told, if_neg fun hboth => absurd hboth.1 (by decide)]
  · -- only a client that waits is still waiting, and what it has read was another event
    have htold : Phase.told s.phase e = .waiting := hwaiting
    unfold Phase.told at htold
    split_ifs at htold with hready
    rw [if_neg fun heq => hready ⟨htold, heq⟩, Nat.zero_add] at hunread
    rcases h.waiting htold with hrequested | hpos
    · exact .inl hrequested
    · exact .inr (hunread ▸ hpos)

theorem Waits.requestUpdate {d : Device} {ret : ℤ} (h : s.Waits) (hphase : s.phase = .idle)
    (heq : painterRequestUpdateIoctl s.device = (d, ret)) :
    Waits { s with device := d, phase := Phase.asked ret } := by
  have hgrabs := h.single (by simp [hphase])
  have hkernel : d.drm = s.device.drm := by
    obtain rfl := (congrArg Prod.fst heq).symm
    show (painterRequestUpdateIoctl s.device).1.drm = s.device.drm
    rcases painterRequestUpdateIoctl_device s.device with hsame | hset
    · rw [hsame]
    · rw [hset]
      rfl
  refine ⟨fun i => ?_, ?_, fun _ => hgrabs, fun hwaiting => .inl ?_⟩
  · show d.drm.kzalloc.get i = true
    rw [hkernel]
    exact h.plenty i
  · show s.read ≤ d.drm.delivered.length
    rw [hkernel]
    exact h.read_le
  · -- only an answer of 0 makes the client wait
    have hasked : Phase.asked ret = .waiting := hwaiting
    unfold Phase.asked at hasked
    split_ifs at hasked with hzero
    subst hzero
    exact Sessions.requested_of_answer heq

theorem Waits.beside (h : s.Waits) (hthreads : ∀ p ∈ s.threads, p.Uses BesideSection)
    (hstep : Beside stride s a t) : t.Waits := by
  cases hstep with
  | requestUpdate hphase heq => exact h.requestUpdate hphase heq
  | readEvent he => exact h.readEvent he
  | @grabpix d cmd cmd' g hphase hgrabs hstride hlocked =>
    obtain rfl := (congrArg Prod.fst hlocked).symm
    exact h.of_silent (keeps_grabpixLocked cmd s.device)
      (silent_of_view (announceView_grabpixLocked cmd s.device)) rfl (fun hne => absurd rfl hne) (by simp)
  | @grabpixDone g env hgrabs huser hmemory hret =>
    exact h.of_silent (keeps_grabpixFinish g s.device)
      (silent_of_view (announceView_sendVblank g.crtc g.vblank s.device)) rfl (fun _ => rfl) (by simp)
  | @ddcciResponse d cmd ret user kzalloc heq =>
    obtain rfl := (congrArg Prod.fst heq).symm
    exact h.of_silent (keeps_ddcciResponse user kzalloc cmd s.device)
      (silent_of_view (announceView_ddcciResponse user kzalloc cmd s.device)) rfl h.single id
  | @thread d ts hpool =>
    obtain ⟨hdevice, -⟩ := hpool.uses (fun _ => ScreenThread.uses) hthreads
    rcases hdevice with rfl | ⟨f, hf, rfl⟩
    · exact ⟨h.plenty, h.read_le, h.single, h.waiting⟩
    · exact h.of_silent (hf.2 s.device).1 (hf.2 s.device).2 rfl h.single id
  | switchConsole console => exact ⟨h.plenty, h.read_le, h.single, h.waiting⟩
  | draw obj memory hobj => exact ⟨h.plenty, h.read_le, h.single, h.waiting⟩

/-- A section of a commit: one that takes the request back tells the client. -/
theorem Waits.commitSection {f : Device → Device} (h : s.Waits) (hf : KernelSection f)
    (hsend : canSend s.device = true) : Waits { s with device := f s.device } := by
  obtain ⟨hcommit, hannounce⟩ := hf
  rcases hcommit.advances s.device with hkeeps | hnotifies
  · rcases hannounce s.device with hsilent | hannounces
    · exact h.of_silent hkeeps hsilent rfl h.single id
    · -- the request is as it was
      have hcontra := hkeeps.requested_eq
      rw [hannounces.was_requested, hannounces.cleared] at hcontra
      exact absurd hcontra Bool.false_ne_true
  · obtain ⟨e, he, hqueue, -⟩ := hnotifies.appended hsend (h.plenty 0)
    have hdelivered : s.device.drm.delivered <+: (f s.device).drm.delivered := by
      rcases hannounce s.device with hsilent | hannounces
      · exact hsilent.delivered
      · exact hannounces.delivered
    have hcount : updateReadys (f s.device).queue = updateReadys s.device.queue + 1 := by
      rw [hqueue, updateReadys_append, updateReadys_singleton, if_pos he]
    have hunread := Protocol.unread_eq h.read_le hdelivered hcount
    refine ⟨plenty_of_drop h.plenty hnotifies.kzalloc, h.read_le.trans hdelivered.length_le, h.single,
      fun _ => .inr ?_⟩
    show 0 < updateReadys ((f s.device).queue.drop s.read)
    omega

theorem canSend_of_screenView {d d' : Device} (h : screenView d' = screenView d) :
    Evdi.canSend d' = Evdi.canSend d := by
  have hview : ∀ d : Device, Evdi.canSend d = (screenView d).1.any fun v => v.2.1 && v.1 := by
    intro d
    cases hp : d.painter <;> simp [Evdi.canSend, screenView, hp]
  rw [hview, hview, h]

theorem Beside.canSend (hthreads : ∀ p ∈ s.threads, p.Uses BesideSection) (hstep : Beside stride s a t) :
    Evdi.canSend t.device = Evdi.canSend s.device := by
  cases hstep with
  | @requestUpdate d ret hphase heq =>
    obtain rfl := (congrArg Prod.fst heq).symm
    rcases painterRequestUpdateIoctl_device s.device with hsame | hset
    · exact congrArg Evdi.canSend hsame
    · refine (congrArg Evdi.canSend hset).trans (canSend_of_screenView (screenView_onPainter _ fun _ => ?_))
      exact ⟨rfl, rfl, rfl, rfl, rfl, rfl⟩
  | readEvent he => rfl
  | @grabpix d cmd cmd' g hphase hgrabs hstride hlocked =>
    obtain ⟨p, efb, hp, -, -, rfl, -⟩ := painterGrabpixLocked_ok hlocked
    simp [Evdi.canSend, drmFramebufferRef, hp]
  | @grabpixDone g env hgrabs huser hmemory hret =>
    show Evdi.canSend (painterGrabpixFinish g s.device) = _
    rw [painterGrabpixFinish, sendVblank_eq]
    rfl
  | @ddcciResponse d cmd ret user kzalloc heq =>
    obtain rfl := (congrArg Prod.fst heq).symm
    obtain ⟨buffer, length, received, heq'⟩ := painterDdcciResponseIoctl_device user kzalloc cmd s.device
    refine (congrArg Evdi.canSend heq').trans (canSend_of_screenView (screenView_onPainter _ fun _ => ?_))
    exact ⟨rfl, rfl, rfl, rfl, rfl, rfl⟩
  | @thread d ts hpool =>
    obtain ⟨hdevice, -⟩ := hpool.uses (fun _ => ScreenThread.uses) hthreads
    rcases hdevice with rfl | ⟨f, hf, rfl⟩
    · rfl
    · exact canSend_of_screenView (hf.1 s.device)
  | switchConsole console => rfl
  | draw obj memory hobj => rfl

theorem Beside.threads (hthreads : ∀ p ∈ s.threads, p.Uses BesideSection) (hstep : Beside stride s a t) :
    ∀ p ∈ t.threads, p.Uses BesideSection := by
  cases hstep with
  | @thread d ts hpool => exact (hpool.uses (fun _ => ScreenThread.uses) hthreads).2
  | _ => exact hthreads

/-- What goes on beside a commit leaves a quiet device quiet. -/
theorem Beside.quiet (hthreads : ∀ p ∈ s.threads, p.Uses BesideSection) (hstep : Beside stride s a t)
    (hquiet : s.device.Quiet) : t.device.Quiet := by
  cases hstep with
  | @requestUpdate d ret hphase heq =>
    obtain rfl := (congrArg Prod.fst heq).symm
    exact quiet_requestUpdate hquiet
  | readEvent he => exact hquiet
  | @grabpix d cmd cmd' g hphase hgrabs hstride hlocked =>
    obtain rfl := (congrArg Prod.fst hlocked).symm
    exact quiet_grabpixLocked cmd hquiet
  | @grabpixDone g env hgrabs huser hmemory hret => exact quiet_grabpixFinish g hquiet
  | @ddcciResponse d cmd ret user kzalloc heq =>
    obtain rfl := (congrArg Prod.fst heq).symm
    exact (ClientSection.ddcciResponse user kzalloc cmd).quiet hquiet
  | @thread d ts hpool =>
    obtain ⟨hdevice, -⟩ := hpool.uses (fun _ => ScreenThread.uses) hthreads
    rcases hdevice with rfl | ⟨f, hf, rfl⟩
    · exact hquiet
    · refine hquiet.of_keeps (hf.2 s.device).1 ?_
      rw [numDirts_pos, numDirts_pos, dirtyRects_of_screenView (hf.1 s.device)]
      exact id
  | switchConsole console => exact hquiet
  | draw obj memory hobj => exact hquiet

end Scene

/-! ### Runs -/

namespace Screen

open Scene

/-- A client that has just connected, or not yet grabbed: it has cursor events, and the whole framebuffer is
damaged; and nothing is under way. -/
structure Starts (stride : ℕ) (s : Screen) : Prop where
  commit : s.commit = .pure ()
  threads : s.threads = []
  grabs : s.grabs = []
  phase : s.phase = .idle
  event : s.event = none
  old : s.old = s.front
  suits : s.front.Suits s.front.width s.front.height stride
  painter : ∃ p, s.device.painter = some p ∧ p.isConnected = true ∧ p.drmFilp.isSome = true ∧
    p.wasUpdateRequested = false ∧ p.vblank = none ∧ p.scanoutFb = some s.front ∧
    s.front.pixels ⊆ covered p.dirtyRects
  cursorEvents : s.device.cursorEventsEnabled = true
  plenty : Sessions.AllocationsSucceed s.device
  read_le : s.read ≤ s.device.drm.delivered.length

/-- The commit under way will leave the new framebuffer shown; no request waits on damage but for a commit that
is still to look; and a client that waits will be told. -/
structure Inv (stride : ℕ) (s : Screen) : Prop where
  shows : (onDevice s.commit).Under (Others stride) (fun _ => Shows (·.Rested stride)) s.toScene
  uses : s.commit.Uses KernelSection
  settles : Sessions.Settles s.device s.commit
  waits : s.Waits
  canSend : canSend s.device = true
  threads : ∀ p ∈ s.threads, p.Uses BesideSection

variable {stride : ℕ} {s t : Screen} {a : Action}

theorem Starts.inv (h : s.Starts stride) : s.Inv stride := by
  obtain ⟨p, hp, hconnected, hfile, hrequested, hvblank, hscanout, hdirty⟩ := h.painter
  have hclear : requested s.device = false := by simp [requested, hp, hrequested]
  refine ⟨?_, ?_, ?_, ⟨h.plenty, h.read_le, fun _ => h.grabs, ?_⟩, ?_, ?_⟩
  · rw [h.commit]
    let P : Picture := { s.toFrames with
      scanout := s.front, dirtyRects := p.dirtyRects, held := [], sent := s.sent, grab := none
      buffer := s.buffer }
    have hpictured : s.Pictured P := by
      refine ⟨?_, h.grabs, rfl, rfl, by simp [h.threads]⟩
      have hheld : vblankPair p.crtc p.vblank = [] := by
        rw [hvblank]
        cases p.crtc <;> rfl
      simp [screenView, P, hp, hconnected, hfile, hscanout, hheld, h.cursorEvents, Scene.sent]
    refine ⟨P, hpictured, ⟨h.suits, ?_, .inl rfl, by rintro _ ⟨⟩, ?_, by rintro _ ⟨⟩⟩, rfl, ?_⟩
    · show s.old.Suits s.front.width s.front.height stride
      rw [h.old]
      exact h.suits
    · exact fun q hq => .inr (.inl (.inl (hdirty hq)))
    · refine .sent (fun e he => ?_) rfl (by rintro _ ⟨⟩) (by rintro _ ⟨⟩)
      have hnone : s.event = some e := he
      rw [h.event] at hnone
      cases hnone
  · rw [h.commit]
    exact Prog.uses_pure ()
  · exact .inr ⟨⟨(), h.commit⟩, quiet_of_not_requested hclear⟩
  · rw [h.phase]
    simp
  · simp [Evdi.canSend, hp, hconnected, hfile]
  · simp [h.threads]

theorem Inv.beside {s' : Scene} {b : Scene.Action} (h : s.Inv stride)
    (hstep : Scene.Beside stride s.toScene b s') : { s with toScene := s' }.Inv stride where
  shows := Prog.Under.rely (fun _ _ _ => Relation.ReflTransGen.trans)
    (fun _ _ _ hshows hothers => hshows.rely stage_rested hothers) h.shows (.single ⟨b, hstep⟩)
  uses := h.uses
  settles := h.settles.imp_right fun hover => ⟨hover.1, hstep.quiet h.threads hover.2⟩
  waits := h.waits.beside h.threads hstep
  canSend := hstep.canSend h.threads ▸ h.canSend
  threads := hstep.threads h.threads

/-- **A commit starts** from the picture that the last one left. -/
theorem Inv.commit {fb : Framebuffer} {damage : List DrmRect} {e : VblankEvent} (h : s.Inv stride)
    (c : Commit) (hover : s.commit = .pure ()) (hsent : s.Sent s.sent) (hflips : c.Flips s.front fb damage)
    (hevent : c.state.event = some e) (hnew : ∀ crtc, (crtc, e) ∉ s.sent)
    (hfb : fb.Suits s.front.width s.front.height stride) (hdamage : ∀ r ∈ damage, r.Inside fb)
    (hsame : ∀ p ∈ s.front.pixels, p ∉ damagePixels damage → s.content s.front p = s.content fb p) :
    { s with front := fb, old := s.front, event := some e, commit := c.run }.Inv stride where
  shows := by
    have hshows := h.shows
    rw [hover] at hshows
    obtain ⟨P, hP, hrested⟩ := hshows
    have hsent' : P.sent = s.sent := hP.sent_eq.symm
    refine Scene.under_commitRun c hflips hdamage hevent
      ⟨{ P with front := fb, old := P.front, event := some e }, ⟨hP.view, hP.grabs, ?_, hP.buffer,
        hP.threads⟩, hrested.next ?_ ?_ ?_ ?_, rfl, ?_, rfl⟩
    · show ({ s.toFrames with front := fb, old := s.toFrames.front, event := some e } : Frames) = _
      rw [hP.frames]
    · rw [hsent', ← hP.frames]
      exact hsent
    · rw [hsent']
      exact hnew
    · rw [← hP.frames]
      exact hfb
    · rw [← hP.frames]
      exact hsame
    · show P.front = s.toFrames.front
      rw [hP.frames]
  uses := kernelThread_announces c.run (.commit c)
  settles := .inl c.run_establishes
  waits := ⟨h.waits.plenty, h.waits.read_le, h.waits.single, h.waits.waiting⟩
  canSend := h.canSend
  threads := h.threads

theorem Inv.section {f : Device → Device} {k : Device → Prog Device Unit} (h : s.Inv stride)
    (hcommit : s.commit = .sec f k) :
    { s with device := f s.device, commit := k s.device }.Inv stride := by
  obtain ⟨hshows, huses, hsettles, hwaits, hsend, hthreads⟩ := h
  rw [hcommit] at hshows huses hsettles
  refine ⟨hshows s.toScene .refl, huses.2 _, ?_, hwaits.commitSection huses.1 hsend, ?_, hthreads⟩
  · rcases hsettles with hest | ⟨⟨u, hu⟩, -⟩
    · rcases hest s.device with ⟨hpure, hquiet⟩ | hest
      · exact .inr ⟨hpure, hquiet⟩
      · exact .inl hest
    · exact absurd hu (by simp)
  · exact (huses.1.1.canSend_eq s.device).trans hsend

/-- **Every step** keeps the invariant. -/
theorem Step.inv (hstep : Step stride true s a t) (h : s.Inv stride) : t.Inv stride := by
  cases hstep with
  | beside hbeside => exact h.beside hbeside
  | commit c hover hsent hflips hevent hnew hfb hdamage hsame =>
    exact h.commit c hover (hsent rfl) hflips hevent hnew hfb hdamage hsame
  | @«section» f k hcommit => exact h.section hcommit

/-- **No tearing.** What is being grabbed, the compositor does not draw into. -/
theorem Inv.kept (h : s.Inv stride) : ∀ g ∈ s.grabs, s.Kept s.sent g.efb := by
  intro g hg
  -- what is left of the commit changes neither the framebuffers nor the grab, and sends events
  obtain ⟨P, hP, hrested⟩ := h.shows.exec fun _ => .refl
  rw [exec_onDevice] at hP
  have hgrabs : s.grabs = P.grab.toList := hP.grabs
  have hframes : s.toFrames = P.toFrames := hP.frames
  have hkept := (hrested.sound.grab g (by simpa [hgrabs] using hg)).1
  rw [← hframes] at hkept
  refine hkept.imp_right fun hold => ⟨hold.1, fun hsent => hold.2 fun e he => ?_⟩
  obtain ⟨c, hc⟩ := hsent e he
  have hmore := (h.uses.mono fun _ hf => hf.1).exec
    (R := fun d d' => d.drm.sentVblanks <+: d'.drm.sentVblanks) (fun _ hf => hf.sent_prefix)
    (fun _ => List.prefix_rfl) (fun _ _ _ => List.IsPrefix.trans) s.device
  exact ⟨c, hP.sent_eq ▸ hmore.subset hc⟩

/-- **At rest**: no commit is under way, and the client waits and has read that it need not grab. -/
def AtRest (s : Screen) : Prop := s.commit = .pure () ∧ s.phase = .waiting ∧ s.unread = 0

/-- The client has the framebuffer of the last commit. -/
def Mirrors (stride : ℕ) (s : Screen) : Prop :=
  ∀ p ∈ s.front.pixels, ∀ i : Fin 4, s.buffer.byte (clientCell stride (p, i)) = s.content s.front p i

theorem Inv.mirrors (h : s.Inv stride) (hrest : s.AtRest) :
    s.Mirrors stride ∧ s.device.painter.bind (·.scanoutFb) = some s.front ∧ s.Sent s.sent := by
  obtain ⟨hover, hwaiting, hread⟩ := hrest
  have hshows := h.shows
  have hsettles := h.settles
  rw [hover] at hshows hsettles
  obtain ⟨P, hP, hrested⟩ := hshows
  have hquiet : s.device.Quiet := hsettles.elim False.elim (·.2)
  have hrequested : requested s.device = true :=
    (h.waits.waiting hwaiting).resolve_right fun hpos => hpos.ne' hread
  have hclean : P.dirtyRects = [] := by
    rw [← hP.dirtyRects_eq]
    by_contra hne
    exact hquiet ⟨hrequested, numDirts_pos.2 hne⟩
  have hgrab : P.grab = none := by
    have hgrabs := hP.grabs
    rw [h.waits.single (by rw [hwaiting]; decide)] at hgrabs
    exact Option.toList_eq_nil_iff.1 hgrabs.symm
  obtain ⟨hcopied, hsent⟩ := hrested.copied hclean hgrab
  have hframes : s.toFrames = P.toFrames := hP.frames
  have hbuffer : s.buffer = P.buffer := hP.buffer
  obtain ⟨p, hp, -, -, -, hscanout, -⟩ := hP.painter
  refine ⟨?_, ?_, ?_⟩
  · intro q hq i
    rw [hframes] at hq ⊢
    rw [hbuffer]
    exact hcopied q hq i
  · rw [hp, Option.bind_some, hscanout, hrested.shown, hframes]
  · show s.toFrames.Sent s.device.drm.sentVblanks
    rw [hframes, hP.sent_eq]
    exact hsent

/-! ### Two sessions -/

theorem copyRows_fst_mapped (mem : Memory) (pitch stride byteSpan : ℤ) (n : ℕ) (src dst : ℤ)
    (buffer : UserRegion) :
    (copyRows mem pitch stride byteSpan n src dst buffer).1.mapped = buffer.mapped := by
  induction n generalizing src dst buffer with
  | zero => rfl
  | succ n ih =>
    rw [copyRows]
    dsimp only
    split_ifs
    · exact copyToUser_fst_mapped
    · rw [ih, copyToUser_fst_mapped]

theorem copyRects_fst_mapped (fb : Framebuffer) (mem : Memory) (stride maxX maxY : ℤ)
    (rects : List ClipRect) (buffer : UserRegion) :
    (copyRects fb mem stride maxX maxY rects buffer).1.mapped = buffer.mapped := by
  induction rects generalizing buffer with
  | nil => rfl
  | cons r rects ih =>
    rw [copyRects]
    dsimp only
    split_ifs
    · rfl
    · exact copyRows_fst_mapped _ _ _ _ _ _ _ _
    · rw [ih, copyRows_fst_mapped]

/-- The client asks. -/
def asked (s : Screen) : Screen :=
  { s with
    device := (painterRequestUpdateIoctl s.device).1
    phase := Phase.asked (painterRequestUpdateIoctl s.device).2 }

/-- A grab gets past its locked phase. -/
def locked (s : Screen) : Screen :=
  let call := painterGrabpixLocked (.sample 64 64 256 16) s.device
  { s with device := call.1, grabs := call.2.2.toOption.toList, phase := .grabbing }

/-- Nothing fails, and the client's buffer is where every pointer points. -/
def sampleEnv (s : Screen) : GrabEnv :=
  { GrabEnv.sample 0 with
    objects := fun ref => ⟨ref, none, 0, false, s.memory ref.id⟩
    user := fun _ => s.buffer }

/-- The grab under way ends. -/
def copied (s : Screen) : Screen :=
  match s.grabs with
  | [g] => { s with
      device := painterGrabpixFinish g s.device
      grabs := []
      buffer := (painterGrabpixCopy s.sampleEnv g s.device).buffer
      phase := .idle }
  | _ => s

/-- A commit, with nothing in between. -/
def committed (s : Screen) (c : Commit) (fb : Framebuffer) (e : VblankEvent) : Screen :=
  { s with
    device := (c.run.exec s.device).1
    front := fb
    old := s.front
    event := some e
    commit := .pure () }

theorem suits_sample (id : ℕ) : (Framebuffer.sample id 64 64 256).Suits 64 64 256 :=
  have hnarrow : (64 : UInt32).toNat ≤ 7680 := by decide
  have hlow : (64 : UInt32).toNat ≤ 4320 := by decide
  have hpitch : 4 * (64 : UInt32).toNat ≤ (256 : UInt32).toNat := by decide
  have hsmall : (0 : UInt32).toNat + ((256 : UInt32).toNat + 4) * 2 ^ 16 < 2 ^ 31 := by decide
  { admitted := ⟨hnarrow, hlow, hpitch⟩, not_xe := rfl, stride_ge := hpitch
    width_eq := rfl, height_eq := rfl, src_lt := hsmall, dst_lt := by decide }

/-- There is a run. -/
def Leads (stride : ℕ) (synced : Bool) (s t : Screen) : Prop := ∃ as, Run (Step stride synced) s as t

section

variable {synced : Bool}

theorem Leads.refl (s : Screen) : Leads stride synced s s := ⟨[], .nil s⟩

theorem Leads.trans {u : Screen} (h : Leads stride synced s t) (h' : Leads stride synced t u) :
    Leads stride synced s u := by
  obtain ⟨as, hrun⟩ := h
  obtain ⟨bs, hrun'⟩ := h'
  exact ⟨as ++ bs, hrun.append hrun'⟩

theorem Leads.step {u : Screen} (h : Leads stride synced s t) (hstep : ∃ a, Step stride synced t a u) :
    Leads stride synced s u := by
  obtain ⟨a, hstep⟩ := hstep
  exact h.trans ⟨_, Run.one hstep⟩

theorem step_asked (h : s.phase = .idle) : ∃ a, Step stride synced s a s.asked :=
  ⟨_, .beside (.requestUpdate h rfl)⟩

theorem step_locked (hphase : s.phase = .mustGrab) (hgrabs : s.grabs = [])
    (h : s.locked.grabs.length = 1) : ∃ a, Step 256 synced s a s.locked := by
  cases hcall : (painterGrabpixLocked (.sample 64 64 256 16) s.device).2.2 with
  | error err => simp [locked, hcall, Except.toOption] at h
  | ok g =>
    refine ⟨.beside (.grabpix (.sample 64 64 256 16)), ?_⟩
    rw [locked, hcall]
    exact .beside (.grabpix hphase hgrabs rfl (Prod.ext rfl (Prod.ext rfl hcall)))

/-- A grab of one of the sample framebuffers, with rectangles that fit. -/
def IsSample (g : Grab) : Prop :=
  g.efb = .sample g.efb.id 64 64 256 ∧ (g.cmd.bufWidth = 64 ∧ g.cmd.bufHeight = 64) ∧
    ∀ r ∈ g.dirtyRects, (r.x1 ≤ r.x2 ∧ r.y1 ≤ r.y2) ∧ r.Within g.efb

instance (g : Grab) : Decidable (IsSample g) := inferInstanceAs (Decidable (_ ∧ _ ∧ _))

theorem copy_ret {g : Grab} (hg : IsSample g) (hbuffer : UserMapped s.buffer) :
    (painterGrabpixCopy s.sampleEnv g s.device).ret = 0 := by
  obtain ⟨hefb, hcmd, hrects⟩ := hg
  have hwidth : g.cmd.bufWidth.toUInt32 = g.efb.width := by
    rw [hcmd.1, hefb]
    rfl
  have hheight : g.cmd.bufHeight.toUInt32 = g.efb.height := by
    rw [hcmd.2, hefb]
    rfl
  have hsuits : g.efb.Suits 64 64 256 := by
    rw [hefb]
    exact suits_sample g.efb.id
  have henv : s.sampleEnv.Sound g.efb := by
    rw [hefb]
    have hmapped : (0 : ℤ) ≠ -ENOMEM := by decide
    exact ⟨⟨hmapped, rfl⟩, .inl rfl, fun _ => hbuffer⟩
  have hx := toInt_of_toUInt32 hwidth (by rw [hsuits.width_eq]; decide)
  have hy := toInt_of_toUInt32 hheight (by rw [hsuits.height_eq]; decide)
  rw [(painterGrabpixCopy_ret s.device henv hwidth hheight).1, hx, hy,
    copyPrimaryPixels_mapped hsuits.admitted _ _ (fun r hr => ⟨(hrects r hr).1.1, (hrects r hr).1.2⟩)
      (henv.user _),
    if_pos (.inr fun r hr => (hrects r hr).2)]

theorem step_copied (hgrabs : s.grabs.length = 1) (hg : ∀ g ∈ s.grabs, IsSample g)
    (hbuffer : UserMapped s.buffer) : ∃ a, Step 256 synced s a s.copied := by
  obtain ⟨g, hgrab⟩ := List.length_eq_one_iff.1 hgrabs
  have hret := copy_ret (hg g (by simp [hgrab])) hbuffer
  refine ⟨.beside .grabpixDone, ?_⟩
  rw [copied, hgrab]
  exact .beside (.grabpixDone s.sampleEnv hgrab rfl rfl hret)

/-- The client's memory stays mapped. -/
theorem mapped_copied (hg : ∀ g ∈ s.grabs, IsSample g) (hbuffer : UserMapped s.buffer)
    (hcursor : s.device.cursorEventsEnabled = true) : UserMapped s.copied.buffer := by
  unfold copied
  split
  · rename_i g hgrab
    have hsample := hg g (by simp [hgrab])
    have hxe : g.efb.isFromXe = false := by
      rw [hsample.1]
      rfl
    have hcopy := painterGrabpixCopy_of_grabbable s.device
      ((painterGrabpixCopy_ret_eq_zero _ _ _).1 (copy_ret hsample hbuffer))
    intro a
    show (painterGrabpixCopy s.sampleEnv g s.device).buffer.mapped a = true
    rw [hcopy, hcursor, if_pos rfl, copyPrimaryPixels, hxe, if_neg Bool.false_ne_true,
      copyRects_fst_mapped]
    exact hbuffer a
  · exact hbuffer

theorem leads_sections (p : Prog Device Unit) (s : Screen) (hs : s.commit = p) :
    Leads stride synced s { s with device := (p.exec s.device).1, commit := .pure () } := by
  induction p generalizing s with
  | pure u =>
    obtain ⟨scene, commit⟩ := s
    obtain rfl : commit = .pure () := hs
    exact .refl _
  | sec f k ih =>
    exact (Leads.refl s).step ⟨_, .section hs⟩ |>.trans
      (ih s.device { s with device := f s.device, commit := k s.device } rfl)

theorem leads_committed {c : Commit} {fb : Framebuffer} {damage : List DrmRect} {e : VblankEvent}
    (hover : s.commit = .pure ()) (hsent : synced = true → s.Sent s.sent)
    (hflips : c.Flips s.front fb damage) (hevent : c.state.event = some e) (hnew : s.sent = [])
    (hfb : fb.Suits s.front.width s.front.height stride) (hdamage : ∀ r ∈ damage, r.Inside fb)
    (hsame : ∀ p ∈ s.front.pixels, p ∉ damagePixels damage → s.content s.front p = s.content fb p) :
    Leads stride synced s (s.committed c fb e) := by
  have hstart : Step stride synced s (.commit c)
      { s with front := fb, old := s.front, event := some e, commit := c.run } :=
    .commit c hover hsent hflips hevent (by simp [hnew]) hfb hdamage hsame
  exact ((Leads.refl s).step ⟨_, hstart⟩).trans (leads_sections c.run _ rfl)

end

/-- A commit with an event. -/
def sampleCommit (updates : List PlaneUpdate) (e : VblankEvent) : Commit where
  updates := updates
  crtc := 0
  state := ⟨true, false, false, ⟨64, 64, 60⟩, some e⟩

/-- The first of two framebuffers is shown, and the second differs in its first pixel. -/
def sample : Screen where
  device := { painterMarkDirty (Framebuffer.sample 1 64 64 256).fullscreenRect
    (Device.sample (.sample 1 64 64 256)) with cursorEventsEnabled := true }
  grabs := []
  memory := fun obj a => if obj = 2 ∧ a < 4 then 1 else 0
  front := .sample 1 64 64 256
  old := .sample 1 64 64 256
  event := none
  threads := []
  buffer := sampleUser 7
  phase := .idle
  read := 0
  commit := .pure ()

/-- The flip to the second. -/
def sampleFlip : Commit :=
  sampleCommit [.primary (.sample (some (.sample 1 64 64 256))) (.sample (some (.sample 2 64 64 256)))
    [⟨0, 0, 1, 1⟩]] 1

theorem starts_sample : sample.Starts 256 where
  commit := rfl
  threads := rfl
  grabs := rfl
  phase := rfl
  event := rfl
  old := rfl
  suits := suits_sample 1
  painter := by
    refine ⟨_, rfl, rfl, rfl, rfl, rfl, rfl, ?_⟩
    have hscanout : ((Device.sample (.sample 1 64 64 256)).painter.get rfl).scanoutFb =
        some (.sample 1 64 64 256) := rfl
    have hmark := Painter.covered_markDirty hscanout (Framebuffer.sample 1 64 64 256).fullscreenRect
    rw [pixels_sanitize_fullscreen (suits_sample 1).admitted] at hmark
    exact Set.subset_union_right.trans hmark
  cursorEvents := rfl
  plenty := fun _ => rfl
  read_le := by decide

/-- The two framebuffers differ in the first pixel only. -/
theorem same_sample (p : Pixel) (hp : p ∉ damagePixels [⟨0, 0, 1, 1⟩]) :
    sample.content (.sample 1 64 64 256) p = sample.content (.sample 2 64 64 256) p := by
  funext i
  have hcell : ¬ fbCell (.sample 2 64 64 256) (p, (i : ℕ)) < 4 := by
    intro hlt
    refine hp ⟨⟨0, 0, 1, 1⟩, List.mem_singleton_self _, ?_⟩
    simp only [fbCell, Overwrite.cell, Framebuffer.sample] at hlt
    have hx : p.1 = 0 ∧ p.2 = 0 := by
      have h0 : (0 : UInt32).toNat = 0 := rfl
      have h256 : (256 : UInt32).toNat = 256 := rfl
      rw [h0, h256] at hlt
      omega
    simp [DrmRect.pixels, hx.1, hx.2]
  have hmemory (obj : ℕ) (a : ℤ) (h : ¬ (obj = 2 ∧ a < 4)) : sample.memory obj a = 0 := by
    simp only [sample, if_neg h]
  exact (hmemory 1 _ fun h => absurd h.1 (by decide)).trans
    (hmemory 2 _ fun h => hcell (by exact_mod_cast h.2)).symm

theorem flips_sample : sampleFlip.Flips (.sample 1 64 64 256) (.sample 2 64 64 256) [⟨0, 0, 1, 1⟩] :=
  .inl ⟨rfl, rfl, rfl, by simp⟩

theorem inside_sample : ∀ r ∈ [(⟨0, 0, 1, 1⟩ : DrmRect)], r.Inside (.sample 2 64 64 256) := by
  intro r hr
  obtain rfl := List.mem_singleton.1 hr
  constructor <;> decide

/-- The grab of the first framebuffer is under way. -/
def sampleGrabbed : Screen := sample.asked.locked

/-- The second framebuffer is shown before the client grabs, and the client waits for the next. -/
def sampleFlipped : Screen :=
  (sample.committed sampleFlip (.sample 2 64 64 256) 1).asked.locked.copied.asked

/-- During the grab, the second framebuffer is shown. -/
def sampleRaced : Screen := sampleGrabbed.committed sampleFlip (.sample 2 64 64 256) 1

/-- A second commit does not wait for the event of the first, and sends it. -/
def sampleRushed : Screen := sampleRaced.committed (sampleCommit [] 2) (.sample 2 64 64 256) 2

/-- The compositor draws into the first framebuffer, which it need not keep any more. -/
def sampleTorn : Screen :=
  { sampleRushed with toFrames := sampleRushed.toFrames.draw 1 fun _ => 9 }

/-- The grab ends, and the client asks, grabs the damage, and waits. -/
def sampleStale : Screen := sampleTorn.copied.asked.locked.copied.asked

theorem leads_sampleGrabbed {synced : Bool} : Leads 256 synced sample sampleGrabbed := by
  have hasked : Leads 256 synced sample sample.asked := (Leads.refl _).step (step_asked rfl)
  refine hasked.step (step_locked ?_ rfl ?_)
  · decide +kernel
  · decide +kernel

theorem leads_sampleFlipped : Leads 256 true sample sampleFlipped := by
  have hflip : Leads 256 true sample (sample.committed sampleFlip (.sample 2 64 64 256) 1) := by
    refine leads_committed rfl ?_ flips_sample rfl ?_ (suits_sample 2) inside_sample
      fun p _ hp => same_sample p hp
    · intro _ e he
      cases he
    · decide +kernel
  refine ((hflip.step (step_asked ?_)).step (step_locked ?_ ?_ ?_)).step (step_copied ?_ ?_ ?_) |>.step
    (step_asked ?_)
  case refine_7 => exact fun _ => rfl
  all_goals decide +kernel

theorem leads_sampleTorn : Leads 256 false sample sampleTorn := by
  have hflip : Leads 256 false sampleGrabbed sampleRaced := by
    refine leads_committed rfl (by rintro ⟨⟩) flips_sample rfl ?_ (suits_sample 2) inside_sample
      fun p _ hp => same_sample p hp
    decide +kernel
  have hagain : Leads 256 false sampleRaced sampleRushed := by
    have hflips : (sampleCommit [] 2).Flips (.sample 2 64 64 256) (.sample 2 64 64 256) [] :=
      .inr ⟨rfl, by simp [sampleCommit]⟩
    refine leads_committed rfl (by rintro ⟨⟩) hflips rfl ?_ (suits_sample 2) (by simp) fun _ _ _ => rfl
    decide +kernel
  have hfree : sampleRushed.MayDraw 1 := by
    rintro fb (rfl | ⟨rfl, -⟩) <;> decide
  exact ((leads_sampleGrabbed.trans hflip).trans hagain).step ⟨_, .beside (.draw 1 (fun _ => 9) hfree)⟩

theorem leads_sampleStale : Leads 256 false sample sampleStale := by
  have htorn : ∀ g ∈ sampleTorn.grabs, IsSample g := by decide +kernel
  have hmapped : UserMapped sampleTorn.copied.buffer :=
    mapped_copied htorn (fun _ => rfl) (by decide +kernel)
  have hlocked (s : Screen) (h : UserMapped s.buffer) : UserMapped s.asked.locked.buffer := h
  refine (((leads_sampleTorn.step (step_copied ?_ htorn fun _ => rfl)).step (step_asked ?_)).step
    (step_locked ?_ ?_ ?_)).step (step_copied ?_ ?_ (hlocked _ hmapped)) |>.step (step_asked ?_)
  all_goals decide +kernel

theorem atRest_sampleFlipped : sampleFlipped.AtRest :=
  ⟨rfl, by decide +kernel, by decide +kernel⟩

theorem atRest_sampleStale : sampleStale.AtRest :=
  ⟨rfl, by decide +kernel, by decide +kernel⟩

/-- The second pixel of the client's buffer is what the compositor drew into the wrong framebuffer. -/
theorem not_mirrors_sampleStale : ¬ sampleStale.Mirrors 256 := by
  intro h
  have hpixel := h (1, 0) ⟨by decide, by decide⟩ 0
  revert hpixel
  decide +kernel

end Screen

/-- **The screen is mirrored.** Whenever no commit is under way and a client that grabs what it is told of waits,
its buffer has every pixel of the framebuffer last committed, which is scanned out, and that commit's event was
sent; and no framebuffer is drawn into while it is grabbed. There are runs with a flip that come to such a rest. A
commit that does not wait for the last one's event can leave a wrong picture at rest. -/
theorem screen_mirrored :
    (∀ (stride : ℕ) (s t : Screen) (as : List Screen.Action), s.Starts stride →
      Run (Screen.Step stride true) s as t →
      (t.AtRest → t.Mirrors stride ∧ t.device.painter.bind (·.scanoutFb) = some t.front ∧ t.Sent t.sent) ∧
        ∀ g ∈ t.grabs, ¬ t.MayDraw g.efb.obj.id) ∧
    (∃ (s t : Screen) (as : List Screen.Action), s.Starts 256 ∧ Run (Screen.Step 256 true) s as t ∧
      t.AtRest ∧ t.front ≠ s.front) ∧
    ∃ (s t : Screen) (as : List Screen.Action), s.Starts 256 ∧ Run (Screen.Step 256 false) s as t ∧
      t.AtRest ∧ ¬ t.Mirrors 256 := by
  refine ⟨?_, ?_, ?_⟩
  · intro stride s t as hs hrun
    have hinv : t.Inv stride := hrun.invariant (fun _ _ _ h hstep => hstep.inv h) hs.inv
    exact ⟨hinv.mirrors, fun g hg hdraw => hdraw g.efb (hinv.kept g hg) rfl⟩
  · obtain ⟨as, hrun⟩ := Screen.leads_sampleFlipped
    exact ⟨_, _, as, Screen.starts_sample, hrun, Screen.atRest_sampleFlipped, by decide⟩
  · obtain ⟨as, hrun⟩ := Screen.leads_sampleStale
    exact ⟨_, _, as, Screen.starts_sample, hrun, Screen.atRest_sampleStale,
      Screen.not_mirrors_sampleStale⟩

end Evdi
