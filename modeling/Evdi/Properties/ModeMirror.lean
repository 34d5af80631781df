import Evdi.Model.Modes
import Evdi.Properties.CursorMirror
import Evdi.Properties.DdcciMatch
import Evdi.Properties.ModeNotices

/-!
# The client's mode

A client draws what it grabs in the mode and the format that the last `MODE_CHANGED` event told.  In a
steady run these are the mode of the last active commit and the format of the scanout buffer, whenever no
commit is under way and no full modeset is due.

* `ModeSpared`: what all but the notification of a mode and the change of the scanout buffer leave alone;
* `Informed`, `Knows`: the last event tells the mode and the format, unless a full modeset is due;
* `under_modeChangedNotify`, `under_planeAtomicUpdate`, `under_commitRun`: what a commit leaves, whatever
  other threads do;
* `Modes.Inv`: what holds between the steps of a run;
* **`mode_mirrored`**: the result, over runs, and what an inactive commit does to it.
-/

namespace Evdi

open Atomic Transition

def modeChangedType : UInt32 := 0x80000002

/-- The scanout buffer. -/
def Device.scanout (d : Device) : Option Framebuffer := d.painter.bind (·.scanoutFb)

/-! ### What is left alone -/

/-- The last `MODE_CHANGED` event and the scanout buffer are as before or the connection has ended, and
no full modeset was called off. -/
structure ModeSpared (d d' : Device) : Prop where
  canSend : canSend d' = true → canSend d = true
  scanout : d'.scanout = d.scanout ∨ (Evdi.canSend d' = false ∧ d'.scanout = none)
  needs : painterNeedsFullModeset d = true → painterNeedsFullModeset d' = true
  answers : Plenty d → Plenty d'
  last : Evdi.canSend d' = true → lastOf modeChangedType d'.stream = lastOf modeChangedType d.stream

/-- What a notification of a mode looks at. -/
def modeView (d : Device) : Option (Bool × Option DrmFile × Option Framebuffer × Bool) :=
  d.painter.map fun p => (p.isConnected, p.drmFilp, p.scanoutFb, p.needsFullModeset)

section

variable {d d' d'' : Device}

theorem ModeSpared.refl (d : Device) : ModeSpared d d := ⟨id, .inl rfl, id, id, fun _ => rfl⟩

theorem ModeSpared.trans (h : ModeSpared d d') (h' : ModeSpared d' d'') : ModeSpared d d'' where
  canSend hd := h.canSend (h'.canSend hd)
  scanout := by
    rcases h'.scanout with heq | hgone
    · rcases h.scanout with heq' | ⟨hgone, hnone⟩
      · exact .inl (heq.trans heq')
      · refine .inr ⟨?_, heq.trans hnone⟩
        by_contra hd
        rw [Bool.not_eq_false] at hd
        exact Bool.false_ne_true (hgone.symm.trans (h'.canSend hd))
    · exact .inr hgone
  needs hd := h'.needs (h.needs hd)
  answers hd := h'.answers (h.answers hd)
  last hd := (h'.last hd).trans (h.last (h'.canSend hd))

theorem canSend_of_modeView (h : modeView d' = modeView d) : canSend d' = canSend d := by
  have hview : ∀ d : Device, canSend d = (modeView d).any fun v => v.2.1.isSome && v.1 := by
    intro d
    cases hp : d.painter <;> simp [canSend, modeView, hp]
  rw [hview, hview, h]

theorem scanout_of_modeView (h : modeView d' = modeView d) : d'.scanout = d.scanout := by
  have hview : ∀ d : Device, d.scanout = (modeView d).bind fun v => v.2.2.1 := by
    intro d
    cases hp : d.painter <;> simp [Device.scanout, modeView, hp]
  rw [hview, hview, h]

theorem needs_of_modeView (h : modeView d' = modeView d) :
    painterNeedsFullModeset d' = painterNeedsFullModeset d := by
  have hview : ∀ d : Device, painterNeedsFullModeset d = (modeView d).any fun v => v.2.2.2 := by
    intro d
    cases hp : d.painter <;> simp [painterNeedsFullModeset, modeView, hp]
  rw [hview, hview, h]

theorem modeView_onPainter {f : Painter → Painter} (d : Device)
    (hf : ∀ p, (f p).isConnected = p.isConnected ∧ (f p).drmFilp = p.drmFilp ∧
      (f p).scanoutFb = p.scanoutFb ∧ (f p).needsFullModeset = p.needsFullModeset) :
    modeView (d.onPainter f) = modeView d := by
  have hcomp : (fun p : Painter => (p.isConnected, p.drmFilp, p.scanoutFb, p.needsFullModeset)) ∘ f =
      fun p => (p.isConnected, p.drmFilp, p.scanoutFb, p.needsFullModeset) := by
    funext p
    obtain ⟨hconnected, hfile, hscanout, hneeds⟩ := hf p
    simp [hconnected, hfile, hscanout, hneeds]
  rw [modeView, modeView, Device.onPainter_painter, Option.map_map, hcomp]

theorem SendSection.modeView_eq {f : Device → Device} (h : SendSection f) (d : Device) :
    modeView (f d) = modeView d := by
  obtain ⟨g, hpainter, hg⟩ := (h.effect d).painter
  rw [modeView, modeView, hpainter, Option.map_map]
  refine congrArg (fun view => d.painter.map view) (funext fun p => ?_)
  obtain ⟨pending, work, fgConsole, hp⟩ := hg p
  rw [Function.comp_apply, hp]

theorem modeSpared_of_spares (h : modeView d' = modeView d) (hs : Spares (· = modeChangedType) d d') :
    ModeSpared d d' where
  canSend hd := (canSend_of_modeView h) ▸ hd
  scanout := .inl (scanout_of_modeView h)
  needs hd := (needs_of_modeView h).trans hd
  answers := hs.answers
  last _ := hs.last _ rfl

theorem modeSpared_of_queueView (h : modeView d' = modeView d) (hq : queueView d' = queueView d) :
    ModeSpared d d' where
  canSend hd := (canSend_of_modeView h) ▸ hd
  scanout := .inl (scanout_of_modeView h)
  needs hd := (needs_of_modeView h).trans hd
  answers hd := by
    simp only [queueView, Prod.mk.injEq] at hq
    rw [Plenty, hq.2.2.2.2.2]
    exact hd
  last _ := by rw [stream_eq_of_queueView hq]

end

/-! ### What leaves the mode alone -/

/-- A program of sections that leave the mode alone. -/
abbrev ModeLeaves {α : Type} (p : Prog Device α) : Prop := p.Preserves (fun _ => True) ModeSpared

theorem modeLeaves_read {α : Type} (f : Device → α) : ModeLeaves (.read f) :=
  fun d _ => ⟨.refl d, trivial⟩

theorem modeLeaves_modify {f : Device → Device} (h : ∀ d, modeView (f d) = modeView d)
    (hq : ∀ d, queueView (f d) = queueView d) : ModeLeaves (.modify f) :=
  Prog.preserves_modify fun d _ => modeSpared_of_queueView (h d) (hq d)

theorem modeLeaves_when {c : Bool} {p : Prog Device Unit} (h : ModeLeaves p) : ModeLeaves (.when c p) := by
  cases c with
  | false => exact Prog.preserves_pure ()
  | true => exact h

theorem modeLeaves_each {β : Type} {f : β → Prog Device Unit} (h : ∀ b, ModeLeaves (f b)) (bs : List β) :
    ModeLeaves (.each f bs) := by
  induction bs with
  | nil => exact Prog.preserves_pure ()
  | cons b bs ih => exact (h b).bind fun _ => ih

/-- What is sent without an event about the mode. -/
theorem modeLeaves_of_leaves {α : Type} {p : Prog Device α} (h : Leaves (· = modeChangedType) p)
    (huses : p.Uses SendSection) : ModeLeaves p := by
  induction p with
  | pure a => exact Prog.preserves_pure a
  | sec f k ih =>
    intro d _
    obtain ⟨hs, hk⟩ := h d trivial
    exact ⟨modeSpared_of_spares (huses.1.modeView_eq d) hs, ih d hk (huses.2 d)⟩

theorem modeLeaves_sendEvent {e : Option PendingEvent} (he : ∀ e' ∈ e, e'.event.type ≠ modeChangedType) :
    ModeLeaves (painterSendEvent e) :=
  modeLeaves_of_leaves (leaves_sendEvent he) (Ddcci.uses_sendEvent e)

theorem modeSpared_createEvent (event : Event) (d : Device) : ModeSpared d (createEvent event d).1 :=
  modeSpared_of_spares ((SendSection.create fun _ => event).modeView_eq d) (spares_createEvent event d)

/-- An event that may depend on the device. -/
theorem modeLeaves_createAndSend (event : Device → Event) (he : ∀ d, (event d).type ≠ modeChangedType) :
    ModeLeaves (Prog.act (fun d => createEvent (event d) d) >>= painterSendEvent) := by
  refine fun d _ => ⟨modeSpared_createEvent (event d) d, modeLeaves_sendEvent fun e' he' => ?_⟩
  rw [createEvent_event he']
  exact he d

theorem modeLeaves_markDirty (rect : ClipRect) : ModeLeaves (.modify (painterMarkDirty rect)) := by
  refine modeLeaves_modify (fun d => modeView_onPainter d fun p => ?_) (queueView_markDirty rect)
  unfold Painter.markDirty
  cases h : p.scanoutFb <;> simp [h]

theorem modeLeaves_dpmsNotify (mode : Int32) : ModeLeaves (painterDpmsNotify mode) := by
  refine (modeLeaves_read _).bind fun connected => ?_
  cases connected with
  | false => exact Prog.preserves_pure ()
  | true =>
    refine (modeLeaves_when (modeLeaves_modify (fun d => ?_) fun d => queueView_onPainter d)).bind
      fun _ => modeLeaves_createAndSend (fun _ => .dpms mode) fun _ => by simp [Event.type, modeChangedType]
    exact modeView_onPainter d fun _ => ⟨rfl, rfl, rfl, rfl⟩

theorem modeLeaves_notifyCrtcChange (old new : PlaneState) : ModeLeaves (notifyCrtcChange old new) := by
  unfold notifyCrtcChange
  split_ifs
  · exact modeLeaves_dpmsNotify dpmsOn
  · exact modeLeaves_dpmsNotify dpmsOff
  · exact Prog.preserves_pure ()

/-- A full modeset may be called for at any time. -/
theorem modeLeaves_forceFullModeset : ModeLeaves (.modify painterForceFullModeset) := by
  refine Prog.preserves_modify fun d _ => ⟨fun hd => ?_, .inl ?_, fun hd => ?_, id, fun _ => ?_⟩
  · cases hp : d.painter <;> simp_all [painterForceFullModeset, canSend]
  · cases hp : d.painter <;> simp [painterForceFullModeset, Device.scanout, hp]
  · cases hp : d.painter <;> simp_all [painterForceFullModeset, painterNeedsFullModeset]
  · rw [painterForceFullModeset, stream_eq_of_queueView (queueView_onPainter d)]

theorem modeView_sendVblank (crtc : Option Crtc) (vblank : Option VblankEvent) (d : Device) :
    modeView (sendVblank crtc vblank d) = modeView d := by
  rw [sendVblank_eq]
  rfl

theorem modeView_setVblank (crtc : Option Crtc) (vblank : Option VblankEvent) (d : Device) :
    modeView (painterSetVblank crtc vblank d) = modeView d := by
  have hsend : modeView (painterSendVblank d) = modeView d := by
    unfold painterSendVblank
    cases d.painter with
    | none => rfl
    | some p =>
      refine Eq.trans (modeView_onPainter _ fun _ => ?_) (modeView_sendVblank p.crtc p.vblank d)
      exact ⟨rfl, rfl, rfl, rfl⟩
  unfold painterSetVblank
  cases d.painter with
  | none => exact modeView_sendVblank crtc vblank d
  | some p =>
    dsimp only
    split_ifs
    · refine Eq.trans (modeView_onPainter _ fun _ => ?_) hsend
      exact ⟨rfl, rfl, rfl, rfl⟩
    · exact (modeView_sendVblank _ _ _).trans hsend

theorem modeLeaves_setVblank (crtc : Option Crtc) (vblank : Option VblankEvent) :
    ModeLeaves (.modify (painterSetVblank crtc vblank)) :=
  modeLeaves_modify (modeView_setVblank crtc vblank) (queueView_setVblank crtc vblank)

theorem modeLeaves_sendUpdateReadyIfNeeded : ModeLeaves painterSendUpdateReadyIfNeeded := by
  refine Prog.Preserves.atomically ?_ (fun _ _ _ _ => trivial) ModeSpared.refl fun _ _ _ => ModeSpared.trans
  refine (modeLeaves_read _).bind fun needed => ?_
  cases needed with
  | false => exact Prog.preserves_pure ()
  | true =>
    refine (modeLeaves_createAndSend (fun _ => .updateReady) fun _ => by decide).bind fun _ => ?_
    exact modeLeaves_modify (fun d => modeView_onPainter d fun _ => ⟨rfl, rfl, rfl, rfl⟩)
      fun d => queueView_onPainter d

theorem modeView_cursorSetGem (obj : Option GemRef) (d : Device) :
    modeView (cursorSetGem obj d) = modeView d := by
  have hrefs : ∀ (obj : Option GemRef) (n : ℤ) (d : Device),
      modeView (drmGemObjectRef obj n d) = modeView d := by
    intro obj n d
    cases obj <;> rfl
  show modeView (drmGemObjectRef _ (-1) (drmGemObjectRef obj 1 d)) = modeView d
  rw [hrefs, hrefs]

theorem modeView_cursorEnable (enable : Bool) (d : Device) :
    modeView (cursorEnable enable d) = modeView d := by
  cases enable with
  | false => exact modeView_cursorSetGem none _
  | true => rfl

theorem modeLeaves_cursorShow (fb : Option Framebuffer) (env : CursorEnv) :
    ModeLeaves (cursorShow fb env) := by
  have henable (enable : Bool) : ModeLeaves (.modify (cursorEnable enable)) :=
    modeLeaves_modify (modeView_cursorEnable enable) (queueView_cursorEnable enable)
  cases fb with
  | none => exact henable false
  | some fb =>
    refine (modeLeaves_modify (fun d => ?_) (queueView_cursorSet _ _ _)).bind fun _ => henable true
    exact modeView_cursorSetGem _ _

theorem modeLeaves_cursorMarkDirty (old new : PlaneState) (fb : Framebuffer) :
    ModeLeaves (cursorMarkDirty old new fb) := by
  unfold cursorMarkDirty
  split_ifs
  · exact (modeLeaves_markDirty _).bind fun _ => modeLeaves_markDirty _
  · exact (modeLeaves_read _).bind fun rect => modeLeaves_markDirty rect

/-- **An update of the cursor's plane** leaves the mode alone. -/
theorem modeLeaves_cursorAtomicUpdate (old new : PlaneState) (env : CursorEnv) :
    ModeLeaves (cursorAtomicUpdate old new env) := by
  refine (modeLeaves_read _).bind fun position => ?_
  refine Prog.Preserves.bind (modeLeaves_modify (fun d => ?_) fun d => ?_) fun _ => ?_
  · rfl
  · rfl
  refine (modeLeaves_when (modeLeaves_cursorShow new.fb env)).bind fun _ => ?_
  refine (modeLeaves_read _).bind fun enabled => ?_
  cases enabled with
  | true =>
    refine (modeLeaves_when (modeLeaves_createAndSend (fun d => cursorSetEvent d.cursor env.gemHandle)
      fun d => ?_)).bind fun _ => ?_
    · rw [cursorSetEvent_type]
      decide
    · exact modeLeaves_when (modeLeaves_createAndSend (fun d => .cursorMove d.cursor.x d.cursor.y)
        fun d => by simp [Event.type, modeChangedType])
  | false =>
    cases new.fb with
    | none => exact Prog.preserves_pure ()
    | some fb => exact modeLeaves_cursorMarkDirty old new fb

theorem modeLeaves_onPainter {f : Painter → Painter}
    (hf : ∀ p, (f p).isConnected = p.isConnected ∧ (f p).drmFilp = p.drmFilp ∧
      (f p).scanoutFb = p.scanoutFb ∧ (f p).needsFullModeset = p.needsFullModeset)
    (hq : ∀ p, (f p).pendingEvents = p.pendingEvents := by exact fun _ => rfl) :
    ModeLeaves (.modify fun d => d.onPainter f) :=
  modeLeaves_modify (fun d => modeView_onPainter d hf) fun d => queueView_onPainter d hq

/-- **The other threads** leave the mode alone. -/
theorem modeLeaves_beside (p : Prog Device Unit) (h : ModeThread p) : ModeLeaves p := by
  cases h with
  | userFramebufferDirty clips => exact modeLeaves_each (fun clip => modeLeaves_markDirty clip) clips
  | sendEventsWork =>
    have hschedule : ModeLeaves (.modify scheduleDelayedWork) :=
      modeLeaves_onPainter fun _ => ⟨rfl, rfl, rfl, rfl⟩
    refine Prog.Preserves.bind (modeLeaves_onPainter fun _ => ⟨rfl, rfl, rfl, rfl⟩) fun _ => ?_
    refine Prog.Preserves.bind (Prog.preserves_act fun d _ => ?_) fun flushedAll => ?_
    · exact modeSpared_of_spares (SendSection.flush.modeView_eq d) (spares_flush d)
    · cases flushedAll with
      | true => exact Prog.preserves_pure ()
      | false => exact hschedule
  | vtNotifier =>
    refine (modeLeaves_read _).bind fun switched => modeLeaves_when ?_
    exact (modeLeaves_dpmsNotify dpmsOff).bind fun _ => modeLeaves_forceFullModeset
  | i2c msg =>
    refine (modeLeaves_read _).bind fun accepted => ?_
    cases accepted with
    | false => exact Prog.preserves_pure ()
    | true =>
      have hreinit : ModeLeaves (.modify reinitCompletion) :=
        modeLeaves_onPainter fun _ => ⟨rfl, rfl, rfl, rfl⟩
      refine fun d _ => ⟨modeSpared_createEvent (ddcciDataEvent msg) d, ?_⟩
      refine hreinit.bind fun _ => modeLeaves_sendEvent fun e' he' => ?_
      rw [createEvent_event he']
      simp [ddcciDataEvent, Event.type, modeChangedType]

/-! ### Clients -/

theorem modeSpared_onPainter {f : Painter → Painter} (d : Device)
    (hf : ∀ p, (f p).isConnected = p.isConnected ∧ (f p).drmFilp = p.drmFilp ∧
      (f p).scanoutFb = p.scanoutFb ∧ (f p).needsFullModeset = p.needsFullModeset)
    (hq : ∀ p, (f p).pendingEvents = p.pendingEvents := by exact fun _ => rfl) :
    ModeSpared d (d.onPainter f) :=
  modeSpared_of_queueView (modeView_onPainter d hf) (queueView_onPainter d hq)

theorem modeSpared_disconnect (file : DrmFile) (d : Device) :
    ModeSpared d (painterDisconnect file d).1 := by
  rcases painterDisconnect_cases file d with heq | ⟨p, hp, hfile⟩
  · rw [heq]
    exact .refl d
  · rw [painterDisconnect_owner hp hfile]
    have hgone : canSend (painterDisconnect file d).1 = false := by
      rw [painterDisconnect_owner hp hfile]
      rfl
    rw [painterDisconnect_owner hp hfile] at hgone
    refine ⟨fun hd => ?_, .inr ⟨hgone, rfl⟩, fun hd => ?_, fun hd => hd, fun hd => ?_⟩
    · exact absurd (hgone.symm.trans hd) Bool.false_ne_true
    · rw [painterNeedsFullModeset, hp] at hd
      exact hd
    · exact absurd (hgone.symm.trans hd) Bool.false_ne_true

theorem modeSpared_grabpixLocked (cmd : GrabpixCmd) (d : Device) :
    ModeSpared d (painterGrabpixLocked cmd d).1 := by
  rcases painterGrabpixLocked_cases cmd d with ⟨err, heq, -⟩ | ⟨p, -, -, heq⟩ |
    ⟨p, efb, cmd', -, -, -, heq⟩
  · rw [heq]
    exact .refl d
  · rw [heq]
    exact modeSpared_onPainter d fun _ => ⟨rfl, rfl, rfl, rfl⟩
  · rw [heq]
    refine modeSpared_of_queueView (Eq.trans (modeView_onPainter _ fun _ => ?_) rfl) (queueView_onPainter _)
    exact ⟨rfl, rfl, rfl, rfl⟩

/-- **A call of a client** leaves the mode alone, or connects its caller, for whom a full modeset is due. -/
theorem ClientStep.modeSpared {s t : Clients} {call : ClientCall} (h : ClientStep s call t) :
    ModeSpared s.device t.device ∨
      call.Connects ∧ t.device.scanout = s.device.scanout ∧
        (Plenty s.device → Plenty t.device) ∧
        (canSend t.device = true → painterNeedsFullModeset t.device = true) := by
  cases h with
  | requestUpdate heq =>
    obtain rfl := (congrArg Prod.fst heq).symm
    refine .inl ?_
    rcases painterRequestUpdateIoctl_device s.device with heq | heq
    · rw [heq]
      exact .refl s.device
    · rw [heq]
      exact modeSpared_onPainter _ fun _ => ⟨rfl, rfl, rfl, rfl⟩
  | grabpix heq =>
    obtain rfl := (congrArg Prod.fst heq).symm
    exact .inl (modeSpared_grabpixLocked _ s.device)
  | grabpixRefused heq =>
    obtain rfl := (congrArg Prod.fst heq).symm
    exact .inl (modeSpared_grabpixLocked _ s.device)
  | @grabpixDone l r g env _ =>
    exact .inl (modeSpared_of_queueView (modeView_sendVblank _ _ _) (queueView_grabpixFinish g s.device))
  | @connect d cmd file ret user ans heq =>
    rcases painterConnectIoctl_cases user ans cmd file s.device with ⟨err, herr, -⟩ |
      ⟨edid, hcmd, -, -, -, hok⟩ | ⟨-, hdisconnect⟩
    · obtain rfl : s.device = d := congrArg Prod.fst (herr.symm.trans heq)
      exact .inl (.refl s.device)
    · obtain ⟨rfl, rfl⟩ := Prod.mk.inj (hok.symm.trans heq)
      refine .inr ⟨⟨hcmd, rfl⟩, ?_, id, fun hd => ?_⟩
      · cases hp : s.device.painter <;> simp [Device.scanout, hp, Painter.connected]
      · cases hp : s.device.painter <;>
          simp_all [canSend, painterNeedsFullModeset, Painter.connected]
    · obtain rfl : (painterDisconnect file s.device).1 = d :=
        congrArg Prod.fst (hdisconnect.symm.trans heq)
      exact .inl (modeSpared_disconnect file s.device)
  | close file =>
    refine .inl ?_
    show ModeSpared s.device (painterClose file s.device)
    rw [painterClose_eq]
    exact modeSpared_disconnect file s.device
  | ddcciResponse user kzalloc heq =>
    obtain rfl := (congrArg Prod.fst heq).symm
    obtain ⟨buffer, length, received, heq⟩ := painterDdcciResponseIoctl_device user kzalloc _ s.device
    refine .inl ?_
    dsimp only
    rw [heq]
    exact modeSpared_onPainter _ fun _ => ⟨rfl, rfl, rfl, rfl⟩
  | enableCursorEvents cmd => exact .inl (modeSpared_of_queueView rfl rfl)

/-! ### What the client knows -/

/-- The scanout buffer is the primary plane's framebuffer, if there are both, and while there is a client to
tell, `T` is true of the scanout buffer and the last event, also (if `now`) with a full modeset due. -/
structure Informed (now : Bool) (primary : Option Framebuffer)
    (T : Option Framebuffer → Option Event → Prop) (d : Device) : Prop where
  agrees : ∀ fb ∈ d.scanout, ∀ p ∈ primary, p = fb
  plenty : Plenty d
  told : canSend d = true → now = true ∨ painterNeedsFullModeset d = false →
    T d.scanout (lastOf modeChangedType d.stream)

/-- The last event tells the mode and the format of the scanout buffer, unless a full modeset is due. -/
def Knows (mode : Option DisplayMode) (primary : Option Framebuffer) : Device → Prop :=
  Informed false primary fun scanout last =>
    ∃ m ∈ mode, ∃ fb ∈ scanout, last = some (modeChangedEvent m fb)

/-- While there is someone to tell, the scanout buffer stays. -/
theorem ModeSpared.scanout_of_canSend {d d' : Device} (h : ModeSpared d d')
    (hd : Evdi.canSend d' = true) : d'.scanout = d.scanout := by
  refine h.scanout.resolve_right fun hgone => ?_
  exact Bool.false_ne_true (hgone.1.symm.trans hd)

theorem ModeSpared.not_needs {d d' : Device} (h : ModeSpared d d')
    (hd : painterNeedsFullModeset d' = false) : painterNeedsFullModeset d = false := by
  by_contra hset
  rw [h.needs (Bool.not_eq_false _ ▸ hset)] at hd
  cases hd

/-- The event of a mode is about the format of the framebuffer only. -/
theorem modeChangedEvent_congr {fb fb' : Framebuffer} (h : fb.format = fb'.format) (m : DisplayMode) :
    modeChangedEvent m fb = modeChangedEvent m fb' := by
  rw [modeChangedEvent, modeChangedEvent, h]

section

variable {now : Bool} {mode : Option DisplayMode} {primary : Option Framebuffer}
  {T : Option Framebuffer → Option Event → Prop} {d : Device}

theorem Informed.spared {d' : Device} (h : Informed now primary T d) (hd : ModeSpared d d') :
    Informed now primary T d' where
  agrees fb hfb := by
    rcases hd.scanout with heq | ⟨-, hnone⟩
    · rw [heq] at hfb
      exact h.agrees fb hfb
    · rw [hnone] at hfb
      cases hfb
  plenty := hd.answers h.plenty
  told hsend hdue := by
    rw [hd.scanout_of_canSend hsend, hd.last hsend]
    exact h.told (hd.canSend hsend) (hdue.imp_right hd.not_needs)

theorem under_modeLeaves {p : Prog Device Unit} (hp : ModeLeaves p) (hd : Informed now primary T d) :
    p.Under ModeSpared (fun _ => Informed now primary T) d :=
  Prog.under_of_preserves (fun _ _ h hd => h.spared hd) (fun _ _ h hd => h.spared hd) hp hd

theorem modeLeaves_flushOrSchedule : ModeLeaves flushOrSchedule :=
  modeLeaves_of_leaves leaves_flushOrSchedule flushKinds_sendSection.flushOrSchedule

/-- An event for a client is the last of its type. -/
theorem lastOf_addEvent {type : UInt32} {e : PendingEvent} (he : e.event.type = type)
    (hd : canSend d = true) :
    lastOf type (painterAddEventToPendingList e d).stream = some e.event := by
  cases hp : d.painter with
  | none => simp [canSend, hp] at hd
  | some p =>
    simp only [painterAddEventToPendingList, Device.stream, Device.pendingEvents, hp, Option.elim_some]
    exact lastOf_push_self _ _ he

theorem Informed.addEvent {fb : Framebuffer} {e : PendingEvent} (he : e.event.type = modeChangedType)
    (h : Informed true primary (fun scanout _ => scanout = some fb) d) :
    Informed true primary (fun scanout last => scanout = some fb ∧ last = some e.event)
      (painterAddEventToPendingList e d) := by
  have hview := (SendSection.add e).modeView_eq d
  have hscanout := scanout_of_modeView hview
  refine ⟨fun fb hfb => h.agrees fb (hscanout ▸ hfb), ?_, fun hsend _ => ?_⟩
  · have hkzalloc : (painterAddEventToPendingList e d).drm.kzalloc = d.drm.kzalloc := by
      unfold painterAddEventToPendingList
      cases d.painter <;> rfl
    rw [Plenty, hkzalloc]
    exact h.plenty
  · rw [canSend_of_modeView hview] at hsend
    exact ⟨hscanout.trans (h.told hsend (.inl rfl)), lastOf_addEvent he hsend⟩

/-- **The event of a mode** reaches the queue while there is a client, whatever other threads do. -/
theorem under_sendModeChanged (m : DisplayMode) {fb : Framebuffer}
    (hd : Informed true primary (fun scanout _ => scanout = some fb) d) :
    (createAndSend (modeChangedEvent m fb)).Under ModeSpared (fun _ => Informed true primary
      fun scanout last => scanout = some fb ∧ last = some (modeChangedEvent m fb)) d := by
  refine Prog.Under.bind (Prog.under_act fun d₁ h₁ => ?_)
  have hd₁ := hd.spared h₁
  let e : PendingEvent := ⟨d₁.drm.nextSerial, modeChangedEvent m fb⟩
  have hsome : (createEvent (modeChangedEvent m fb) d₁).2 = some e := by
    have hhead : d₁.drm.kzalloc.head = true := hd₁.plenty 0
    rw [createEvent, if_pos hhead]
  rw [hsome]
  refine Prog.Under.bind (Prog.under_read fun d₂ h₂ => ?_)
  have hd₂ := (hd₁.spared (modeSpared_createEvent _ d₁)).spared h₂
  cases hsend : canSend d₂ with
  | false =>
    refine Prog.under_modify fun d₃ h₃ => ?_
    have hd₃ := hd₂.spared h₃
    refine ⟨hd₃.agrees, hd₃.plenty, fun hsend' _ => ?_⟩
    -- who is gone does not come back during the call
    exact absurd (hsend.symm.trans (h₃.canSend hsend')) Bool.false_ne_true
  | true =>
    refine Prog.Under.bind (Prog.under_modify fun d₃ h₃ => ?_)
    exact under_modeLeaves modeLeaves_flushOrSchedule ((hd₂.spared h₃).addEvent (e := e) rfl)

/-- **The notification of a mode** leaves the client knowing it. -/
theorem under_modeChangedNotify (m : DisplayMode) (hd : Knows mode primary d) :
    (painterModeChangedNotify m).Under ModeSpared (fun _ => Knows (some m) primary) d := by
  refine Prog.Under.bind (Prog.under_read fun d₁ h₁ => ?_)
  have hd₁ := Informed.spared hd h₁
  cases hfb : d₁.painter.bind (·.scanoutFb) with
  | none =>
    -- without a scanout buffer, a full modeset is due
    refine ⟨hd₁.agrees, hd₁.plenty, fun hsend hdue => ?_⟩
    obtain ⟨-, -, fb, hfb', -⟩ := hd₁.told hsend hdue
    rw [Device.scanout, hfb] at hfb'
    cases hfb'
  | some fb =>
    have hfound : Informed true primary (fun scanout _ => scanout = some fb) d₁ :=
      ⟨hd₁.agrees, hd₁.plenty, fun _ _ => hfb⟩
    refine Prog.Under.bind ((under_sendModeChanged m hfound).mono fun _ d₂ hd₂ => ?_)
    refine Prog.under_modify fun d₃ h₃ => ?_
    have hd₃ := hd₂.spared h₃
    have hview : canSend (clearFullModeset d₃) = canSend d₃ ∧
        (clearFullModeset d₃).scanout = d₃.scanout := by
      cases hp : d₃.painter <;> simp [clearFullModeset, canSend, Device.scanout, hp]
    have hstream : (clearFullModeset d₃).stream = d₃.stream :=
      stream_eq_of_queueView (queueView_onPainter d₃)
    refine ⟨fun fb hfb => hd₃.agrees fb (hview.2 ▸ hfb), hd₃.plenty, fun hsend _ => ?_⟩
    obtain ⟨hscanout, hlast⟩ := hd₃.told (hview.1.symm.trans hsend) (.inl rfl)
    exact ⟨m, rfl, fb, hview.2.trans hscanout, (congrArg _ hstream).trans hlast⟩

/-! ### Commits -/

/-- With a framebuffer of the same format in its place, and without one, the client knows as much. -/
theorem Informed.swap {fb : Framebuffer} (h : Knows mode primary d)
    (hformat : canSend d = true → painterNeedsFullModeset d = false →
      ∃ p ∈ primary, fb.format = p.format) :
    Knows mode (some fb) (swapScanoutBuffer (some fb) d).1 := by
  cases hp : d.painter with
  | none =>
    refine ⟨fun fb' hfb' => ?_, h.plenty, fun hsend => ?_⟩
    · simp [swapScanoutBuffer, Device.scanout, hp] at hfb'
    · simp [swapScanoutBuffer, canSend, hp] at hsend
  | some p =>
    have hsame : canSend (swapScanoutBuffer (some fb) d).1 = canSend d ∧
        painterNeedsFullModeset (swapScanoutBuffer (some fb) d).1 = painterNeedsFullModeset d ∧
        (swapScanoutBuffer (some fb) d).1.scanout = some fb := by
      simp [swapScanoutBuffer, canSend, painterNeedsFullModeset, Device.scanout, hp]
    obtain ⟨hcanSend, hneeds, hscanout⟩ := hsame
    refine ⟨fun fb' hfb' q hq => ?_, h.plenty, fun hsend hdue => ?_⟩
    · rw [hscanout, Option.mem_some_iff] at hfb'
      rw [Option.mem_some_iff] at hq
      rw [← hfb', ← hq]
    · have hdone : painterNeedsFullModeset d = false := by
        rw [← hneeds]
        exact hdue.resolve_left Bool.false_ne_true
      obtain ⟨m, hm, fb', hfb', hlast⟩ := h.told (hcanSend ▸ hsend) (.inr hdone)
      obtain ⟨q, hq, hformat⟩ := hformat (hcanSend ▸ hsend) hdone
      have hstream : (swapScanoutBuffer (some fb) d).1.stream = d.stream :=
        stream_eq_of_queueView (queueView_onPainter d)
      refine ⟨m, hm, fb, hscanout, ?_⟩
      rw [hstream, hlast, modeChangedEvent_congr (hformat.trans (by rw [h.agrees fb' hfb' q hq]))]

theorem modeLeaves_framebufferRef (fb : Framebuffer) (n : ℤ) :
    ModeLeaves (.modify (drmFramebufferRef fb n)) :=
  modeLeaves_modify (fun _ => rfl) fun _ => rfl

/-- **A new scanout buffer** has the format of the last, unless a full modeset is due. -/
theorem under_setScanoutBuffer {fb : Framebuffer} (hd : Knows mode primary d)
    (hformat : ∀ d', ModeSpared d d' → canSend d' = true → painterNeedsFullModeset d' = false →
      ∃ p ∈ primary, fb.format = p.format) :
    (painterSetScanoutBuffer (some fb)).Under ModeSpared (fun _ => Knows mode (some fb)) d := by
  refine Prog.Under.bind (Prog.under_modify fun d₁ h₁ => ?_)
  refine Prog.Under.bind (Prog.under_act fun d₂ h₂ => ?_)
  have href : ModeSpared d₁ (drmFramebufferRef fb 1 d₁) := modeSpared_of_queueView rfl rfl
  have hspared : ModeSpared d d₂ := (h₁.trans href).trans h₂
  have hswapped := Informed.swap (Informed.spared hd hspared) (hformat d₂ hspared)
  cases hold : (swapScanoutBuffer (some fb) d₂).2 with
  | none => exact hswapped
  | some old => exact under_modeLeaves (modeLeaves_framebufferRef old (-1)) hswapped

/-- An update that forces no full modeset brings a framebuffer of the format of the last. -/
theorem format_of_not_forces {old new : PlaneState} {fb : Framebuffer} (hnew : new.fb = some fb)
    (hcrtc : new.fb.isSome → new.crtc.isSome)
    (hformats : ∀ o ∈ old.fb, ∀ n ∈ new.fb, n.format.format = o.format.format → n.format = o.format)
    (hforces : forcesModeset old new fb = false) : ∃ p ∈ old.fb, fb.format = p.format := by
  unfold forcesModeset at hforces
  cases hold : old.fb with
  | none =>
    rw [hold] at hforces
    rw [hnew] at hcrtc
    exact absurd (hforces.symm.trans (hcrtc rfl)) Bool.false_ne_true
  | some o =>
    rw [hold] at hforces
    exact ⟨o, rfl, hformats o hold fb hnew (by simpa using hforces)⟩

/-- What the client knows, and (if `forced`) that a full modeset is due. -/
def Forced (forced : Bool) (mode : Option DisplayMode) (primary : Option Framebuffer) (d : Device) :
    Prop :=
  Knows mode primary d ∧ (forced = true → canSend d = true → painterNeedsFullModeset d = true)

theorem Forced.spared {forced : Bool} {d' : Device} (h : Forced forced mode primary d)
    (hd : ModeSpared d d') : Forced forced mode primary d' :=
  ⟨h.1.spared hd, fun hforced hsend => hd.needs (h.2 hforced (hd.canSend hsend))⟩

theorem under_forceFullModeset (forced : Bool) (hd : Knows mode primary d) :
    (Prog.when forced (.modify painterForceFullModeset)).Under ModeSpared
      (fun _ => Forced forced mode primary) d := by
  refine Prog.under_when (fun _ => Prog.under_modify fun d₁ h₁ => ?_) fun hforced => ?_
  · have hforce : ModeSpared d₁ (painterForceFullModeset d₁) := (modeLeaves_forceFullModeset d₁ trivial).1
    refine ⟨(Informed.spared hd h₁).spared hforce, fun _ hsend => ?_⟩
    cases hp : d₁.painter with
    | none => simp [painterForceFullModeset, canSend, hp] at hsend
    | some p => simp [painterForceFullModeset, painterNeedsFullModeset, hp]
  · exact ⟨hd, fun hforced' => absurd (hforced.symm.trans hforced') Bool.false_ne_true⟩

/-- **An update of the primary plane** keeps what the client knows, or has called for a full modeset. -/
theorem under_planeAtomicUpdate (old new : PlaneState) (damage : List DrmRect) (hold : old.fb = primary)
    (hcrtc : new.fb.isSome → new.crtc.isSome)
    (hformats : ∀ o ∈ old.fb, ∀ n ∈ new.fb, n.format.format = o.format.format → n.format = o.format)
    (hd : Knows mode primary d) :
    (planeAtomicUpdate old new damage).Under ModeSpared (fun _ => Knows mode new.fb) d := by
  refine Prog.Under.bind ((under_modeLeaves (modeLeaves_notifyCrtcChange old new) hd).mono
    fun _ d₁ hd₁ => ?_)
  cases hnew : new.fb with
  | none => exact ⟨fun _ _ p hp => by simp at hp, hd₁.plenty, hd₁.told⟩
  | some fb =>
    refine Prog.Under.bind ((under_forceFullModeset (forcesModeset old new fb) hd₁).mono
      fun _ d₂ hd₂ => ?_)
    refine Prog.Under.bind (Prog.under_read fun d₃ h₃ => ?_)
    have hd₃ := hd₂.spared h₃
    refine Prog.Under.bind (Prog.Under.mono (Q := fun _ => Knows mode (some fb)) ?_ fun _ d₄ hd₄ => ?_)
    · refine Prog.under_when (fun _ => ?_) fun hskip => ?_
      · refine Prog.Under.bind ((under_setScanoutBuffer hd₃.1 fun d' hd' hsend hdone => ?_).mono
          fun _ d₄ hd₄ => ?_)
        · rw [← hold]
          refine format_of_not_forces hnew hcrtc hformats ?_
          by_contra hforces
          rw [(hd₃.spared hd').2 (Bool.not_eq_false _ ▸ hforces) hsend] at hdone
          cases hdone
        · exact under_modeLeaves (modeLeaves_each (fun rect => modeLeaves_markDirty _) damage) hd₄
      · -- the same framebuffer again
        have hsame : old.fb = some fb := by simp_all
        rw [← hsame, hold]
        exact hd₃.1
    · refine Prog.Under.bind (Prog.under_read fun d₅ h₅ => ?_)
      exact under_modeLeaves (modeLeaves_when (modeLeaves_markDirty _)) (Informed.spared hd₄ h₅)

/-- **The updates of a commit** keep what the client knows, or have called for a full modeset. -/
theorem under_updates (updates : List PlaneUpdate) (h : CoherentUpdates primary updates)
    (hd : Knows mode primary d) : (Prog.each PlaneUpdate.run updates).Under ModeSpared
      (fun _ => Knows mode (updates.foldl PlaneUpdate.primaryAfter primary)) d := by
  induction updates generalizing primary d with
  | nil => exact hd
  | cons u us ih =>
    cases u with
    | primary old new damage =>
      obtain ⟨hold, hcrtc, hformats, hrest⟩ := h
      exact Prog.Under.bind ((under_planeAtomicUpdate old new damage hold hcrtc hformats hd).mono
        fun _ d' hd' => ih hrest hd')
    | cursor old new env =>
      exact Prog.Under.bind ((under_modeLeaves (modeLeaves_cursorAtomicUpdate old new env) hd).mono
        fun _ d' hd' => ih h hd')

/-- **The flush of a commit** leaves the client knowing the mode it sets. -/
theorem under_crtcAtomicFlush (crtc : Crtc) (state : CrtcState)
    (hmode : state.active = true → state.modeChanged = false → mode = some state.adjustedMode)
    (hd : Knows mode primary d) : (crtcAtomicFlush crtc state).Under ModeSpared
      (fun _ => Knows (if state.active then some state.adjustedMode else mode) primary) d := by
  refine Prog.Under.bind (Prog.under_read fun d₁ h₁ => Prog.Under.bind (Prog.under_read fun d₂ h₂ => ?_))
  have hd₂ := (Informed.spared hd h₁).spared h₂
  refine Prog.Under.bind (Prog.Under.mono (Q := fun _ => Knows
    (if state.active then some state.adjustedMode else mode) primary) ?_ fun _ d₃ hd₃ => ?_)
  · refine Prog.under_when (fun hnotify => ?_) fun hquiet => ?_
    · rw [Bool.and_eq_true] at hnotify
      rw [if_pos hnotify.1]
      exact under_modeChangedNotify state.adjustedMode hd₂
    · split_ifs with hactive
      · have hchanged : state.modeChanged = false := by
          simp_all
        rw [← hmode hactive hchanged]
        exact hd₂
      · exact hd₂
  · refine Prog.Under.bind ((under_modeLeaves (modeLeaves_when (modeLeaves_dpmsNotify _)) hd₃).mono
      fun _ d₄ hd₄ => ?_)
    exact Prog.Under.bind ((under_modeLeaves (modeLeaves_setVblank _ _) hd₄).mono
      fun _ d₅ hd₅ => under_modeLeaves modeLeaves_sendUpdateReadyIfNeeded hd₅)

/-- **A commit** leaves the client knowing the mode and the format after it. -/
theorem under_commitRun (c : Commit) (h : CoherentUpdates primary c.updates)
    (hmode : c.state.active = true → c.state.modeChanged = false → mode = some c.state.adjustedMode)
    (hd : Knows mode primary d) :
    c.run.Under ModeSpared (fun _ => Knows (c.mode mode) (c.primary primary)) d :=
  Prog.Under.bind ((under_updates c.updates h hd).mono fun _ _ hd' =>
    under_crtcAtomicFlush c.crtc c.state hmode hd')

end

/-! ### Runs -/

namespace Modes

/-- The threads leave the mode alone, and the commit under way leaves the client knowing the mode. -/
structure Inv (s : Modes) : Prop where
  beside : ∀ p ∈ s.threads, ModeLeaves p
  knows : s.commit.Under ModeSpared (fun _ => Knows s.mode s.primary) s.device

theorem Inv.spared {s : Modes} (h : s.Inv) {d : Device} (hd : ModeSpared s.device d) :
    s.commit.Under ModeSpared (fun _ => Knows s.mode s.primary) d :=
  Prog.Under.rely (fun _ _ _ h h' => h.trans h') (fun _ _ _ h hd => h.spared hd) h.knows hd

theorem inv_init (fgConsole : ℤ) {drm : DrmCore} (hplenty : ∀ n, drm.kzalloc n = true) :
    (init fgConsole drm).Inv where
  beside := by simp [init]
  knows := by
    refine ⟨fun fb hfb => ?_, hplenty, fun hsend => ?_⟩
    · simp [init, Device.init, Device.scanout, Painter.init] at hfb
    · simp [init, Device.init, canSend, Painter.init] at hsend

/-- **A call of a client** in a steady run. -/
theorem Inv.client {s : Modes} (h : s.Inv) {c : Clients} {call : ClientCall}
    (hcall : ClientStep s.toClients call c) (hsteady : s.Steady (.client call)) :
    { s with toClients := c }.Inv := by
  refine ⟨h.beside, ?_⟩
  rcases hcall.modeSpared with hspared | ⟨hconnects, hscanout, hplenty, hneeds⟩
  · exact h.spared hspared
  · cases call with
    | connect cmd file ret =>
      have hidle := hsteady.1 hconnects.1 hconnects.2
      have hknows := h.knows
      rw [hidle] at hknows ⊢
      refine ⟨fun fb hfb => hknows.agrees fb (hscanout ▸ hfb), hplenty hknows.plenty,
        fun hsend hdue => ?_⟩
      -- a full modeset is due for a new client
      rw [hneeds hsend] at hdue
      simp at hdue
    | _ => exact absurd hconnects id

/-- **Every step** of a steady run keeps the invariant. -/
theorem Within.inv {s t : Modes} {a : Action} (h : Within Steady s a t) (hs : s.Inv) : t.Inv := by
  obtain ⟨hstep, hsteady⟩ := h
  cases hstep with
  | client hcall => exact hs.client hcall hsteady
  | commit c hidle hcoherent =>
    refine ⟨hs.beside, ?_⟩
    have hknows := hs.knows
    rw [hidle] at hknows
    exact under_commitRun c hcoherent hsteady.2 hknows
  | @«section» f k hcommit =>
    refine ⟨hs.beside, ?_⟩
    have hunder := hs.knows
    rw [hcommit] at hunder
    exact hunder s.device (.refl _)
  | thread hpool =>
    obtain ⟨hspared, hbeside⟩ := hpool.preserves ModeSpared.refl modeLeaves_beside hs.beside
    exact ⟨hbeside, hs.spared hspared⟩
  | switchConsole console => exact ⟨hs.beside, hs.spared (modeSpared_of_queueView rfl rfl)⟩

/-! ### A mode that no event tells -/

/-- After a commit with nothing in between. -/
def after (s : Modes) (c : Commit) : Modes where
  device := (c.run.exec s.device).1
  grabs := s.grabs
  commit := .pure ()
  threads := s.threads
  mode := c.mode s.mode
  primary := c.primary s.primary

section

variable {G : Modes → Action → Prop} (hG : ∀ s, G s .section)

include hG

theorem run_sections (p : Prog Device Unit) (s : Modes) (hs : s.commit = p) :
    ∃ as, Run (Within G) s as { s with device := (p.exec s.device).1, commit := .pure () } := by
  induction p generalizing s with
  | pure u =>
    obtain ⟨clients, commit, threads, mode, primary⟩ := s
    obtain rfl : commit = .pure () := hs
    exact ⟨[], Run.nil _⟩
  | sec f k ih =>
    obtain ⟨as, hrun⟩ := ih s.device { s with device := f s.device, commit := k s.device } rfl
    exact ⟨_, (Run.one ⟨Step.section hs, hG s⟩).append hrun⟩

theorem run_after {s : Modes} (c : Commit) (hidle : s.commit = .pure ())
    (hcoherent : CoherentUpdates s.primary c.updates) (hc : G s (.commit c)) :
    ∃ as, Run (Within G) s as (s.after c) := by
  obtain ⟨as, hrun⟩ := run_sections hG c.run
    { s with commit := c.run, mode := c.mode s.mode, primary := c.primary s.primary } rfl
  exact ⟨_, (Run.one ⟨Step.commit c hidle hcoherent, hc⟩).append hrun⟩

end

/-- A commit of the only CRTC. -/
def plainCommit (updates : List PlaneUpdate) (active modeChanged : Bool) (mode : DisplayMode) : Commit where
  updates := updates
  crtc := 0
  state := ⟨active, modeChanged, true, mode, none⟩

/-- The first framebuffer, in a first mode. -/
def firstCommit : Commit :=
  plainCommit [.primary (.sample none) (.sample (some (.sample 1 64 64 256))) []] true true ⟨64, 64, 60⟩

/-- A client has connected, and sees a first framebuffer. -/
def told : Modes :=
  let s := init 0 (.init (.const true) (.const true))
  let d := (painterConnectIoctl (fun _ => sampleUser 0) ⟨true, true⟩ .sample 1 s.device).1
  { s with device := d }.after firstCommit

theorem run_told {G : Modes → Action → Prop} (hG : ∀ s, G s .section)
    (hconnect : ∀ s, s.commit = .pure () → G s (.client (.connect .sample 1 0)))
    (hcommit : ∀ s, G s (.commit firstCommit)) :
    ∃ as, Run (Within G) (init 0 (.init (.const true) (.const true))) as told := by
  let s := init 0 (.init (.const true) (.const true))
  let d := (painterConnectIoctl (fun _ => sampleUser 0) ⟨true, true⟩ .sample 1 s.device).1
  have hclient : Step s (.client (.connect .sample 1 0)) { s with device := d } :=
    .client (.connect (fun _ => sampleUser 0) ⟨true, true⟩ (Prod.ext rfl rfl))
  obtain ⟨as, hfirst⟩ := run_after hG firstCommit (s := { s with device := d }) rfl
    ⟨rfl, fun _ => rfl, by simp [PlaneState.sample], trivial⟩ (hcommit _)
  exact ⟨_, (Run.one ⟨hclient, hconnect s rfl⟩).append hfirst⟩

/-- Then the CRTC is switched off and given another mode, and switched on. -/
def untold : Modes :=
  (told.after (plainCommit [] false true ⟨32, 32, 60⟩)).after (plainCommit [] true false ⟨32, 32, 60⟩)

theorem run_untold :
    ∃ as, Run (Within ConnectsBetween) (init 0 (.init (.const true) (.const true))) as untold := by
  obtain ⟨as, hfirst⟩ := run_told (G := ConnectsBetween) (fun _ => trivial) (fun _ h _ _ => h)
    fun _ => trivial
  obtain ⟨bs, hoff⟩ := run_after (G := ConnectsBetween) (fun _ => trivial)
    (plainCommit [] false true ⟨32, 32, 60⟩) (s := told) rfl trivial trivial
  obtain ⟨cs, hon⟩ := run_after (G := ConnectsBetween) (fun _ => trivial)
    (plainCommit [] true false ⟨32, 32, 60⟩) (s := told.after (plainCommit [] false true ⟨32, 32, 60⟩))
    rfl trivial trivial
  exact ⟨_, (hfirst.append hoff).append hon⟩

end Modes

/-- **The client knows the mode.** In every run of a device with its clients, its commits and its other
threads, in which clients connect between commits and an active commit tells of every new mode, and with
memory for every event: whenever no commit is under way and no full modeset is due, the last `MODE_CHANGED`
event in what a connected client has read or will read tells the mode of the last active commit, and the
format of the scanout buffer, which is the framebuffer of the primary plane.  It need not where an active
commit does not tell: a mode that is set while the CRTC is off is never told. -/
theorem mode_mirrored :
    (∀ (fgConsole : ℤ) (drm : DrmCore) (as : List Modes.Action) (t : Modes),
      (∀ n, drm.kzalloc n = true) → Run (Modes.Within Modes.Steady) (Modes.init fgConsole drm) as t →
      t.commit = .pure () → canSend t.device = true → painterNeedsFullModeset t.device = false →
      ∃ m ∈ t.mode, ∃ fb ∈ t.device.scanout,
        lastOf modeChangedType t.device.stream = some (modeChangedEvent m fb) ∧ ∀ p ∈ t.primary, p = fb) ∧
    (∃ (as : List Modes.Action) (t : Modes),
      Run (Modes.Within Modes.Steady) (Modes.init 0 (.init (.const true) (.const true))) as t ∧
      t.commit = .pure () ∧ canSend t.device = true ∧ painterNeedsFullModeset t.device = false ∧
      t.primary.isSome) ∧
    ∃ (as : List Modes.Action) (t : Modes),
      Run (Modes.Within Modes.ConnectsBetween) (Modes.init 0 (.init (.const true) (.const true))) as t ∧
      t.commit = .pure () ∧ canSend t.device = true ∧ painterNeedsFullModeset t.device = false ∧
      ∃ m ∈ t.mode, ∃ fb ∈ t.device.scanout,
        lastOf modeChangedType t.device.stream ≠ some (modeChangedEvent m fb) := by
  refine ⟨fun fgConsole drm as t hplenty hrun hidle hsend hdone => ?_, ?_, ?_⟩
  · have hinv := hrun.invariant (fun _ _ _ hs hstep => hstep.inv hs) (Modes.inv_init fgConsole hplenty)
    have hknows := hinv.knows
    rw [hidle] at hknows
    obtain ⟨m, hm, fb, hfb, hlast⟩ := hknows.told hsend (.inr hdone)
    exact ⟨m, hm, fb, hfb, hlast, hknows.agrees fb hfb⟩
  · obtain ⟨as, hrun⟩ := Modes.run_told (G := Modes.Steady) (fun _ => ⟨trivial, trivial⟩)
      (fun _ h => ⟨fun _ _ => h, trivial⟩) fun _ => ⟨trivial, fun _ h => absurd h (by decide)⟩
    exact ⟨as, Modes.told, hrun, rfl, by decide +kernel, by decide +kernel, rfl⟩
  · obtain ⟨as, hrun⟩ := Modes.run_untold
    exact ⟨as, Modes.untold, hrun, rfl, by decide +kernel, by decide +kernel, ⟨32, 32, 60⟩, rfl,
      .sample 1 64 64 256, by decide +kernel, by decide +kernel⟩

end Evdi
