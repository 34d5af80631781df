import Evdi.Model.System

/-!
# What a painter can become

Every section of every party, as a change of the painter.  `Painter.core` is the painter without what
only the events, the vblank events and the request flag are about; `Painter.Redraw` lists what a commit
may do to it (a mark, another scanout buffer), and `Painter.Change` what may happen at all (a grab, a
connect, a disconnect, a DDC/CI response too).

* `CommitSection.redraws`, `ClientSection.change`: each section makes such a change;
* `System.painter_invariant`: what these changes keep holds of the painter in every run.
-/

namespace Evdi

open Atomic Transition Bytes

/-! ### Changes -/

/-- The painter without what the events, the vblank events and the requests are about. -/
def Painter.core (p : Painter) : Painter :=
  { p with
    wasUpdateRequested := false
    needsFullModeset := false
    crtc := none
    vblank := none
    pendingEvents := []
    sendEventsWorkPending := false
    fgConsole := 0 }

/-- What a commit may do to the painter. -/
inductive Painter.Redraw : Painter → Painter → Prop
  | keeps {p : Painter} : Redraw p p
  | mark {p : Painter} (rect : ClipRect) : Redraw p (p.markDirty rect)
  | swap {p : Painter} (fb : Option Framebuffer) : Redraw p { p with scanoutFb := fb }

/-- What may happen to the painter. -/
inductive Painter.Change : Painter → Painter → Prop
  | redraw {p q : Painter} : p.Redraw q → Change p q
  | shrink {p : Painter} (numRects : Int32) : p.scanoutFb = none →
      Change p { p with dirtyRects := shrinkDirtyRects numRects p.dirtyRects }
  | grab {p : Painter} {efb : Framebuffer} : p.scanoutFb = some efb →
      Change p { p with dirtyRects := [] }
  | connect {p : Painter} {file : DrmFile} {edidLength : UInt32} {edid : List UInt8} :
      edidBlockSize ≤ edidLength.toNat → edidLength.toNat ≤ maxEdidSize →
      edid.length = edidLength.toNat → Change p (p.connected file edidLength edid)
  | disconnect {p : Painter} {file : DrmFile} : p.drmFilp = some file → Change p p.disconnected
  | ddcciResponse {p : Painter} (buffer : Option (List UInt8)) (length : UInt32) (received : ℕ) :
      Change p { p with
        ddcciBuffer := buffer
        ddcciBufferLength := length
        ddcciResponseReceived := p.ddcciResponseReceived + received }

/-- The core of the painter is as before. -/
def KeepsCore (d d' : Device) : Prop := d'.painter.map Painter.core = d.painter.map Painter.core

/-- The painter is still there, and has changed as `R` says, up to what is not in its core. -/
def Changes (R : Painter → Painter → Prop) (d d' : Device) : Prop :=
  Option.Rel (fun p q => ∃ q', R p q' ∧ q.core = q'.core) d.painter d'.painter

theorem Changes.mono {R R' : Painter → Painter → Prop} (hR : ∀ p q, R p q → R' p q) {d d' : Device}
    (h : Changes R d d') : Changes R' d d' := by
  unfold Changes at h ⊢
  generalize d.painter = o, d'.painter = o' at h ⊢
  cases h with
  | none => exact .none
  | some h =>
    obtain ⟨q', hq, hcore⟩ := h
    exact .some ⟨q', hR _ _ hq, hcore⟩

/-- A predicate of the painter that the changes keep and that looks at the core only. -/
theorem Changes.keep {R : Painter → Painter → Prop} {I : Painter → Prop}
    (hcore : ∀ p q : Painter, p.core = q.core → I p → I q) (hR : ∀ p q, R p q → I p → I q)
    {d d' : Device} (h : Changes R d d') (hI : ∀ p, d.painter = some p → I p) :
    ∀ q, d'.painter = some q → I q := by
  intro q hq
  rw [Changes, hq] at h
  generalize hd : d.painter = o at h
  cases h with
  | some h =>
    obtain ⟨q', hchange, heq⟩ := h
    exact hcore q' q heq.symm (hR _ _ hchange (hI _ hd))

theorem changes_of_painter {R : Painter → Painter → Prop} {d d' : Device} {f : Painter → Painter}
    (h : d'.painter = d.painter.map f) (hf : ∀ p, d.painter = some p → R p (f p)) :
    Changes R d d' := by
  rw [Changes, h]
  cases hp : d.painter with
  | none => exact .none
  | some p => exact .some ⟨f p, hf p hp, rfl⟩

theorem KeepsCore.redraws {d d' : Device} (h : KeepsCore d d') : Changes Painter.Redraw d d' := by
  rw [Changes]
  cases hp : d.painter with
  | none =>
    have hnone : d'.painter = none := by simpa [KeepsCore, hp] using h
    rw [hnone]
    exact .none
  | some p =>
    obtain ⟨q, hq, hcore⟩ : ∃ q, d'.painter = some q ∧ q.core = p.core := by
      simpa [KeepsCore, hp] using h
    rw [hq]
    exact .some ⟨p, .keeps, hcore⟩

theorem KeepsCore.changes {d d' : Device} (h : KeepsCore d d') : Changes Painter.Change d d' :=
  h.redraws.mono fun _ _ => .redraw

theorem KeepsCore.refl (d : Device) : KeepsCore d d := rfl

theorem KeepsCore.trans {d d' d'' : Device} (h : KeepsCore d d') (h' : KeepsCore d' d'') :
    KeepsCore d d'' := Eq.trans h' h

theorem keepsCore_of_eq {d d' : Device} (h : d'.painter = d.painter) : KeepsCore d d' := by
  rw [KeepsCore, h]

theorem keepsCore_of_map {d d' : Device} {f : Painter → Painter}
    (h : d'.painter = d.painter.map f) (hf : ∀ p, (f p).core = p.core) : KeepsCore d d' := by
  rw [KeepsCore, h, Option.map_map]
  exact congrArg (fun g => d.painter.map g) (funext hf)

theorem keepsCore_onPainter {d : Device} {f : Painter → Painter}
    (hf : ∀ p, (f p).core = p.core) : KeepsCore d (d.onPainter f) := keepsCore_of_map rfl hf

/-! ### Sections of the kernel -/

/-- Sending an event keeps the core. -/
theorem SendSection.keepsCore {f : Device → Device} (h : SendSection f) (d : Device) :
    KeepsCore d (f d) := by
  obtain ⟨g, hpainter, hg⟩ := (h.effect d).painter
  refine keepsCore_of_map hpainter fun p => ?_
  obtain ⟨pending, work, fgConsole, hp⟩ := hg p
  rw [hp]
  rfl

theorem painter_sendVblank (crtc : Option Crtc) (vblank : Option VblankEvent) (d : Device) :
    (sendVblank crtc vblank d).painter = d.painter := by
  rw [sendVblank_eq, Device.onDrm_painter]

theorem keepsCore_setVblank (crtc : Option Crtc) (vblank : Option VblankEvent) (d : Device) :
    KeepsCore d (painterSetVblank crtc vblank d) := by
  have hsend : KeepsCore d (painterSendVblank d) := by
    unfold painterSendVblank
    cases h : d.painter with
    | none => exact .refl d
    | some p =>
      refine (keepsCore_of_eq (painter_sendVblank p.crtc p.vblank d)).trans ?_
      exact keepsCore_onPainter fun _ => rfl
  unfold painterSetVblank
  cases d.painter with
  | none => exact keepsCore_of_eq (painter_sendVblank _ _ d)
  | some p =>
    dsimp only
    split_ifs
    · exact hsend.trans (keepsCore_onPainter fun _ => rfl)
    · exact hsend.trans (keepsCore_of_eq (painter_sendVblank _ _ _))

theorem painter_gemObjectRef (obj : Option GemRef) (n : ℤ) (d : Device) :
    (drmGemObjectRef obj n d).painter = d.painter := by
  cases obj <;> rfl

theorem painter_cursorSetGem (obj : Option GemRef) (d : Device) :
    (cursorSetGem obj d).painter = d.painter := by
  unfold cursorSetGem
  dsimp only
  rw [painter_gemObjectRef, painter_gemObjectRef]

theorem painter_cursorEnable (enable : Bool) (d : Device) :
    (cursorEnable enable d).painter = d.painter := by
  cases enable with
  | false => exact painter_cursorSetGem none _
  | true => rfl

theorem keepsCore_sendUpdateReady (d : Device) : KeepsCore d (painterSendUpdateReady.exec d).1 :=
  (createAndSend_uses .updateReady).exec (fun _ hf => hf.keepsCore) KeepsCore.refl
    (fun _ _ _ => KeepsCore.trans) d

theorem keepsCore_updateReadyIfNeeded (d : Device) :
    KeepsCore d (updateReadyIfNeeded.exec d).1 := by
  rw [updateReadyIfNeeded_exec]
  split_ifs
  · exact (keepsCore_sendUpdateReady d).trans (keepsCore_onPainter fun _ => rfl)
  · exact .refl d

/-- **Every section of a commit** marks, changes the scanout buffer, or keeps the core. -/
theorem CommitSection.redraws {f : Device → Device} (h : CommitSection f) (d : Device) :
    Changes Painter.Redraw d (f d) := by
  cases h with
  | read => exact (KeepsCore.refl d).redraws
  | send h => exact (h.keepsCore d).redraws
  | forceModeset => exact KeepsCore.redraws (keepsCore_onPainter fun _ => rfl)
  | modesetDone => exact KeepsCore.redraws (keepsCore_onPainter fun _ => rfl)
  | fbRef fb n => exact (keepsCore_of_eq rfl).redraws
  | swap fb => exact changes_of_painter rfl fun _ _ => .swap fb
  | markDirty rect => exact changes_of_painter rfl fun _ _ => .mark rect
  | cursorMove x y => exact (keepsCore_of_eq rfl).redraws
  | cursorSet obj ans image =>
    exact KeepsCore.redraws (keepsCore_of_eq (painter_cursorSetGem (cursorMapObject obj ans) _))
  | cursorEnable enable => exact (keepsCore_of_eq (painter_cursorEnable enable d)).redraws
  | setVblank crtc vblank => exact (keepsCore_setVblank crtc vblank d).redraws
  | updateReady => exact (keepsCore_updateReadyIfNeeded d).redraws

/-- What is read off the core of the painter, and no mark or change of the scanout buffer touches, every
section of a commit leaves as it is. -/
theorem CommitSection.painter_eq {β : Type} {v : Painter → β}
    (hcore : ∀ p q : Painter, p.core = q.core → v p = v q) (hmark : ∀ p r, v (p.markDirty r) = v p)
    (hswap : ∀ (p : Painter) fb, v { p with scanoutFb := fb } = v p) {f : Device → Device}
    (h : CommitSection f) (d : Device) : (f d).painter.map v = d.painter.map v := by
  have hchanges := h.redraws d
  unfold Changes at hchanges
  generalize d.painter = o, (f d).painter = o' at hchanges
  cases hchanges with
  | none => rfl
  | some hchange =>
    obtain ⟨q', hredraw, heq⟩ := hchange
    rw [Option.map_some, Option.map_some, hcore _ _ heq]
    cases hredraw with
    | keeps => rfl
    | mark rect => rw [hmark]
    | swap fb => rw [hswap]

/-- No section of a commit empties the list of rectangles. -/
theorem dirtyRects_ne_nil_of_redraws {d d' : Device} (h : Changes Painter.Redraw d d')
    (hd : d.dirtyRects ≠ []) : d'.dirtyRects ≠ [] := by
  cases hp : d.painter with
  | none => simp [Device.dirtyRects, hp] at hd
  | some p =>
    have hkeep := h.keep (I := fun p => p.dirtyRects ≠ []) (fun p q hcore hne => ?_)
      (fun p q hredraw hne => ?_) fun q hq => ?_
    · cases hq : d'.painter with
      | none => simp [Changes, hp, hq] at h
      | some q => rw [Device.dirtyRects_some hq]; exact hkeep q hq
    · rwa [← show p.core.dirtyRects = q.dirtyRects by rw [hcore]; rfl]
    · cases hredraw with
      | keeps => exact hne
      | mark rect =>
        unfold Painter.markDirty
        cases p.scanoutFb with
        | none => exact hne
        | some efb => exact addDirtyRect_ne_nil _ _
      | swap fb => exact hne
    · rwa [← Device.dirtyRects_some hq]

/-! ### Sections of the clients -/

theorem keepsCore_requestUpdate (d : Device) : KeepsCore d (painterRequestUpdateIoctl d).1 := by
  rcases painterRequestUpdateIoctl_device d with heq | heq
  · rw [heq]
    exact .refl d
  · rw [heq]
    exact keepsCore_onPainter fun _ => rfl

theorem changes_grabpixLocked (cmd : GrabpixCmd) (d : Device) :
    Changes Painter.Change d (painterGrabpixLocked cmd d).1 := by
  rcases painterGrabpixLocked_cases cmd d with ⟨err, heq, -⟩ | ⟨p, hp, hnone, heq⟩ |
    ⟨p, efb, cmd', hp, hfb, -, heq⟩
  · rw [heq]
    exact (KeepsCore.refl d).changes
  · rw [heq]
    refine changes_of_painter rfl fun q hq => .shrink cmd.numRects ?_
    obtain rfl : p = q := Option.some.inj (hp.symm.trans hq)
    exact hnone
  · rw [heq, Changes, Device.onPainter_painter, drmFramebufferRef, Device.onDrm_painter, hp]
    exact .some ⟨_, .grab hfb, rfl⟩

theorem changes_disconnect (file : DrmFile) (d : Device) :
    Changes Painter.Change d (painterDisconnect file d).1 := by
  rcases painterDisconnect_cases file d with heq | ⟨p, hp, hfile⟩
  · rw [heq]
    exact (KeepsCore.refl d).changes
  · rw [painterDisconnect_owner hp hfile, Changes, hp]
    exact .some ⟨_, .disconnect hfile, rfl⟩

theorem changes_connectIoctl (user : UInt64 → UserRegion) (ans : ConnectAnswers)
    (cmd : ConnectCmd) (file : DrmFile) (d : Device) :
    Changes Painter.Change d (painterConnectIoctl user ans cmd file d).1 := by
  rcases painterConnectIoctl_cases user ans cmd file d with ⟨err, heq, -⟩ |
    ⟨edid, -, hmin, hmax, hcopy, heq⟩ | ⟨-, heq⟩
  · rw [heq]
    exact (KeepsCore.refl d).changes
  · rw [heq]
    exact changes_of_painter rfl fun _ _ => .connect hmin hmax (length_copyFromUser hcopy)
  · rw [heq]
    exact changes_disconnect file d

/-- **Every call of a client** grabs, shrinks the list, connects, disconnects, responds, or keeps the
core. -/
theorem ClientSection.change {f : Device → Device} (h : ClientSection f) (d : Device) :
    Changes Painter.Change d (f d) := by
  cases h with
  | requestUpdate => exact (keepsCore_requestUpdate d).changes
  | grabpix cmd => exact changes_grabpixLocked cmd d
  | grabpixDone g => exact (keepsCore_of_eq (painter_sendVblank g.crtc g.vblank d)).changes
  | connect user ans cmd file => exact changes_connectIoctl user ans cmd file d
  | close file =>
    show Changes Painter.Change d (painterClose file d)
    rw [painterClose_eq]
    exact changes_disconnect file d
  | ddcciResponse user kzalloc cmd =>
    obtain ⟨buffer, length, received, heq⟩ := painterDdcciResponseIoctl_device user kzalloc cmd d
    exact changes_of_painter (congrArg Device.painter heq) fun _ _ =>
      .ddcciResponse buffer length received
  | enableCursorEvents cmd => exact (keepsCore_of_eq rfl).changes

/-! ### Runs -/

namespace System

/-- **Painter rule.** What every change keeps, and what is outside the core does not matter to, holds of
the painter in every state of every run. -/
theorem painter_invariant {I : Painter → Prop} (hcore : ∀ p q : Painter, p.core = q.core → I p → I q)
    (hchange : ∀ p q : Painter, p.Change q → I p → I q) (hinit : I Painter.init) {fgConsole : ℤ}
    {drm : DrmCore} {as : List Action} {s : System} (h : Run Step (init fgConsole drm) as s)
    {p : Painter} (hp : s.device.painter = some p) : I p := by
  refine (run_invariant (I := fun d => ∀ p, d.painter = some p → I p)
    (fun f hf d => (hf.change d).keep hcore hchange)
    (fun f hf d => (hf.redraws d).keep hcore fun p q h => hchange p q (.redraw h))
    (fun d _ p hp => ?_) h (threadsUse_init _ _ _) ?_).1 p hp
  · simp [painterCleanup] at hp
  · intro p hp
    obtain rfl : Painter.init = p := Option.some.inj hp
    exact hinit

end System

end Evdi
