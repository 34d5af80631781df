import Evdi.Foundations.Transition
import Evdi.Model.Client
import Evdi.Model.Modeset

/-!
# Vblank events

A vblank event handed to `evdi_painter_set_vblank` is sent at once, or held by the painter until a
`GRABPIX` call takes it over or the session ends.

* `Vblanks.account`: where the events are, sent, held by the painter, or held by calls in flight;
* `Vblanks.Step.account_perm`: a step moves events between these places, and adds the one handed over;
* `HeldOk`: what the painter holds can be released by a `GRABPIX` call.
-/

namespace Evdi

open Transition Bytes

/-- The event held by the painter, with its CRTC. -/
def heldVblank (d : Device) : List (Crtc × VblankEvent) :=
  d.painter.elim [] fun p => vblankPair p.crtc p.vblank

/-- The events held by `GRABPIX` calls in flight. -/
def inFlightVblanks (grabs : List Grab) : List (Crtc × VblankEvent) :=
  grabs.flatMap fun g => vblankPair g.crtc g.vblank

/-- A held event has its CRTC, the client is connected, and rectangles are pending. -/
def HeldOk (d : Device) : Prop :=
  ∀ p, d.painter = some p → p.vblank ≠ none →
    p.crtc ≠ none ∧ p.isConnected = true ∧ p.dirtyRects ≠ []

namespace Vblanks

/-- What may happen: a call of a client, a call of `evdi_painter_set_vblank`, a mark, another scanout
buffer, the end of the painter. -/
inductive Action
  | client (call : ClientCall)
  | setVblank (crtc : Crtc) (vblank : Option VblankEvent)
  | markDirty (rect : ClipRect)
  | setScanoutBuffer (fb : Option Framebuffer)
  | cleanup

/-- One step. -/
inductive Step : Clients → Action → Clients → Prop
  | client {s t : Clients} {call : ClientCall} :
      ClientStep s call t → Step s (.client call) t
  | setVblank {s : Clients} (crtc : Crtc) (vblank : Option VblankEvent) :
      Step s (.setVblank crtc vblank)
        { s with device := painterSetVblank (some crtc) vblank s.device }
  | markDirty {s : Clients} (rect : ClipRect) :
      Step s (.markDirty rect) { s with device := painterMarkDirty rect s.device }
  | setScanoutBuffer {s : Clients} (fb : Option Framebuffer) :
      Step s (.setScanoutBuffer fb)
        { s with device := ((painterSetScanoutBuffer fb).exec s.device).1 }
  | cleanup {s : Clients} : Step s .cleanup { s with device := painterCleanup s.device }

/-- The events handed over, with their CRTCs. -/
def handed (as : List Action) : List (Crtc × VblankEvent) :=
  as.flatMap fun
    | .setVblank crtc vblank => vblankPair (some crtc) vblank
    | _ => []

/-- Where the events are: sent, held by the painter, held by calls in flight. -/
def account (s : Clients) : List (Crtc × VblankEvent) :=
  s.device.drm.sentVblanks ++ heldVblank s.device ++ inFlightVblanks s.grabs

/-! ### Where a step moves the events -/

/-- The events sent and the event held are the same. -/
def SameVblanks (d d' : Device) : Prop :=
  d'.drm.sentVblanks = d.drm.sentVblanks ∧ heldVblank d' = heldVblank d

theorem sameVblanks_onPainter {f : Painter → Painter} (d : Device)
    (hc : ∀ p, (f p).crtc = p.crtc) (hv : ∀ p, (f p).vblank = p.vblank) :
    SameVblanks d (d.onPainter f) := by
  refine ⟨rfl, ?_⟩
  cases h : d.painter <;> simp [heldVblank, h, hc, hv]

theorem sameVblanks_markDirty (rect : ClipRect) (d : Device) :
    SameVblanks d (painterMarkDirty rect d) := by
  refine sameVblanks_onPainter d (fun p => ?_) (fun p => ?_) <;>
    (unfold Painter.markDirty; split <;> rfl)

theorem sameVblanks_requestUpdate (d : Device) :
    SameVblanks d (painterRequestUpdateIoctl d).1 := by
  rcases painterRequestUpdateIoctl_device d with heq | heq
  · rw [heq]
    exact ⟨rfl, rfl⟩
  · rw [heq]
    exact sameVblanks_onPainter d (fun _ => rfl) fun _ => rfl

theorem sameVblanks_setScanoutBuffer (fb : Option Framebuffer) (d : Device) :
    SameVblanks d ((painterSetScanoutBuffer fb).exec d).1 := by
  have hsent : ((painterSetScanoutBuffer fb).exec d).1.drm.sentVblanks = d.drm.sentVblanks := by
    rw [painterSetScanoutBuffer_exec]
    rfl
  refine ⟨hsent, ?_⟩
  rw [heldVblank, heldVblank, painterSetScanoutBuffer_exec]
  cases h : d.painter <;> simp [Device.onPainter, h]

/-- The end of a session, or of the painter, sends what is held. -/
theorem sent_disconnect {file : DrmFile} {d : Device} {p : Painter} (hp : d.painter = some p)
    (hfile : p.drmFilp = some file) :
    (painterDisconnect file d).1.drm.sentVblanks = d.drm.sentVblanks ++ heldVblank d ∧
      heldVblank (painterDisconnect file d).1 = [] := by
  rw [painterDisconnect_owner hp hfile]
  simp [heldVblank, hp, Painter.disconnected, vblankPair]

/-- Sent and held together are the same, in order. -/
def Releases (d d' : Device) : Prop :=
  d'.drm.sentVblanks ++ heldVblank d' = d.drm.sentVblanks ++ heldVblank d

theorem SameVblanks.releases {d d' : Device} (h : SameVblanks d d') : Releases d d' := by
  rw [Releases, h.1, h.2]

theorem releases_disconnect (file : DrmFile) (d : Device) :
    Releases d (painterDisconnect file d).1 := by
  rcases painterDisconnect_cases file d with heq | ⟨p, hp, hfile⟩
  · rw [heq]
    exact rfl
  · obtain ⟨hsent, hheld⟩ := sent_disconnect hp hfile
    rw [Releases, hsent, hheld, List.append_nil]

theorem releases_painterSendVblank (d : Device) :
    (painterSendVblank d).drm.sentVblanks = d.drm.sentVblanks ++ heldVblank d ∧
      heldVblank (painterSendVblank d) = [] := by
  unfold painterSendVblank
  cases h : d.painter with
  | none => simp [heldVblank, h]
  | some p => simp [sendVblank_eq, heldVblank, h, vblankPair]

theorem painterCleanup_vblanks (d : Device) :
    (painterCleanup d).drm.sentVblanks = d.drm.sentVblanks ++ heldVblank d ∧
      heldVblank (painterCleanup d) = [] := by
  refine ⟨?_, rfl⟩
  cases h : d.painter with
  | none => simp [painterCleanup, putScanoutBuffer, painterSendVblank, painterEventsCleanup,
      heldVblank, h]
  | some p =>
    cases hfb : p.scanoutFb <;>
      simp [painterCleanup, putScanoutBuffer, painterSendVblank, painterEventsCleanup, sendVblank_eq,
        drmFramebufferRef, heldVblank, h, hfb]

/-- What is held is sent first; the new event is held, or sent too. -/
theorem painterSetVblank_account (crtc : Crtc) (vblank : Option VblankEvent) (d : Device) :
    (painterSetVblank (some crtc) vblank d).drm.sentVblanks ++
        heldVblank (painterSetVblank (some crtc) vblank d) =
      d.drm.sentVblanks ++ heldVblank d ++ vblankPair (some crtc) vblank := by
  unfold painterSetVblank
  cases h : d.painter with
  | none => simp [sendVblank_eq, heldVblank, h]
  | some p =>
    obtain ⟨hsent, hheld⟩ := releases_painterSendVblank d
    have hsome : ∃ q, (painterSendVblank d).painter = some q := by
      simp [painterSendVblank, sendVblank_eq, h]
    obtain ⟨q, hq⟩ := hsome
    dsimp only
    split_ifs
    · rw [Device.onPainter_drm, hsent]
      simp [heldVblank, hq]
    · rw [sendVblank_eq, Device.onDrm_drm]
      have hdrop : heldVblank ((painterSendVblank d).onDrm fun drm =>
          { drm with sentVblanks := drm.sentVblanks ++ vblankPair (some crtc) vblank }) = [] := hheld
      rw [hdrop, List.append_nil, hsent]

theorem releases_grabpixRefused {cmd cmd' : GrabpixCmd} {d d' : Device} {err : ℤ}
    (h : painterGrabpixLocked cmd d = (d', cmd', .error err)) : Releases d d' := by
  rcases painterGrabpixLocked_error h with rfl | rfl
  · exact rfl
  · exact (sameVblanks_onPainter d (by intro p; rfl) (by intro p; rfl)).releases

/-- The locked phase of a call takes over the event held. -/
theorem grabpixLocked_vblanks {cmd cmd' : GrabpixCmd} {d d' : Device} {g : Grab}
    (h : painterGrabpixLocked cmd d = (d', cmd', .ok g)) :
    d'.drm.sentVblanks = d.drm.sentVblanks ∧ heldVblank d' = [] ∧
      vblankPair g.crtc g.vblank = heldVblank d := by
  obtain ⟨p, efb, hp, -, -, rfl, rfl⟩ := painterGrabpixLocked_ok h
  simp [heldVblank, drmFramebufferRef, hp, vblankPair]

theorem sameVblanks_ddcciResponse (user : UInt64 → UserRegion) (kzalloc : Bool)
    (cmd : DdcciResponseCmd) (d : Device) :
    SameVblanks d (painterDdcciResponseIoctl user kzalloc cmd d).1 := by
  obtain ⟨buffer, length, received, h⟩ := painterDdcciResponseIoctl_device user kzalloc cmd d
  rw [h]
  exact sameVblanks_onPainter d (by intro p; rfl) (by intro p; rfl)

theorem releases_connectIoctl (user : UInt64 → UserRegion) (ans : ConnectAnswers)
    (cmd : ConnectCmd) (file : DrmFile) (d : Device) :
    Releases d (painterConnectIoctl user ans cmd file d).1 := by
  rcases painterConnectIoctl_cases user ans cmd file d with ⟨err, heq, -⟩ |
    ⟨edid, -, -, -, -, heq⟩ | ⟨-, heq⟩
  · rw [heq]
    exact rfl
  · rw [heq]
    have hsame : SameVblanks d (d.onPainter (·.connected file cmd.edidLength edid)) :=
      sameVblanks_onPainter d (fun _ => rfl) fun _ => rfl
    exact hsame.releases
  · rw [heq]
    exact releases_disconnect file d

/-- **Accounting.** A step moves events between the three places and adds those handed over. -/
theorem Step.account_perm {s t : Clients} {a : Action} (h : Step s a t) :
    (account t).Perm (account s ++ handed [a]) := by
  have hreleases : ∀ {s t : Clients} {a : Action}, Releases s.device t.device →
      t.grabs = s.grabs → handed [a] = [] → (account t).Perm (account s ++ handed [a]) := by
    intro s t a hdev hgrabs hnone
    rw [hnone, List.append_nil, account, account, hgrabs, show _ ++ _ = _ from hdev]
  cases h with
  | client hcall =>
    cases hcall with
    | requestUpdate heq =>
      obtain rfl := (congrArg Prod.fst heq).symm
      exact hreleases (sameVblanks_requestUpdate s.device).releases rfl rfl
    | grabpix heq =>
      obtain ⟨hsent, hheld, hpair⟩ := grabpixLocked_vblanks heq
      simp only [account, hsent, hheld, inFlightVblanks, List.flatMap_append, List.flatMap_cons,
        List.flatMap_nil, hpair, handed, List.append_nil]
      rw [List.append_assoc]
      exact List.perm_append_comm.append_left _
    | grabpixRefused heq => exact hreleases (releases_grabpixRefused heq) rfl rfl
    | @grabpixDone l r g env hgrabs =>
      have hfinish : (painterGrabpixFinish g s.device).drm.sentVblanks =
          s.device.drm.sentVblanks ++ vblankPair g.crtc g.vblank := by
        simp [painterGrabpixFinish, sendVblank_eq, drmFramebufferRef]
      have hheld : heldVblank (painterGrabpixFinish g s.device) = heldVblank s.device := by
        simp [painterGrabpixFinish, sendVblank_eq, drmFramebufferRef, heldVblank]
      simp only [account, hfinish, hheld, hgrabs, inFlightVblanks, List.flatMap_append,
        List.flatMap_cons, handed, List.flatMap_nil, List.append_nil, List.append_assoc]
      refine List.Perm.append_left _ ((List.perm_append_comm_assoc _ _ _).trans ?_)
      exact (List.perm_append_comm_assoc _ _ _).append_left _
    | connect user ans heq =>
      obtain rfl := (congrArg Prod.fst heq).symm
      exact hreleases (releases_connectIoctl user ans _ _ s.device) rfl rfl
    | close file =>
      have hreleased : Releases s.device (painterClose file s.device) := by
        rw [painterClose_eq]
        exact releases_disconnect file s.device
      exact hreleases hreleased rfl rfl
    | ddcciResponse user kzalloc heq =>
      obtain rfl := (congrArg Prod.fst heq).symm
      exact hreleases (sameVblanks_ddcciResponse user kzalloc _ s.device).releases rfl rfl
    | enableCursorEvents cmd => exact hreleases rfl rfl rfl
  | setVblank crtc vblank =>
    have hset := painterSetVblank_account crtc vblank s.device
    simp only [account, hset, handed, List.flatMap_cons, List.flatMap_nil, List.append_nil,
      List.append_assoc]
    exact (List.perm_append_comm.append_left _).append_left _
  | markDirty rect => exact hreleases (sameVblanks_markDirty rect _).releases rfl rfl
  | setScanoutBuffer fb => exact hreleases (sameVblanks_setScanoutBuffer fb _).releases rfl rfl
  | cleanup =>
    obtain ⟨hsent, hheld⟩ := painterCleanup_vblanks s.device
    refine hreleases ?_ rfl rfl
    show _ ++ heldVblank (painterCleanup s.device) = _
    rw [hsent, hheld, List.append_nil]

/-- **Accounting**, over a run: every event handed over is in one of the three places. -/
theorem account_run {s t : Clients} {as : List Action} (h : Run Step s as t) :
    (account t).Perm (account s ++ handed as) := by
  induction h with
  | nil => simp [handed]
  | @snoc t u as a hrun hstep ih =>
    have hhanded : handed (as ++ [a]) = handed as ++ handed [a] := by simp [handed]
    rw [hhanded, ← List.append_assoc]
    exact hstep.account_perm.trans (ih.append_right _)

/-! ### What is held can be released -/

theorem heldOk_of_none {d : Device} (h : ∀ p, d.painter = some p → p.vblank = none) :
    HeldOk d := fun p hp hv => absurd (h p hp) hv

/-- Changing the painter without giving up the connection, the last rectangle or the CRTC. -/
theorem heldOk_onPainter {d : Device} {f : Painter → Painter} (h : HeldOk d)
    (hc : ∀ p, (f p).crtc = p.crtc) (hv : ∀ p, (f p).vblank = p.vblank)
    (hconn : ∀ p, p.isConnected = true → (f p).isConnected = true)
    (hdirts : ∀ p, p.dirtyRects ≠ [] → (f p).dirtyRects ≠ []) : HeldOk (d.onPainter f) := by
  intro p' hp' hv'
  obtain ⟨p, hp, rfl⟩ := Option.map_eq_some_iff.1 hp'
  obtain ⟨hcrtc, hconnected, hrects⟩ := h p hp (hv p ▸ hv')
  exact ⟨(hc p).symm ▸ hcrtc, hconn p hconnected, hdirts p hrects⟩

theorem heldOk_disconnect {file : DrmFile} {d : Device} (h : HeldOk d) :
    HeldOk (painterDisconnect file d).1 := by
  rcases painterDisconnect_cases file d with heq | ⟨p, hp, hfile⟩
  · rwa [heq]
  · rw [painterDisconnect_owner hp hfile]
    refine heldOk_of_none ?_
    rintro p' ⟨⟩
    rfl

theorem heldOk_connectIoctl {user : UInt64 → UserRegion} {ans : ConnectAnswers} {cmd : ConnectCmd}
    {file : DrmFile} {d : Device} (h : HeldOk d) :
    HeldOk (painterConnectIoctl user ans cmd file d).1 := by
  rcases painterConnectIoctl_cases user ans cmd file d with ⟨err, heq, -⟩ |
    ⟨edid, -, -, -, -, heq⟩ | ⟨-, heq⟩
  · rwa [heq]
  · rw [heq]
    have hconnected : HeldOk (d.onPainter (·.connected file cmd.edidLength edid)) :=
      heldOk_onPainter h (fun _ => rfl) (fun _ => rfl) (fun _ _ => rfl) fun _ => id
    exact hconnected
  · rw [heq]
    exact heldOk_disconnect h

theorem heldOk_setVblank (crtc : Crtc) (vblank : Option VblankEvent) (d : Device) :
    HeldOk (painterSetVblank (some crtc) vblank d) := by
  unfold painterSetVblank
  cases h : d.painter with
  | none =>
    refine heldOk_of_none fun p hp => ?_
    simp [sendVblank_eq, h] at hp
  | some p =>
    have hsent : (painterSendVblank d).painter = some { p with crtc := none, vblank := none } := by
      simp [painterSendVblank, sendVblank_eq, h]
    dsimp only
    split_ifs with hhold
    · -- the event is held: the test was on the connection and the rectangles
      intro q hq hv
      rw [Device.onPainter_painter, hsent] at hq
      obtain rfl := Option.some.inj hq
      refine ⟨by simp, hhold.2, fun hnil => ?_⟩
      have hpos := hhold.1
      simp only [Painter.numDirts, show p.dirtyRects = [] from hnil] at hpos
      exact absurd hpos (by simp)
    · refine heldOk_of_none fun q hq => ?_
      rw [sendVblank_eq, Device.onDrm_painter, hsent] at hq
      rw [← Option.some.inj hq]

theorem heldOk_client {s t : Clients} {call : ClientCall} (h : ClientStep s call t)
    (hs : HeldOk s.device) : HeldOk t.device := by
  cases h with
  | requestUpdate heq =>
    obtain rfl := (congrArg Prod.fst heq).symm
    show HeldOk (painterRequestUpdateIoctl s.device).1
    rcases painterRequestUpdateIoctl_device s.device with heq' | heq'
    · rwa [heq']
    · rw [heq']
      exact heldOk_onPainter hs (fun _ => rfl) (fun _ => rfl) (fun _ => id) fun _ => id
  | grabpix heq =>
    obtain ⟨p, efb, hp, -, -, rfl, -⟩ := painterGrabpixLocked_ok heq
    refine heldOk_of_none fun q hq => ?_
    obtain ⟨p', -, rfl⟩ := Option.map_eq_some_iff.1 hq
    rfl
  | grabpixRefused heq =>
    rcases painterGrabpixLocked_error heq with rfl | rfl
    · exact hs
    · refine heldOk_onPainter hs (fun _ => rfl) (fun _ => rfl) (fun _ => id) fun p hp => ?_
      simpa using hp
  | grabpixDone env hgrabs =>
    show HeldOk (painterGrabpixFinish _ s.device)
    rw [painterGrabpixFinish, sendVblank_eq]
    exact hs
  | connect user ans heq =>
    obtain rfl := (congrArg Prod.fst heq).symm
    exact heldOk_connectIoctl hs
  | close file =>
    show HeldOk (painterClose file s.device)
    rw [painterClose_eq]
    exact heldOk_disconnect hs
  | @ddcciResponse d cmd ret user kzalloc heq =>
    obtain rfl := (congrArg Prod.fst heq).symm
    obtain ⟨buffer, length, received, heq'⟩ :=
      painterDdcciResponseIoctl_device user kzalloc cmd s.device
    show HeldOk (painterDdcciResponseIoctl user kzalloc cmd s.device).1
    rw [heq']
    exact heldOk_onPainter hs (by intro p; rfl) (by intro p; rfl) (by intro p h; exact h)
      (by intro p h; exact h)
  | enableCursorEvents cmd => exact hs

theorem Step.heldOk {s t : Clients} {a : Action} (h : Step s a t) (hs : HeldOk s.device) :
    HeldOk t.device := by
  cases h with
  | client hcall => exact heldOk_client hcall hs
  | setVblank crtc vblank => exact heldOk_setVblank crtc vblank _
  | markDirty rect =>
    refine heldOk_onPainter hs ?_ ?_ ?_ ?_ <;> intro p <;> unfold Painter.markDirty <;> split
    · rfl
    · rfl
    · rfl
    · rfl
    · exact id
    · exact id
    · exact id
    · exact fun _ => addDirtyRect_ne_nil _ _
  | setScanoutBuffer fb =>
    show HeldOk ((painterSetScanoutBuffer fb).exec s.device).1
    rw [painterSetScanoutBuffer_exec]
    exact heldOk_onPainter hs (fun _ => rfl) (fun _ => rfl) (fun _ => id) fun _ => id
  | cleanup => exact heldOk_of_none fun p hp => by simp [painterCleanup] at hp

/-- The owner's disconnect leaves none held. -/
theorem vblank_connectIoctl {user : UInt64 → UserRegion} {ans : ConnectAnswers} {cmd : ConnectCmd}
    {file : DrmFile} {d d' : Device} (hcmd : cmd.connected = 0)
    (h : painterConnectIoctl user ans cmd file d = (d', 0)) (p : Painter)
    (hp : d'.painter = some p) : p.vblank = none := by
  obtain ⟨q, hq, hfile, rfl⟩ := painterConnectIoctl_disconnect hcmd h
  rw [painterDisconnect_owner hq hfile] at hp
  rw [← Option.some.inj hp]
  rfl

/-! ### The results -/

/-- **Vblank events are completed exactly once and never stuck.** In every state of every run, with
fresh events handed over:

* each event is in exactly one place, once: sent, held by the painter, or held by a call in flight;
* none was sent twice;
* an event is held by the painter only while the client is connected and rectangles are pending;
* a disconnect and the cleanup leave none held. -/
theorem vblank_exactly_once {fgConsole : ℤ} {kzalloc hasSpace : Stream' Bool} {as : List Action}
    {s : Clients}
    (h : Run Step ⟨Device.init fgConsole (DrmCore.init kzalloc hasSpace), []⟩ as s)
    (hfresh : ((handed as).map Prod.snd).Nodup) :
    (∀ v ∈ (handed as).map Prod.snd,
      (s.device.drm.sentVblanks.map Prod.snd).count v +
        ((heldVblank s.device).map Prod.snd).count v +
        ((inFlightVblanks s.grabs).map Prod.snd).count v = 1) ∧
    (s.device.drm.sentVblanks.map Prod.snd).Nodup ∧
    (∀ p, s.device.painter = some p → p.vblank ≠ none →
      p.crtc ≠ none ∧ p.isConnected = true ∧ p.numDirts > 0) ∧
    (∀ cmd file t, cmd.connected = 0 → Step s (.client (.connect cmd file 0)) t →
      ∀ p, t.device.painter = some p → p.vblank = none) ∧
    (∀ t, Step s .cleanup t → t.device.painter = none) := by
  have hperm : ((account s).map Prod.snd).Perm ((handed as).map Prod.snd) := by
    have hrun := (account_run h).map Prod.snd
    simpa [account, Device.init, DrmCore.init, heldVblank, Painter.init, vblankPair,
      inFlightVblanks] using hrun
  have hheld : HeldOk s.device := by
    refine h.invariant (I := fun s => HeldOk s.device) (fun _ _ _ hs hst => hst.heldOk hs) ?_
    refine heldOk_of_none fun p hp => ?_
    rw [← Option.some.inj hp]
    rfl
  have hnodup : ((account s).map Prod.snd).Nodup := hperm.nodup_iff.2 hfresh
  refine ⟨fun v hv => ?_, ?_, fun p hp hv => ?_, fun cmd file t hcmd hstep p hp => ?_,
    fun t hstep => ?_⟩
  · have hone := List.count_eq_one_of_mem hnodup (hperm.mem_iff.2 hv)
    simpa [account, List.count_append, Nat.add_assoc] using hone
  · refine hnodup.sublist (List.Sublist.map _ ?_)
    rw [account, List.append_assoc]
    exact List.sublist_append_left _ _
  · obtain ⟨hcrtc, hconn, hdirts⟩ := hheld p hp hv
    refine ⟨hcrtc, hconn, ?_⟩
    simpa [Painter.numDirts, List.length_pos_iff] using hdirts
  · cases hstep with
    | client hcall =>
      cases hcall with
      | connect user ans heq =>
        exact vblank_connectIoctl hcmd heq p hp
  · cases hstep with
    | cleanup => rfl

/-- An event taken over by a call of the connected client, which is the only one to hold it. -/
theorem vblank_exactly_once_in_flight : ∃ as s,
    Run Step ⟨Device.init 0 (.init (.const true) (.const true)), []⟩ as s ∧
    (inFlightVblanks s.grabs).map Prod.snd = [7] ∧
    (s.device.drm.sentVblanks.map Prod.snd).count 7 +
      ((heldVblank s.device).map Prod.snd).count 7 = 0 := by
  have hrun : ∃ s, Run Step ⟨Device.init 0 (.init (.const true) (.const true)), []⟩
      [.client (.connect .sample 1 0), .setScanoutBuffer (some (.sample 1 64 64 256)),
        .markDirty ⟨0, 0, 8, 8⟩, .setVblank 0 (some 7), .client (.grabpix (.sample 64 64 256 1))] s ∧
      (inFlightVblanks s.grabs).map Prod.snd = [7] :=
    ⟨_, (((((Run.nil _).snoc (.client (.connect (fun _ => sampleUser 0) ⟨true, true⟩ rfl))).snoc
      (.setScanoutBuffer _)).snoc (.markDirty _)).snoc (.setVblank _ _)).snoc
      (.client (.grabpix rfl)), rfl⟩
  obtain ⟨s, hrun, hflight⟩ := hrun
  refine ⟨_, s, hrun, hflight, ?_⟩
  have hone := (vblank_exactly_once hrun (by decide)).1 7 (by decide)
  rw [hflight] at hone
  simpa using hone

end Vblanks

end Evdi
