import Evdi.Model.Hotplug
import Evdi.Properties.Lifecycle

/-!
# The desktop learns of every connection

The status of the connector follows the client as soon as no call has to look at it any more, and the
property `EDID` shows the client's EDID as soon as the announcements are answered, provided nobody takes
the place of another client, and the desktop's probes do not fail.

* `System.Step.display`: what a step does to the part of the painter that the connector shows;
* `Hotplug.Inv`, `Hotplug.Shown`: the invariants of all runs, and of orderly ones;
* `Hotplug.run_coreStep`: the core and the desktop alone come to rest;
* `Hotplug.connect_unannounced`: nobody hears of a client that takes the place of another;
* **`hotplug_shown`**: the results.
-/

namespace Evdi

open Atomic Transition Bytes

/-! ### What the connector can see -/

/-- The part of the painter that the connector shows. -/
def Painter.display (p : Painter) : Bool × Option (List UInt8) × UInt32 :=
  (p.isConnected, p.edid, p.edidLength)

/-- The connector would show the same. -/
def SameDisplay (d d' : Device) : Prop := d'.painter.map Painter.display = d.painter.map Painter.display

theorem sameDisplay_of_keepsCore {d d' : Device} (h : KeepsCore d d') : SameDisplay d d' := by
  have hcomp : Painter.display = Painter.display ∘ Painter.core := by
    funext p
    rfl
  rw [SameDisplay, hcomp, ← Option.map_map, ← Option.map_map]
  exact congrArg (Option.map Painter.display) h

theorem SameDisplay.isConnected {d d' : Device} (h : SameDisplay d d') :
    painterIsConnected d' = painterIsConnected d := by
  have hview : ∀ d : Device,
      painterIsConnected d = ((d.painter.map Painter.display).any fun v => v.1) := by
    intro d
    cases hp : d.painter <;> simp [painterIsConnected, hp, Painter.display]
  rw [hview, hview, show d'.painter.map Painter.display = d.painter.map Painter.display from h]

theorem SameDisplay.edidCopy {d d' : Device} (h : SameDisplay d d') (kmalloc : Bool) :
    painterGetEdidCopy kmalloc d' = painterGetEdidCopy kmalloc d := by
  have hview : ∀ d : Device, painterGetEdidCopy kmalloc d = (d.painter.map Painter.display).bind fun v =>
      if v.1 ∧ v.2.2 ≠ 0 then v.2.1.bind fun edid => if kmalloc then some (edid.take v.2.2.toNat) else none
      else none := by
    intro d
    cases hp : d.painter <;> simp [painterGetEdidCopy, hp, Painter.display]
  rw [hview, hview, show d'.painter.map Painter.display = d.painter.map Painter.display from h]

/-- Without a connection there is no EDID. -/
theorem painterGetEdidCopy_disconnected {kmalloc : Bool} {d : Device} (h : painterIsConnected d = false) :
    painterGetEdidCopy kmalloc d = none := by
  cases hp : d.painter with
  | none => simp [painterGetEdidCopy, hp]
  | some p =>
    have hp' : p.isConnected = false := by simpa [painterIsConnected, hp] using h
    simp [painterGetEdidCopy, hp, hp']

/-- A copy, if there is memory for it, is the whole EDID. -/
theorem painterGetEdidCopy_of_some {kmalloc : Bool} {d : Device} {edid : List UInt8}
    (h : painterGetEdidCopy kmalloc d = some edid) : painterGetEdidCopy true d = some edid := by
  cases kmalloc with
  | true => exact h
  | false => cases hp : d.painter <;> simp [painterGetEdidCopy, hp] at h

/-- What `evdi_get_modes` sets the property to is the copy of the EDID. -/
theorem head_getModes (kmalloc : Bool) (upd add : ℤ) (d : Device) :
    (getModes kmalloc upd add d).2.head?.join = painterGetEdidCopy kmalloc d := by
  unfold getModes
  cases hcopy : painterGetEdidCopy kmalloc d with
  | none => rfl
  | some edid =>
    dsimp only
    split_ifs <;> rfl

theorem CommitSection.sameDisplay {f : Device → Device} (h : CommitSection f) (d : Device) :
    SameDisplay d (f d) := by
  refine h.painter_eq (v := Painter.display) (fun p q hcore => ?_) (fun p r => ?_) (fun p fb => rfl) d
  · show p.core.display = q.core.display
    rw [hcore]
  · unfold Painter.markDirty
    cases p.scanoutFb <;> rfl

theorem sameDisplay_grabpixLocked (cmd : GrabpixCmd) (d : Device) :
    SameDisplay d (painterGrabpixLocked cmd d).1 := by
  rcases painterGrabpixLocked_cases cmd d with ⟨err, heq, -⟩ | ⟨p, hp, hnone, heq⟩ |
    ⟨p, efb, cmd', hp, hfb, -, heq⟩
  · rw [heq, SameDisplay]
  · rw [heq, SameDisplay]
    simp [hp, Painter.display]
  · rw [heq, SameDisplay, Device.onPainter_painter, drmFramebufferRef, Device.onDrm_painter, hp]
    rfl

theorem isConnected_disconnect {file : DrmFile} {d : Device} {p : Painter} (hp : d.painter = some p)
    (hfile : p.drmFilp = some file) : painterIsConnected (painterDisconnect file d).1 = false := by
  rw [painterDisconnect_owner hp hfile]
  rfl

namespace Hotplug

/-- What a call of a client does to what the connector shows, if it does anything: it connects, or ends
the connection, and it will look at the connector. -/
inductive Display (d : Device) (a : System.Action) (d' : Device) : Prop
  | same : SameDisplay d d' → Display d a d'
  | connects (cmd : ConnectCmd) (file : DrmFile) : a = .client (.connect cmd file 0) →
      cmd.connected ≠ 0 → looks d a = true → Display d a d'
  | disconnects : painterIsConnected d' = false → looks d a = true → Display d a d'

theorem display_connectIoctl {s : Clients} {d : Device} {cmd : ConnectCmd} {file : DrmFile} {ret : ℤ}
    {user : UInt64 → UserRegion} {ans : ConnectAnswers}
    (h : painterConnectIoctl user ans cmd file s.device = (d, ret)) :
    Display s.device (.client (.connect cmd file ret)) d := by
  rcases painterConnectIoctl_cases user ans cmd file s.device with ⟨err, heq, -⟩ |
    ⟨edid, hcmd, -, -, -, heq⟩ | ⟨hcmd, heq⟩
  · obtain ⟨rfl, rfl⟩ := Prod.mk.inj (heq.symm.trans h)
    exact .same rfl
  · obtain ⟨rfl, rfl⟩ := Prod.mk.inj (heq.symm.trans h)
    exact .connects cmd file rfl hcmd (by simp [looks])
  · rcases painterDisconnect_cases file s.device with hrefused | ⟨p, hp, hfile⟩
    · obtain ⟨rfl, rfl⟩ := Prod.mk.inj (hrefused.symm.trans (heq.symm.trans h))
      exact .same rfl
    · have hret : (painterDisconnect file s.device).2 = 0 := by rw [painterDisconnect_owner hp hfile]
      have hcall : painterDisconnect file s.device = (d, ret) := heq.symm.trans h
      obtain rfl : ret = 0 := by rw [← hret, hcall]
      refine .disconnects ?_ (by simp [looks])
      have hgone := isConnected_disconnect hp hfile
      rwa [hcall] at hgone

theorem display_close (file : DrmFile) (d : Device) :
    Display d (.client (.close file)) (painterClose file d) := by
  by_cases howner : d.painter.bind (·.drmFilp) = some file
  · obtain ⟨p, hp, hfile⟩ := Option.bind_eq_some_iff.1 howner
    refine .disconnects ?_ (by simp [looks, howner])
    rw [painterClose_eq]
    exact isConnected_disconnect hp hfile
  · refine .same ?_
    rw [painterClose, if_neg howner]
    rfl

theorem display_client {s t : Clients} {call : ClientCall} (h : ClientStep s call t) :
    Display s.device (.client call) t.device := by
  cases h with
  | @requestUpdate d ret heq =>
    obtain rfl : (painterRequestUpdateIoctl s.device).1 = d := congrArg Prod.fst heq
    exact .same (sameDisplay_of_keepsCore (keepsCore_requestUpdate s.device))
  | @grabpix d cmd cmd' g heq =>
    obtain rfl : (painterGrabpixLocked cmd s.device).1 = d := congrArg Prod.fst heq
    exact .same (sameDisplay_grabpixLocked cmd s.device)
  | @grabpixRefused d cmd cmd' err heq =>
    obtain rfl : (painterGrabpixLocked cmd s.device).1 = d := congrArg Prod.fst heq
    exact .same (sameDisplay_grabpixLocked cmd s.device)
  | @grabpixDone l r g env hgrabs =>
    exact .same (sameDisplay_of_keepsCore (keepsCore_of_eq (painter_sendVblank g.crtc g.vblank s.device)))
  | connect user ans heq => exact display_connectIoctl heq
  | close file => exact display_close file s.device
  | @ddcciResponse d cmd ret user kzalloc heq =>
    obtain rfl : (painterDdcciResponseIoctl user kzalloc cmd s.device).1 = d := congrArg Prod.fst heq
    obtain ⟨buffer, length, received, hd⟩ := painterDdcciResponseIoctl_device user kzalloc cmd s.device
    refine .same ?_
    rw [hd, SameDisplay, Device.onPainter_painter, Option.map_map]
    rfl
  | enableCursorEvents cmd => exact .same rfl

/-- **What a step of the system does** to what the connector shows. -/
theorem display_step {s t : System} {a : System.Action} (ha : a ≠ .cleanup) (h : System.Step s a t)
    (hs : s.ThreadsUse CommitSection) :
    Display s.device a t.device ∧ t.ThreadsUse CommitSection := by
  refine ⟨?_, (h.device_cases (fun _ => KernelThread.uses) hs).2⟩
  cases h with
  | client hcall => exact display_client hcall
  | kernel hpool =>
    refine .same ?_
    rcases (System.kernel_cases (fun _ => KernelThread.uses) hpool hs).1 with heq | ⟨f, hf, heq⟩
    · rw [heq, SameDisplay]
    · rw [heq]
      exact hf.sameDisplay s.device
  | cleanup => exact absurd rfl ha

/-! ### The status -/

/-- The status is the client's, unless a call has still to look; a probe asks for modes only when it has
found a connection. -/
structure Inv (s : Hotplug) : Prop where
  threads : s.toSystem.ThreadsUse CommitSection
  status : s.hpds = 0 → (s.connector.status = .connected ↔ painterIsConnected s.device = true)
  probing : s.probing = true → s.connector.status = .connected

variable {s t : Hotplug} {a : Action}

theorem evdiDetect_eq_connected (d : Device) :
    evdiDetect d = .connected ↔ painterIsConnected d = true := by
  unfold evdiDetect
  split_ifs with hconnected <;> simp [hconnected]

/-- A step that looks leaves a look to be made. -/
theorem hpds_pos {d : Device} {b : System.Action} {n : ℕ} (h : looks d b = true) :
    (if looks d b then n + 1 else n) ≠ 0 := by
  rw [if_pos h]
  exact Nat.succ_ne_zero n

theorem probe_disconnected (h : painterIsConnected s.device = false) :
    s.probe.connector = ⟨.disconnected, none⟩ ∧ s.probe.probing = s.probing := by
  have hstatus : evdiDetect s.device = .disconnected := by simp [evdiDetect, h]
  have hne : ¬ ConnectorStatus.disconnected = .connected := by decide
  simp [probe, detect, hstatus, hne, Connector.updateEdidProperty]

theorem probe_connected (h : painterIsConnected s.device = true) :
    s.probe.connector = { s.connector with status := .connected } ∧ s.probe.probing = true := by
  have hstatus : evdiDetect s.device = .connected := (evdiDetect_eq_connected _).2 h
  simp [probe, detect, hstatus]

@[simp] theorem probe_toSystem : s.probe.toSystem = s.toSystem := by
  unfold probe
  dsimp only
  split_ifs <;> rfl

@[simp] theorem probe_hpds : s.probe.hpds = s.hpds := by
  unfold probe
  dsimp only
  split_ifs <;> rfl

theorem probe_announced :
    s.probe.announced = (s.connector.status != evdiDetect s.device) := by
  unfold probe
  dsimp only
  split_ifs <;> simp [detect]

theorem getModes_connector (kmalloc : Bool) (upd add : ℤ) : (s.getModes kmalloc upd add).connector =
    s.connector.updateEdidProperty upd (painterGetEdidCopy kmalloc s.device) := by
  rw [getModes, head_getModes]

theorem updateEdidProperty_status (ret : ℤ) (edid : Option (List UInt8)) (c : Connector) :
    (c.updateEdidProperty ret edid).status = c.status := by
  unfold Connector.updateEdidProperty
  split_ifs <;> rfl

theorem Inv.step (hs : Inv s) (h : Step s a t) : Inv t := by
  cases h with
  | @system u b hb hstep =>
    obtain ⟨hdisplay, hthreads⟩ := display_step hb hstep hs.threads
    refine ⟨hthreads, fun hhpds => ?_, hs.probing⟩
    rcases hdisplay with hsame | ⟨cmd, file, -, -, hlooks⟩ | ⟨-, hlooks⟩
    · rw [hsame.isConnected]
      refine hs.status ?_
      dsimp only at hhpds
      split_ifs at hhpds
      exact hhpds
    · exact absurd hhpds (hpds_pos hlooks)
    · exact absurd hhpds (hpds_pos hlooks)
  | hpdIrqEvent hprobing hpos =>
    refine ⟨hs.threads, fun _ => evdiDetect_eq_connected s.device, fun h => ?_⟩
    exact absurd (hprobing.symm.trans h) Bool.false_ne_true
  | probe hprobing =>
    refine ⟨by simpa using hs.threads, fun _ => ?_, fun h => ?_⟩
    · rw [probe_toSystem]
      cases hconnected : painterIsConnected s.device with
      | false => simp [(probe_disconnected hconnected).1]
      | true => simp [(probe_connected hconnected).1]
    · cases hconnected : painterIsConnected s.device with
      | false =>
        rw [(probe_disconnected hconnected).2, hprobing] at h
        exact absurd h Bool.false_ne_true
      | true => rw [(probe_connected hconnected).1]
  | getModes kmalloc upd add hprobing =>
    refine ⟨hs.threads, fun hhpds => ?_, fun h => absurd h Bool.false_ne_true⟩
    rw [getModes_connector, updateEdidProperty_status]
    exact hs.status hhpds

theorem inv_init (fgConsole : ℤ) (drm : DrmCore) : Inv (init fgConsole drm) :=
  ⟨System.threadsUse_init _ _ _, fun _ => by simp [init, System.init, Device.init, painterIsConnected,
    Painter.init], fun h => absurd h Bool.false_ne_true⟩

/-! ### The EDID -/

/-- What the property shows when no probe is under way and every announcement was answered: nothing while
the connector does not count as connected, and the client's EDID while it does and is. -/
structure Shown (s : Hotplug) : Prop where
  apart : s.probing = false → s.announced = false → s.connector.status ≠ .connected →
    s.connector.edid = none
  shown : s.probing = false → s.announced = false → s.connector.status = .connected →
    painterIsConnected s.device = true → s.connector.edid = painterGetEdidCopy true s.device

theorem detect_announced (h : s.detect.announced = false) :
    s.announced = false ∧ s.connector.status = evdiDetect s.device := by
  simpa [detect] using h

theorem Shown.step (hs : Shown s) (hinv : Inv s) (h : OrderlyStep s a t) : Shown t := by
  obtain ⟨hstep, horderly⟩ := h
  cases hstep with
  | @system u b hb hstep =>
    obtain ⟨hdisplay, -⟩ := display_step hb hstep hinv.threads
    refine ⟨hs.apart, fun hprobing hannounced hstatus hconnected => ?_⟩
    dsimp only at hprobing hannounced hstatus hconnected ⊢
    rcases hdisplay with hsame | ⟨cmd, file, rfl, hcmd, -⟩ | ⟨hgone, -⟩
    · rw [hsame.edidCopy]
      exact hs.shown hprobing hannounced hstatus (hsame.isConnected ▸ hconnected)
    · exact absurd hstatus (horderly hcmd rfl)
    · exact absurd (hgone.symm.trans hconnected) Bool.false_ne_true
  | hpdIrqEvent hprobing hpos =>
    -- without a change, the status is what it was
    refine ⟨fun _ hannounced hstatus => ?_, fun _ hannounced hstatus hconnected => ?_⟩
    · obtain ⟨hquiet, hsame⟩ := detect_announced hannounced
      exact hs.apart hprobing hquiet (hsame ▸ hstatus)
    · obtain ⟨hquiet, hsame⟩ := detect_announced hannounced
      exact hs.shown hprobing hquiet (hsame ▸ hstatus) hconnected
  | probe hprobing =>
    cases hconnected : painterIsConnected s.device with
    | false =>
      obtain ⟨hconnector, -⟩ := probe_disconnected hconnected
      refine ⟨fun _ _ _ => by rw [hconnector], fun _ _ _ h => ?_⟩
      rw [probe_toSystem, hconnected] at h
      exact absurd h Bool.false_ne_true
    | true =>
      obtain ⟨-, hprobes⟩ := probe_connected hconnected
      exact ⟨fun h => absurd (h.symm.trans hprobes) Bool.false_ne_true,
        fun h => absurd (h.symm.trans hprobes) Bool.false_ne_true⟩
  | getModes kmalloc upd add hprobing =>
    obtain ⟨rfl, hupd⟩ : kmalloc = true ∧ upd = 0 := horderly
    have hconnector : (s.getModes true upd add).connector =
        { s.connector with edid := painterGetEdidCopy true s.device } := by
      rw [getModes_connector, Connector.updateEdidProperty, if_pos hupd]
    refine ⟨fun _ _ hstatus => ?_, fun _ _ _ _ => by rw [hconnector]; rfl⟩
    rw [hconnector] at hstatus
    exact absurd (hinv.probing hprobing) hstatus

theorem shown_init (fgConsole : ℤ) (drm : DrmCore) : Shown (init fgConsole drm) :=
  ⟨fun _ _ _ => rfl, fun _ _ h => absurd h (by simp [init])⟩

theorem shown_run {fgConsole : ℤ} {drm : DrmCore} {as : List Action}
    (h : Run OrderlyStep (init fgConsole drm) as s) : Inv s ∧ Shown s :=
  h.invariant (I := fun s => Inv s ∧ Shown s)
    (fun _ _ _ hs hstep => ⟨hs.1.step hstep.1, hs.2.step hs.1 hstep⟩)
    ⟨inv_init fgConsole drm, shown_init fgConsole drm⟩

/-- Quiet, the property shows the EDID of the client, or that there is none. -/
theorem Shown.quiet (hs : Shown s) (hinv : Inv s) (hquiet : s.Quiet) :
    s.connector.edid = painterGetEdidCopy true s.device := by
  obtain ⟨hhpds, hprobing, hannounced⟩ := hquiet
  have hstatus := hinv.status hhpds
  cases hconnected : painterIsConnected s.device with
  | false =>
    rw [painterGetEdidCopy_disconnected hconnected]
    exact hs.apart hprobing hannounced fun h => Bool.false_ne_true (hconnected ▸ hstatus.1 h)
  | true => exact hs.shown hprobing hannounced (hstatus.2 hconnected) hconnected

/-- What the property shows was the EDID of the client at an earlier moment of the run. -/
theorem edid_earlier {s₀ : Hotplug} (h₀ : s₀.connector.edid = none) {as : List Action}
    (h : Run Step s₀ as s) {edid : List UInt8} (hedid : s.connector.edid = some edid) :
    ∃ bs u, bs <+: as ∧ Run Step s₀ bs u ∧ painterGetEdidCopy true u.device = some edid := by
  induction h with
  | nil =>
    rw [h₀] at hedid
    exact absurd hedid (by simp)
  | @snoc t u as a hrun hstep ih =>
    have hearlier : t.connector.edid = some edid →
        ∃ bs v, bs <+: as ++ [a] ∧ Run Step s₀ bs v ∧ painterGetEdidCopy true v.device = some edid := by
      intro hedid
      obtain ⟨bs, v, hprefix, hv, hcopy⟩ := ih hedid
      exact ⟨bs, v, hprefix.trans (List.prefix_append as [a]), hv, hcopy⟩
    cases hstep with
    | system hb hstep => exact hearlier hedid
    | hpdIrqEvent hprobing hpos => exact hearlier hedid
    | probe hprobing =>
      cases hconnected : painterIsConnected t.device with
      | false =>
        rw [(probe_disconnected hconnected).1] at hedid
        exact absurd hedid (by simp)
      | true =>
        rw [(probe_connected hconnected).1] at hedid
        exact hearlier hedid
    | getModes kmalloc upd add hprobing =>
      rw [getModes_connector] at hedid
      unfold Connector.updateEdidProperty at hedid
      split_ifs at hedid
      · exact ⟨as, t, List.prefix_append as _, hrun, painterGetEdidCopy_of_some hedid⟩
      · exact hearlier hedid

/-! ### The way to rest -/

/-- What the core and the desktop have still to do: a status that is not the device's brings about an
announcement, which brings about a probe. -/
def toDo (s : Hotplug) : ℕ :=
  s.hpds + (if s.connector.status = evdiDetect s.device then 0 else 4) + 2 * s.announced.toNat +
    s.probing.toNat

theorem toDo_le (s : Hotplug) : s.toDo ≤ s.hpds + 7 := by
  have hannounced := s.announced.toNat_le
  have hprobing := s.probing.toNat_le
  unfold toDo
  split_ifs <;> omega

/-- The core and the desktop leave the device alone, and get on. -/
theorem CoreStep.toDo_lt (h : CoreStep s a t) : t.toSystem = s.toSystem ∧ t.toDo < s.toDo := by
  obtain ⟨hstep, hcore, hanswers⟩ := h
  cases hstep with
  | system hb hstep => exact absurd rfl (hcore _)
  | hpdIrqEvent hprobing hpos =>
    refine ⟨rfl, ?_⟩
    by_cases hstatus : s.connector.status = evdiDetect s.device
    · simp [toDo, detect, hstatus]
      omega
    · have hle := (s.announced || s.connector.status != evdiDetect s.device).toNat_le
      simp only [toDo, detect, if_pos, if_neg hstatus]
      omega
  | probe hprobing =>
    refine ⟨probe_toSystem, ?_⟩
    have hannounced : s.announced = true := hanswers rfl
    have hle := s.probe.probing.toNat_le
    have hfound : s.probe.connector.status = evdiDetect s.device := by
      cases hconnected : painterIsConnected s.device with
      | false => simp [(probe_disconnected hconnected).1, evdiDetect, hconnected]
      | true => simp [(probe_connected hconnected).1, evdiDetect, hconnected]
    rw [toDo, toDo, probe_toSystem, probe_hpds, if_pos hfound, probe_announced, hannounced]
    by_cases hstatus : s.connector.status = evdiDetect s.device
    · simp [hstatus]
      omega
    · have hle' := (s.connector.status != evdiDetect s.device).toNat_le
      rw [if_neg hstatus]
      simp only [Bool.toNat_true]
      omega
  | getModes kmalloc upd add hprobing =>
    refine ⟨rfl, ?_⟩
    have hstatus : (s.getModes kmalloc upd add).connector.status = s.connector.status := by
      rw [getModes_connector, updateEdidProperty_status]
    rw [toDo, toDo, hstatus, hprobing]
    exact Nat.lt_succ_self _

/-- Who is not at rest can get on. -/
theorem exists_coreStep (h : ¬ s.Quiet) : ∃ a t, CoreStep s a t := by
  cases hprobing : s.probing with
  | true => exact ⟨_, _, .getModes true 0 0 hprobing, by simp, by simp⟩
  | false =>
    rcases Nat.eq_zero_or_pos s.hpds with hhpds | hpos
    · have hannounced : s.announced = true := by
        by_contra hnot
        exact h ⟨hhpds, hprobing, by simpa using hnot⟩
      exact ⟨_, _, .probe hprobing, by simp, fun _ => hannounced⟩
    · exact ⟨_, _, .hpdIrqEvent hprobing hpos, by simp, by simp⟩

/-- **Rest.** The core and the desktop alone take few steps, whatever their order, and stop only at rest. -/
theorem run_coreStep {bs : List Action} (h : Run CoreStep s bs t) :
    t.toSystem = s.toSystem ∧ bs.length + t.toDo ≤ s.toDo := by
  induction h with
  | nil => exact ⟨rfl, by simp⟩
  | snoc _ hstep ih =>
    obtain ⟨hsystem, hlt⟩ := hstep.toDo_lt
    refine ⟨hsystem.trans ih.1, ?_⟩
    have hle := ih.2
    rw [List.length_append, List.length_singleton]
    omega

/-! ### A client that takes the place of another -/

/-- A client that has connected is there. -/
theorem isConnected_connect {u t : System} {cmd : ConnectCmd} {file : DrmFile}
    (hpainter : painterIsConnected u.device = true) (hcmd : cmd.connected ≠ 0)
    (h : System.Step u (.client (.connect cmd file 0)) t) : painterIsConnected t.device = true := by
  cases hp : u.device.painter with
  | none => simp [painterIsConnected, hp] at hpainter
  | some p =>
    cases h with
    | client hcall =>
      cases hcall with
      | @connect d _ _ _ user ans heq =>
        rcases painterConnectIoctl_cases user ans cmd file u.device with ⟨err, hret, hneg⟩ |
          ⟨edid, -, -, -, -, hret⟩ | ⟨hzero, -⟩
        · rw [hret] at heq
          exact absurd (congrArg Prod.snd heq) hneg.ne
        · obtain rfl := congrArg Prod.fst (hret.symm.trans heq)
          simp [painterIsConnected, hp, Painter.connected]
        · exact absurd hzero hcmd

/-- **Nobody is told.** At rest with a client, another client connects, and the core looks: that is rest
again, and the desktop keeps what it has. -/
theorem connect_unannounced (hs : Inv s) (hquiet : s.Quiet) (hconnected : painterIsConnected s.device = true)
    {cmd : ConnectCmd} {file : DrmFile} (hcmd : cmd.connected ≠ 0)
    (h : Step s (.system (.client (.connect cmd file 0))) t) : painterIsConnected t.device = true ∧
      ∃ u, Step t .hpdIrqEvent u ∧ u.toSystem = t.toSystem ∧ u.Quiet ∧ u.connector = s.connector := by
  obtain ⟨hhpds, hprobing, hannounced⟩ := hquiet
  have hstatus : s.connector.status = .connected := (hs.status hhpds).2 hconnected
  cases h with
  | @system v _ hb hstep =>
    have hthere : painterIsConnected v.device = true := isConnected_connect hconnected hcmd hstep
    have hfound : evdiDetect v.device = .connected := (evdiDetect_eq_connected _).2 hthere
    have hlooks : looks s.device (.client (.connect cmd file 0)) = true := by simp [looks]
    refine ⟨hthere, _, .hpdIrqEvent hprobing (by simp [hlooks]), rfl,
      ⟨by simp [hlooks, hhpds], hprobing, ?_⟩, ?_⟩
    · simp [detect, hannounced, hstatus, hfound]
    · simp [detect, hfound, ← hstatus]

/-- A kernel in which nothing fails. -/
def sampleDrm : DrmCore := .init (.const true) (.const true)

/-- The connect of `file`, with an EDID of 128 bytes `b`. -/
theorem step_connect (b : UInt8) (file : DrmFile) (s : Hotplug)
    (hret : (painterConnectIoctl (fun _ => sampleUser b) ⟨true, true⟩ .sample file s.device).2 = 0) :
    Step s (.system (.client (.connect .sample file 0))) { s with
      device := (painterConnectIoctl (fun _ => sampleUser b) ⟨true, true⟩ .sample file s.device).1
      hpds := s.hpds + 1 } := by
  have hcall : ClientStep s.toClients (.connect .sample file 0) { s.toClients with
      device := (painterConnectIoctl (fun _ => sampleUser b) ⟨true, true⟩ .sample file s.device).1 } :=
    .connect (fun _ => sampleUser b) ⟨true, true⟩ (Prod.ext rfl hret)
  exact Step.system (by simp) (.client hcall)

/-- File 2 connects while file 1 is connected: the core finds the status unchanged and announces nothing,
and the desktop keeps the EDID of file 1. -/
theorem edid_stale : ∃ as s t, Run Step (init 0 sampleDrm) as s ∧ s.Quiet ∧
    s.device.painter.bind (·.drmFilp) = some 1 ∧ s.connector.edid = painterGetEdidCopy true s.device ∧
    Run Step s [.system (.client (.connect .sample 2 0)), .hpdIrqEvent] t ∧ t.Quiet ∧
    t.connector = s.connector ∧ t.connector.edid = some (List.replicate 128 0) ∧
    painterGetEdidCopy true t.device = some (List.replicate 128 1) := by
  have hfirst := step_connect 0 1 (init 0 sampleDrm) rfl
  exact ⟨_, _, _, ((((Run.nil _).snoc hfirst).snoc (.hpdIrqEvent rfl (Nat.succ_pos _))).snoc
    (.probe rfl)).snoc (.getModes true 0 0 rfl), ⟨rfl, rfl, rfl⟩, rfl, rfl,
    (Run.one (step_connect 1 2 _ rfl)).snoc (.hpdIrqEvent rfl (Nat.succ_pos _)), ⟨rfl, rfl, rfl⟩,
    rfl, rfl, rfl⟩

/-- **The desktop learns of every connection.** In every state of every run:

* when no call has still to look at the connector, its status is `connected` exactly while a client is;
* what the property `EDID` shows was the EDID of the client, whole, at some moment of the run;
* the core and the desktop alone come to rest, in at most seven steps more than there are calls that have
  still to look;
* at rest with a client, a client that takes its place is not announced, and the desktop keeps the EDID it
  has.

When the run was orderly and has come to rest, the property shows the EDID of the client, or nothing when
there is no client. A second client with another EDID is never seen. -/
theorem hotplug_shown :
    (∀ fgConsole drm as s, Run Step (init fgConsole drm) as s →
      (s.hpds = 0 → (s.connector.status = .connected ↔ painterIsConnected s.device = true)) ∧
      (∀ edid, s.connector.edid = some edid → ∃ bs u, bs <+: as ∧
        Run Step (init fgConsole drm) bs u ∧ painterGetEdidCopy true u.device = some edid) ∧
      (∀ bs t, Run CoreStep s bs t → t.toSystem = s.toSystem ∧ bs.length ≤ s.hpds + 7 ∧
        (t.Quiet ∨ ∃ a u, CoreStep t a u)) ∧
      (s.Quiet → painterIsConnected s.device = true → ∀ cmd file t, cmd.connected ≠ 0 →
        Step s (.system (.client (.connect cmd file 0))) t → painterIsConnected t.device = true ∧
        ∃ u, Step t .hpdIrqEvent u ∧ u.toSystem = t.toSystem ∧ u.Quiet ∧ u.connector = s.connector)) ∧
    (∀ fgConsole drm as s, Run OrderlyStep (init fgConsole drm) as s → s.Quiet →
      s.connector.edid = painterGetEdidCopy true s.device) ∧
    ∃ as s t, Run Step (init 0 sampleDrm) as s ∧ s.Quiet ∧
      s.device.painter.bind (·.drmFilp) = some 1 ∧ s.connector.edid = painterGetEdidCopy true s.device ∧
      Run Step s [.system (.client (.connect .sample 2 0)), .hpdIrqEvent] t ∧ t.Quiet ∧
      t.connector = s.connector ∧ painterIsConnected t.device = true ∧
      t.connector.edid ≠ painterGetEdidCopy true t.device := by
  have hinv : ∀ {fgConsole drm as s}, Run Step (init fgConsole drm) as s → Inv s := fun h =>
    h.invariant (fun _ _ _ hs hstep => hs.step hstep) (inv_init _ _)
  refine ⟨fun fgConsole drm as s h => ⟨(hinv h).status, ?_, fun bs t hbs => ?_, ?_⟩,
    fun fgConsole drm as s h hquiet => ?_, ?_⟩
  · exact fun edid hedid => edid_earlier rfl h hedid
  · obtain ⟨hsystem, hle⟩ := run_coreStep hbs
    have hbound := s.toDo_le
    refine ⟨hsystem, by omega, ?_⟩
    by_cases hquiet : t.Quiet
    · exact .inl hquiet
    · exact .inr (exists_coreStep hquiet)
  · exact fun hquiet hconnected cmd file t hcmd hstep =>
      connect_unannounced (hinv h) hquiet hconnected hcmd hstep
  · obtain ⟨hinv, hshown⟩ := shown_run h
    exact hshown.quiet hinv hquiet
  · obtain ⟨as, s, t, hrun, hquiet, hfile, hedid, hsecond, hquiet', hconnector, hkept, hcopy⟩ :=
      edid_stale
    have hthere : painterIsConnected t.device = true := by
      by_contra hnot
      rw [painterGetEdidCopy_disconnected (by simpa using hnot)] at hcopy
      exact absurd hcopy (by simp)
    refine ⟨as, s, t, hrun, hquiet, hfile, hedid, hsecond, hquiet', hconnector, hthere, ?_⟩
    rw [hkept, hcopy]
    decide

end Hotplug

end Evdi
