import Evdi.Properties.Lifecycle

/-!
# Who owns the session

Any number of files connect, disconnect and close.  The painter is connected exactly when it has an
owner, and then it has an EDID of admitted length; only the owner can end the session, and it takes with
it all that the session held.

* `Painter.Owned`: the invariant;
* `Device.Released`: what is left after the owner has gone;
* `session_ownership`: the results.
-/

namespace Evdi

open Transition Bytes

/-- The painter is connected exactly when it has an owner, who gave it an EDID. -/
structure Painter.Owned (p : Painter) : Prop where
  connected_iff : p.isConnected = true ↔ p.drmFilp ≠ none
  edid : p.isConnected = true → ∃ edid, p.edid = some edid ∧ edid.length = p.edidLength.toNat ∧
    edidBlockSize ≤ p.edidLength.toNat ∧ p.edidLength.toNat ≤ maxEdidSize

theorem Painter.Change.owned {p q : Painter} (h : p.Change q) (hp : p.Owned) : q.Owned := by
  cases h with
  | redraw h =>
    cases h with
    | keeps => exact hp
    | mark rect =>
      unfold Painter.markDirty
      cases p.scanoutFb with
      | none => exact hp
      | some efb => exact ⟨hp.connected_iff, hp.edid⟩
    | swap fb => exact ⟨hp.connected_iff, hp.edid⟩
  | shrink numRects _ => exact ⟨hp.connected_iff, hp.edid⟩
  | grab _ => exact ⟨hp.connected_iff, hp.edid⟩
  | @connect file edidLength edid hmin hmax hlength =>
    -- an owner is replaced without a disconnect: the new one brings its own EDID
    exact ⟨by simp [Painter.connected], fun _ => ⟨edid, rfl, hlength, hmin, hmax⟩⟩
  | disconnect _ => exact ⟨by simp [Painter.disconnected], by simp [Painter.disconnected]⟩
  | ddcciResponse buffer length received => exact ⟨hp.connected_iff, hp.edid⟩

theorem Painter.Owned.of_core {p q : Painter} (h : p.core = q.core) (hp : p.Owned) : q.Owned := by
  have hview : ∀ p : Painter, p.Owned ↔ p.core.Owned :=
    fun p => ⟨fun h => ⟨h.connected_iff, h.edid⟩, fun h => ⟨h.connected_iff, h.edid⟩⟩
  rw [hview, ← h]
  exact (hview p).1 hp

theorem owned_run {fgConsole : ℤ} {drm : DrmCore} {as : List System.Action} {s : System}
    (h : Run System.Step (System.init fgConsole drm) as s) {p : Painter}
    (hp : s.device.painter = some p) : p.Owned :=
  System.painter_invariant (I := Painter.Owned) (fun _ _ => Painter.Owned.of_core)
    (fun _ _ => Painter.Change.owned) ⟨by simp [Painter.init], by simp [Painter.init]⟩ h hp

/-! ### Connecting -/

/-- The EDID is refused: its length is out of range, or it cannot be allocated or read. -/
def EdidRefused (user : UInt64 → UserRegion) (ans : ConnectAnswers) (cmd : ConnectCmd) : Prop :=
  cmd.edidLength.toNat < edidBlockSize ∨ cmd.edidLength.toNat > maxEdidSize ∨ ans.kzalloc = false ∨
    copyFromUser (user cmd.edid) cmd.edidLength.toNat = none

/-- A connect fails exactly when its EDID is refused, and then it changes nothing. -/
theorem connectIoctl_fails {user : UInt64 → UserRegion} {ans : ConnectAnswers} {cmd : ConnectCmd}
    {file : DrmFile} {d : Device} {p : Painter} (hp : d.painter = some p) (hcmd : cmd.connected ≠ 0) :
    ((painterConnectIoctl user ans cmd file d).2 ≠ 0 ↔ EdidRefused user ans cmd) ∧
      ((painterConnectIoctl user ans cmd file d).2 ≠ 0 →
        (painterConnectIoctl user ans cmd file d).1 = d) := by
  have hcall : painterConnectIoctl user ans cmd file d = painterConnect (user cmd.edid)
      cmd.edidLength cmd.pixelAreaLimit cmd.pixelPerSecondLimit file ans d := by
    simp only [painterConnectIoctl, hp, if_pos hcmd]
  rw [hcall]
  rcases painterConnect_cases (user cmd.edid) cmd.edidLength cmd.pixelAreaLimit
    cmd.pixelPerSecondLimit file ans d with ⟨err, heq, hneg, hwhy⟩ |
    ⟨edid, hmin, hmax, hk, hcopy, heq⟩
  · rw [heq]
    exact ⟨⟨fun _ => hwhy, fun _ => hneg.ne⟩, fun _ => rfl⟩
  · rw [heq]
    refine ⟨⟨fun h => absurd rfl h, ?_⟩, fun h => absurd rfl h⟩
    rintro (hsmall | hlarge | hnone | hfault)
    · omega
    · omega
    · simp [hk] at hnone
    · simp [hcopy] at hfault

/-! ### Disconnecting -/

/-- Nothing of a session is left. -/
structure Device.Released (d : Device) : Prop where
  painter : ∃ p, d.painter = some p ∧ p.isConnected = false ∧ p.drmFilp = none ∧
    p.scanoutFb = none ∧ p.crtc = none ∧ p.vblank = none ∧ p.pendingEvents = [] ∧
    p.sendEventsWorkPending = false ∧ p.ddcciBuffer = none ∧ p.ddcciBufferLength = 0
  i2cAdapter : d.i2cAdapter = false
  cursor : d.cursor.enabled = false ∧ d.cursor.obj = none

theorem released_disconnect {file : DrmFile} {d : Device} {p : Painter} (hp : d.painter = some p)
    (hfile : p.drmFilp = some file) : (painterDisconnect file d).1.Released := by
  rw [painterDisconnect_owner hp hfile]
  exact ⟨⟨p.disconnected, rfl, rfl, rfl, rfl, rfl, rfl, rfl, rfl, rfl, rfl⟩, rfl, rfl, rfl⟩

theorem disconnectIoctl_eq {user : UInt64 → UserRegion} {ans : ConnectAnswers} {cmd : ConnectCmd}
    {file : DrmFile} {d : Device} {p : Painter} (hp : d.painter = some p) (hcmd : cmd.connected = 0) :
    painterConnectIoctl user ans cmd file d = painterDisconnect file d := by
  simp [painterConnectIoctl, hp, hcmd]

/-! ### The results -/

/-- **Session ownership.** In every state of every run, with `p` the painter:

* `p` is connected exactly when it has an owner, and then it has an EDID of between 128 and 32768 bytes;
* a connect fails exactly when its EDID is refused, and then the device is as before;
* a disconnect or a close by a file that is not the owner leaves the device as it is;
* the owner's disconnect or close leaves nothing of the session. -/
theorem session_ownership {fgConsole : ℤ} {drm : DrmCore} {as : List System.Action} {s : System}
    (h : Run System.Step (System.init fgConsole drm) as s) {p : Painter}
    (hp : s.device.painter = some p) :
    ((p.isConnected = true ↔ p.drmFilp ≠ none) ∧
      (p.drmFilp ≠ none → ∃ edid, p.edid = some edid ∧ edid.length = p.edidLength.toNat ∧
        128 ≤ p.edidLength.toNat ∧ p.edidLength.toNat ≤ 32768)) ∧
    (∀ user ans cmd file, cmd.connected ≠ 0 →
      ((painterConnectIoctl user ans cmd file s.device).2 ≠ 0 ↔ EdidRefused user ans cmd) ∧
      ((painterConnectIoctl user ans cmd file s.device).2 ≠ 0 →
        (painterConnectIoctl user ans cmd file s.device).1 = s.device)) ∧
    (∀ user ans cmd file, cmd.connected = 0 → p.drmFilp ≠ some file →
      painterConnectIoctl user ans cmd file s.device = (s.device, -EFAULT) ∧
      painterClose file s.device = s.device) ∧
    (∀ user ans cmd file, cmd.connected = 0 → p.drmFilp = some file →
      (painterConnectIoctl user ans cmd file s.device).2 = 0 ∧
      (painterConnectIoctl user ans cmd file s.device).1.Released ∧
      (painterClose file s.device).Released) := by
  have howned := owned_run h hp
  refine ⟨⟨howned.connected_iff, fun hfile => howned.edid (howned.connected_iff.2 hfile)⟩,
    fun user ans cmd file hcmd => connectIoctl_fails hp hcmd, ?_, ?_⟩
  · intro user ans cmd file hcmd hother
    have hother' : s.device.painter.bind (·.drmFilp) ≠ some file := by simpa [hp] using hother
    rw [disconnectIoctl_eq hp hcmd, painterClose, if_neg hother']
    exact ⟨painterDisconnect_refused hother', rfl⟩
  · intro user ans cmd file hcmd hfile
    have howner : s.device.painter.bind (·.drmFilp) = some file := by simpa [hp] using hfile
    have hgone := released_disconnect hp hfile
    rw [disconnectIoctl_eq hp hcmd, painterClose, if_pos howner]
    exact ⟨by rw [painterDisconnect_owner hp hfile], hgone, hgone⟩

/-- File 2 connects after file 1, without a disconnect: file 1 can no longer end the session, and
file 2 can. -/
theorem session_ownership_replaced : ∃ as s p,
    Run System.Step (System.init 0 (.init (.const true) (.const true))) as s ∧
    s.device.painter = some p ∧ p.isConnected = true ∧ painterClose 1 s.device = s.device ∧
    (painterClose 2 s.device).Released := by
  have hrun : ∃ s p, Run System.Step (System.init 0 (.init (.const true) (.const true)))
      [.client (.connect .sample 1 0), .client (.connect .sample 2 0)] s ∧
      s.device.painter = some p ∧ p.isConnected = true ∧ p.drmFilp = some 2 :=
    ⟨_, _, ((Run.nil _).snoc (.client (.connect (fun _ => sampleUser 0) ⟨true, true⟩ rfl))).snoc
      (.client (.connect (fun _ => sampleUser 0) ⟨true, true⟩ rfl)), rfl, rfl, rfl⟩
  obtain ⟨s, p, hrun, hp, hconn, hfile⟩ := hrun
  obtain ⟨-, -, hother, howner⟩ := session_ownership hrun hp
  let cmd : ConnectCmd := ⟨0, 0, 0, 0, 0, 0⟩
  refine ⟨_, s, p, hrun, hp, hconn, ?_, ?_⟩
  · exact (hother (fun _ => sampleUser 0) ⟨true, true⟩ cmd 1 rfl (by simp [hfile])).2
  · exact (howner (fun _ => sampleUser 0) ⟨true, true⟩ cmd 2 rfl hfile).2.2

end Evdi
