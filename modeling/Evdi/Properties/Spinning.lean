import Evdi.Model.Library
import Evdi.Properties.Capacity

/-!
# Grabbing without a frame

Without a scanout buffer a `GRABPIX` call asks for another one (`-EAGAIN`), and the library makes it.
The structure it makes it with has `num_rects` as the driver left it: with nothing pending it is 0 and
the next call is refused, but rectangles that are still pending keep the loop going.

* `ioctl_scanout`, `ioctl_refused`, `ioctl_again`: the outcomes of one request;
* `Device.Orphaned`: rectangles are pending without a scanout buffer;
* `grab_returns_iff`: the loop ends exactly when the device is not orphaned, and when it gets there.
-/

namespace Evdi

open Atomic Bytes Retry Transition

/-- Rectangles are pending, and there is no scanout buffer to copy them from. -/
def Device.Orphaned (d : Device) : Prop :=
  d.painter.bind (·.scanoutFb) = none ∧ d.dirtyRects ≠ []

/-! ### One request -/

theorem copyRects_ret (fb : Framebuffer) (mem : Memory) (stride maxX maxY : ℤ) (rects : List ClipRect)
    (buffer : UserRegion) : (copyRects fb mem stride maxX maxY rects buffer).2 = 0 ∨
      (copyRects fb mem stride maxX maxY rects buffer).2 = -EFAULT := by
  induction rects generalizing buffer with
  | nil => exact .inl rfl
  | cons r rects ih =>
    rw [copyRects]
    dsimp only
    split_ifs
    · exact .inr rfl
    · exact .inr rfl
    · exact ih _

theorem copyRowsOnXe_ret (fb : Framebuffer) (mem : Memory) (stride span : ℤ) (n y : ℕ)
    (buffer : UserRegion) : (copyRowsOnXe fb mem stride span n y buffer).2 = 0 ∨
      (copyRowsOnXe fb mem stride span n y buffer).2 = -EFAULT := by
  induction n generalizing y buffer with
  | zero => exact .inl rfl
  | succ n ih =>
    rw [copyRowsOnXe]
    dsimp only
    split_ifs
    · exact .inr rfl
    · exact ih _ _

/-- No outcome of the copy asks for another call. -/
theorem ioctlAgain_copy (env : GrabEnv) (g : Grab) (d : Device) :
    ioctlAgain (painterGrabpixCopy env g d).ret = false := by
  have hcopy : ∀ mem buffer stride maxX maxY, ioctlAgain
      (copyPrimaryPixels g.efb mem buffer stride g.dirtyRects maxX maxY).2 = false := by
    intro mem buffer stride maxX maxY
    unfold copyPrimaryPixels copyPrimaryPixelsOnXe
    split_ifs
    · rcases copyRowsOnXe_ret g.efb mem stride (Words.s32 (maxX * 4)) maxY.toNat 0 buffer with h | h <;>
        rw [h] <;> rfl
    · rcases copyRects_ret g.efb mem stride maxX maxY g.dirtyRects buffer with h | h <;>
        rw [h] <;> rfl
  unfold painterGrabpixCopy
  dsimp only
  split_ifs
  · rfl
  · rfl
  · rfl
  · rfl
  · exact hcopy _ _ _ _ _
  · exact hcopy _ _ _ _ _

section

variable {s : GrabRequest}

/-- With a scanout buffer, one request is enough. -/
theorem ioctl_scanout {p : Painter} {efb : Framebuffer} (hmode : s.grab.mode = grabpixModeDirty)
    (hnum : ¬ s.grab.numRects < 1) (hp : s.device.painter = some p) (hfb : p.scanoutFb = some efb) :
    ioctlAgain s.ioctl.2.1 = false := by
  have hlocked := painterGrabpixLocked_scanout hmode hnum hp hfb
  simp only [GrabRequest.ioctl, painterGrabpixIoctl, hlocked]
  exact ioctlAgain_copy _ _ _

/-- A request that offers no slot is refused, and so is one to a device without a painter. -/
theorem ioctl_refused (h : s.grab.numRects < 1 ∨ s.device.painter = none) :
    ioctlAgain s.ioctl.2.1 = false ∧ s.ioctl.2.1 ≠ 0 := by
  unfold GrabRequest.ioctl painterGrabpixIoctl painterGrabpixLocked
  by_cases hmode : s.grab.mode ≠ grabpixModeDirty
  · simp only [if_pos hmode]
    exact ⟨rfl, by decide⟩
  · by_cases hnum : s.grab.numRects < 1
    · simp only [if_neg hmode, if_pos hnum]
      exact ⟨rfl, by decide⟩
    · simp only [if_neg hmode, if_neg hnum, h.resolve_left hnum]
      exact ⟨rfl, by decide⟩

/-- Without a scanout buffer the request merges the rectangles, reports how many there are, and asks for
another one. -/
theorem ioctl_again {p : Painter} (hmode : s.grab.mode = grabpixModeDirty)
    (hnum : ¬ s.grab.numRects < 1) (hp : s.device.painter = some p) (hfb : p.scanoutFb = none) :
    let rects := shrinkDirtyRects s.grab.numRects p.dirtyRects
    s.ioctl = (⟨s.device.onPainter fun p =>
      { p with dirtyRects := shrinkDirtyRects s.grab.numRects p.dirtyRects },
        s.grab.setNumRects rects.length, s.envs.tail⟩, -EAGAIN, []) := by
  intro rects
  have hneg : ¬ p.numDirts < 0 := by simp [Painter.numDirts]
  have hmode' : ¬ s.grab.mode ≠ grabpixModeDirty := not_not.2 hmode
  have hrects : s.device.onPainter (fun q => { q with dirtyRects := rects }) =
      s.device.onPainter fun p =>
        { p with dirtyRects := shrinkDirtyRects s.grab.numRects p.dirtyRects } := by
    simp [Device.onPainter, hp, rects]
  rw [← hrects]
  simp only [GrabRequest.ioctl, painterGrabpixIoctl, painterGrabpixLocked, if_neg hmode', if_neg hnum,
    hp, if_neg hneg, hfb]
  rfl

end

/-! ### The loop -/

/-- An orphaned device keeps the loop going: the rectangles are merged again and again, and there is
always one left. -/
theorem spins_of_orphaned {s : GrabRequest} (hmode : s.grab.mode = grabpixModeDirty)
    (hnum : ¬ s.grab.numRects < 1) (hd : s.device.Orphaned) (n : ℕ) :
    retry (fun r => ioctlAgain r.1) GrabRequest.ioctl n s = none := by
  refine not_returns (I := fun s => s.grab.mode = grabpixModeDirty ∧ ¬ s.grab.numRects < 1 ∧
    s.device.Orphaned) ?_ ⟨hmode, hnum, hd⟩ n
  rintro s ⟨hmode, hnum, hscanout, hrects⟩
  obtain ⟨p, hp⟩ : ∃ p, s.device.painter = some p := by
    cases h : s.device.painter with
    | none => simp [Device.dirtyRects, h] at hrects
    | some p => exact ⟨p, rfl⟩
  have hfb : p.scanoutFb = none := by simpa [hp] using hscanout
  rw [Device.dirtyRects_some hp] at hrects
  rw [ioctl_again hmode hnum hp hfb]
  -- what is reported is at least one rectangle, and no more than was offered
  have hleft : shrinkDirtyRects s.grab.numRects p.dirtyRects ≠ [] := by simpa using hrects
  have hpos := List.length_pos_iff.2 hleft
  have hle := length_shrinkDirtyRects_le hnum p.dirtyRects
  have hmax := s.grab.numRects.toInt_lt
  refine ⟨⟨hmode, ?_, ?_, ?_⟩, rfl⟩
  · show ¬ Int32.ofNat _ < 1
    rw [Int32.lt_iff_toInt_lt, Int32.toInt_ofNat_of_lt (by omega)]
    show ¬ ((_ : ℕ) : ℤ) < 1
    omega
  · simp [hp, hfb]
  · simpa [Device.dirtyRects, hp] using hrects

/-- Otherwise the loop ends, and not with success when there is no scanout buffer. -/
theorem returns_of_not_orphaned {s : GrabRequest} (hmode : s.grab.mode = grabpixModeDirty)
    (hnum : ¬ s.grab.numRects < 1) (hd : ¬ s.device.Orphaned) :
    ∃ r, Returns (fun r => ioctlAgain r.1) GrabRequest.ioctl s r ∧
      (s.device.painter.bind (·.scanoutFb) = none → r.2.1 ≠ 0) := by
  cases hp : s.device.painter with
  | none =>
    obtain ⟨hstop, hfailed⟩ := ioctl_refused (s := s) (.inr hp)
    exact ⟨_, returns_of_stop hstop, fun _ => hfailed⟩
  | some p =>
    cases hfb : p.scanoutFb with
    | some efb =>
      refine ⟨_, returns_of_stop (ioctl_scanout hmode hnum hp hfb), ?_⟩
      simp [hfb]
    | none =>
      -- the first call leaves no slot, and the second one is refused
      have hrects : p.dirtyRects = [] := by
        by_contra hne
        exact hd ⟨by simp [hp, hfb], by rwa [Device.dirtyRects_some hp]⟩
      have hfirst := ioctl_again hmode hnum hp hfb
      have hslots : s.ioctl.1.grab.numRects < 1 := by
        rw [hfirst, hrects, shrinkDirtyRects_eq_nil.2 rfl]
        show Int32.ofNat 0 < 1
        decide
      obtain ⟨hstop, hfailed⟩ := ioctl_refused (.inl hslots)
      refine ⟨_, returns_of_again ?_ (returns_of_stop hstop), fun _ => hfailed⟩
      rw [hfirst]
      rfl

/-- The library offers all its slots. -/
theorem numRects_grab (b : EvdiBuffer) (kernelDirts : UInt64) :
    ¬ (b.grab kernelDirts).numRects < 1 := by
  show ¬ Int32.ofNat maxDirts < 1
  decide

section

variable {context : EvdiDeviceContext} {b : EvdiBuffer} {d : Device}

theorem grab_spins (hb : findBuffer context context.bufferToUpdate = some b) (hd : d.Orphaned)
    (kernelDirts : UInt64) (envs : Stream' GrabEnv) (n : ℕ) :
    evdiGrabPixels n context kernelDirts envs d = none := by
  have hspins := spins_of_orphaned (s := ⟨d, b.grab kernelDirts, envs⟩) rfl (numRects_grab b _) hd n
  simp only [evdiGrabPixels, hb, hspins, Option.map_none]

theorem grab_ends (hd : ¬ d.Orphaned) (kernelDirts : UInt64) (envs : Stream' GrabEnv) :
    ∃ n result, evdiGrabPixels n context kernelDirts envs d = some result ∧
      (d.painter.bind (·.scanoutFb) = none → result.numRects = 0 ∧ result.rects = []) := by
  cases hb : findBuffer context context.bufferToUpdate with
  | none => exact ⟨0, ⟨d, [], 0⟩, by simp only [evdiGrabPixels, hb], fun _ => ⟨rfl, rfl⟩⟩
  | some b =>
    obtain ⟨r, ⟨n, hr⟩, hfailed⟩ := returns_of_not_orphaned
      (s := ⟨d, b.grab kernelDirts, envs⟩) rfl (numRects_grab b _) hd
    refine ⟨n, grabResult r.1 r.2.1 r.2.2, ?_, fun hnone => ?_⟩
    · simp only [evdiGrabPixels, hb, hr, Option.map_some]
    · rw [grabResult, if_neg (hfailed hnone)]
      exact ⟨rfl, rfl⟩

end

/-! ### Runs -/

/-- A change that does not take the scanout buffer away while rectangles are pending orphans nobody. -/
theorem Painter.Change.not_orphaned {p q : Painter} (h : p.Change q)
    (htaken : p.scanoutFb ≠ none → q.scanoutFb = none → p.dirtyRects = [])
    (hp : p.scanoutFb ≠ none ∨ p.dirtyRects = []) : q.scanoutFb ≠ none ∨ q.dirtyRects = [] := by
  have hrects : q.scanoutFb = none → p.dirtyRects = [] :=
    fun hq => hp.elim (fun hsome => htaken hsome hq) id
  cases h with
  | redraw h =>
    cases h with
    | keeps => exact hp
    | mark rect =>
      cases hfb : p.scanoutFb with
      | none => exact .inr (by simpa [Painter.markDirty, hfb] using hp)
      | some efb =>
        refine .inl ?_
        rw [p.markDirty_scanoutFb, hfb]
        exact Option.some_ne_none efb
    | swap fb =>
      cases fb with
      | none => exact .inr (hrects rfl)
      | some fb => exact .inl (Option.some_ne_none fb)
  | shrink numRects hnone => exact .inr (shrinkDirtyRects_eq_nil.2 (hrects hnone))
  | grab hfb => exact .inr rfl
  | connect => exact hp
  | disconnect => exact .inr (hrects rfl)
  | ddcciResponse buffer length received => exact hp

theorem not_orphaned_of_changes {d d' : Device} (h : Changes Painter.Change d d')
    (htaken : d.painter.bind (·.scanoutFb) ≠ none → d'.painter.bind (·.scanoutFb) = none →
      d.dirtyRects = []) (hd : ¬ d.Orphaned) : ¬ d'.Orphaned := by
  rw [Device.Orphaned, not_and_or, not_not] at hd ⊢
  unfold Changes at h
  unfold Device.dirtyRects at *
  generalize d.painter = o, d'.painter = o' at *
  cases h with
  | none => exact .inr rfl
  | @some p q h =>
    obtain ⟨q', hchange, hcore⟩ := h
    have hfb : q.scanoutFb = q'.scanoutFb := by
      rw [show q.scanoutFb = q.core.scanoutFb from rfl, hcore]
      rfl
    have hrects : q.dirtyRects = q'.dirtyRects := dirtyRects_eq_of_core hcore
    simp only [Option.bind_some] at *
    rw [hfb, hrects]
    exact hchange.not_orphaned (fun hne hnone => htaken hne (hfb.trans hnone)) hd

/-- A step of the device that takes the scanout buffer away finds nothing pending. -/
def System.TidyStep (s : System) (a : System.Action) (t : System) : Prop :=
  System.Step s a t ∧ (s.device.painter.bind (·.scanoutFb) ≠ none →
    t.device.painter.bind (·.scanoutFb) = none → s.device.dirtyRects = [])

/-- In a run of such steps, no rectangle is ever pending without a scanout buffer. -/
theorem not_orphaned_run {fgConsole : ℤ} {drm : DrmCore} {as : List System.Action} {s : System}
    (h : Run System.TidyStep (System.init fgConsole drm) as s) : ¬ s.device.Orphaned := by
  have hinv := h.invariant (I := fun s => ¬ s.device.Orphaned ∧ s.ThreadsUse CommitSection) ?_
    ⟨fun h => h.2 rfl, System.threadsUse_init _ _ _⟩
  · exact hinv.1
  · rintro s a t ⟨hs, huses⟩ ⟨hstep, htaken⟩
    obtain ⟨hdev, ht⟩ := hstep.device_cases (fun _ => KernelThread.uses) huses
    refine ⟨?_, ht⟩
    rcases hdev with ⟨f, hf, heq⟩ | heq | ⟨f, hf, heq⟩ | heq
    · exact not_orphaned_of_changes (heq ▸ hf.change s.device) htaken hs
    · exact heq ▸ hs
    · exact not_orphaned_of_changes (heq ▸ (hf.redraws s.device).mono fun _ _ => .redraw) htaken hs
    · exact heq ▸ fun horphaned => horphaned.2 rfl

/-- **A grab spins** exactly on rectangles that are pending without a scanout buffer:

* with the device as it is and nobody else taking a step, `evdi_grab_pixels` returns exactly when its
  buffer is not registered, or there is a scanout buffer, or nothing is pending, and without a scanout
  buffer it reports no rectangle then;
* in every run in which the scanout buffer is only ever taken away when nothing is pending, it returns
  in every state reached. -/
theorem grab_returns_iff (context : EvdiDeviceContext) (kernelDirts : UInt64)
    (envs : Stream' GrabEnv) :
    (∀ d : Device, (∃ n result, evdiGrabPixels n context kernelDirts envs d = some result ∧
        (d.painter.bind (·.scanoutFb) = none → result.numRects = 0 ∧ result.rects = [])) ↔
      findBuffer context context.bufferToUpdate = none ∨ d.painter.bind (·.scanoutFb) ≠ none ∨
        d.dirtyRects = []) ∧
    (∀ fgConsole drm as s, Run System.TidyStep (System.init fgConsole drm) as s →
      ∃ n result, evdiGrabPixels n context kernelDirts envs s.device = some result ∧
        (s.device.painter.bind (·.scanoutFb) = none → result.numRects = 0 ∧ result.rects = [])) := by
  refine ⟨fun d => ⟨?_, ?_⟩, fun fgConsole drm as s h => ?_⟩
  · rintro ⟨n, result, hresult, -⟩
    by_contra hnot
    simp only [not_or, not_not] at hnot
    obtain ⟨hbuffer, hnone, hrects⟩ := hnot
    obtain ⟨b, hb⟩ := Option.ne_none_iff_exists'.1 hbuffer
    rw [grab_spins hb ⟨hnone, hrects⟩] at hresult
    exact Option.some_ne_none result hresult.symm
  · rintro (hb | hsafe)
    · exact ⟨0, ⟨d, [], 0⟩, by simp only [evdiGrabPixels, hb], fun _ => ⟨rfl, rfl⟩⟩
    · refine grab_ends ?_ kernelDirts envs
      rintro ⟨hnone, hrects⟩
      exact hsafe.elim (fun hsome => hsome hnone) hrects
  · exact grab_ends (not_orphaned_run h) kernelDirts envs

/-- A process whose buffer 0 is a frame of 64 by 64. -/
def EvdiDeviceContext.sample : EvdiDeviceContext := ⟨0, [⟨0, 0, 64, 64, 256⟩]⟩

/-- A client that has just connected and grabs is told that there is nothing. -/
theorem grab_returns_connected : ∃ as s result,
    Run System.TidyStep (System.init 0 (.init (.const true) (.const true))) as s ∧
      s.device.painter.any (·.isConnected) = true ∧
      (∃ n, evdiGrabPixels n .sample 0 (.const (.sample 0)) s.device = some result) ∧
      result.numRects = 0 := by
  have hrun : Run System.TidyStep (System.init 0 (.init (.const true) (.const true)))
      [.client (.connect .sample 1 0)] _ :=
    Run.one ⟨.client (.connect (fun _ => sampleUser 0) ⟨true, true⟩ rfl), fun hne => absurd rfl hne⟩
  obtain ⟨n, result, hresult, hnone⟩ := (grab_returns_iff .sample 0 (.const (.sample 0))).2 _ _ _ _ hrun
  exact ⟨_, _, result, hrun, rfl, ⟨n, hresult⟩, (hnone rfl).1⟩

/-- A client connects, a commit shows it a frame, and it disconnects and connects again. -/
def Device.reconnected : Device :=
  let connect (cmd : ConnectCmd) (d : Device) : Device :=
    (painterConnectIoctl (fun _ => sampleUser 0) ⟨true, true⟩ cmd 1 d).1
  let d := connect .sample (Device.init 0 (.init (.const true) (.const true)))
  let d := ((flipCommit none (.sample 1 64 64 256) [⟨0, 0, 8, 8⟩]).run.exec d).1
  connect .sample (connect ⟨0, 0, 0, 0, 0, 0⟩ d)

/-- Then the frame is still pending without its buffer, and the client's grab never returns. -/
theorem grab_spins_after_reconnect : ∃ as s,
    Run System.Step (System.init 0 (.init (.const true) (.const true))) as s ∧
      s.device.painter.any (·.isConnected) = true ∧
      ∀ n envs, evdiGrabPixels n .sample 0 envs s.device = none := by
  obtain ⟨as, hconnect⟩ := System.run_connect .sample 1
    (System.init 0 (.init (.const true) (.const true)))
  obtain ⟨bs, hframe⟩ := System.run_thread
    (.commit (flipCommit none (.sample 1 64 64 256) [⟨0, 0, 8, 8⟩])) _
  obtain ⟨cs, hdisconnect⟩ := System.run_connect ⟨0, 0, 0, 0, 0, 0⟩ 1 _
  obtain ⟨ds, hreconnect⟩ := System.run_connect .sample 1 _
  refine ⟨_, _, ((hconnect.append hframe).append hdisconnect).append hreconnect, ?_, fun n envs => ?_⟩
  · show Device.reconnected.painter.any (·.isConnected) = true
    decide +kernel
  · have horphaned : Device.reconnected.Orphaned := ⟨by decide +kernel, by decide +kernel⟩
    exact grab_spins rfl horphaned 0 envs n

end Evdi
