import Evdi.Properties.Announce
import Evdi.Properties.Capacity

/-!
# What "ready" promises

A client is told that pixels are ready by the answer 1 of `REQUEST_UPDATE` or by an `UPDATE_READY` event,
and grabs.  The rectangles pending were clipped to the framebuffer of their time; the copy checks them
against the framebuffer of now ("rect size may correspond to previous resolution").

* `copyRects_mapped`, `copyPrimaryPixels_mapped`: when nothing faults, the copy fails for a rectangle
  that does not fit, and for nothing else;
* `Ready`: the steps that tell the client;
* `ready_grab_iff`: what the grab that follows does.
-/

namespace Evdi

open Atomic Transition Absorption Bytes

/-- The rectangle lies in the framebuffer. -/
structure ClipRect.Within (r : ClipRect) (fb : Framebuffer) : Prop where
  x2_le : r.x2.toNat ≤ fb.width.toNat
  y2_le : r.y2.toNat ≤ fb.height.toNat

theorem ClipRect.within_iff {r : ClipRect} {fb : Framebuffer} : r.Within fb ↔
    r.x2.toNat ≤ fb.width.toNat ∧ r.y2.toNat ≤ fb.height.toNat :=
  ⟨fun h => ⟨h.x2_le, h.y2_le⟩, fun h => ⟨h.1, h.2⟩⟩

instance (r : ClipRect) (fb : Framebuffer) : Decidable (r.Within fb) :=
  decidable_of_iff' _ ClipRect.within_iff

theorem within_expandRect {fb : Framebuffer} (a b : ClipRect) :
    (expandRect a b).Within fb ↔ a.Within fb ∧ b.Within fb := by
  have hx : (expandRect a b).x2.toNat = max a.x2.toNat b.x2.toNat := UInt16.toNat_max _ _
  have hy : (expandRect a b).y2.toNat = max a.y2.toNat b.y2.toNat := UInt16.toNat_max _ _
  simp only [ClipRect.within_iff, hx, hy, max_le_iff]
  tauto

/-- Joining rectangles does not change whether they all fit. -/
theorem forall_within_shrink {fb : Framebuffer} (n : Int32) (rects : List ClipRect) :
    (∀ r ∈ shrinkDirtyRects n rects, r.Within fb) ↔ ∀ r ∈ rects, r.Within fb :=
  (joined_shrinkDirtyRects n rects).forall_mem_iff within_expandRect

/-! ### Copies that do not fault -/

/-- The process has all its memory mapped. -/
def UserMapped (u : UserRegion) : Prop := ∀ a, u.mapped a = true

theorem copyRows_mapped (mem : Memory) (pitch stride : ℤ) {byteSpan : ℤ} (hspan : 0 ≤ byteSpan)
    (n : ℕ) (src dst : ℤ) {buffer : UserRegion} (h : UserMapped buffer) :
    (copyRows mem pitch stride byteSpan n src dst buffer).2 = false ∧
      UserMapped (copyRows mem pitch stride byteSpan n src dst buffer).1 := by
  induction n generalizing src dst buffer with
  | zero => exact ⟨rfl, h⟩
  | succ n ih =>
    have hrow : (copyToUser buffer dst mem src byteSpan).2 = false :=
      copyToUser_mapped hspan fun a _ _ => h a
    have hmapped : UserMapped (copyToUser buffer dst mem src byteSpan).1 := by
      intro a
      rw [copyToUser_fst_mapped]
      exact h a
    rw [copyRows]
    dsimp only
    rw [hrow, if_neg Bool.false_ne_true]
    exact ih _ _ hmapped

/-- The loop over the rectangles stops at the first that does not fit. -/
theorem copyRects_mapped (fb : Framebuffer) (mem : Memory) (stride : ℤ) {maxX maxY : ℕ}
    {rects : List ClipRect} (hordered : ∀ r ∈ rects, r.IsOrdered) {buffer : UserRegion}
    (h : UserMapped buffer) : (copyRects fb mem stride maxX maxY rects buffer).2 =
      if ∀ r ∈ rects, r.x2.toNat ≤ maxX ∧ r.y2.toNat ≤ maxY then 0 else -EFAULT := by
  induction rects generalizing buffer with
  | nil => simp [copyRects]
  | cons r rects ih =>
    rw [copyRects]
    by_cases hfits : r.x2.toNat ≤ maxX ∧ r.y2.toNat ≤ maxY
    · have hinside : ¬ ((maxX : ℤ) < r.x2.toNat ∨ (maxY : ℤ) < r.y2.toNat) := by omega
      have hspan : 0 ≤ ((r.x2.toNat : ℤ) - r.x1.toNat) * 4 := by
        have := UInt16.le_iff_toNat_le.1 (hordered r (by simp)).x_le
        omega
      obtain ⟨hfault, hmapped⟩ := copyRows_mapped mem fb.pitch0.toNat stride hspan
        (r.y2.toNat - r.y1.toNat) (srcOffset fb r) (dstOffset stride r) h
      rw [if_neg hinside]
      dsimp only
      rw [hfault, if_neg Bool.false_ne_true, ih (fun q hq => hordered q (by simp [hq])) hmapped]
      simp [hfits]
    · have houtside : (maxX : ℤ) < r.x2.toNat ∨ (maxY : ℤ) < r.y2.toNat := by omega
      rw [if_pos houtside, if_neg]
      exact fun hall => hfits (hall r (by simp))

theorem copyRowsOnXe_mapped (fb : Framebuffer) (mem : Memory) (stride : ℤ) {byteSpan : ℤ}
    (hspan : 0 ≤ byteSpan) (n y : ℕ) {buffer : UserRegion} (h : UserMapped buffer) :
    (copyRowsOnXe fb mem stride byteSpan n y buffer).2 = 0 := by
  induction n generalizing y buffer with
  | zero => rfl
  | succ n ih =>
    rw [copyRowsOnXe]
    dsimp only
    rw [copyToUser_mapped hspan fun a _ _ => h a, if_neg Bool.false_ne_true]
    refine ih _ fun a => ?_
    rw [copyToUser_fst_mapped]
    exact h a

/-- When nothing faults: a copy of a framebuffer from xe looks at no rectangle. -/
theorem copyPrimaryPixels_mapped {fb : Framebuffer} (hfb : fb.Admitted) (mem : Memory) (stride : ℤ)
    {rects : List ClipRect} (hordered : ∀ r ∈ rects, r.IsOrdered) {buffer : UserRegion}
    (h : UserMapped buffer) :
    (copyPrimaryPixels fb mem buffer stride rects fb.width.toNat fb.height.toNat).2 =
      if fb.isFromXe ∨ ∀ r ∈ rects, r.Within fb then 0 else -EFAULT := by
  unfold copyPrimaryPixels
  by_cases hxe : fb.isFromXe = true
  · rw [if_pos hxe, if_pos (.inl hxe), copyPrimaryPixelsOnXe]
    refine copyRowsOnXe_mapped fb mem stride ?_ _ _ h
    -- at most 7680 pixels of four bytes
    have hw := hfb.width_le
    rw [show ((fb.width.toNat : ℤ) * 4) = ((fb.width.toNat * 4 : ℕ) : ℤ) by push_cast; ring,
      Words.s32_natCast (by omega)]
    exact Int.natCast_nonneg _
  · rw [if_neg hxe, copyRects_mapped fb mem stride hordered h]
    simp only [← ClipRect.within_iff, hxe, false_or, Bool.false_eq_true]

/-! ### The grab -/

/-- The kernel and the caller's process do not get in the way: the framebuffer can be mapped, and all
memory of the process can be written. -/
structure GrabEnv.Sound (env : GrabEnv) (fb : Framebuffer) : Prop where
  mapped : (gemMapOnDemand (env.objects fb.obj) env.vmap).2 ≠ -ENOMEM ∧
    (gemMapOnDemand (env.objects fb.obj) env.vmap).1.vmapped = true
  access : fb.obj.importOwner = none ∨ env.beginCpuAccess = 0
  user : ∀ ptr, UserMapped (env.user ptr)

/-- The command asks for rectangles of a buffer of the framebuffer's size. -/
structure GrabpixCmd.Fits (cmd : GrabpixCmd) (fb : Framebuffer) : Prop where
  mode : cmd.mode = grabpixModeDirty
  numRects : ¬ cmd.numRects < 1
  width_eq : cmd.bufWidth.toUInt32 = fb.width
  height_eq : cmd.bufHeight.toUInt32 = fb.height

/-- A size that an `int` can hold. -/
theorem toInt_of_toUInt32 {n : Int32} {w : UInt32} (h : n.toUInt32 = w) (hw : w.toNat < 2 ^ 31) :
    n.toInt = w.toNat := by
  rw [← h] at hw ⊢
  rw [Int32.toInt, BitVec.toInt_eq_toNat_of_lt]
  · rfl
  · show 2 * n.toUInt32.toNat < 2 ^ 32
    omega

/-- Past the checks, the result is that of the copy of the pixels. -/
theorem painterGrabpixCopy_ret {env : GrabEnv} {g : Grab} (d : Device) (henv : env.Sound g.efb)
    (hwidth : g.cmd.bufWidth.toUInt32 = g.efb.width)
    (hheight : g.cmd.bufHeight.toUInt32 = g.efb.height) :
    (painterGrabpixCopy env g d).ret = (copyPrimaryPixels g.efb
        (gemMapOnDemand (env.objects g.efb.obj) env.vmap).1.memory (env.user g.cmd.buffer)
        g.cmd.bufByteStride.toInt g.dirtyRects g.cmd.bufWidth.toInt g.cmd.bufHeight.toInt).2 ∧
      (painterGrabpixCopy env g d).rects = g.dirtyRects := by
  have h1 : ¬ ((gemMapOnDemand (env.objects g.efb.obj) env.vmap).2 = -ENOMEM ∨
      (!(gemMapOnDemand (env.objects g.efb.obj) env.vmap).1.vmapped) = true) := by
    simp [henv.mapped.1, henv.mapped.2]
  have h2 : ¬ (g.cmd.bufWidth.toUInt32 ≠ g.efb.width ∨ g.cmd.bufHeight.toUInt32 ≠ g.efb.height) := by
    simp [hwidth, hheight]
  have h3 : ¬ (!rectsWritable g env) = true := by
    simp [(rectsWritable_iff g env).2 fun i _ => henv.user g.cmd.rects i]
  have h4 : ¬ (g.efb.obj.importOwner.isSome = true ∧ env.beginCpuAccess ≠ 0) := by
    rintro ⟨hsome, hne⟩
    exact henv.access.elim (fun hnone => by simp [hnone] at hsome) hne
  unfold painterGrabpixCopy
  dsimp only
  rw [if_neg h1, if_neg h2, if_neg h3, if_neg h4]
  exact ⟨rfl, rfl⟩

/-- **A grab of a buffer of the right size**, when nothing else gets in its way: it reports the merged
rectangles, and fails exactly when one that is pending does not fit a framebuffer that is not from xe. -/
theorem grab_result {env : GrabEnv} {cmd : GrabpixCmd} {d : Device} {p : Painter} {fb : Framebuffer}
    (hp : d.painter = some p) (hfb : p.scanoutFb = some fb) (hok : p.DirtsOk) (hadmitted : fb.Admitted)
    (henv : env.Sound fb) (hcmd : cmd.Fits fb) :
    let call := painterGrabpixIoctl env cmd d
    call.2.1 = cmd.setNumRects (shrinkDirtyRects cmd.numRects p.dirtyRects).length ∧
      call.2.2.1 = (if fb.isFromXe ∨ ∀ r ∈ p.dirtyRects, r.Within fb then 0 else -EFAULT) ∧
      call.2.2.2.map (·.rects) = some (shrinkDirtyRects cmd.numRects p.dirtyRects) := by
  have hlocked := painterGrabpixLocked_scanout hcmd.mode hcmd.numRects hp hfb
  have hordered := (joined_shrinkDirtyRects cmd.numRects p.dirtyRects).forall_mem
    (fun _ _ ha _ => isOrdered_expandRect ha) hok.ordered
  rw [painterGrabpixIoctl, hlocked]
  dsimp only
  generalize hdevice : Device.onPainter _ _ = d₁
  generalize hgrab : Grab.mk _ _ _ _ _ = g
  have hefb : g.efb = fb := by rw [← hgrab]
  have hrects : g.dirtyRects = shrinkDirtyRects cmd.numRects p.dirtyRects := by rw [← hgrab]
  have hwidth : g.cmd.bufWidth = cmd.bufWidth := by rw [← hgrab]; rfl
  have hheight : g.cmd.bufHeight = cmd.bufHeight := by rw [← hgrab]; rfl
  obtain ⟨hret, hwritten⟩ := painterGrabpixCopy_ret d₁ (hefb ▸ henv)
    (by rw [hwidth, hefb, hcmd.width_eq]) (by rw [hheight, hefb, hcmd.height_eq])
  have hw := hadmitted.width_le
  have hh := hadmitted.height_le
  rw [hefb, hwidth, hheight, toInt_of_toUInt32 hcmd.width_eq (by omega),
    toInt_of_toUInt32 hcmd.height_eq (by omega), hrects,
    copyPrimaryPixels_mapped hadmitted _ _ hordered (henv.user _)] at hret
  simp only [forall_within_shrink] at hret
  exact ⟨rfl, hret, congrArg some (hwritten.trans hrects)⟩

/-! ### The results -/

/-- The steps that tell the client that pixels are ready: the answer 1, or an `UPDATE_READY` event. -/
def Ready (s : System) (a : System.Action) (t : System) : Prop :=
  System.Step s a t ∧
    (a = .client (.requestUpdate 1) ∨ a = .kernel ∧ readys s.device < readys t.device)

/-- When the client is told, rectangles are pending. -/
theorem Ready.dirty {s t : System} {a : System.Action} (h : Ready s a t)
    (hs : s.ThreadsUse KernelSection) : t.device.dirtyRects ≠ [] := by
  obtain ⟨hstep, rfl | ⟨rfl, hqueued⟩⟩ := h
  · cases hstep with
    | client hcall =>
      cases hcall with
      | requestUpdate heq =>
        rcases painterRequestUpdateIoctl_cases s.device with ⟨-, hcase⟩ | ⟨-, hcase⟩ |
          ⟨-, hdirty, hcase⟩ | ⟨-, -, -, hcase⟩
        all_goals obtain ⟨rfl, hret⟩ := Prod.mk.inj (hcase.symm.trans heq)
        · exact absurd hret (by decide)
        · exact absurd hret (by decide)
        · exact hdirty
        · exact absurd hret (by decide)
  · cases hstep with
    | kernel hpool =>
      obtain ⟨rfl | ⟨f, hf, rfl⟩, -⟩ := System.kernel_cases kernelThread_announces hpool hs
      · exact absurd hqueued (lt_irrefl _)
      · rcases hf.2 s.device with hsilent | hannounce
        · exact absurd hqueued hsilent.submitted.le.not_gt
        · exact hannounce.dirtyRects_eq ▸ hannounce.dirty

/-- **"Ready" is honest** as far as the framebuffer has not become smaller. In every run, after a step
that tells the client, with `p` the painter and `fb` its scanout buffer, a `GRABPIX` call that offers at
least one slot and a buffer of the size of `fb`, with nothing in the way of mapping and user copies:

* reports at least one rectangle, and as many are written to the caller;
* returns 0, with all of them inside `fb`, exactly when all rectangles that were pending lie inside `fb`;
* returns `-EFAULT` when one does not and `fb` is not from xe. -/
theorem ready_grab_iff {fgConsole : ℤ} {drm : DrmCore} {as : List System.Action} {s t : System}
    {a : System.Action} (h : Run System.Step (System.init fgConsole drm) as s) (hready : Ready s a t)
    {p : Painter} {fb : Framebuffer} (hp : t.device.painter = some p) (hfb : p.scanoutFb = some fb)
    (hadmitted : fb.Admitted) {env : GrabEnv} (henv : env.Sound fb) {cmd : GrabpixCmd}
    (hcmd : cmd.Fits fb) :
    let call := painterGrabpixIoctl env cmd t.device
    ∃ rects, call.2.2.2.map (·.rects) = some rects ∧
      1 ≤ call.2.1.numRects.toInt ∧ call.2.1.numRects.toInt = rects.length ∧
      (call.2.2.1 = 0 ∧ (∀ r ∈ rects, r.IsOrdered ∧ r.Within fb) ↔
        ∀ r ∈ p.dirtyRects, r.Within fb) ∧
      (fb.isFromXe = false → (∃ r ∈ p.dirtyRects, ¬ r.Within fb) → call.2.2.1 = -EFAULT) := by
  intro call
  have hok := dirtsOk_run (h.snoc hready.1) hp
  have hdirty := hready.dirty (System.threadsUse_run kernelThread_announces h)
  rw [Device.dirtyRects_some hp] at hdirty
  obtain ⟨hcmd', hret, hrects⟩ := grab_result hp hfb hok hadmitted henv hcmd
  have hjoined := joined_shrinkDirtyRects cmd.numRects p.dirtyRects
  have hcount : call.2.1.numRects.toInt = (shrinkDirtyRects cmd.numRects p.dirtyRects).length := by
    rw [show call.2.1 = _ from hcmd']
    exact toInt_ofNat_of_le (hjoined.length_le.trans hok.length_le)
  refine ⟨_, hrects, ?_, hcount, ?_, ?_⟩
  · have hne : shrinkDirtyRects cmd.numRects p.dirtyRects ≠ [] := by simpa using hdirty
    have := List.length_pos_iff.2 hne
    omega
  · rw [show call.2.2.1 = _ from hret]
    constructor
    · rintro ⟨-, hinside⟩
      exact (forall_within_shrink cmd.numRects _).1 fun r hr => (hinside r hr).2
    · intro hinside
      refine ⟨if_pos (.inr hinside), fun r hr => ⟨?_, ?_⟩⟩
      · exact hjoined.forall_mem (fun _ _ ha _ => isOrdered_expandRect ha) hok.ordered r hr
      · exact (forall_within_shrink cmd.numRects _).2 hinside r hr
  · rintro hxe ⟨r, hr, houtside⟩
    rw [show call.2.2.1 = _ from hret, if_neg]
    rintro (hfrom | hinside)
    · rw [hxe] at hfrom
      exact Bool.false_ne_true hfrom
    · exact houtside (hinside r hr)

/-- The device after a client has connected and asked, two commits, and the next request. -/
def Device.flipped (first second : Commit) : Device :=
  let d := (painterConnectIoctl (fun _ => sampleUser 0) ⟨true, true⟩ .sample 1
    (Device.init 0 (.init (.const true) (.const true)))).1
  (painterRequestUpdateIoctl (second.run.exec (first.run.exec d).1).1).1

/-- A frame of 128 by 128 is pending when a commit flips to a framebuffer of 64 by 64. -/
def Device.shrunk : Device :=
  .flipped (flipCommit none (.sample 1 128 128 512) [⟨0, 0, 128, 128⟩])
    (flipCommit (some (.sample 1 128 128 512)) (.sample 2 64 64 256) [])

/-- A flip between framebuffers of one size, with a rectangle of damage from each. -/
def Device.repainted : Device :=
  .flipped (flipCommit none (.sample 1 64 64 256) [⟨0, 0, 8, 8⟩])
    (flipCommit (some (.sample 1 64 64 256)) (.sample 2 64 64 256) [⟨0, 0, 8, 8⟩])

/-- If the answer is 1 after the two commits, the client has been told. -/
theorem ready_flipped {first second : Commit}
    (hanswer : (painterRequestUpdateIoctl (second.run.exec (first.run.exec
      (painterConnectIoctl (fun _ => sampleUser 0) ⟨true, true⟩ .sample 1
        (Device.init 0 (.init (.const true) (.const true)))).1).1).1).2 = 1) :
    ∃ as s t, Run System.Step (System.init 0 (.init (.const true) (.const true))) as s ∧
      Ready s (.client (.requestUpdate 1)) t ∧ t.device = Device.flipped first second := by
  obtain ⟨as, hconnect⟩ := System.run_connect .sample 1
    (System.init 0 (.init (.const true) (.const true)))
  obtain ⟨bs, hfirst⟩ := System.run_thread (.commit first) _
  obtain ⟨cs, hsecond⟩ := System.run_thread (.commit second) _
  exact ⟨_, _, _, (hconnect.append hfirst).append hsecond,
    ⟨.client (.requestUpdate (Prod.ext rfl hanswer)), .inl rfl⟩, rfl⟩

theorem painter_shrunk : ∃ p, Device.shrunk.painter = some p ∧ p.isConnected = true ∧
    p.scanoutFb = some (.sample 2 64 64 256) := by
  have h : (Device.shrunk.painter.any fun p =>
      p.isConnected && decide (p.scanoutFb = some (.sample 2 64 64 256))) = true := by
    decide +kernel
  obtain ⟨p, hp, hany⟩ := (Option.any_eq_true _ _).1 h
  simp only [Bool.and_eq_true, decide_eq_true_eq] at hany
  exact ⟨p, hp, hany⟩

/-- The client is answered 1, and its grab of 64 by 64 pixels fails. -/
theorem ready_grab_fails :
    ∃ as s t p, Run System.Step (System.init 0 (.init (.const true) (.const true))) as s ∧
      Ready s (.client (.requestUpdate 1)) t ∧ t.device.painter = some p ∧
      p.isConnected = true ∧ p.scanoutFb = some (.sample 2 64 64 256) ∧
      (GrabEnv.sample 0).Sound (.sample 2 64 64 256) ∧
      (GrabpixCmd.sample 64 64 256 16).Fits (.sample 2 64 64 256) ∧
      (painterGrabpixIoctl (.sample 0) (.sample 64 64 256 16) t.device).2.2.1 = -EFAULT := by
  obtain ⟨as, s, t, hrun, hready, htdev⟩ := @ready_flipped
    (flipCommit none (.sample 1 128 128 512) [⟨0, 0, 128, 128⟩])
    (flipCommit (some (.sample 1 128 128 512)) (.sample 2 64 64 256) []) (by decide +kernel)
  obtain ⟨p, hp, hconnected, hfb⟩ := painter_shrunk
  refine ⟨as, s, t, p, hrun, hready, htdev ▸ hp, hconnected, hfb, ?_, ?_, ?_⟩
  · exact ⟨⟨by decide, rfl⟩, .inl rfl, fun _ _ => rfl⟩
  · exact ⟨rfl, by decide, rfl, rfl⟩
  · rw [htdev]
    decide +kernel

theorem painter_repainted : ∃ p, Device.repainted.painter = some p ∧
    p.scanoutFb = some (.sample 2 64 64 256) ∧ p.dirtyRects = [⟨0, 0, 8, 8⟩, ⟨0, 0, 8, 8⟩] := by
  have h : (Device.repainted.painter.any fun p =>
      decide (p.scanoutFb = some (.sample 2 64 64 256)) &&
        decide (p.dirtyRects = [⟨0, 0, 8, 8⟩, ⟨0, 0, 8, 8⟩])) = true := by
    decide +kernel
  obtain ⟨p, hp, hany⟩ := (Option.any_eq_true _ _).1 h
  simp only [Bool.and_eq_true, decide_eq_true_eq] at hany
  exact ⟨p, hp, hany⟩

/-- After a flip between framebuffers of one size, the grab succeeds. -/
theorem ready_grab_flip :
    (painterGrabpixIoctl (.sample 0) (.sample 64 64 256 16) Device.repainted).2.2.1 = 0 := by
  obtain ⟨as, s, t, hrun, hready, htdev⟩ := @ready_flipped
    (flipCommit none (.sample 1 64 64 256) [⟨0, 0, 8, 8⟩])
    (flipCommit (some (.sample 1 64 64 256)) (.sample 2 64 64 256) [⟨0, 0, 8, 8⟩])
    (by decide +kernel)
  obtain ⟨p, hp, hfb, hrects⟩ := painter_repainted
  rw [show Device.repainted = t.device from htdev.symm] at hp ⊢
  have henv : (GrabEnv.sample 0).Sound (.sample 2 64 64 256) :=
    ⟨⟨by decide, rfl⟩, .inl rfl, fun _ _ => rfl⟩
  have hcmd : (GrabpixCmd.sample 64 64 256 16).Fits (.sample 2 64 64 256) :=
    ⟨rfl, by decide, rfl, rfl⟩
  obtain ⟨rects, -, -, -, hiff, -⟩ := ready_grab_iff hrun hready hp hfb
    ⟨by decide, by decide, by decide⟩ henv hcmd
  refine (hiff.2 ?_).1
  rw [hrects]
  decide

end Evdi
