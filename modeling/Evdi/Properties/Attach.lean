import Evdi.Properties.DeviceTable

/-!
# Requests for a device at the same time

A request picks its device under the lock of the context, and links it after it has released the lock:
until then, the device is free for all others.

* `Platform.Unshared`: a request does not pick a device that another one is about to link;
* `Platform.Held`: the invariant of runs in which none does;
* `attach_distinct_iff`: such runs are those in which each request gets a device of its own.
-/

namespace Evdi

open Transition

/-! ### Requests -/

/-- The device is registered, and free unless its probe has failed. -/
def PlatformCtx.HasFree (ctx : PlatformCtx) (pdev : DevPtr) : Prop :=
  ∃ n dev, pdev = .dev n ∧ ctx.objects n = some dev ∧ ∀ data, dev.data = some data → data.isFree = true

/-- The device is linked to `parent`, in its data and in sysfs. -/
def PlatformCtx.LinkedTo (ctx : PlatformCtx) (pdev : DevPtr) (parent : UsbDev) : Prop :=
  ∃ n dev data, pdev = .dev n ∧ ctx.objects n = some dev ∧ dev.link = some parent ∧
    dev.data = some data ∧ data.symlinked = true ∧ data.parent = some parent

/-- The request is about to link its device, or has linked it. -/
def AttachRequest.Holds (r : AttachRequest) : Prop := r.ret = none ∨ r.link = .made

/-- What a request may rely on: its device is free as long as it has not returned; it does not return 0
without a link; and a link that is there is one to its own parent. -/
structure AttachRequest.Good (ctx : PlatformCtx) (r : AttachRequest) : Prop where
  underWay : r.ret = none → r.link = .never ∧ ctx.HasFree r.pdev
  returned : r.ret = some 0 → r.link ≠ .never
  linked : r.link = .made → ctx.LinkedTo r.pdev r.parent

variable {ctx ctx' : PlatformCtx} {r : AttachRequest}

/-- A device that is symlinked is not free. -/
theorem PlatformDeviceData.not_isFree {data : PlatformDeviceData} (h : data.symlinked = true) :
    ¬ data.isFree = true := by
  cases hpriv : data.devPrivate <;> simp [PlatformDeviceData.isFree, hpriv, h]

/-- The driver data of a free device say that it is free. -/
theorem PlatformCtx.HasFree.isFree {pdev : DevPtr} {data : PlatformDeviceData} (h : ctx.HasFree pdev)
    (hdata : ctx.drvdata pdev = some data) : data.isFree = true := by
  obtain ⟨n, dev, rfl, hn, hfree⟩ := h
  have heq : (ctx.objects n).bind (·.data) = some data := hdata
  rw [hn] at heq
  exact hfree data heq

theorem PlatformCtx.HasFree.not_linkedTo {pdev : DevPtr} {parent : UsbDev} (h : ctx.HasFree pdev) :
    ¬ ctx.LinkedTo pdev parent := by
  rintro ⟨n, dev, data, rfl, hn, -, hdata, hsymlinked, -⟩
  exact PlatformDeviceData.not_isFree hsymlinked
    (h.isFree (Option.bind_eq_some_iff.2 ⟨dev, hn, hdata⟩))

/-- A device that is free has no parent. -/
theorem PlatformCtx.HasFree.parent_none {n : ℕ} {dev : PlatformDevice} {data : PlatformDeviceData}
    (h : ctx.HasFree (.dev n)) (hdata : ctx.drvdata (.dev n) = some data) (hdev : dev.data = some data)
    (hlinked : dev.Linked) : data.parent = none := by
  by_contra hparent
  exact PlatformDeviceData.not_isFree ((hlinked data hdev).1.2 hparent) (h.isFree hdata)

/-- The data of a device that is linked say to whom. -/
theorem PlatformCtx.LinkedTo.parent_eq {pdev : DevPtr} {data : PlatformDeviceData} {parent : UsbDev}
    (h : ctx.LinkedTo pdev parent) (hdata : ctx.drvdata pdev = some data) : data.parent = some parent := by
  obtain ⟨n, dev, data', rfl, hn, -, hdev, -, hparent⟩ := h
  have heq : (ctx.objects n).bind (·.data) = some data := hdata
  rw [hn] at heq
  rwa [← Option.some.inj (hdev.symm.trans heq)]

/-- A request that holds a device holds one that is registered. -/
theorem AttachRequest.Good.object (h : r.Good ctx) (hr : r.Holds) :
    ∃ n dev, r.pdev = .dev n ∧ ctx.objects n = some dev := by
  rcases hr with hret | hlink
  · obtain ⟨-, n, dev, hptr, hn, -⟩ := h.underWay hret
    exact ⟨n, dev, hptr, hn⟩
  · obtain ⟨n, dev, data, hptr, hn, -⟩ := h.linked hlink
    exact ⟨n, dev, hptr, hn⟩

/-- **Frame.** What a request may rely on is about its own device only. -/
theorem AttachRequest.Good.frame (h : r.Good ctx)
    (heq : r.Holds → ∀ n, r.pdev = .dev n → ctx'.objects n = ctx.objects n) : r.Good ctx' where
  underWay := by
    intro hret
    obtain ⟨hlink, n, dev, hptr, hn, hfree⟩ := h.underWay hret
    exact ⟨hlink, n, dev, hptr, (heq (.inl hret) n hptr).trans hn, hfree⟩
  returned := h.returned
  linked := by
    intro hlink
    obtain ⟨n, dev, data, hptr, hn, hrest⟩ := h.linked hlink
    exact ⟨n, dev, data, hptr, (heq (.inr hlink) n hptr).trans hn, hrest⟩

/-- Nothing is promised to a request that fails. -/
theorem AttachRequest.Good.failed {parent : UsbDev} {pdev : DevPtr} (h : pdev.isErrOrNull = true) :
    (AttachRequest.picked parent pdev).Good ctx where
  underWay := by simp [AttachRequest.picked, h]
  returned := by simp [AttachRequest.picked, h, EINVAL]
  linked := by simp [AttachRequest.picked]

theorem AttachRequest.Good.picked {parent : UsbDev} {n : ℕ} (h : ctx.HasFree (.dev n)) :
    (AttachRequest.picked parent (.dev n)).Good ctx where
  underWay := fun _ => ⟨rfl, h⟩
  returned := by simp [AttachRequest.picked, DevPtr.isErrOrNull]
  linked := by simp [AttachRequest.picked]

/-! ### Objects -/

@[simp] theorem objects_onObject (ctx : PlatformCtx) (n : ℕ) (f : PlatformDevice → PlatformDevice)
    (k : ℕ) :
    (ctx.onObject (.dev n) f).objects k = if k = n then (ctx.objects n).map f else ctx.objects k := by
  simp [PlatformCtx.onObject, Function.update_apply]

/-- An addition leaves the devices that there are as they are. -/
theorem platformDeviceAddLocked_objects (hs : ctx.Sound) {ans : CreateAnswers} {parent : Option UsbDev}
    {pdev : DevPtr} (h : platformDeviceAddLocked ans parent ctx = some (ctx', pdev)) {n : ℕ}
    {dev : PlatformDevice} (hn : ctx.objects n = some dev) :
    ctx'.objects n = some dev := by
  rcases platformDeviceAddLocked_cases h with ⟨k, rfl, -⟩ | ⟨rfl, -⟩ | ⟨i, -, -, rfl, -⟩
  · exact hn
  · exact hn
  · exact (Function.update_of_ne (hs.lt hn).ne _ _).trans hn

theorem PlatformCtx.FreeDevice.hasFree {n : ℕ} (h : ctx.FreeDevice n) : ctx.HasFree (.dev n) := by
  obtain ⟨data, hdata, hfree⟩ := Option.map_eq_some_iff.1 h.free
  obtain ⟨dev, hn, hdev⟩ := Option.bind_eq_some_iff.1 hdata
  refine ⟨n, dev, rfl, hn, fun data' hdata' => ?_⟩
  rwa [← Option.some.inj (hdev.symm.trans hdata')]

/-- A device that has just been registered is free, unless its probe has failed. -/
theorem hasFree_withDevice (i : Fin deviceCountMax) (ans : CreateAnswers) :
    (ctx.withDevice i (platformDeviceProbe ans)).HasFree (.dev ctx.nextObject) := by
  refine ⟨ctx.nextObject, _, rfl, Function.update_self _ _ _, fun data hdata => ?_⟩
  obtain ⟨probe, -, rfl⟩ := Option.map_eq_some_iff.1 hdata
  rfl

/-- A link leaves the other devices as they are. -/
theorem platformDeviceLink_objects_of_ne {pdev : DevPtr} {n : ℕ} {parent : UsbDev} (hne : pdev ≠ .dev n)
    (h : platformDeviceLink true pdev (some parent) ctx = some ctx') :
    ctx'.objects n = ctx.objects n := by
  rcases platformDeviceLink_cases h with ⟨rfl, -⟩ | ⟨-, k, data, rfl, -, -, rfl⟩
  · rfl
  · rw [objects_onObject, if_neg]
    rintro rfl
    exact hne rfl

/-- A request that has a device that is free links it to its own parent. -/
theorem AttachRequest.Good.returned_link (h : r.Good ctx) (hret : r.ret = none)
    (hlink : platformDeviceLink true r.pdev (some r.parent) ctx = some ctx') :
    (r.returned true ctx).Good ctx' := by
  obtain ⟨-, n, dev, hptr, hn, hfree⟩ := h.underWay hret
  rcases platformDeviceLink_cases hlink with ⟨-, hnot⟩ | ⟨hisFree, k, data, hptr', hdata, -, rfl⟩
  · -- without driver data, the call would not have returned
    rw [platformDeviceLink, hptr, if_neg (by simp)] at hlink
    obtain ⟨free, hisFree, -⟩ := Option.map_eq_some_iff.1 hlink
    obtain ⟨data, hdata, rfl⟩ := Option.map_eq_some_iff.1 hisFree
    rw [(h.underWay hret).2.isFree (hptr ▸ hdata)] at hisFree
    exact absurd ⟨hptr ▸ hisFree, rfl⟩ hnot
  · rw [hptr] at hdata
    have hdev : dev.data = some data := by
      have heq : (ctx.objects n).bind (·.data) = some data := hdata
      rwa [hn] at heq
    refine ⟨by simp [AttachRequest.returned],
      by simp [AttachRequest.returned, hisFree.1], fun _ => ?_⟩
    refine ⟨n, { dev with
        link := some r.parent
        data := some { data with symlinked := true, parent := some r.parent } },
      { data with symlinked := true, parent := some r.parent }, hptr, ?_, rfl, rfl, rfl, rfl⟩
    rw [hptr, objects_onObject, if_pos rfl, hn, Option.map_some, hdev, Option.map_some]

theorem AttachRequest.unlinked_ret (pdev : DevPtr) (usb : UsbDev) (r : AttachRequest) :
    (r.unlinked pdev usb).ret = r.ret := by
  unfold AttachRequest.unlinked
  split_ifs <;> rfl

theorem AttachRequest.unlinked_pdev (pdev : DevPtr) (usb : UsbDev) (r : AttachRequest) :
    (r.unlinked pdev usb).pdev = r.pdev := by
  unfold AttachRequest.unlinked
  split_ifs <;> rfl

theorem AttachRequest.Holds.of_unlinked {pdev : DevPtr} {usb : UsbDev} (h : (r.unlinked pdev usb).Holds) :
    r.Holds := by
  refine h.imp (fun hret => ?_) fun hlink => ?_
  · rwa [AttachRequest.unlinked_ret] at hret
  · rw [AttachRequest.unlinked] at hlink
    split_ifs at hlink
    exact hlink

/-- A removal that visits a slot leaves the requests what they may rely on. -/
theorem AttachRequest.Good.unlinked (h : r.Good ctx) {pdev : DevPtr} {usb : UsbDev}
    (hlinked : ∀ n dev, ctx.objects n = some dev → dev.Linked)
    (hunlinked : platformDeviceUnlinkIfLinkedWith pdev usb ctx = some ctx') :
    (r.unlinked pdev usb).Good ctx' := by
  obtain ⟨n, data, rfl, hdata, ⟨rfl, hother⟩ | ⟨hparent, rfl⟩⟩ := platformDeviceUnlink_cases hunlinked
  · have hkept : r.unlinked (.dev n) usb = r := by
      refine if_neg ?_
      rintro ⟨hptr, rfl, hlink⟩
      exact hother ((h.linked hlink).parent_eq (hptr ▸ hdata))
    rw [hkept]
    exact h
  · by_cases hptr : r.pdev = .dev n
    · refine ⟨fun hret => ?_, fun hret => ?_, fun hlink => ?_⟩
      · -- the device would be free, but has a parent
        rw [AttachRequest.unlinked_ret] at hret
        obtain ⟨-, hfree⟩ := h.underWay hret
        rw [hptr] at hfree
        obtain ⟨dev, hn, hdev⟩ := Option.bind_eq_some_iff.1 hdata
        have hnone := hfree.parent_none hdata hdev (hlinked n dev hn)
        simp [hparent] at hnone
      · rw [AttachRequest.unlinked_ret] at hret
        rw [AttachRequest.unlinked]
        split_ifs
        · simp
        · exact h.returned hret
      · -- a link to this device is one to `usb`, and is removed
        have hmade : r.link = .made := by
          rw [AttachRequest.unlinked] at hlink
          split_ifs at hlink
          exact hlink
        have hown := (h.linked hmade).parent_eq (hptr ▸ hdata)
        have husb := Option.some.inj (hown.symm.trans hparent)
        rw [AttachRequest.unlinked, if_pos ⟨hptr, husb, hmade⟩] at hlink
        simp at hlink
    · have hkept : r.unlinked (.dev n) usb = r := if_neg fun hr => hptr hr.1
      rw [hkept]
      refine h.frame fun _ k hk => ?_
      rw [objects_onObject, if_neg]
      rintro rfl
      exact hptr hk

/-! ### Runs -/

namespace Platform

/-- The steps of requests for which `sysfs_create_link` succeeds, and of removals of USB devices. -/
def Action.OfAttach : Action → Prop
  | .attach _ _ | .link true | .usbRemoval _ | .usbVisit | .usbForget => True
  | _ => False

/-- If the step is the locked part of a request, it does not find a device that another request is
about to link. -/
def Unshared (s : Platform) (a : Action) : Prop :=
  ∀ parent ans, a = .attach parent ans → ∀ n, platformDrvGetFreeDevice s.ctx = some (.dev n) →
    ∀ r ∈ s.requests, r.ret = none → r.pdev ≠ .dev n

/-- The steps of requests and removals. -/
def AttachStep (s : Platform) (a : Action) (t : Platform) : Prop := Step s a t ∧ a.OfAttach

/-- Those in which no device is shared. -/
def UnsharedStep (s : Platform) (a : Action) (t : Platform) : Prop := AttachStep s a t ∧ s.Unshared a

/-- No request is there of those that have come so far. -/
def fresh (s : Platform) : Platform := { s with requests := [] }

/-- **The invariant** of runs in which no device is shared: the requests can rely on what they may, and
hold different devices. -/
structure Held (s : Platform) : Prop where
  sound : s.Sound
  good : ∀ r ∈ s.requests, r.Good s.ctx
  distinct : s.requests.Pairwise fun r r' => r.Holds → r'.Holds → r.pdev ≠ r'.pdev

theorem Held.fresh {s : Platform} (hs : s.Sound) : s.fresh.Held where
  sound := ⟨hs.ctx, hs.removals⟩
  good := by simp [Platform.fresh]
  distinct := List.Pairwise.nil

theorem Step.sound {s t : Platform} {a : Action} (h : Step s a t) (hs : s.Sound) : t.Sound := by
  obtain ⟨hchanges, hremovals⟩ := h.changes (P := fun _ => True) hs fun _ _ _ _ _ => trivial
  exact ⟨hchanges.sound hs.ctx, hremovals⟩

/-- A request more. -/
theorem Held.add {s : Platform} {ctx' : PlatformCtx} {parent : UsbDev} {pdev : DevPtr} (hs : s.Held)
    (hctx : ctx'.Sound)
    (hobjects : ∀ n dev, s.ctx.objects n = some dev → ctx'.objects n = some dev)
    (hpicked : (AttachRequest.picked parent pdev).Good ctx')
    (hdistinct : ∀ r ∈ s.requests, r.Holds → ∀ n, pdev = .dev n → r.pdev ≠ .dev n) :
    { s with ctx := ctx', requests := s.requests ++ [AttachRequest.picked parent pdev] }.Held where
  sound := ⟨hctx, hs.sound.removals⟩
  good := by
    intro r hr
    rcases List.mem_append.1 hr with hr | hr
    · refine (hs.good r hr).frame fun hholds n hn => ?_
      obtain ⟨k, dev, hk, hdev⟩ := (hs.good r hr).object hholds
      obtain rfl := DevPtr.dev.inj (hk.symm.trans hn)
      rw [hobjects k dev hdev, hdev]
    · rw [List.mem_singleton.1 hr]
      exact hpicked
  distinct := by
    refine List.pairwise_append.2 ⟨hs.distinct, List.pairwise_singleton _ _, fun r hr r' hr' => ?_⟩
    rw [List.mem_singleton.1 hr']
    intro hholds hpicks
    obtain ⟨n, -, hn, -⟩ := hpicked.object hpicks
    have hn' : pdev = .dev n := hn
    show r.pdev ≠ pdev
    rw [hn']
    exact hdistinct r hr hholds n hn'

theorem Held.attach {s t : Platform} (hs : s.Held) {parent : UsbDev} {ans : CreateAnswers}
    (hstep : Step s (.attach parent ans) t) (h : s.Unshared (.attach parent ans)) : t.Held := by
  have hctx := (hstep.sound hs.sound).ctx
  cases hstep with
  | attach _ _ hadd =>
    refine hs.add hctx (fun n dev => platformDeviceAddLocked_objects hs.sound.ctx hadd) ?_ ?_
    all_goals
      rcases platformDeviceAddLocked_cases hadd with ⟨n, rfl, rfl, -, hfound, hfree⟩ |
        ⟨rfl, rfl, -⟩ | ⟨i, -, -, rfl, rfl⟩
    · exact .picked hfree.hasFree
    · exact .failed rfl
    · exact .picked (hasFree_withDevice i ans)
    · rintro r hr hholds _ ⟨rfl⟩ hptr
      rcases hholds with hret | hlink
      · exact h parent ans rfl n hfound r hr hret hptr
      · have hlinked := (hs.good r hr).linked hlink
        rw [hptr] at hlinked
        exact hfree.hasFree.not_linkedTo hlinked
    · intro r hr hholds k hk
      simp at hk
    · rintro r hr hholds _ ⟨rfl⟩ hptr
      obtain ⟨k, dev, hk, hdev⟩ := (hs.good r hr).object hholds
      obtain rfl := DevPtr.dev.inj (hptr.symm.trans hk)
      exact (hs.sound.ctx.lt hdev).ne rfl

/-- A request that may rely on its device links it. -/
theorem Held.link {s : Platform} (hs : s.Held) {l rs : List AttachRequest} {r : AttachRequest}
    (hrequests : s.requests = l ++ r :: rs) (hret : r.ret = none) {ctx' : PlatformCtx}
    (hlink : platformDeviceLink true r.pdev (some r.parent) s.ctx = some ctx') (hctx : ctx'.Sound) :
    { s with ctx := ctx', requests := l ++ r.returned true s.ctx :: rs }.Held := by
  have hgood : ∀ r' ∈ l ++ r :: rs, r'.Good s.ctx := hrequests ▸ hs.good
  have hdistinct := hs.distinct
  rw [hrequests, List.pairwise_append, List.pairwise_cons] at hdistinct
  obtain ⟨hl, ⟨hr, hrs⟩, hlr⟩ := hdistinct
  -- the other requests hold other devices
  have hothers : ∀ r' ∈ l ++ rs, r'.Good ctx' := by
    intro r' hr'
    have hmem : r' ∈ l ++ r :: rs := by
      simp only [List.mem_append, List.mem_cons] at hr' ⊢
      tauto
    refine (hgood r' hmem).frame fun hholds n hn => platformDeviceLink_objects_of_ne ?_ hlink
    rw [← hn]
    rcases List.mem_append.1 hr' with hr' | hr'
    · exact (hlr r' hr' r List.mem_cons_self hholds (.inl hret)).symm
    · exact hr r' hr' (.inl hret) hholds
  refine ⟨⟨hctx, hs.sound.removals⟩, fun r' hr' => ?_, ?_⟩
  · have hr' : r' = r.returned true s.ctx ∨ r' ∈ l ++ rs := by
      simp only [List.mem_append, List.mem_cons] at hr' ⊢
      tauto
    rcases hr' with rfl | hr'
    · exact (hgood r (by simp)).returned_link hret hlink
    · exact hothers r' hr'
  · refine List.pairwise_append.2 ⟨hl, List.pairwise_cons.2 ⟨fun r' hr' _ => ?_, hrs⟩, ?_⟩
    · exact hr r' hr' (.inl hret)
    · intro r' hr' r'' hr'' hholds hholds'
      rcases List.mem_cons.1 hr'' with rfl | hr''
      · exact hlr r' hr' r List.mem_cons_self hholds (.inl hret)
      · exact hlr r' hr' r'' (List.mem_cons_of_mem _ hr'') hholds hholds'

/-- A removal visits a slot. -/
theorem Held.visit {s : Platform} (hs : s.Held) {usb : UsbDev} {i : Fin deviceCountMax}
    {ctx' : PlatformCtx} {destroyed : Bool} {removals : List UsbRemoval}
    (hvisit : platformDrvUsbVisit usb i s.ctx = some (ctx', destroyed)) (hctx : ctx'.Sound)
    (hremovals : ∀ r ∈ removals, r.destroyed = none) :
    { s with
      ctx := ctx'
      requests := s.requests.map (.unlinked (s.ctx.devices i) usb)
      removals := removals }.Held where
  sound := ⟨hctx, hremovals⟩
  good := by
    intro r' hr'
    obtain ⟨r, hr, rfl⟩ := List.mem_map.1 hr'
    rcases (platformDrvUsbVisit_cases hs.sound.ctx hvisit).2 with ⟨hnull, rfl⟩ | hunlinked
    · have hkept : r.unlinked (s.ctx.devices i) usb = r := by
        refine if_neg ?_
        rintro ⟨hptr, -, hlink⟩
        obtain ⟨n, dev, hn, -⟩ := (hs.good r hr).object (.inr hlink)
        rw [hn, hnull] at hptr
        simp at hptr
      rw [hkept]
      exact hs.good r hr
    · exact (hs.good r hr).unlinked hs.sound.ctx.linked hunlinked
  distinct := by
    refine List.pairwise_map.2 (hs.distinct.imp fun h hr hr' => ?_)
    rw [AttachRequest.unlinked_pdev, AttachRequest.unlinked_pdev]
    exact h hr.of_unlinked hr'.of_unlinked

theorem Held.step {s t : Platform} {a : Action} (hs : s.Held) (h : UnsharedStep s a t) : t.Held := by
  obtain ⟨⟨hstep, ha⟩, hunshared⟩ := h
  have hsound := hstep.sound hs.sound
  cases hstep with
  | attach parent ans hadd => exact hs.attach (.attach parent ans hadd) hunshared
  | link createLink hrequests hret hlink =>
    cases createLink with
    | true => exact hs.link hrequests hret hlink hsound.ctx
    | false => exact ha.elim
  | usbRemoval usb => exact ⟨hsound, hs.good, hs.distinct⟩
  | usbVisit hremovals hvisit => exact hs.visit hvisit hsound.ctx hsound.removals
  | @usbForget l rs usb i is hremovals =>
    have hnone := hs.sound.removals ⟨usb, is, some i⟩ (by simp [hremovals])
    simp at hnone
  | addDevices _ | addDevice _ _ _ _ | removeAll _ | client _ _ _ => exact ha.elim

/-! ### What goes wrong otherwise -/

/-- A link to a device that can be read is made, if the device is free. -/
theorem platformDeviceLink_of_isFree {pdev : DevPtr} {free : Bool}
    (h : platformDeviceIsFree pdev ctx = some free) (parent : UsbDev) :
    ∃ ctx', platformDeviceLink true pdev (some parent) ctx = some ctx' ∧
      platformDeviceIsFree pdev ctx' = some false := by
  obtain ⟨n, data, rfl, hdata, rfl⟩ := platformDeviceIsFree_eq_some h
  obtain ⟨dev, hn, hdev⟩ := Option.bind_eq_some_iff.1 hdata
  have hn' : ctx.objects n = some dev := hn
  have hdev' : dev.data = some data := hdev
  rw [platformDeviceLink, if_neg (by simp), h]
  refine ⟨_, rfl, ?_⟩
  cases hfree : data.isFree with
  | false =>
    rw [hfree] at h
    exact h
  | true =>
    have hlinked : ¬ { data with symlinked := true, parent := some parent }.isFree = true :=
      PlatformDeviceData.not_isFree rfl
    simpa [platformDeviceIsFree, PlatformCtx.drvdata, PlatformCtx.object, hn', hdev'] using hlinked

/-- **Too late.** A request whose device is not free any more returns 0, and has no link. -/
theorem link_never {s : Platform} {l rs : List AttachRequest} {r : AttachRequest}
    (hrequests : s.requests = l ++ r :: rs) (hret : r.ret = none)
    (hfree : platformDeviceIsFree r.pdev s.ctx = some false) :
    ∃ u, AttachStep s (.link true) u ∧ ∃ r' ∈ u.requests, r'.ret = some 0 ∧ r'.link = .never := by
  obtain ⟨ctx', hlink, -⟩ := platformDeviceLink_of_isFree hfree r.parent
  refine ⟨_, ⟨.link true hrequests hret hlink, trivial⟩, r.returned true s.ctx, by simp, rfl, ?_⟩
  simp [AttachRequest.returned, hfree]

/-- Of two requests with one device, the one that links it second has none. -/
theorem link_link_never {s : Platform} {l m rs : List AttachRequest} {r r' : AttachRequest}
    (hrequests : s.requests = l ++ r :: (m ++ r' :: rs)) (hret : r.ret = none) (hret' : r'.ret = none)
    (hptr : r'.pdev = r.pdev) (hfree : platformDeviceIsFree r.pdev s.ctx = some true) :
    ∃ bs u, Run AttachStep s bs u ∧ ∃ r ∈ u.requests, r.ret = some 0 ∧ r.link = .never := by
  obtain ⟨ctx', hlink, hlinked⟩ := platformDeviceLink_of_isFree hfree r.parent
  have hstep : AttachStep s (.link true)
      { s with ctx := ctx', requests := l ++ r.returned true s.ctx :: (m ++ r' :: rs) } :=
    ⟨.link true hrequests hret hlink, trivial⟩
  obtain ⟨u, hstep', hnever⟩ := link_never
    (s := { s with ctx := ctx', requests := l ++ r.returned true s.ctx :: (m ++ r' :: rs) })
    (l := l ++ r.returned true s.ctx :: m) (by simp; rfl) hret' (by rwa [hptr])
  exact ⟨_, u, (Run.one hstep).snoc hstep', hnever⟩

theorem platformDeviceAddLocked_found {ctx : PlatformCtx} {parent : UsbDev} {ans : CreateAnswers} {n : ℕ}
    (h : platformDrvGetFreeDevice ctx = some (.dev n)) :
    platformDeviceAddLocked ans (some parent) ctx = some (ctx, .dev n) := by
  simp [platformDeviceAddLocked, h, DevPtr.isErrOrNull]

/-- A request that finds the device of another one. -/
theorem never_of_shared {s t : Platform} {a : Action} (h : AttachStep s a t) (hshared : ¬ s.Unshared a) :
    ∃ bs u, Run AttachStep t bs u ∧ ∃ r ∈ u.requests, r.ret = some 0 ∧ r.link = .never := by
  obtain ⟨hstep, -⟩ := h
  simp only [Unshared, not_forall, not_not] at hshared
  obtain ⟨parent, ans, rfl, n, hfound, r, hr, hret, hptr⟩ := hshared
  obtain ⟨l, rs, hrequests⟩ := List.append_of_mem hr
  obtain hnull | ⟨k, hk, hfree⟩ := getFreeDeviceFrom_cases hfound
  · simp at hnull
  obtain rfl := DevPtr.dev.inj hk
  cases hstep with
  | attach _ _ hadd =>
    rw [platformDeviceAddLocked_found hfound] at hadd
    obtain ⟨rfl, rfl⟩ := Prod.mk.inj (Option.some.inj hadd)
    have htwo : s.requests ++ [AttachRequest.picked parent (.dev n)] =
        l ++ r :: (rs ++ AttachRequest.picked parent (.dev n) :: []) := by simp [hrequests]
    exact link_link_never htwo hret rfl hptr.symm (hptr ▸ hfree.free)

/-- **Attach requests share no device** exactly as long as none of them finds a device that another
one is about to link.

* From any state of the module, in every run of requests and removals of USB devices in which no step
  does: a request that returns 0 has linked its device to its own parent, and requests that are about to
  link their device, or have it linked, have different ones.
* A step that does can be followed by others after which a request has returned 0 without a link. -/
theorem attach_distinct_iff (s : Platform) :
    (∀ as₀ s₀ as, Run Step .init as₀ s₀ → Run UnsharedStep s₀.fresh as s →
      (∀ r ∈ s.requests, r.ret = some 0 →
        r.link ≠ .never ∧ (r.link = .made → s.ctx.LinkedTo r.pdev r.parent)) ∧
      s.requests.Pairwise fun r r' => r.Holds → r'.Holds → r.pdev ≠ r'.pdev) ∧
    ∀ a t, AttachStep s a t → ¬ s.Unshared a →
      ∃ bs u, Run AttachStep t bs u ∧ ∃ r ∈ u.requests, r.ret = some 0 ∧ r.link = .never := by
  refine ⟨fun as₀ s₀ as h₀ h => ?_, fun a t => never_of_shared⟩
  have hs₀ : s₀.Sound := h₀.invariant (fun _ _ _ hs hstep => hstep.sound hs) .init
  have hs : s.Held := h.invariant (fun _ _ _ hs hstep => hs.step hstep) (.fresh hs₀)
  exact ⟨fun r hr hret => ⟨(hs.good r hr).returned hret, (hs.good r hr).linked⟩, hs.distinct⟩

/-- The first request registers a device. -/
theorem creates_first : Creates PlatformCtx.init (some 1) 0 :=
  ⟨by decide +kernel, by decide +kernel, by decide +kernel⟩

/-- A request registers a device, and links it. -/
theorem attach_distinct_iff_one : ∃ s : Platform,
    s.requests = [⟨1, .dev 0, some 0, .made⟩] ∧ s.ctx.LinkedTo (.dev 0) 1 := by
  let drm : DrmCore := DrmCore.init (Stream'.const true) (Stream'.const true)
  have hattach : UnsharedStep (fresh .init) _ _ :=
    ⟨⟨.attach 1 ⟨none, some (0, drm)⟩ (platformDeviceAddLocked_of_creates creates_first _), trivial⟩,
      fun parent ans _ n _ r hr => by simp [fresh] at hr⟩
  have hrun := (Run.one hattach).snoc
    ⟨⟨.link (l := []) true rfl (by decide +kernel) rfl, trivial⟩, fun _ _ ha => by simp at ha⟩
  have h := ((attach_distinct_iff _).1 _ _ _ (Run.nil _) hrun).1
  exact ⟨_, by decide +kernel, (h ⟨1, .dev 0, some 0, .made⟩ (by decide +kernel) rfl).2 rfl⟩

/-- The first request registers a device, the second one finds it free before it is linked. Both
return 0. -/
theorem attach_shared : ∃ as s, Run AttachStep (fresh .init) as s ∧
    s.requests = [⟨1, .dev 0, some 0, .made⟩, ⟨2, .dev 0, some 0, .never⟩] := by
  let drm : DrmCore := DrmCore.init (Stream'.const true) (Stream'.const true)
  have hrun : Run AttachStep (fresh .init) _ _ :=
    (((Run.one ⟨.attach 1 ⟨none, some (0, drm)⟩ (platformDeviceAddLocked_of_creates creates_first _),
        trivial⟩).snoc
      ⟨.attach 2 ⟨none, none⟩ rfl, trivial⟩).snoc
      ⟨.link (l := []) true rfl (by decide +kernel) rfl, trivial⟩).snoc
      ⟨.link (l := [_]) true rfl (by decide +kernel) rfl, trivial⟩
  exact ⟨_, _, hrun, by decide +kernel⟩

end Platform

end Evdi
