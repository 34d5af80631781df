import Evdi.Model.PlatformRun

/-!
# The table of devices

What the steps of `Platform.Step` do to the context is a sequence of changes of a few kinds
(`PlatformCtx.Change`), whatever the order of the steps: an invariant of the table needs a look at
each kind only (`Platform.run_invariant`).

* `PlatformCtx.Sound`: what holds whatever the kernel answers;
* `PlatformCtx.Table`: the count, and a slot for each device;
* `device_count`: the invariant of all runs;
* `PlatformCtx.Readable`: what the scans of the table rely on;
* `device_table_survives_iff`: a probe that fails leaves a slot without a device that can be read.
-/

namespace Evdi

open Transition

/-! ### Changes -/

/-- The link in sysfs is what the driver data say. -/
def PlatformDevice.Linked (dev : PlatformDevice) : Prop :=
  ∀ data, dev.data = some data →
    (data.symlinked = true ↔ data.parent ≠ none) ∧ dev.link = data.parent

/-- What may happen to the context: a change of what one device says, a new device, where the answers
are `P`; a device removed; and the count reset. -/
inductive PlatformCtx.Change (P : CreateAnswers → Prop) : PlatformCtx → PlatformCtx → Prop
  | device {ctx : PlatformCtx} {n : ℕ} {dev dev' : PlatformDevice} : ctx.objects n = some dev →
      dev'.id = dev.id → dev'.parent = dev.parent → dev'.data.isSome = dev.data.isSome →
      (dev.Linked → dev'.Linked) →
      Change P ctx { ctx with objects := Function.update ctx.objects n (some dev') }
  | create {ctx : PlatformCtx} {i : Fin deviceCountMax} {ans : CreateAnswers} : ctx.devices i = .null →
      ctx.devCount < .ofNat deviceCountMax → P ans → ans.error = none →
      Change P ctx (ctx.withDevice i (platformDeviceProbe ans))
  | remove {ctx ctx' : PlatformCtx} {i : Fin deviceCountMax} : ctx.devices i ≠ .null →
      removeDevice ctx i = some ctx' → Change P ctx ctx'
  | reset {ctx : PlatformCtx} : (∀ i, ctx.devices i = .null) → Change P ctx { ctx with devCount := 0 }

/-- Any number of changes. -/
abbrev PlatformCtx.Changes (P : CreateAnswers → Prop) : PlatformCtx → PlatformCtx → Prop :=
  Relation.ReflTransGen (PlatformCtx.Change P)

/-- What holds whatever the kernel answers: objects are numbered in order, all of them are on the
platform bus, and their links are what their data say. -/
structure PlatformCtx.Sound (ctx : PlatformCtx) : Prop where
  fresh : ∀ n, ctx.nextObject ≤ n → ctx.objects n = none
  slot_lt : ∀ i n, ctx.devices i = .dev n → n < ctx.nextObject
  bus : ∀ n dev, ctx.objects n = some dev → dev.parent = .platformBus
  linked : ∀ n dev, ctx.objects n = some dev → dev.Linked

theorem PlatformCtx.Sound.init : PlatformCtx.init.Sound where
  fresh := fun _ _ => rfl
  slot_lt := fun _ _ h => by simp [PlatformCtx.init] at h
  bus := fun _ _ h => by simp [PlatformCtx.init] at h
  linked := fun _ _ h => by simp [PlatformCtx.init] at h

variable {P : CreateAnswers → Prop} {ctx ctx' : PlatformCtx}

theorem PlatformCtx.Sound.lt (h : ctx.Sound) {n : ℕ} {dev : PlatformDevice}
    (hn : ctx.objects n = some dev) : n < ctx.nextObject := by
  by_contra hge
  rw [h.fresh n (not_lt.1 hge)] at hn
  simp at hn

/-- A removal takes the device, if it is one, and empties its slot. -/
theorem removeDevice_eq {i : Fin deviceCountMax} (hi : ctx.devices i ≠ .null)
    (h : removeDevice ctx i = some ctx') :
    ∃ objects, ctx' =
      { ctx with
        devCount := ctx.devCount - 1
        devices := Function.update ctx.devices i .null
        objects := objects } ∧
      ∀ n, objects n = if ctx.devices i = .dev n then none else ctx.objects n := by
  rw [removeDevice, if_neg hi] at h
  obtain ⟨destroyed, hdestroyed, rfl⟩ := Option.map_eq_some_iff.1 h
  cases hdev : ctx.devices i with
  | null => exact absurd hdev hi
  | err e =>
    rw [hdev] at hdestroyed
    obtain rfl := Option.some.inj hdestroyed
    exact ⟨ctx.objects, rfl, by simp⟩
  | dev n =>
    rw [hdev] at hdestroyed
    obtain ⟨dev, -, rfl⟩ := Option.map_eq_some_iff.1 hdestroyed
    refine ⟨Function.update ctx.objects n none, rfl, fun k => ?_⟩
    simp only [DevPtr.dev.injEq, Function.update_apply, eq_comm]

/-- What is found in an updated place, or in another one. -/
theorem update_cases {α β : Type*} [DecidableEq α] {f : α → β} {a b : α} {v w : β}
    (h : Function.update f a v b = w) : (b = a ∧ v = w) ∨ (b ≠ a ∧ f b = w) := by
  rw [Function.update_apply] at h
  split_ifs at h with hb
  · exact .inl ⟨hb, h⟩
  · exact .inr ⟨hb, h⟩

theorem PlatformCtx.Change.sound (h : ctx.Change P ctx') (hs : ctx.Sound) : ctx'.Sound := by
  cases h with
  | @device n dev dev' hn hid hparent hdata hlinked =>
    refine ⟨fun k hk => ?_, hs.slot_lt, fun k d hk => ?_, fun k d hk => ?_⟩
    · exact (Function.update_of_ne ((hs.lt hn).trans_le hk).ne' _ _).trans (hs.fresh k hk)
    · rcases update_cases hk with ⟨-, heq⟩ | ⟨-, hk⟩
      · rw [← Option.some.inj heq, hparent]
        exact hs.bus _ _ hn
      · exact hs.bus k d hk
    · rcases update_cases hk with ⟨-, heq⟩ | ⟨-, hk⟩
      · rw [← Option.some.inj heq]
        exact hlinked (hs.linked _ _ hn)
      · exact hs.linked k d hk
  | @create i ans hi hcount hans herror =>
    refine ⟨fun k hk => ?_, fun j n hj => ?_, fun k d hk => ?_, fun k d hk => ?_⟩
    · have hk' : ctx.nextObject + 1 ≤ k := hk
      exact (Function.update_of_ne (by omega) _ _).trans (hs.fresh k (by omega))
    · show n < ctx.nextObject + 1
      rcases update_cases hj with ⟨-, heq⟩ | ⟨-, hj⟩
      · rw [← DevPtr.dev.inj heq]
        exact Nat.lt_succ_self _
      · exact (hs.slot_lt j n hj).trans (Nat.lt_succ_self _)
    · rcases update_cases hk with ⟨-, heq⟩ | ⟨-, hk⟩
      · rw [← Option.some.inj heq]
      · exact hs.bus k d hk
    · rcases update_cases hk with ⟨-, heq⟩ | ⟨-, hk⟩
      · rw [← Option.some.inj heq]
        intro data hdata
        obtain ⟨probe, -, rfl⟩ := Option.map_eq_some_iff.1 hdata
        simp
      · exact hs.linked k d hk
  | @remove _ i hi hremove =>
    obtain ⟨objects, rfl, hobjects⟩ := removeDevice_eq hi hremove
    have hkept : ∀ {k d}, objects k = some d → ctx.objects k = some d := by
      intro k d hk
      rw [hobjects] at hk
      split_ifs at hk with hki
      exact hk
    refine ⟨fun k hk => ?_, fun j n hj => ?_, fun k d hk => hs.bus k d (hkept hk),
      fun k d hk => hs.linked k d (hkept hk)⟩
    · show objects k = none
      rw [hobjects, hs.fresh k hk, ite_self]
    · rcases update_cases hj with ⟨-, heq⟩ | ⟨-, hj⟩
      · simp at heq
      · exact hs.slot_lt j n hj
  | reset hnull => exact ⟨hs.fresh, hs.slot_lt, hs.bus, hs.linked⟩

/-- What each change of a sound context keeps, any number of them keep. -/
theorem PlatformCtx.Changes.invariant {I : PlatformCtx → Prop}
    (hI : ∀ ctx ctx' : PlatformCtx, ctx.Sound → I ctx → ctx.Change P ctx' → I ctx')
    (h : ctx.Changes P ctx') (hs : ctx.Sound) (h0 : I ctx) : ctx'.Sound ∧ I ctx' := by
  induction h with
  | refl => exact ⟨hs, h0⟩
  | tail _ hchange ih => exact ⟨hchange.sound ih.1, hI _ _ ih.1 ih.2 hchange⟩

theorem PlatformCtx.Changes.sound (h : ctx.Changes P ctx') (hs : ctx.Sound) : ctx'.Sound :=
  (h.invariant (I := fun _ => True) (fun _ _ _ _ _ => trivial) hs trivial).1

/-! ### What the steps change -/

/-- A change of what a device says. -/
theorem changes_onObject {n : ℕ} {data : PlatformDeviceData} (hdata : ctx.drvdata (.dev n) = some data)
    {f : PlatformDevice → PlatformDevice} (hid : ∀ dev, (f dev).id = dev.id)
    (hparent : ∀ dev, (f dev).parent = dev.parent) (hsome : ∀ dev, (f dev).data.isSome = dev.data.isSome)
    (hlinked : ∀ dev, dev.Linked → (f dev).Linked) :
    ctx.Changes P (ctx.onObject (.dev n) f) := by
  obtain ⟨dev, hdev, -⟩ := Option.bind_eq_some_iff.1 hdata
  have hdev' : ctx.objects n = some dev := hdev
  rw [PlatformCtx.onObject, hdev']
  exact .single (.device hdev' (hid dev) (hparent dev) (hsome dev) (hlinked dev))

theorem drvdata_some {pdev : DevPtr} {data : PlatformDeviceData} (h : ctx.drvdata pdev = some data) :
    ∃ n, pdev = .dev n := by
  cases pdev with
  | dev n => exact ⟨n, rfl⟩
  | null => simp [PlatformCtx.drvdata, PlatformCtx.object] at h
  | err e => simp [PlatformCtx.drvdata, PlatformCtx.object] at h

/-- **A link** is made when the device is free, and nothing happens otherwise. -/
theorem platformDeviceLink_cases {createLink : Bool} {pdev : DevPtr} {parent : UsbDev}
    (h : platformDeviceLink createLink pdev (some parent) ctx = some ctx') :
    (ctx' = ctx ∧ ¬ (platformDeviceIsFree pdev ctx = some true ∧ createLink)) ∨
    (platformDeviceIsFree pdev ctx = some true ∧ createLink) ∧ ∃ n data, pdev = .dev n ∧
      ctx.drvdata pdev = some data ∧ data.isFree = true ∧
      ctx' = ctx.onObject pdev fun dev =>
        { dev with
          link := some parent
          data := dev.data.map fun data => { data with symlinked := true, parent := some parent } } := by
  rw [platformDeviceLink] at h
  by_cases hnull : pdev = .null
  · rw [if_pos hnull] at h
    obtain rfl := Option.some.inj h
    refine .inl ⟨rfl, ?_⟩
    rintro ⟨hfree, -⟩
    simp [hnull, platformDeviceIsFree, PlatformCtx.drvdata, PlatformCtx.object] at hfree
  · rw [if_neg hnull] at h
    obtain ⟨free, hfree, rfl⟩ := Option.map_eq_some_iff.1 h
    cases free with
    | false => exact .inl ⟨rfl, by simp [hfree]⟩
    | true =>
      cases createLink with
      | false => exact .inl ⟨rfl, by simp⟩
      | true =>
        obtain ⟨n, data, rfl, hdata, hisFree⟩ := platformDeviceIsFree_eq_some hfree
        exact .inr ⟨⟨hfree, rfl⟩, n, data, rfl, hdata, hisFree, rfl⟩

theorem changes_platformDeviceLink {createLink : Bool} {pdev : DevPtr} {parent : UsbDev}
    (h : platformDeviceLink createLink pdev (some parent) ctx = some ctx') : ctx.Changes P ctx' := by
  rcases platformDeviceLink_cases h with ⟨rfl, -⟩ | ⟨-, n, data, rfl, hdata, -, rfl⟩
  · exact .refl
  · refine changes_onObject hdata (fun _ => rfl) (fun _ => rfl) (fun dev => by simp) ?_
    intro dev _ data' hdata'
    obtain ⟨data, -, rfl⟩ := Option.map_eq_some_iff.1 hdata'
    simp

/-- A removal of a link changes the device that has a link to `usb`, and nothing otherwise. -/
theorem platformDeviceUnlink_cases {pdev : DevPtr} {usb : UsbDev}
    (h : platformDeviceUnlinkIfLinkedWith pdev usb ctx = some ctx') :
    ∃ n data, pdev = .dev n ∧ ctx.drvdata pdev = some data ∧
      ((ctx' = ctx ∧ data.parent ≠ some usb) ∨
        data.parent = some usb ∧ ctx' = ctx.onObject pdev fun dev =>
          { dev with
            link := none
            data := dev.data.map fun data => { data with symlinked := false, parent := none } }) := by
  obtain ⟨data, hdata, rfl⟩ := Option.map_eq_some_iff.1 h
  obtain ⟨n, rfl⟩ := drvdata_some hdata
  refine ⟨n, data, rfl, hdata, ?_⟩
  split_ifs with hparent
  · exact .inr ⟨hparent, rfl⟩
  · exact .inl ⟨rfl, hparent⟩

theorem changes_platformDeviceUnlink {pdev : DevPtr} {usb : UsbDev}
    (h : platformDeviceUnlinkIfLinkedWith pdev usb ctx = some ctx') : ctx.Changes P ctx' := by
  obtain ⟨n, data, rfl, hdata, ⟨rfl, -⟩ | ⟨-, rfl⟩⟩ := platformDeviceUnlink_cases h
  · exact .refl
  · refine changes_onObject hdata (fun _ => rfl) (fun _ => rfl) (fun dev => by simp) ?_
    intro dev _ data' hdata'
    obtain ⟨data, -, rfl⟩ := Option.map_eq_some_iff.1 hdata'
    simp

/-- **A visit** of a slot removes a link, if there is one: no device is a child of a USB device, so that
it does not destroy any. -/
theorem platformDrvUsbVisit_cases (hs : ctx.Sound) {usb : UsbDev} {i : Fin deviceCountMax}
    {destroyed : Bool} (h : platformDrvUsbVisit usb i ctx = some (ctx', destroyed)) :
    destroyed = false ∧ ((ctx.devices i = .null ∧ ctx' = ctx) ∨
      platformDeviceUnlinkIfLinkedWith (ctx.devices i) usb ctx = some ctx') := by
  unfold platformDrvUsbVisit at h
  dsimp only at h
  split_ifs at h with hnull
  · obtain ⟨rfl, rfl⟩ := Prod.mk.inj (Option.some.inj h)
    exact ⟨rfl, .inl ⟨hnull, rfl⟩⟩
  · obtain ⟨unlinked, hunlinked, h⟩ := Option.bind_eq_some_iff.1 h
    have hs' := (changes_platformDeviceUnlink (P := fun _ => True) hunlinked).sound hs
    split_ifs at h with hparent
    · obtain ⟨dev, hdev, hbus⟩ := Option.map_eq_some_iff.1 hparent
      cases hptr : ctx.devices i with
      | null => exact absurd hptr hnull
      | err e => simp [hptr, PlatformCtx.object] at hdev
      | dev n =>
        rw [hptr] at hdev
        rw [hs'.bus n dev hdev] at hbus
        simp at hbus
    · obtain ⟨rfl, rfl⟩ := Prod.mk.inj (Option.some.inj h)
      exact ⟨rfl, .inr hunlinked⟩

theorem changes_platformDrvUsbVisit (hs : ctx.Sound) {usb : UsbDev} {i : Fin deviceCountMax}
    {destroyed : Bool} (h : platformDrvUsbVisit usb i ctx = some (ctx', destroyed)) :
    ctx.Changes P ctx' := by
  obtain ⟨-, ⟨-, rfl⟩ | hunlinked⟩ := platformDrvUsbVisit_cases hs h
  · exact .refl
  · exact changes_platformDeviceUnlink hunlinked

/-- One turn of the loop of `evdi_platform_remove_all_devices` empties its slot. -/
theorem removeDevice_cases {i : Fin deviceCountMax} (h : removeDevice ctx i = some ctx') :
    ctx.Changes P ctx' ∧ ∀ j, j = i ∨ ctx.devices j = .null → ctx'.devices j = .null := by
  by_cases hi : ctx.devices i = .null
  · rw [removeDevice, if_pos hi] at h
    obtain rfl := Option.some.inj h
    refine ⟨.refl, fun j hj => ?_⟩
    rcases hj with rfl | hj
    · exact hi
    · exact hj
  · refine ⟨.single (.remove hi h), fun j hj => ?_⟩
    obtain ⟨objects, rfl, -⟩ := removeDevice_eq hi h
    show Function.update ctx.devices i .null j = .null
    rw [Function.update_apply]
    split_ifs with hji
    · rfl
    · exact hj.resolve_left hji

/-- The slots gone through are empty, and the others as they were or empty too. -/
theorem foldlM_removeDevice {is : List (Fin deviceCountMax)}
    (h : is.foldlM removeDevice ctx = some ctx') :
    ctx.Changes P ctx' ∧ ∀ i, i ∈ is ∨ ctx.devices i = .null → ctx'.devices i = .null := by
  induction is generalizing ctx with
  | nil =>
    obtain rfl := Option.some.inj h
    exact ⟨.refl, fun i hi => hi.resolve_left (by simp)⟩
  | cons j is ih =>
    rw [List.foldlM_cons] at h
    obtain ⟨removed, hremoved, hrest⟩ := Option.bind_eq_some_iff.1 h
    obtain ⟨hchanges, hempty⟩ := removeDevice_cases hremoved
    obtain ⟨hchanges', hnull⟩ := ih hrest
    refine ⟨Relation.ReflTransGen.trans hchanges hchanges', fun i hi => hnull i ?_⟩
    rcases hi with hi | hi
    · rcases List.mem_cons.1 hi with rfl | hi
      · exact .inr (hempty _ (.inl rfl))
      · exact .inl hi
    · exact .inr (hempty _ (.inr hi))

theorem changes_platformRemoveAllDevices (h : platformRemoveAllDevices ctx = some ctx') :
    ctx.Changes P ctx' := by
  obtain ⟨removed, hremoved, rfl⟩ := Option.map_eq_some_iff.1 h
  obtain ⟨hchanges, hnull⟩ := foldlM_removeDevice hremoved
  exact hchanges.tail (.reset fun i => hnull i (.inl (List.mem_finRange i)))

/-- An addition, where the answers are `P` if it creates a device. -/
theorem changes_platformDeviceAddLocked {ans : CreateAnswers} {parent : Option UsbDev} {pdev : DevPtr}
    (h : platformDeviceAddLocked ans parent ctx = some (ctx', pdev))
    (hP : ∀ i, Creates ctx parent i → P ans) : ctx.Changes P ctx' := by
  rcases platformDeviceAddLocked_cases h with ⟨n, rfl, -⟩ | ⟨rfl, -⟩ | ⟨i, hi, herror, rfl, -⟩
  · exact .refl
  · exact .refl
  · exact .single (.create hi.slot hi.count_lt (hP i hi) herror)

/-! ### Runs -/

namespace Platform

/-- The creation that a step may come to, with the kernel's answers. -/
def Action.creation : Action → Option (Option UsbDev × CreateAnswers)
  | .attach parent ans => some (some parent, ans)
  | .addDevice ans => some (none, ans)
  | _ => none

/-- If the step creates a device, then with answers in `P`. -/
def CreationsAre (P : CreateAnswers → Prop) (s : Platform) (a : Action) : Prop :=
  ∀ parent ans i, a.creation = some (parent, ans) → Creates s.ctx parent i → P ans

/-- The steps with such answers. -/
def StepWith (P : CreateAnswers → Prop) (s : Platform) (a : Action) (t : Platform) : Prop :=
  Step s a t ∧ CreationsAre P s a

/-- What holds whatever the kernel answers. -/
structure Sound (s : Platform) : Prop where
  ctx : s.ctx.Sound
  removals : ∀ r ∈ s.removals, r.destroyed = none

theorem Sound.init : Platform.init.Sound := ⟨.init, by simp [Platform.init]⟩

/-- **What a step changes.** -/
theorem Step.changes {s t : Platform} {a : Action} (h : Step s a t) (hs : s.Sound)
    (hP : s.CreationsAre P a) :
    s.ctx.Changes P t.ctx ∧ ∀ r ∈ t.removals, r.destroyed = none := by
  cases h with
  | attach parent ans hadd =>
    exact ⟨changes_platformDeviceAddLocked hadd fun i hi => hP _ _ i rfl hi, hs.removals⟩
  | link createLink _ _ hlink => exact ⟨changes_platformDeviceLink hlink, hs.removals⟩
  | addDevices val => exact ⟨.refl, hs.removals⟩
  | addDevice ans _ _ hadd =>
    exact ⟨changes_platformDeviceAddLocked hadd fun i hi => hP _ _ i rfl hi, hs.removals⟩
  | usbRemoval usb =>
    refine ⟨.refl, fun r hr => ?_⟩
    rcases List.mem_append.1 hr with hr | hr
    · exact hs.removals r hr
    · rw [List.mem_singleton.1 hr]
  | usbVisit hremovals hvisit =>
    refine ⟨changes_platformDrvUsbVisit hs.ctx hvisit, fun r hr => ?_⟩
    have hold := hs.removals r
    rw [hremovals] at hold
    simp only [List.mem_append, List.mem_cons] at hr hold
    rcases hr with hr | rfl | hr
    · exact hold (.inl hr)
    · simp [(platformDrvUsbVisit_cases hs.ctx hvisit).1]
    · exact hold (.inr (.inr hr))
  | @usbForget l rs usb i is hremovals =>
    have hnone := hs.removals ⟨usb, is, some i⟩ (by simp [hremovals])
    simp at hnone
  | removeAll hremove => exact ⟨changes_platformRemoveAllDevices hremove, hs.removals⟩
  | client evdi hdata _ =>
    refine ⟨changes_onObject hdata (fun _ => rfl) (fun _ => rfl) (fun dev => by simp) ?_, hs.removals⟩
    intro dev hlinked data' hdata'
    obtain ⟨data, hdata, rfl⟩ := Option.map_eq_some_iff.1 hdata'
    exact hlinked data hdata

/-- **The invariant rule** of the platform devices: what each kind of change keeps, every run keeps. -/
theorem run_invariant {I : PlatformCtx → Prop}
    (hI : ∀ ctx ctx', ctx.Sound → I ctx → ctx.Change P ctx' → I ctx') {s t : Platform} {as : List Action}
    (h : Run (StepWith P) s as t) (hs : s.Sound) (h0 : I s.ctx) : t.Sound ∧ I t.ctx := by
  refine h.invariant (I := fun s => s.Sound ∧ I s.ctx) (fun s a t hs hstep => ?_) ⟨hs, h0⟩
  obtain ⟨hchanges, hremovals⟩ := hstep.1.changes hs.1 hstep.2
  have hkept := hchanges.invariant hI hs.1.ctx hs.2
  exact ⟨⟨hkept.1, hremovals⟩, hkept.2⟩

end Platform

/-! ### The count -/

/-- The slots that are not empty. -/
def PlatformCtx.occupied (ctx : PlatformCtx) : Finset (Fin deviceCountMax) :=
  Finset.univ.filter fun i => ctx.devices i ≠ .null

/-- The count is the number of slots that are not empty, each of them has the device of its number,
and each device has a slot. -/
structure PlatformCtx.Table (ctx : PlatformCtx) : Prop where
  count : ctx.devCount.toNat = ctx.occupied.card
  slot : ∀ i, ctx.devices i ≠ .null →
    ∃ n dev, ctx.devices i = .dev n ∧ ctx.objects n = some dev ∧ dev.id = i.val
  placed : ∀ n dev, ctx.objects n = some dev → ∃ i, ctx.devices i = .dev n

theorem PlatformCtx.Table.init : PlatformCtx.init.Table where
  count := rfl
  slot := fun i h => absurd rfl h
  placed := fun _ _ h => by simp [PlatformCtx.init] at h

theorem PlatformCtx.card_occupied_le (ctx : PlatformCtx) : ctx.occupied.card ≤ deviceCountMax := by
  have h := Finset.card_le_univ ctx.occupied
  rwa [Fintype.card_fin] at h

/-- Each device is in the slot of its number, and in no other one. -/
theorem PlatformCtx.Table.slot_eq (h : ctx.Table) {i : Fin deviceCountMax} {n : ℕ} {dev : PlatformDevice}
    (hi : ctx.devices i = .dev n) (hn : ctx.objects n = some dev) : dev.id = i.val := by
  obtain ⟨n', dev', hi', hn', hid⟩ := h.slot i (by simp [hi])
  rw [hi] at hi'
  obtain rfl := DevPtr.dev.inj hi'
  rw [hn] at hn'
  obtain rfl := Option.some.inj hn'
  exact hid

theorem PlatformCtx.occupied_withDevice {i : Fin deviceCountMax} (data : Option PlatformDeviceData) :
    (ctx.withDevice i data).occupied = insert i ctx.occupied := by
  ext j
  simp only [PlatformCtx.occupied, PlatformCtx.withDevice, Function.update_apply,
    Finset.mem_filter_univ, Finset.mem_insert]
  by_cases hji : j = i <;> simp [hji]

theorem PlatformCtx.occupied_removeDevice {i : Fin deviceCountMax} (hi : ctx.devices i ≠ .null)
    (h : removeDevice ctx i = some ctx') : ctx'.occupied = ctx.occupied.erase i := by
  obtain ⟨objects, rfl, -⟩ := removeDevice_eq hi h
  ext j
  simp only [PlatformCtx.occupied, Function.update_apply, Finset.mem_filter_univ, Finset.mem_erase]
  by_cases hji : j = i <;> simp [hji]

/-- A device says something else, and keeps its number. -/
theorem PlatformCtx.Table.device (ht : ctx.Table) {n : ℕ} {dev dev' : PlatformDevice}
    (hn : ctx.objects n = some dev) (hid : dev'.id = dev.id) :
    ({ ctx with objects := Function.update ctx.objects n (some dev') } : PlatformCtx).Table := by
  refine ⟨ht.count, fun i hi => ?_, fun k d hk => ?_⟩
  · obtain ⟨k, d, hk, hd, hid'⟩ := ht.slot i hi
    by_cases hkn : k = n
    · subst hkn
      rw [hn] at hd
      obtain rfl := Option.some.inj hd
      exact ⟨k, dev', hk, Function.update_self _ _ _, hid.trans hid'⟩
    · exact ⟨k, d, hk, (Function.update_of_ne hkn _ _).trans hd, hid'⟩
  · rcases update_cases hk with ⟨rfl, -⟩ | ⟨-, hk⟩
    · exact ht.placed _ _ hn
    · exact ht.placed k d hk

/-- A new device takes an empty slot. -/
theorem PlatformCtx.Table.withDevice (ht : ctx.Table) (hs : ctx.Sound) {i : Fin deviceCountMax}
    (hi : ctx.devices i = .null) (hcount : ctx.devCount < .ofNat deviceCountMax)
    (data : Option PlatformDeviceData) : (ctx.withDevice i data).Table := by
  have hnot : i ∉ ctx.occupied := by simp [PlatformCtx.occupied, hi]
  refine ⟨?_, fun j hj => ?_, fun k d hk => ?_⟩
  · rw [occupied_withDevice, Finset.card_insert_of_notMem hnot, ← ht.count]
    have hlt : ctx.devCount.toNat < 16 := UInt32.lt_iff_toNat_lt.1 hcount
    show (ctx.devCount + 1).toNat = _
    rw [UInt32.toNat_add, Nat.mod_eq_of_lt (by simp; omega)]
    rfl
  · by_cases hji : j = i
    · subst hji
      exact ⟨ctx.nextObject, _, Function.update_self _ _ _, Function.update_self _ _ _, rfl⟩
    · have hj' : ctx.devices j ≠ .null := by
        intro hnull
        exact hj ((Function.update_of_ne hji _ _).trans hnull)
      obtain ⟨k, d, hk, hd, hid⟩ := ht.slot j hj'
      exact ⟨k, d, (Function.update_of_ne hji _ _).trans hk,
        (Function.update_of_ne (hs.lt hd).ne _ _).trans hd, hid⟩
  · rcases update_cases hk with ⟨rfl, -⟩ | ⟨-, hk⟩
    · exact ⟨i, Function.update_self _ _ _⟩
    · obtain ⟨j, hj⟩ := ht.placed k d hk
      have hji : j ≠ i := by
        rintro rfl
        simp [hi] at hj
      exact ⟨j, (Function.update_of_ne hji _ _).trans hj⟩

/-- A slot is emptied, and its device is gone. -/
theorem PlatformCtx.Table.removeDevice (ht : ctx.Table) {i : Fin deviceCountMax}
    (hi : ctx.devices i ≠ .null) (h : removeDevice ctx i = some ctx') : ctx'.Table := by
  obtain ⟨n, dev, hin, hn, hid⟩ := ht.slot i hi
  have hocc := PlatformCtx.occupied_removeDevice hi h
  obtain ⟨objects, rfl, hobjects⟩ := removeDevice_eq hi h
  have hmem : i ∈ ctx.occupied := by simp [PlatformCtx.occupied, hi]
  have hkept : ∀ {k d}, objects k = some d → k ≠ n ∧ ctx.objects k = some d := by
    intro k d hk
    rw [hobjects] at hk
    split_ifs at hk with hki
    refine ⟨?_, hk⟩
    rintro rfl
    exact hki hin
  refine ⟨?_, fun j hj => ?_, fun k d hk => ?_⟩
  · rw [hocc, Finset.card_erase_of_mem hmem, ← ht.count]
    have hpos : 0 < ctx.occupied.card := Finset.card_pos.2 ⟨i, hmem⟩
    rw [← ht.count] at hpos
    have hle : (1 : UInt32) ≤ ctx.devCount := UInt32.le_iff_toNat_le.2 hpos
    exact UInt32.toNat_sub_of_le _ _ hle
  · have hji : j ≠ i := by
      rintro rfl
      exact hj (Function.update_self _ _ _)
    have hj' : ctx.devices j ≠ .null := fun hnull => hj ((Function.update_of_ne hji _ _).trans hnull)
    obtain ⟨k, d, hk, hd, hid'⟩ := ht.slot j hj'
    refine ⟨k, d, (Function.update_of_ne hji _ _).trans hk, ?_, hid'⟩
    show objects k = some d
    rw [hobjects, if_neg ?_, hd]
    intro hik
    -- one device has one number
    have hd' : d.id = i.val := ht.slot_eq hik hd
    exact hji (Fin.ext (by omega))
  · obtain ⟨hkn, hk⟩ := hkept hk
    obtain ⟨j, hj⟩ := ht.placed k d hk
    have hji : j ≠ i := by
      rintro rfl
      rw [hin] at hj
      exact hkn (DevPtr.dev.inj hj).symm
    exact ⟨j, (Function.update_of_ne hji _ _).trans hj⟩

/-- **The table** is kept by all changes. -/
theorem PlatformCtx.Change.table (h : ctx.Change P ctx') (hs : ctx.Sound) (ht : ctx.Table) :
    ctx'.Table := by
  cases h with
  | device hn hid => exact ht.device hn hid
  | create hi hcount => exact ht.withDevice hs hi hcount _
  | remove hi hremove => exact ht.removeDevice hi hremove
  | reset hnull =>
    refine ⟨?_, ht.slot, ht.placed⟩
    have hempty : ctx.occupied = ∅ := by simp [PlatformCtx.occupied, hnull]
    show (0 : UInt32).toNat = ctx.occupied.card
    rw [hempty]
    rfl

/-- **The invariant of the count.** In every state of every run in which `platform_device_register_full`
succeeds:

* the count is the number of slots that are not empty, at most `EVDI_DEVICE_COUNT_MAX`;
* each device has one slot, of its own number;
* a device is symlinked exactly when it has a parent. -/
theorem device_count {as : List Platform.Action} {s : Platform}
    (h : Run (Platform.StepWith fun ans => ans.error = none) .init as s) :
    s.ctx.devCount.toNat = s.ctx.occupied.card ∧ s.ctx.devCount.toNat ≤ deviceCountMax ∧
    (∀ n dev, s.ctx.objects n = some dev →
      ∃ i : Fin deviceCountMax, dev.id = i.val ∧ ∀ j, s.ctx.devices j = .dev n ↔ j = i) ∧
    ∀ n dev data, s.ctx.objects n = some dev → dev.data = some data →
      (data.symlinked = true ↔ data.parent ≠ none) := by
  obtain ⟨hs, ht⟩ := Platform.run_invariant (I := PlatformCtx.Table)
    (fun _ _ hs ht hchange => hchange.table hs ht) h .init .init
  refine ⟨ht.count, ht.count ▸ s.ctx.card_occupied_le, fun n dev hn => ?_, fun n dev data hn hdata => ?_⟩
  · obtain ⟨i, hi⟩ := ht.placed n dev hn
    refine ⟨i, ht.slot_eq hi hn, fun j => ⟨fun hj => ?_, fun hj => hj ▸ hi⟩⟩
    have hid := ht.slot_eq hi hn
    have hid' := ht.slot_eq hj hn
    exact Fin.ext (by omega)
  · exact (hs.ctx.linked n dev hn data hdata).1

/-- Two devices are added by one write. -/
theorem device_count_two : ∃ as s, Run (Platform.StepWith fun ans => ans.error = none) .init as s ∧
    s.ctx.devCount = 2 ∧ s.ctx.devCount.toNat ≤ 16 := by
  have hans : ∀ (s : Platform) (a : Platform.Action),
      (∀ (parent : Option UsbDev) (ans : CreateAnswers), a.creation = some (parent, ans) →
        ans.error = none) →
      s.CreationsAre (fun ans => ans.error = none) a :=
    fun s a h parent ans i hans _ => h parent ans hans
  have hfirst : Creates .init none 0 := ⟨by simp, by decide +kernel, by decide +kernel⟩
  have hsecond : Creates (PlatformCtx.init.withDevice 0 (platformDeviceProbe ⟨none, none⟩)) none 1 :=
    ⟨by simp, by decide +kernel, by decide +kernel⟩
  have hrun : Run (Platform.StepWith fun ans => ans.error = none) .init _ _ :=
    ((Run.one ⟨.addDevices 2, hans _ _ (by simp [Platform.Action.creation])⟩).snoc
      ⟨.addDevice (l := []) ⟨none, none⟩ rfl rfl (platformDeviceAddLocked_of_creates hfirst _),
        hans _ _ (by simp [Platform.Action.creation])⟩).snoc
      ⟨.addDevice (l := []) ⟨none, none⟩ rfl (by decide +kernel)
        (platformDeviceAddLocked_of_creates hsecond _), hans _ _ (by simp [Platform.Action.creation])⟩
  exact ⟨_, _, hrun, by decide +kernel, (device_count hrun).2.1⟩

/-! ### Failures -/

/-- Each slot that is not empty has a registered device with driver data. -/
def PlatformCtx.Readable (ctx : PlatformCtx) : Prop :=
  ∀ i, ctx.devices i ≠ .null → ∃ n dev, ctx.devices i = .dev n ∧ ctx.objects n = some dev ∧
    dev.data.isSome

theorem PlatformCtx.Readable.drvdata (h : ctx.Readable) {i : Fin deviceCountMax}
    (hi : ctx.devices i ≠ .null) : (ctx.drvdata (ctx.devices i)).isSome := by
  obtain ⟨n, dev, hptr, hn, hdata⟩ := h i hi
  rw [hptr]
  show ((ctx.objects n).bind (·.data)).isSome
  rw [hn]
  exact hdata

/-- **The scan for a free device ends** where all slots can be read. -/
theorem PlatformCtx.Readable.getFreeDevice (h : ctx.Readable) :
    (platformDrvGetFreeDevice ctx).isSome := by
  unfold platformDrvGetFreeDevice
  induction slots with
  | nil => rfl
  | cons i is ih =>
    rw [getFreeDeviceFrom]
    by_cases hnull : ctx.devices i = .null
    · rw [if_pos hnull]
      exact ih
    · obtain ⟨data, hdata⟩ := Option.isSome_iff_exists.1 (h.drvdata hnull)
      rw [if_neg hnull, platformDeviceIsFree, hdata]
      cases hfree : data.isFree
      · simpa [hfree] using ih
      · simp [hfree]

/-- So does the visit of a slot by a removal. -/
theorem PlatformCtx.Readable.unlink (h : ctx.Readable) {i : Fin deviceCountMax}
    (hi : ctx.devices i ≠ .null) (usb : UsbDev) :
    (platformDeviceUnlinkIfLinkedWith (ctx.devices i) usb ctx).isSome := by
  rw [platformDeviceUnlinkIfLinkedWith, Option.isSome_map]
  exact h.drvdata hi

/-- The table is as it should be, and all devices have driver data. -/
structure PlatformCtx.Probed (ctx : PlatformCtx) : Prop extends ctx.Table where
  data : ∀ n dev, ctx.objects n = some dev → dev.data.isSome

/-- The probe of the device succeeds. -/
def CreateAnswers.Probes (ans : CreateAnswers) : Prop := ans.probe ≠ none

theorem PlatformCtx.Change.probed (h : ctx.Change CreateAnswers.Probes ctx') (hs : ctx.Sound)
    (hp : ctx.Probed) : ctx'.Probed where
  toTable := h.table hs hp.toTable
  data := by
    intro k d hk
    cases h with
    | @device n dev dev' hn hid hparent hdata hlinked =>
      rcases update_cases hk with ⟨rfl, heq⟩ | ⟨-, hk⟩
      · rw [← Option.some.inj heq, hdata]
        exact hp.data _ _ hn
      · exact hp.data k d hk
    | @create i ans hi hcount hans herror =>
      rcases update_cases hk with ⟨rfl, heq⟩ | ⟨-, hk⟩
      · rw [← Option.some.inj heq]
        simpa [platformDeviceProbe, Option.isSome_iff_ne_none, CreateAnswers.Probes] using hans
      · exact hp.data k d hk
    | remove hi hremove =>
      obtain ⟨objects, rfl, hobjects⟩ := removeDevice_eq hi hremove
      have hk' : objects k = some d := hk
      rw [hobjects] at hk'
      split_ifs at hk' with hki
      exact hp.data k d hk'
    | reset hnull => exact hp.data k d hk

theorem PlatformCtx.Probed.init : PlatformCtx.init.Probed where
  toTable := .init
  data := fun _ _ h => by simp [PlatformCtx.init] at h

theorem PlatformCtx.Probed.readable (h : ctx.Probed) : ctx.Readable := by
  intro i hi
  obtain ⟨n, dev, hptr, hn, -⟩ := h.slot i hi
  exact ⟨n, dev, hptr, hn, h.data n dev hn⟩

/-- An addition that returns an error has changed nothing. -/
theorem platformDeviceAddLocked_refused {ans : CreateAnswers} {parent : Option UsbDev} {pdev : DevPtr}
    (h : platformDeviceAddLocked ans parent ctx = some (ctx', pdev)) (hret : pdev.isErrOrNull = true) :
    ctx' = ctx := by
  rcases platformDeviceAddLocked_cases h with ⟨n, rfl, -⟩ | ⟨rfl, -⟩ | ⟨i, -, -, -, rfl⟩
  · rfl
  · rfl
  · simp [DevPtr.isErrOrNull] at hret

/-- A device whose probe has failed is in the table without driver data. -/
theorem not_readable_of_failed {ans : CreateAnswers} {parent : Option UsbDev} {pdev : DevPtr}
    {i : Fin deviceCountMax} (hi : Creates ctx parent i) (hans : ¬ ans.Probes)
    (h : platformDeviceAddLocked ans parent ctx = some (ctx', pdev)) : ¬ ctx'.Readable := by
  rw [platformDeviceAddLocked_of_creates hi] at h
  split_ifs at h
  obtain ⟨rfl, -⟩ := Prod.mk.inj (Option.some.inj h)
  intro hread
  have hslot : (ctx.withDevice i (platformDeviceProbe ans)).devices i = .dev ctx.nextObject :=
    Function.update_self _ _ _
  have hdata := hread.drvdata (i := i) (by simp [hslot])
  have hprobe : ans.probe = none := not_not.1 hans
  simp [PlatformCtx.drvdata, PlatformCtx.object, PlatformCtx.withDevice, platformDeviceProbe, hprobe] at hdata

/-- **The table survives failures** only as long as there are none in a probe.

* In every run in which each device that is created is probed, all slots can be read.
* An addition that returns an error leaves the slots and the count as they were.
* The first creation of a device whose probe fails leaves a slot that cannot be read. -/
theorem device_table_survives_iff (s : Platform) :
    (∀ as, Run (Platform.StepWith CreateAnswers.Probes) .init as s →
      s.ctx.Readable ∧ ∀ ans parent ctx' pdev,
        platformDeviceAddLocked ans parent s.ctx = some (ctx', pdev) → pdev.isErrOrNull = true →
        ctx'.devices = s.ctx.devices ∧ ctx'.devCount = s.ctx.devCount) ∧
    ∀ a t, Platform.Step s a t → ¬ s.CreationsAre CreateAnswers.Probes a → ¬ t.ctx.Readable := by
  refine ⟨fun as h => ?_, fun a t hstep hans => ?_⟩
  · obtain ⟨-, hp⟩ := Platform.run_invariant (I := PlatformCtx.Probed)
      (fun _ _ hs hp hchange => hchange.probed hs hp) h .init .init
    refine ⟨hp.readable, fun ans parent ctx' pdev hadd hret => ?_⟩
    rw [platformDeviceAddLocked_refused hadd hret]
    exact ⟨rfl, rfl⟩
  · simp only [Platform.CreationsAre, not_forall] at hans
    obtain ⟨parent, ans, i, ha, hi, hfails⟩ := hans
    cases hstep with
    | attach parent' ans' hadd =>
      obtain ⟨rfl, rfl⟩ : some parent' = parent ∧ ans' = ans := by
        simpa [Platform.Action.creation] using ha
      exact not_readable_of_failed hi hfails hadd
    | addDevice ans' _ _ hadd =>
      obtain ⟨rfl, rfl⟩ : none = parent ∧ ans' = ans := by
        simpa [Platform.Action.creation] using ha
      exact not_readable_of_failed hi hfails hadd
    | _ => simp [Platform.Action.creation] at ha

/-- The first request, which registers a device. -/
theorem device_table_survives_iff_attach :
    let drm : DrmCore := DrmCore.init (Stream'.const true) (Stream'.const true)
    ∃ ctx, platformDeviceAddLocked ⟨none, some (0, drm)⟩ (some 1) .init = some (ctx, .dev 0) ∧
      ctx.Readable := by
  intro drm
  have hans : Platform.init.CreationsAre CreateAnswers.Probes (.attach 1 ⟨none, some (0, drm)⟩) := by
    intro parent ans i ha _
    obtain ⟨-, rfl⟩ : some 1 = parent ∧ _ = ans := by simpa [Platform.Action.creation] using ha
    simp [CreateAnswers.Probes]
  have hcreates : Creates PlatformCtx.init (some 1) 0 :=
    ⟨by decide +kernel, by decide +kernel, by decide +kernel⟩
  have hadd := platformDeviceAddLocked_of_creates hcreates ⟨none, some (0, drm)⟩
  exact ⟨_, hadd, ((device_table_survives_iff _).1 _ (Run.one ⟨.attach 1 _ hadd, hans⟩)).1⟩

/-- A device is added whose probe fails, and the next request for a device with a parent faults. -/
theorem device_table_failed : ∃ as s, Run Platform.Step .init as s ∧ ¬ s.ctx.Readable ∧
    ∀ ans, platformDeviceAddLocked ans (some 1) s.ctx = none := by
  have hcreates : Creates PlatformCtx.init none 0 := ⟨by simp, by decide +kernel, by decide +kernel⟩
  have hrun : Run Platform.Step .init _ _ := (Run.one (.addDevices (s := .init) 1)).snoc
    (.addDevice (l := []) ⟨none, none⟩ rfl rfl (platformDeviceAddLocked_of_creates hcreates _))
  refine ⟨_, _, hrun, fun hread => ?_, fun ans => ?_⟩
  · exact absurd (hread.drvdata (i := 0) (by decide +kernel)) (by decide +kernel)
  · have hscan : platformDrvGetFreeDevice
        (PlatformCtx.init.withDevice 0 (platformDeviceProbe ⟨none, none⟩)) = none := by decide +kernel
    exact congrArg (Option.bind · _) hscan

end Evdi
