import Evdi.Properties.DeviceTable

/-!
# Writes to `add` at the same time

`evdi_platform_add_devices` looks at the count once, and then adds one device after the other, each
under the lock of its own; when one of them fails, it stops, and returns 0.

* `AddWriter.Exact`: what a call has done so far, if nothing has failed;
* `addDevices_fill_iff`: a call that returns 0 has filled the slots it was asked for as long as each
  addition finds an empty slot; the first one that does not ends a call that has not;
* `additions`: what the next calls of `evdi_platform_device_add` lead to.
-/

namespace Evdi

open Transition

variable {ctx ctx' : PlatformCtx} {w : AddWriter}

/-! ### The slots of one addition -/

/-- The slot of the device, and no other, was filled. -/
theorem filledSlots_withDevice {i : Fin deviceCountMax} (hi : ctx.devices i = .null)
    (data : Option PlatformDeviceData) : filledSlots ctx (ctx.withDevice i data) = [i] := by
  have hfilter : ∀ j ∈ slots, (decide (ctx.devices j = .null) &&
      !((ctx.withDevice i data).devices j).isErrOrNull) = decide (j = i) := by
    intro j _
    show (decide (ctx.devices j = .null) &&
      !(Function.update ctx.devices i (.dev ctx.nextObject) j).isErrOrNull) = decide (j = i)
    by_cases hj : j = i
    · subst hj
      simp [hi, DevPtr.isErrOrNull]
    · cases hptr : ctx.devices j <;> simp [hj, hptr, DevPtr.isErrOrNull]
  have hcount : slots.count i = 1 :=
    List.count_eq_one_of_mem (List.nodup_finRange _) (List.mem_finRange i)
  rw [filledSlots, List.filter_congr hfilter, List.filter_eq, hcount]
  rfl

/-- Nothing was filled where nothing has changed. -/
theorem filledSlots_self (ctx : PlatformCtx) : filledSlots ctx ctx = [] := by
  refine List.filter_eq_nil_iff.2 fun j _ => ?_
  cases ctx.devices j <;> simp [DevPtr.isErrOrNull]

/-- **An addition** fills the one slot that it finds and goes on, or fills none and ends the call. -/
theorem AddWriter.added_cases {ans : CreateAnswers} {pdev : DevPtr} (w : AddWriter)
    (h : platformDeviceAddLocked ans none ctx = some (ctx', pdev)) :
    (∃ i, Creates ctx none i ∧ (∀ j, ctx'.devices j ≠ .null ↔ j = i ∨ ctx.devices j ≠ .null) ∧
      w.added ctx ctx' pdev =
        ⟨w.val, w.left - 1, w.filled ++ [i], if w.left - 1 = 0 then some 0 else none⟩) ∨
    (¬ ∃ i, Creates ctx none i) ∧ w.added ctx ctx' pdev = ⟨w.val, w.left - 1, w.filled, some 0⟩ := by
  rcases platformDeviceAddLocked_cases h with ⟨n, -, -, hparent, -⟩ | ⟨rfl, rfl, hnot⟩ |
    ⟨i, hi, -, rfl, rfl⟩
  · simp at hparent
  · refine .inr ⟨fun hcreates => hnot _ hcreates.choose_spec, ?_⟩
    rw [AddWriter.added, filledSlots_self]
    simp [DevPtr.isErrOrNull]
  · refine .inl ⟨i, hi, fun j => ?_, ?_⟩
    · show Function.update ctx.devices i (.dev ctx.nextObject) j ≠ .null ↔ _
      by_cases hj : j = i <;> simp [hj]
    · rw [AddWriter.added, filledSlots_withDevice hi.slot]
      simp [DevPtr.isErrOrNull]

/-! ### Calls -/

/-- What a call has done, if nothing has failed: the slots that it has filled are different ones, and
as many as are not to come. -/
structure AddWriter.Exact (ctx : PlatformCtx) (w : AddWriter) : Prop where
  underWay : w.ret = none → 0 < w.left ∧ w.filled.length + w.left = w.val.toNat
  returned : w.ret = some 0 → w.filled.length = w.val.toNat
  occupied : ∀ i ∈ w.filled, ctx.devices i ≠ .null
  nodup : w.filled.Nodup

theorem AddWriter.Exact.start (devCount val : UInt32) : (AddWriter.start devCount val).Exact ctx := by
  unfold AddWriter.start addDevicesCheck
  by_cases hval : val = 0
  · rw [if_pos hval]
    exact ⟨by simp, by simp [hval], by simp, List.nodup_nil⟩
  · rw [if_neg hval]
    by_cases hroom : val > .ofNat deviceCountMax - devCount
    · rw [if_pos hroom]
      exact ⟨by simp, by simp [EINVAL], by simp, List.nodup_nil⟩
    · rw [if_neg hroom]
      refine ⟨fun _ => ⟨?_, by simp⟩, by simp, by simp, List.nodup_nil⟩
      exact Nat.pos_of_ne_zero fun hzero => hval (UInt32.toNat_inj.1 hzero)

/-- The others see no more than a slot filled. -/
theorem AddWriter.Exact.mono (h : w.Exact ctx)
    (hdevices : ∀ j, ctx.devices j ≠ .null → ctx'.devices j ≠ .null) : w.Exact ctx' where
  underWay := h.underWay
  returned := h.returned
  occupied := fun i hi => hdevices i (h.occupied i hi)
  nodup := h.nodup

theorem AddWriter.Exact.added (h : w.Exact ctx) (hret : w.ret = none) {i : Fin deviceCountMax}
    (hi : ctx.devices i = .null)
    (hdevices : ∀ j, ctx'.devices j ≠ .null ↔ j = i ∨ ctx.devices j ≠ .null) :
    AddWriter.Exact ctx'
      ⟨w.val, w.left - 1, w.filled ++ [i], if w.left - 1 = 0 then some 0 else none⟩ := by
  obtain ⟨hpos, htotal⟩ := h.underWay hret
  refine ⟨fun hnone => ?_, fun hzero => ?_, fun j hj => ?_, ?_⟩
  · have hleft : w.left - 1 ≠ 0 := by
      intro hleft
      simp [hleft] at hnone
    have hlen : (w.filled ++ [i]).length + (w.left - 1) = w.val.toNat := by
      rw [List.length_append, List.length_singleton]
      omega
    exact ⟨Nat.pos_of_ne_zero hleft, hlen⟩
  · have hleft : w.left - 1 = 0 := by
      by_contra hleft
      simp [hleft] at hzero
    show (w.filled ++ [i]).length = w.val.toNat
    rw [List.length_append, List.length_singleton]
    omega
  · rcases List.mem_append.1 hj with hj | hj
    · exact (hdevices j).2 (.inr (h.occupied j hj))
    · exact (hdevices j).2 (.inl (List.mem_singleton.1 hj))
  · refine List.nodup_append.2 ⟨h.nodup, List.nodup_singleton i, fun j hj k hk => ?_⟩
    rw [List.mem_singleton.1 hk]
    rintro rfl
    exact h.occupied j hj hi

/-! ### Runs -/

namespace Platform

/-- The steps of `evdi_platform_add_devices`. -/
def Action.OfAdd : Action → Prop
  | .addDevices _ | .addDevice _ => True
  | _ => False

/-- If the step is an addition, it finds an empty slot, with the count below its maximum. -/
def Roomy (s : Platform) (a : Action) : Prop := ∀ ans, a = .addDevice ans → ∃ i, Creates s.ctx none i

def AddStep (s : Platform) (a : Action) (t : Platform) : Prop := Step s a t ∧ a.OfAdd

def RoomyStep (s : Platform) (a : Action) (t : Platform) : Prop := AddStep s a t ∧ s.Roomy a

/-- No call is there of those that have come so far. -/
def idle (s : Platform) : Platform := { s with writers := [] }

theorem exact_step {s t : Platform} {a : Action} (hs : ∀ w ∈ s.writers, w.Exact s.ctx)
    (h : RoomyStep s a t) : ∀ w ∈ t.writers, w.Exact t.ctx := by
  obtain ⟨⟨hstep, ha⟩, hroomy⟩ := h
  cases hstep with
  | addDevices val =>
    intro w hw
    rcases List.mem_append.1 hw with hw | hw
    · exact hs w hw
    · rw [List.mem_singleton.1 hw]
      exact .start _ _
  | @addDevice ctx pdev l ws w ans hwriters hret hadd =>
    obtain ⟨i, hi, hdevices, hadded⟩ | ⟨hnot, -⟩ := AddWriter.added_cases w hadd
    · intro w' hw'
      rw [hadded] at hw'
      rcases List.mem_append.1 hw' with hl | hw'
      · have hmem : w' ∈ s.writers := by simp [hwriters, hl]
        exact (hs w' hmem).mono fun j hj => (hdevices j).2 (.inr hj)
      rcases List.mem_cons.1 hw' with rfl | hws
      · exact (hs w (by simp [hwriters])).added hret hi.slot hdevices
      · have hmem : w' ∈ s.writers := by simp [hwriters, hws]
        exact (hs w' hmem).mono fun j hj => (hdevices j).2 (.inr hj)
    · exact absurd (hroomy ans rfl) hnot
  | _ => exact ha.elim

/-- **A successful write has added what it was asked for** exactly as long as each addition finds room.

* From any state of the module, in every run of writes to `add` in which each addition finds an empty
  slot, and the count below its maximum: a call that has returned 0 has filled as many different slots
  as it was asked for.
* The first addition that does not ends a call that returns 0 and has filled fewer. -/
theorem addDevices_fill_iff {as : List Action} {s₀ s : Platform} (h : Run RoomyStep s₀.idle as s) :
    (∀ w ∈ s.writers, w.ret = some 0 → w.filled.Nodup ∧ w.filled.length = w.val.toNat) ∧
    ∀ a t, AddStep s a t → ¬ s.Roomy a →
      ∃ w ∈ t.writers, w.ret = some 0 ∧ w.filled.length < w.val.toNat := by
  have hs : ∀ w ∈ s.writers, w.Exact s.ctx :=
    h.invariant (I := fun s => ∀ w ∈ s.writers, w.Exact s.ctx) (fun _ _ _ hs hstep => exact_step hs hstep)
      (by simp [idle])
  refine ⟨fun w hw hret => ⟨(hs w hw).nodup, (hs w hw).returned hret⟩, fun a t hstep hroomy => ?_⟩
  obtain ⟨hstep, ha⟩ := hstep
  simp only [Roomy, not_forall] at hroomy
  obtain ⟨ans, rfl, hroomy⟩ := hroomy
  cases hstep with
  | @addDevice ctx pdev l ws w _ hwriters hret hadd =>
    obtain ⟨i, hi, -⟩ | ⟨-, hadded⟩ := AddWriter.added_cases w hadd
    · exact absurd ⟨i, hi⟩ hroomy
    · obtain ⟨hpos, htotal⟩ := (hs w (by simp [hwriters])).underWay hret
      refine ⟨⟨w.val, w.left - 1, w.filled, some 0⟩, by simp [hadded], rfl, ?_⟩
      show w.filled.length < w.val.toNat
      omega

/-- One device is asked for, and comes. -/
theorem addDevices_fill_one : ∃ as s, Run RoomyStep (idle .init) as s ∧
    s.writers = [⟨1, 0, [0], some 0⟩] ∧
    ∀ w ∈ s.writers, w.ret = some 0 → w.filled.Nodup ∧ w.filled.length = w.val.toNat := by
  have hcreates : Creates PlatformCtx.init none 0 := ⟨by simp, by decide +kernel, by decide +kernel⟩
  have hrun : Run RoomyStep (idle .init) _ _ :=
    (Run.one ⟨⟨.addDevices 1, trivial⟩, by simp [Roomy]⟩).snoc
      ⟨⟨.addDevice (l := []) ⟨none, none⟩ rfl rfl (platformDeviceAddLocked_of_creates hcreates _), trivial⟩,
        fun _ _ => ⟨0, hcreates⟩⟩
  exact ⟨_, _, hrun, by decide +kernel, (addDevices_fill_iff hrun).1⟩

/-! ### Runs of additions -/

/-- The state after `n` additions, each of which is made by the first call that has not returned. -/
def additions (ans : CreateAnswers) : ℕ → Platform → Option Platform
  | 0, s => some s
  | n + 1, s => do
    let w ← (s.writers.dropWhile (·.ret.isSome)).head?
    let (ctx, pdev) ← platformDeviceAddLocked ans none s.ctx
    additions ans n { s with
      ctx := ctx
      writers := s.writers.takeWhile (·.ret.isSome) ++
        w.added s.ctx ctx pdev :: (s.writers.dropWhile (·.ret.isSome)).tail }

theorem run_additions {ans : CreateAnswers} {n : ℕ} {s t : Platform} (h : additions ans n s = some t) :
    ∃ as, Run AddStep s as t := by
  induction n generalizing s with
  | zero =>
    obtain rfl := Option.some.inj h
    exact ⟨[], Run.nil _⟩
  | succ n ih =>
    obtain ⟨w, hw, h⟩ := Option.bind_eq_some_iff.1 h
    obtain ⟨⟨ctx, pdev⟩, hadd, h⟩ := Option.bind_eq_some_iff.1 h
    obtain ⟨as, hrun⟩ := ih h
    have hdrop := List.eq_cons_of_mem_head? hw
    have hwriters : s.writers = s.writers.takeWhile (·.ret.isSome) ++
        w :: (s.writers.dropWhile (·.ret.isSome)).tail := by
      rw [← hdrop, List.takeWhile_append_dropWhile]
    have hret : w.ret = none := by
      have hnot := List.head?_dropWhile_not (fun w : AddWriter => w.ret.isSome) s.writers
      simpa [hw] using hnot
    exact ⟨_, (Run.one ⟨.addDevice ans hwriters hret hadd, trivial⟩).append hrun⟩

/-- Two calls with the counts 16 and 1 have both read that there is no device yet. The first one fills
the table, the second one adds nothing, and returns 0. -/
theorem addDevices_overlap : ∃ as s, Run AddStep (idle .init) as s ∧
    ∃ w ∈ s.writers, w.val = 1 ∧ w.ret = some 0 ∧ w.filled = [] := by
  have hstart : Run AddStep (idle .init) _ _ :=
    (Run.one ⟨.addDevices 16, trivial⟩).snoc ⟨.addDevices 1, trivial⟩
  obtain ⟨s, hs⟩ : ∃ s, additions ⟨none, none⟩ 17
      { idle .init with writers := [⟨16, 16, [], none⟩, ⟨1, 1, [], none⟩] } = some s :=
    Option.isSome_iff_exists.1 (by decide +kernel)
  obtain ⟨as, hrun⟩ := run_additions hs
  refine ⟨_, s, hstart.append hrun, ⟨1, 0, [], some 0⟩, ?_, rfl, rfl, rfl⟩
  have hwriters : (additions ⟨none, none⟩ 17
      { idle .init with writers := [⟨16, 16, [], none⟩, ⟨1, 1, [], none⟩] }).map (·.writers) =
      some [⟨16, 0, slots, some 0⟩, ⟨1, 0, [], some 0⟩] := by decide +kernel
  rw [hs, Option.map_some, Option.some.injEq] at hwriters
  simp [hwriters]

end Platform

end Evdi
