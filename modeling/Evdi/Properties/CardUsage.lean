import Evdi.Model.Cards

/-!
# Who has a card open

`card_usage` has one slot for each card, which `evdi_open` sets without a look at it, and `evdi_close`
clears by the value of the handle.

* `Cards.Owned`: a slot has an open handle of its card, and each open handle has a slot that is not
  empty;
* `card_usage_iff`: so it is as long as cards are opened by numbers in bounds, and a handle in the
  table is closed only when it is the last one of its card.
-/

namespace Evdi

open CString Transition

namespace Cards

/-! ### The table -/

/-- A slot that is in use has an open handle of its card, and an open handle has a slot that is in
use. -/
structure Owned (s : Cards) : Prop where
  inBounds : s.outOfBounds = []
  usage : ∀ i h, s.cardUsage i = some h → ∃ c, s.contexts h = some c ∧ c.deviceIndex = i.val
  context : ∀ h c, s.contexts h = some c →
    ∃ i : Fin evdiUsageLen, c.deviceIndex = i.val ∧ s.cardUsage i ≠ none

theorem Owned.init : Cards.init.Owned where
  inBounds := rfl
  usage := fun _ _ h => by simp [Cards.init] at h
  context := fun _ _ h => by simp [Cards.init] at h

/-- An empty slot is that of a card which no handle is open for. -/
theorem Owned.usage_none_iff {s : Cards} (hs : s.Owned) (i : Fin evdiUsageLen) :
    s.cardUsage i = none ↔ ∀ h c, s.contexts h = some c → c.deviceIndex ≠ i.val := by
  constructor
  · intro hnone h c hc hci
    obtain ⟨j, hcj, hj⟩ := hs.context h c hc
    have hij : i = j := Fin.ext (by omega)
    exact hj (hij ▸ hnone)
  · intro hother
    by_contra hne
    obtain ⟨h, hh⟩ := Option.ne_none_iff_exists'.1 hne
    obtain ⟨c, hc, hci⟩ := hs.usage i h hh
    exact hother h c hc hci

/-! ### The calls -/

variable {s t : Cards}

/-- A card is there that can be opened, and memory for its context. -/
def Opens (ans : OpenAnswers) : Prop :=
  (0 < ans.fd ∧ ans.isEvdi ∧ ans.isEvdiCompatible) ∧ ans.calloc ≠ none

/-- **An open** fails, or makes a handle for the card and writes its slot. -/
theorem evdiOpen_cases (ans : OpenAnswers) (device : ℤ) (s : Cards) :
    (¬ Opens ans ∧ evdiOpen ans device s = (s, none)) ∨
    ∃ h, Opens ans ∧ ans.calloc = some h ∧ evdiOpen ans device s =
      (setUsage device h { s with contexts := Function.update s.contexts h (some ⟨ans.fd, device⟩) },
        some h) := by
  unfold evdiOpen
  split_ifs with hcard
  · cases hcalloc : ans.calloc with
    | none => exact .inl ⟨fun hopens => hopens.2 hcalloc, rfl⟩
    | some h => exact .inr ⟨h, ⟨hcard, by simp [hcalloc]⟩, rfl, rfl⟩
  · exact .inl ⟨fun hopens => hcard hopens.1, rfl⟩

/-- A card is opened whose number is in bounds. -/
theorem Owned.setUsage (hs : s.Owned) {h : ℕ} (hfresh : s.contexts h = none) {device fd : ℤ}
    (hdevice : 0 ≤ device ∧ device < evdiUsageLen) :
    (Cards.setUsage device h
      { s with contexts := Function.update s.contexts h (some ⟨fd, device⟩) }).Owned := by
  rw [Cards.setUsage, dif_pos hdevice]
  obtain ⟨d, hd⟩ : ∃ d : Fin evdiUsageLen, d = ⟨device.toNat, by omega⟩ := ⟨_, rfl⟩
  have hval : device = d.val := by
    rw [hd]
    exact (Int.toNat_of_nonneg hdevice.1).symm
  rw [← hd]
  refine ⟨hs.inBounds, fun i k hk => ?_, fun k c hc => ?_⟩
  · by_cases hi : i = d
    · subst hi
      have hk' : Function.update s.cardUsage i (some h) i = some k := hk
      rw [Function.update_self] at hk'
      obtain rfl := Option.some.inj hk'
      exact ⟨⟨fd, device⟩, Function.update_self _ _ _, hval⟩
    · obtain ⟨c, hc, hci⟩ := hs.usage i k ((Function.update_of_ne hi _ _).symm.trans hk)
      have hkh : k ≠ h := by
        rintro rfl
        simp [hfresh] at hc
      exact ⟨c, (Function.update_of_ne hkh _ _).trans hc, hci⟩
  · by_cases hkh : k = h
    · subst hkh
      have hc' : Function.update s.contexts k (some ⟨fd, device⟩) k = some c := hc
      rw [Function.update_self] at hc'
      obtain rfl := Option.some.inj hc'
      exact ⟨d, hval, by simp⟩
    · obtain ⟨i, hci, hi⟩ := hs.context k c ((Function.update_of_ne hkh _ _).symm.trans hc)
      refine ⟨i, hci, ?_⟩
      show Function.update s.cardUsage d (some h) i ≠ none
      rw [Function.update_apply]
      split_ifs
      · simp
      · exact hi

/-- A handle is closed; if it is in the table, it is the last one of its card. -/
theorem Owned.close (hs : s.Owned) {h : ℕ}
    (hlast : ∀ i, s.cardUsage i = some h → ∀ h' c', h' ≠ h → s.contexts h' = some c' →
      c'.deviceIndex ≠ i.val) :
    (evdiClose (some h) s).Owned := by
  refine ⟨hs.inBounds, fun i k hk => ?_, fun k c hc => ?_⟩
  · have hk' : (if s.cardUsage i = some h then none else s.cardUsage i) = some k := hk
    split_ifs at hk' with hih
    obtain ⟨c, hc, hci⟩ := hs.usage i k hk'
    have hkh : k ≠ h := by
      rintro rfl
      exact hih hk'
    exact ⟨c, (Function.update_of_ne hkh _ _).trans hc, hci⟩
  · have hkh : k ≠ h := by
      rintro rfl
      have hnone : Function.update s.contexts k none k = some c := hc
      simp at hnone
    have hc' : s.contexts k = some c := (Function.update_of_ne hkh _ _).symm.trans hc
    obtain ⟨i, hci, hi⟩ := hs.context k c hc'
    refine ⟨i, hci, ?_⟩
    show (if s.cardUsage i = some h then none else s.cardUsage i) ≠ none
    rw [if_neg fun hih => hlast i hih k c hkh hc' hci]
    exact hi

/-- The search finds a card whose slot is empty. -/
theorem findUnusedCardIn_empty {gap : UInt64} {parent : Option (List Char)} {length : ℕ}
    {entries : List PlatformEntry} {d : ℤ} (h : findUnusedCardIn gap parent length s entries = some d) :
    d = evdiInvalidDeviceIndex ∨ ∃ i : Fin evdiUsageLen, d = i.val ∧ s.cardUsage i = none := by
  induction entries with
  | nil => exact .inl (Option.some.inj h).symm
  | cons entry entries ih =>
    rw [findUnusedCardIn] at h
    split_ifs at h with hname
    · exact ih h
    · split at h
      · simp at h
      · exact ih h
      · dsimp only at h
        split_ifs at h with hbounds husage
        · refine .inr ⟨_, ?_, husage⟩
          rw [← Option.some.inj h]
          exact (Int.toNat_of_nonneg hbounds.1).symm
        · exact ih h

theorem findUnusedCardFor_empty {gap : UInt64} {entries : Option (List PlatformEntry)}
    {parent : Option (List Char)} {length : ℕ} {d : ℤ}
    (h : findUnusedCardFor gap entries parent length s = some d) :
    d = evdiInvalidDeviceIndex ∨ ∃ i : Fin evdiUsageLen, d = i.val ∧ s.cardUsage i = none := by
  cases entries with
  | none => exact .inl (Option.some.inj h).symm
  | some entries => exact findUnusedCardIn_empty h

/-- A device is looked for, and looked for again when one was added. -/
theorem findTwice_empty {gap : UInt64} {before after : Option (List PlatformEntry)}
    {parent : Option (List Char)} {length : ℕ} {buffer : List Char} {n : ℕ} {d : ℤ}
    (h : (do
      let deviceIndex ← findUnusedCardFor gap before parent length s
      if deviceIndex = evdiInvalidDeviceIndex then
        let s := writeAddDevice buffer n s
        return (s, ← findUnusedCardFor gap after parent length s)
      return (s, deviceIndex)) = some (t, d)) :
    (∃ added, t = { s with added := added }) ∧
      (d = evdiInvalidDeviceIndex ∨ ∃ i : Fin evdiUsageLen, d = i.val ∧ s.cardUsage i = none) := by
  obtain ⟨d', hfind, h⟩ := Option.bind_eq_some_iff.1 h
  split_ifs at h
  · obtain ⟨d'', hfind', h⟩ := Option.bind_eq_some_iff.1 h
    obtain ⟨rfl, rfl⟩ := Prod.mk.inj (Option.some.inj h)
    exact ⟨⟨_, rfl⟩, findUnusedCardFor_empty (s := writeAddDevice buffer n s) hfind'⟩
  · obtain ⟨rfl, rfl⟩ := Prod.mk.inj (Option.some.inj h)
    exact ⟨⟨_, rfl⟩, findUnusedCardFor_empty hfind⟩

/-- The choice of a card changes no more than what was written to `add`, and comes to no card, or to
one whose slot is empty. -/
theorem attachedDeviceIndex_empty {env : AttachEnv} {parent : Option (List Char)} {length : ℕ} {d : ℤ}
    (h : attachedDeviceIndex env parent length s = some (t, d)) :
    (∃ added, t = { s with added := added }) ∧
      (d = evdiInvalidDeviceIndex ∨ ∃ i : Fin evdiUsageLen, d = i.val ∧ s.cardUsage i = none) := by
  unfold attachedDeviceIndex at h
  split at h
  · exact findTwice_empty h
  · split_ifs at h
    · rw [getDeviceAttachedToUsb] at h
      split_ifs at h
      · obtain ⟨rfl, rfl⟩ := Prod.mk.inj (Option.some.inj h)
        exact ⟨⟨_, rfl⟩, .inl rfl⟩
      · exact findTwice_empty h
    · obtain ⟨rfl, rfl⟩ := Prod.mk.inj (Option.some.inj h)
      exact ⟨⟨_, rfl⟩, .inl rfl⟩

/-- **An attached open** opens nothing, or a card whose slot is empty. -/
theorem evdiOpenAttached_cases {env : AttachEnv} {parent : Option (List Char)} {length : ℕ}
    {ret : Option ℕ} (h : evdiOpenAttachedToFixed env parent length s = some (t, ret)) : ∃ added,
    (t = { s with added := added } ∧ ret = none) ∨
    ∃ (i : Fin evdiUsageLen) (k : ℕ), s.cardUsage i = none ∧ env.answers.calloc = some k ∧
      ret = some k ∧ t = setUsage i.val k { s with
        added := added, contexts := Function.update s.contexts k (some ⟨env.answers.fd, i.val⟩) } := by
  simp only [evdiOpenAttachedToFixed, Option.bind_eq_bind, Option.bind_eq_some_iff] at h
  obtain ⟨⟨s', d⟩, hindex, h⟩ := h
  obtain ⟨⟨added, rfl⟩, hd⟩ := attachedDeviceIndex_empty hindex
  refine ⟨added, ?_⟩
  dsimp only at h
  split_ifs at h with hbounds
  · obtain rfl | ⟨i, rfl, hi⟩ := hd
    · simp [evdiInvalidDeviceIndex] at hbounds
    · obtain ⟨-, hfails⟩ | ⟨k, -, hk, hopens⟩ :=
        evdiOpen_cases env.answers i.val { s with added := added }
      · rw [hfails] at h
        obtain ⟨rfl, rfl⟩ := Prod.mk.inj (Option.some.inj h)
        exact .inl ⟨rfl, rfl⟩
      · rw [hopens] at h
        obtain ⟨rfl, rfl⟩ := Prod.mk.inj (Option.some.inj h)
        exact .inr ⟨i, k, hi, hk, rfl, rfl⟩
  · obtain ⟨rfl, rfl⟩ := Prod.mk.inj (Option.some.inj h)
    exact .inl ⟨rfl, rfl⟩

/-! ### Runs -/

/-- A card that can be opened is opened by a number in bounds; and a handle that is in the table is
closed as the last one of its card. -/
def InOrder (s : Cards) : Action → Prop
  | .openCard device ans => Opens ans → 0 ≤ device ∧ device < evdiUsageLen
  | .openAttached _ _ _ => True
  | .close handle => ∀ h i, handle = some h → s.cardUsage i = some h →
      ∀ h' c', h' ≠ h → s.contexts h' = some c' → c'.deviceIndex ≠ i.val

def OrderedStep (s : Cards) (a : Action) (t : Cards) : Prop := Step s a t ∧ s.InOrder a

theorem Owned.step {a : Action} (hs : s.Owned) (h : OrderedStep s a t) : t.Owned := by
  obtain ⟨hstep, horder⟩ := h
  cases hstep with
  | openCard device ans hfresh =>
    obtain ⟨-, hfails⟩ | ⟨k, hans, hk, hopens⟩ := evdiOpen_cases ans device s
    · rw [hfails]
      exact hs
    · rw [hopens]
      exact hs.setUsage (hfresh k hk) (horder hans)
  | openAttached env parent length hfresh hopens =>
    obtain ⟨added, ⟨rfl, -⟩ | ⟨i, k, -, hk, -, rfl⟩⟩ := evdiOpenAttached_cases hopens
    · exact ⟨hs.inBounds, hs.usage, hs.context⟩
    · have hs' : { s with added := added }.Owned := ⟨hs.inBounds, hs.usage, hs.context⟩
      exact hs'.setUsage (hfresh k hk) ⟨Int.natCast_nonneg _, Int.ofNat_lt.2 i.isLt⟩
  | close handle hopen =>
    cases handle with
    | none => exact hs
    | some h => exact hs.close fun i => horder h i rfl

/-- **Card ownership** holds exactly as long as the calls are in order.

* In every run of calls in order, `card_usage` is written in its bounds only, a slot is empty exactly
  when no open handle has its index, and `evdi_open_attached_to_fixed` returns no handle to a card
  that is open.
* The first call out of order writes out of bounds, or leaves a slot empty whose card is open. -/
theorem card_usage_iff (s : Cards) :
    (∀ as, Run OrderedStep .init as s →
      s.outOfBounds = [] ∧
      (∀ i : Fin evdiUsageLen, s.cardUsage i = none ↔
        ∀ h c, s.contexts h = some c → c.deviceIndex ≠ i.val) ∧
      ∀ env parent length t h, evdiOpenAttachedToFixed env parent length s = some (t, some h) →
        ∃ c, t.contexts h = some c ∧ ∀ h' c', s.contexts h' = some c' → c'.deviceIndex ≠ c.deviceIndex) ∧
    ∀ as a t, Run OrderedStep .init as s → Step s a t → ¬ s.InOrder a →
      t.outOfBounds ≠ [] ∨ ∃ (i : Fin evdiUsageLen) (h : ℕ) (c : CardHandle),
        t.cardUsage i = none ∧ t.contexts h = some c ∧ c.deviceIndex = i.val := by
  refine ⟨fun as hrun => ?_, fun as a t hrun hstep horder => ?_⟩
  · have hs : s.Owned := hrun.invariant (fun _ _ _ hs hstep => hs.step hstep) .init
    refine ⟨hs.inBounds, hs.usage_none_iff, fun env parent length t h hopens => ?_⟩
    obtain ⟨added, ⟨-, hret⟩ | ⟨i, k, hi, -, hret, rfl⟩⟩ := evdiOpenAttached_cases hopens
    · simp at hret
    · obtain rfl := Option.some.inj hret
      refine ⟨⟨env.answers.fd, i.val⟩, ?_, fun h' c' hc' => (hs.usage_none_iff i).1 hi h' c' hc'⟩
      rw [setUsage]
      split_ifs <;> exact Function.update_self _ _ _
  · cases hstep with
    | openCard device ans hfresh =>
      simp only [InOrder, Classical.not_imp] at horder
      obtain ⟨hans, hbounds⟩ := horder
      obtain ⟨hnot, -⟩ | ⟨k, -, hk, hopens⟩ := evdiOpen_cases ans device s
      · exact absurd hans hnot
      · left
        rw [hopens, setUsage, dif_neg hbounds]
        simp
    | openAttached env parent length hfresh hopens => exact absurd trivial horder
    | close handle hopen =>
      simp only [InOrder, not_forall, not_not] at horder
      obtain ⟨h, i, rfl, hi, h', c', hne, hc', hci⟩ := horder
      refine .inr ⟨i, h', c', if_pos hi, (Function.update_of_ne hne _ _).trans hc', hci⟩

/-- A card is opened. -/
theorem card_usage_iff_open :
    (evdiOpen ⟨5, true, true, some 1⟩ 3 .init).1.cardUsage 4 = none ↔
      ∀ h c, (evdiOpen ⟨5, true, true, some 1⟩ 3 .init).1.contexts h = some c → c.deviceIndex ≠ 4 := by
  have hstep : OrderedStep .init (.openCard 3 ⟨5, true, true, some 1⟩) _ :=
    ⟨.openCard 3 _ fun h _ => rfl, fun _ => by decide⟩
  exact ((card_usage_iff _).1 _ (Run.one hstep)).2.1 4

/-- One card is opened twice, one of the two handles is closed, and a handle to any card is asked for:
it is to the card that is still open. And a card with the number 64 is opened. -/
theorem card_usage_twice :
    (∃ as s env t c c', Run Step .init as s ∧ s.contexts 1 = some c ∧ c.deviceIndex = 3 ∧
      s.Fresh env.answers ∧ evdiOpenAttachedToFixed env none 0 s = some (t, some 3) ∧
      t.contexts 3 = some c' ∧ c'.deviceIndex = 3) ∧
    ∃ as s, Run Step .init as s ∧ s.outOfBounds = [64] := by
  have hrun : Run Step .init _ _ :=
    ((Run.one (.openCard 3 ⟨5, true, true, some 1⟩ fun h _ => rfl)).snoc
      (.openCard 3 ⟨6, true, true, some 2⟩ fun h hh => by
        obtain rfl := Option.some.inj hh
        rfl)).snoc (.close (some 2) fun h hh => by
        obtain rfl := Option.some.inj hh
        simp [evdiOpen, setUsage])
  let entry : PlatformEntry :=
    ⟨['e', 'v', 'd', 'i', '.', '0'], false, none, some [['c', 'a', 'r', 'd', '3']]⟩
  refine ⟨⟨_, _, ⟨0, some [entry], none, ⟨7, true, true, some 3⟩⟩, _, ⟨5, 3⟩, ⟨7, 3⟩, hrun, rfl, rfl,
    fun h hh => ?_, rfl, rfl, rfl⟩, _, _, .one (.openCard 64 ⟨5, true, true, some 1⟩ fun h _ => rfl), rfl⟩
  obtain rfl := Option.some.inj hh
  rfl

end Cards

end Evdi
