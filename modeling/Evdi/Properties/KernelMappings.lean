import Evdi.Properties.Pinning

/-!
# The kernel mappings of an object

`vmapping` holds one address.  The cursor and `GRABPIX` map an object only when it is `NULL`; the
measurement of a copy maps whatever is there, and so loses the address of an earlier mapping.

* `Mappings.Exact`: the mapping that is live is the one `vmapping` points to;
* `Mappings.exact_iff`: this holds as long as measurements begin without a mapping.
-/

namespace Evdi

open Transition

@[simp] theorem unpinPages_vmapped (obj : GemObject) : (unpinPages obj).vmapped = obj.vmapped := by
  rw [unpinPages_eq]

@[simp] theorem gemVunmap_vmapped (obj : GemObject) : (gemVunmap obj).vmapped = false := by
  unfold gemVunmap
  split_ifs
  · rfl
  · exact unpinPages_vmapped _

/-- The end of an object leaves no mapping. -/
theorem gemFreeObject_vmapped (obj : GemObject) : (gemFreeObject obj).vmapped = false := by
  have hunmapped : (if obj.vmapped then gemVunmap obj else obj).vmapped = false := by
    split_ifs with h
    · exact gemVunmap_vmapped obj
    · simpa using h
  unfold gemFreeObject
  dsimp only
  generalize (if obj.vmapped then gemVunmap obj else obj) = unmapped at hunmapped ⊢
  split_ifs
  · exact hunmapped
  · exact hunmapped

namespace Mappings

/-- The live mappings are what `vmapping` points to, and after the end of the object each mapping has
been undone once. -/
structure Exact (s : Mappings) : Prop where
  live_eq : s.live = {n | s.vmapping = some n}
  undone_once : s.freed = true → ∀ n < s.made, s.undone.count n = 1

/-- A measurement begins when `vmapping` is `NULL`. -/
def MapsFresh (s : Mappings) (a : Action) : Prop := ∀ ans, a = .measureMap ans → s.vmapping = none

/-- A call that overwrites no mapping. -/
def FreshStep (s : Mappings) (a : Action) (t : Mappings) : Prop := Step s a t ∧ s.MapsFresh a

/-- What holds of an object whose mappings were not overwritten. -/
structure Inv (s : Mappings) : Prop where
  live_eq : s.live = {n | s.vmapping = some n}
  undone_lt : ∀ n ∈ s.undone, n < s.made
  undone_nodup : s.undone.Nodup
  freed : s.freed = true → s.vmapping = none

section

variable {s : Mappings}

theorem vmapping_eq_none : s.vmapping = none ↔ s.object.vmapped = false := by
  simp [vmapping]

/-- A mapping that was made is what `vmapping` points to. -/
theorem vmap_eq {ans : VmapAnswers} (hret : (gemVmap s.object ans).2 = 0) :
    s.vmap ans =
      { s with object := (gemVmap s.object ans).1, address := s.made, made := s.made + 1 } := by
  rw [vmap]
  exact if_pos hret

theorem vmapping_vmap {ans : VmapAnswers} (hans : ans.Documented)
    (hret : (gemVmap s.object ans).2 = 0) : (s.vmap ans).vmapping = some s.made := by
  rw [vmap_eq hret, vmapping, if_pos (gemVmap_vmapped hans hret)]

theorem live_vmap {ans : VmapAnswers} (hs : s.Inv) (hret : (gemVmap s.object ans).2 = 0) :
    (s.vmap ans).live = insert s.made s.live := by
  rw [vmap_eq hret]
  ext n
  simp only [live, Set.mem_ofPred_eq, Set.mem_insert_iff]
  constructor
  · rintro ⟨hn, hundone⟩
    by_cases hlast : n = s.made
    · exact .inl hlast
    · exact .inr ⟨by omega, hundone⟩
  · rintro (rfl | ⟨hn, hundone⟩)
    · exact ⟨Nat.lt_succ_self _, fun hmem => absurd (hs.undone_lt _ hmem) (lt_irrefl _)⟩
    · exact ⟨by omega, hundone⟩

/-- The invariant does not say how many measurements there are. -/
theorem Inv.measuring (hs : s.Inv) (n : ℕ) : ({ s with measuring := n } : Mappings).Inv :=
  ⟨hs.live_eq, hs.undone_lt, hs.undone_nodup, hs.freed⟩

/-- A mapping of an object that has none. -/
theorem Inv.vmap {ans : VmapAnswers} (hs : s.Inv) (hfreed : s.freed = false)
    (hnone : s.vmapping = none) (hans : ans.Documented) (hret : (gemVmap s.object ans).2 = 0) :
    (s.vmap ans).Inv where
  live_eq := by
    rw [live_vmap hs hret, vmapping_vmap hans hret, hs.live_eq, hnone]
    ext n
    simp [eq_comm]
  undone_lt := by
    rw [vmap_eq hret]
    exact fun n hn => (hs.undone_lt n hn).trans (Nat.lt_succ_self _)
  undone_nodup := by
    rw [vmap_eq hret]
    exact hs.undone_nodup
  freed := by
    rw [vmap_eq hret]
    intro hf
    rw [hfreed] at hf
    cases hf

/-- What `vmapping` points to is unmapped. -/
theorem Inv.unmapped (hs : s.Inv) {object : GemObject} (hobject : object.vmapped = false) :
    (s.unmapped object).Inv where
  live_eq := by
    have hnone : (s.unmapped object).vmapping = none := vmapping_eq_none.2 hobject
    rw [hnone]
    ext n
    have hlive : n ∈ s.live ↔ s.vmapping = some n := by rw [hs.live_eq]; rfl
    simp only [live, Set.mem_ofPred_eq] at hlive
    simp only [live, Mappings.unmapped, Set.mem_ofPred_eq, List.mem_append, Option.mem_toList, not_or,
      reduceCtorEq, iff_false, not_and, not_not]
    intro hn hundone
    exact hlive.1 ⟨hn, hundone⟩
  undone_lt := by
    intro n hn
    rcases List.mem_append.1 hn with hn | hn
    · exact hs.undone_lt n hn
    · have hlive : n ∈ s.live := by
        rw [hs.live_eq]
        exact Option.mem_toList.1 hn
      exact hlive.1
  undone_nodup := by
    refine hs.undone_nodup.append (by cases s.vmapping <;> simp) ?_
    intro n hundone hn
    have hlive : n ∈ s.live := by
      rw [hs.live_eq]
      exact Option.mem_toList.1 hn
    exact hlive.2 hundone
  freed := fun _ => vmapping_eq_none.2 hobject

theorem inv_init {obj : GemObject} (h : obj.vmapped = false) : (init obj).Inv where
  live_eq := by
    ext n
    simp [live, init, vmapping, h]
  undone_lt := by simp [init]
  undone_nodup := by simp [init]
  freed := fun _ => vmapping_eq_none.2 h

/-- **A call that overwrites no mapping** keeps the invariant. -/
theorem Inv.step {t : Mappings} {a : Action} (hs : s.Inv) (h : FreshStep s a t) : t.Inv := by
  obtain ⟨hstep, hfresh⟩ := h
  cases hstep with
  | mapOnDemand ans hfreed hans hret =>
    rw [mapOnDemand]
    split_ifs with hmapped
    · exact hs
    · rw [gemMapOnDemand, if_neg hmapped] at hret
      exact hs.vmap hfreed (vmapping_eq_none.2 (by simpa using hmapped)) hans hret
  | measureMap ans hfreed hans hret => exact (hs.vmap hfreed (hfresh ans rfl) hans hret).measuring _
  | measureUnmap hfreed hmeasuring => exact (hs.unmapped (gemVunmap_vmapped _)).measuring _
  | free hfreed hmeasuring =>
    have hunmapped := hs.unmapped (gemFreeObject_vmapped s.object)
    exact ⟨hunmapped.live_eq, hunmapped.undone_lt, hunmapped.undone_nodup,
      fun _ => vmapping_eq_none.2 (gemFreeObject_vmapped _)⟩

theorem Inv.exact (hs : s.Inv) : s.Exact where
  live_eq := hs.live_eq
  undone_once := by
    intro hfreed n hn
    refine List.count_eq_one_of_mem hs.undone_nodup ?_
    by_contra hundone
    have hlive : n ∈ s.live := ⟨hn, hundone⟩
    rw [hs.live_eq, hs.freed hfreed] at hlive
    cases hlive

/-- **A measurement of a mapped object** leaves two live mappings. -/
theorem not_exact_of_not_mapsFresh {t : Mappings} {a : Action} (hs : s.Inv) (hstep : Step s a t)
    (hbad : ¬ s.MapsFresh a) : ¬ t.Exact := by
  simp only [MapsFresh, Classical.not_forall] at hbad
  obtain ⟨ans, rfl, hmapped⟩ := hbad
  obtain ⟨old, hold⟩ := Option.ne_none_iff_exists'.1 hmapped
  cases hstep with
  | measureMap _ hfreed hans hret =>
    intro ht
    have hlive : old ∈ s.live := by
      rw [hs.live_eq]
      exact hold
    have hstill : old ∈ (s.vmap ans).live := by
      rw [live_vmap hs hret]
      exact .inr hlive
    have hpoints : (s.vmap ans).vmapping = some old := by
      have hexact := ht.live_eq
      have hmem : old ∈ {n | (s.vmap ans).vmapping = some n} := hexact ▸ hstill
      exact hmem
    rw [vmapping_vmap hans hret] at hpoints
    cases hpoints
    exact lt_irrefl _ hlive.1

/-- **Kernel mappings are undone exactly once** exactly as long as each measurement begins when
`vmapping` is `NULL`. -/
theorem exact_iff {obj : GemObject} (hobj : obj.vmapped = false) {as : List Action}
    (h : Run FreshStep (init obj) as s) :
    s.Exact ∧ ∀ a t, Step s a t → ¬ s.MapsFresh a → ¬ t.Exact := by
  have hs : s.Inv := h.invariant (I := Inv) (fun _ _ _ hs hstep => hs.step hstep) (inv_init hobj)
  exact ⟨hs.exact, fun a t hstep hbad => not_exact_of_not_mapsFresh hs hstep hbad⟩

end

/-- An object is measured, mapped for the cursor or a grab, and freed. -/
theorem exact_mapped : ∃ s, Run FreshStep (init (.samplePage none)) [.measureMap Pinned.sampleAnswers,
    .measureUnmap, .mapOnDemand Pinned.sampleAnswers, .free] s ∧ s.made = 2 ∧ s.Exact := by
  have hans := Pinned.documented_sampleAnswers
  have hrun : Run FreshStep (init (.samplePage none)) [.measureMap Pinned.sampleAnswers,
      .measureUnmap, .mapOnDemand Pinned.sampleAnswers, .free] _ :=
    (((Run.one ⟨.measureMap Pinned.sampleAnswers rfl hans rfl, fun _ _ => rfl⟩).snoc
      ⟨.measureUnmap rfl Nat.one_pos, nofun⟩).snoc
      ⟨.mapOnDemand Pinned.sampleAnswers rfl hans rfl, nofun⟩).snoc ⟨.free rfl rfl, nofun⟩
  exact ⟨_, hrun, rfl, (exact_iff rfl hrun).1⟩

/-- An object is mapped for the cursor or a grab, measured, and freed: the first of its two mappings is
never undone. -/
theorem measured_mapping_stays :
    ∃ as s, Run Step (init (.samplePage none)) as s ∧ s.freed = true ∧ s.made = 2 ∧ s.undone = [1] ∧
      s.live = {0} ∧ ¬ s.Exact := by
  have hans := Pinned.documented_sampleAnswers
  have hrun : Run Step (init (.samplePage none)) _ _ :=
    (((Run.one (.mapOnDemand Pinned.sampleAnswers rfl hans rfl)).snoc
      (.measureMap Pinned.sampleAnswers rfl hans rfl)).snoc (.measureUnmap rfl Nat.one_pos)).snoc
      (.free rfl rfl)
  refine ⟨_, _, hrun, rfl, rfl, rfl, ?_, fun hexact => ?_⟩
  · ext n
    show n < 2 ∧ n ∉ [1] ↔ n = 0
    simp
    omega
  · exact absurd (hexact.undone_once rfl 0 (by decide)) (by decide)

end Mappings

end Evdi
