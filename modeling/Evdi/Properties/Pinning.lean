import Evdi.Model.GemPages

/-!
# The pins of an object

The pages of a GEM object are pinned by `evdi_pin_pages`, which counts, and go when the count comes back
to 0.  A mapping that fails after its pin leaves the pin; and an imported object, which has its pages
without a pin, loses them with the last one.

* `failed_mapping_iff`: when a failed `evdi_gem_vmap` or `evdi_gem_mmap` leaves the object as it was;
* `Pinned.Balanced`: pages while pinned, and those from before when no pin is left;
* `Pinned.balanced_iff`: this holds as long as no release takes pages it must not take.
-/

namespace Evdi

open Transition

/-! ### Failed mappings -/

/-- The same pins on the same pages. -/
def PinsKept (before after : GemObject) : Prop :=
  after.pagesPinCount = before.pagesPinCount ∧ after.pages = before.pages

theorem PinsKept.refl (obj : GemObject) : PinsKept obj obj := ⟨rfl, rfl⟩

/-- A pin that was counted is not undone by a failure later on. -/
theorem not_pinsKept {obj after : GemObject} (h : after.pagesPinCount = obj.pagesPinCount + 1) :
    ¬ PinsKept obj after := by
  rintro ⟨hcount, -⟩
  have hone := congrArg UInt32.toBitVec (h.symm.trans hcount)
  simp at hone

/-- A failed `evdi_gem_vmap`. -/
theorem gemVmap_pinsKept_iff (obj : GemObject) (ans : VmapAnswers) :
    ((gemVmap obj ans).2 ≠ 0 → PinsKept obj (gemVmap obj ans).1) ↔
      gemObjectUseImportAttach obj.ref = true ∨ PinFails obj ans ∨ ans.vmap = true := by
  rcases gemVmap_cases obj ans with ⟨himport, heq⟩ | ⟨-, hfails, hobj, -⟩ | ⟨himport, hpin, heq⟩
  · refine iff_of_true (fun hret => ?_) (.inl himport)
    rw [heq] at hret ⊢
    split_ifs at hret ⊢
    · exact .refl obj
    · exact absurd rfl hret
  · refine iff_of_true (fun _ => ?_) (.inr (.inl hfails))
    rw [hobj]
    exact .refl obj
  · cases hvmap : ans.vmap with
    | true => exact iff_of_true (fun hret => by simp [heq, hvmap] at hret) (.inr (.inr rfl))
    | false =>
      refine iff_of_false (fun hkept => ?_) (by simp [himport, hpin])
      have hret : (gemVmap obj ans).2 ≠ 0 := by
        rw [heq]
        simp [hvmap, ENOMEM]
      have hkept' := hkept hret
      rw [heq] at hkept'
      exact not_pinsKept rfl hkept'

/-- A failed `evdi_gem_mmap`. -/
theorem gemMmap_pinsKept_iff (obj : GemObject) (ans : MmapAnswers) :
    ((gemMmap (some obj) ans).2.1 ≠ 0 → ∀ after ∈ (gemMmap (some obj) ans).1, PinsKept obj after) ↔
      PinFails obj ans.toVmapAnswers ∨ obj.ref.importOwner = none ∧ ans.createMmapOffset = 0 := by
  rcases pinPages_cases obj ans.toVmapAnswers with ⟨hfails, hobj, hret⟩ | ⟨hpin, heq⟩
  · refine iff_of_true (fun _ after hafter => ?_) (.inl hfails)
    obtain rfl : obj = after := by simpa [gemMmap, hret, hobj] using hafter
    exact .refl obj
  · have hlost : ∀ after : GemObject, after.pagesPinCount = obj.pagesPinCount + 1 →
        ¬ PinsKept obj after := fun _ => not_pinsKept
    by_cases himport : obj.ref.importOwner = none
    · by_cases hoffset : ans.createMmapOffset = 0
      · refine iff_of_true (fun hret => ?_) (.inr ⟨himport, hoffset⟩)
        simp [gemMmap, heq, himport, hoffset] at hret
      · refine iff_of_false ?_ (by simp [hpin, hoffset])
        simpa [gemMmap, heq, himport, hoffset] using hlost _ rfl
    · refine iff_of_false ?_ (by simp [hpin, himport])
      simpa [gemMmap, heq, Option.isSome_iff_ne_none, himport, EINVAL] using hlost _ rfl

/-- **A failed mapping leaves the object as it was** exactly when it fails at the pin or before.

* `evdi_gem_vmap`: the dma-buf makes the mapping, or the pin fails, or `vmap` does not.
* `evdi_gem_mmap`: the pin fails, or nothing does and the object is not imported. -/
theorem failed_mapping_iff (obj : GemObject) (ans : MmapAnswers) :
    (((gemVmap obj ans.toVmapAnswers).2 ≠ 0 → PinsKept obj (gemVmap obj ans.toVmapAnswers).1) ↔
      gemObjectUseImportAttach obj.ref = true ∨ PinFails obj ans.toVmapAnswers ∨ ans.vmap = true) ∧
    (((gemMmap (some obj) ans).2.1 ≠ 0 → ∀ after ∈ (gemMmap (some obj) ans).1, PinsKept obj after) ↔
      PinFails obj ans.toVmapAnswers ∨ obj.ref.importOwner = none ∧ ans.createMmapOffset = 0) :=
  ⟨gemVmap_pinsKept_iff obj ans.toVmapAnswers, gemMmap_pinsKept_iff obj ans⟩

/-- An object of one page, native or imported. -/
def GemObject.samplePage (importOwner : Option (Option String)) : GemObject where
  ref := ⟨0, 4096, importOwner, false⟩
  pages := if importOwner.isSome then some [7] else none
  pagesPinCount := 0
  vmapped := false
  memory := fun _ => 0

/-- `vmap` fails, and so does nothing else. -/
def MmapAnswers.sampleNoVmap : MmapAnswers := ⟨⟨0, true, .ok [5], false⟩, 0, 0⟩

/-- A failed `vmap`, and the refusal of an imported object, leave their pin. -/
theorem failed_mapping_pins :
    (gemVmap (.samplePage none) MmapAnswers.sampleNoVmap.toVmapAnswers).2 = -ENOMEM ∧
      ¬ PinsKept (.samplePage none)
        (gemVmap (.samplePage none) MmapAnswers.sampleNoVmap.toVmapAnswers).1 ∧
      (gemMmap (some (.samplePage (some none))) .sampleNoVmap).2.1 = -EINVAL ∧
      ¬ PinsKept (.samplePage (some none))
        ((gemMmap (some (.samplePage (some none))) .sampleNoVmap).1.get rfl) :=
  ⟨rfl, not_pinsKept rfl, rfl, not_pinsKept rfl⟩

/-! ### Balanced pins -/

/-- A release: the count goes down, and with it the pages when it comes to 0. -/
theorem unpinPages_eq (obj : GemObject) :
    unpinPages obj = { obj with
      pagesPinCount := obj.pagesPinCount - 1
      pages := if obj.pagesPinCount = 1 then none else obj.pages } := by
  have hzero : obj.pagesPinCount - 1 = 0 ↔ obj.pagesPinCount = 1 := by
    rw [UInt32.sub_eq_iff_eq_add, UInt32.zero_add]
  by_cases hone : obj.pagesPinCount = 1
  · simp [unpinPages, gemPutPages, hone]
  · simp [unpinPages, hone, hzero]

namespace Pinned

/-- While a pin is outstanding the object has pages, and when none is it has those of `obj`. -/
structure Balanced (obj : GemObject) (s : Pinned) : Prop where
  held : 0 < s.outstanding → s.object.pages ≠ none
  restored : s.outstanding = 0 → s.object.pages = obj.pages

/-- The calls that release a pin. -/
def Releases (s : Pinned) : Action → Prop
  | .unpin => True
  | .vunmap => gemObjectUseImportAttach s.object.ref = false
  | _ => False

/-- A release that brings the count to 0 is the last one, and the object is not imported. -/
def Keeps (s : Pinned) (a : Action) : Prop :=
  s.Releases a → s.object.pagesPinCount = 1 → s.object.ref.importOwner = none ∧ s.outstanding = 1

/-- A call that keeps the pages that must stay. -/
def KeepingStep (s : Pinned) (a : Action) (t : Pinned) : Prop := Step s a t ∧ s.Keeps a

/-- **What a call does** to count and pages: nothing, a pin more, or a pin less. -/
theorem Step.cases {s t : Pinned} {a : Action} (h : Step s a t) :
    t.object.ref = s.object.ref ∧
    ((¬ s.Releases a ∧ t.outstanding = s.outstanding ∧
        t.object.pagesPinCount = s.object.pagesPinCount ∧ t.object.pages = s.object.pages) ∨
      (¬ s.Releases a ∧ t.outstanding = s.outstanding + 1 ∧
        t.object.pagesPinCount = s.object.pagesPinCount + 1 ∧
        ((s.object.pagesPinCount ≠ 0 → s.object.pages ≠ none) → t.object.pages ≠ none)) ∨
      (s.Releases a ∧ 0 < s.outstanding ∧ t.outstanding = s.outstanding - 1 ∧
        t.object.pagesPinCount = s.object.pagesPinCount - 1 ∧
        t.object.pages = if s.object.pagesPinCount = 1 then none else s.object.pages)) := by
  cases h with
  | pin ans hans =>
    rcases pinPages_cases s.object ans with ⟨-, hobj, hret⟩ | ⟨hpin, heq⟩
    · simp only [primePin, hobj, hret, if_false]
      exact ⟨trivial, .inl ⟨id, trivial, trivial, trivial⟩⟩
    · simp only [primePin, heq, if_true]
      refine ⟨trivial, .inr (.inl ⟨id, ?_, trivial, pinnedPages_ne_none hans hpin⟩)⟩
      simp only [outstanding]
      split_ifs <;> omega
  | unpin hpins =>
    simp only [primeUnpin, unpinPages_eq]
    refine ⟨trivial, .inr (.inr ⟨trivial, ?_, ?_, trivial, trivial⟩)⟩
    · simp only [outstanding]
      split_ifs <;> omega
    · simp only [outstanding]
      split_ifs <;> omega
  | vmap ans hans hret =>
    rcases gemVmap_cases s.object ans with ⟨himport, heq⟩ | ⟨-, -, -, hne⟩ | ⟨himport, hpin, heq⟩
    · have hmapped : ¬ ans.dmaBufVmap ≠ 0 := by
        intro hne
        rw [heq, if_pos hne] at hret
        exact absurd hret (by decide : ¬ -ENOMEM = 0)
      rw [heq, if_neg hmapped]
      exact ⟨rfl, .inl ⟨id, by simp [outstanding, himport], rfl, rfl⟩⟩
    · exact absurd hret hne
    · rw [heq]
      refine ⟨rfl, .inr (.inl ⟨id, ?_, rfl, pinnedPages_ne_none hans hpin⟩)⟩
      simp [outstanding, himport, Nat.add_assoc]
  | vunmap hmaps =>
    cases himport : gemObjectUseImportAttach s.object.ref with
    | true =>
      simp only [gemVunmap, himport, if_true]
      exact ⟨trivial, .inl ⟨by simp [Releases, himport], by simp [outstanding, himport], trivial, trivial⟩⟩
    | false =>
      simp only [gemVunmap, himport, Bool.false_eq_true, if_false, unpinPages_eq]
      refine ⟨trivial, .inr (.inr ⟨himport, ?_, ?_, trivial, trivial⟩)⟩
      · simp only [outstanding, himport, Bool.false_eq_true, if_false]
        omega
      · simp only [outstanding, himport, Bool.false_eq_true, if_false]
        omega

/-- What holds of an object of which every release has kept what must stay. -/
structure Inv (obj : GemObject) (s : Pinned) : Prop where
  ref_eq : s.object.ref = obj.ref
  count : s.object.pagesPinCount = .ofNat s.outstanding
  balanced : Balanced obj s

theorem inv_init {obj : GemObject} (h : obj.Fresh) : Inv obj (init obj) where
  ref_eq := rfl
  count := by
    have hnone : (init obj).outstanding = 0 := by simp [outstanding, init]
    rw [hnone]
    exact h.pagesPinCount
  balanced := ⟨fun hpos => by simp [outstanding, init] at hpos, fun _ => rfl⟩

/-- **A call that keeps the pages that must stay** keeps the invariant. -/
theorem Inv.step {obj : GemObject} (hfresh : obj.Fresh) {s t : Pinned} {a : Action} (hs : Inv obj s)
    (h : KeepingStep s a t) : Inv obj t := by
  obtain ⟨hstep, hkeeps⟩ := h
  obtain ⟨href, ⟨-, hout, hcount, hpages⟩ | ⟨-, hout, hcount, hpages⟩ |
    ⟨hreleases, hpos, hout, hcount, hpages⟩⟩ := hstep.cases
  · refine ⟨href.trans hs.ref_eq, by rw [hcount, hout, hs.count], ?_, ?_⟩
    · rw [hout, hpages]
      exact hs.balanced.held
    · rw [hout, hpages]
      exact hs.balanced.restored
  · refine ⟨href.trans hs.ref_eq, ?_, fun _ => hpages fun hne => ?_, fun hzero => by omega⟩
    · rw [hcount, hout, hs.count, UInt32.ofNat_add]
      rfl
    · refine hs.balanced.held (Nat.pos_of_ne_zero fun hzero => hne ?_)
      rw [hs.count, hzero]
      rfl
  · refine ⟨href.trans hs.ref_eq, ?_, ?_, ?_⟩
    · rw [hcount, hout, hs.count, UInt32.ofNat_sub hpos]
      rfl
    · intro hheld
      rw [hpages]
      split_ifs with hone
      · obtain ⟨-, hlast⟩ := hkeeps hreleases hone
        omega
      · exact hs.balanced.held hpos
    · intro hzero
      rw [hpages]
      split_ifs with hone
      · -- the last pin of a native object, which had no pages at first
        obtain ⟨hnative, -⟩ := hkeeps hreleases hone
        rw [hs.ref_eq] at hnative
        have hnone := hfresh.pages
        rw [hnative, Option.isSome_none, Option.isSome_eq_false_iff, Option.isNone_iff_eq_none] at hnone
        exact hnone.symm
      · refine absurd ?_ hone
        have hlast : s.outstanding = 1 := by omega
        rw [hs.count, hlast]
        rfl

/-- **A release that takes what must stay** breaks the balance. -/
theorem not_balanced_of_not_keeps {obj : GemObject} (hfresh : obj.Fresh) {s t : Pinned} {a : Action}
    (hs : Inv obj s) (hstep : Step s a t) (hbad : ¬ s.Keeps a) : ¬ Balanced obj t := by
  simp only [Keeps, Classical.not_imp] at hbad
  obtain ⟨hreleases, hone, hbad⟩ := hbad
  obtain ⟨-, ⟨hnot, -⟩ | ⟨hnot, -⟩ | ⟨-, hpos, hout, -, hpages⟩⟩ := hstep.cases
  · exact absurd hreleases hnot
  · exact absurd hreleases hnot
  · rw [if_pos hone] at hpages
    intro ht
    by_cases hlast : s.outstanding = 1
    · -- no pin is left, and an imported object had pages at first
      have hsome := hfresh.pages
      rw [← ht.restored (by omega), hpages, ← hs.ref_eq] at hsome
      exact hbad ⟨by simpa using hsome.symm, hlast⟩
    · exact ht.held (by omega) hpages

/-- **Balanced pins preserve an object's pages** exactly as long as no release brings the count to 0 of
an imported object, or (the count has 32 bits) while other pins are outstanding. -/
theorem balanced_iff {obj : GemObject} (hfresh : obj.Fresh) {as : List Action} {s : Pinned}
    (h : Run KeepingStep (init obj) as s) :
    Balanced obj s ∧ ∀ a t, Step s a t → ¬ s.Keeps a → ¬ Balanced obj t := by
  have hs : Inv obj s :=
    h.invariant (I := Inv obj) (fun _ _ _ hs hstep => hs.step hfresh hstep) (inv_init hfresh)
  exact ⟨hs.balanced, fun a t hstep hbad => not_balanced_of_not_keeps hfresh hs hstep hbad⟩

/-- Nothing fails. -/
def sampleAnswers : VmapAnswers := ⟨0, true, .ok [5], true⟩

theorem documented_sampleAnswers : sampleAnswers.Documented :=
  ⟨fun _ => rfl, fun err herr => by simp [sampleAnswers] at herr⟩

/-- A native object is mapped, pinned, unpinned and unmapped. -/
theorem balanced_mapped : ∃ s, Run KeepingStep (init (.samplePage none))
    [.vmap sampleAnswers, .pin sampleAnswers, .unpin, .vunmap] s ∧ s.outstanding = 0 ∧
      Balanced (.samplePage none) s := by
  have hrun : Run KeepingStep (init (.samplePage none))
      [.vmap sampleAnswers, .pin sampleAnswers, .unpin, .vunmap] _ :=
    (((Run.one ⟨.vmap sampleAnswers documented_sampleAnswers rfl, fun h => absurd h id⟩).snoc
      ⟨.pin sampleAnswers documented_sampleAnswers, fun h => absurd h id⟩).snoc
      ⟨.unpin Nat.one_pos, fun _ hone => absurd hone (by decide +kernel)⟩).snoc
      ⟨.vunmap Nat.one_pos, fun _ _ => ⟨rfl, rfl⟩⟩
  exact ⟨_, hrun, rfl, (balanced_iff ⟨rfl, rfl, rfl⟩ hrun).1⟩

/-- An object imported from amdgpu is mapped and unmapped: its pages are gone, and the next mapping gets
others. -/
theorem imported_pages_lost :
    let obj := GemObject.samplePage (some (some "amdgpu"))
    (∃ as s, Run Step (init obj) as s ∧ s.outstanding = 0 ∧ ¬ Balanced obj s ∧
      (gemVmap s.object sampleAnswers).1.pages = some [5]) ∧ obj.pages = some [7] := by
  intro obj
  have hrun : Run Step (init obj) _ _ :=
    (Run.one (.vmap sampleAnswers documented_sampleAnswers rfl)).snoc (.vunmap Nat.one_pos)
  refine ⟨⟨_, _, hrun, by decide +kernel, fun hbalanced => ?_, by decide +kernel⟩, rfl⟩
  exact absurd (hbalanced.restored (by decide +kernel)) (by decide +kernel)

end Pinned

end Evdi
