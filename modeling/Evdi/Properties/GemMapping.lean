import Evdi.Model.GemMapping
import Evdi.Properties.Pinning

/-!
# A mapping keeps its pages

The page a client sees behind an address of its mapping stays the same, whatever is pinned, mapped into the
kernel, undone and mapped again.

* `MappedObject.Step.cases`: a call changes nothing, makes a pin, or undoes one;
* `MappedObject.Inv`: the count is the number of the pins, and an object that is pinned has its pages;
* **`mapping_stays`**: the result, and the number of calls after which it ends.
-/

namespace Evdi

open Transition

/-! ### One call -/

theorem pinnedPages_of_some {obj : GemObject} {ans : VmapAnswers} {pages : List ℕ}
    (h : obj.pages = some pages) : pinnedPages obj ans = some pages := by
  simp [pinnedPages, h]

/-- What is pinned is what was there, or what the kernel has given. -/
theorem length_pinnedPages {obj : GemObject} {ans : VmapAnswers} (hans : ans.Covers obj)
    (h : ∀ pages, obj.pages = some pages → pages.length = obj.ref.size / pageSize) {pages : List ℕ}
    (hpages : pinnedPages obj ans = some pages) : pages.length = obj.ref.size / pageSize := by
  unfold pinnedPages at hpages
  split_ifs at hpages
  · cases hget : ans.getPages with
    | error err => simp [hget, Except.toOption] at hpages
    | ok pages' =>
      obtain rfl : pages' = pages := by simpa [hget, Except.toOption] using hpages
      exact hans _ hget
  · exact h pages hpages

/-- **What `evdi_gem_mmap` does** to the object: the pin fails, or it stays. -/
theorem gemMmap_cases (obj : GemObject) (ans : MmapAnswers) :
    (PinFails obj ans.toVmapAnswers ∧ (gemMmap (some obj) ans).1 = some obj ∧
      (gemMmap (some obj) ans).2.1 ≠ 0) ∨
    (¬ PinFails obj ans.toVmapAnswers ∧ (gemMmap (some obj) ans).1 = some { obj with
      pagesPinCount := obj.pagesPinCount + 1
      pages := pinnedPages obj ans.toVmapAnswers }) := by
  rcases pinPages_cases obj ans.toVmapAnswers with ⟨hfails, hobj, hret⟩ | ⟨hpin, heq⟩
  · refine .inl ⟨hfails, ?_, ?_⟩
    · simp [gemMmap, hret, hobj]
    · simp [gemMmap, hret]
  · refine .inr ⟨hpin, ?_⟩
    unfold gemMmap
    simp only [heq, ne_eq, not_true_eq_false, if_false]
    split_ifs <;> rfl

namespace MappedObject

variable {s t : MappedObject} {a : Action}

theorem keep_same {obj : GemObject} (h : obj.pagesPinCount = s.object.pagesPinCount) :
    (s.keep obj).kept = s.kept := by
  rw [keep, if_pos h]

theorem keep_more {obj : GemObject} (h : obj.pagesPinCount = s.object.pagesPinCount + 1) :
    s.keep obj = { s with object := obj, kept := s.kept + 1 } := by
  have hne : ¬ obj.pagesPinCount = s.object.pagesPinCount := by
    rw [h]
    simp
  rw [keep, if_neg hne]

/-- What changes with a call: nothing, a pin more, or a pin less. -/
inductive Change (s t : MappedObject) : Prop
  | same : t.pinned = s.pinned → t.object.pagesPinCount = s.object.pagesPinCount →
      t.object.pages = s.object.pages → Change s t
  | more (ans : VmapAnswers) : ans.Documented → ans.Covers s.object → ¬ PinFails s.object ans →
      t.pinned = s.pinned + 1 → t.object.pagesPinCount = s.object.pagesPinCount + 1 →
      t.object.pages = pinnedPages s.object ans → Change s t
  | less : s.kept < s.pinned → t.pinned + 1 = s.pinned →
      t.object.pagesPinCount = s.object.pagesPinCount - 1 →
      t.object.pages = (if s.object.pagesPinCount = 1 then none else s.object.pages) → Change s t

theorem keep_change_same {obj : GemObject} (href : obj.ref = s.object.ref)
    (hcount : obj.pagesPinCount = s.object.pagesPinCount) (hpages : obj.pages = s.object.pages) :
    (s.keep obj).object.ref = s.object.ref ∧ s.kept ≤ (s.keep obj).kept ∧ Change s (s.keep obj) := by
  refine ⟨href, (keep_same hcount).ge, .same ?_ hcount hpages⟩
  simp only [pinned, Pinned.outstanding, keep, href, if_pos hcount]

theorem keep_change_more {obj : GemObject} {ans : VmapAnswers} (hans : ans.Documented)
    (hcovers : ans.Covers s.object) (hpin : ¬ PinFails s.object ans) (href : obj.ref = s.object.ref)
    (hcount : obj.pagesPinCount = s.object.pagesPinCount + 1)
    (hpages : obj.pages = pinnedPages s.object ans) :
    (s.keep obj).object.ref = s.object.ref ∧ s.kept ≤ (s.keep obj).kept ∧ Change s (s.keep obj) := by
  have hkept : (s.keep obj).kept = s.kept + 1 := by rw [keep_more hcount]
  refine ⟨href, by omega, .more ans hans hcovers hpin ?_ hcount hpages⟩
  have hout : (s.keep obj).outstanding = s.outstanding := by
    simp only [Pinned.outstanding, keep, href]
  rw [pinned, pinned, hout, hkept, Nat.add_assoc]

/-- **What a call does.** The object is the same one, and what is kept stays. -/
theorem Step.change (h : Step s a t) (hnative : s.object.ref.importOwner = none) :
    t.object.ref = s.object.ref ∧ s.kept ≤ t.kept ∧ Change s t := by
  have huse : gemObjectUseImportAttach s.object.ref = false := by
    simp [gemObjectUseImportAttach, hnative]
  cases h with
  | @call t a h hcovers =>
    cases h with
    | pin ans hans =>
      rcases pinPages_cases s.object ans with ⟨-, hobj, hret⟩ | ⟨hpin, heq⟩
      · simp only [primePin, hobj, hret, if_false]
        exact ⟨trivial, le_rfl, .same rfl rfl rfl⟩
      · simp only [primePin, heq, if_true]
        refine ⟨trivial, le_rfl, .more ans hans (hcovers ans rfl) hpin ?_ rfl rfl⟩
        simp only [pinned, Pinned.outstanding, huse, Bool.false_eq_true, if_false]
        omega
    | unpin hpins =>
      simp only [primeUnpin, unpinPages_eq]
      refine ⟨trivial, le_rfl, .less ?_ ?_ rfl rfl⟩ <;>
      · simp only [pinned, Pinned.outstanding, huse, Bool.false_eq_true, if_false]
        omega
    | vmap ans hans hret =>
      rcases gemVmap_cases s.object ans with ⟨himport, -⟩ | ⟨-, -, -, hne⟩ | ⟨-, hpin, heq⟩
      · rw [huse] at himport
        exact absurd himport Bool.false_ne_true
      · exact absurd hret hne
      · rw [heq]
        refine ⟨rfl, le_rfl, .more ans hans (hcovers ans rfl) hpin ?_ rfl rfl⟩
        simp only [pinned, Pinned.outstanding, huse, Bool.false_eq_true, if_false]
        omega
    | vunmap hmaps =>
      simp only [gemVunmap, huse, Bool.false_eq_true, if_false, unpinPages_eq]
      refine ⟨trivial, le_rfl, .less ?_ ?_ rfl rfl⟩ <;>
      · simp only [pinned, Pinned.outstanding, huse, Bool.false_eq_true, if_false]
        omega
  | failedVmap ans hans hcovers hret =>
    rcases gemVmap_cases s.object ans with ⟨himport, -⟩ | ⟨-, -, hobj, -⟩ | ⟨-, hpin, heq⟩
    · rw [huse] at himport
      exact absurd himport Bool.false_ne_true
    · rw [hobj]
      exact keep_change_same rfl rfl rfl
    · rw [heq]
      exact keep_change_more hans hcovers hpin rfl rfl rfl
  | mmap ans hans hcovers =>
    rcases gemMmap_cases s.object ans with ⟨-, hobj, -⟩ | ⟨hpin, heq⟩
    · rw [hobj]
      exact keep_change_same rfl rfl rfl
    · rw [heq]
      exact keep_change_more hans hcovers hpin rfl rfl rfl

/-! ### Runs -/

/-- The count is the number of pins, and an object that is pinned has all of its pages. -/
structure Inv (obj : GemObject) (s : MappedObject) : Prop where
  ref_eq : s.object.ref = obj.ref
  count : s.object.pagesPinCount = .ofNat s.pinned
  bound : s.pinned < 2 ^ 32
  length : ∀ pages, s.object.pages = some pages → pages.length = obj.ref.size / pageSize
  held : 0 < s.pinned → s.object.pages ≠ none

section

variable {obj : GemObject}

theorem inv_init (hfresh : obj.Fresh) (hnative : obj.ref.importOwner = none) : Inv obj (init obj) where
  ref_eq := rfl
  count := by simp [init, Pinned.init, pinned, Pinned.outstanding, hfresh.pagesPinCount]
  bound := by simp [init, Pinned.init, pinned, Pinned.outstanding]
  length pages h := by
    have hnone : obj.pages.isSome = false := by rw [hfresh.pages, hnative]; rfl
    have hpages : obj.pages = some pages := h
    rw [hpages] at hnone
    exact absurd hnone (by simp)
  held h := by simp [init, Pinned.init, pinned, Pinned.outstanding] at h

/-- The count is 1 only when one pin is left. -/
theorem Inv.count_ne_one (hs : Inv obj s) (h : 2 ≤ s.pinned) : s.object.pagesPinCount ≠ 1 := by
  intro hone
  rw [hs.count] at hone
  have hnat := congrArg UInt32.toNat hone
  rw [UInt32.toNat_ofNat_of_lt' hs.bound, UInt32.toNat_one] at hnat
  omega

theorem Inv.step (hs : Inv obj s) (hnative : obj.ref.importOwner = none) (h : BoundedStep s a t) :
    Inv obj t := by
  obtain ⟨hstep, hbound⟩ := h
  obtain ⟨href, -, hchange⟩ := hstep.change (by rw [hs.ref_eq, hnative])
  refine ⟨href.trans hs.ref_eq, ?_, hbound, ?_, ?_⟩
  · rcases hchange with ⟨hn, hcount, -⟩ | ⟨ans, -, -, -, hn, hcount, -⟩ | ⟨-, hn, hcount, -⟩
    · rw [hcount, hs.count, hn]
    · rw [hcount, hs.count, hn, UInt32.ofNat_add]
      rfl
    · rw [hcount, hs.count, ← hn, UInt32.ofNat_add]
      exact UInt32.add_sub_cancel _ _
  · intro pages hpages
    rcases hchange with ⟨-, -, heq⟩ | ⟨ans, -, hcovers, -, -, -, heq⟩ | ⟨-, -, -, heq⟩
    · exact hs.length pages (heq ▸ hpages)
    · rw [heq] at hpages
      rw [← hs.ref_eq]
      exact length_pinnedPages hcovers (fun pages h => hs.ref_eq ▸ hs.length pages h) hpages
    · rw [heq] at hpages
      split_ifs at hpages
      exact hs.length pages hpages
  · intro hpos
    rcases hchange with ⟨hn, -, heq⟩ | ⟨ans, hans, -, hpin, -, -, heq⟩ | ⟨-, hn, -, heq⟩
    · rw [heq]
      exact hs.held (by omega)
    · rw [heq]
      refine pinnedPages_ne_none hans hpin fun hne => hs.held (Nat.pos_of_ne_zero fun hzero => hne ?_)
      rw [hs.count, hzero]
      rfl
    · rw [heq, if_neg (hs.count_ne_one (by omega))]
      exact hs.held (by omega)

/-- What a pin that is kept holds stays as it is. -/
theorem Inv.kept (hs : Inv obj s) (hnative : obj.ref.importOwner = none) (h : BoundedStep s a t)
    (hkept : 0 < s.kept) : t.object.pages = s.object.pages ∧ 0 < t.kept := by
  obtain ⟨-, hle, hchange⟩ := h.1.change (by rw [hs.ref_eq, hnative])
  refine ⟨?_, by omega⟩
  have hpos : 0 < s.pinned := by
    rw [pinned]
    omega
  rcases hchange with ⟨-, -, heq⟩ | ⟨ans, -, -, -, -, -, heq⟩ | ⟨hlt, -, -, heq⟩
  · exact heq
  · obtain ⟨pages, hpages⟩ := Option.ne_none_iff_exists'.1 (hs.held hpos)
    rw [heq, hpages, pinnedPages_of_some hpages]
  · rw [heq, if_neg (hs.count_ne_one (by omega))]

theorem Inv.run_kept (hs : Inv obj s) (hnative : obj.ref.importOwner = none) (hkept : 0 < s.kept)
    {as : List Action} (h : Run BoundedStep s as t) :
    Inv obj t ∧ t.object.pages = s.object.pages ∧ 0 < t.kept := by
  refine h.invariant (I := fun u => Inv obj u ∧ u.object.pages = s.object.pages ∧ 0 < u.kept)
    (fun u a v hu hstep => ?_) ⟨hs, rfl, hkept⟩
  obtain ⟨hu, hpages, hkept⟩ := hu
  obtain ⟨hpages', hkept'⟩ := hu.kept hnative hstep hkept
  exact ⟨hu.step hnative hstep, hpages'.trans hpages, hkept'⟩

/-- A mapping that was made has pinned the pages for good. -/
theorem Step.kept_pos {ans : MmapAnswers} (h : Step s (.mmap ans) t)
    (hret : (gemMmap (some s.object) ans).2.1 = 0) : 0 < t.kept := by
  cases h with
  | mmap ans hans hcovers =>
    rcases gemMmap_cases s.object ans with ⟨-, -, hne⟩ | ⟨-, heq⟩
    · exact absurd hret hne
    · rw [heq, Option.getD_some, keep_more rfl]
      exact Nat.succ_pos _

/-- A mapped object is a native one. -/
theorem native_of_gemMmap {obj : GemObject} {ans : MmapAnswers}
    (hret : (gemMmap (some obj) ans).2.1 = 0) : obj.ref.importOwner = none := by
  by_contra hne
  have hsome : obj.ref.importOwner.isSome = true := Option.isSome_iff_ne_none.2 hne
  have href : (pinPages obj ans.toVmapAnswers).1.ref = obj.ref := (pinPages_ref_memory obj _).1
  by_cases hpin : (pinPages obj ans.toVmapAnswers).2 = 0
  · have hmap : (gemMmap (some obj) ans).2.1 = -EINVAL := by simp [gemMmap, hpin, href, hsome]
    rw [hmap] at hret
    exact absurd hret (by decide)
  · have hmap : (gemMmap (some obj) ans).2.1 = (pinPages obj ans.toVmapAnswers).2 := by
      simp [gemMmap, hpin]
    exact hpin (hmap ▸ hret)

theorem Step.ref_eq (h : Step s a t) : t.object.ref = s.object.ref := by
  cases h with
  | call h _ => exact h.cases.1
  | failedVmap ans _ _ _ => exact (gemVmap_ref_memory _ _).1
  | mmap ans _ _ =>
    rcases gemMmap_cases s.object ans with ⟨-, heq, -⟩ | ⟨-, heq⟩ <;> rw [heq] <;> rfl

theorem run_ref_eq {as : List Action} (h : Run BoundedStep s as t) : t.object.ref = s.object.ref :=
  h.invariant (I := fun u => u.object.ref = s.object.ref) (fun _ _ _ hu hstep => hstep.1.ref_eq.trans hu) rfl

/-- The entry of the array that a fault inserts. -/
theorem gemFaultPage_of_pages {obj : GemObject} {pages : List ℕ} (hpages : obj.pages = some pages)
    {offset : ℕ} (hoffset : offset / pageSize < obj.ref.size / pageSize) :
    gemFaultPage obj offset = pages[offset / pageSize]? := by
  have hindex : gemFaultIndex obj offset = some (offset / pageSize) := by
    simp [gemFaultIndex, hpages, hoffset]
  rw [gemFaultPage, hindex, Option.bind_some, hpages, Option.bind_some]

end

/-! ### Too many pins -/

/-- One page, which the client has mapped `n + 1` times. -/
def samplePinned (n : ℕ) : MappedObject where
  object := { GemObject.samplePage none with pages := some [5], pagesPinCount := .ofNat (n + 1) }
  pins := 0
  maps := 0
  kept := n + 1

/-- Nothing fails. -/
def sampleMmap : MmapAnswers := ⟨Pinned.sampleAnswers, 0, 0⟩

theorem covers_sample {obj : GemObject} (hsize : obj.ref.size = 4096) : Pinned.sampleAnswers.Covers obj := by
  intro pages hpages
  obtain rfl : [5] = pages := Except.ok.inj hpages
  rw [hsize]
  rfl

theorem step_first : Step (init (.samplePage none)) (.mmap sampleMmap) (samplePinned 0) :=
  .mmap sampleMmap Pinned.documented_sampleAnswers (covers_sample rfl)

theorem step_next (n : ℕ) : Step (samplePinned n) (.mmap sampleMmap) (samplePinned (n + 1)) := by
  have hstep := Step.mmap (s := samplePinned n) sampleMmap Pinned.documented_sampleAnswers
    (covers_sample rfl)
  rcases gemMmap_cases (samplePinned n).object sampleMmap with ⟨⟨-, hnone, -⟩, -⟩ | ⟨-, heq⟩
  · exact absurd hnone (by simp [samplePinned])
  · have hpages : pinnedPages (samplePinned n).object sampleMmap.toVmapAnswers = some [5] :=
      pinnedPages_of_some rfl
    have hcount : UInt32.ofNat (n + 1) + 1 = .ofNat (n + 1 + 1) := (UInt32.ofNat_add _ _).symm
    rw [heq, hpages, Option.getD_some, keep_more rfl] at hstep
    simpa only [samplePinned, hcount] using hstep

theorem run_sample (n : ℕ) :
    Run Step (samplePinned 0) (List.replicate n (.mmap sampleMmap)) (samplePinned n) := by
  induction n with
  | zero => exact Run.nil _
  | succ n ih =>
    rw [List.replicate_succ']
    exact ih.snoc (step_next n)

/-- After 2³² mappings the count is 0 again, and the next pin, when it is undone, takes the pages with
it. -/
theorem mapping_lost : ∃ t, Run Step (samplePinned 0) (List.replicate (2 ^ 32 - 1) (.mmap sampleMmap) ++
    [.call (.pin sampleMmap.toVmapAnswers), .call .unpin]) t ∧ t.object.pages = none := by
  have hrun := run_sample (2 ^ 32 - 1)
  have hcount : (samplePinned (2 ^ 32 - 1)).object.pagesPinCount = 0 := rfl
  let full : Pinned := ⟨{ GemObject.samplePage none with pages := some [5] }, 0, 0⟩
  have hfull : (samplePinned (2 ^ 32 - 1)).toPinned = full := by
    simp only [samplePinned, full, GemObject.samplePage] at hcount ⊢
    rw [hcount]
  let one : Pinned := ⟨{ full.object with pagesPinCount := 1 }, 1, 0⟩
  have hpin : Step (samplePinned (2 ^ 32 - 1)) (.call (.pin Pinned.sampleAnswers))
      ⟨one, 2 ^ 32⟩ := by
    refine .call ?_ fun ans hans => ?_
    · rw [hfull]
      exact Pinned.Step.pin Pinned.sampleAnswers Pinned.documented_sampleAnswers
    · obtain rfl : Pinned.sampleAnswers = ans := Option.some.inj hans
      exact covers_sample rfl
  have hunpin : Step ⟨one, 2 ^ 32⟩ (.call .unpin) ⟨⟨primeUnpin one.object, 0, 0⟩, 2 ^ 32⟩ :=
    .call (.unpin (s := one) Nat.one_pos) fun ans hans => absurd hans (Option.not_mem_none _)
  exact ⟨_, hrun.append ((Run.one hpin).snoc hunpin), by simp [primeUnpin, unpinPages_eq, one]⟩

/-- **A mapping keeps its pages.** Once `evdi_gem_mmap` has given an offset, a fault inserts the same page
for ever, as long as there are fewer than 2³² pins. When a client has asked for the offset 2³² times, one
pin that is made and undone takes all pages. -/
theorem mapping_stays :
    (∀ obj : GemObject, obj.Fresh → ∀ as s₀ ans s bs t, Run BoundedStep (init obj) as s₀ →
      BoundedStep s₀ (.mmap ans) s → (gemMmap (some s₀.object) ans).2.1 = 0 → Run BoundedStep s bs t →
      ∀ offset, offset / pageSize < obj.ref.size / pageSize →
        ∃ page, gemFaultPage s.object offset = some page ∧ gemFaultPage t.object offset = some page) ∧
    ∃ obj : GemObject, obj.Fresh ∧ ∃ ans s t, Step (init obj) (.mmap ans) s ∧
      (gemMmap (some obj) ans).2.1 = 0 ∧ Run Step s (List.replicate (2 ^ 32 - 1) (.mmap ans) ++
        [.call (.pin ans.toVmapAnswers), .call .unpin]) t ∧
      ∀ offset, gemFaultPage t.object offset = none := by
  refine ⟨fun obj hfresh as s₀ ans s bs t hrun hmap hret hrest offset hoffset => ?_, ?_⟩
  · have href₀ : s₀.object.ref = obj.ref := run_ref_eq hrun
    have hnative : obj.ref.importOwner = none := href₀ ▸ native_of_gemMmap hret
    have hs₀ : Inv obj s₀ :=
      hrun.invariant (fun _ _ _ hs hstep => hs.step hnative hstep) (inv_init hfresh hnative)
    have hs := hs₀.step hnative hmap
    obtain ⟨ht, hsame, -⟩ := hs.run_kept hnative (hmap.1.kept_pos hret) hrest
    have hpos : 0 < s.pinned := by
      have hkept := hmap.1.kept_pos hret
      rw [pinned]
      omega
    obtain ⟨pages, hpages⟩ := Option.ne_none_iff_exists'.1 (hs.held hpos)
    have hin : offset / pageSize < pages.length := by rwa [hs.length pages hpages]
    refine ⟨pages[offset / pageSize], ?_, ?_⟩
    · rw [gemFaultPage_of_pages hpages (by rwa [hs.ref_eq]), List.getElem?_eq_getElem hin]
    · rw [gemFaultPage_of_pages (hsame.trans hpages) (by rwa [ht.ref_eq]),
        List.getElem?_eq_getElem hin]
  · obtain ⟨t, hrun, hnone⟩ := mapping_lost
    refine ⟨.samplePage none, ⟨rfl, rfl, rfl⟩, sampleMmap, _, t, step_first, rfl, hrun,
      fun offset => ?_⟩
    simp [gemFaultPage, gemFaultIndex, hnone]

end MappedObject

end Evdi
