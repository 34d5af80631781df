import Evdi.Model.Fbdev
import Evdi.Model.GemPages

/-!
# What a process sees of the console

A process that maps the framebuffer console gets the pages of its object in their order, from the page it
asks for, as far as the kernel maps them, and never another page.

* `fbMmap_refused`, `fbMmap_mapped`: the check is that of the numbers, and the loop maps page after page;
* `evdifbCreate_cases`: what is left of the object;
* **`console_pages`**: the result, with the failures after which the console and its object part.
-/

namespace Evdi

open While

/-- The mapping lies within the console's memory. -/
def Vma.Fits (vma : Vma) (info : FbInfo) : Prop :=
  4096 * vma.vmPgoff.toNat + vma.size.toNat ≤ info.smemLen.toNat

/-- The pages of a mapping. -/
def Vma.pages (vma : Vma) : ℕ := divRoundUp vma.size.toNat pageSize

section

variable {pfn : UInt64 → ℕ} {remap : Stream' Bool} {info : FbInfo} {vma : Vma}

theorem toNat_smemLen (info : FbInfo) : info.smemLen.toUInt64.toNat = info.smemLen.toNat := by
  simp

theorem toNat_offset (h : vma.vmPgoff.toNat < 2 ^ 52) :
    (vma.vmPgoff <<< 12).toNat = 4096 * vma.vmPgoff.toNat := by
  rw [UInt64.toNat_shiftLeft]
  have h12 : (12 : UInt64).toNat % 64 = 12 := by decide
  rw [h12, Nat.shiftLeft_eq, Nat.mod_eq_of_lt (by omega)]
  omega

/-- **The checks** in 64 bits are that of the numbers. -/
theorem fits_iff : vma.Fits info ↔ ¬ vma.vmPgoff > vmPgoffMax ∧
    ¬ (vma.vmPgoff <<< 12 > info.smemLen.toUInt64 ∨
      vma.size > info.smemLen.toUInt64 - vma.vmPgoff <<< 12) := by
  have hmax : vmPgoffMax.toNat = 2 ^ 52 - 1 := by decide
  have hlen := info.smemLen.toNat_lt
  rw [Vma.Fits, not_or, gt_iff_lt, UInt64.lt_iff_toNat_lt, hmax, gt_iff_lt, UInt64.lt_iff_toNat_lt,
    gt_iff_lt, UInt64.lt_iff_toNat_lt, toNat_smemLen]
  by_cases hpgoff : vma.vmPgoff.toNat < 2 ^ 52
  · rw [toNat_offset hpgoff]
    by_cases hoffset : 4096 * vma.vmPgoff.toNat ≤ info.smemLen.toNat
    · have hsub : (info.smemLen.toUInt64 - vma.vmPgoff <<< 12).toNat =
          info.smemLen.toNat - 4096 * vma.vmPgoff.toNat := by
        rw [UInt64.toNat_sub_of_le, toNat_smemLen, toNat_offset hpgoff]
        rw [UInt64.le_iff_toNat_le, toNat_smemLen, toNat_offset hpgoff]
        exact hoffset
      rw [hsub]
      omega
    · omega
  · omega

/-- **A mapping that does not fit** is refused, and maps nothing. -/
theorem fbMmap_refused (h : ¬ vma.Fits info) (n : ℕ) :
    fbMmap n pfn remap info vma = some (-EINVAL, []) := by
  rw [fits_iff, not_and_or, not_not, not_not] at h
  unfold fbMmap
  dsimp only
  by_cases hpgoff : vma.vmPgoff > vmPgoffMax
  · rw [if_pos hpgoff]
  · rw [if_neg hpgoff, if_pos (h.resolve_left hpgoff)]

/-- The address `i` pages behind `base`. -/
def pageAddr (base : UInt64) (i : ℕ) : UInt64 := base + .ofNat (4096 * i)

theorem pageAddr_succ (base : UInt64) (i : ℕ) : pageAddr base i + 4096 = pageAddr base (i + 1) := by
  rw [pageAddr, pageAddr, Nat.mul_succ, UInt64.ofNat_add, UInt64.add_assoc]
  rfl

/-- The `i`-th page mapped: its address and its page frame. -/
def fbMmapEntry (pfn : UInt64 → ℕ) (info : FbInfo) (vma : Vma) (i : ℕ) : UInt64 × ℕ :=
  (pageAddr vma.vmStart i, pfn (pageAddr info.smemStart (vma.vmPgoff.toNat + i)))

/-- After `i` turns: all of them have mapped a page, or the loop has ended with one that did not. -/
structure FbMmap.Inv (pfn : UInt64 → ℕ) (remap : Stream' Bool) (info : FbInfo) (vma : Vma) (i : ℕ)
    (s : FbMmap) : Prop where
  start : s.start = pageAddr vma.vmStart i
  pos : s.pos = pageAddr info.smemStart (vma.vmPgoff.toNat + i)
  size : s.size.toNat = vma.size.toNat - 4096 * i
  mapped : s.mapped = (List.range i).map (fbMmapEntry pfn info vma)
  remapped : ∀ j < i, remap.get j = true
  bound : i ≤ vma.pages
  ret : (s.ret = 0 ∧ s.remap = remap.drop i) ∨
    (s.ret = -EAGAIN ∧ i < vma.pages ∧ remap.get i = false)

/-- **A turn of the loop** maps the next page, or ends the loop. -/
theorem FbMmap.Inv.turn {i : ℕ} {s : FbMmap} (h : s.Inv pfn remap info vma i) (hsize : 0 < s.size.toNat)
    (hret : s.ret = 0) :
    (fbMmapTurn pfn s).Inv pfn remap info vma i ∧ (fbMmapTurn pfn s).ret ≠ 0 ∨
    (fbMmapTurn pfn s).Inv pfn remap info vma (i + 1) ∧ (fbMmapTurn pfn s).ret = 0 ∧
      (fbMmapTurn pfn s).size.toNat = s.size.toNat - 4096 := by
  have hmore : i < vma.pages := by
    have hsize' := h.size
    rw [Vma.pages, divRoundUp, pageSize]
    omega
  have hremap : s.remap = remap.drop i := by
    rcases h.ret with ⟨-, hremap⟩ | ⟨hfailed, -⟩
    · exact hremap
    · rw [hret] at hfailed
      exact absurd hfailed (by decide)
  have hhead : s.remap.head = remap.get i := by
    rw [hremap, Stream'.head_drop]
  unfold fbMmapTurn
  rw [hhead]
  cases hget : remap.get i with
  | false =>
    have hfailed : -EAGAIN ≠ 0 := by decide
    rw [Bool.not_false, if_pos rfl]
    exact .inl ⟨{ h with ret := .inr ⟨rfl, hmore, hget⟩ }, hfailed⟩
  | true =>
    rw [Bool.not_true, if_neg Bool.false_ne_true]
    have hpage : (4096 : UInt64).toNat = 4096 := by decide
    have hless : (if s.size > 4096 then s.size - 4096 else 0).toNat = s.size.toNat - 4096 := by
      split_ifs with hlarge
      · rw [gt_iff_lt, UInt64.lt_iff_toNat_lt] at hlarge
        rw [UInt64.toNat_sub_of_le _ _ (UInt64.le_iff_toNat_le.2 hlarge.le), hpage]
      · rw [gt_iff_lt, UInt64.lt_iff_toNat_lt, not_lt, hpage] at hlarge
        rw [Nat.sub_eq_zero_of_le hlarge]
        rfl
    refine .inr ⟨⟨?_, ?_, ?_, ?_, fun j hj => ?_, hmore, .inl ⟨hret, ?_⟩⟩, hret, hless⟩
    · show s.start + 4096 = _
      rw [h.start, pageAddr_succ]
    · show s.pos + 4096 = _
      rw [h.pos, pageAddr_succ, Nat.add_assoc]
    · show (if s.size > 4096 then s.size - 4096 else 0).toNat = _
      rw [hless, h.size]
      omega
    · show s.mapped ++ [(s.start, pfn s.pos)] = _
      rw [h.mapped, h.start, h.pos, List.range_succ, List.map_append]
      rfl
    · rcases Nat.lt_succ_iff_lt_or_eq.1 hj with hj | rfl
      · exact h.remapped j hj
      · exact hget
    · show s.remap.tail = _
      rw [hremap, Stream'.tail_drop']

theorem fbMmap_start (offset : vma.vmPgoff.toNat < 2 ^ 52) : (⟨vma.vmStart,
    info.smemStart + vma.vmPgoff <<< 12, vma.size, [], remap, 0⟩ : FbMmap).Inv pfn remap info vma 0 where
  start := by simp [pageAddr]
  pos := by
    rw [pageAddr, Nat.add_zero, ← toNat_offset offset, UInt64.ofNat_toNat]
  size := by simp
  mapped := rfl
  remapped j hj := absurd hj (Nat.not_lt_zero j)
  bound := Nat.zero_le _
  ret := .inl ⟨rfl, rfl⟩

/-- What the loop has still to map. -/
def FbMmap.remaining (s : FbMmap) : ℕ := if s.ret = 0 then divRoundUp s.size.toNat pageSize else 0

theorem FbMmap.goesOn_iff {s : FbMmap} : s.goesOn = true ↔ 0 < s.size.toNat ∧ s.ret = 0 := by
  simp [FbMmap.goesOn, UInt64.lt_iff_toNat_lt]

theorem FbMmap.Inv.step {s : FbMmap} (h : ∃ i, s.Inv pfn remap info vma i) (hgo : s.goesOn = true) :
    (∃ i, (fbMmapTurn pfn s).Inv pfn remap info vma i) ∧ (fbMmapTurn pfn s).remaining < s.remaining := by
  obtain ⟨i, hi⟩ := h
  obtain ⟨hsize, hret⟩ := FbMmap.goesOn_iff.1 hgo
  have hpos : 0 < divRoundUp s.size.toNat pageSize := by
    rw [divRoundUp, pageSize]
    omega
  rw [FbMmap.remaining, FbMmap.remaining, if_pos hret]
  rcases hi.turn hsize hret with ⟨hstays, hfailed⟩ | ⟨hnext, hret', hless⟩
  · rw [if_neg hfailed]
    exact ⟨⟨i, hstays⟩, hpos⟩
  · rw [if_pos hret', hless]
    refine ⟨⟨i + 1, hnext⟩, ?_⟩
    simp only [divRoundUp, pageSize] at hpos ⊢
    omega

/-- At the end of the loop. -/
theorem FbMmap.Inv.over {i : ℕ} {s : FbMmap} (h : s.Inv pfn remap info vma i) (hover : s.goesOn = false) :
    (i < vma.pages → remap.get i = false) ∧ s.ret = if i = vma.pages then 0 else -EAGAIN := by
  have hsize := h.size
  have hbound := h.bound
  rcases h.ret with ⟨hret, -⟩ | ⟨hret, hless, hget⟩
  · have hdone : ¬ 0 < s.size.toNat := fun hpos => by
      rw [FbMmap.goesOn_iff.2 ⟨hpos, hret⟩] at hover
      cases hover
    have hall : i = vma.pages := by
      simp only [Vma.pages, divRoundUp, pageSize] at hbound ⊢
      omega
    exact ⟨fun hlt => absurd hall hlt.ne, by rw [hret, if_pos hall]⟩
  · exact ⟨fun _ => hget, by rw [hret, if_neg hless.ne]⟩

/-- **A mapping that fits** maps page after page, up to the first that the kernel does not map. -/
theorem fbMmap_mapped (h : vma.Fits info) {n : ℕ} (hn : vma.pages ≤ n) :
    ∃ k ≤ vma.pages, (∀ j < k, remap.get j = true) ∧ (k < vma.pages → remap.get k = false) ∧
      fbMmap n pfn remap info vma = some (if k = vma.pages then 0 else -EAGAIN,
        (List.range k).map (fbMmapEntry pfn info vma)) := by
  obtain ⟨hpgoff, hfits⟩ := fits_iff.1 h
  have hsmall : vma.vmPgoff.toNat < 2 ^ 52 := by
    have hmax : vmPgoffMax.toNat = 2 ^ 52 - 1 := by decide
    rw [gt_iff_lt, UInt64.lt_iff_toNat_lt, hmax] at hpgoff
    omega
  let s : FbMmap := ⟨vma.vmStart, info.smemStart + vma.vmPgoff <<< 12, vma.size, [], remap, 0⟩
  have hstart : ∃ i, s.Inv pfn remap info vma i := ⟨0, fbMmap_start hsmall⟩
  have hremaining : s.remaining ≤ n := by
    rw [FbMmap.remaining, if_pos rfl]
    exact hn
  have hend : ∃ t, whileLoop FbMmap.goesOn (fbMmapTurn pfn) n s = some t ∧
      (∃ i, t.Inv pfn remap info vma i) ∧ t.goesOn = false :=
    whileLoop_total FbMmap.remaining (@FbMmap.Inv.step pfn remap info vma) hstart hremaining
  obtain ⟨t, hloop, ⟨k, hk⟩, hover⟩ := hend
  obtain ⟨hlast, hret⟩ := hk.over hover
  refine ⟨k, hk.bound, hk.remapped, hlast, ?_⟩
  unfold fbMmap
  dsimp only
  rw [if_neg hpgoff, if_neg hfits, hloop, Option.map_some, hret, hk.mapped]

end

/-! ### The console -/

/-- `surface_bpp` is one that the driver takes. -/
def SurfaceSize.Supported (sizes : SurfaceSize) : Prop := sizes.surfaceBpp = 24 ∨ sizes.surfaceBpp = 32

section

variable {ans : FbdevAnswers} {sizes : SurfaceSize}

theorem evdifbCreate_unsupported (h : ¬ sizes.Supported) :
    evdifbCreate ans sizes = ⟨-EINVAL, none, none⟩ := by
  rw [SurfaceSize.Supported, not_or] at h
  rw [evdifbCreate, if_pos h]

theorem evdifbCreate_supported (h : sizes.Supported) : evdifbCreate ans sizes =
    (gemAllocObject ans.gem (fbdevSize sizes).toNat).elim ⟨0, none, none⟩ fun obj =>
      if (gemVmap obj ans.vmap).2 ≠ 0 then ⟨(gemVmap obj ans.vmap).2, none, some (gemVmap obj ans.vmap).1⟩
      else if !ans.framebufferAlloc then ⟨-ENOMEM, none, some (gemVmap obj ans.vmap).1⟩
      else if ans.framebufferInit ≠ 0 then ⟨ans.framebufferInit, none, none⟩
      else if ans.fbAllocCmap ≠ 0 then ⟨-ENOMEM, some ⟨ans.vmapping, fbdevSize sizes⟩, none⟩
      else ⟨0, some ⟨ans.vmapping, fbdevSize sizes⟩, some (gemVmap obj ans.vmap).1⟩ := by
  have hbpp : ¬ (sizes.surfaceBpp ≠ 24 ∧ sizes.surfaceBpp ≠ 32) := by
    rw [SurfaceSize.Supported] at h
    tauto
  rw [evdifbCreate, if_neg hbpp]
  dsimp only
  cases gemAllocObject ans.gem (fbdevSize sizes).toNat <;> rfl

/-- The steps after which the console and its object part: the object is mapped or the `fb_info` is
allocated, and nothing knows the object yet; or the colour map is, and the helper has the console. -/
def FbdevAnswers.Parts (ans : FbdevAnswers) (obj : GemObject) : Prop :=
  (gemVmap obj ans.vmap).2 ≠ 0 ∨ ans.framebufferAlloc = false ∨
    ans.framebufferInit = 0 ∧ ans.fbAllocCmap ≠ 0

/-- **The console and its object** are both there or both gone, unless one of these steps fails; and a
console that could not be made for want of an object is reported as made. -/
theorem evdifbCreate_object (h : sizes.Supported) :
    ((evdifbCreate ans sizes).info.isSome = (evdifbCreate ans sizes).object.isSome ↔
      ∀ obj ∈ gemAllocObject ans.gem (fbdevSize sizes).toNat, ¬ ans.Parts obj) ∧
    ((evdifbCreate ans sizes).ret = 0 ∧ (evdifbCreate ans sizes).info = none ↔
      gemAllocObject ans.gem (fbdevSize sizes).toNat = none) := by
  rw [evdifbCreate_supported h]
  cases gemAllocObject ans.gem (fbdevSize sizes).toNat with
  | none => simp
  | some obj =>
    simp only [Option.elim_some, Option.mem_some_iff, forall_eq', FbdevAnswers.Parts]
    split_ifs <;> simp_all [ENOMEM]

/-- The mapping of a new object has the pages that the kernel gave. -/
theorem gemVmap_new {obj : GemObject} {ans : VmapAnswers} (hans : ans.Documented)
    (hfresh : obj.Fresh) (hnative : obj.ref.importOwner = none) (h : (gemVmap obj ans).2 = 0) :
    ∃ pages, ans.getPages = .ok pages ∧ (gemVmap obj ans).1.pages = some pages := by
  have hnone : obj.pages = none := by
    have hpages := hfresh.pages
    rw [hnative] at hpages
    simpa using hpages
  have hattach : gemObjectUseImportAttach obj.ref = false := by
    simp [gemObjectUseImportAttach, hnative]
  rcases gemVmap_cases obj ans with ⟨himport, -⟩ | ⟨-, -, -, hne⟩ | ⟨-, hpin, heq⟩
  · exact absurd (hattach.symm.trans himport) Bool.false_ne_true
  · exact absurd h hne
  · rw [heq]
    cases hget : ans.getPages with
    | ok pages =>
      refine ⟨pages, rfl, ?_⟩
      simp [pinnedPages, hfresh.pagesPinCount, hnone, hget, Except.toOption]
    | error err => exact absurd ⟨hfresh.pagesPinCount, hnone, err, hans.getPages err hget, hget⟩ hpin

/-- **A console** has the address and the size of an object with all of its pages. -/
theorem evdifbCreate_console (hans : ans.vmap.Documented) {info : FbInfo}
    (hret : (evdifbCreate ans sizes).ret = 0) (hinfo : (evdifbCreate ans sizes).info = some info) :
    info = ⟨ans.vmapping, fbdevSize sizes⟩ ∧ ∃ obj pages, (evdifbCreate ans sizes).object = some obj ∧
      obj.ref.size = (fbdevSize sizes).toNat ∧ obj.pages = some pages ∧
      ans.vmap.getPages = .ok pages := by
  by_cases h : sizes.Supported
  · rw [evdifbCreate_supported h] at hret hinfo ⊢
    cases halloc : gemAllocObject ans.gem (fbdevSize sizes).toNat with
    | none =>
      rw [halloc] at hinfo
      cases hinfo
    | some obj =>
      rw [halloc, Option.elim_some] at hret hinfo
      rw [Option.elim_some]
      obtain rfl : ⟨⟨ans.gem.id, (fbdevSize sizes).toNat, none, false⟩, none, 0, false,
          ans.gem.memory⟩ = obj := by
        unfold gemAllocObject at halloc
        split_ifs at halloc
        exact Option.some.inj halloc
      split_ifs at hret hinfo ⊢ with hvmap hfb hinit hcmap
      · exact absurd hret (by decide : ¬ -ENOMEM = 0)
      · obtain ⟨pages, hpages, hobject⟩ := gemVmap_new hans ⟨rfl, rfl, rfl⟩ rfl (not_not.1 hvmap)
        refine ⟨(Option.some.inj hinfo).symm, _, pages, rfl, ?_, hobject, hpages⟩
        rw [(gemVmap_ref_memory _ _).1]
  · rw [evdifbCreate_unsupported h] at hinfo
    cases hinfo

/-- A mapping that fits lies within the pages of the object. -/
theorem pages_of_fits {info : FbInfo} {vma : Vma} (hinfo : info.smemLen = fbdevSize sizes)
    (h : vma.Fits info) : vma.vmPgoff.toNat + vma.pages ≤ (fbdevSize sizes).toNat / pageSize := by
  have hsize := toNat_alignToPage (sizes.surfaceWidth * ((32 + 7) / 8) * sizes.surfaceHeight)
  rw [Vma.Fits, hinfo] at h
  rw [Vma.pages, divRoundUp, pageSize]
  rw [fbdevSize] at h ⊢
  omega

/-- **A process sees the console's object.** Let the kernel give the object all of its pages and map them
one behind the other at `vmapping`.  Then a mapping of the console, anywhere in the 64 bits of its start,
its end and its offset, is refused without a page mapped, or it asks for pages that the object has, and
gets them in their order, all of them or up to the first that the kernel does not map. -/
theorem console_pages {info : FbInfo} {vmallocToPfn : UInt64 → ℕ} (hans : ans.vmap.Documented)
    (hret : (evdifbCreate ans sizes).ret = 0) (hinfo : (evdifbCreate ans sizes).info = some info)
    (hcovers : ∀ pages, ans.vmap.getPages = .ok pages →
      pages.length = (fbdevSize sizes).toNat / pageSize)
    (hpfn : ∀ pages, ans.vmap.getPages = .ok pages →
      ∀ i page, pages[i]? = some page → vmallocToPfn (pageAddr ans.vmapping i) = page)
    (remap : Stream' Bool) (vma : Vma) {n : ℕ} (hn : vma.pages ≤ n) :
    ∃ obj pages, (evdifbCreate ans sizes).object = some obj ∧ obj.pages = some pages ∧
      (¬ vma.Fits info → fbMmap n vmallocToPfn remap info vma = some (-EINVAL, [])) ∧
      (vma.Fits info → vma.vmPgoff.toNat + vma.pages ≤ pages.length ∧ ∃ k ≤ vma.pages,
        (∀ j < k, remap.get j = true) ∧ (k < vma.pages → remap.get k = false) ∧
        fbMmap n vmallocToPfn remap info vma = some (if k = vma.pages then 0 else -EAGAIN,
          ((pages.drop vma.vmPgoff.toNat).take k).mapIdx fun i page => (pageAddr vma.vmStart i, page))) := by
  obtain ⟨rfl, obj, pages, hobject, -, hpages, hget⟩ := evdifbCreate_console hans hret hinfo
  refine ⟨obj, pages, hobject, hpages, fun h => fbMmap_refused h n, fun h => ?_⟩
  have hwithin : vma.vmPgoff.toNat + vma.pages ≤ pages.length := by
    rw [hcovers pages hget]
    exact pages_of_fits rfl h
  obtain ⟨k, hk, hmapped, hlast, hrun⟩ := fbMmap_mapped h hn
  refine ⟨hwithin, k, hk, hmapped, hlast, ?_⟩
  rw [hrun]
  have hentries : (List.range k).map (fbMmapEntry vmallocToPfn ⟨ans.vmapping, fbdevSize sizes⟩ vma) =
      ((pages.drop vma.vmPgoff.toNat).take k).mapIdx fun i page => (pageAddr vma.vmStart i, page) := by
    refine List.ext_getElem ?_ fun i hi hi' => ?_
    · simp
      omega
    · have hlt : i < k := by simpa using hi
      have hpage := hpfn pages hget (vma.vmPgoff.toNat + i) _ (List.getElem?_eq_getElem (by omega))
      simp [fbMmapEntry, hpage]
  rw [hentries]

/-- An object of four pages, mapped at 0x10000. -/
def FbdevAnswers.sample : FbdevAnswers where
  gem := ⟨true, 0, .ok 1, true, false, 5, fun _ => 0⟩
  vmap := ⟨0, true, .ok [7, 8, 9, 10], true⟩
  vmapping := 0x10000
  framebufferAlloc := true
  framebufferInit := 0
  fbAllocCmap := 0

/-- The page frames behind 0x10000. -/
def samplePfn (a : UInt64) : ℕ := 7 + ((a - 0x10000) / 4096).toNat

/-- Of that console, a process maps three pages from the second on, and gets two. -/
theorem console_pages_sample : ∃ obj pages, (evdifbCreate .sample ⟨64, 64, 32⟩).object = some obj ∧
    obj.pages = some pages ∧ ∃ k ≤ 3, fbMmap 3 samplePfn (.cons true (.cons true (.const false)))
      ⟨0x10000, 16384⟩ ⟨0x7000, 0xa000, 1⟩ = some (if k = 3 then 0 else -EAGAIN,
        ((pages.drop 1).take k).mapIdx fun i page => (pageAddr 0x7000 i, page)) := by
  have hans : FbdevAnswers.sample.vmap.Documented := ⟨fun _ => rfl, fun err h => by cases h⟩
  have hpfn (i : ℕ) (page : ℕ) (h : [7, 8, 9, 10][i]? = some page) :
      samplePfn (pageAddr 0x10000 i) = page := by
    rcases i with _ | _ | _ | _ | i <;> simp_all <;> subst h <;> decide
  obtain ⟨obj, pages, hobject, hpages, -, hmapped⟩ := @console_pages .sample ⟨64, 64, 32⟩ ⟨0x10000, 16384⟩
    samplePfn hans (by decide) (by decide) (fun pages h => by cases h; decide)
    (fun pages h => by cases h; exact hpfn) (.cons true (.cons true (.const false)))
    ⟨0x7000, 0xa000, 1⟩ 3 (by decide)
  obtain ⟨-, k, hk, -, -, hrun⟩ := hmapped (by unfold Vma.Fits; decide)
  exact ⟨obj, pages, hobject, hpages, k, hk, hrun⟩

end

end Evdi
