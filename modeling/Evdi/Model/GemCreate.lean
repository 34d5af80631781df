import Evdi.Foundations.Words
import Evdi.Model.Gem

/-!
# Creating GEM objects

Dumb buffers, whose pitch and size `evdi_dumb_create` computes in 32 bits, and objects imported from a
dma-buf, whose page array `evdi_prime_import_sg_table` fills from the scatter table.

What the kernel answers meanwhile is a `GemCreateAnswers`.
-/

namespace Evdi

open Bytes Words

/-- `DIV_ROUND_UP`. -/
def divRoundUp (n d : ℕ) : ℕ := (n + d - 1) / d

/-- Answers of the kernel while an object is created: whether the object was allocated, the result of
`drm_gem_object_init`, the handle or the error of `drm_gem_handle_create`, whether the page array was
allocated, and whether the caller is mutter.  The new object is `id` and its memory is `memory`. -/
structure GemCreateAnswers where
  kzalloc : Bool
  gemObjectInit : ℤ
  handleCreate : Except ℤ UInt32
  kvmalloc : Bool
  wasCalledByMutter : Bool
  id : ℕ
  memory : Memory

/-- `evdi_gem_alloc_object`. -/
def gemAllocObject (ans : GemCreateAnswers) (size : ℕ) : Option GemObject :=
  if !ans.kzalloc then none
  else if ans.gemObjectInit ≠ 0 then none
  else some ⟨⟨ans.id, size, none, false⟩, none, 0, false, ans.memory⟩

/-! ### Dumb buffers -/

/-- `evdi_gem_create`: the new object and its handle. -/
def gemCreate (ans : GemCreateAnswers) (size : UInt64) : Except ℤ (GemObject × UInt32) :=
  let size := (size + 4095) / 4096 * 4096
  match gemAllocObject ans size.toNat with
  | none => .error (-ENOMEM)
  | some obj =>
    let obj := { obj with ref := { obj.ref with
      allowSwCursorRectUpdates := ans.wasCalledByMutter } }
    match ans.handleCreate with
    | .error ret => .error ret
    | .ok handle => .ok (obj, handle)

/-- `evdi_align_pitch`. -/
def alignPitch (width cpp : Int32) : Int32 :=
  let pitchMask : Int32 :=
    if cpp = 1 then 255
    else if cpp = 2 then 127
    else if cpp = 3 ∨ cpp = 4 then 63
    else 0
  ((width + pitchMask) &&& ~~~pitchMask) * cpp

/-- The fields of `struct drm_mode_create_dumb` that the caller fills in. -/
structure ModeCreateDumb where
  height : UInt32
  width : UInt32
  bpp : UInt32

/-- The fields that `evdi_dumb_create` fills in, and what it answers. -/
structure DumbBuffer where
  pitch : UInt32
  size : UInt64
  created : Except ℤ (GemObject × UInt32)

/-- `evdi_dumb_create`. -/
def dumbCreate (ans : GemCreateAnswers) (args : ModeCreateDumb) : DumbBuffer :=
  let pitch := (alignPitch args.width.toInt32 ((args.bpp + 7) / 8).toInt32).toUInt32
  let size := (pitch * args.height).toUInt64
  ⟨pitch, size, gemCreate ans size⟩

/-! ### Imported objects -/

/-- `evdi_get_sg_table_pages_num`, an `int`. A scatter table is given by its pages. -/
def getSgTablePagesNum (sg : List ℕ) : ℤ := s32 sg.length

/-- `drm_prime_sg_to_page_array` into an array of `n` entries: the pages of the table, up to the end of
the array. Entries behind them keep the values `old`. -/
def sgToPageArray (sg : List ℕ) (old : ℕ → ℕ) (n : ℕ) : List ℕ :=
  (List.range n).map fun i => sg.getD i (old i)

/-- `evdi_prime_import_sg_table`, for a dma-buf of `size` bytes whose owner has the name `owner`, if it
has an owner. `none` when the driver dereferences `NULL`: `evdi_gem_alloc_object` answers `NULL`, which
`IS_ERR` does not take for an error. `kvmalloc_array` refuses a negative count, which is a huge
`size_t`. -/
def primeImportSgTable (ans : GemCreateAnswers) (size : ℕ) (owner : Option String) (sg : List ℕ)
    (old : ℕ → ℕ) : Option (Except ℤ GemObject) :=
  match gemAllocObject ans size with
  | none => none
  | some obj =>
    let npages := s32 (divRoundUp size pageSize)
    let npagesSg := getSgTablePagesNum sg
    let npages := if npages < npagesSg then npagesSg else npagesSg
    if npages < 0 ∨ !ans.kvmalloc then some (.error (-ENOMEM))
    else some (.ok { obj with
      ref := { obj.ref with
        importOwner := some owner
        allowSwCursorRectUpdates := ans.wasCalledByMutter }
      pages := some (sgToPageArray sg old npages.toNat) })

/-- An object as it was created: nothing is pinned, and an object has pages if it was imported. -/
structure GemObject.Fresh (obj : GemObject) : Prop where
  pagesPinCount : obj.pagesPinCount = 0
  vmapped : obj.vmapped = false
  pages : obj.pages.isSome = obj.ref.importOwner.isSome

/-- **A new object** has the size asked for, in whole pages, and no pages yet. -/
theorem gemCreate_ok {ans : GemCreateAnswers} {size : UInt64} {obj : GemObject} {handle : UInt32}
    (h : gemCreate ans size = .ok (obj, handle)) :
    obj = ⟨⟨ans.id, ((size + 4095) / 4096 * 4096).toNat, none, ans.wasCalledByMutter⟩, none, 0, false,
      ans.memory⟩ := by
  unfold gemCreate gemAllocObject at h
  dsimp only at h
  split_ifs at h
  cases hhandle : ans.handleCreate with
  | error ret => simp [hhandle] at h
  | ok handle' =>
    simp only [hhandle, Except.ok.injEq, Prod.mk.injEq] at h
    exact h.1.symm

theorem gemCreate_fresh {ans : GemCreateAnswers} {size : UInt64} {obj : GemObject} {handle : UInt32}
    (h : gemCreate ans size = .ok (obj, handle)) : obj.Fresh := by
  rw [gemCreate_ok h]
  exact ⟨rfl, rfl, rfl⟩

/-- **An imported object** has as many entries in its page array as the scatter table has pages, by an
`int`, whatever its size. -/
theorem primeImportSgTable_ok {ans : GemCreateAnswers} {size : ℕ} {owner : Option String}
    {sg : List ℕ} {old : ℕ → ℕ} {obj : GemObject}
    (h : primeImportSgTable ans size owner sg old = some (.ok obj)) :
    0 ≤ getSgTablePagesNum sg ∧
      obj = ⟨⟨ans.id, size, some owner, ans.wasCalledByMutter⟩,
        some (sgToPageArray sg old (getSgTablePagesNum sg).toNat), 0, false, ans.memory⟩ := by
  unfold primeImportSgTable gemAllocObject at h
  simp only [ite_self] at h
  generalize getSgTablePagesNum sg = n at h ⊢
  by_cases hkzalloc : ans.kzalloc = true
  · by_cases hinit : ans.gemObjectInit = 0
    · simp only [hkzalloc, hinit, Bool.not_true, Bool.false_eq_true, ne_eq, not_true_eq_false,
        if_false] at h
      split_ifs at h with hcount
      · cases h
      · rw [not_or, not_lt] at hcount
        cases h
        exact ⟨hcount.1, rfl⟩
    · simp [hkzalloc, hinit] at h
  · simp [hkzalloc] at h

theorem primeImportSgTable_fresh {ans : GemCreateAnswers} {size : ℕ} {owner : Option String}
    {sg : List ℕ} {old : ℕ → ℕ} {obj : GemObject}
    (h : primeImportSgTable ans size owner sg old = some (.ok obj)) : obj.Fresh := by
  obtain ⟨-, rfl⟩ := primeImportSgTable_ok h
  exact ⟨rfl, rfl, by simp⟩

/-- Nothing fails, and the new object has the handle 1. -/
def GemCreateAnswers.sample : GemCreateAnswers := ⟨true, 0, .ok 1, true, false, 0, fun _ => 0⟩

end Evdi
