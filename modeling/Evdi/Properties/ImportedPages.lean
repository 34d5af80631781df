import Evdi.Model.GemPages

/-!
# The page array of an imported object

`evdi_prime_import_sg_table` takes the length of the array from the scatter table; the fault handler,
`evdi_gem_vmap` and `evdi_prime_get_sg_table` index it by the size of the dma-buf.

* `PagesCover`: all of these indices lie in the array;
* `imported_pages_cover_iff`: they do when the scatter table has enough pages.
-/

namespace Evdi

open Words

/-- The array has an entry for each page of the object, so that whoever reads it stays inside. -/
structure PagesCover (obj : GemObject) (pages : List ℕ) : Prop where
  length : divRoundUp obj.ref.size pageSize ≤ pages.length
  fault : ∀ offset, ∀ i ∈ gemFaultIndex obj offset, i < pages.length
  vmap : gemVmapPageCount obj ≤ pages.length
  getSgTable : primeGetSgTableCount obj ≤ pages.length

/-- Whole pages are no more than pages begun. -/
theorem div_le_divRoundUp (n d : ℕ) : n / d ≤ divRoundUp n d := by
  rcases Nat.eq_zero_or_pos d with rfl | hd
  · simp
  · exact Nat.div_le_div_right (by omega)

theorem gemFaultIndex_lt {obj : GemObject} {offset i : ℕ} (h : i ∈ gemFaultIndex obj offset) :
    i < obj.ref.size / pageSize := by
  unfold gemFaultIndex at h
  dsimp only at h
  split_ifs at h with hbounds
  · cases h
  · rw [not_or, not_le] at hbounds
    cases h
    exact hbounds.2

/-- An array that is long enough covers the object. -/
theorem pagesCover_iff (obj : GemObject) (pages : List ℕ) :
    PagesCover obj pages ↔ divRoundUp obj.ref.size pageSize ≤ pages.length := by
  refine ⟨(·.length), fun h => ⟨h, fun offset i hi => ?_, ?_, ?_⟩⟩
  · exact (gemFaultIndex_lt hi).trans_le ((div_le_divRoundUp _ _).trans h)
  · exact (Nat.mod_le _ _).trans h
  · exact (Nat.mod_le _ _).trans ((div_le_divRoundUp _ _).trans h)

/-- A fault in a covered object is answered by `vm_insert_page` with a page of the array: what it would
say of an entry behind the array does not matter. -/
theorem PagesCover.gemFault_congr {obj : GemObject} {pages : List ℕ} (h : PagesCover obj pages)
    (hpages : obj.pages = some pages) {vmInsertPage vmInsertPage' : Option ℕ → ℤ}
    (hsome : ∀ page, vmInsertPage (some page) = vmInsertPage' (some page)) (offset : ℕ) :
    gemFault obj offset vmInsertPage = gemFault obj offset vmInsertPage' := by
  unfold gemFault
  cases hindex : gemFaultIndex obj offset with
  | none => rfl
  | some i =>
    have hentry : obj.pages.bind (·[i]?) = some (pages.get ⟨i, h.fault offset i hindex⟩) := by
      rw [hpages]
      exact List.getElem?_eq_getElem _
    dsimp only
    rw [hentry, hsome]

/-- **Imported page arrays cover the object** exactly when the scatter table has a page, by an `int`, for
each page of the dma-buf. -/
theorem imported_pages_cover_iff {ans : GemCreateAnswers} {size : ℕ} {owner : Option String}
    {sg : List ℕ} {old : ℕ → ℕ} {obj : GemObject}
    (h : primeImportSgTable ans size owner sg old = some (.ok obj)) :
    (∃ pages, obj.pages = some pages ∧ PagesCover obj pages) ↔
      (divRoundUp size pageSize : ℤ) ≤ getSgTablePagesNum sg := by
  obtain ⟨hcount, rfl⟩ := primeImportSgTable_ok h
  simp only [Option.some.injEq, exists_eq_left', pagesCover_iff, sgToPageArray, List.length_map,
    List.length_range]
  omega

/-- The object of a dma-buf of two pages without an owner, with the scatter table given. -/
def GemObject.sampleImported (sg : List ℕ) : GemObject where
  ref := ⟨0, 8192, some none, false⟩
  pages := some (sgToPageArray sg (fun _ => 0) sg.length)
  pagesPinCount := 0
  vmapped := false
  memory := fun _ => 0

/-- A table of two pages for a dma-buf of two pages. -/
theorem imported_pages_cover :
    ∃ pages, (GemObject.sampleImported [7, 8]).pages = some pages ∧
      PagesCover (.sampleImported [7, 8]) pages :=
  (@imported_pages_cover_iff .sample 8192 none [7, 8] (fun _ => 0) _ rfl).2 (by decide)

/-- A table of one page for a dma-buf of two pages: the import succeeds, and a fault in the second page
reads behind the array. -/
theorem imported_pages_short :
    primeImportSgTable .sample 8192 none [7] (fun _ => 0) = some (.ok (.sampleImported [7])) ∧
      (GemObject.sampleImported [7]).pages = some [7] ∧
      gemFaultIndex (.sampleImported [7]) 4096 = some 1 ∧ ¬ PagesCover (.sampleImported [7]) [7] := by
  refine ⟨rfl, rfl, rfl, fun h => ?_⟩
  exact absurd h.length (by decide)

end Evdi
