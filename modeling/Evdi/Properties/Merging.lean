import Evdi.Properties.Capacity

/-!
# What merging costs

`merge_dirty_rects` joins two rectangles when their bounding rectangle is no more pixels than the
two.  On rectangles of a screen its arithmetic is exact, so that the sum of the areas never grows; and
no corner of the whole list moves.

* `mergeTests`: the pairs of rectangles that a run of the two loops compares, in order;
* `TestExact`: the areas that a comparison computes fit an `int`;
* `IsBounding`: the bounding rectangle of a list;
* `mergeDirtyRects_correct`: the result.
-/

namespace Evdi

open Words Absorption

/-! ### Areas -/

/-- The number of pixels of a rectangle with its corners in order. -/
def ClipRect.area (r : ClipRect) : ℤ :=
  ((r.x2.toNat : ℤ) - r.x1.toNat) * ((r.y2.toNat : ℤ) - r.y1.toNat)

/-- A rectangle of a screen: its corners are in order and within the limits of `evdi_modeset_init`. -/
structure ClipRect.OnScreen (r : ClipRect) : Prop extends r.IsOrdered where
  x2_le : r.x2.toNat ≤ 7680
  y2_le : r.y2.toNat ≤ 4320

instance (r : ClipRect) : Decidable r.OnScreen :=
  decidable_of_iff ((r.x1 ≤ r.x2 ∧ r.y1 ≤ r.y2) ∧ r.x2.toNat ≤ 7680 ∧ r.y2.toNat ≤ 4320)
    ⟨fun h => ⟨⟨h.1.1, h.1.2⟩, h.2.1, h.2.2⟩, fun h => ⟨⟨h.x_le, h.y_le⟩, h.x2_le, h.y2_le⟩⟩

theorem onScreen_expandRect {a b : ClipRect} (ha : a.OnScreen) (hb : b.OnScreen) :
    (expandRect a b).OnScreen where
  toIsOrdered := isOrdered_expandRect ha.toIsOrdered
  x2_le := by
    show (max a.x2 b.x2).toNat ≤ 7680
    rw [UInt16.toNat_max]
    exact max_le ha.x2_le hb.x2_le
  y2_le := by
    show (max a.y2 b.y2).toNat ≤ 4320
    rw [UInt16.toNat_max]
    exact max_le ha.y2_le hb.y2_le

theorem ClipRect.OnScreen.area_nonneg {r : ClipRect} (h : r.OnScreen) : 0 ≤ r.area := by
  have hx := UInt16.le_iff_toNat_le.1 h.x_le
  have hy := UInt16.le_iff_toNat_le.1 h.y_le
  exact mul_nonneg (by omega) (by omega)

theorem ClipRect.OnScreen.area_le {r : ClipRect} (h : r.OnScreen) : r.area ≤ 7680 * 4320 := by
  have hx := h.x2_le
  have hy := h.y2_le
  have hy' := UInt16.le_iff_toNat_le.1 h.y_le
  exact mul_le_mul (by omega) (by omega) (by omega) (by omega)

/-! ### Tests -/

/-- The pairs that the inner loop of `merge_dirty_rects` compares from `b` on. -/
def mergeInnerTests (rects : List ClipRect) (a b : ℕ) : List (ClipRect × ClipRect) :=
  if h : b < rects.length ∧ a < b then
    (rects[a], rects[b]) ::
      if Mergeable rects[a] rects[b] then
        mergeInnerTests (absorbAt rects a b (expandRect rects[a] rects[b])) a (a + 1)
      else mergeInnerTests rects a (b + 1)
  else []
termination_by rects.length * rects.length + (rects.length - b)
decreasing_by
  · exact absorbAt_measure_lt rects (a + 1) _ h.1
  · omega

/-- The pairs that the outer loop compares from `a` on. -/
def mergeOuterTests (rects : List ClipRect) (a : ℕ) : List (ClipRect × ClipRect) :=
  if a + 1 < rects.length then
    mergeInnerTests rects a (a + 1) ++ mergeOuterTests (mergeInner rects a (a + 1)) (a + 1)
  else []
termination_by rects.length - a
decreasing_by
  have := (merges_mergeInner rects a (a + 1)).length_le
  omega

/-- The pairs that `merge_dirty_rects` compares. -/
def mergeTests (rects : List ClipRect) : List (ClipRect × ClipRect) := mergeOuterTests rects 0

/-- The areas of the two rectangles, their sum, and the area of the bounding rectangle fit an `int`. -/
structure TestExact (t : ClipRect × ClipRect) : Prop where
  left : rectArea t.1 = t.1.area
  right : rectArea t.2 = t.2.area
  sum : s32 (rectArea t.1 + rectArea t.2) = t.1.area + t.2.area
  bounding : rectArea (expandRect t.1 t.2) = (expandRect t.1 t.2).area

theorem rectArea_eq {r : ClipRect} (h : r.OnScreen) : rectArea r = r.area := by
  have hnonneg := h.area_nonneg
  have hle := h.area_le
  exact s32_of_bounds (show -2 ^ 31 ≤ r.area by omega) (show r.area < 2 ^ 31 by omega)

theorem testExact {t : ClipRect × ClipRect} (h₁ : t.1.OnScreen) (h₂ : t.2.OnScreen) : TestExact t where
  left := rectArea_eq h₁
  right := rectArea_eq h₂
  sum := by
    have := h₁.area_nonneg
    have := h₁.area_le
    have := h₂.area_nonneg
    have := h₂.area_le
    rw [rectArea_eq h₁, rectArea_eq h₂]
    exact s32_of_bounds (by omega) (by omega)
  bounding := rectArea_eq (onScreen_expandRect h₁ h₂)

/-- A join that is made has no more pixels than its two rectangles. -/
theorem area_expandRect_le {x y : ClipRect} (hx : x.OnScreen) (hy : y.OnScreen) (h : Mergeable x y) :
    (expandRect x y).area ≤ x.area + y.area := by
  have hexact := testExact (t := (x, y)) hx hy
  rw [Mergeable, hexact.bounding, hexact.sum] at h
  exact h

/-- Rectangles of a screen are compared to rectangles of a screen only. -/
theorem onScreen_mergeInnerTests (rects : List ClipRect) (a b : ℕ) (h : ∀ r ∈ rects, r.OnScreen) :
    ∀ t ∈ mergeInnerTests rects a b, t.1.OnScreen ∧ t.2.OnScreen := by
  induction rects, b using mergeInner.induct (a := a) with
  | case1 rects b hb hm ih =>
    have ha := h _ (List.getElem_mem (hb.1.trans hb.2))
    have hb' := h _ (List.getElem_mem hb.2)
    rw [mergeInnerTests, dif_pos hb.symm, if_pos hm, List.forall_mem_cons]
    exact ⟨⟨ha, hb'⟩, ih ((absorbs_absorbAt expandRect hb.1 hb.2 hm).forall_mem
      (fun _ _ => onScreen_expandRect) h)⟩
  | case2 rects b hb hm ih =>
    have ha := h _ (List.getElem_mem (hb.1.trans hb.2))
    have hb' := h _ (List.getElem_mem hb.2)
    rw [mergeInnerTests, dif_pos hb.symm, if_neg hm, List.forall_mem_cons]
    exact ⟨⟨ha, hb'⟩, ih h⟩
  | case3 rects b hb =>
    rw [mergeInnerTests, dif_neg fun h => hb h.symm]
    simp

theorem onScreen_mergeOuterTests (rects : List ClipRect) (a : ℕ) (h : ∀ r ∈ rects, r.OnScreen) :
    ∀ t ∈ mergeOuterTests rects a, t.1.OnScreen ∧ t.2.OnScreen := by
  induction rects, a using mergeOuter.induct with
  | case1 rects a ha ih =>
    rw [mergeOuterTests, if_pos ha, List.forall_mem_append]
    exact ⟨onScreen_mergeInnerTests rects a (a + 1) h,
      ih ((merges_mergeInner rects a (a + 1)).forall_mem (fun _ _ => onScreen_expandRect) h)⟩
  | case2 rects a ha =>
    rw [mergeOuterTests, if_neg ha]
    simp

/-- The inner loop starts over at most as often as there are rectangles. -/
theorem length_mergeInnerTests (rects : List ClipRect) (a b : ℕ) :
    (mergeInnerTests rects a b).length ≤ rects.length * rects.length + (rects.length - b) := by
  induction rects, b using mergeInner.induct (a := a) with
  | case1 rects b hb hm ih =>
    rw [mergeInnerTests, dif_pos hb.symm, if_pos hm, List.length_cons]
    exact ih.trans_lt (absorbAt_measure_lt rects (a + 1) _ hb.2)
  | case2 rects b hb hm ih =>
    rw [mergeInnerTests, dif_pos hb.symm, if_neg hm, List.length_cons]
    omega
  | case3 rects b hb =>
    rw [mergeInnerTests, dif_neg fun h => hb h.symm]
    exact Nat.zero_le _

theorem length_mergeOuterTests (rects : List ClipRect) (a n : ℕ) (h : rects.length ≤ n) :
    (mergeOuterTests rects a).length ≤ (n - a) * (n * n + n) := by
  induction rects, a using mergeOuter.induct with
  | case1 rects a ha ih =>
    rw [mergeOuterTests, if_pos ha, List.length_append]
    have hinner := length_mergeInnerTests rects a (a + 1)
    have hrest := ih ((merges_mergeInner rects a (a + 1)).length_le.trans h)
    have hsq := Nat.mul_le_mul h h
    obtain ⟨k, hk⟩ : ∃ k, n - a = k + 1 := ⟨n - a - 1, by omega⟩
    have hk' : n - (a + 1) = k := by omega
    rw [hk'] at hrest
    rw [hk, Nat.succ_mul]
    omega
  | case2 rects a ha =>
    rw [mergeOuterTests, if_neg ha]
    exact Nat.zero_le _

/-! ### The bounding rectangle -/

/-- `b` is the bounding rectangle of the list. -/
structure IsBounding (rects : List ClipRect) (b : ClipRect) : Prop where
  x1 : IsLeast ((fun r => r.x1.toNat) '' {r | r ∈ rects}) b.x1.toNat
  y1 : IsLeast ((fun r => r.y1.toNat) '' {r | r ∈ rects}) b.y1.toNat
  x2 : IsGreatest ((fun r => r.x2.toNat) '' {r | r ∈ rects}) b.x2.toNat
  y2 : IsGreatest ((fun r => r.y2.toNat) '' {r | r ∈ rects}) b.y2.toNat

/-- Joining rectangles, whichever they are, leaves the bounding rectangle as it was. -/
theorem isBounding_iff {rects rects' : List ClipRect} (h : Joined rects rects') (b : ClipRect) :
    IsBounding rects' b ↔ IsBounding rects b := by
  have hx1 := h.isLeast_iff (f := fun r => r.x1.toNat) (fun _ _ => UInt16.toNat_min _ _) b.x1.toNat
  have hy1 := h.isLeast_iff (f := fun r => r.y1.toNat) (fun _ _ => UInt16.toNat_min _ _) b.y1.toNat
  have hx2 := h.isGreatest_iff (f := fun r => r.x2.toNat) (fun _ _ => UInt16.toNat_max _ _) b.x2.toNat
  have hy2 := h.isGreatest_iff (f := fun r => r.y2.toNat) (fun _ _ => UInt16.toNat_max _ _) b.y2.toNat
  constructor
  · rintro ⟨h1, h2, h3, h4⟩
    exact ⟨hx1.1 h1, hy1.1 h2, hx2.1 h3, hy2.1 h4⟩
  · rintro ⟨h1, h2, h3, h4⟩
    exact ⟨hx1.2 h1, hy1.2 h2, hx2.2 h3, hy2.2 h4⟩

theorem isBounding_singleton (r : ClipRect) : IsBounding [r] r := by
  constructor <;> simp

/-- What `collapse_dirty_rects` leaves is the bounding rectangle. -/
theorem isBounding_collapse (r : ClipRect) (rects : List ClipRect) :
    IsBounding (r :: rects) (rects.foldl expandRect r) :=
  (isBounding_iff (joined_collapseDirtyRects (r :: rects)) _).1 (isBounding_singleton _)

/-! ### The result -/

/-- **Merging** rectangles of a screen ends, after at most so many comparisons, all of them exact; it
loses no pixel, moves no outer corner, adds no area, and leaves at least one rectangle and no more
than before. -/
theorem mergeDirtyRects_correct {rects : List ClipRect} (hne : rects ≠ [])
    (h : ∀ r ∈ rects, r.OnScreen) :
    ((mergeTests rects).length ≤ rects.length * (rects.length * rects.length + rects.length) ∧
      ∀ t ∈ mergeTests rects, TestExact t) ∧
    covered rects ⊆ covered (mergeDirtyRects rects) ∧
    (∃ b, IsBounding rects b ∧ IsBounding (mergeDirtyRects rects) b) ∧
    ((mergeDirtyRects rects).map ClipRect.area).sum ≤ (rects.map ClipRect.area).sum ∧
    1 ≤ (mergeDirtyRects rects).length ∧ (mergeDirtyRects rects).length ≤ rects.length := by
  refine ⟨⟨length_mergeOuterTests rects 0 _ le_rfl, fun t ht => ?_⟩, covered_mergeDirtyRects rects, ?_,
    ?_, ?_, length_mergeDirtyRects rects⟩
  · obtain ⟨h₁, h₂⟩ := onScreen_mergeOuterTests rects 0 h t ht
    exact testExact h₁ h₂
  · obtain ⟨r, rest, rfl⟩ := List.exists_cons_of_ne_nil hne
    have hbounding := isBounding_collapse r rest
    exact ⟨_, hbounding, (isBounding_iff (joined_mergeDirtyRects _) _).2 hbounding⟩
  · exact (merges_mergeDirtyRects rects).sum_le (fun _ _ => area_expandRect_le)
      (fun _ _ => onScreen_expandRect) h
  · rw [Nat.one_le_iff_ne_zero, Ne, List.length_eq_zero_iff, mergeDirtyRects_eq_nil]
    exact hne

/-- Two halves of a screen, and a corner of it. -/
theorem mergeDirtyRects_correct_halves :
    let rects : List ClipRect := [⟨0, 0, 3840, 4320⟩, ⟨0, 0, 1, 1⟩, ⟨3840, 0, 7680, 4320⟩]
    ∀ t ∈ mergeTests rects, TestExact t := by
  intro rects
  have hscreen : ∀ r ∈ rects, r.OnScreen := by decide
  exact (mergeDirtyRects_correct (by decide) hscreen).1.2

end Evdi
