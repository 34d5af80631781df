import Evdi.Foundations.Absorption
import Evdi.Foundations.Words

/-!
# Dirty rectangles

`drm_clip_rect` and the functions on it: clipping to a framebuffer
(`evdi_framebuffer_sanitize_rect`), and the two ways the painter shrinks its list of dirty
rectangles, `merge_dirty_rects` and `collapse_dirty_rects`.

The array of `*count` rectangles is a list; `rects[*count - 1]` is its last entry.
-/

namespace Evdi

open Words Absorption

/-- `struct drm_clip_rect`. -/
structure ClipRect where
  x1 : UInt16
  y1 : UInt16
  x2 : UInt16
  y2 : UInt16
  deriving DecidableEq, Repr

/-- A pixel position. -/
abbrev Pixel := ℕ × ℕ

/-- The pixels of a rectangle. -/
def ClipRect.pixels (r : ClipRect) : Set Pixel :=
  {p | (r.x1.toNat ≤ p.1 ∧ p.1 < r.x2.toNat) ∧ r.y1.toNat ≤ p.2 ∧ p.2 < r.y2.toNat}

/-- The pixels covered by a list of rectangles. -/
abbrev covered (rects : List ClipRect) : Set Pixel := cover ClipRect.pixels rects

theorem ClipRect.mem_pixels {r : ClipRect} {p : Pixel} : p ∈ r.pixels ↔
    (r.x1.toNat ≤ p.1 ∧ p.1 < r.x2.toNat) ∧ r.y1.toNat ≤ p.2 ∧ p.2 < r.y2.toNat := Iff.rfl

instance (r : ClipRect) (p : Pixel) : Decidable (p ∈ r.pixels) :=
  inferInstanceAs (Decidable (_ ∧ _))

/-! ### Clipping -/

/-- The rectangle with its coordinates swapped into order (`x1 > x2`, `y1 > y2`). -/
def ClipRect.ordered (r : ClipRect) : ClipRect where
  x1 := if r.x1 > r.x2 then r.x2 else r.x1
  y1 := if r.y1 > r.y2 then r.y2 else r.y1
  x2 := if r.x1 > r.x2 then r.x1 else r.x2
  y2 := if r.y1 > r.y2 then r.y1 else r.y2

/-- One coordinate cut at the framebuffer's `limit`, as each of the four tests does with its own
coordinate. -/
def clipCoordinate (limit : UInt32) (x : UInt16) : UInt16 :=
  if x.toUInt32 > limit then limit.toUInt16 else x

/-- `evdi_framebuffer_sanitize_rect`, for a framebuffer of `width` by `height`. -/
def framebufferSanitizeRect (width height : UInt32) (dirtyRect : ClipRect) : ClipRect where
  x1 := clipCoordinate width dirtyRect.ordered.x1
  y1 := clipCoordinate height dirtyRect.ordered.y1
  x2 := clipCoordinate width dirtyRect.ordered.x2
  y2 := clipCoordinate height dirtyRect.ordered.y2

theorem toNat_clipCoordinate (limit : UInt32) (x : UInt16) :
    (clipCoordinate limit x).toNat = min x.toNat limit.toNat := by
  have hx := x.toNat_lt
  unfold clipCoordinate
  split_ifs with h
  · have hw : limit.toNat < x.toNat := by simpa [UInt32.lt_iff_toNat_lt] using h
    rw [UInt32.toNat_toUInt16, Nat.mod_eq_of_lt (by omega), min_eq_right hw.le]
  · have hw : x.toNat ≤ limit.toNat := by simpa [UInt32.lt_iff_toNat_lt] using h
    rw [min_eq_left hw]

/-- Clipping is intersection with the framebuffer. -/
theorem pixels_sanitize (w h : UInt32) (r : ClipRect) : (framebufferSanitizeRect w h r).pixels =
    r.ordered.pixels ∩ {p | p.1 < w.toNat ∧ p.2 < h.toNat} := by
  ext p
  simp only [ClipRect.mem_pixels, framebufferSanitizeRect, toNat_clipCoordinate,
    Set.mem_inter_iff, Set.mem_ofPred_eq]
  omega

theorem ClipRect.ordered_of_le {r : ClipRect} (hx : r.x1 ≤ r.x2) (hy : r.y1 ≤ r.y2) :
    r.ordered = r := by
  have hx' : ¬ r.x1 > r.x2 := UInt16.not_lt.2 hx
  have hy' : ¬ r.y1 > r.y2 := UInt16.not_lt.2 hy
  simp only [ordered, if_neg hx', if_neg hy']

/-! ### Merging -/

/-- `expand_rect`: the bounding rectangle. -/
def expandRect (a b : ClipRect) : ClipRect where
  x1 := min a.x1 b.x1
  y1 := min a.y1 b.y1
  x2 := max a.x2 b.x2
  y2 := max a.y2 b.y2

/-- `rect_area`, an `int`. -/
def rectArea (r : ClipRect) : ℤ :=
  s32 (((r.x2.toNat : ℤ) - r.x1.toNat) * ((r.y2.toNat : ℤ) - r.y1.toNat))

/-- The test of `merge_dirty_rects`: the bounding rectangle is no more pixels than the two. -/
def Mergeable (a b : ClipRect) : Prop :=
  rectArea (expandRect a b) ≤ s32 (rectArea a + rectArea b)

instance (a b : ClipRect) : Decidable (Mergeable a b) := inferInstanceAs (Decidable (_ ≤ _))

/-- The inner loop of `merge_dirty_rects`, at `b`. It starts at `b = a + 1` and starts over there
after each merge ("repass"). -/
def mergeInner (rects : List ClipRect) (a b : ℕ) : List ClipRect :=
  if h : a < b ∧ b < rects.length then
    if Mergeable rects[a] rects[b] then
      mergeInner (absorbAt rects a b (expandRect rects[a] rects[b])) a (a + 1)
    else mergeInner rects a (b + 1)
  else rects
termination_by rects.length * rects.length + (rects.length - b)
decreasing_by
  · exact absorbAt_measure_lt rects (a + 1) _ h.2
  · omega

/-- What the inner loop does is a sequence of merges. -/
theorem merges_mergeInner (rects : List ClipRect) (a b : ℕ) :
    Merges Mergeable expandRect rects (mergeInner rects a b) := by
  induction rects, b using mergeInner.induct (a := a) with
  | case1 rects b h hm ih =>
    rw [mergeInner, dif_pos h, if_pos hm]
    exact ih.head (absorbs_absorbAt expandRect h.1 h.2 hm)
  | case2 rects b h hm ih =>
    rw [mergeInner, dif_pos h, if_neg hm]
    exact ih
  | case3 rects b h =>
    rw [mergeInner, dif_neg h]
    exact Relation.ReflTransGen.refl

/-- The outer loop of `merge_dirty_rects`, at `a`. -/
def mergeOuter (rects : List ClipRect) (a : ℕ) : List ClipRect :=
  if a + 1 < rects.length then mergeOuter (mergeInner rects a (a + 1)) (a + 1) else rects
termination_by rects.length - a
decreasing_by
  have := (merges_mergeInner rects a (a + 1)).length_le
  omega

/-- `merge_dirty_rects`. -/
def mergeDirtyRects (rects : List ClipRect) : List ClipRect := mergeOuter rects 0

theorem merges_mergeOuter (rects : List ClipRect) (a : ℕ) :
    Merges Mergeable expandRect rects (mergeOuter rects a) := by
  induction rects, a using mergeOuter.induct with
  | case1 rects a h ih =>
    rw [mergeOuter, if_pos h]
    exact (merges_mergeInner rects a (a + 1)).trans ih
  | case2 rects a h =>
    rw [mergeOuter, if_neg h]
    exact Relation.ReflTransGen.refl

theorem merges_mergeDirtyRects (rects : List ClipRect) :
    Merges Mergeable expandRect rects (mergeDirtyRects rects) := merges_mergeOuter rects 0

/-- `collapse_dirty_rects`. The callers have at least one rectangle. -/
def collapseDirtyRects : List ClipRect → List ClipRect
  | [] => []
  | r :: rects => [rects.foldl expandRect r]

/-! ### What merging and collapsing keep -/

theorem pixels_union_subset_expandRect (a b : ClipRect) :
    a.pixels ∪ b.pixels ⊆ (expandRect a b).pixels := by
  rintro p hp
  simp only [Set.mem_union, ClipRect.mem_pixels] at hp ⊢
  simp only [expandRect, UInt16.toNat_min, UInt16.toNat_max]
  omega

theorem covered_mergeDirtyRects (rects : List ClipRect) :
    covered rects ⊆ covered (mergeDirtyRects rects) :=
  (merges_mergeDirtyRects rects).cover_subset pixels_union_subset_expandRect

theorem covered_collapseDirtyRects (rects : List ClipRect) :
    covered rects ⊆ covered (collapseDirtyRects rects) := by
  cases rects with
  | nil => exact subset_rfl
  | cons r rects =>
    exact (merges_foldl expandRect r rects).cover_subset pixels_union_subset_expandRect

@[simp] theorem mergeDirtyRects_eq_nil {rects : List ClipRect} :
    mergeDirtyRects rects = [] ↔ rects = [] := (merges_mergeDirtyRects rects).eq_nil_iff

@[simp] theorem collapseDirtyRects_eq_nil {rects : List ClipRect} :
    collapseDirtyRects rects = [] ↔ rects = [] := by
  cases rects <;> simp [collapseDirtyRects]

theorem length_mergeDirtyRects (rects : List ClipRect) :
    (mergeDirtyRects rects).length ≤ rects.length := (merges_mergeDirtyRects rects).length_le

theorem length_collapseDirtyRects (rects : List ClipRect) :
    (collapseDirtyRects rects).length ≤ 1 := by
  cases rects <;> simp [collapseDirtyRects]

-- two halves of a square merge, a far rectangle stays
example : mergeDirtyRects [⟨0, 0, 1, 2⟩, ⟨9, 9, 10, 10⟩, ⟨1, 0, 2, 2⟩] =
    [⟨0, 0, 2, 2⟩, ⟨9, 9, 10, 10⟩] := by decide +kernel

end Evdi
