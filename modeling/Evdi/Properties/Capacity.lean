import Evdi.Properties.Lifecycle

/-!
# The capacity of the list of dirty rectangles

The painter keeps at most `MAX_DIRTS` rectangles, and `GRABPIX` copies them to an array of that size on
its stack and to the caller's array.

* `joined_keptDirtyRects`, `joined_shrinkDirtyRects`: whatever the cascade of merging and collapsing
  does is a sequence of merges;
* `Painter.DirtsOk`: the invariant;
* `dirty_list_capacity`: the results.
-/

namespace Evdi

open Atomic Transition Absorption

/-! ### The cascades -/

/-- The rectangles in the array when `evdi_painter_mark_dirty` writes the new one behind them. -/
def keptDirtyRects (rects : List ClipRect) : List ClipRect :=
  let rects := if rects.length = maxDirts then mergeDirtyRects rects else rects
  if rects.length = maxDirts then collapseDirtyRects rects else rects

theorem addDirtyRect_eq (rects : List ClipRect) (rect : ClipRect) :
    addDirtyRect rects rect = keptDirtyRects rects ++ [rect] := rfl

/-- Any rectangles may be joined. -/
abbrev Joined : List ClipRect → List ClipRect → Prop := Merges (fun _ _ => True) expandRect

theorem joined_mergeDirtyRects (rects : List ClipRect) : Joined rects (mergeDirtyRects rects) :=
  (merges_mergeDirtyRects rects).mono fun _ _ _ => trivial

theorem joined_collapseDirtyRects (rects : List ClipRect) :
    Joined rects (collapseDirtyRects rects) := by
  cases rects with
  | nil => exact Relation.ReflTransGen.refl
  | cons r rects => exact merges_foldl expandRect r rects

theorem joined_keptDirtyRects (rects : List ClipRect) : Joined rects (keptDirtyRects rects) := by
  have hmerge : Joined rects
      (if rects.length = maxDirts then mergeDirtyRects rects else rects) := by
    split_ifs
    · exact joined_mergeDirtyRects rects
    · exact Relation.ReflTransGen.refl
  unfold keptDirtyRects
  dsimp only
  by_cases hfull : (if rects.length = maxDirts then mergeDirtyRects rects
      else rects).length = maxDirts
  · rw [if_pos hfull]
    exact hmerge.trans (joined_collapseDirtyRects _)
  · rw [if_neg hfull]
    exact hmerge

theorem joined_shrinkDirtyRects (n : Int32) (rects : List ClipRect) :
    Joined rects (shrinkDirtyRects n rects) := by
  unfold shrinkDirtyRects
  dsimp only
  split_ifs
  · exact (joined_mergeDirtyRects rects).trans (joined_collapseDirtyRects _)
  · exact joined_mergeDirtyRects rects

/-- There is room for the new rectangle: a list that is still full after merging is collapsed. -/
theorem length_keptDirtyRects {rects : List ClipRect} (h : rects.length ≤ maxDirts) :
    (keptDirtyRects rects).length < maxDirts := by
  have hmerge : (if rects.length = maxDirts then mergeDirtyRects rects
      else rects).length ≤ maxDirts := by
    split_ifs
    · exact (length_mergeDirtyRects rects).trans h
    · exact h
  unfold keptDirtyRects
  dsimp only
  generalize (if rects.length = maxDirts then mergeDirtyRects rects else rects) = merged at hmerge ⊢
  by_cases hfull : merged.length = maxDirts
  · rw [if_pos hfull]
    exact (length_collapseDirtyRects merged).trans_lt (by decide)
  · rw [if_neg hfull]
    exact lt_of_le_of_ne hmerge hfull

/-- A caller that offers at least one slot gets no more rectangles than it offers. -/
theorem length_shrinkDirtyRects_le {n : Int32} (hn : ¬ n < 1) (rects : List ClipRect) :
    ((shrinkDirtyRects n rects).length : ℤ) ≤ n.toInt := by
  have hone : 1 ≤ n.toInt := by
    have := Int32.le_iff_toInt_le.1 (Int32.not_lt.1 hn)
    simpa using this
  unfold shrinkDirtyRects
  dsimp only
  split_ifs with hmore
  · exact (Nat.cast_le.2 (length_collapseDirtyRects _)).trans hone
  · exact not_lt.1 hmore

/-! ### Corners -/

/-- The corners are in order. -/
structure ClipRect.IsOrdered (r : ClipRect) : Prop where
  x_le : r.x1 ≤ r.x2
  y_le : r.y1 ≤ r.y2

theorem isOrdered_expandRect {a b : ClipRect} (ha : a.IsOrdered) :
    (expandRect a b).IsOrdered := by
  have hbounds : ∀ {x y x' y' : UInt16}, x ≤ y → min x x' ≤ max y y' := by
    intro x y x' y' h
    rw [UInt16.le_iff_toNat_le] at h ⊢
    rw [UInt16.toNat_min, UInt16.toNat_max]
    exact (min_le_left _ _).trans (h.trans (le_max_left _ _))
  exact ⟨hbounds ha.x_le, hbounds ha.y_le⟩

/-- Clipping puts the corners in order first. -/
theorem isOrdered_sanitize (width height : UInt32) (r : ClipRect) :
    (framebufferSanitizeRect width height r).IsOrdered := by
  have hclip : ∀ (limit : UInt32) {x y : UInt16}, x ≤ y →
      clipCoordinate limit x ≤ clipCoordinate limit y := by
    intro limit x y hxy
    rw [UInt16.le_iff_toNat_le, toNat_clipCoordinate, toNat_clipCoordinate]
    exact min_le_min_right _ (UInt16.le_iff_toNat_le.1 hxy)
  have hswap : ∀ x y : UInt16, (if x > y then y else x) ≤ if x > y then x else y := by
    intro x y
    split_ifs with h
    · exact UInt16.le_of_lt h
    · exact UInt16.not_lt.1 h
  exact ⟨hclip width (hswap _ _), hclip height (hswap _ _)⟩

/-! ### The invariant -/

/-- No more rectangles than there are slots, all of them with their corners in order. -/
structure Painter.DirtsOk (p : Painter) : Prop where
  length_le : p.dirtyRects.length ≤ maxDirts
  ordered : ∀ r ∈ p.dirtyRects, r.IsOrdered

/-- Joining rectangles keeps the invariant. -/
theorem Painter.DirtsOk.joined {p q : Painter} (h : p.DirtsOk)
    (hq : Joined p.dirtyRects q.dirtyRects) : q.DirtsOk where
  length_le := hq.length_le.trans h.length_le
  ordered := hq.forall_mem (fun _ _ ha _ => isOrdered_expandRect ha) h.ordered

theorem Painter.DirtsOk.markDirty {p : Painter} (h : p.DirtsOk) (rect : ClipRect) :
    (p.markDirty rect).DirtsOk := by
  unfold Painter.markDirty
  cases p.scanoutFb with
  | none => exact h
  | some efb =>
    dsimp only
    refine ⟨?_, fun r hr => ?_⟩
    · rw [addDirtyRect_eq, List.length_append, List.length_singleton]
      exact length_keptDirtyRects h.length_le
    · rw [addDirtyRect_eq, List.mem_append, List.mem_singleton] at hr
      rcases hr with hr | rfl
      · exact (joined_keptDirtyRects _).forall_mem (fun _ _ ha _ => isOrdered_expandRect ha) h.ordered r hr
      · exact isOrdered_sanitize _ _ _

theorem Painter.Change.dirtsOk {p q : Painter} (h : p.Change q) (hp : p.DirtsOk) : q.DirtsOk := by
  cases h with
  | redraw h =>
    cases h with
    | keeps => exact hp
    | mark rect => exact hp.markDirty rect
    | swap fb => exact ⟨hp.length_le, hp.ordered⟩
  | shrink numRects _ => exact hp.joined (joined_shrinkDirtyRects numRects _)
  | grab _ => exact ⟨Nat.zero_le _, by simp⟩
  | connect _ _ _ => exact ⟨hp.length_le, hp.ordered⟩
  | disconnect _ => exact ⟨hp.length_le, hp.ordered⟩
  | ddcciResponse buffer length received => exact ⟨hp.length_le, hp.ordered⟩

/-- The rectangles of a painter are part of its core. -/
theorem dirtyRects_eq_of_core {p q : Painter} (h : p.core = q.core) :
    p.dirtyRects = q.dirtyRects :=
  show p.core.dirtyRects = q.core.dirtyRects by rw [h]

theorem dirtsOk_run {fgConsole : ℤ} {drm : DrmCore} {as : List System.Action} {s : System}
    (h : Run System.Step (System.init fgConsole drm) as s) {p : Painter}
    (hp : s.device.painter = some p) : p.DirtsOk := by
  refine System.painter_invariant (I := Painter.DirtsOk) (fun p q hcore hp => ?_)
    (fun p q hchange hp => hchange.dirtsOk hp) ⟨Nat.zero_le _, by simp [Painter.init]⟩ h hp
  exact hp.joined (dirtyRects_eq_of_core hcore ▸ Relation.ReflTransGen.refl)

/-! ### The results -/

/-- What a call reports that gets past its checks: the number of rectangles it found, after merging, and
as many are in its snapshot. -/
theorem numRects_grabpixLocked {cmd : GrabpixCmd} {d : Device} {p : Painter}
    (hp : d.painter = some p) (hmode : cmd.mode = grabpixModeDirty) (hnum : ¬ cmd.numRects < 1) :
    (painterGrabpixLocked cmd d).2.1.numRects =
      Int32.ofNat (shrinkDirtyRects cmd.numRects p.dirtyRects).length ∧
    ∀ g, (painterGrabpixLocked cmd d).2.2 = .ok g →
      g.dirtyRects = shrinkDirtyRects cmd.numRects p.dirtyRects := by
  rcases painterGrabpixLocked_cases cmd d with ⟨err, -, -, hm | hn | hnone⟩ | ⟨q, hq, hnone, heq⟩ |
    ⟨q, efb, cmd', hq, hfb, rfl, heq⟩
  · exact absurd hmode hm
  · exact absurd hn hnum
  · exact absurd (hp.symm.trans hnone) (by simp)
  · obtain rfl : p = q := Option.some.inj (hp.symm.trans hq)
    rw [heq]
    exact ⟨rfl, by simp⟩
  · obtain rfl : p = q := Option.some.inj (hp.symm.trans hq)
    rw [heq]
    refine ⟨rfl, ?_⟩
    rintro g ⟨⟩
    rfl

/-- A number of rectangles that the painter can hold fits the field of the command. -/
theorem toInt_ofNat_of_le {n : ℕ} (h : n ≤ maxDirts) : (Int32.ofNat n).toInt = n :=
  Int32.toInt_ofNat_of_lt (h.trans_lt (by decide))

/-- **The list of dirty rectangles is never overrun.** In every state of every run, with `p` the
painter:

* it holds between 0 and `MAX_DIRTS` rectangles, all of them with their corners in order;
* a mark writes the new rectangle behind the `kept` ones, at an index below `MAX_DIRTS`;
* merging and collapsing never empty a list;
* a `GRABPIX` call that gets past its checks reports at most as many rectangles as the caller offers and
  at most `MAX_DIRTS`, and has exactly those in its snapshot. -/
theorem dirty_list_capacity {fgConsole : ℤ} {drm : DrmCore} {as : List System.Action} {s : System}
    (h : Run System.Step (System.init fgConsole drm) as s) {p : Painter}
    (hp : s.device.painter = some p) :
    (0 ≤ p.numDirts ∧ p.numDirts ≤ maxDirts ∧ ∀ r ∈ p.dirtyRects, r.x1 ≤ r.x2 ∧ r.y1 ≤ r.y2) ∧
    (∀ rect efb, p.scanoutFb = some efb → ∃ kept, kept.length < maxDirts ∧
      (p.markDirty rect).dirtyRects =
        kept ++ [framebufferSanitizeRect efb.width efb.height rect]) ∧
    (∀ rects, rects ≠ [] → mergeDirtyRects rects ≠ [] ∧ collapseDirtyRects rects ≠ []) ∧
    (∀ cmd d' cmd' result, painterGrabpixLocked cmd s.device = (d', cmd', result) →
      cmd.mode = grabpixModeDirty → ¬ cmd.numRects < 1 →
      0 ≤ cmd'.numRects.toInt ∧ cmd'.numRects.toInt ≤ cmd.numRects.toInt ∧
        cmd'.numRects.toInt ≤ maxDirts ∧
        ∀ g, result = .ok g → (g.dirtyRects.length : ℤ) = cmd'.numRects.toInt) := by
  have hok := dirtsOk_run h hp
  refine ⟨⟨Int.natCast_nonneg _, Nat.cast_le.2 hok.length_le, fun r hr => ?_⟩,
    fun rect efb hfb => ?_, fun rects hne => ⟨by simpa, by simpa⟩, ?_⟩
  · exact ⟨(hok.ordered r hr).x_le, (hok.ordered r hr).y_le⟩
  · refine ⟨keptDirtyRects p.dirtyRects, length_keptDirtyRects hok.length_le, ?_⟩
    simp only [Painter.markDirty, hfb, addDirtyRect_eq]
  · intro cmd d' cmd' result heq hmode hnum
    obtain ⟨hcount, hsnapshot⟩ := numRects_grabpixLocked hp hmode hnum
    rw [heq] at hcount hsnapshot
    have hmax := (joined_shrinkDirtyRects cmd.numRects p.dirtyRects).length_le.trans hok.length_le
    have hcount' : cmd'.numRects.toInt = (shrinkDirtyRects cmd.numRects p.dirtyRects).length := by
      rw [show cmd'.numRects = _ from hcount, toInt_ofNat_of_le hmax]
    rw [hcount']
    refine ⟨Int.natCast_nonneg _, length_shrinkDirtyRects_le hnum _, Nat.cast_le.2 hmax, ?_⟩
    intro g hg
    rw [hsnapshot g hg]

/-- Seventeen marks of a dirty framebuffer, one more than there are slots. -/
theorem dirty_list_capacity_marks :
    let d := Device.init 0 (.init (.const true) (.const true))
    ∃ as s p, Run System.Step (System.init 0 d.drm) as s ∧ s.device.painter = some p ∧
      p.dirtyRects ≠ [] ∧ p.numDirts ≤ 16 := by
  intro d
  obtain ⟨as, hfb⟩ := System.run_thread
    (.setScanoutBuffer (some (.sample 1 64 64 256))) (System.init 0 d.drm)
  obtain ⟨bs, hmarks⟩ := System.run_thread (.userFramebufferDirty
    ((List.range 17).map fun i => ⟨.ofNat i, .ofNat i, .ofNat i + 1, .ofNat i + 1⟩)) _
  have hrun := hfb.append hmarks
  refine ⟨_, _, _, hrun, rfl, addDirtyRect_ne_nil _ _, ?_⟩
  exact (dirty_list_capacity hrun rfl).1.2.1

end Evdi
