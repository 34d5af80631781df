import Evdi.Properties.Merging

/-!
# What one merge leaves to merge

`merge_dirty_rects` takes its rectangles in order: each absorbs rectangles behind it, from the first again
after each, until it can absorb none.  It does not come back to a rectangle whose later neighbours have
grown since.

* `ClipRect.Apart`: the bounding rectangle of two is more pixels than the two;
* `sweep_mergeDirtyRects`: the two loops are a sweep;
* `mergeDirtyRects_eq_self`: merging changes nothing exactly when no rectangle can absorb a later one;
* `merged_groups_apart`: the result;
* `merged_again`: a list that the second merge makes shorter.
-/

namespace Evdi

open Absorption

/-- Joining the two would add pixels. -/
def ClipRect.Apart (a b : ClipRect) : Prop := a.area + b.area < (expandRect a b).area

instance (a b : ClipRect) : Decidable (a.Apart b) := inferInstanceAs (Decidable (_ < _))

/-- On a screen the test of `merge_dirty_rects` is exact. -/
theorem not_mergeable_iff {a b : ClipRect} (ha : a.OnScreen) (hb : b.OnScreen) :
    ¬ Mergeable a b ↔ a.Apart b := by
  have hexact := testExact (t := (a, b)) ha hb
  rw [Mergeable, hexact.bounding, hexact.sum, not_le, ClipRect.Apart]

/-! ### The loops -/

theorem getElem_behind (front : List ClipRect) (x : ClipRect) {rest : List ClipRect} {k : ℕ}
    (h : front.length + 1 + k < (front ++ x :: rest).length) :
    ∃ hk : k < rest.length, (front ++ x :: rest)[front.length + 1 + k] = rest[k] := by
  refine ⟨?_, ?_⟩
  · simp only [List.length_append, List.length_cons] at h
    omega
  · simp [List.getElem_append_right, Nat.add_assoc, Nat.add_comm 1 k]

/-- The inner loop at `b`, where `x` is entry `a` and cannot absorb the `k` rectangles between. -/
theorem mergeInner_spec (front : List ClipRect) {rects : List ClipRect} {b : ℕ} {x : ClipRect}
    {rest : List ClipRect} {k : ℕ} (hrects : rects = front ++ x :: rest) (hb : b = front.length + 1 + k)
    (htested : ∀ y ∈ rest.take k, ¬ Mergeable x y) :
    ∃ taken kept, mergeInner rects front.length b = front ++ taken.foldl expandRect x :: kept ∧
      (taken ++ kept).Perm rest ∧ ∀ y ∈ kept, ¬ Mergeable (taken.foldl expandRect x) y := by
  induction rects, b using mergeInner.induct (a := front.length) generalizing x rest k with
  | case1 rects b h hm ih =>
    subst hrects hb
    obtain ⟨hk, hy⟩ := getElem_behind front x h.2
    have hlt : front.length < (front ++ x :: rest).length := h.1.trans h.2
    have hx : (front ++ x :: rest)[front.length] = x := by simp
    rw [mergeInner, dif_pos h, if_pos hm]
    simp only [hx, hy] at ih ⊢
    -- the walk starts over, on the rectangles without the one absorbed
    obtain ⟨rest', habsorb, hperm⟩ := absorbAt_middle front x hk (expandRect x rest[k])
    obtain ⟨taken, kept, heq, htaken, hkept⟩ := ih (k := 0) habsorb rfl (by simp)
    refine ⟨rest[k] :: taken, kept, heq, ?_, hkept⟩
    exact ((htaken.trans hperm).cons _).trans (List.getElem_cons_eraseIdx_perm hk)
  | case2 rects b h hm ih =>
    subst hrects hb
    obtain ⟨hk, hy⟩ := getElem_behind front x h.2
    have hlt : front.length < (front ++ x :: rest).length := h.1.trans h.2
    have hx : (front ++ x :: rest)[front.length] = x := by simp
    rw [mergeInner, dif_pos h, if_neg hm]
    rw [hx, hy] at hm
    refine ih (k := k + 1) rfl rfl fun y hy => ?_
    rw [List.take_succ_eq_append_getElem hk, List.mem_append, List.mem_singleton] at hy
    rcases hy with hy | rfl
    · exact htested y hy
    · exact hm
  | case3 rects b h =>
    subst hrects hb
    have hk : rest.length ≤ k := by
      by_contra hk
      exact h ⟨by omega, by simp only [List.length_append, List.length_cons]; omega⟩
    rw [mergeInner, dif_neg h]
    refine ⟨[], rest, rfl, .refl rest, ?_⟩
    rwa [List.take_of_length_le hk] at htested

/-- The outer loop behind the rectangles it is done with. -/
theorem sweep_mergeOuter (front rest : List ClipRect) :
    ∃ merged, mergeOuter (front ++ rest) front.length = front ++ merged ∧
      Sweep Mergeable expandRect rest merged := by
  induction hn : rest.length using Nat.strong_induction_on generalizing front rest with
  | _ n ih =>
    cases rest with
    | nil => exact ⟨[], by rw [mergeOuter, if_neg (by simp)], .nil⟩
    | cons x rest =>
      by_cases hlast : rest = []
      · subst hlast
        have hsweep : Sweep Mergeable expandRect [x] ([].foldl expandRect x :: []) :=
          .cons .nil (by simp) .nil
        exact ⟨[x], by rw [mergeOuter, if_neg (by simp)], hsweep⟩
      · have hpos : 0 < rest.length := List.length_pos_of_ne_nil hlast
        obtain ⟨taken, kept, heq, hperm, hkept⟩ :=
          mergeInner_spec front (Eq.refl (front ++ x :: rest)) (k := 0) rfl (by simp)
        have hlength := hperm.length_eq
        simp only [List.length_append, List.length_cons] at hlength hn
        obtain ⟨merged, hmerged, hsweep⟩ :=
          ih kept.length (by omega) (front ++ [taken.foldl expandRect x]) kept rfl
        refine ⟨taken.foldl expandRect x :: merged, ?_, .cons hperm hkept hsweep⟩
        rw [mergeOuter, if_pos (by simp only [List.length_append, List.length_cons]; omega)]
        simp only [Nat.add_zero] at heq
        simpa [heq] using hmerged

theorem sweep_mergeDirtyRects (rects : List ClipRect) :
    Sweep Mergeable expandRect rects (mergeDirtyRects rects) := by
  obtain ⟨merged, heq, hsweep⟩ := sweep_mergeOuter [] rects
  rw [mergeDirtyRects]
  simp only [List.nil_append, List.length_nil] at heq
  rwa [heq]

/-! ### Merging again -/

section

variable {rects : List ClipRect}

theorem mergeInner_eq_self (h : rects.Pairwise fun x y => ¬ Mergeable x y) (a b : ℕ) :
    mergeInner rects a b = rects := by
  induction rects, b using mergeInner.induct (a := a) with
  | case1 rects b hb hm _ => exact absurd hm (List.pairwise_iff_getElem.1 h a b _ hb.2 hb.1)
  | case2 rects b hb hm ih => rw [mergeInner, dif_pos hb, if_neg hm, ih h]
  | case3 rects b hb => rw [mergeInner, dif_neg hb]

theorem mergeOuter_eq_self (h : rects.Pairwise fun x y => ¬ Mergeable x y) (a : ℕ) :
    mergeOuter rects a = rects := by
  induction rects, a using mergeOuter.induct with
  | case1 rects a ha ih =>
    rw [mergeInner_eq_self h] at ih
    rw [mergeOuter, if_pos ha, mergeInner_eq_self h, ih h]
  | case2 rects a ha => rw [mergeOuter, if_neg ha]

/-- A list that merging does not make shorter has nothing left to merge afterwards. -/
theorem pairwise_of_length (h : (mergeDirtyRects rects).length = rects.length) :
    (mergeDirtyRects rects).Pairwise fun x y => ¬ Mergeable x y :=
  ((sweep_mergeDirtyRects rects).pairwise h).2

theorem mergeDirtyRects_eq_self :
    mergeDirtyRects rects = rects ↔ rects.Pairwise fun x y => ¬ Mergeable x y := by
  refine ⟨fun h => ?_, fun h => mergeOuter_eq_self h 0⟩
  have hpairwise := pairwise_of_length (congrArg List.length h)
  rwa [h] at hpairwise

/-- Each merge but the last leaves fewer rectangles. -/
theorem pairwise_iterate {n : ℕ} (hn : rects.length ≤ n) :
    (mergeDirtyRects^[n] rects).Pairwise fun x y => ¬ Mergeable x y := by
  induction n generalizing rects with
  | zero =>
    obtain rfl : rects = [] := List.eq_nil_of_length_eq_zero (by omega)
    exact .nil
  | succ n ih =>
    rw [Function.iterate_succ_apply]
    rcases (length_mergeDirtyRects rects).lt_or_eq with hlt | heq
    · exact ih (by omega)
    · have hpairwise := pairwise_of_length heq
      rwa [Function.iterate_fixed (mergeDirtyRects_eq_self.2 hpairwise)]

/-- On a screen, in terms of areas. -/
theorem pairwise_apart_iff (h : ∀ r ∈ rects, r.OnScreen) :
    (rects.Pairwise fun x y => ¬ Mergeable x y) ↔ rects.Pairwise ClipRect.Apart :=
  List.Pairwise.iff_of_mem fun hx hy => not_mergeable_iff (h _ hx) (h _ hy)

theorem onScreen_mergeDirtyRects (h : ∀ r ∈ rects, r.OnScreen) :
    ∀ r ∈ mergeDirtyRects rects, r.OnScreen :=
  (merges_mergeDirtyRects rects).forall_mem (fun _ _ => onScreen_expandRect) h

theorem onScreen_iterate (h : ∀ r ∈ rects, r.OnScreen) (n : ℕ) :
    ∀ r ∈ mergeDirtyRects^[n] rects, r.OnScreen := by
  induction n generalizing rects with
  | zero => exact h
  | succ n ih => exact ih (onScreen_mergeDirtyRects h)

end

/-! ### The result -/

/-- **What a merge leaves.** The rectangles of a screen fall into groups: the merged list has the bounding
rectangle of each, and none of these could be joined with a rectangle of a later group without adding
pixels.  A second merge changes nothing exactly when no two of the merged rectangles could be joined
either; this is reached by merging as often as there are rectangles. -/
theorem merged_groups_apart {rects : List ClipRect} (h : ∀ r ∈ rects, r.OnScreen) :
    (∃ groups : List (List ClipRect × ClipRect), mergeDirtyRects rects = groups.map Prod.snd ∧
      (groups.flatMap Prod.fst).Perm rects ∧ (∀ g ∈ groups, IsBounding g.1 g.2) ∧
      groups.Pairwise fun g g' => ∀ r ∈ g'.1, g.2.Apart r) ∧
    (mergeDirtyRects (mergeDirtyRects rects) = mergeDirtyRects rects ↔
      (mergeDirtyRects rects).Pairwise ClipRect.Apart) ∧
    ∀ n, rects.length ≤ n → (mergeDirtyRects^[n] rects).Pairwise ClipRect.Apart ∧
      mergeDirtyRects (mergeDirtyRects^[n] rects) = mergeDirtyRects^[n] rects := by
  have hscreen := onScreen_mergeDirtyRects h
  refine ⟨?_, ?_, fun n hn => ⟨?_, mergeDirtyRects_eq_self.2 (pairwise_iterate hn)⟩⟩
  · obtain ⟨groups, heq, hperm, hpairwise⟩ := (sweep_mergeDirtyRects rects).groups
    refine ⟨groups.map fun g => (g.1 :: g.2, g.2.foldl expandRect g.1), ?_, ?_, ?_, ?_⟩
    · simpa [Function.comp_def] using heq
    · simpa [List.flatMap_map] using hperm
    · simp only [List.forall_mem_map]
      exact fun g _ => isBounding_collapse g.1 g.2
    · rw [List.pairwise_map]
      refine hpairwise.imp_of_mem fun {g g'} hg hg' hapart r hr => ?_
      have hjoined : (g.2.foldl expandRect g.1).OnScreen :=
        hscreen _ (heq ▸ List.mem_map_of_mem hg)
      have hgiven : r.OnScreen := h r (hperm.mem_iff.1 (List.mem_flatMap.2 ⟨g', hg', hr⟩))
      exact (not_mergeable_iff hjoined hgiven).1 (hapart r hr)
  · rw [mergeDirtyRects_eq_self, pairwise_apart_iff hscreen]
  · exact (pairwise_apart_iff (onScreen_iterate h n)).1 (pairwise_iterate hn)

/-- Two rectangles that cover a square but for one corner, and that corner before them. -/
def cornerRects : List ClipRect := [⟨9, 9, 10, 10⟩, ⟨0, 0, 10, 9⟩, ⟨0, 0, 9, 10⟩]

theorem onScreen_cornerRects : ∀ r ∈ cornerRects, r.OnScreen := by decide

theorem merged_groups_apart_corner :
    (mergeDirtyRects^[3] cornerRects).Pairwise ClipRect.Apart :=
  ((merged_groups_apart onScreen_cornerRects).2.2 3 le_rfl).1

/-- The corner could be joined with neither of the two, but lies in the square that they become after it:
the merged list has two rectangles of which one would do, and the second merge finds it. -/
theorem merged_again : (∀ r ∈ cornerRects, r.OnScreen) ∧
    mergeDirtyRects cornerRects = [⟨9, 9, 10, 10⟩, ⟨0, 0, 10, 10⟩] ∧
    ¬ (mergeDirtyRects cornerRects).Pairwise ClipRect.Apart ∧
    mergeDirtyRects (mergeDirtyRects cornerRects) = [⟨0, 0, 10, 10⟩] := by
  have hmerged : mergeDirtyRects cornerRects = [⟨9, 9, 10, 10⟩, ⟨0, 0, 10, 10⟩] := by decide +kernel
  refine ⟨onScreen_cornerRects, hmerged, ?_, ?_⟩
  · rw [hmerged]
    decide
  · rw [hmerged]
    decide +kernel

end Evdi
