import Mathlib.Tactic

/-!
# Merging entries of an unordered array

An array whose order does not matter is shrunk by replacing two entries `x`, `y` by one entry
above both and moving the last entry into the freed slot.  `Absorbs` describes one such step up to
the order of the entries, so that what a whole sequence of steps keeps (the points covered, a
property of all entries, non-emptiness) follows without looking at indices again.

`cover pts l` is the set of points covered by the entries of `l`, each covering `pts x`.

`Sweep` is the greedy way through such an array: each entry in turn absorbs entries behind it until it can
absorb none of those left.  What it guarantees is about the entries as they were given
(`Sweep.groups`); a sweep that absorbs nothing shows that nothing is left to absorb (`Sweep.pairwise`).
-/

namespace Absorption

variable {β P : Type*}

/-! ### Coverage -/

/-- The points covered by some entry. -/
def cover (pts : β → Set P) (l : List β) : Set P := {p | ∃ x ∈ l, p ∈ pts x}

variable {pts : β → Set P}

theorem mem_cover {l : List β} {p : P} : p ∈ cover pts l ↔ ∃ x ∈ l, p ∈ pts x := Iff.rfl

@[simp] theorem cover_nil : cover pts [] = ∅ := by
  ext p; simp [cover]

@[simp] theorem cover_cons (x : β) (l : List β) : cover pts (x :: l) = pts x ∪ cover pts l := by
  ext p; simp [cover]

@[simp] theorem cover_append (l m : List β) : cover pts (l ++ m) = cover pts l ∪ cover pts m := by
  induction l with
  | nil => simp
  | cons x l ih => simp [ih, Set.union_assoc]

theorem cover_perm {l m : List β} (h : l.Perm m) : cover pts l = cover pts m := by
  ext p; simp only [mem_cover, h.mem_iff]

/-! ### One step -/

/-- `m` is `l` with two entries related by `ok` replaced by their join, up to order. -/
def Absorbs (ok : β → β → Prop) (join : β → β → β) (l m : List β) : Prop :=
  ∃ x y rest, ok x y ∧ l.Perm (x :: y :: rest) ∧ m.Perm (join x y :: rest)

/-- Replace entry `a` by `j`, move the last entry into slot `b`, and shorten the array by one. -/
def absorbAt (l : List β) (a b : ℕ) (j : β) : List β :=
  match (l.set a j).getLast? with
  | some z => ((l.set a j).set b z).dropLast
  | none => []

theorem length_absorbAt (l : List β) (a b : ℕ) (j : β) :
    (absorbAt l a b j).length = l.length - 1 := by
  unfold absorbAt
  cases h : (l.set a j).getLast? with
  | none =>
    have hl : l = [] := by simpa using h
    simp [hl]
  | some z => simp

/-- The measure of a scan that starts over after each absorption. -/
theorem absorbAt_measure_lt (l : List β) {a b : ℕ} (c : ℕ) (j : β) (hb : b < l.length) :
    (absorbAt l a b j).length * (absorbAt l a b j).length + ((absorbAt l a b j).length - c) <
      l.length * l.length + (l.length - b) := by
  rw [length_absorbAt]
  obtain ⟨n, hn⟩ : ∃ n, l.length = n + 1 := ⟨l.length - 1, by omega⟩
  have hsq : (n + 1) * (n + 1) = n * n + (2 * n + 1) := by ring
  rw [hn, hsq, Nat.add_sub_cancel]
  omega

/-- Overwriting slot `b` by the last entry and dropping the last slot deletes entry `b`. -/
theorem set_last_dropLast_perm (l : List β) (z : β) {b : ℕ} (hb : b < (l ++ [z]).length) :
    (((l ++ [z]).set b z).dropLast).Perm ((l ++ [z]).eraseIdx b) := by
  rcases Nat.lt_or_ge b l.length with h | h
  · rw [List.set_append_left _ _ h, List.dropLast_concat, List.eraseIdx_append_of_lt_length h]
    have hset : (l.set b z).Perm (z :: l.eraseIdx b) := List.set_perm_cons_eraseIdx h z
    exact hset.trans (List.perm_append_singleton z _).symm
  · have hbl : b = l.length := by simp at hb; omega
    subst hbl
    simp [List.set_append_right, List.eraseIdx_append_of_length_le]

/-- The array surgery is an absorption step of the entries `a` and `b`. -/
theorem absorbs_absorbAt {ok : β → β → Prop} (join : β → β → β) {l : List β} {a b : ℕ}
    (hab : a < b) (hb : b < l.length) (h : ok l[a] l[b]) :
    Absorbs ok join l (absorbAt l a b (join l[a] l[b])) := by
  have ha : a < (l.eraseIdx b).length := by rw [List.length_eraseIdx_of_lt hb]; omega
  have hsplit : l.Perm (l[a] :: l[b] :: (l.eraseIdx b).eraseIdx a) := by
    have hl := (List.getElem_cons_eraseIdx_perm hb).symm
    have hl' := (List.getElem_cons_eraseIdx_perm ha).symm
    rw [List.getElem_eraseIdx_of_lt ha hab] at hl'
    exact hl.trans ((hl'.cons _).trans (List.Perm.swap _ _ _))
  refine ⟨l[a], l[b], (l.eraseIdx b).eraseIdx a, h, hsplit, ?_⟩
  generalize join l[a] l[b] = j
  have hset : ((l.set a j).eraseIdx b).Perm (j :: (l.eraseIdx b).eraseIdx a) := by
    rw [List.eraseIdx_set_gt hab]
    exact List.set_perm_cons_eraseIdx ha j
  -- the surgery on `l.set a j` only touches slot `b` and the last one
  obtain ⟨m, z, hm⟩ := (List.eq_nil_or_concat l).resolve_left (by rintro rfl; simp at hb)
  rw [List.concat_eq_append] at hm
  have ham : a < m.length := by rw [hm] at hb; simp at hb; omega
  have hlast : l.set a j = m.set a j ++ [z] := by rw [hm, List.set_append_left _ _ ham]
  simp only [absorbAt, hlast, List.getLast?_concat] at hset ⊢
  exact (set_last_dropLast_perm _ z (by rw [hm] at hb; simpa using hb)).trans hset

/-- The array surgery leaves what is before entry `a`, and of the entries behind it all but entry `b`. -/
theorem absorbAt_middle (front : List β) (x : β) {rest : List β} {k : ℕ} (hk : k < rest.length) (j : β) :
    ∃ rest', absorbAt (front ++ x :: rest) front.length (front.length + 1 + k) j = front ++ j :: rest' ∧
      rest'.Perm (rest.eraseIdx k) := by
  obtain ⟨m, z, rfl⟩ := (List.eq_nil_or_concat rest).resolve_left (by rintro rfl; simp at hk)
  rw [List.concat_eq_append] at hk ⊢
  refine ⟨((m ++ [z]).set k z).dropLast, ?_, set_last_dropLast_perm m z hk⟩
  have hlast : ((front ++ x :: (m ++ [z])).set front.length j).getLast? = some z := by
    rw [← List.cons_append, ← List.append_assoc, List.set_append_left _ _ (by simp)]
    exact List.getLast?_concat
  have hset : ((front ++ x :: (m ++ [z])).set front.length j).set (front.length + 1 + k) z =
      front ++ j :: (m ++ [z]).set k z := by
    rw [List.set_append_right _ _ le_rfl, Nat.sub_self, List.set_cons_zero,
      List.set_append_right _ _ (by omega), show front.length + 1 + k - front.length = k + 1 by omega,
      List.set_cons_succ]
  have hne : (m ++ [z]).set k z ≠ [] := by simp
  rw [absorbAt, hlast]
  dsimp only
  rw [hset, List.dropLast_append_of_ne_nil (by simp), List.dropLast_cons_of_ne_nil hne]

/-! ### What steps keep -/

variable {ok : β → β → Prop} {join : β → β → β} {l m : List β}

theorem Absorbs.length (h : Absorbs ok join l m) : l.length = m.length + 1 := by
  obtain ⟨x, y, rest, -, hl, hm⟩ := h
  rw [hl.length_eq, hm.length_eq]; rfl

/-- If the join covers what both entries cover, a step loses no point. -/
theorem Absorbs.cover_subset (hj : ∀ x y, pts x ∪ pts y ⊆ pts (join x y))
    (h : Absorbs ok join l m) : cover pts l ⊆ cover pts m := by
  obtain ⟨x, y, rest, -, hl, hm⟩ := h
  rw [cover_perm hl, cover_perm hm, cover_cons, cover_cons, cover_cons, ← Set.union_assoc]
  exact Set.union_subset_union_left _ (hj x y)

/-- A property of all entries that the join keeps is kept. -/
theorem Absorbs.forall_mem {Q : β → Prop} (hj : ∀ x y, Q x → Q y → Q (join x y))
    (h : Absorbs ok join l m) (hl : ∀ x ∈ l, Q x) : ∀ x ∈ m, Q x := by
  obtain ⟨x, y, rest, -, hperm, hm⟩ := h
  intro z hz
  have hmem : ∀ w, w ∈ x :: y :: rest → Q w := fun w hw => hl w (hperm.mem_iff.2 hw)
  rcases List.mem_cons.1 (hm.mem_iff.1 hz) with rfl | hz
  · exact hj x y (hmem x (by simp)) (hmem y (by simp))
  · exact hmem z (by simp [hz])

/-- Any number of steps. -/
def Merges (ok : β → β → Prop) (join : β → β → β) : List β → List β → Prop :=
  Relation.ReflTransGen (Absorbs ok join)

theorem Merges.cover_subset (hj : ∀ x y, pts x ∪ pts y ⊆ pts (join x y))
    (h : Merges ok join l m) : cover pts l ⊆ cover pts m := by
  induction h with
  | refl => exact subset_rfl
  | tail _ hs ih => exact ih.trans (hs.cover_subset hj)

theorem Merges.forall_mem {Q : β → Prop} (hj : ∀ x y, Q x → Q y → Q (join x y))
    (h : Merges ok join l m) (hl : ∀ x ∈ l, Q x) : ∀ x ∈ m, Q x := by
  induction h with
  | refl => exact hl
  | tail _ hs ih => exact hs.forall_mem hj ih

/-- A property that a join has exactly when both entries have it holds of all entries after exactly when
it does before. -/
theorem Merges.forall_mem_iff {Q : β → Prop} (hj : ∀ x y, Q (join x y) ↔ Q x ∧ Q y)
    (h : Merges ok join l m) : (∀ x ∈ m, Q x) ↔ ∀ x ∈ l, Q x := by
  refine ⟨fun hm => ?_, h.forall_mem fun x y hx hy => (hj x y).2 ⟨hx, hy⟩⟩
  induction h with
  | refl => exact hm
  | tail _ hs ih =>
    refine ih fun z hz => ?_
    obtain ⟨x, y, rest, -, hl, hperm⟩ := hs
    have hjoin := (hj x y).1 (hm _ (hperm.mem_iff.2 (by simp)))
    rcases List.mem_cons.1 (hl.mem_iff.1 hz) with rfl | hz
    · exact hjoin.1
    rcases List.mem_cons.1 hz with rfl | hz
    · exact hjoin.2
    · exact hm z (hperm.mem_iff.2 (by simp [hz]))

/-- If the joins that are made weigh no more than their two entries, no weight is added. -/
theorem Absorbs.sum_le {M : Type*} [AddCommMonoid M] [PartialOrder M] [IsOrderedAddMonoid M] {w : β → M}
    {Q : β → Prop} (hw : ∀ x y, Q x → Q y → ok x y → w (join x y) ≤ w x + w y)
    (h : Absorbs ok join l m) (hl : ∀ x ∈ l, Q x) : (m.map w).sum ≤ (l.map w).sum := by
  obtain ⟨x, y, rest, hxy, hperm, hm⟩ := h
  rw [(hperm.map w).sum_eq, (hm.map w).sum_eq]
  simp only [List.map_cons, List.sum_cons, ← add_assoc]
  exact add_le_add_left (hw x y (hl x (hperm.mem_iff.2 (by simp))) (hl y (hperm.mem_iff.2 (by simp))) hxy) _

theorem Merges.sum_le {M : Type*} [AddCommMonoid M] [PartialOrder M] [IsOrderedAddMonoid M] {w : β → M}
    {Q : β → Prop} (hw : ∀ x y, Q x → Q y → ok x y → w (join x y) ≤ w x + w y)
    (hj : ∀ x y, Q x → Q y → Q (join x y)) (h : Merges ok join l m) (hl : ∀ x ∈ l, Q x) :
    (m.map w).sum ≤ (l.map w).sum := by
  induction h with
  | refl => exact le_rfl
  | tail hrun hs ih => exact (hs.sum_le hw (Merges.forall_mem hj hrun hl)).trans ih

/-- A measure of which the join has the lesser has the same least value after a step. -/
theorem Absorbs.isLeast_iff {γ : Type*} [LinearOrder γ] {f : β → γ}
    (hf : ∀ x y, f (join x y) = min (f x) (f y)) (h : Absorbs ok join l m) (b : γ) :
    IsLeast (f '' {x | x ∈ m}) b ↔ IsLeast (f '' {x | x ∈ l}) b := by
  obtain ⟨x, y, rest, -, hl, hm⟩ := h
  have hleast : ∀ s : List β, IsLeast (f '' {z | z ∈ s}) b ↔
      (∃ z ∈ s, f z = b) ∧ ∀ z ∈ s, b ≤ f z := by
    intro s
    simp [IsLeast, lowerBounds]
  rw [hleast, hleast]
  simp only [hl.mem_iff, hm.mem_iff, List.mem_cons, exists_eq_or_imp, forall_eq_or_imp, hf, le_min_iff]
  constructor
  · rintro ⟨hmin | hrest, ⟨hx, hy⟩, hb⟩
    · rcases min_choice (f x) (f y) with hxy | hxy
      · exact ⟨.inl (hxy ▸ hmin), hx, hy, hb⟩
      · exact ⟨.inr (.inl (hxy ▸ hmin)), hx, hy, hb⟩
    · exact ⟨.inr (.inr hrest), hx, hy, hb⟩
  · rintro ⟨rfl | rfl | hrest, hx, hy, hb⟩
    · exact ⟨.inl (min_eq_left hy), ⟨hx, hy⟩, hb⟩
    · exact ⟨.inl (min_eq_right hx), ⟨hx, hy⟩, hb⟩
    · exact ⟨.inr hrest, ⟨hx, hy⟩, hb⟩

theorem Merges.isLeast_iff {γ : Type*} [LinearOrder γ] {f : β → γ}
    (hf : ∀ x y, f (join x y) = min (f x) (f y)) (h : Merges ok join l m) (b : γ) :
    IsLeast (f '' {x | x ∈ m}) b ↔ IsLeast (f '' {x | x ∈ l}) b := by
  induction h with
  | refl => exact Iff.rfl
  | tail _ hs ih => exact (hs.isLeast_iff hf b).trans ih

/-- The same of the greater and the greatest. -/
theorem Merges.isGreatest_iff {γ : Type*} [LinearOrder γ] {f : β → γ}
    (hf : ∀ x y, f (join x y) = max (f x) (f y)) (h : Merges ok join l m) (b : γ) :
    IsGreatest (f '' {x | x ∈ m}) b ↔ IsGreatest (f '' {x | x ∈ l}) b :=
  Merges.isLeast_iff (γ := γᵒᵈ) hf h b

/-- Which entries may be joined does not matter to what was joined. -/
theorem Merges.mono {ok' : β → β → Prop} (hok : ∀ x y, ok x y → ok' x y) (h : Merges ok join l m) :
    Merges ok' join l m := by
  induction h with
  | refl => exact Relation.ReflTransGen.refl
  | tail _ hs ih =>
    obtain ⟨x, y, rest, hxy, hl, hm⟩ := hs
    exact ih.tail ⟨x, y, rest, hok x y hxy, hl, hm⟩

theorem Merges.length_le (h : Merges ok join l m) : m.length ≤ l.length := by
  induction h with
  | refl => exact le_rfl
  | tail _ hs ih => have := hs.length; omega

/-- Merging never empties a list, and never fills an empty one. -/
theorem Merges.eq_nil_iff (h : Merges ok join l m) : m = [] ↔ l = [] := by
  induction h with
  | refl => rfl
  | tail _ hs ih =>
    rw [← ih]
    obtain ⟨x, y, rest, -, hl, hm⟩ := hs
    constructor
    · rintro rfl; simpa using hm.length_eq
    · rintro rfl; simpa using hl.length_eq

/-- Joining the first entry with all the others in turn is a sequence of steps. -/
theorem merges_foldl (join : β → β → β) (x : β) (l : List β) :
    Merges (fun _ _ => True) join (x :: l) [l.foldl join x] := by
  induction l generalizing x with
  | nil => exact Relation.ReflTransGen.refl
  | cons y l ih => exact (ih (join x y)).head ⟨x, y, l, trivial, .refl _, .refl _⟩

/-! ### Sweeps -/

/-- What is left of `l` when each entry in turn has absorbed the entries `taken` behind it, in any order,
and can absorb none of the others. -/
inductive Sweep (ok : β → β → Prop) (join : β → β → β) : List β → List β → Prop
  | nil : Sweep ok join [] []
  | cons {x : β} {rest taken kept m : List β} : (taken ++ kept).Perm rest →
      (∀ y ∈ kept, ¬ ok (taken.foldl join x) y) → Sweep ok join kept m →
      Sweep ok join (x :: rest) (taken.foldl join x :: m)

/-- The entries fall into groups, one for each that is left; none of these could absorb any entry of a
later group. -/
theorem Sweep.groups (h : Sweep ok join l m) : ∃ groups : List (β × List β),
    m = groups.map (fun g => g.2.foldl join g.1) ∧ (groups.flatMap fun g => g.1 :: g.2).Perm l ∧
      groups.Pairwise fun g g' => ∀ y ∈ g'.1 :: g'.2, ¬ ok (g.2.foldl join g.1) y := by
  induction h with
  | nil => exact ⟨[], rfl, .nil, .nil⟩
  | @cons x rest taken kept m hperm hkept _ ih =>
    obtain ⟨groups, rfl, hgroups, hpairwise⟩ := ih
    refine ⟨(x, taken) :: groups, rfl, ?_, List.pairwise_cons.2 ⟨fun g hg y hy => ?_, hpairwise⟩⟩
    · exact ((hgroups.append_left taken).trans hperm).cons x
    · exact hkept y (hgroups.mem_iff.1 (List.mem_flatMap.2 ⟨g, hg, hy⟩))

theorem Sweep.length_le (h : Sweep ok join l m) : m.length ≤ l.length := by
  induction h with
  | nil => exact le_rfl
  | cons hperm _ _ ih =>
    have hlength := hperm.length_eq
    rw [List.length_append] at hlength
    simp only [List.length_cons]
    omega

/-- A sweep that absorbs nothing. -/
theorem Sweep.pairwise (h : Sweep ok join l m) (hlength : m.length = l.length) :
    m.Perm l ∧ m.Pairwise fun x y => ¬ ok x y := by
  induction h with
  | nil => exact ⟨.nil, .nil⟩
  | @cons x rest taken kept m hperm hkept hsweep ih =>
    have hcount := hperm.length_eq
    have hle := hsweep.length_le
    rw [List.length_append] at hcount
    simp only [List.length_cons, Nat.add_right_cancel_iff] at hlength
    obtain rfl : taken = [] := List.eq_nil_of_length_eq_zero (by omega)
    obtain ⟨hm, hpairwise⟩ := ih (by omega)
    exact ⟨(hm.trans hperm).cons x,
      List.pairwise_cons.2 ⟨fun y hy => hkept y (hm.mem_iff.1 hy), hpairwise⟩⟩

end Absorption
