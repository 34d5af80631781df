import Mathlib.Tactic

/-!
# Reference counts

Objects that are made with one reference, and go with their last one.  Who holds the references is a
multiset of objects.

* `RefTable`: the counts, and the objects that are gone;
* `RefTable.alloc`, `RefTable.get`, `RefTable.put`: the operations;
* `RefTable.Sound`: the counts are those of the holders, and an object is gone when nobody holds it;
* `Sound.alloc`, `Sound.get`, `Sound.put`: each operation, with what its caller holds before and after.
-/

/-- Reference counts.  Objects are numbered in the order in which they are made. -/
structure RefTable where
  count : ℕ → ℕ
  next : ℕ
  gone : List ℕ

namespace RefTable

/-- No object was made. -/
def empty : RefTable := ⟨fun _ => 0, 0, []⟩

/-- Make an object. -/
def alloc (t : RefTable) : RefTable :=
  { t with count := Function.update t.count t.next 1, next := t.next + 1 }

/-- Take a reference. -/
def get (t : RefTable) (i : ℕ) : RefTable :=
  { t with count := Function.update t.count i (t.count i + 1) }

/-- Drop a reference: true when it was the last one. -/
def put (t : RefTable) (i : ℕ) : RefTable × Bool :=
  if t.count i = 1 then ({ t with count := Function.update t.count i 0, gone := t.gone ++ [i] }, true)
  else ({ t with count := Function.update t.count i (t.count i - 1) }, false)

/-- The objects that are still there. -/
def live (t : RefTable) : Finset ℕ := (Finset.range t.next).filter (0 < t.count ·)

theorem mem_live {t : RefTable} {i : ℕ} : i ∈ t.live ↔ i < t.next ∧ 0 < t.count i := by
  simp [live]

/-- The references are held by `held`; an object that nobody holds is gone, once. -/
structure Sound (t : RefTable) (held : Multiset ℕ) : Prop where
  count_eq : ∀ i, t.count i = held.count i
  lt_next : ∀ i ∈ held, i < t.next
  mem_gone : ∀ i, i ∈ t.gone ↔ i < t.next ∧ t.count i = 0
  gone_nodup : t.gone.Nodup

variable {t : RefTable} {held : Multiset ℕ} {i : ℕ}

theorem sound_empty : empty.Sound 0 where
  count_eq _ := by simp [empty]
  lt_next := by simp
  mem_gone := by simp [empty]
  gone_nodup := List.nodup_nil

/-- What is held is there. -/
theorem Sound.mem_live (h : t.Sound held) : i ∈ t.live ↔ i ∈ held := by
  rw [RefTable.mem_live, h.count_eq, Multiset.count_pos]
  exact ⟨fun hi => hi.2, fun hi => ⟨h.lt_next i hi, hi⟩⟩

/-- What is there is what is held. -/
theorem Sound.live_eq (h : t.Sound held) : t.live = held.toFinset := by
  ext i
  rw [h.mem_live, Multiset.mem_toFinset]

/-- What is held is not gone. -/
theorem Sound.not_gone (h : t.Sound held) (hi : i ∈ held) : i ∉ t.gone := by
  rw [h.mem_gone, h.count_eq]
  exact fun hgone => absurd (Multiset.count_eq_zero.1 hgone.2) (not_not.2 hi)

/-- What was made and is not held is gone. -/
theorem Sound.gone (h : t.Sound held) (hi : i < t.next) (hnot : i ∉ held) : i ∈ t.gone := by
  rw [h.mem_gone, h.count_eq]
  exact ⟨hi, Multiset.count_eq_zero.2 hnot⟩

/-- **Making** an object leaves its maker with a reference. -/
theorem Sound.alloc (h : t.Sound held) : t.alloc.Sound (t.next ::ₘ held) := by
  have hnew : t.next ∉ held := fun hmem => absurd (h.lt_next _ hmem) (lt_irrefl _)
  have hgone : t.next ∉ t.gone := fun hmem => absurd ((h.mem_gone _).1 hmem).1 (lt_irrefl _)
  refine ⟨fun i => ?_, fun i hi => ?_, fun i => ?_, h.gone_nodup⟩
  · by_cases hi : i = t.next
    · subst hi
      simp [RefTable.alloc, Multiset.count_eq_zero.2 hnew]
    · simp [RefTable.alloc, hi, h.count_eq]
  · rcases Multiset.mem_cons.1 hi with rfl | hi
    · exact Nat.lt_succ_self _
    · exact Nat.lt_succ_of_lt (h.lt_next i hi)
  · by_cases hi : i = t.next
    · subst hi
      simp [RefTable.alloc, hgone]
    · simp only [RefTable.alloc, Function.update_of_ne hi, h.mem_gone]
      have hlt : i < t.next + 1 ↔ i < t.next := by omega
      rw [hlt]

/-- **A new reference** to what somebody holds. -/
theorem Sound.get (h : t.Sound held) (hi : i ∈ held) : (t.get i).Sound (i ::ₘ held) := by
  have hpos : 0 < t.count i := by
    rw [h.count_eq]
    exact Multiset.count_pos.2 hi
  refine ⟨fun j => ?_, fun j hj => ?_, fun j => ?_, h.gone_nodup⟩
  · by_cases hj : j = i
    · subst hj
      simp [RefTable.get, h.count_eq]
    · simp [RefTable.get, hj, h.count_eq]
  · rcases Multiset.mem_cons.1 hj with rfl | hj
    · exact h.lt_next _ hi
    · exact h.lt_next _ hj
  · by_cases hj : j = i
    · subst hj
      have hnot : j ∉ t.gone := h.not_gone hi
      simp [RefTable.get, hnot]
    · simpa [RefTable.get, hj] using h.mem_gone j

/-- **Dropping** a reference, when no other is left and the object goes. -/
theorem Sound.put_last (h : t.Sound (i ::ₘ held)) (hi : i ∉ held) :
    (t.put i).2 = true ∧ (t.put i).1.Sound held := by
  have hone : t.count i = 1 := by
    rw [h.count_eq, Multiset.count_cons_self, Multiset.count_eq_zero.2 hi]
  have hnot : i ∉ t.gone := h.not_gone (Multiset.mem_cons_self _ _)
  rw [RefTable.put, if_pos hone]
  refine ⟨rfl, fun j => ?_, fun j hj => h.lt_next j (Multiset.mem_cons_of_mem hj), fun j => ?_, ?_⟩
  · by_cases hj : j = i
    · subst hj
      simp [Multiset.count_eq_zero.2 hi]
    · simp [hj, h.count_eq]
  · by_cases hj : j = i
    · subst hj
      simp [h.lt_next j (Multiset.mem_cons_self _ _)]
    · simpa [hj] using h.mem_gone j
  · exact List.Nodup.append h.gone_nodup (List.nodup_singleton i) (by simpa using hnot)

/-- **Dropping** a reference, when others are left. -/
theorem Sound.put_more (h : t.Sound (i ::ₘ held)) (hi : i ∈ held) :
    (t.put i).2 = false ∧ (t.put i).1.Sound held := by
  have hcount : t.count i = held.count i + 1 := by rw [h.count_eq, Multiset.count_cons_self]
  have hpos : 0 < held.count i := Multiset.count_pos.2 hi
  have hne : ¬ t.count i = 1 := by omega
  have hnot : i ∉ t.gone := h.not_gone (Multiset.mem_cons_self _ _)
  rw [RefTable.put, if_neg hne]
  refine ⟨rfl, fun j => ?_, fun j hj => h.lt_next j (Multiset.mem_cons_of_mem hj), fun j => ?_,
    h.gone_nodup⟩
  · by_cases hj : j = i
    · subst hj
      simp [hcount]
    · simp [hj, h.count_eq]
  · by_cases hj : j = i
    · subst hj
      have hleft : t.count j - 1 ≠ 0 := by omega
      simp [hnot, hleft]
    · simpa [hj] using h.mem_gone j

theorem Sound.put (h : t.Sound (i ::ₘ held)) : (t.put i).1.Sound held := by
  by_cases hi : i ∈ held
  · exact (h.put_more hi).2
  · exact (h.put_last hi).2

end RefTable
