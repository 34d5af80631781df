import Mathlib.Tactic

/-!
# Allocated and freed

What a program does with its memory, as far as it can go wrong: the objects that it has allocated and
freed, and the accesses that it makes to `NULL` or to an object that is not there, or not any more.
An object keeps its name for ever.

* `Heap.alloc`, `Heap.touch`, `Heap.free`: the operations;
* `Heap.Sound`: nothing was freed twice or used after it was freed;
* `Heap.touch_live`, `Heap.free_live`: what the operations do with an object that is there.
-/

namespace Allocation

/-- The objects allocated, the objects freed, and the accesses that found none. -/
structure Heap (ι : Type*) where
  allocated : List ι
  freed : List ι
  faults : List (Option ι)

namespace Heap

variable {ι : Type*}

/-- Nothing was allocated. -/
def empty : Heap ι := ⟨[], [], []⟩

/-- The object is there. -/
def Live (h : Heap ι) (a : ι) : Prop := a ∈ h.allocated ∧ a ∉ h.freed

instance [DecidableEq ι] (h : Heap ι) (a : ι) : Decidable (h.Live a) :=
  inferInstanceAs (Decidable (_ ∧ _))

/-- A new object. -/
def alloc (a : ι) (h : Heap ι) : Heap ι := { h with allocated := h.allocated ++ [a] }

variable [DecidableEq ι]

/-- An access to an object. -/
def touch (p : Option ι) (h : Heap ι) : Heap ι :=
  match p with
  | none => { h with faults := h.faults ++ [none] }
  | some a => if h.Live a then h else { h with faults := h.faults ++ [some a] }

/-- An object is freed; nothing happens to `NULL`. -/
def free (p : Option ι) (h : Heap ι) : Heap ι :=
  match p with
  | none => h
  | some a => { h.touch (some a) with freed := h.freed ++ [a] }

/-- Nothing was freed twice, and nothing used that was not there. -/
structure Sound (h : Heap ι) : Prop where
  allocated : ∀ a ∈ h.freed, a ∈ h.allocated
  nodup : h.freed.Nodup
  faults : h.faults = []

omit [DecidableEq ι] in
theorem Sound.empty : (empty : Heap ι).Sound := ⟨by simp [Heap.empty], List.nodup_nil, rfl⟩

variable {h : Heap ι} {a b : ι}

theorem touch_live (ha : h.Live a) : h.touch (some a) = h := if_pos ha

theorem free_live (ha : h.Live a) : h.free (some a) = { h with freed := h.freed ++ [a] } := by
  rw [free, touch_live ha]

omit [DecidableEq ι] in
/-- A name that is new is that of one object more. -/
theorem Sound.live_alloc_iff (hs : h.Sound) (ha : a ∉ h.allocated) :
    (h.alloc a).Live b ↔ h.Live b ∨ b = a := by
  constructor
  · rintro ⟨hmem, hfreed⟩
    exact (List.mem_append.1 hmem).imp (fun hb => ⟨hb, hfreed⟩) List.mem_singleton.1
  · rintro (hb | rfl)
    · exact ⟨List.mem_append_left _ hb.1, hb.2⟩
    · exact ⟨by simp [alloc], fun hfreed => ha (hs.allocated b hfreed)⟩

omit [DecidableEq ι] in
theorem Sound.alloc (hs : h.Sound) : (h.alloc a).Sound where
  allocated := fun b hb => List.mem_append_left _ (hs.allocated b hb)
  nodup := hs.nodup
  faults := hs.faults

/-- The others stay when one object is freed. -/
theorem live_free_iff (ha : h.Live a) : (h.free (some a)).Live b ↔ h.Live b ∧ b ≠ a := by
  rw [free_live ha]
  constructor
  · rintro ⟨hmem, hfreed⟩
    refine ⟨⟨hmem, fun hb => hfreed (List.mem_append_left _ hb)⟩, ?_⟩
    rintro rfl
    exact hfreed (by simp)
  · rintro ⟨hb, hne⟩
    refine ⟨hb.1, fun hfreed => ?_⟩
    rcases List.mem_append.1 hfreed with hfreed | hfreed
    · exact hb.2 hfreed
    · exact hne (List.mem_singleton.1 hfreed)

theorem Sound.free (hs : h.Sound) (ha : h.Live a) : (h.free (some a)).Sound := by
  rw [free_live ha]
  refine ⟨fun b hb => ?_, ?_, hs.faults⟩
  · rcases List.mem_append.1 hb with hb | hb
    · exact hs.allocated b hb
    · rw [List.mem_singleton.1 hb]
      exact ha.1
  · refine List.nodup_append.2 ⟨hs.nodup, List.nodup_singleton a, fun b hb c hc => ?_⟩
    rw [List.mem_singleton.1 hc]
    rintro rfl
    exact ha.2 hb

theorem allocated_free (p : Option ι) (h : Heap ι) : (h.free p).allocated = h.allocated := by
  cases p with
  | none => rfl
  | some a =>
    simp only [Heap.free, touch]
    split_ifs <;> rfl

/-! ### What only grows -/

theorem faults_touch (p : Option ι) (h : Heap ι) : h.faults <+: (h.touch p).faults := by
  cases p with
  | none => exact List.prefix_append _ _
  | some a =>
    rw [touch]
    split_ifs
    · exact List.prefix_rfl
    · exact List.prefix_append _ _

theorem faults_free (p : Option ι) (h : Heap ι) : h.faults <+: (h.free p).faults := by
  cases p with
  | none => exact List.prefix_rfl
  | some a => exact faults_touch (some a) h

theorem freed_free (p : Option ι) (h : Heap ι) : h.freed <+: (h.free p).freed := by
  cases p with
  | none => exact List.prefix_rfl
  | some a => exact List.prefix_append _ _

theorem mem_freed_free (a : ι) (h : Heap ι) : a ∈ (h.free (some a)).freed := by simp [free]

end Heap

end Allocation
