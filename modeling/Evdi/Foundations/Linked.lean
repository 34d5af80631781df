import Mathlib.Tactic

/-!
# Linked lists in memory

Singly linked lists of nodes as C programs walk and change them: from the head of the list along the
fields `next`.  `NULL` is `none` as a pointer; an access to a node that is not allocated has no result.

* `Memory`: the head of a list, and the nodes that are allocated;
* `Link`: where a pointer to a node is kept; `Memory.load` and `Memory.store` are `*link` and `*link = p`;
* `Segment`: the nodes on the way from one pointer to another;
* `Lists`: the memory holds the given nodes in the given order, and no others;
* `Lists.load`, `Lists.node`: what an access finds at each place of a list;
* `Lists.append`, `Lists.unlink`: a node more at the end, a node less anywhere.
-/

namespace Linked

variable {α : Type*}

/-- A node: what it holds, and its field `next`. -/
structure Node (α : Type*) where
  value : α
  next : Option ℕ

/-- The head of a list, and the allocated nodes by their addresses. -/
structure Memory (α : Type*) where
  head : Option ℕ
  node : ℕ → Option (Node α)

/-- A place that holds a pointer: the head of the list, or the field `next` of a node. -/
inductive Link
  | head
  | next (a : ℕ)

namespace Memory

/-- An empty list, and no nodes. -/
def empty : Memory α := ⟨none, fun _ => none⟩

/-- `*link`. -/
def load (m : Memory α) : Link → Option (Option ℕ)
  | .head => some m.head
  | .next a => (m.node a).map (·.next)

/-- `*link = p`. -/
def store (m : Memory α) (p : Option ℕ) : Link → Option (Memory α)
  | .head => some { m with head := p }
  | .next a => (m.node a).map fun n =>
    { m with node := Function.update m.node a (some { n with next := p }) }

/-- A new node. -/
def alloc (m : Memory α) (a : ℕ) (n : Node α) : Memory α :=
  { m with node := Function.update m.node a (some n) }

/-- `free`. -/
def free (m : Memory α) (a : ℕ) : Option (Memory α) :=
  (m.node a).map fun _ => { m with node := Function.update m.node a none }

end Memory

/-! ### Segments -/

/-- The addresses of nodes. -/
abbrev addresses (l : List (ℕ × α)) : List ℕ := l.map Prod.fst

/-- The pointer to the first of the nodes. -/
def first (l : List (ℕ × α)) : Option ℕ := l.head?.map Prod.fst

/-- The place that holds the pointer to what follows the nodes. -/
def lastLink (l : List (ℕ × α)) : Link := l.getLast?.elim .head fun e => .next e.1

@[simp] theorem first_nil : first ([] : List (ℕ × α)) = none := rfl

@[simp] theorem first_cons (e : ℕ × α) (l : List (ℕ × α)) : first (e :: l) = some e.1 := rfl

@[simp] theorem lastLink_nil : lastLink ([] : List (ℕ × α)) = .head := rfl

@[simp] theorem lastLink_concat (l : List (ℕ × α)) (e : ℕ × α) :
    lastLink (l ++ [e]) = .next e.1 := by
  simp [lastLink]

/-- Following `next` from `p`, the nodes `l` are visited, each with what it holds, and then `q` is
reached. -/
def Segment (node : ℕ → Option (Node α)) : Option ℕ → List (ℕ × α) → Option ℕ → Prop
  | p, [], q => p = q
  | p, (a, v) :: l, q => p = some a ∧ ∃ r, node a = some ⟨v, r⟩ ∧ Segment node r l q

namespace Segment

variable {node node' : ℕ → Option (Node α)} {p q : Option ℕ} {l r : List (ℕ × α)} {a : ℕ} {v : α}

theorem append_iff :
    Segment node p (l ++ r) q ↔ ∃ m, Segment node p l m ∧ Segment node m r q := by
  induction l generalizing p with
  | nil => simp [Segment]
  | cons e l ih =>
    constructor
    · rintro ⟨hp, next, hnode, hrest⟩
      obtain ⟨m, hl, hr⟩ := ih.1 hrest
      exact ⟨m, ⟨hp, next, hnode, hl⟩, hr⟩
    · rintro ⟨m, ⟨hp, next, hnode, hl⟩, hr⟩
      exact ⟨hp, next, hnode, ih.2 ⟨m, hl, hr⟩⟩

theorem concat_iff :
    Segment node p (l ++ [(a, v)]) q ↔ Segment node p l (some a) ∧ node a = some ⟨v, q⟩ := by
  simp [append_iff, Segment]

/-- Only the nodes on the way matter. -/
theorem congr (hnode : ∀ b ∈ addresses l, node b = node' b) (h : Segment node p l q) :
    Segment node' p l q := by
  induction l generalizing p with
  | nil => exact h
  | cons e l ih =>
    obtain ⟨hp, next, he, hrest⟩ := h
    simp only [addresses, List.map_cons, List.forall_mem_cons] at hnode
    exact ⟨hp, next, hnode.1 ▸ he, ih hnode.2 hrest⟩

theorem eq_first (h : Segment node p l none) : p = first l := by
  cases l with
  | nil => exact h
  | cons e l => exact h.1

/-- The nodes on the way are there. -/
theorem ne_none (h : Segment node p l q) : ∀ b ∈ addresses l, node b ≠ none := by
  induction l generalizing p with
  | nil => simp
  | cons e l ih =>
    obtain ⟨-, next, he, hrest⟩ := h
    simp only [addresses, List.map_cons, List.forall_mem_cons]
    exact ⟨by simp [he], ih hrest⟩

end Segment

/-- The pointer behind the nodes is found there. -/
theorem Memory.load_lastLink {m : Memory α} {l : List (ℕ × α)} {p : Option ℕ}
    (h : Segment m.node m.head l p) : m.load (lastLink l) = some p := by
  rcases List.eq_nil_or_concat l with rfl | ⟨l, e, rfl⟩
  · exact congrArg some h
  · rw [List.concat_eq_append] at h ⊢
    rw [lastLink_concat, load, (Segment.concat_iff.1 h).2]
    rfl

/-- Another pointer behind the nodes: they stay, with what they hold, and so do all other nodes. -/
theorem Memory.store_lastLink {m : Memory α} {l : List (ℕ × α)} {p : Option ℕ}
    (h : Segment m.node m.head l p) (hl : (addresses l).Nodup) (q : Option ℕ) :
    ∃ m', m.store q (lastLink l) = some m' ∧ Segment m'.node m'.head l q ∧
      (∀ b ∉ addresses l, m'.node b = m.node b) ∧ ∀ b, m'.node b = none ↔ m.node b = none := by
  rcases List.eq_nil_or_concat l with rfl | ⟨l, ⟨a, v⟩, rfl⟩
  · exact ⟨{ m with head := q }, rfl, rfl, fun b _ => rfl, fun b => Iff.rfl⟩
  · rw [List.concat_eq_append] at h hl ⊢
    obtain ⟨hfront, hlast⟩ := Segment.concat_iff.1 h
    have ha : a ∉ addresses l := by
      intro hmem
      rw [addresses, List.map_append, List.nodup_append] at hl
      exact hl.2.2 a hmem a (by simp) rfl
    refine ⟨{ m with node := Function.update m.node a (some ⟨v, q⟩) }, ?_, ?_, ?_, ?_⟩
    · rw [lastLink_concat, store, hlast]
      rfl
    · refine Segment.concat_iff.2 ⟨hfront.congr fun b hb => ?_, Function.update_self ..⟩
      exact (Function.update_of_ne (ne_of_mem_of_not_mem hb ha) _ _).symm
    · intro b hb
      refine Function.update_of_ne ?_ _ _
      rintro rfl
      exact hb (by simp)
    · intro b
      by_cases hb : b = a
      · subst hb
        simp [hlast]
      · simp [hb]

/-! ### Lists -/

/-- The nodes from the head to `NULL` are exactly these, all different, and no others are allocated. -/
structure Lists (m : Memory α) (l : List (ℕ × α)) : Prop where
  segment : Segment m.node m.head l none
  nodup : (addresses l).Nodup
  live : ∀ b, m.node b ≠ none → b ∈ addresses l

namespace Lists

variable {m : Memory α} {l r : List (ℕ × α)} {a : ℕ} {v : α}

theorem empty : Lists (Memory.empty : Memory α) [] := ⟨rfl, List.nodup_nil, fun _ h => absurd rfl h⟩

theorem head_eq (h : Lists m l) : m.head = first l := h.segment.eq_first

/-- The pointer in the middle of a list. -/
theorem load (h : Lists m (l ++ r)) : m.load (lastLink l) = some (first r) := by
  obtain ⟨p, hl, hr⟩ := Segment.append_iff.1 h.segment
  rw [Memory.load_lastLink hl, hr.eq_first]

/-- A node of a list. -/
theorem node (h : Lists m (l ++ (a, v) :: r)) : m.node a = some ⟨v, first r⟩ := by
  obtain ⟨p, -, -, next, hnode, hr⟩ := Segment.append_iff.1 h.segment
  rw [hnode, hr.eq_first]

/-- A list of one node more. -/
theorem append (h : Lists m l) (ha : m.node a = none) :
    ∃ m', (m.alloc a ⟨v, none⟩).store (some a) (lastLink l) = some m' ∧ Lists m' (l ++ [(a, v)]) := by
  have hmem : a ∉ addresses l := fun hmem => h.segment.ne_none a hmem ha
  have hkeep : ∀ b ∈ addresses l, m.node b = (m.alloc a ⟨v, none⟩).node b := fun b hb =>
    (Function.update_of_ne (ne_of_mem_of_not_mem hb hmem) _ _).symm
  obtain ⟨m', hstore, hsegment, hother, hnone⟩ :=
    Memory.store_lastLink (m := m.alloc a ⟨v, none⟩) (h.segment.congr hkeep) h.nodup (some a)
  refine ⟨m', hstore, Segment.concat_iff.2 ⟨hsegment, ?_⟩, ?_, fun b hb => ?_⟩
  · rw [hother a hmem]
    exact Function.update_self ..
  · rw [addresses, List.map_append]
    exact h.nodup.append (List.nodup_singleton a) (by simpa using hmem)
  · rw [addresses, List.map_append, List.mem_append]
    by_cases hba : b = a
    · exact .inr (by simp [hba])
    · refine .inl (h.live b fun hlive => hb ((hnone b).2 ?_))
      exact (Function.update_of_ne hba _ _).trans hlive

/-- A list of one node less, wherever it was. -/
theorem unlink (h : Lists m (l ++ (a, v) :: r)) :
    ∃ m₁ m₂, m.free a = some m₁ ∧ m₁.store (first r) (lastLink l) = some m₂ ∧ Lists m₂ (l ++ r) := by
  obtain ⟨p, hl, hp, next, hnode, hr⟩ := Segment.append_iff.1 h.segment
  have hnodup : (addresses l ++ a :: addresses r).Nodup := by simpa [addresses] using h.nodup
  have hnodup' := List.nodup_middle.1 hnodup
  obtain ⟨hmem, hrest⟩ := List.nodup_cons.1 hnodup'
  rw [List.mem_append, not_or] at hmem
  obtain ⟨hndl, hndr, hdisjoint⟩ := List.nodup_append.1 hrest
  have hkeep : ∀ s : List (ℕ × α), a ∉ addresses s → ∀ b ∈ addresses s,
      m.node b = Function.update m.node a none b := fun s hs b hb =>
    (Function.update_of_ne (ne_of_mem_of_not_mem hb hs) _ _).symm
  obtain ⟨m₂, hstore, hsegment, hother, hnone⟩ :=
    Memory.store_lastLink (m := { m with node := Function.update m.node a none })
      (hl.congr (hkeep l hmem.1)) hndl (first r)
  refine ⟨_, m₂, by rw [Memory.free, hnode]; rfl, hstore, ?_, ?_, fun b hb => ?_⟩
  · refine Segment.append_iff.2 ⟨first r, hsegment, ?_⟩
    rw [← hr.eq_first]
    refine (hr.congr (hkeep r hmem.2)).congr fun b hb => (hother b fun hbl => ?_).symm
    exact hdisjoint b hbl b hb rfl
  · rw [addresses, List.map_append]
    exact hrest
  · have hba : b ≠ a := by
      rintro rfl
      exact hb ((hnone b).2 (Function.update_self ..))
    have hlive : m.node b ≠ none := fun hb' =>
      hb ((hnone b).2 ((Function.update_of_ne hba _ _).trans hb'))
    have := h.live b hlive
    simp only [addresses, List.map_append, List.map_cons, List.mem_append, List.mem_cons] at this ⊢
    tauto

end Lists

end Linked
