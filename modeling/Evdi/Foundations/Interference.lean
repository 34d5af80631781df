import Evdi.Foundations.Section

/-!
# Programs among others

What a program of atomic sections does while other parties run between its sections, when all that is
known of them is a relation: from a state `s` they lead to a state `t` with `R s t`.

* `Prog.Under R Q`: the states from which the program, with `R` before each of its sections, ends in `Q`;
* `under_act`, `Under.bind`, `under_each`, `under_of_preserves`: the rules for the parts of a program;
* `Under.rely`: what is true from a state is true from where the others lead;
* `Prog.Relies R G Q`: meanwhile, each section of the program makes a step of `G`; `relies_act`,
  `Relies.bind`: the rules for it;
* `Prog.zoom`: the program on a component of a larger state, and `under_zoom_act`, `Under.zoom_bind`,
  `under_zoom_of_uses`: the same rules for it;
* `PoolStep.preserves`, `PoolStep.relies`: the others may be a pool of threads;
* `PoolStep.uses`: a step of a pool is one of the kinds of sections of its threads;
* `PoolStep.exec_bind`: a thread that runs the first part of its program.
-/

namespace Atomic

open Transition

namespace Prog

variable {σ α β : Type}

theorem bind_assoc {γ : Type} (p : Prog σ α) (k : α → Prog σ β) (k' : β → Prog σ γ) :
    ((p >>= k) >>= k') = (p >>= fun a => k a >>= k') := by
  induction p with
  | pure a => rfl
  | sec f g ih =>
    simp only [sec_bind]
    congr 1
    funext s
    exact ih s

/-- From `s`, with `R` before each section, the program ends with a value and in a state of `Q`. -/
def Under (R : σ → σ → Prop) (Q : α → σ → Prop) : Prog σ α → σ → Prop
  | .pure a, s => Q a s
  | .sec f k, s => ∀ t, R s t → (k t).Under R Q (f t)

section

variable {R : σ → σ → Prop} {Q Q' : α → σ → Prop} {s t : σ}

@[simp] theorem under_pure (a : α) : (Prog.pure a).Under R Q s ↔ Q a s := Iff.rfl

theorem under_act {f : σ → σ × α} (h : ∀ t, R s t → Q (f t).2 (f t).1) : (act f).Under R Q s := h

theorem under_modify {f : σ → σ} {Q : Unit → σ → Prop} (h : ∀ t, R s t → Q () (f t)) :
    (modify f).Under R Q s := h

theorem under_read {f : σ → α} (h : ∀ t, R s t → Q (f t) t) : (read f).Under R Q s := h

/-- Consequence. -/
theorem Under.mono {p : Prog σ α} (h : p.Under R Q s) (hQ : ∀ a t, Q a t → Q' a t) :
    p.Under R Q' s := by
  induction p generalizing s with
  | pure a => exact hQ a s h
  | sec f k ih => exact fun t ht => ih t (h t ht)

/-- Fewer others. -/
theorem Under.weaken {R' : σ → σ → Prop} (hR : ∀ s t, R' s t → R s t) {p : Prog σ α}
    (h : p.Under R Q s) : p.Under R' Q s := by
  induction p generalizing s with
  | pure a => exact h
  | sec f k ih => exact fun t ht => ih t (h t (hR s t ht))

/-- Sequencing. -/
theorem Under.bind {k : α → Prog σ β} {Q : β → σ → Prop} {p : Prog σ α}
    (h : p.Under R (fun a t => (k a).Under R Q t) s) : (p >>= k).Under R Q s := by
  induction p generalizing s with
  | pure a => exact h
  | sec f g ih => exact fun t ht => ih t (h t ht)

theorem under_when {c : Bool} {p : Prog σ Unit} {Q : Unit → σ → Prop}
    (h : c = true → p.Under R Q s) (h' : c = false → Q () s) : (when c p).Under R Q s := by
  cases c with
  | false => exact h' rfl
  | true => exact h rfl

/-- A loop keeps what its body keeps. -/
theorem under_each {f : β → Prog σ Unit} {I : σ → Prop} {bs : List β}
    (hf : ∀ b ∈ bs, ∀ s, I s → (f b).Under R (fun _ => I) s) (hs : I s) :
    (each f bs).Under R (fun _ => I) s := by
  induction bs generalizing s with
  | nil => exact hs
  | cons b bs ih =>
    have hrest := fun b hb => hf b (List.mem_cons_of_mem _ hb)
    exact Under.bind ((hf b List.mem_cons_self s hs).mono fun _ t ht => ih hrest ht)

/-- **Rely.** What is true of the program from a state is true from where the others lead. -/
theorem Under.rely (trans : ∀ s t u, R s t → R t u → R s u)
    (hQ : ∀ a s t, Q a s → R s t → Q a t) {p : Prog σ α} (h : p.Under R Q s) (hR : R s t) :
    p.Under R Q t := by
  cases p with
  | pure a => exact hQ a s t h hR
  | sec f k => exact fun u hu => h u (trans _ _ _ hR hu)

/-- Nobody else need do anything. -/
theorem Under.exec (refl : ∀ s, R s s) {p : Prog σ α} (h : p.Under R Q s) :
    Q (p.exec s).2 (p.exec s).1 := by
  induction p generalizing s with
  | pure a => exact h
  | sec f k ih => exact ih s (h s (refl s))

/-- A program whose sections all make steps of `G` keeps what `R` and `G` keep. -/
theorem under_of_preserves {G : σ → σ → Prop} {I : σ → Prop} (hR : ∀ s t, I s → R s t → I t)
    (hG : ∀ s t, I s → G s t → I t) {p : Prog σ α} (hp : p.Preserves (fun _ => True) G) (hs : I s) :
    p.Under R (fun _ => I) s := by
  induction p generalizing s with
  | pure a => exact hs
  | sec f k ih =>
    intro t ht
    obtain ⟨hf, hk⟩ := hp t trivial
    exact ih t hk (hG t _ (hR s t hs ht) hf)

end

/-! ### What the sections do -/

/-- From `s`, with `R` before each section, each section makes a step of `G`, and the program ends with a
value and in a state of `Q`. -/
def Relies (R G : σ → σ → Prop) (Q : α → σ → Prop) : Prog σ α → σ → Prop
  | .pure a, s => Q a s
  | .sec f k, s => ∀ t, R s t → G t (f t) ∧ (k t).Relies R G Q (f t)

section

variable {R G : σ → σ → Prop} {Q : α → σ → Prop} {s t : σ}

theorem relies_act {f : σ → σ × α} (h : ∀ t, R s t → G t (f t).1 ∧ Q (f t).2 (f t).1) :
    (act f).Relies R G Q s := h

theorem relies_modify {f : σ → σ} {Q : Unit → σ → Prop} (h : ∀ t, R s t → G t (f t) ∧ Q () (f t)) :
    (modify f).Relies R G Q s := h

theorem relies_read {f : σ → α} (h : ∀ t, R s t → G t t ∧ Q (f t) t) : (read f).Relies R G Q s := h

theorem Relies.mono {Q' : α → σ → Prop} {p : Prog σ α} (h : p.Relies R G Q s) (hQ : ∀ a t, Q a t → Q' a t) :
    p.Relies R G Q' s := by
  induction p generalizing s with
  | pure a => exact hQ a s h
  | sec f k ih => exact fun t ht => ⟨(h t ht).1, ih t (h t ht).2⟩

/-- Sequencing. -/
theorem Relies.bind {k : α → Prog σ β} {Q : β → σ → Prop} {p : Prog σ α}
    (h : p.Relies R G (fun a t => (k a).Relies R G Q t) s) : (p >>= k).Relies R G Q s := by
  induction p generalizing s with
  | pure a => exact h
  | sec f g ih => exact fun t ht => ⟨(h t ht).1, ih t (h t ht).2⟩

theorem relies_when {c : Bool} {p : Prog σ Unit} {Q : Unit → σ → Prop}
    (h : c = true → p.Relies R G Q s) (h' : c = false → Q () s) : (when c p).Relies R G Q s := by
  cases c with
  | false => exact h' rfl
  | true => exact h rfl

/-- What is true of the program from a state is true from where the others lead. -/
theorem Relies.rely (trans : ∀ s t u, R s t → R t u → R s u) (hQ : ∀ a s t, Q a s → R s t → Q a t)
    {p : Prog σ α} (h : p.Relies R G Q s) (hR : R s t) : p.Relies R G Q t := by
  cases p with
  | pure a => exact hQ a s t h hR
  | sec f k => exact fun u hu => h u (trans _ _ _ hR hu)

end

/-! ### A component of a larger state -/

section

variable {τ : Type} (get : τ → σ) (put : σ → τ → τ)

/-- The program, on the component that `get` reads and `put` replaces. -/
def zoom : Prog σ α → Prog τ α
  | .pure a => .pure a
  | .sec f k => .sec (fun t => put (f (get t)) t) fun t => (k (get t)).zoom

variable {get put} {R : τ → τ → Prop} {s : τ}

theorem zoom_bind (p : Prog σ α) (k : α → Prog σ β) :
    (p >>= k).zoom get put = p.zoom get put >>= fun a => (k a).zoom get put := by
  induction p with
  | pure a => rfl
  | sec f g ih =>
    simp only [sec_bind, zoom]
    congr 1
    funext t
    exact ih (get t)

/-- Sequencing. -/
theorem Under.zoom_bind {p : Prog σ α} {k : α → Prog σ β} {Q : β → τ → Prop}
    (h : (p.zoom get put).Under R (fun a t => ((k a).zoom get put).Under R Q t) s) :
    ((p >>= k).zoom get put).Under R Q s := by
  rw [Prog.zoom_bind]
  exact h.bind

theorem under_zoom_act {f : σ → σ × α} {Q : α → τ → Prop}
    (h : ∀ t, R s t → Q (f (get t)).2 (put (f (get t)).1 t)) :
    ((act f).zoom get put).Under R Q s := h

theorem under_zoom_modify {f : σ → σ} {Q : Unit → τ → Prop}
    (h : ∀ t, R s t → Q () (put (f (get t)) t)) : ((modify f).zoom get put).Under R Q s := h

theorem under_zoom_read (hput : ∀ t, put (get t) t = t) {f : σ → α} {Q : α → τ → Prop}
    (h : ∀ t, R s t → Q (f (get t)) t) : ((read f).zoom get put).Under R Q s := by
  intro t ht
  show Q (f (get t)) (put (get t) t)
  rw [hput t]
  exact h t ht

theorem under_zoom_when {c : Bool} {p : Prog σ Unit} {Q : Unit → τ → Prop}
    (h : c = true → (p.zoom get put).Under R Q s) (h' : c = false → Q () s) :
    ((when c p).zoom get put).Under R Q s := by
  cases c with
  | false => exact h' rfl
  | true => exact h rfl

/-- A program whose sections all keep what the others keep. -/
theorem under_zoom_of_uses {P : (σ → σ) → Prop} {I : τ → Prop} (hR : ∀ s t, I s → R s t → I t)
    (hP : ∀ f, P f → ∀ t, I t → I (put (f (get t)) t)) {p : Prog σ α} (hp : p.Uses P) (hs : I s) :
    (p.zoom get put).Under R (fun _ => I) s := by
  induction p generalizing s with
  | pure a => exact hs
  | sec f k ih => exact fun t ht => ih (get t) (hp.2 _) (hP f hp.1 t (hR s t hs ht))

end

end Prog

/-! ### Pools of threads -/

variable {σ : Type} {spawn : Prog σ Unit → Prop}

/-- What all sections of the threads of a pool do, each step of the pool does. -/
theorem PoolStep.preserves {G : σ → σ → Prop} (refl : ∀ s, G s s)
    (hspawn : ∀ p, spawn p → p.Preserves (fun _ => True) G) {s t : σ} {ps qs : List (Prog σ Unit)}
    {u : Unit} (h : PoolStep spawn (s, ps) u (t, qs)) (hps : ∀ p ∈ ps, p.Preserves (fun _ => True) G) :
    G s t ∧ ∀ p ∈ qs, p.Preserves (fun _ => True) G := by
  rcases h with hp | ⟨⟩
  · refine ⟨refl s, fun q hq => ?_⟩
    rcases List.mem_append.1 hq with hq | hq
    · exact hps q hq
    · rw [List.mem_singleton.1 hq]
      exact hspawn _ hp
  · rename_i l r f k
    obtain ⟨hf, hk⟩ := hps (.sec f k) (by simp) s trivial
    refine ⟨hf, fun q hq => ?_⟩
    simp only [List.mem_append, List.mem_cons] at hq hps
    rcases hq with hq | rfl | hq
    · exact hps q (.inl hq)
    · exact hk
    · exact hps q (.inr (.inr hq))

/-- **Threads that rely on each other.** What the sections of the threads of a pool do, each step of the pool
does, if it is something that the others rely on. -/
theorem PoolStep.relies {R G : σ → σ → Prop} (refl : ∀ s, G s s) (hG : ∀ s t, G s t → R s t)
    (trans : ∀ s t u, R s t → R t u → R s u)
    (hspawn : ∀ p, spawn p → ∀ s, p.Relies R G (fun _ _ => True) s) {s t : σ} {ps qs : List (Prog σ Unit)}
    {u : Unit} (h : PoolStep spawn (s, ps) u (t, qs)) (hps : ∀ p ∈ ps, p.Relies R G (fun _ _ => True) s) :
    G s t ∧ ∀ p ∈ qs, p.Relies R G (fun _ _ => True) t := by
  rcases h with hp | ⟨⟩
  · refine ⟨refl s, fun q hq => ?_⟩
    rcases List.mem_append.1 hq with hq | hq
    · exact hps q hq
    · rw [List.mem_singleton.1 hq]
      exact hspawn _ hp s
  · rename_i l r f k
    obtain ⟨hf, hk⟩ := hps (.sec f k) (by simp) s (hG s s (refl s))
    have hothers : ∀ q ∈ l ++ r, q.Relies R G (fun _ _ => True) (f s) := fun q hq =>
      (hps q (by simp only [List.mem_append, List.mem_cons] at hq ⊢; tauto)).rely trans
        (fun _ _ _ _ _ => trivial) (hG _ _ hf)
    refine ⟨hf, fun q hq => ?_⟩
    simp only [List.mem_append, List.mem_cons] at hq hothers
    rcases hq with hq | rfl | hq
    · exact hothers q (.inl hq)
    · exact hk
    · exact hothers q (.inr hq)

/-- A step of a pool changes nothing, or is a section of one of the kinds of its threads. -/
theorem PoolStep.uses {P : (σ → σ) → Prop} (hspawn : ∀ p, spawn p → p.Uses P) {s t : σ}
    {ps qs : List (Prog σ Unit)} {u : Unit} (h : PoolStep spawn (s, ps) u (t, qs))
    (hps : ∀ p ∈ ps, p.Uses P) : (t = s ∨ ∃ f, P f ∧ t = f s) ∧ ∀ p ∈ qs, p.Uses P := by
  rcases h with hp | ⟨⟩
  · refine ⟨.inl rfl, fun q hq => ?_⟩
    rcases List.mem_append.1 hq with hq | hq
    · exact hps q hq
    · rw [List.mem_singleton.1 hq]
      exact hspawn _ hp
  · rename_i l r f k
    obtain ⟨hf, hk⟩ := hps (.sec f k) (by simp)
    refine ⟨.inr ⟨f, hf, rfl⟩, fun q hq => ?_⟩
    simp only [List.mem_append, List.mem_cons] at hq hps
    rcases hq with hq | rfl | hq
    · exact hps q (.inl hq)
    · exact hk s
    · exact hps q (.inr (.inr hq))

/-- A thread runs the first part of its program, with no other in between. -/
theorem PoolStep.exec_bind {α : Type} (p : Prog σ α) (k : α → Prog σ Unit) (s : σ)
    (l r : List (Prog σ Unit)) : ∃ n, Run (PoolStep spawn) (s, l ++ (p >>= k) :: r)
      (List.replicate n ()) ((p.exec s).1, l ++ k (p.exec s).2 :: r) := by
  induction p generalizing s with
  | pure a => exact ⟨0, Run.nil _⟩
  | sec f g ih =>
    obtain ⟨n, hrun⟩ := ih s (f s)
    refine ⟨n + 1, ?_⟩
    rw [List.replicate_succ, ← List.singleton_append]
    exact (Run.one PoolStep.section).append hrun

end Atomic
