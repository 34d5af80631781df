import Evdi.Foundations.Transition

/-!
# Programs made of atomic sections

Code that runs concurrently with other code and takes a lock for each access to the shared state
is a sequence of atomic sections; what it does next may depend on what a section saw.  `Prog σ α`
is such a program over the shared state `σ`, returning a value of `α`: `sec f k` transforms the
state by `f` and goes on with `k s`, where `s` is the state the section found.

* `attempt`: a section that may fail, in which case the program ends there, without a value;
* `exec` runs a program with nothing in between (the sequential meaning);
* `atomically` makes a whole program one section (it runs under a lock that every other party takes);
* `Uses P`: all sections of the program are of the kinds `P`;
* `Preserves I R`: every section of the program, in every state of `I` it may find, makes a step
  of `R`;
* `Ensures I R`: run without interference from a state of `I`, the program makes a step of `R`;
* `Establishes I`: the program is not over, and its last section leaves `I` true, whatever other
  parties do between the sections;
* `Relates R V`: two programs, run without interference from states of `R`, end in states of `R` with
  values of `V`.
-/

namespace Atomic

open Transition

/-- A program of atomic sections over the shared state `σ`. -/
inductive Prog (σ : Type) (α : Type) : Type
  | pure (a : α) : Prog σ α
  | sec (f : σ → σ) (k : σ → Prog σ α) : Prog σ α

namespace Prog

variable {σ α β : Type}

/-- Sequencing. -/
def bind : Prog σ α → (α → Prog σ β) → Prog σ β
  | .pure a, k => k a
  | .sec f g, k => .sec f fun s => (g s).bind k

instance : Monad (Prog σ) where
  pure := Prog.pure
  bind := Prog.bind

@[simp] theorem pure_eq (a : α) : (Pure.pure a : Prog σ α) = .pure a := rfl

@[simp] theorem pure_bind (a : α) (k : α → Prog σ β) : (Prog.pure a >>= k) = k a := rfl

@[simp] theorem sec_bind (f : σ → σ) (g : σ → Prog σ α) (k : α → Prog σ β) :
    (Prog.sec f g >>= k) = .sec f fun s => g s >>= k := rfl

/-- One section that transforms the state and returns a value computed from it. -/
def act (f : σ → σ × α) : Prog σ α := .sec (fun s => (f s).1) fun s => .pure (f s).2

/-- One section that only transforms the state. -/
def modify (f : σ → σ) : Prog σ Unit := .sec f fun _ => .pure ()

/-- One section where `f` has a value; where it has none, the program ends, and leaves the state as it
is. -/
def attempt (f : σ → Option (σ × α)) : OptionT (Prog σ) α :=
  .mk <| .act fun s =>
    match f s with
    | some (s, a) => (s, some a)
    | none => (s, none)

/-- One section that only reads the state. -/
def read (f : σ → α) : Prog σ α := .sec id fun s => .pure (f s)

/-- The program, under a condition. -/
def when (c : Bool) (p : Prog σ Unit) : Prog σ Unit := if c then p else .pure ()

/-- The programs of a list of values, one after the other. -/
def each (f : β → Prog σ Unit) : List β → Prog σ Unit
  | [] => .pure ()
  | b :: bs => f b >>= fun _ => each f bs

/-- Run without interference: the final state and the value. -/
def exec : Prog σ α → σ → σ × α
  | .pure a, s => (s, a)
  | .sec f k, s => (k s).exec (f s)

/-- The whole program as one section. -/
def atomically (p : Prog σ α) : Prog σ α := act p.exec

@[simp] theorem exec_pure (a : α) (s : σ) : (Prog.pure a : Prog σ α).exec s = (s, a) := rfl

@[simp] theorem exec_act (f : σ → σ × α) (s : σ) : (act f).exec s = f s := rfl

@[simp] theorem exec_modify (f : σ → σ) (s : σ) : (modify f).exec s = (f s, ()) := rfl

@[simp] theorem exec_read (f : σ → α) (s : σ) : (read f).exec s = (s, f s) := rfl

@[simp] theorem exec_atomically (p : Prog σ α) (s : σ) : p.atomically.exec s = p.exec s := rfl

@[simp] theorem exec_bind (p : Prog σ α) (k : α → Prog σ β) (s : σ) :
    (p >>= k).exec s = (k (p.exec s).2).exec (p.exec s).1 := by
  induction p generalizing s with
  | pure a => rfl
  | sec f g ih => exact ih s (f s)

@[simp] theorem exec_when (c : Bool) (p : Prog σ Unit) (s : σ) :
    (when c p).exec s = if c then p.exec s else (s, ()) := by
  cases c <;> rfl

/-- A branch on what was read. -/
theorem exec_read_ite (c : σ → Bool) (p q : Prog σ α) (s : σ) :
    (read c >>= fun b => if b then p else q).exec s = if c s then p.exec s else q.exec s := by
  rw [exec_bind]
  cases h : c s <;> simp [h]

/-! ### Which sections there are -/

/-- All sections of the program, whatever states it finds, are of the kinds `P`. -/
def Uses (P : (σ → σ) → Prop) : Prog σ α → Prop
  | .pure _ => True
  | .sec f k => P f ∧ ∀ s, (k s).Uses P

section

variable {P : (σ → σ) → Prop}

@[simp] theorem uses_pure (a : α) : (Prog.pure a : Prog σ α).Uses P := trivial

theorem uses_act {f : σ → σ × α} (h : P fun s => (f s).1) : (act f).Uses P := ⟨h, fun _ => trivial⟩

theorem uses_modify {f : σ → σ} (h : P f) : (modify f).Uses P := ⟨h, fun _ => trivial⟩

theorem uses_read {f : σ → α} (h : P id) : (read f).Uses P := ⟨h, fun _ => trivial⟩

/-- Sequencing. -/
theorem Uses.bind {p : Prog σ α} {k : α → Prog σ β} (hp : p.Uses P) (hk : ∀ a, (k a).Uses P) :
    (p >>= k).Uses P := by
  induction p with
  | pure a => exact hk a
  | sec f g ih => exact ⟨hp.1, fun s => ih s (hp.2 s)⟩

/-- What follows a section has its value, whatever state the section found. -/
theorem uses_act_bind {f : σ → σ × α} {k : α → Prog σ β} (h : P fun s => (f s).1)
    (hk : ∀ s, (k (f s).2).Uses P) : (act f >>= k).Uses P := ⟨h, hk⟩

theorem uses_when {c : Bool} {p : Prog σ Unit} (h : p.Uses P) : (when c p).Uses P := by
  cases c
  · exact trivial
  · exact h

theorem uses_each {f : β → Prog σ Unit} (h : ∀ b, (f b).Uses P) (bs : List β) :
    (each f bs).Uses P := by
  induction bs with
  | nil => exact trivial
  | cons b bs ih => exact (h b).bind fun _ => ih

theorem Uses.and {P' : (σ → σ) → Prop} {p : Prog σ α} (h : p.Uses P) (h' : p.Uses P') :
    p.Uses fun f => P f ∧ P' f := by
  induction p with
  | pure a => exact trivial
  | sec f g ih => exact ⟨⟨h.1, h'.1⟩, fun s => ih s (h.2 s) (h'.2 s)⟩

theorem Uses.mono {P' : (σ → σ) → Prop} (hP : ∀ f, P f → P' f) {p : Prog σ α} (h : p.Uses P) :
    p.Uses P' := by
  induction p with
  | pure a => exact trivial
  | sec f g ih => exact ⟨hP _ h.1, fun s => ih s (h.2 s)⟩

end

/-! ### What every section does -/

/-- Every section of the program, in every state of `I` it may find, makes a step of `R`. -/
def Preserves (I : σ → Prop) (R : σ → σ → Prop) : Prog σ α → Prop
  | .pure _ => True
  | .sec f k => ∀ s, I s → R s (f s) ∧ (k s).Preserves I R

section

variable {I : σ → Prop} {R : σ → σ → Prop}

@[simp] theorem preserves_pure (a : α) : (Prog.pure a : Prog σ α).Preserves I R := trivial

theorem preserves_act {f : σ → σ × α} (h : ∀ s, I s → R s (f s).1) : (act f).Preserves I R :=
  fun s hs => ⟨h s hs, trivial⟩

theorem preserves_modify {f : σ → σ} (h : ∀ s, I s → R s (f s)) : (modify f).Preserves I R :=
  fun s hs => ⟨h s hs, trivial⟩

/-- Sequencing. -/
theorem Preserves.bind {p : Prog σ α} {k : α → Prog σ β} (hp : p.Preserves I R)
    (hk : ∀ a, (k a).Preserves I R) : (p >>= k).Preserves I R := by
  induction p with
  | pure a => exact hk a
  | sec f g ih => exact fun s hs => ⟨(hp s hs).1, ih s (hp s hs).2⟩

/-- What follows a reading section may rely on what was read in a state of `I`. -/
theorem preserves_read_bind {f : σ → α} {k : α → Prog σ β} (refl : ∀ s, I s → R s s)
    (hk : ∀ s, I s → (k (f s)).Preserves I R) : (read f >>= k).Preserves I R :=
  fun s hs => ⟨refl s hs, hk s hs⟩

/-- Without interference, a reflexive and transitive relation respected by every section relates
the start to the end. -/
theorem Preserves.exec {p : Prog σ α} (h : p.Preserves I R) (hI : ∀ s t, I s → R s t → I t)
    (refl : ∀ s, R s s) (trans : ∀ s t u, R s t → R t u → R s u) {s : σ} (hs : I s) :
    R s (p.exec s).1 := by
  induction p generalizing s with
  | pure a => exact refl s
  | sec f g ih =>
    obtain ⟨hf, hg⟩ := h s hs
    exact trans _ _ _ hf (ih s hg (hI _ _ hs hf))

/-- Without interference, a reflexive and transitive relation respected by all kinds of sections relates
the start to the end. -/
theorem Uses.exec {P : (σ → σ) → Prop} (hP : ∀ f, P f → ∀ s, R s (f s)) (refl : ∀ s, R s s)
    (trans : ∀ s t u, R s t → R t u → R s u) {p : Prog σ α} (h : p.Uses P) (s : σ) :
    R s (p.exec s).1 := by
  induction p generalizing s with
  | pure a => exact refl s
  | sec f g ih => exact trans _ _ _ (hP f h.1 s) (ih s (h.2 s) (f s))

/-- What no kind of section changes, the program does not change. -/
theorem Uses.exec_eq {P : (σ → σ) → Prop} {v : σ → β} (hP : ∀ f, P f → ∀ s, v (f s) = v s)
    {p : Prog σ α} (h : p.Uses P) (s : σ) : v (p.exec s).1 = v s :=
  h.exec (R := fun s t => v t = v s) hP (fun _ => rfl) (fun _ _ _ hst htu => htu.trans hst) s

theorem Preserves.atomically {p : Prog σ α} (h : p.Preserves I R)
    (hI : ∀ s t, I s → R s t → I t) (refl : ∀ s, R s s)
    (trans : ∀ s t u, R s t → R t u → R s u) : p.atomically.Preserves I R :=
  preserves_act fun _ hs => h.exec hI refl trans hs

end

/-! ### What a whole run does -/

/-- Run without interference from a state of `I`, the program makes a step of `R`. -/
def Ensures (I : σ → Prop) (R : σ → σ → Prop) (p : Prog σ α) : Prop := ∀ s, I s → R s (p.exec s).1

/-- Steps of `R` from `I` to `I` compose. -/
structure Composes (I : σ → Prop) (R : σ → σ → Prop) : Prop where
  refl : ∀ s, I s → R s s
  trans : ∀ s t u, R s t → R t u → R s u
  keeps : ∀ s t, R s t → I t

section

variable {I : σ → Prop} {R : σ → σ → Prop}

theorem ensures_pure (h : Composes I R) (a : α) : (Prog.pure a).Ensures I R := fun s hs => h.refl s hs

theorem ensures_read (h : Composes I R) (f : σ → α) : (read f).Ensures I R := fun s hs => h.refl s hs

theorem ensures_modify {f : σ → σ} (h : ∀ s, I s → R s (f s)) : (modify f).Ensures I R := h

/-- Sequencing. -/
theorem Ensures.bind (h : Composes I R) {p : Prog σ α} {k : α → Prog σ β} (hp : p.Ensures I R)
    (hk : ∀ a, (k a).Ensures I R) : (p >>= k).Ensures I R := by
  intro s hs
  rw [exec_bind]
  have hfirst := hp s hs
  exact h.trans _ _ _ hfirst (hk _ _ (h.keeps _ _ hfirst))

theorem ensures_when (h : Composes I R) {c : Bool} {p : Prog σ Unit} (hp : p.Ensures I R) :
    (when c p).Ensures I R := by
  cases c
  · exact ensures_pure h ()
  · exact hp

theorem ensures_each (h : Composes I R) {f : β → Prog σ Unit} (hf : ∀ b, (f b).Ensures I R)
    (bs : List β) : (each f bs).Ensures I R := by
  induction bs with
  | nil => exact ensures_pure h ()
  | cons b bs ih => exact (hf b).bind h fun _ => ih

end

/-! ### What the last section leaves -/

/-- The program is not over, and its last section leaves `I` true in whatever state it is run. -/
def Establishes (I : σ → Prop) : Prog σ α → Prop
  | .pure _ => False
  | .sec f k => ∀ s, ((∃ a, k s = .pure a) ∧ I (f s)) ∨ (k s).Establishes I

variable {I : σ → Prop}

theorem establishes_act {f : σ → σ × α} (h : ∀ s, I (f s).1) : (act f).Establishes I :=
  fun s => Or.inl ⟨⟨(f s).2, rfl⟩, h s⟩

theorem Establishes.after {k : α → Prog σ β} (hk : ∀ a, (k a).Establishes I) (p : Prog σ α) :
    (p >>= k).Establishes I := by
  induction p with
  | pure a => exact hk a
  | sec f g ih => exact fun s => Or.inr (ih s)

/-! ### Two programs -/

/-- From related states the two programs end in related states, with related values. -/
def Relates (R : σ → σ → Prop) (V : α → β → Prop) (p : Prog σ α) (q : Prog σ β) : Prop :=
  ∀ s t, R s t → R (p.exec s).1 (q.exec t).1 ∧ V (p.exec s).2 (q.exec t).2

section

variable {γ δ : Type} {R : σ → σ → Prop} {V : α → β → Prop} {W : γ → δ → Prop}

theorem relates_pure {a : α} {b : β} (h : V a b) : Relates R V (.pure a) (.pure b) :=
  fun _ _ hR => ⟨hR, h⟩

theorem relates_act {f : σ → σ × α} {g : σ → σ × β}
    (h : ∀ s t, R s t → R (f s).1 (g t).1 ∧ V (f s).2 (g t).2) : Relates R V (act f) (act g) := h

theorem relates_modify {f g : σ → σ} (h : ∀ s t, R s t → R (f s) (g t)) :
    Relates R Eq (modify f) (modify g) :=
  fun s t hR => ⟨h s t hR, rfl⟩

theorem relates_read {f : σ → α} {g : σ → β} (h : ∀ s t, R s t → V (f s) (g t)) :
    Relates R V (read f) (read g) :=
  fun s t hR => ⟨hR, h s t hR⟩

/-- Sequencing. -/
theorem Relates.bind {p : Prog σ α} {q : Prog σ β} {k : α → Prog σ γ} {l : β → Prog σ δ}
    (h : Relates R V p q) (hkl : ∀ a b, V a b → Relates R W (k a) (l b)) :
    Relates R W (p >>= k) (q >>= l) := by
  intro s t hR
  obtain ⟨hend, hval⟩ := h s t hR
  rw [exec_bind, exec_bind]
  exact hkl _ _ hval _ _ hend

/-- Sequencing after values that are the same. -/
theorem Relates.bind_eq {p q : Prog σ α} {k : α → Prog σ γ} {l : α → Prog σ δ}
    (h : Relates R Eq p q) (hkl : ∀ a, Relates R W (k a) (l a)) :
    Relates R W (p >>= k) (q >>= l) := by
  refine Relates.bind h fun a b hab => ?_
  rw [hab]
  exact hkl b

theorem relates_when {c : Bool} {p q : Prog σ Unit} (h : Relates R Eq p q) :
    Relates R Eq (when c p) (when c q) := by
  cases c
  · exact relates_pure rfl
  · exact h

theorem relates_each {f g : β → Prog σ Unit} (h : ∀ b, Relates R Eq (f b) (g b)) (bs : List β) :
    Relates R Eq (each f bs) (each g bs) := by
  induction bs with
  | nil => exact relates_pure rfl
  | cons b bs ih => exact Relates.bind_eq (h b) fun _ => ih

theorem Relates.atomically {p : Prog σ α} {q : Prog σ β} (h : Relates R V p q) :
    Relates R V p.atomically q.atomically := h

end

end Prog

/-! ### Threads -/

/-- One step of a thread pool over the shared state: a thread of the allowed kind starts, or one
thread runs its next section. -/
inductive PoolStep {σ : Type} (spawn : Prog σ Unit → Prop) :
    σ × List (Prog σ Unit) → Unit → σ × List (Prog σ Unit) → Prop
  | start {s : σ} {ts : List (Prog σ Unit)} {p : Prog σ Unit} :
      spawn p → PoolStep spawn (s, ts) () (s, ts ++ [p])
  | section {s : σ} {l r : List (Prog σ Unit)} {f : σ → σ} {k : σ → Prog σ Unit} :
      PoolStep spawn (s, l ++ .sec f k :: r) () (f s, l ++ k s :: r)

/-- **Pool rule.** What every section of every allowed thread keeps is kept by every step of the
pool. -/
theorem PoolStep.invariant {σ : Type} {spawn : Prog σ Unit → Prop} {I : σ → Prop}
    (hI : ∀ p, spawn p → p.Preserves I fun _ t => I t) :
    ∀ c a c', (I c.1 ∧ ∀ p ∈ c.2, p.Preserves I fun _ t => I t) → PoolStep spawn c a c' →
      I c'.1 ∧ ∀ p ∈ c'.2, p.Preserves I fun _ t => I t := by
  rintro _ _ _ ⟨hs, hts⟩ (hp | ⟨⟩)
  · refine ⟨hs, fun q hq => ?_⟩
    rcases List.mem_append.1 hq with hq | hq
    · exact hts q hq
    · rw [List.mem_singleton.1 hq]; exact hI _ hp
  · rename_i s l r f k
    obtain ⟨hf, hk⟩ := hts (.sec f k) (by simp) s hs
    refine ⟨hf, fun q hq => ?_⟩
    simp only [List.mem_append, List.mem_cons] at hq hts
    rcases hq with hq | rfl | hq
    · exact hts q (.inl hq)
    · exact hk
    · exact hts q (.inr (.inr hq))

/-- A thread that runs without interference does what its program computes. -/
theorem PoolStep.exec {σ : Type} {spawn : Prog σ Unit → Prop} (p : Prog σ Unit) (s : σ)
    (l r : List (Prog σ Unit)) : ∃ n, Run (PoolStep spawn) (s, l ++ p :: r) (List.replicate n ())
      ((p.exec s).1, l ++ .pure () :: r) := by
  induction p generalizing s with
  | pure a => exact ⟨0, Run.nil _⟩
  | sec f k ih =>
    obtain ⟨n, hrun⟩ := ih s (f s)
    refine ⟨n + 1, ?_⟩
    rw [List.replicate_succ, ← List.singleton_append]
    exact (Run.one PoolStep.section).append hrun

end Atomic
