import Mathlib.Tactic

/-!
# Runs of labelled transition relations

A labelled transition relation is a map `step : σ → α → σ → Prop`.  A run is a finite sequence of
steps; `Run.invariant` is the induction a safety proof needs: a predicate preserved by every step holds
in every state a run reaches.

For deterministic systems with outputs, `outputs` lists what a sequence of calls answers, and
`outputs_eq_of_rel` is the relational (two-run) rule.
-/

namespace Transition

variable {σ α β : Type*}

/-- A finite run: the labels taken, in order, from one state to another. -/
inductive Run (step : σ → α → σ → Prop) : σ → List α → σ → Prop
  | nil (s : σ) : Run step s [] s
  | snoc {s t u : σ} {as : List α} {a : α} :
      Run step s as t → step t a u → Run step s (as ++ [a]) u

variable {step : σ → α → σ → Prop}

theorem Run.one {s t : σ} {a : α} (h : step s a t) : Run step s [a] t :=
  Run.snoc (Run.nil s) h

theorem Run.append {s t u : σ} {as bs : List α} (h : Run step s as t) (h' : Run step t bs u) :
    Run step s (as ++ bs) u := by
  induction h' with
  | nil => simpa using h
  | snoc _ hs ih => rw [← List.append_assoc]; exact ih.snoc hs

/-- Steps that are steps of another relation, seen through `f` and `g`, make its runs. -/
theorem Run.map {τ γ : Type*} {step' : τ → γ → τ → Prop} (f : σ → τ) (g : α → γ)
    (hstep : ∀ s a t, step s a t → step' (f s) (g a) (f t)) {s t : σ} {as : List α}
    (h : Run step s as t) : Run step' (f s) (as.map g) (f t) := by
  induction h with
  | nil => exact Run.nil _
  | snoc _ hs ih =>
    rw [List.map_append]
    exact ih.snoc (hstep _ _ _ hs)

/-- **Invariant rule.** -/
theorem Run.invariant {I : σ → Prop} (hI : ∀ s a t, I s → step s a t → I t) {s t : σ}
    {as : List α} (h : Run step s as t) (h0 : I s) : I t := by
  induction h with
  | nil => exact h0
  | snoc _ hs ih => exact hI _ _ _ ih hs

/-! ### Deterministic systems with outputs -/

/-- The state after a sequence of calls. -/
def after (call : σ → α → σ × β) (s : σ) (as : List α) : σ :=
  as.foldl (fun s a => (call s a).1) s

/-- The answers to a sequence of calls. -/
def outputs (call : σ → α → σ × β) : σ → List α → List β
  | _, [] => []
  | s, a :: as => (call s a).2 :: outputs call (call s a).1 as

@[simp] theorem after_nil (call : σ → α → σ × β) (s : σ) : after call s [] = s := rfl

@[simp] theorem after_cons (call : σ → α → σ × β) (s : σ) (a : α) (as : List α) :
    after call s (a :: as) = after call (call s a).1 as := rfl

/-- **Relational rule.** Related states that stay related and answer alike give equal answers
to every sequence of calls. -/
theorem outputs_eq_of_rel {call : σ → α → σ × β} {R : σ → σ → Prop}
    (hR : ∀ s t a, R s t → R (call s a).1 (call t a).1 ∧ (call s a).2 = (call t a).2)
    {s t : σ} (h : R s t) (as : List α) : outputs call s as = outputs call t as := by
  induction as generalizing s t with
  | nil => rfl
  | cons a as ih =>
    obtain ⟨hst, hout⟩ := hR s t a h
    rw [outputs, outputs, hout, ih hst]

end Transition
