import Mathlib.Tactic

/-!
# While loops

`while (cond) body`, on a state that holds all the loop reads and changes.

* `whileLoop`: the loop, given up after `n` turns;
* `whileLoop_stop` and `whileLoop_turn`: its two rules.  A loop over a list of records is run by
  induction on the records, with one `whileLoop_turn` for each;
* `whileLoop_total`: an invariant and a variant give the end of the loop and what holds there;
* `whileLoop_none`: an invariant under which the condition holds keeps the loop turning for ever;
* `whileLoop_map`: loops whose states are related turn by turn end together.
-/

namespace While

variable {σ : Type*}

/-- The loop, given up after `n` turns. -/
def whileLoop (cond : σ → Bool) (body : σ → σ) : ℕ → σ → Option σ
  | 0, s => if cond s then none else some s
  | n + 1, s => if cond s then whileLoop cond body n (body s) else some s

variable {cond : σ → Bool} {body : σ → σ} {s : σ}

theorem whileLoop_stop (h : cond s = false) (n : ℕ) : whileLoop cond body n s = some s := by
  cases n <;> simp [whileLoop, h]

theorem whileLoop_turn (h : cond s = true) (n : ℕ) :
    whileLoop cond body (n + 1) s = whileLoop cond body n (body s) := by
  rw [whileLoop, if_pos h]

/-- An invariant, and a variant that every turn brings down. -/
theorem whileLoop_total {inv : σ → Prop} (variant : σ → ℕ)
    (hbody : ∀ s, inv s → cond s = true → inv (body s) ∧ variant (body s) < variant s)
    (hs : inv s) {n : ℕ} (hn : variant s ≤ n) :
    ∃ t, whileLoop cond body n s = some t ∧ inv t ∧ cond t = false := by
  induction n generalizing s with
  | zero =>
    have hstop : cond s = false := by
      by_contra hgo
      have hlt := (hbody s hs (by simpa using hgo)).2
      omega
    exact ⟨s, whileLoop_stop hstop 0, hs, hstop⟩
  | succ n ih =>
    cases hgo : cond s with
    | false => exact ⟨s, whileLoop_stop hgo _, hs, hgo⟩
    | true =>
      obtain ⟨hinv, hlt⟩ := hbody s hs hgo
      rw [whileLoop_turn hgo]
      exact ih hinv (by omega)

/-- A loop that never ends. -/
theorem whileLoop_none {inv : σ → Prop} (hcond : ∀ s, inv s → cond s = true)
    (hbody : ∀ s, inv s → inv (body s)) (hs : inv s) (n : ℕ) : whileLoop cond body n s = none := by
  induction n generalizing s with
  | zero => rw [whileLoop, if_pos (hcond s hs)]
  | succ n ih =>
    rw [whileLoop_turn (hcond s hs)]
    exact ih (hbody s hs)

/-- Two loops, the second on a state from which that of the first is computed. -/
theorem whileLoop_map {τ : Type*} {cond' : τ → Bool} {body' : τ → τ} (f : τ → σ)
    (hcond : ∀ t, cond (f t) = cond' t) (hbody : ∀ t, body (f t) = f (body' t)) (n : ℕ) (t : τ) :
    whileLoop cond body n (f t) = (whileLoop cond' body' n t).map f := by
  induction n generalizing t with
  | zero => cases hgo : cond' t <;> simp [whileLoop, hcond, hgo]
  | succ n ih => cases hgo : cond' t <;> simp [whileLoop, hcond, hgo, hbody, ih]

end While
