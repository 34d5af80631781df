import Mathlib.Tactic

/-!
# Retry loops

`do r = call(); while (again(r))`: the call is made again until its result is one to stop at.  The state
is all that a call changes, and what the calls to come will find.

* `retry`: the loop, with at most `n` calls;
* `Returns`: some number of calls is enough;
* `not_returns`: the loop never ends when every call keeps an invariant and asks for another call.
-/

namespace Retry

variable {σ β : Type*}

/-- The loop, given up after `n` calls. -/
def retry (again : β → Bool) (call : σ → σ × β) : ℕ → σ → Option (σ × β)
  | 0, _ => none
  | n + 1, s => if again (call s).2 then retry again call n (call s).1 else some (call s)

/-- The loop ends, with the state and the result `r`. -/
def Returns (again : β → Bool) (call : σ → σ × β) (s : σ) (r : σ × β) : Prop :=
  ∃ n, retry again call n s = some r

variable {again : β → Bool} {call : σ → σ × β}

theorem returns_of_stop {s : σ} (h : again (call s).2 = false) : Returns again call s (call s) :=
  ⟨1, by simp [retry, h]⟩

theorem returns_of_again {s : σ} {r : σ × β} (h : again (call s).2 = true)
    (hr : Returns again call (call s).1 r) : Returns again call s r := by
  obtain ⟨n, hn⟩ := hr
  exact ⟨n + 1, by rw [retry, if_pos h, hn]⟩

/-- **Spinning rule.** -/
theorem not_returns {I : σ → Prop} (hI : ∀ s, I s → I (call s).1 ∧ again (call s).2 = true) {s : σ}
    (h : I s) (n : ℕ) : retry again call n s = none := by
  induction n generalizing s with
  | zero => rfl
  | succ n ih =>
    obtain ⟨hnext, hagain⟩ := hI s h
    rw [retry, if_pos hagain, ih hnext]

end Retry
