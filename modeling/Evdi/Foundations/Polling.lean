import Evdi.Foundations.Interference

/-!
# Polling

`while (again(r = call()) && cnt--) pause();`: a call that is made again, after a pause, until its result
is one to stop at or the pauses are used up.

* `Prog.poll`: the loop, with at most `n` pauses and `n + 1` calls;
* `Prog.under_poll`: what it ends in among other parties, with an invariant that counts the pauses left;
* `Prog.under_poll_first`: the first call is enough.
-/

namespace Atomic.Prog

variable {σ β : Type}

/-- The loop, with at most `n` pauses. -/
def poll (again : β → Bool) (call : Prog σ β) (pause : Prog σ Unit) : ℕ → Prog σ β
  | 0 => call
  | n + 1 => call >>= fun b => if again b then pause >>= fun _ => poll again call pause n else .pure b

variable {R : σ → σ → Prop} {again : β → Bool} {call : Prog σ β} {pause : Prog σ Unit}

/-- **Polling rule.** `I n` holds before a call with `n` pauses left, and `J n` after one that is to be
made again. -/
theorem under_poll {I J : ℕ → σ → Prop} {Q : β → σ → Prop}
    (hcall : ∀ n s, I n s → call.Under R (fun b t => if again b then J n t else Q b t) s)
    (hpause : ∀ n s, J (n + 1) s → pause.Under R (fun _ t => I n t) s)
    (hlast : ∀ b s, again b = true → J 0 s → Q b s) (n : ℕ) {s : σ} (hs : I n s) :
    (poll again call pause n).Under R Q s := by
  induction n generalizing s with
  | zero =>
    refine (hcall 0 s hs).mono fun b t ht => ?_
    split_ifs at ht with hagain
    · exact hlast b t hagain ht
    · exact ht
  | succ n ih =>
    refine Under.bind ((hcall (n + 1) s hs).mono fun b t ht => ?_)
    split_ifs at ht ⊢ with hagain
    · exact Under.bind ((hpause n t ht).mono fun _ u hu => ih hu)
    · exact ht

theorem under_poll_first {Q : β → σ → Prop} {s : σ}
    (h : call.Under R (fun b t => again b = false ∧ Q b t) s) (n : ℕ) :
    (poll again call pause n).Under R Q s := by
  cases n with
  | zero => exact h.mono fun _ _ ht => ht.2
  | succ n =>
    refine Under.bind (h.mono fun b t ht => ?_)
    rw [ht.1]
    exact ht.2

end Atomic.Prog
