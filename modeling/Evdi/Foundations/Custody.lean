import Evdi.Foundations.Section
import Mathlib.Algebra.BigOperators.Group.List.Basic

/-!
# What threads have in hand

Threads take things out of the shared state, carry them through their sections, and put them back.
What the threads have in hand is counted in a commutative monoid `M` (a multiset of tokens, say), and
`B s m` says that the state `s` and all that is in hand, `m`, balance.

* `Prog.Carries B m p n`: from `m` in hand to `n`, whatever the others have in hand, `p` keeps the
  balance, section by section;
* `Prog.Carries.bind` and its companions: the rules of the constructs;
* `PoolStep.custody`: threads that start and end with empty hands keep the balance of the pool.
-/

namespace Atomic

variable {σ α β : Type} {M : Type*} [AddCommMonoid M]

namespace Prog

/-- The program starts with `m` in hand and ends with `n a` in hand, where `a` is its value. -/
def Carries (B : σ → M → Prop) : M → Prog σ α → (α → M) → Prop
  | m, .pure a, n => m = n a
  | m, .sec f k, n => ∀ s rest, B s (m + rest) →
      ∃ m', B (f s) (m' + rest) ∧ (k s).Carries B m' n

/-- The program starts and ends with empty hands. -/
def Settles (B : σ → M → Prop) (p : Prog σ α) : Prop := p.Carries B 0 fun _ => 0

variable {B : σ → M → Prop}

theorem settles_pure (a : α) : (Prog.pure a : Prog σ α).Settles B := rfl

/-- One section. -/
theorem carries_act {f : σ → σ × α} {m : M} {n : α → M}
    (h : ∀ s rest, B s (m + rest) → B (f s).1 (n (f s).2 + rest)) : (act f).Carries B m n :=
  fun s _ hB => ⟨n (f s).2, h s _ hB, rfl⟩

theorem carries_modify {f : σ → σ} {m n : M} (h : ∀ s rest, B s (m + rest) → B (f s) (n + rest)) :
    (modify f).Carries B m fun _ => n :=
  fun s _ hB => ⟨n, h s _ hB, rfl⟩

/-- A section that takes nothing and puts nothing back. -/
theorem settles_modify {f : σ → σ} (h : ∀ s m, B s m → B (f s) m) : (modify f).Settles B :=
  carries_modify fun s _ hB => h s _ hB

theorem settles_act {f : σ → σ × α} (h : ∀ s m, B s m → B (f s).1 m) : (act f).Settles B :=
  carries_act fun s _ hB => h s _ hB

theorem carries_read (f : σ → α) (m : M) : (read f).Carries B m fun _ => m :=
  fun _ _ hB => ⟨m, hB, rfl⟩

theorem settles_read (f : σ → α) : (read f).Settles B := carries_read f 0

/-- Sequencing. -/
theorem Carries.bind {p : Prog σ α} {k : α → Prog σ β} {m : M} {n : α → M} {r : β → M}
    (hp : p.Carries B m n) (hk : ∀ a, (k a).Carries B (n a) r) : (p >>= k).Carries B m r := by
  induction p generalizing m with
  | pure a =>
    have hm : m = n a := hp
    rw [hm]
    exact hk a
  | sec f g ih =>
    intro s rest hB
    obtain ⟨m', hB', hg⟩ := hp s rest hB
    exact ⟨m', hB', ih s hg⟩

theorem Settles.bind {p : Prog σ α} {k : α → Prog σ β} (hp : p.Settles B)
    (hk : ∀ a, (k a).Settles B) : (p >>= k).Settles B :=
  Carries.bind hp hk

theorem settles_when {c : Bool} {p : Prog σ Unit} (hp : p.Settles B) : (when c p).Settles B := by
  cases c
  · exact settles_pure ()
  · exact hp

theorem settles_each {f : β → Prog σ Unit} (hf : ∀ b, (f b).Settles B) (bs : List β) :
    (each f bs).Settles B := by
  induction bs with
  | nil => exact settles_pure ()
  | cons b bs ih => exact (hf b).bind fun _ => ih

/-- **Frame.** What else is in hand stays there. -/
theorem Carries.frame {p : Prog σ α} {m : M} {n : α → M} (hp : p.Carries B m n) (r : M) :
    p.Carries B (m + r) fun a => n a + r := by
  induction p generalizing m with
  | pure a =>
    have hm : m = n a := hp
    exact congrArg (· + r) hm
  | sec f g ih =>
    intro s rest hB
    rw [add_assoc] at hB
    obtain ⟨m', hB', hg⟩ := hp s _ hB
    rw [← add_assoc] at hB'
    exact ⟨m' + r, hB', ih s hg⟩

theorem Settles.frame {p : Prog σ α} (hp : p.Settles B) (r : M) : p.Carries B r fun _ => r := by
  have hframe := Carries.frame hp r
  rwa [zero_add] at hframe

/-- Without interference, the balance is kept from the start to the end. -/
theorem Carries.exec {p : Prog σ α} {m rest : M} {n : α → M} (hp : p.Carries B m n) {s : σ}
    (hB : B s (m + rest)) : B (p.exec s).1 (n (p.exec s).2 + rest) := by
  induction p generalizing m s with
  | pure a =>
    have hm : m = n a := hp
    rw [hm] at hB
    exact hB
  | sec f g ih =>
    obtain ⟨m', hB', hg⟩ := hp s rest hB
    exact ih s hg hB'

theorem Settles.exec {p : Prog σ α} (hp : p.Settles B) {s : σ} {m : M} (hB : B s m) :
    B (p.exec s).1 m := by
  have hstart : B s (0 + m) := by rwa [zero_add]
  have hend := Carries.exec hp hstart
  rwa [zero_add] at hend

/-- A program that is one section. -/
theorem Settles.atomically {p : Prog σ α} (hp : p.Settles B) : p.atomically.Settles B :=
  settles_act fun _ _ hB => hp.exec hB

end Prog

/-! ### Pools of threads -/

/-- The hands of the threads, and the balance of what is in them. -/
def Custody (B : σ → M → Prop) (s : σ) (ts : List (Prog σ Unit)) (hands : List M) : Prop :=
  List.Forall₂ (fun p m => p.Carries B m fun _ => 0) ts hands ∧ B s hands.sum

variable {B : σ → M → Prop}

/-- The hand of one thread among the others. -/
theorem forall₂_split {γ δ : Type*} {R : γ → δ → Prop} {l r : List γ} {a : γ} {bs : List δ}
    (h : List.Forall₂ R (l ++ a :: r) bs) :
    ∃ l' b r', bs = l' ++ b :: r' ∧ List.Forall₂ R l l' ∧ R a b ∧ List.Forall₂ R r r' := by
  induction l generalizing bs with
  | nil =>
    cases h with
    | @cons _ b _ r' hab hr => exact ⟨[], b, r', rfl, List.Forall₂.nil, hab, hr⟩
  | cons x l ih =>
    cases h with
    | @cons _ y _ bs hxy hrest =>
      obtain ⟨l', b, r', rfl, hl, hab, hr⟩ := ih hrest
      exact ⟨y :: l', b, r', rfl, List.Forall₂.cons hxy hl, hab, hr⟩

/-- **Pool rule.** Threads that start with empty hands, and end so, keep the balance. -/
theorem PoolStep.custody {spawn : Prog σ Unit → Prop} (hspawn : ∀ p, spawn p → p.Settles B)
    {s t : σ} {ts us : List (Prog σ Unit)} {a : Unit} {hands : List M}
    (h : PoolStep spawn (s, ts) a (t, us)) (hc : Custody B s ts hands) :
    ∃ hands', Custody B t us hands' := by
  obtain ⟨hhands, hB⟩ := hc
  rcases h with hp | ⟨⟩
  · refine ⟨hands ++ [0], List.rel_append hhands ?_, by simpa using hB⟩
    exact List.Forall₂.cons (hspawn _ hp) List.Forall₂.nil
  · rename_i l r f k
    obtain ⟨l', m, r', rfl, hl, hsec, hr⟩ := forall₂_split hhands
    have hsplit : ∀ m : M, (l' ++ m :: r').sum = m + (l'.sum + r'.sum) := fun m => by
      rw [List.sum_append, List.sum_cons, add_left_comm]
    rw [hsplit] at hB
    obtain ⟨m', hB', hk⟩ := hsec s _ hB
    exact ⟨l' ++ m' :: r', List.rel_append hl (List.Forall₂.cons hk hr), by rwa [hsplit]⟩

/-- When all threads are over, nothing is in hand. -/
theorem Custody.over {s : σ} {ts : List (Prog σ Unit)} {hands : List M} (hc : Custody B s ts hands)
    (hts : ∀ p ∈ ts, p = .pure ()) : B s 0 := by
  obtain ⟨hhands, hB⟩ := hc
  have hzero : hands.sum = 0 := by
    clear hB
    induction hhands with
    | nil => rfl
    | @cons p m ts hands hp hrest ih =>
      have hover : p = .pure () := hts p List.mem_cons_self
      subst hover
      have hm : m = 0 := hp
      rw [List.sum_cons, hm, zero_add]
      exact ih fun q hq => hts q (List.mem_cons_of_mem _ hq)
  rwa [hzero] at hB

end Atomic
