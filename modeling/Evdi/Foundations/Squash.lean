import Mathlib.Tactic

/-!
# Queues that squash

A queue in which a newly submitted entry may replace the entry at the tail.  `Squashed sq s k d`
says what such a queue may do to a submitted sequence `s`: the entries `k` are kept, in order, and
the entries `d` are dropped, where an entry may be dropped only if its immediate successor in `s`
supersedes it (`sq x y`: `y` supersedes `x`).

The two rules for the tail, `Squashed.push` and `Squashed.replace`, are what one submission does.
-/

namespace Squash

variable {ε : Type*}

/-- `k` is `s` without the entries `d`, each of which its immediate successor supersedes. -/
inductive Squashed (sq : ε → ε → Prop) : List ε → List ε → List ε → Prop
  | nil : Squashed sq [] [] []
  | keep {s k d : List ε} (x : ε) : Squashed sq s k d → Squashed sq (x :: s) (x :: k) d
  | drop {s k d : List ε} {x y : ε} :
      sq x y → Squashed sq (y :: s) k d → Squashed sq (x :: y :: s) k (x :: d)

variable {sq : ε → ε → Prop} {s k d : List ε}

/-- The order of submission is kept. -/
theorem Squashed.sublist (h : Squashed sq s k d) : k.Sublist s := by
  induction h with
  | nil => exact .slnil
  | keep x _ ih => exact ih.cons_cons x
  | drop _ _ ih => exact ih.cons _

/-- The last submitted entry is always kept. -/
theorem Squashed.getLast? (h : Squashed sq s k d) : k.getLast? = s.getLast? := by
  induction h with
  | nil => rfl
  | @keep s k d x h ih =>
    cases s with
    | nil => cases h; rfl
    | cons y s =>
      cases k with
      | nil => simp [List.getLast?_cons] at ih
      | cons z k => simpa using ih
  | drop _ _ ih => simpa using ih

/-- Only superseded entries are dropped. -/
theorem Squashed.dropped (h : Squashed sq s k d) : ∀ x ∈ d, ∃ y, sq x y := by
  induction h with
  | nil => simp
  | keep _ _ ih => exact ih
  | drop hxy _ ih =>
    intro z hz
    rcases List.mem_cons.1 hz with rfl | hz
    · exact ⟨_, hxy⟩
    · exact ih z hz

/-- Entries that are never superseded are all kept, in order. -/
theorem Squashed.filter_eq {q : ε → Bool} (hq : ∀ x y, sq x y → q x = false)
    (h : Squashed sq s k d) : k.filter q = s.filter q := by
  induction h with
  | nil => rfl
  | keep x _ ih => rw [List.filter_cons, List.filter_cons, ih]
  | @drop s k d x y hxy _ ih =>
    have hx : ¬ q x = true := by simp [hq x y hxy]
    rw [ih, List.filter_cons_of_neg (l := y :: s) hx]

/-- A submission appended at the tail. -/
theorem Squashed.push (h : Squashed sq s k d) (y : ε) :
    Squashed sq (s ++ [y]) (k ++ [y]) d := by
  induction h with
  | nil => exact .keep y .nil
  | keep x _ ih => exact .keep x ih
  | drop hxy _ ih => exact .drop hxy ih

/-- A submission that replaces the entry at the tail. -/
theorem Squashed.replace {x y : ε} (h : Squashed sq s (k ++ [x]) d) (hxy : sq x y) :
    Squashed sq (s ++ [y]) (k ++ [y]) (d ++ [x]) := by
  generalize hk : k ++ [x] = k' at h
  induction h generalizing k with
  | nil => simp at hk
  | @keep s k' d z h ih =>
    cases k with
    | nil =>
      -- the kept tail is empty, so the whole rest of the submissions is
      obtain ⟨rfl, rfl⟩ : x = z ∧ [] = k' := by simpa using hk
      have hs : s = [] := by simpa using h.getLast?.symm
      subst hs
      cases h
      exact .drop hxy (.keep y .nil)
    | cons w k =>
      obtain ⟨rfl, hk'⟩ : w = z ∧ k ++ [x] = k' := by simpa using hk
      exact .keep w (ih hk')
  | drop hzw _ ih => exact .drop hzw (ih hk)

end Squash
