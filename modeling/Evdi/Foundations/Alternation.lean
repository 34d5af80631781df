import Mathlib.Tactic

/-!
# Histories with requests and answers

A history is a list of entries, some of them requests (`P`) and some answers (`Q`).

* `Open P Q l`: some request of `l` has no answer behind it;
* `Separated P Q l`: between two requests of `l` there is an answer.

Both are followed as the history grows at its end: `Open.of_append`, `Separated.append`,
`Separated.append_request`.
-/

namespace Alternation

variable {α : Type*} {P Q : α → Prop}

/-- A request with no answer behind it. -/
def Open (P Q : α → Prop) (l : List α) : Prop :=
  ∃ before x rest, l = before ++ x :: rest ∧ P x ∧ ∀ z ∈ rest, ¬ Q z

/-- Between two requests there is an answer. -/
def Separated (P Q : α → Prop) (l : List α) : Prop :=
  ∀ before x mid y rest, l = before ++ x :: mid ++ y :: rest → P x → P y → ∃ z ∈ mid, Q z

theorem separated_nil : Separated P Q [] := by
  intro before x mid y rest h
  simp at h

theorem not_open_nil : ¬ Open P Q [] := by
  rintro ⟨before, x, rest, h, -⟩
  simp at h

/-- What is open after entries without a request was open before, and none of them is an answer. -/
theorem Open.of_append {l new : List α} (h : Open P Q (l ++ new)) (hnew : ∀ z ∈ new, ¬ P z) :
    Open P Q l ∧ ∀ z ∈ new, ¬ Q z := by
  obtain ⟨before, x, rest, heq, hx, hrest⟩ := h
  rcases List.append_eq_append_iff.1 heq with ⟨as, -, hnew'⟩ | ⟨as, hl, hrest'⟩
  · exact absurd hx (hnew x (by simp [hnew']))
  · cases as with
    | nil => exact absurd hx (hnew x (by rw [List.nil_append] at hrest'; simp [← hrest']))
    | cons a as =>
      obtain ⟨rfl, rfl⟩ := List.cons_eq_cons.1 hrest'
      refine ⟨⟨before, x, as, hl, hx, fun z hz => hrest z (by simp [hz])⟩, fun z hz => ?_⟩
      exact hrest z (by simp [hz])

/-- A history stays separated when no request is added. -/
theorem Separated.append {l new : List α} (h : Separated P Q l) (hnew : ∀ z ∈ new, ¬ P z) :
    Separated P Q (l ++ new) := by
  intro before x mid y rest heq hx hy
  rcases List.append_eq_append_iff.1 heq with ⟨as, -, hnew'⟩ | ⟨as, hl, hrest⟩
  · exact absurd hy (hnew y (by simp [hnew']))
  · cases as with
    | nil => exact absurd hy (hnew y (by rw [List.nil_append] at hrest; simp [← hrest]))
    | cons a as =>
      obtain ⟨rfl, -⟩ := List.cons_eq_cons.1 hrest
      exact h before x mid y as hl hx hy

/-- A request may be added when none is open. -/
theorem Separated.append_request {l : List α} {x : α} (h : Separated P Q l) (hopen : ¬ Open P Q l) :
    Separated P Q (l ++ [x]) := by
  intro before y mid z rest heq hy hz
  rcases List.append_eq_append_iff.1 heq with ⟨as, hl, hnew⟩ | ⟨as, hl, hrest⟩
  · -- the new request is the second of the two
    have has : as = [] := by
      cases as with
      | nil => rfl
      | cons a as => simp at hnew
    rw [has, List.append_nil] at hl
    by_contra hmid
    exact hopen ⟨before, y, mid, hl.symm, hy, fun w hw hq => hmid ⟨w, hw, hq⟩⟩
  · cases as with
    | nil =>
      rw [List.append_nil] at hl
      by_contra hmid
      exact hopen ⟨before, y, mid, hl, hy, fun w hw hq => hmid ⟨w, hw, hq⟩⟩
    | cons a as =>
      obtain ⟨rfl, -⟩ := List.cons_eq_cons.1 hrest
      exact h before y mid z as hl hy hz

end Alternation
