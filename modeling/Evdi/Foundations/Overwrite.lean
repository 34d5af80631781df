import Mathlib.Tactic

/-!
# Partial overwrites

A copy into a memory changes some of its cells.  `Overwrites dst val S b b'` says that `b'` is `b` with
the cells `S` set: the cell `c` lies at the address `dst c` and gets the value `val c`, and nothing else
changes.  Copies compose (`Overwrites.union`) as long as two cells at one address have one value, which
holds for the pixels of a raster whose rows do not overlap (`cell_injOn`).
-/

namespace Overwrite

variable {ι κ α β : Type*}

/-- `b'` is `b` with the cells of `S` set to their values. -/
structure Overwrites (dst : ι → α) (val : ι → β) (S : Set ι) (b b' : α → β) : Prop where
  fresh : ∀ c ∈ S, b' (dst c) = val c
  frame : ∀ a, (∀ c ∈ S, dst c ≠ a) → b' a = b a

variable {dst : ι → α} {val : ι → β} {S T : Set ι} {b b' b'' : α → β}

/-- What changed is a cell. -/
theorem Overwrites.changed (h : Overwrites dst val S b b') {a : α} (ha : b' a ≠ b a) :
    ∃ c ∈ S, dst c = a := by
  by_contra hnone
  push Not at hnone
  exact ha (h.frame a hnone)

theorem Overwrites.refl_of_empty (hS : ∀ c, c ∉ S) : Overwrites dst val S b b where
  fresh := fun c hc => absurd hc (hS c)
  frame := fun _ _ => rfl

/-- One overwrite after another. -/
theorem Overwrites.union (h : Overwrites dst val S b b') (h' : Overwrites dst val T b' b'')
    (hval : ∀ c ∈ S, ∀ c' ∈ T, dst c = dst c' → val c = val c') :
    Overwrites dst val (S ∪ T) b b'' where
  fresh := by
    rintro c (hc | hc)
    · by_cases hagain : ∃ c' ∈ T, dst c' = dst c
      · obtain ⟨c', hc', heq⟩ := hagain
        rw [← heq, h'.fresh c' hc', hval c hc c' hc' heq.symm]
      · push Not at hagain
        rw [h'.frame _ hagain, h.fresh c hc]
    · exact h'.fresh c hc
  frame := by
    intro a ha
    rw [h'.frame a fun c hc => ha c (.inr hc), h.frame a fun c hc => ha c (.inl hc)]

/-- The same cells under other names. -/
theorem Overwrites.reindex {dst' : κ → α} {val' : κ → β} {S' : Set κ} {f : ι → κ}
    (h : Overwrites dst val S b b') (hf : ∀ c ∈ S, f c ∈ S' ∧ dst' (f c) = dst c ∧
      val' (f c) = val c) (hsurj : ∀ c' ∈ S', ∃ c ∈ S, f c = c') :
    Overwrites dst' val' S' b b' where
  fresh := by
    intro c' hc'
    obtain ⟨c, hc, rfl⟩ := hsurj c' hc'
    obtain ⟨-, hdst, hval⟩ := hf c hc
    rw [hdst, hval, h.fresh c hc]
  frame := by
    intro a ha
    refine h.frame a fun c hc heq => ?_
    obtain ⟨hmem, hdst, -⟩ := hf c hc
    exact ha (f c) hmem (hdst.trans heq)

/-! ### Rasters -/

/-- The address of byte `c.2` of the pixel in column `c.1.1` and row `c.1.2`, when rows are `pitch`
bytes apart, downwards or upwards, and pixels have `size` bytes. -/
def cell (base pitch : ℤ) (size : ℕ) (c : (ℕ × ℕ) × ℕ) : ℤ :=
  base + (pitch * c.1.2 + (size * c.1.1 + c.2 : ℕ))

/-- Bytes counted along the row of a pixel, and rows below it. -/
theorem cell_shift (base pitch : ℤ) (size x y k j : ℕ) :
    cell base pitch size ((x + j / size, y + k), j % size) =
      cell base pitch size ((x, y), 0) + pitch * k + j := by
  have hbyte : (size : ℤ) * ((j / size : ℕ) : ℤ) + ((j % size : ℕ) : ℤ) = j := by
    exact_mod_cast Nat.div_add_mod j size
  simp only [cell]
  push_cast at hbyte ⊢
  linear_combination hbyte

/-- The bytes of the pixels of `P`. -/
def cells (size : ℕ) (P : Set (ℕ × ℕ)) : Set ((ℕ × ℕ) × ℕ) := {c | c.1 ∈ P ∧ c.2 < size}

/-- Where a place in a row ends: quotient and rest tell the column and the byte. -/
theorem divMod_unique {n q r q' r' : ℕ} (hr : r < n) (hr' : r' < n)
    (h : n * q + r = n * q' + r') : q = q' ∧ r = r' := by
  have hpos : 0 < n := by omega
  have hq : q = q' := by
    have hdiv := congrArg (· / n) h
    simpa [Nat.mul_add_div hpos, Nat.div_eq_of_lt hr, Nat.div_eq_of_lt hr'] using hdiv
  subst hq
  exact ⟨rfl, by omega⟩

/-- The same for rows of either direction. -/
theorem row_unique {pitch : ℤ} {y r y' r' : ℕ} (hr : r < pitch.natAbs) (hr' : r' < pitch.natAbs)
    (h : pitch * y + r = pitch * y' + r') : y = y' ∧ r = r' := by
  obtain ⟨n, rfl | rfl⟩ := pitch.eq_nat_or_neg
  · exact divMod_unique hr hr' (by exact_mod_cast h)
  · rw [Int.natAbs_neg, Int.natAbs_natCast] at hr hr'
    -- upwards, the rows change sides
    have hswap : ((n * y' + r : ℕ) : ℤ) = (n * y + r' : ℕ) := by
      push_cast
      linear_combination h
    obtain ⟨rfl, rfl⟩ := divMod_unique hr hr' (Int.ofNat_inj.1 hswap)
    exact ⟨rfl, rfl⟩

/-- In a raster of `w` columns whose rows do not overlap, no two bytes share an address. -/
theorem cell_injOn_natAbs {base pitch : ℤ} {size w : ℕ} (hpitch : size * w ≤ pitch.natAbs)
    {c c' : (ℕ × ℕ) × ℕ} (hc : c.1.1 < w) (hc' : c'.1.1 < w) (hb : c.2 < size) (hb' : c'.2 < size)
    (h : cell base pitch size c = cell base pitch size c') : c = c' := by
  have hrow : ∀ x i : ℕ, x < w → i < size → size * x + i < pitch.natAbs := by
    intro x i hx hi
    have hcol : size * (x + 1) ≤ size * w := Nat.mul_le_mul_left _ hx
    rw [Nat.mul_succ] at hcol
    omega
  obtain ⟨⟨x, y⟩, i⟩ := c
  obtain ⟨⟨x', y'⟩, i'⟩ := c'
  obtain ⟨rfl, hoff⟩ := row_unique (hrow _ _ hc hb) (hrow _ _ hc' hb') (add_left_cancel h)
  obtain ⟨rfl, rfl⟩ := divMod_unique hb hb' hoff
  rfl

/-- The same where each row is below the last. -/
theorem cell_injOn {base : ℤ} {pitch size w : ℕ} (hpitch : size * w ≤ pitch)
    {c c' : (ℕ × ℕ) × ℕ} (hc : c.1.1 < w) (hc' : c'.1.1 < w) (hb : c.2 < size) (hb' : c'.2 < size)
    (h : cell base pitch size c = cell base pitch size c') : c = c' :=
  cell_injOn_natAbs (by rwa [Int.natAbs_natCast]) hc hc' hb hb' h

end Overwrite
