import Mathlib.Tactic

/-!
# Machine words and packed structures

C integer arithmetic of 32 bits on `ℕ` and `ℤ` (`u32`, `s32`), and the bytes of a little-endian
structure: `pack` lays out a list of fields, each given by its size in bytes and its value (padding is
a field), `field` reads one of them back, and `patch` overwrites some bytes.
-/

namespace Words

/-! ### Wrap-around -/

/-- Truncation to an unsigned word of 32 bits. -/
def u32 (n : ℕ) : ℕ := n % 2 ^ 32

/-- Conversion to a signed word of 32 bits, in two's complement. -/
def s32 (z : ℤ) : ℤ := z.bmod (2 ^ 32)

theorem s32_of_bounds {z : ℤ} (hl : -2 ^ 31 ≤ z) (hu : z < 2 ^ 31) : s32 z = z :=
  Int.bmod_eq_of_le (by norm_num at *; omega) (by norm_num at *; omega)

theorem s32_u32 (n : ℕ) : s32 (u32 n) = s32 n := by
  simp [s32, u32, Int.bmod]

theorem s32_natCast {n : ℕ} (h : n < 2 ^ 31) : s32 n = n :=
  s32_of_bounds (by omega) (by omega)

/-- A value that does not fit comes out at least `2 ^ 32` too small. -/
theorem s32_le_sub {z : ℤ} (h : 2 ^ 31 ≤ z) : s32 z ≤ z - 2 ^ 32 := by
  have hlt : s32 z < 2 ^ 31 := by
    have := Int.bmod_lt (x := z) (m := 2 ^ 32) (by norm_num)
    norm_num at this ⊢
    exact this
  have hdvd : ((2 : ℤ) ^ 32) ∣ z - s32 z := by
    have := Int.dvd_self_sub_bmod (x := z) (m := 2 ^ 32)
    simpa [s32] using this
  obtain ⟨k, hk⟩ := hdvd
  omega

/-- Masking off the low `k` bits of a word of `w` bits rounds down to a multiple of `2 ^ k`. -/
theorem and_highMask {n k w : ℕ} (hk : k ≤ w) (hn : n < 2 ^ w) :
    n &&& (2 ^ w - 2 ^ k) = n / 2 ^ k * 2 ^ k := by
  have hmask : 2 ^ w - 2 ^ k = (2 ^ (w - k) - 1) <<< k := by
    rw [Nat.shiftLeft_eq, Nat.sub_mul, ← pow_add, Nat.sub_add_cancel hk, one_mul]
  have hround : n / 2 ^ k * 2 ^ k = (n >>> k) <<< k := by
    rw [Nat.shiftLeft_eq, Nat.shiftRight_eq_div_pow]
  rw [hmask, hround]
  apply Nat.eq_of_testBit_eq
  intro i
  simp only [Nat.testBit_and, Nat.testBit_shiftLeft, Nat.testBit_shiftRight,
    Nat.testBit_two_pow_sub_one]
  by_cases hki : k ≤ i
  · by_cases hiw : i - k < w - k
    · simp [hki, hiw]
    · -- above the word no bit is set
      have hbit : n.testBit i = false :=
        Nat.testBit_lt_two_pow (hn.trans_le (Nat.pow_le_pow_right (by norm_num) (by omega)))
      simp [hki, hbit]
  · simp [hki]

/-- Division by one less than a base, as a multiplication and a shift by two digits of the base.  It is
exact up to the largest number of two digits, which it is not. -/
theorem div_pred_base {d t : ℕ} (ht : t + 1 < (d + 1) * (d + 1)) (hd : 0 < d) :
    (t + (t + 1) * (d + 1)) / ((d + 1) * (d + 1)) = t / d := by
  obtain ⟨q, r, hr, rfl⟩ : ∃ q r, r < d ∧ t = d * q + r :=
    ⟨t / d, t % d, Nat.mod_lt t hd, (Nat.div_add_mod t d).symm⟩
  have hq : q ≤ d + 1 := by
    by_contra hq
    have hmul : d * (d + 2) ≤ d * q := Nat.mul_le_mul_left d (by omega)
    have hsq : (d + 1) * (d + 1) = d * (d + 2) + 1 := by ring
    omega
  have hquotient : (d * q + r) / d = q := by
    rw [Nat.mul_add_div hd, Nat.div_eq_of_lt hr, Nat.add_zero]
  -- what is left over after `q` times the square of the base
  have hrest : d * q + r + (d * q + r + 1) * (d + 1) + q =
      (d + 1) * (d + 1) * q + ((d + 2) * r + (d + 1)) := by ring
  have hsmall : (d + 2) * r + (d + 2) ≤ (d + 2) * d := by
    have hmul := Nat.mul_le_mul_left (d + 2) (Nat.succ_le_of_lt hr)
    rwa [Nat.mul_succ] at hmul
  have hsq : (d + 1) * (d + 1) = (d + 2) * d + 1 := by ring
  rw [hquotient]
  refine Nat.div_eq_of_lt_le ?_ ?_
  · rw [Nat.mul_comm]
    omega
  · have hnext : (q + 1) * ((d + 1) * (d + 1)) = (d + 1) * (d + 1) * q + (d + 1) * (d + 1) := by ring
    rw [hnext]
    omega

/-- A word put in front of the low `s` bits of another. -/
theorem toNat_or_shiftLeft {x y : UInt32} {s : ℕ} (hs : s < 32) (hx : x.toNat < 2 ^ s)
    (hy : y.toNat * 2 ^ s < 2 ^ 32) :
    (x ||| y <<< UInt32.ofNat s).toNat = x.toNat + y.toNat * 2 ^ s := by
  have hshift : (UInt32.ofNat s).toNat % 32 = s := by
    rw [UInt32.toNat_ofNat_of_lt' (hs.trans (by norm_num)), Nat.mod_eq_of_lt hs]
  rw [UInt32.toNat_or, UInt32.toNat_shiftLeft, hshift, Nat.shiftLeft_eq, Nat.mod_eq_of_lt hy,
    ← Nat.shiftLeft_eq, Nat.or_comm, ← Nat.shiftLeft_add_eq_or_of_lt hx, Nat.shiftLeft_eq, Nat.add_comm]

/-! ### Little-endian bytes -/

/-- The low `n` bytes of `v`, least significant first. -/
def le : ℕ → ℕ → List UInt8
  | 0, _ => []
  | n + 1, v => UInt8.ofNat v :: le n (v / 256)

/-- The value of a list of bytes, least significant first. -/
def ofLe : List UInt8 → ℕ
  | [] => 0
  | b :: bs => b.toNat + 256 * ofLe bs

@[simp] theorem length_le (n v : ℕ) : (le n v).length = n := by
  induction n generalizing v with
  | zero => rfl
  | succ n ih => simp [le, ih]

theorem ofLe_le (n v : ℕ) : ofLe (le n v) = v % 256 ^ n := by
  induction n generalizing v with
  | zero => simp [le, ofLe, Nat.mod_one]
  | succ n ih =>
    have hmod : v % 256 ^ (n + 1) = v % 256 + 256 * (v / 256 % 256 ^ n) := by
      rw [pow_succ', Nat.mod_mul]
    rw [le, ofLe, ih, UInt8.toNat_ofNat', hmod]

theorem le_add (m n v : ℕ) : le (m + n) v = le m v ++ le n (v / 256 ^ m) := by
  induction m generalizing v with
  | zero => simp [le]
  | succ m ih =>
    have hdiv : v / 256 / 256 ^ m = v / 256 ^ (m + 1) := by rw [Nat.div_div_eq_div_mul, pow_succ']
    rw [Nat.succ_add, le, ih, le, hdiv]
    rfl

/-- Two values side by side are one. -/
theorem le_append {m n v w : ℕ} (h : v < 256 ^ m) :
    le m v ++ le n w = le (m + n) (v + 256 ^ m * w) := by
  have hlow : le m (v + 256 ^ m * w) = le m v := by
    clear h
    induction m generalizing v w with
    | zero => rfl
    | succ m ih =>
      have hbyte : UInt8.ofNat (v + 256 ^ (m + 1) * w) = UInt8.ofNat v := by
        rw [pow_succ', mul_assoc]
        apply UInt8.toNat.inj
        simp
      have hrest : (v + 256 ^ (m + 1) * w) / 256 = v / 256 + 256 ^ m * w := by
        rw [pow_succ', mul_assoc, Nat.add_mul_div_left _ _ (by norm_num)]
      rw [le, le, hbyte, hrest, ih]
  have hhigh : (v + 256 ^ m * w) / 256 ^ m = w := by
    rw [Nat.add_mul_div_left _ _ (by positivity), Nat.div_eq_of_lt h, zero_add]
  rw [le_add, hlow, hhigh]

theorem le_zero (n : ℕ) : le n 0 = List.replicate n 0 := by
  induction n with
  | zero => rfl
  | succ n ih => rw [le, Nat.zero_div, ih]; rfl

/-! ### Structures -/

/-- The bytes of a structure: each field is a size in bytes and a value. -/
def pack (fields : List (ℕ × ℕ)) : List UInt8 := fields.flatMap fun f => le f.1 f.2

/-- The value of the field of `size` bytes at an offset. -/
def field (bs : List UInt8) (offset size : ℕ) : ℕ := ofLe ((bs.drop offset).take size)

/-- Overwrite the bytes at an offset. -/
def patch (bs : List UInt8) (offset : ℕ) (new : List UInt8) : List UInt8 :=
  bs.take offset ++ new ++ bs.drop (offset + new.length)

@[simp] theorem pack_nil : pack [] = [] := rfl

@[simp] theorem pack_cons (f : ℕ × ℕ) (fs : List (ℕ × ℕ)) :
    pack (f :: fs) = le f.1 f.2 ++ pack fs := rfl

/-- The field at the front. -/
theorem field_le (n v : ℕ) (rest : List UInt8) : field (le n v ++ rest) 0 n = v % 256 ^ n := by
  rw [field, List.drop_zero, List.take_left' (length_le n v), ofLe_le]

/-- The only field. -/
theorem field_le_self (n v : ℕ) : field (le n v) 0 n = v % 256 ^ n := by
  simpa using field_le n v []

/-- A field behind `n` bytes. -/
theorem field_append {front : List UInt8} {n offset : ℕ} (hn : front.length = n) (rest : List UInt8)
    (size : ℕ) (h : n ≤ offset) :
    field (front ++ rest) offset size = field rest (offset - n) size := by
  obtain ⟨k, rfl⟩ := Nat.exists_eq_add_of_le h
  rw [field, field, ← List.drop_drop, List.drop_left' hn, Nat.add_sub_cancel_left]

/-- A field behind the one at the front. -/
theorem field_of_le {n v offset : ℕ} (rest : List UInt8) (size : ℕ) (h : n ≤ offset) :
    field (le n v ++ rest) offset size = field rest (offset - n) size :=
  field_append (length_le n v) rest size h

/-- A field of the front bytes. -/
theorem field_take (bs : List UInt8) {offset size n : ℕ} (h : offset + size ≤ n) :
    field (bs.take n) offset size = field bs offset size := by
  rw [field, field, List.drop_take, List.take_take, min_eq_left (by omega)]

/-- The field overwritten. -/
theorem field_patch {bs : List UInt8} {offset : ℕ} (n v : ℕ) (h : offset ≤ bs.length) :
    field (patch bs offset (le n v)) offset n = v % 256 ^ n := by
  have hdrop : (patch bs offset (le n v)).drop offset =
      le n v ++ bs.drop (offset + (le n v).length) := by
    rw [patch, List.append_assoc, List.drop_left' (List.length_take_of_le h)]
  rw [field, hdrop, List.take_left' (length_le n v), ofLe_le]

theorem length_le_patch (bs new : List UInt8) (offset : ℕ) :
    bs.length ≤ (patch bs offset new).length := by
  simp only [patch, List.length_append, List.length_take, List.length_drop]
  omega

theorem length_patch {bs new : List UInt8} {offset : ℕ} (h : offset + new.length ≤ bs.length) :
    (patch bs offset new).length = bs.length := by
  simp only [patch, List.length_append, List.length_take, List.length_drop]
  omega

end Words
