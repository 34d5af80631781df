import Mathlib.Tactic
import Mathlib.Data.List.DropRight

/-!
# C strings

A C string is the list of its characters, without the zero at its end; a `char *` that may be `NULL`
is an `Option`.

* `strsep`, `strim`, `strnstr`, `kstrtouint`: as in the kernel;
* `strrchr`, `strncmp`, `strtol`: as in the C library;
* `decimal`: what `%u` prints.
-/

namespace CString

/-! ### The functions -/

/-- `isspace` of the kernel, which has the no-break space of Latin-1. -/
def isSpace (c : Char) : Bool := c == ' ' || (9 ≤ c.toNat && c.toNat ≤ 13) || c.toNat == 160

/-- `strnstr`. -/
def strnstr (pattern : List Char) : ℕ → List Char → Option (List Char)
  | 0, s => if pattern = [] then some s else none
  | len + 1, s =>
    if len + 1 < pattern.length then none
    else if pattern.isPrefixOf s then some s
    else strnstr pattern len s.tail

/-- `strim`. -/
def strim (s : List Char) : List Char := (s.rdropWhile isSpace).dropWhile isSpace

/-- `strsep`, with one delimiter: the token, and what is left of the string. -/
def strsep (delim : Char) : Option (List Char) → Option (List Char) × Option (List Char)
  | none => (none, none)
  | some s =>
    (some (s.takeWhile (· ≠ delim)), if delim ∈ s then some (s.dropWhile (· ≠ delim)).tail else none)

/-- Without its first character, if that is `c`. -/
def skipChar (c : Char) : List Char → List Char
  | [] => []
  | a :: s => if a = c then s else a :: s

/-- The number that the digits at the start of `s` make. -/
def leadingNumber (s : List Char) : ℕ := Nat.ofDigitChars 10 (s.takeWhile (·.isDigit)) 0

/-- `kstrtouint` to the base 10: a sign `+` and a newline at the end are accepted. -/
def kstrtouint (s : List Char) : Option ℕ :=
  let s := skipChar '+' s
  if s.takeWhile (·.isDigit) = [] then none
  else if skipChar '\n' (s.dropWhile (·.isDigit)) ≠ [] then none
  else if leadingNumber s < 2 ^ 32 then some (leadingNumber s)
  else none

/-- `strrchr`. -/
def strrchr (c : Char) (s : List Char) : Option (List Char) :=
  if c ∈ s then some (c :: s.rtakeWhile (· ≠ c)) else none

/-- `strncmp` answers 0. -/
def strncmp (a b : List Char) (n : ℕ) : Bool := a.take n == b.take n

/-- `strtol` to the base 10, for a `long` of 64 bits. -/
def strtol (s : List Char) : ℤ :=
  match s.dropWhile fun c => c == ' ' || (9 ≤ c.toNat && c.toNat ≤ 13) with
  | '-' :: s => max (-leadingNumber s) (-2 ^ 63)
  | '+' :: s => min (leadingNumber s) (2 ^ 63 - 1)
  | s => min (leadingNumber s) (2 ^ 63 - 1)

/-- What `%u` prints. -/
def decimal (n : ℕ) : List Char := Nat.toDigits 10 n

/-! ### Splitting -/

theorem strsep_append {delim : Char} {a : List Char} (ha : delim ∉ a) (b : List Char) :
    strsep delim (some (a ++ delim :: b)) = (some a, some b) := by
  have hne : ∀ c ∈ a, decide (c ≠ delim) = true := fun c hc =>
    decide_eq_true (ne_of_mem_of_not_mem hc ha)
  simp only [strsep, List.takeWhile_append_of_pos hne, List.dropWhile_append_of_pos hne]
  simp

theorem strsep_of_notMem {delim : Char} {s : List Char} (hs : delim ∉ s) :
    strsep delim (some s) = (some s, none) := by
  have hne : ∀ c ∈ s, decide (c ≠ delim) = true := fun c hc =>
    decide_eq_true (ne_of_mem_of_not_mem hc hs)
  simp only [strsep, List.takeWhile_eq_self_iff.2 hne, if_neg hs]

theorem strnstr_prefix {pattern s : List Char} {len : ℕ} (h : pattern <+: s)
    (hlen : pattern.length ≤ len) :
    strnstr pattern len s = some s := by
  cases len with
  | zero => simp [strnstr, List.eq_nil_of_length_eq_zero (Nat.le_zero.1 hlen)]
  | succ len => rw [strnstr, if_neg (not_lt.2 hlen), if_pos (List.isPrefixOf_iff_prefix.2 h)]

theorem strim_eq_self {s : List Char} (h : ∀ c ∈ s, isSpace c = false) : strim s = s := by
  have hright : s.rdropWhile isSpace = s := by
    refine List.rdropWhile_eq_self_iff.2 fun hs => ?_
    simp [h _ (List.getLast_mem hs)]
  rw [strim, hright]
  cases s with
  | nil => rfl
  | cons c s => simp [h c List.mem_cons_self]

theorem strrchr_append {c : Char} {b : List Char} (hb : c ∉ b) (a : List Char) :
    strrchr c (a ++ c :: b) = some (c :: b) := by
  have hne : ∀ x ∈ b.reverse, decide (x ≠ c) = true := fun x hx =>
    decide_eq_true (ne_of_mem_of_not_mem (List.mem_reverse.1 hx) hb)
  have htake : (a ++ c :: b).rtakeWhile (· ≠ c) = b := by
    rw [List.rtakeWhile, List.reverse_append, List.reverse_cons, List.append_assoc,
      List.takeWhile_append_of_pos hne]
    simp
  rw [strrchr, if_pos (by simp), htake]

/-! ### Numbers -/

theorem isDigit_of_mem_decimal {n : ℕ} {c : Char} (hc : c ∈ decimal n) : c.isDigit = true :=
  Nat.isDigit_of_mem_toDigits (by decide) (by decide) hc

/-- A character that is no digit is in no number. -/
theorem notMem_decimal {c : Char} (hc : c.isDigit = false) (n : ℕ) : c ∉ decimal n := by
  intro hmem
  rw [isDigit_of_mem_decimal hmem] at hc
  simp at hc

theorem decimal_ne_nil (n : ℕ) : decimal n ≠ [] := Nat.toDigits_ne_nil

theorem leadingNumber_decimal (n : ℕ) : leadingNumber (decimal n) = n := by
  rw [leadingNumber, List.takeWhile_eq_self_iff.2 fun c hc => isDigit_of_mem_decimal hc]
  exact Nat.ofDigitChars_ten_toDigits

theorem skipChar_of_head {c : Char} {s : List Char} (h : c ∉ s) : skipChar c s = s := by
  cases s with
  | nil => rfl
  | cons a s => exact if_neg (ne_of_mem_of_not_mem List.mem_cons_self h)

/-- **What `%u` prints, `kstrtouint` reads**, if it fits. -/
theorem kstrtouint_decimal (n : ℕ) : kstrtouint (decimal n) = if n < 2 ^ 32 then some n else none := by
  have hdigits : ∀ c ∈ decimal n, c.isDigit = true := fun c hc => isDigit_of_mem_decimal hc
  have hrest : (decimal n).dropWhile (·.isDigit) = [] := List.dropWhile_eq_nil_iff.2 hdigits
  rw [kstrtouint, skipChar_of_head (notMem_decimal rfl n)]
  simp only [List.takeWhile_eq_self_iff.2 hdigits, if_neg (decimal_ne_nil n), hrest, skipChar,
    leadingNumber_decimal, ne_eq, not_true_eq_false, if_false]

end CString
