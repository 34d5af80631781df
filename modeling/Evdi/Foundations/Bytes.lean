import Mathlib.Tactic
import Mathlib.Data.List.TakeWhile

/-!
# Byte memory and user copies

Memory is a map from addresses to bytes, taken relative to some pointer, so that an offset that
wrapped around to a negative value names the bytes before the pointer.  A `UserRegion` is what a
process sees around one of its own pointers: the bytes, and which of them it has mapped.

`copyToUser` stops at the first byte the process has not mapped, as the kernel's user copy does,
and answers whether something was left uncopied; a negative length is a huge `size_t`, which the
access check refuses before any byte is copied.
-/

namespace Bytes

/-- Bytes at addresses relative to a pointer. -/
abbrev Memory := ℤ → UInt8

/-- The memory of a process around one of its pointers. -/
structure UserRegion where
  byte : Memory
  mapped : ℤ → Bool

/-- How many of the `n` bytes at `dst` can be written before the first fault. -/
def writable (u : UserRegion) (dst : ℤ) (n : ℕ) : ℕ :=
  ((List.range n).takeWhile fun i : ℕ => u.mapped (dst + i)).length

/-- `copy_to_user(dst, src, n)`: the region after it, and whether some byte was not copied. -/
def copyToUser (u : UserRegion) (dst : ℤ) (m : Memory) (src n : ℤ) : UserRegion × Bool :=
  if n < 0 then (u, true)
  else
    let c := writable u dst n.toNat
    ({ u with byte := fun a => if dst ≤ a ∧ a < dst + c then m (src + (a - dst)) else u.byte a },
      c != n.toNat)

/-- `copy_from_user(to, 0, n)`: the bytes read, unless one of them faults. -/
def copyFromUser (u : UserRegion) (n : ℕ) : Option (List UInt8) :=
  if (List.range n).all fun i : ℕ => u.mapped i then
    some ((List.range n).map fun i : ℕ => u.byte i)
  else none

/-- A copy that succeeds has the bytes of the region. -/
theorem copyFromUser_eq {u : UserRegion} {n : ℕ} {bs : List UInt8}
    (h : copyFromUser u n = some bs) : bs = (List.range n).map fun i : ℕ => u.byte i := by
  unfold copyFromUser at h
  split_ifs at h
  exact (Option.some.inj h).symm

theorem length_copyFromUser {u : UserRegion} {n : ℕ} {bs : List UInt8}
    (h : copyFromUser u n = some bs) : bs.length = n := by
  rw [copyFromUser_eq h, List.length_map, List.length_range]

theorem writable_of_mapped {u : UserRegion} {dst : ℤ} {n : ℕ}
    (h : ∀ i < n, u.mapped (dst + (i : ℕ)) = true) : writable u dst n = n := by
  rw [writable, List.takeWhile_eq_self_iff.2 ?_, List.length_range]
  intro i hi
  exact h i (List.mem_range.1 hi)

theorem writable_le (u : UserRegion) (dst : ℤ) (n : ℕ) : writable u dst n ≤ n := by
  have h := (List.takeWhile_sublist (l := List.range n)
    fun i : ℕ => u.mapped (dst + i)).length_le
  rwa [List.length_range] at h

section

variable {u u' : UserRegion} {m : Memory} {dst src n : ℤ}

/-- What a complete copy leaves. -/
theorem copyToUser_ok (h : copyToUser u dst m src n = (u', false)) :
    0 ≤ n ∧ u'.mapped = u.mapped ∧
      ∀ a, u'.byte a = if dst ≤ a ∧ a < dst + n then m (src + (a - dst)) else u.byte a := by
  unfold copyToUser at h
  split_ifs at h with hn
  · simp at h
  · simp only [Prod.mk.injEq, bne_eq_false_iff_eq] at h
    obtain ⟨rfl, hc⟩ := h
    refine ⟨by omega, rfl, fun a => ?_⟩
    rw [hc, Int.toNat_of_nonneg (by omega)]

/-- A copy looks at the source bytes only. -/
theorem copyToUser_congr {m' : Memory}
    (h : ∀ i, 0 ≤ i → i < n → m (src + i) = m' (src + i)) :
    copyToUser u dst m src n = copyToUser u dst m' src n := by
  unfold copyToUser
  split_ifs with hn
  · rfl
  · have hle := writable_le u dst n.toNat
    have hbyte : ∀ a, (if dst ≤ a ∧ a < dst + (writable u dst n.toNat : ℕ) then
        m (src + (a - dst)) else u.byte a) =
        if dst ≤ a ∧ a < dst + (writable u dst n.toNat : ℕ) then m' (src + (a - dst))
        else u.byte a := by
      intro a
      split_ifs with ha
      · exact h _ (by omega) (by omega)
      · rfl
    simp only [hbyte]

/-- A copy to mapped bytes is complete. -/
theorem copyToUser_mapped (hn : 0 ≤ n) (h : ∀ a, dst ≤ a → a < dst + n → u.mapped a = true) :
    (copyToUser u dst m src n).2 = false := by
  have hw : writable u dst n.toNat = n.toNat :=
    writable_of_mapped fun i hi => h _ (by omega) (by omega)
  simp [copyToUser, hw, not_lt.2 hn]

@[simp] theorem copyToUser_fst_mapped : (copyToUser u dst m src n).1.mapped = u.mapped := by
  unfold copyToUser; split_ifs <;> rfl

end

/-! ### Several copies -/

/-- A user copy of `len` bytes, with the offsets it reads from and writes to. -/
structure UserCopy where
  src : ℤ
  dst : ℤ
  len : ℤ
  deriving DecidableEq

/-- One copy after another, up to the first that faults. -/
def copiesToUser (m : Memory) : List UserCopy → UserRegion → UserRegion × Bool
  | [], u => (u, false)
  | c :: cs, u =>
    let (u, fault) := copyToUser u c.dst m c.src c.len
    if fault then (u, true) else copiesToUser m cs u

theorem copiesToUser_append (m : Memory) (cs cs' : List UserCopy) (u : UserRegion) :
    copiesToUser m (cs ++ cs') u = if (copiesToUser m cs u).2 then copiesToUser m cs u
      else copiesToUser m cs' (copiesToUser m cs u).1 := by
  induction cs generalizing u with
  | nil => simp [copiesToUser]
  | cons c cs ih =>
    rw [List.cons_append, copiesToUser, copiesToUser]
    dsimp only
    by_cases hfault : (copyToUser u c.dst m c.src c.len).2 = true
    · simp [hfault]
    · simp only [hfault, ih, Bool.false_eq_true, if_false]

/-- Copies to mapped bytes are complete. -/
theorem copiesToUser_mapped {m : Memory} {cs : List UserCopy} {u : UserRegion}
    (h : ∀ c ∈ cs, 0 ≤ c.len ∧ ∀ a, c.dst ≤ a → a < c.dst + c.len → u.mapped a = true) :
    (copiesToUser m cs u).2 = false := by
  induction cs generalizing u with
  | nil => rfl
  | cons c cs ih =>
    obtain ⟨hc, hcs⟩ := List.forall_mem_cons.1 h
    rw [copiesToUser]
    dsimp only
    rw [copyToUser_mapped hc.1 hc.2, if_neg Bool.false_ne_true]
    refine ih fun c' hc' => ?_
    rw [copyToUser_fst_mapped]
    exact hcs c' hc'

/-! ### Regions of known bytes -/

/-- Memory with the given bytes from address 0 on. -/
def ofList (bs : List UInt8) : Memory := fun a => if 0 ≤ a then bs.getD a.toNat 0 else 0

/-- A region of the given bytes, with nothing else mapped. -/
def UserRegion.ofList (bs : List UInt8) : UserRegion where
  byte := Bytes.ofList bs
  mapped := fun a => 0 ≤ a ∧ a < bs.length

/-- The `n` bytes at an address. -/
def bytesAt (m : Memory) (a : ℤ) (n : ℕ) : List UInt8 := (List.range n).map fun i : ℕ => m (a + i)

/-- Memory with the bytes from address 0 on overwritten. -/
def overwrite (bs : List UInt8) (m : Memory) : Memory := fun a =>
  if 0 ≤ a ∧ a < bs.length then bs.getD a.toNat 0 else m a

@[simp] theorem length_bytesAt (m : Memory) (a : ℤ) (n : ℕ) : (bytesAt m a n).length = n := by
  simp [bytesAt]

theorem take_bytesAt (m : Memory) (a : ℤ) {k n : ℕ} (h : k ≤ n) :
    (bytesAt m a n).take k = bytesAt m a k := by
  rw [bytesAt, ← List.map_take, List.take_range, min_eq_left h, bytesAt]

/-- Bytes inside others. -/
theorem bytesAt_segment {m : Memory} {before bs after : List UInt8} {n : ℕ}
    (h : bytesAt m 0 n = before ++ (bs ++ after)) : bytesAt m before.length bs.length = bs := by
  have hlength := congrArg List.length h
  simp only [length_bytesAt, List.length_append] at hlength
  refine List.ext_getElem (length_bytesAt _ _ _) fun i _ hi => ?_
  have hat : (bytesAt m 0 n)[before.length + i]? = (before ++ (bs ++ after))[before.length + i]? := by
    rw [h]
  rw [List.getElem?_append_right (by omega), Nat.add_sub_cancel_left, List.getElem?_append_left hi,
    List.getElem?_eq_getElem hi, List.getElem?_eq_getElem (by simp; omega)] at hat
  simpa [bytesAt] using hat

/-- What was written is there. -/
theorem bytesAt_overwrite_all (m : Memory) (bs : List UInt8) :
    bytesAt (overwrite bs m) 0 bs.length = bs := by
  refine List.ext_getElem (length_bytesAt _ _ _) fun i _ hi => ?_
  have hin : 0 ≤ (i : ℤ) ∧ (i : ℤ) < bs.length := by omega
  simp only [bytesAt, List.getElem_map, List.getElem_range, zero_add, overwrite, if_pos hin,
    Int.toNat_natCast, List.getD, List.getElem?_eq_getElem hi, Option.getD_some]

/-- Bytes that were written are found in their place. -/
theorem bytesAt_overwrite (m : Memory) (before bs after : List UInt8) :
    bytesAt (overwrite (before ++ (bs ++ after)) m) before.length bs.length = bs :=
  bytesAt_segment (bytesAt_overwrite_all m _)

theorem copyFromUser_ofList (bs : List UInt8) :
    copyFromUser (.ofList bs) bs.length = some bs := by
  have hmapped : (List.range bs.length).all fun i : ℕ => (UserRegion.ofList bs).mapped i := by
    simp [UserRegion.ofList]
  rw [copyFromUser, if_pos hmapped]
  congr 1
  refine List.ext_getElem (by simp) fun i hi hi' => ?_
  simp [UserRegion.ofList, ofList, hi']

/-- All of a region is overwritten. -/
theorem copyToUser_ofList {bs data : List UInt8} (h : bs.length ≤ data.length) :
    copyToUser (.ofList bs) 0 (ofList data) 0 bs.length =
      (.ofList (data.take bs.length), false) := by
  have hfault : (copyToUser (.ofList bs) 0 (ofList data) 0 bs.length).2 = false := by
    refine copyToUser_mapped (by omega) fun a hl hu => ?_
    simpa [UserRegion.ofList] using ⟨hl, by simpa using hu⟩
  obtain ⟨-, -, hbyte⟩ := copyToUser_ok (Prod.ext rfl hfault)
  refine Prod.ext ?_ hfault
  have hsame : ∀ u v : UserRegion, u.byte = v.byte → u.mapped = v.mapped → u = v := by
    rintro ⟨_, _⟩ ⟨_, _⟩ rfl rfl
    rfl
  refine hsame _ _ (funext fun a => ?_) ?_
  · rw [hbyte]
    by_cases ha : 0 ≤ a
    · obtain ⟨i, rfl⟩ := Int.eq_ofNat_of_zero_le ha
      by_cases hi : i < bs.length <;> simp [UserRegion.ofList, ofList, hi]
    · simp [UserRegion.ofList, ofList, ha]
  · simp [UserRegion.ofList, h]

end Bytes
