import Evdi.Properties.ParentNames

/-!
# Which USB paths are parsed

`add_device_with_usb_path` reads the numbers of a path into an array of `MAX_EVDI_USB_ADDR` entries, and
stops when the array is full.

* `usbPathToken`, `usbComponents`: the path in a string, and the parts of a path;
* `parseUsbPath_eq`: what the parser reads are the first parts, if all of them are numbers;
* `usb_parsing_iff`: when that is all of the path or nothing.
-/

namespace Evdi

open Atomic CString

/-! ### Paths and their parts -/

/-- The path in a string that starts with `usb:`, which ends at the next colon. -/
def usbPathToken (s : List Char) : List Char :=
  ((s.drop usbPrefix.length).rdropWhile isSpace).takeWhile (· ≠ ':')

/-- The parts of a path: what is before the dash, and the ports behind it. -/
def usbComponents (token : List Char) : List (List Char) :=
  token.takeWhile (· ≠ '-') ::
    if '-' ∈ token then (token.dropWhile (· ≠ '-')).tail.splitOn '.' else []

/-- A path that cannot be an address: a part is missing or no number, or there are too many. -/
def MalformedPath (components : List (List Char)) : Prop :=
  components.length < 2 ∨ (∃ c ∈ components, kstrtouint c = none) ∨ maxEvdiUsbAddr < components.length

/-- The address has all numbers of the path, in order, and fits `usb_addr`. -/
def IsAddressOf (addr : List ℤ) (components : List (List Char)) : Prop :=
  addr.length ≤ maxEvdiUsbAddr ∧
    ∃ nums, components.mapM kstrtouint = some nums ∧ addr = nums.map Nat.cast

/-- `add_device_with_usb_path` gets as far as `evdi_platform_device_attach`, with this address. -/
def AttachesTo (ans : AddStoreAnswers) (buf : List Char) (count : ℕ) (addr : List ℤ) : Prop :=
  ans.kstrdupPath = true ∧ parseUsbPath ans.kstrdupToken buf count = some addr

theorem addDeviceWithUsbPath_attaches {ans : AddStoreAnswers} {buf : List Char} {count : ℕ}
    {addr : List ℤ} (h : AttachesTo ans buf count addr) (usbs : UsbTree) :
    addDeviceWithUsbPath ans usbs buf count = (do
      if (← evdiPlatformDeviceAttach ans usbs addr) ≠ 0 then .pure (-EINVAL) else .pure count) := by
  simp only [addDeviceWithUsbPath, h.1, h.2, Bool.not_true, Bool.false_eq_true, if_false]

/-! ### Splitting -/

theorem splitOn_eq (delim : Char) (s : List Char) : s.splitOn delim =
    s.takeWhile (· ≠ delim) :: (strsep delim (some s)).2.elim [] (·.splitOn delim) := by
  by_cases hmem : delim ∈ s
  · obtain ⟨a, b, rfl, ha⟩ := List.eq_append_cons_of_mem hmem
    have hne : ∀ c ∈ a, decide (c ≠ delim) = true := fun c hc =>
      decide_eq_true (ne_of_mem_of_not_mem hc ha)
    rw [strsep_append ha, List.splitOn_append_cons_self_of_not_mem ha,
      List.takeWhile_append_of_pos hne]
    simp
  · have hne : ∀ c ∈ s, decide (c ≠ delim) = true := fun c hc =>
      decide_eq_true (ne_of_mem_of_not_mem hc hmem)
    rw [strsep_of_notMem hmem, List.splitOn_eq_singleton hmem, List.takeWhile_eq_self_iff.2 hne]
    rfl

/-- **The loop over the ports** reads as many of them as there is room for. -/
theorem parsePorts_eq (room : ℕ) (s : List Char) :
    parsePorts room (some s) = ((s.splitOn '.').take room).mapM kstrtouint := by
  induction room generalizing s with
  | zero => rfl
  | succ room ih =>
    rw [splitOn_eq, List.take_succ_cons, List.mapM_cons, parsePorts]
    simp only [strsep, Option.bind_eq_bind, Option.bind_some]
    cases hport : kstrtouint (s.takeWhile (· ≠ '.')) with
    | none => simp
    | some port =>
      by_cases hmem : '.' ∈ s
      · simp [hmem, ih]
      · simp [hmem]

/-- What `strnstr` finds begins with the pattern. -/
theorem prefix_of_strnstr {pattern : List Char} {len : ℕ} {s t : List Char}
    (h : strnstr pattern len s = some t) : pattern <+: t := by
  induction len generalizing s with
  | zero =>
    rw [strnstr] at h
    split_ifs at h with hnil
    rw [hnil]
    exact List.nil_prefix
  | succ len ih =>
    rw [strnstr] at h
    split_ifs at h with hshort hprefix
    · obtain rfl := Option.some.inj h
      exact List.isPrefixOf_iff_prefix.1 hprefix
    · exact ih h

/-- Trimming leaves `usb:` alone. -/
theorem strim_usbPrefix (r : List Char) :
    strim (usbPrefix ++ r) = usbPrefix ++ r.rdropWhile isSpace := by
  have hright : (usbPrefix ++ r).rdropWhile isSpace = usbPrefix ++ r.rdropWhile isSpace := by
    induction r using List.reverseRecOn with
    | nil => rfl
    | append_singleton r c ih =>
      rw [← List.append_assoc, List.rdropWhile_concat, List.rdropWhile_concat]
      split_ifs
      · exact ih
      · exact List.append_assoc ..
  rw [strim, hright]
  rfl

theorem length_usbComponents (token : List Char) :
    2 ≤ (usbComponents token).length ↔ '-' ∈ token := by
  unfold usbComponents
  split_ifs with hdash
  · have hpos := List.length_pos_iff.2
      (List.splitOn_ne_nil '.' (token.dropWhile (· ≠ '-')).tail)
    simp only [List.length_cons, hdash, iff_true]
    omega
  · simp [hdash]

/-- **What the parser reads**: the first parts of the path, if all of them are numbers. -/
theorem parseUsbPath_eq {buf s : List Char} {count : ℕ} (h : strnstr usbPrefix count buf = some s)
    (kstrdupToken : Bool) : parseUsbPath kstrdupToken buf count =
      if kstrdupToken = true ∧ 2 ≤ (usbComponents (usbPathToken s)).length then
        (((usbComponents (usbPathToken s)).take maxEvdiUsbAddr).mapM kstrtouint).map
          (·.map storedAddr)
      else none := by
  obtain ⟨r, rfl⟩ := prefix_of_strnstr h
  have hbusToken : strsep ':' (some (usbPrefix ++ r.rdropWhile isSpace)) =
      (some ['u', 's', 'b'], some (r.rdropWhile isSpace)) :=
    strsep_append (a := ['u', 's', 'b']) (by decide) _
  have htoken : usbPathToken (usbPrefix ++ r) = (r.rdropWhile isSpace).takeWhile (· ≠ ':') := by
    rw [usbPathToken, List.drop_left]
  unfold parseUsbPath
  rw [h, Option.bind_eq_bind, Option.bind_some, strim_usbPrefix, hbusToken]
  simp only [htoken, length_usbComponents, strsep, Option.bind_eq_bind, Option.bind_some]
  generalize (r.rdropWhile isSpace).takeWhile (· ≠ ':') = token
  cases kstrdupToken with
  | false => simp
  | true =>
    by_cases hdash : '-' ∈ token
    · have hfirst : (usbComponents token).take maxEvdiUsbAddr = token.takeWhile (· ≠ '-') ::
          ((token.dropWhile (· ≠ '-')).tail.splitOn '.').take (maxEvdiUsbAddr - 1) := by
        rw [usbComponents, if_pos hdash]
        rfl
      simp only [true_and, if_true, if_pos hdash, hfirst, List.mapM_cons, Option.bind_some,
        parsePorts_eq]
      cases kstrtouint (token.takeWhile (· ≠ '-')) with
      | none => rfl
      | some bus =>
        cases (((token.dropWhile (· ≠ '-')).tail.splitOn '.').take (maxEvdiUsbAddr - 1)).mapM
          kstrtouint <;> rfl
    · simp only [true_and, if_true, if_neg hdash, Option.bind_some]
      cases kstrtouint (token.takeWhile (· ≠ '-')) <;> rfl

/-! ### All or nothing -/

theorem forall₂_of_mapM {α β : Type} {f : α → Option β} {as : List α} {bs : List β}
    (h : as.mapM f = some bs) : List.Forall₂ (fun a b => f a = some b) as bs := by
  induction as generalizing bs with
  | nil =>
    obtain rfl := Option.some.inj h
    exact .nil
  | cons a as ih =>
    rw [List.mapM_cons, Option.bind_eq_bind, Option.bind_eq_some_iff] at h
    obtain ⟨b, hb, h⟩ := h
    rw [Option.bind_eq_bind, Option.bind_eq_some_iff] at h
    obtain ⟨bs', hbs, h⟩ := h
    obtain rfl := Option.some.inj h
    exact .cons hb (ih hbs)

theorem exists_of_forall₂ {α β : Type} {R : α → β → Prop} {as : List α} {bs : List β}
    (h : List.Forall₂ R as bs) : ∀ a ∈ as, ∃ b, R a b := by
  induction h with
  | nil => simp
  | @cons a b as bs hab _ ih => exact List.forall_mem_cons.2 ⟨⟨b, hab⟩, ih⟩

/-- A number is stored as itself when it is an `int`. -/
theorem storedAddr_eq_self {n : ℕ} : storedAddr n = n ↔ n < 2 ^ 31 := by
  refine ⟨fun heq => ?_, storedAddr_of_lt⟩
  have hlt : storedAddr n < 2 ^ 31 := by
    have hbmod := Int.bmod_lt (x := n) (m := 2 ^ 32) (by norm_num)
    norm_num at hbmod ⊢
    exact hbmod
  rw [heq] at hlt
  exact_mod_cast hlt

section

variable {components : List (List Char)}

theorem take_components (h : components.length ≤ maxEvdiUsbAddr) :
    components.take maxEvdiUsbAddr = components :=
  List.take_of_length_le h

/-- The numbers that are stored are an address of the path when there is room for all of them, and they
are stored as themselves. -/
theorem isAddressOf_storedAddr {nums : List ℕ}
    (hnums : (components.take maxEvdiUsbAddr).mapM kstrtouint = some nums) :
    IsAddressOf (nums.map storedAddr) components ↔
      components.length ≤ maxEvdiUsbAddr ∧ ∀ n ∈ nums, n < 2 ^ 31 := by
  have hlength := (forall₂_of_mapM hnums).length_eq
  rw [List.length_take] at hlength
  constructor
  · rintro ⟨-, nums', hnums', hstored⟩
    have hlength' := (forall₂_of_mapM hnums').length_eq
    have hsame := congrArg List.length hstored
    rw [List.length_map, List.length_map] at hsame
    have hroom : components.length ≤ maxEvdiUsbAddr := by omega
    rw [take_components hroom, hnums'] at hnums
    obtain rfl := Option.some.inj hnums
    refine ⟨hroom, fun n hn => storedAddr_eq_self.1 ?_⟩
    exact List.map_inj_left.1 hstored n hn
  · rintro ⟨hroom, hint⟩
    refine ⟨by rw [List.length_map]; omega, nums, ?_, ?_⟩
    · rwa [take_components hroom] at hnums
    · exact List.map_congr_left fun n hn => storedAddr_of_lt (hint n hn)

/-- What is malformed has not all of its parts read. -/
theorem MalformedPath.mapM_eq_none (h : MalformedPath components) (hmin : 2 ≤ components.length)
    (hmax : components.length ≤ maxEvdiUsbAddr) : components.mapM kstrtouint = none := by
  rcases h with hshort | ⟨c, hc, hnone⟩ | hlong
  · omega
  · by_contra hsome
    obtain ⟨nums, hnums⟩ := Option.ne_none_iff_exists'.1 hsome
    obtain ⟨n, hn⟩ := exists_of_forall₂ (forall₂_of_mapM hnums) c hc
    simp [hnone] at hn
  · omega

end

/-- **USB path parsing is all or nothing** for the paths of no more than `MAX_EVDI_USB_ADDR` parts whose
numbers are below `2 ^ 31`, and for those that are rejected by one of their first parts. -/
theorem usb_parsing_iff {buf s : List Char} {count : ℕ} (h : strnstr usbPrefix count buf = some s) :
    ((∀ ans addr, AttachesTo ans buf count addr → IsAddressOf addr (usbComponents (usbPathToken s))) ∧
      (MalformedPath (usbComponents (usbPathToken s)) → ∀ ans usbs, ans.kstrdupPath = true →
        addDeviceWithUsbPath ans usbs buf count = .pure (-EINVAL))) ↔
    ∀ nums, 2 ≤ (usbComponents (usbPathToken s)).length →
      ((usbComponents (usbPathToken s)).take maxEvdiUsbAddr).mapM kstrtouint = some nums →
      (usbComponents (usbPathToken s)).length ≤ maxEvdiUsbAddr ∧ ∀ n ∈ nums, n < 2 ^ 31 := by
  have hparse := parseUsbPath_eq h
  generalize usbComponents (usbPathToken s) = components at hparse ⊢
  constructor
  · rintro ⟨hattach, -⟩ nums hmin hnums
    have haddr : parseUsbPath true buf count = some (nums.map storedAddr) := by
      rw [hparse, if_pos ⟨rfl, hmin⟩, hnums]
      rfl
    exact (isAddressOf_storedAddr hnums).1 (hattach ⟨true, true, fun _ => ⟨none, none⟩, true⟩ _ ⟨rfl, haddr⟩)
  · intro hall
    refine ⟨fun ans addr ⟨_, haddr⟩ => ?_, fun hbad ans usbs hdup => ?_⟩
    · rw [hparse] at haddr
      split_ifs at haddr with hread
      obtain ⟨nums, hnums, rfl⟩ := Option.map_eq_some_iff.1 haddr
      exact (isAddressOf_storedAddr hnums).2 (hall nums hread.2 hnums)
    · have hnone : parseUsbPath ans.kstrdupToken buf count = none := by
        rw [hparse]
        split_ifs with hread
        · rw [Option.map_eq_none_iff]
          by_contra hsome
          obtain ⟨nums, hnums⟩ := Option.ne_none_iff_exists'.1 hsome
          obtain ⟨hroom, -⟩ := hall nums hread.2 hnums
          rw [take_components hroom, hbad.mapM_eq_none hread.2 hroom] at hnums
          cases hnums
        · rfl
      simp only [addDeviceWithUsbPath, hdup, hnone, Bool.not_true, Bool.false_eq_true, if_false]

/-- `usb:1-2.3`. -/
def samplePath : List Char := usbPrefix ++ ['1', '-', '2', '.', '3']

/-- A path of three parts is read as three numbers. -/
theorem usb_parsing_three :
    (∀ ans addr, AttachesTo ans samplePath 9 addr →
      IsAddressOf addr (usbComponents (usbPathToken samplePath))) ∧
    (MalformedPath (usbComponents (usbPathToken samplePath)) → ∀ ans usbs, ans.kstrdupPath = true →
      addDeviceWithUsbPath ans usbs samplePath 9 = .pure (-EINVAL)) := by
  refine (@usb_parsing_iff samplePath samplePath 9 (by decide)).2 fun nums _ hnums => ?_
  have hread : ((usbComponents (usbPathToken samplePath)).take maxEvdiUsbAddr).mapM kstrtouint =
      some [1, 2, 3] := by decide +kernel
  obtain rfl := Option.some.inj (hread.symm.trans hnums)
  exact ⟨by decide +kernel, by decide⟩

/-- `usb:1-1.1.1.1.1.1.1.1.1.1`, with ten ports. -/
def longPath : List Char :=
  usbPrefix ++ ['1', '-', '1'] ++ (List.replicate 9 ['.', '1']).flatten

/-- Of a path of eleven parts, the first ten are taken. -/
theorem long_path_cut :
    AttachesTo ⟨true, true, fun _ => ⟨none, none⟩, true⟩ longPath 25 (List.replicate 10 1) ∧
    ¬ IsAddressOf (List.replicate 10 1) (usbComponents (usbPathToken longPath)) ∧
    MalformedPath (usbComponents (usbPathToken longPath)) := by
  have hlength : (usbComponents (usbPathToken longPath)).length = 11 := by decide +kernel
  refine ⟨⟨rfl, by decide +kernel⟩, ?_, .inr (.inr (by rw [hlength]; decide))⟩
  rintro ⟨-, nums, hnums, haddr⟩
  have hread := (forall₂_of_mapM hnums).length_eq
  have hsame := congrArg List.length haddr
  rw [List.length_replicate, List.length_map] at hsame
  omega

end Evdi
