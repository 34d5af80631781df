import Evdi.Model.UsbPath
import Evdi.Properties.CardUsage

/-!
# The names of parents

The kernel reads the path of a USB device as numbers, with blanks, signs, zeros in front and a suffix
`:*` allowed; the library compares the name that sysfs has for the device with the string, byte for
byte.

* `parseUsbPath_usbPathName`: what the kernel reads of a path in the documented format;
* `findUsbDeviceAtPath_iff`: the device it finds has that path;
* `isCorrectParentDevice_iff`: what the library accepts;
* `parent_names_agree`: where the two agree.
-/

namespace Evdi

open CString

/-! ### Names -/

/-- A character of the name of a USB device: no blank, no colon and no slash. -/
def IsNameChar (c : Char) : Prop := c.isDigit = true ∨ c ∈ ['-', '.', 'u', 's', 'b']

theorem isNameChar_decimal {n : ℕ} : ∀ c ∈ decimal n, IsNameChar c :=
  fun _ hc => .inl (isDigit_of_mem_decimal hc)

theorem isNameChar_portNames (ports : List ℕ) : ∀ c ∈ portNames ports, IsNameChar c := by
  induction ports using portNames.induct with
  | case1 => simp [portNames]
  | case2 port => exact isNameChar_decimal
  | case3 port ports hne ih =>
    intro c hc
    rw [portNames] at hc
    · rcases List.mem_append.1 hc with hc | hc
      · exact isNameChar_decimal c hc
      · rcases List.mem_cons.1 hc with rfl | hc
        · exact .inr (by simp)
        · exact ih c hc
    · exact hne

theorem isNameChar_usbPathName (bus : ℕ) (ports : List ℕ) :
    ∀ c ∈ usbPathName bus ports, IsNameChar c := by
  intro c hc
  rcases List.mem_append.1 hc with hc | hc
  · exact isNameChar_decimal c hc
  · rcases List.mem_cons.1 hc with rfl | hc
    · exact .inr (by simp)
    · exact isNameChar_portNames ports c hc

theorem isNameChar_name (d : UsbDevice) : ∀ c ∈ d.name, IsNameChar c := by
  cases d with
  | rootHub busnum =>
    intro c hc
    rcases List.mem_append.1 hc with hc | hc
    · refine .inr ?_
      simp only [List.mem_cons] at hc ⊢
      tauto
    · exact isNameChar_decimal c hc
  | onPort parent portnum => exact isNameChar_usbPathName _ _

theorem IsNameChar.isSpace {c : Char} (h : IsNameChar c) : isSpace c = false := by
  rcases h with hdigit | hc
  · simp only [Char.isDigit, Bool.and_eq_true, decide_eq_true_eq] at hdigit
    have hlow : 48 ≤ c.toNat := UInt32.le_iff_toNat_le.1 hdigit.1
    have hhigh : c.toNat ≤ 57 := UInt32.le_iff_toNat_le.1 hdigit.2
    have hblank : c ≠ ' ' := by
      rintro rfl
      exact absurd hlow (by decide)
    simp only [CString.isSpace, beq_eq_false_iff_ne.2 hblank, Bool.false_or, Bool.or_eq_false_iff,
      Bool.and_eq_false_iff, decide_eq_false_iff_not, beq_eq_false_iff_ne]
    omega
  · fin_cases hc <;> decide

theorem IsNameChar.ne {c : Char} (h : IsNameChar c) : c ≠ ':' ∧ c ≠ '/' := by
  constructor <;> rintro rfl <;> exact absurd h (by simp [IsNameChar])

theorem two_le_length_name (d : UsbDevice) : 2 ≤ d.name.length := by
  cases d with
  | rootHub busnum =>
    show 2 ≤ (['u', 's', 'b'] ++ decimal busnum).length
    simp
  | onPort parent portnum =>
    show 2 ≤ (decimal _ ++ '-' :: portNames _).length
    have hpos := List.length_pos_iff.2 (decimal_ne_nil (parent.onPort portnum).busnum)
    rw [List.length_append, List.length_cons]
    omega

/-! ### The parser -/

theorem kstrtouint_of_lt {n : ℕ} (h : n < 2 ^ 32) : kstrtouint (decimal n) = some n := by
  rw [kstrtouint_decimal, if_pos h]

theorem kstrtouint_of_not_lt {n : ℕ} (h : ¬ n < 2 ^ 32) : kstrtouint (decimal n) = none := by
  rw [kstrtouint_decimal, if_neg h]

/-- **The ports** of a path are read as far as there is room, if all of them fit. -/
theorem parsePorts_portNames (room : ℕ) (port : ℕ) (ports : List ℕ) :
    parsePorts (room + 1) (some (portNames (port :: ports))) =
      if ∀ p ∈ (port :: ports).take (room + 1), p < 2 ^ 32 then some ((port :: ports).take (room + 1))
      else none := by
  induction ports generalizing room port with
  | nil =>
    have htoken : strsep '.' (some (portNames [port])) = (some (decimal port), none) :=
      strsep_of_notMem (notMem_decimal rfl port)
    rw [parsePorts, htoken]
    by_cases hport : port < 2 ^ 32
    · rw [if_pos (by simpa using hport)]
      simp [kstrtouint_of_lt hport]
    · rw [if_neg (by simpa using hport)]
      simp [kstrtouint_of_not_lt hport]
  | cons next ports ih =>
    have htoken : strsep '.' (some (portNames (port :: next :: ports))) =
        (some (decimal port), some (portNames (next :: ports))) :=
      strsep_append (notMem_decimal rfl port) _
    rw [parsePorts, htoken]
    by_cases hport : port < 2 ^ 32
    · -- the others
      have hrest : parsePorts room (some (portNames (next :: ports))) =
          if ∀ p ∈ (next :: ports).take room, p < 2 ^ 32 then some ((next :: ports).take room)
          else none := by
        cases room with
        | zero => simp [parsePorts]
        | succ room => exact ih room next
      by_cases hfit : ∀ p ∈ (next :: ports).take room, p < 2 ^ 32
      · rw [if_pos hfit] at hrest
        rw [if_pos]
        · simp [kstrtouint_of_lt hport, hrest]
        · intro p hp
          rcases List.mem_cons.1 hp with rfl | hp
          · exact hport
          · exact hfit p hp
      · rw [if_neg hfit] at hrest
        rw [if_neg fun h => hfit fun p hp => h p (List.mem_cons_of_mem _ hp)]
        simp [hrest]
    · rw [if_neg fun h => hport (h port List.mem_cons_self)]
      simp [kstrtouint_of_not_lt hport]

/-- Of a string that is `usb:` and a name, the parser splits the name. -/
theorem parseUsbPath_append {name : List Char} (hname : ∀ c ∈ name, IsNameChar c) :
    parseUsbPath true (usbPrefix ++ name) (usbPrefix ++ name).length =
      (strsep '-' (some name)).1.bind fun bus => (kstrtouint bus).bind fun bus =>
        (parsePorts (maxEvdiUsbAddr - 1) (strsep '-' (some name)).2).bind fun ports =>
          some ((bus :: ports).map storedAddr) := by
  have hstart : strnstr usbPrefix (usbPrefix ++ name).length (usbPrefix ++ name) =
      some (usbPrefix ++ name) :=
    strnstr_prefix (List.prefix_append _ _) (by simp)
  have htrim : strim (usbPrefix ++ name) = usbPrefix ++ name := by
    refine strim_eq_self fun c hc => ?_
    rcases List.mem_append.1 hc with hc | hc
    · fin_cases hc <;> rfl
    · exact (hname c hc).isSpace
  have hbusToken : strsep ':' (some (usbPrefix ++ name)) = (some ['u', 's', 'b'], some name) :=
    strsep_append (a := ['u', 's', 'b']) (by decide) _
  have husbToken : strsep ':' (some name) = (some name, none) :=
    strsep_of_notMem fun hc => (hname _ hc).ne.1 rfl
  unfold parseUsbPath
  rw [hstart, Option.bind_eq_bind, Option.bind_some, htrim, hbusToken]
  dsimp only
  rw [Option.bind_eq_bind, Option.bind_some, husbToken]
  dsimp only
  rw [Option.bind_eq_bind, Option.bind_some, if_pos rfl]
  rfl

/-- **A path in the documented format** is read as its numbers, up to the tenth, if they fit. -/
theorem parseUsbPath_usbPathName (bus port : ℕ) (ports : List ℕ) :
    parseUsbPath true (usbPrefix ++ usbPathName bus (port :: ports))
        (usbPrefix ++ usbPathName bus (port :: ports)).length =
      if ∀ p ∈ bus :: (port :: ports).take 9, p < 2 ^ 32 then
        some ((bus :: (port :: ports).take 9).map storedAddr)
      else none := by
  have htoken : strsep '-' (some (usbPathName bus (port :: ports))) =
      (some (decimal bus), some (portNames (port :: ports))) :=
    strsep_append (notMem_decimal rfl bus) _
  have hports : parsePorts (maxEvdiUsbAddr - 1) (some (portNames (port :: ports))) = _ :=
    parsePorts_portNames 8 port ports
  rw [parseUsbPath_append (isNameChar_usbPathName _ _), htoken, Option.bind_some]
  by_cases hbus : bus < 2 ^ 32
  · by_cases hfit : ∀ p ∈ (port :: ports).take (8 + 1), p < 2 ^ 32
    · rw [if_pos hfit] at hports
      rw [if_pos, kstrtouint_of_lt hbus, hports, Option.bind_some, Option.bind_some]
      intro p hp
      rcases List.mem_cons.1 hp with rfl | hp
      · exact hbus
      · exact hfit p hp
    · rw [if_neg hfit] at hports
      rw [if_neg fun h => hfit fun p hp => h p (List.mem_cons_of_mem _ hp), kstrtouint_of_lt hbus, hports,
        Option.bind_some, Option.bind_none]
  · rw [if_neg fun h => hbus (h bus List.mem_cons_self), kstrtouint_of_not_lt hbus, Option.bind_none]

/-- No number is read of the name of a root hub. -/
theorem parseUsbPath_rootHub (busnum : ℕ) :
    parseUsbPath true (usbPrefix ++ (UsbDevice.rootHub busnum).name)
      (usbPrefix ++ (UsbDevice.rootHub busnum).name).length = none := by
  have hdash : '-' ∉ (UsbDevice.rootHub busnum).name := by
    intro hc
    rcases List.mem_append.1 hc with hc | hc
    · simp at hc
    · exact notMem_decimal rfl busnum hc
  have hnumber : kstrtouint (UsbDevice.rootHub busnum).name = none := by
    have hu : Char.isDigit 'u' = false := by decide
    have hplus : ('u' : Char) ≠ '+' := by decide
    simp [kstrtouint, UsbDevice.name, skipChar, hu, hplus]
  rw [parseUsbPath_append (isNameChar_name _), strsep_of_notMem hdash, Option.bind_some, hnumber,
    Option.bind_none]

/-! ### The way to the root hub -/

/-- The numbers on the way from the root hub, with that of the bus. -/
def UsbDevice.path (d : UsbDevice) : List ℤ := (d.busnum :: d.ports).map Nat.cast

theorem UsbDevice.eq_of_path {d e : UsbDevice} (hbus : d.busnum = e.busnum) (hports : d.ports = e.ports) :
    d = e := by
  induction d generalizing e with
  | rootHub busnum =>
    cases e with
    | rootHub busnum' => exact congrArg _ hbus
    | onPort parent portnum => simp [UsbDevice.ports] at hports
  | onPort parent portnum ih =>
    cases e with
    | rootHub busnum => simp [UsbDevice.ports] at hports
    | onPort parent' portnum' =>
      obtain ⟨hparent, hport⟩ := List.append_inj' hports rfl
      rw [ih (e := parent') hbus hparent, List.singleton_inj.1 hport]

theorem findUsbDeviceFrom_iff {addr : List ℤ} {d : UsbDevice} (hd : ∀ port ∈ d.ports, 0 < port) {n : ℕ}
    (hn : n ≤ addr.length) : findUsbDeviceFrom addr d n = true ↔ addr.take n = d.path := by
  induction d generalizing n with
  | rootHub busnum =>
    cases n with
    | zero => simp [findUsbDeviceFrom, UsbDevice.path]
    | succ i =>
      have hpath : (UsbDevice.rootHub busnum).path = [] ++ [(busnum : ℤ)] := rfl
      rw [findUsbDeviceFrom, List.take_succ_eq_append_getElem hn, List.getElem?_eq_getElem hn, hpath,
        List.append_singleton_inj, List.take_eq_nil_iff]
      have hne : addr ≠ [] := by
        rintro rfl
        simp at hn
      simp [hne, and_comm]
  | onPort parent portnum ih =>
    cases n with
    | zero => simp [findUsbDeviceFrom, UsbDevice.path]
    | succ i =>
      have hport : portnum ≠ 0 := (hd portnum (by simp [UsbDevice.ports])).ne'
      have hparent : ∀ port ∈ parent.ports, 0 < port := fun port hmem =>
        hd port (by simp [UsbDevice.ports, hmem])
      have hpath : (parent.onPort portnum).path = parent.path ++ [(portnum : ℤ)] := by
        simp [UsbDevice.path, UsbDevice.busnum, UsbDevice.ports]
      rw [findUsbDeviceFrom, List.take_succ_eq_append_getElem hn, List.getElem?_eq_getElem hn,
        if_neg hport, hpath, Bool.and_eq_true, ih hparent (by omega), List.append_singleton_inj]
      simp [and_comm]

/-- **The device that is found** is the one with the path. -/
theorem findUsbDeviceAtPath_iff {addr : List ℤ} {d : UsbDevice} (hd : d.Valid) :
    findUsbDeviceAtPath addr d = true ↔ addr = d.path := by
  rw [findUsbDeviceAtPath, findUsbDeviceFrom_iff hd.port_pos le_rfl, List.take_length]

/-- A number that fits is an `int` again only if it is stored as itself. -/
theorem storedAddr_eq_cast {addr x : ℕ} (haddr : addr < 2 ^ 32) (h : storedAddr addr = x) : addr = x := by
  unfold storedAddr at h
  rw [Int.bmod_def] at h
  norm_num at h haddr
  split_ifs at h <;> omega

theorem storedAddr_of_lt {addr : ℕ} (h : addr < 2 ^ 31) : storedAddr addr = addr := by
  unfold storedAddr
  rw [Int.bmod_def]
  norm_num at h ⊢
  split_ifs <;> omega

theorem map_storedAddr_eq_cast {addrs xs : List ℕ} (haddrs : ∀ addr ∈ addrs, addr < 2 ^ 32)
    (h : addrs.map storedAddr = xs.map Nat.cast) : addrs = xs := by
  induction addrs generalizing xs with
  | nil => exact (List.map_eq_nil_iff.1 h.symm).symm
  | cons addr addrs ih =>
    cases xs with
    | nil => simp at h
    | cons x xs =>
      obtain ⟨hhead, htail⟩ := List.cons.inj h
      rw [storedAddr_eq_cast (haddrs addr List.mem_cons_self) hhead,
        ih (fun a ha => haddrs a (List.mem_cons_of_mem _ ha)) htail]

/-- **The kernel reads the name** of a device as its path, and cannot read that of a root hub. -/
theorem parseUsbPath_name {d : UsbDevice} (hd : d.Valid) {addr : List ℤ}
    (h : parseUsbPath true (usbPrefix ++ d.name) (usbPrefix ++ d.name).length = some addr) :
    addr = d.path := by
  cases d with
  | rootHub busnum =>
    rw [parseUsbPath_rootHub] at h
    simp at h
  | onPort parent portnum =>
    obtain ⟨port, ports, hports⟩ : ∃ port ports, (parent.onPort portnum).ports = port :: ports :=
      List.exists_cons_of_ne_nil (by simp [UsbDevice.ports])
    have hdepth := hd.depth_le
    have hbus := hd.busnum_lt
    have hlt := hd.port_lt
    rw [UsbDevice.name, hports, parseUsbPath_usbPathName,
      List.take_of_length_le (by rw [← hports]; omega)] at h
    rw [hports] at hlt
    split_ifs at h
    rw [← Option.some.inj h, UsbDevice.path, hports]
    refine List.map_congr_left fun p hp => storedAddr_of_lt ?_
    rcases List.mem_cons.1 hp with rfl | hp
    · exact hbus
    · exact (hlt p hp).trans (by norm_num)

/-! ### The kernel -/

namespace UsbTree

variable {usbs : UsbTree} {s : List Char} {usb : UsbDev × UsbDevice}

/-- The device found is there, and has the path that was read. -/
theorem deviceFor_some (h : usbs.deviceFor s = some usb) :
    usb ∈ usbs.devices ∧ parseUsbPath true s s.length = some usb.2.path := by
  obtain ⟨addr, hparse, hfind⟩ := Option.bind_eq_some_iff.1 h
  have hmem := List.mem_of_find?_eq_some hfind
  have hpath : findUsbDeviceAtPath addr usb.2 = true :=
    List.find?_some (p := fun usb : UsbDev × UsbDevice => findUsbDeviceAtPath addr usb.2) hfind
  rw [findUsbDeviceAtPath_iff (usbs.valid usb hmem)] at hpath
  exact ⟨hmem, hpath ▸ hparse⟩

/-- A string in the documented format is `usb:` and the name of the device that is found for it. -/
theorem name_of_deviceFor {bus : ℕ} {ports : List ℕ} (hports : ports ≠ [])
    (h : usbs.deviceFor (usbPrefix ++ usbPathName bus ports) = some usb) :
    usb.2.name = usbPathName bus ports := by
  obtain ⟨hmem, hparse⟩ := deviceFor_some h
  obtain ⟨port, ports, rfl⟩ := List.exists_cons_of_ne_nil hports
  rw [parseUsbPath_usbPathName] at hparse
  split_ifs at hparse with hfit
  have heq := map_storedAddr_eq_cast hfit (Option.some.inj hparse)
  obtain ⟨hbus, htake⟩ := List.cons.inj heq
  -- no device is as far from its root hub as there is room for
  have hdepth := (usbs.valid usb hmem).depth_le
  have hlen := congrArg List.length htake
  rw [List.length_take] at hlen
  rw [List.take_of_length_le (by omega)] at htake
  obtain ⟨n, d⟩ := usb
  cases d with
  | rootHub busnum => simp [UsbDevice.ports] at htake
  | onPort parent portnum => rw [UsbDevice.name, ← htake, ← hbus]

/-- If the string is `usb:` and the name of a device, it is this one that is found. -/
theorem eq_of_name {usb' : UsbDev × UsbDevice} (hmem' : usb' ∈ usbs.devices)
    (h : usbs.deviceFor (usbPrefix ++ usb'.2.name) = some usb) : usb' = usb := by
  obtain ⟨hmem, hparse⟩ := deviceFor_some h
  have hpath := parseUsbPath_name (usbs.valid usb' hmem') hparse
  obtain ⟨hbus, hports⟩ := List.cons.inj hpath
  refine usbs.unique usb' hmem' usb hmem (UsbDevice.eq_of_path ?_ ?_)
  · exact_mod_cast hbus.symm
  · exact (List.map_injective_iff.2 Nat.cast_injective hports).symm

end UsbTree

/-! ### The library -/

/-- The file `device` of the entry is a link to a path whose last component is `name`, which is not
cut short when it is compared with `parent`. -/
structure PlatformEntry.LinkedTo (gap : UInt64) (parent name : List Char) (entry : PlatformEntry) :
    Prop where
  device : ∃ dir, entry.device = some (dir ++ '/' :: name) ∧ (dir ++ '/' :: name).length < pathMax ∧
    name.length ≤ parentTokenBound gap parent.length (dir ++ '/' :: name) name

/-- **The library accepts** a link to a device exactly if the string is its name. -/
theorem isCorrectParentDevice_iff {gap : UInt64} {parent : List Char} {d : UsbDevice}
    {entry : PlatformEntry}
    (h : entry.LinkedTo gap parent d.name) :
    isCorrectParentDevice gap entry (some parent) parent.length = some (decide (parent = d.name)) := by
  obtain ⟨dir, hdevice, hlen, hbound⟩ := h.device
  have hslash : '/' ∉ d.name := fun hc => (isNameChar_name d _ hc).ne.2 rfl
  have htwo := two_le_length_name d
  rw [isCorrectParentDevice, hdevice]
  dsimp only
  rw [if_neg (not_le.2 hlen), strrchr_append hslash]
  dsimp only
  rw [List.tail_cons, min_eq_left hbound]
  split_ifs with hshort
  · rw [decide_eq_false]
    rintro rfl
    omega
  · congr 1
    by_cases hsame : parent.length = d.name.length
    · rw [hsame, beq_self_eq_true, Bool.true_and, strncmp, List.take_length, ← hsame, List.take_length,
        beq_eq_decide]
      exact decide_eq_decide.2 eq_comm
    · rw [beq_eq_false_iff_ne.2 hsame, Bool.false_and, decide_eq_false]
      exact fun heq => hsame (congrArg _ heq)

namespace Cards

/-- A scan of the directory comes to its end, or to a card. -/
def Scannable (gap : UInt64) (parent : List Char) (entries : List PlatformEntry) : Prop :=
  ∀ entry ∈ entries, ∃ correct,
    isCorrectParentDevice gap entry (some parent) parent.length = some correct ∧
    (correct = true → 0 ≤ getDrmDeviceIndex entry.drm ∧ getDrmDeviceIndex entry.drm < evdiUsageLen)

/-- An evdi device that is linked to the parent, and whose card is not open. -/
structure Unused (s : Cards) (gap : UInt64) (parent : List Char) (entry : PlatformEntry) : Prop where
  name : ['e', 'v', 'd', 'i'] <+: entry.dName
  correct : isCorrectParentDevice gap entry (some parent) parent.length = some true
  unused : ∃ i : Fin evdiUsageLen, getDrmDeviceIndex entry.drm = i.val ∧ s.cardUsage i = none

/-- A scan in which there is such a device finds a card that is not open. -/
theorem findUnusedCardIn_finds {s : Cards} {gap : UInt64} {parent : List Char}
    {entries : List PlatformEntry} (hscan : Scannable gap parent entries)
    (h : ∃ entry ∈ entries, s.Unused gap parent entry) :
    ∃ i : Fin evdiUsageLen,
      findUnusedCardIn gap (some parent) parent.length s entries = some (i.val : ℤ) := by
  induction entries with
  | nil => simp at h
  | cons entry entries ih =>
    have hscan' : Scannable gap parent entries := fun e he => hscan e (List.mem_cons_of_mem _ he)
    obtain ⟨correct, hcorrect, hbounds⟩ := hscan entry List.mem_cons_self
    -- where the scan goes on, the device is not this one
    have hnext : ¬ s.Unused gap parent entry → ∃ i : Fin evdiUsageLen,
        findUnusedCardIn gap (some parent) parent.length s entries = some (i.val : ℤ) := by
      intro hnot
      refine ih hscan' ?_
      obtain ⟨e, he, hunused⟩ := h
      rcases List.mem_cons.1 he with rfl | he
      · exact absurd hunused hnot
      · exact ⟨e, he, hunused⟩
    rw [findUnusedCardIn, hcorrect]
    split_ifs with hname
    · refine hnext fun hunused => ?_
      simp [List.isPrefixOf_iff_prefix.2 hunused.name] at hname
    · cases correct with
      | false =>
        refine hnext fun hunused => ?_
        have heq := hcorrect.symm.trans hunused.correct
        simp at heq
      | true =>
        dsimp only
        rw [dif_pos (hbounds rfl)]
        split_ifs with husage
        · obtain ⟨hnonneg, hlt⟩ := hbounds rfl
          have hbound : (getDrmDeviceIndex entry.drm).toNat < evdiUsageLen := by omega
          exact ⟨⟨_, hbound⟩, congrArg some (Int.toNat_of_nonneg hnonneg).symm⟩
        · refine hnext fun hunused => ?_
          obtain ⟨i, hi, hempty⟩ := hunused.unused
          refine husage ?_
          rw [← hempty]
          exact congrArg _ (Fin.ext (by simp [hi]))

/-- A scan that comes to its end comes to a result. -/
theorem exists_findUnusedCardIn {s : Cards} {gap : UInt64} {parent : List Char}
    {entries : List PlatformEntry} (hscan : Scannable gap parent entries) :
    ∃ d, findUnusedCardIn gap (some parent) parent.length s entries = some d := by
  induction entries with
  | nil => exact ⟨_, rfl⟩
  | cons entry entries ih =>
    obtain ⟨d, hd⟩ := ih fun e he => hscan e (List.mem_cons_of_mem _ he)
    obtain ⟨correct, hcorrect, hbounds⟩ := hscan entry List.mem_cons_self
    rw [findUnusedCardIn, hcorrect]
    split_ifs
    · exact ⟨d, hd⟩
    · cases correct with
      | false => exact ⟨d, hd⟩
      | true =>
        dsimp only
        rw [dif_pos (hbounds rfl)]
        split_ifs
        · exact ⟨_, rfl⟩
        · exact ⟨d, hd⟩

/-- An attached open scans, and finds a card if there is one after the device was added. -/
theorem attachedDeviceIndex_finds {s : Cards} {env : AttachEnv} {path : List Char}
    {before after : List PlatformEntry} (hpath : usbPrefix <+: path) (hlen : 4 < path.length)
    (hbefore : env.before = some before) (hafter : env.after = some after)
    (hscan : Scannable env.gap (path.drop 4) before) (hscan' : Scannable env.gap (path.drop 4) after)
    (h : ∃ entry ∈ after, s.Unused env.gap (path.drop 4) entry) :
    ∃ (t : Cards) (i : Fin evdiUsageLen),
      attachedDeviceIndex env (some path) path.length s = some (t, (i.val : ℤ)) := by
  have hstart : strncmp path ['u', 's', 'b', ':'] 4 = true := by
    obtain ⟨name, rfl⟩ := hpath
    rfl
  have hparent : path.length - 4 = (path.drop 4).length := List.length_drop.symm
  obtain ⟨d, hd⟩ := exists_findUnusedCardIn (s := s) hscan
  rw [attachedDeviceIndex, if_pos ⟨hlen, hstart⟩, getDeviceAttachedToUsb, if_neg (not_lt.2 hlen.le),
    hbefore, hafter, hparent]
  simp only [findUnusedCardFor, hd, Option.bind_eq_bind, Option.bind_some]
  split_ifs with hnone
  · obtain ⟨i, hi⟩ := findUnusedCardIn_finds (s := writeAddDevice path path.length s) hscan' <| by
      obtain ⟨entry, hmem, hunused⟩ := h
      exact ⟨entry, hmem, hunused.name, hunused.correct, hunused.unused⟩
    rw [hi]
    exact ⟨_, i, rfl⟩
  · obtain ⟨i, rfl, -⟩ := (findUnusedCardIn_empty hd).resolve_left hnone
    exact ⟨_, i, rfl⟩

end Cards

/-! ### Agreement -/

/-- A string in the documented format `usb:[busNum]-[portNum1].[portNum2]…`, in plain decimal. -/
def Documented (s : List Char) : Prop := ∃ bus ports, ports ≠ [] ∧ s = usbPrefix ++ usbPathName bus ports

/-- The kernel attaches the device that it finds. -/
theorem addStore_deviceFor {usbs : UsbTree} {s : List Char} (hs : usbPrefix <+: s)
    {usb : UsbDev × UsbDevice} (h : usbs.deviceFor s = some usb) {ans : AddStoreAnswers}
    (hpath : ans.kstrdupPath = true) (htoken : ans.kstrdupToken = true) :
    addStore ans usbs s s.length = (do
      if (← platformDeviceAdd (ans.create 0) ans.createLink (some usb.1)) ≠ 0 then .pure (-EINVAL)
      else .pure s.length) := by
  obtain ⟨addr, hparse, hfind⟩ := Option.bind_eq_some_iff.1 h
  have hstart : strnstr usbPrefix s.length s = some s := strnstr_prefix hs hs.length_le
  rw [addStore, hstart, Option.isSome_some, if_pos rfl, addDeviceWithUsbPath, hpath, htoken, hparse]
  simp only [evdiPlatformDeviceAttach, hfind]
  rfl

/-- **Kernel and library agree on the names of parents** in the documented format. Of a string for
which the kernel finds a device:

* the kernel attaches an evdi device to it;
* the library accepts a link to it exactly if the string is `usb:` and its name;
* so it is if the string has the documented format, and then an attached open finds a card, if there
  is an evdi device with a link to it whose card is not open;
* the library accepts no link to another USB device. -/
theorem parent_names_agree {usbs : UsbTree} {s : List Char} (hs : usbPrefix <+: s)
    {usb : UsbDev × UsbDevice} (h : usbs.deviceFor s = some usb) :
    (∀ ans : AddStoreAnswers, ans.kstrdupPath = true → ans.kstrdupToken = true →
      addStore ans usbs s s.length = (do
        if (← platformDeviceAdd (ans.create 0) ans.createLink (some usb.1)) ≠ 0 then .pure (-EINVAL)
        else .pure s.length)) ∧
    (∀ gap entry, entry.LinkedTo gap (s.drop 4) usb.2.name →
      isCorrectParentDevice gap entry (some (s.drop 4)) (s.length - 4) =
        some (decide (s.drop 4 = usb.2.name))) ∧
    (Documented s → s.drop 4 = usb.2.name ∧
      ∀ (cards : Cards) (env : AttachEnv) (before after : List PlatformEntry),
        env.before = some before → env.after = some after →
        Cards.Scannable env.gap (s.drop 4) before → Cards.Scannable env.gap (s.drop 4) after →
        (∃ entry ∈ after, entry.LinkedTo env.gap (s.drop 4) usb.2.name ∧
          ['e', 'v', 'd', 'i'] <+: entry.dName ∧
          ∃ i : Fin evdiUsageLen, getDrmDeviceIndex entry.drm = i.val ∧ cards.cardUsage i = none) →
        ∃ (t : Cards) (i : Fin evdiUsageLen),
          attachedDeviceIndex env (some s) s.length cards = some (t, (i.val : ℤ))) ∧
    ∀ gap entry, ∀ usb' ∈ usbs.devices, usb' ≠ usb → entry.LinkedTo gap (s.drop 4) usb'.2.name →
      isCorrectParentDevice gap entry (some (s.drop 4)) (s.length - 4) = some false := by
  obtain ⟨name, rfl⟩ := hs
  have hlen : (usbPrefix ++ name).length - 4 = name.length := by simp
  have hdrop : (usbPrefix ++ name).drop 4 = name := rfl
  rw [hlen, hdrop]
  refine ⟨fun ans hpath htoken => addStore_deviceFor (List.prefix_append _ _) h hpath htoken,
    fun gap entry hlinked => isCorrectParentDevice_iff hlinked, fun hdocumented => ?_, ?_⟩
  · obtain ⟨bus, ports, hports, heq⟩ := hdocumented
    obtain rfl := List.append_cancel_left heq
    have hname := (UsbTree.name_of_deviceFor hports h).symm
    refine ⟨hname, fun cards env before after hbefore hafter hscan hscan' hentry => ?_⟩
    obtain ⟨entry, hmem, hlinked, hevdi, hunused⟩ := hentry
    have hpos := two_le_length_name usb.2
    refine Cards.attachedDeviceIndex_finds (List.prefix_append _ _) ?_ hbefore hafter hscan hscan'
      ⟨entry, hmem, hevdi, ?_, hunused⟩
    · rw [List.length_append, hname]
      show 4 < 4 + usb.2.name.length
      omega
    · have haccepts := isCorrectParentDevice_iff hlinked
      rw [decide_eq_true hname] at haccepts
      exact haccepts
  · intro gap entry usb' hmem hne hlinked
    rw [isCorrectParentDevice_iff hlinked, decide_eq_false]
    rintro rfl
    exact hne (UsbTree.eq_of_name hmem h)

/-- The device `1-2`, and `1-2.3` behind it. -/
def UsbTree.sample : UsbTree where
  devices := [(7, .onPort (.rootHub 1) 2), (8, .onPort (.onPort (.rootHub 1) 2) 3)]
  valid := by
    intro usb hmem
    fin_cases hmem <;> exact ⟨by decide, by decide, by decide, by decide⟩
  unique := by decide

/-- An evdi device with a link to the device `1-2`. -/
def PlatformEntry.sample : PlatformEntry where
  dName := ['e', 'v', 'd', 'i', '.', '0']
  deviceExists := true
  device := some ['.', '.', '/', '1', '-', '2']
  drm := some [['c', 'a', 'r', 'd', '3']]

theorem PlatformEntry.sample_linkedTo {parent : List Char}
    (h : 3 ≤ parentTokenBound 4096 parent.length ['.', '.', '/', '1', '-', '2'] ['1', '-', '2']) :
    PlatformEntry.sample.LinkedTo 4096 parent ['1', '-', '2'] where
  device := ⟨['.', '.'], rfl, by decide, h⟩

/-- A device is attached to `1-2`, and is accepted. -/
theorem parent_names_agree_sample :
    isCorrectParentDevice 4096 .sample (some ['1', '-', '2']) 3 = some true := by
  have hname : (UsbDevice.onPort (.rootHub 1) 2).name = ['1', '-', '2'] := by decide
  have hdevice : UsbTree.sample.deviceFor (usbPrefix ++ ['1', '-', '2']) =
      some (7, .onPort (.rootHub 1) 2) := by
    decide +kernel
  have hlinked : PlatformEntry.sample.LinkedTo 4096 ((usbPrefix ++ ['1', '-', '2']).drop 4)
      (UsbDevice.onPort (.rootHub 1) 2).name := by
    rw [hname]
    exact PlatformEntry.sample_linkedTo (by decide)
  have h := (parent_names_agree (List.prefix_append _ _) hdevice).2.1 4096 .sample hlinked
  rw [hname] at h
  exact h

/-- The kernel finds the device `1-2`, and the library does not accept a link to it. -/
def NamesDiffer (s : List Char) : Prop :=
  UsbTree.sample.deviceFor s = some (7, .onPort (.rootHub 1) 2) ∧
    PlatformEntry.sample.LinkedTo 4096 (s.drop 4) (UsbDevice.onPort (.rootHub 1) 2).name ∧
    isCorrectParentDevice 4096 .sample (some (s.drop 4)) (s.length - 4) = some false

/-- A suffix `:1.0`, a zero in front, and a newline at the end: the kernel finds the device `1-2` for
each of them, and the library does not accept it. -/
theorem parent_names_differ :
    NamesDiffer (usbPrefix ++ ['1', '-', '2', ':', '1', '.', '0']) ∧
    NamesDiffer (usbPrefix ++ ['0', '1', '-', '2']) ∧
    NamesDiffer (usbPrefix ++ ['1', '-', '2', '\n']) := by
  have hname : (UsbDevice.onPort (.rootHub 1) 2).name = ['1', '-', '2'] := by decide
  unfold NamesDiffer
  rw [hname]
  refine ⟨?_, ?_, ?_⟩
  · exact ⟨by decide +kernel, PlatformEntry.sample_linkedTo (by decide), by decide +kernel⟩
  · exact ⟨by decide +kernel, PlatformEntry.sample_linkedTo (by decide), by decide +kernel⟩
  · exact ⟨by decide +kernel, PlatformEntry.sample_linkedTo (by decide), by decide +kernel⟩

end Evdi
