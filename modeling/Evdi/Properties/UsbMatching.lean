import Evdi.Model.UsbForest
import Evdi.Properties.ParentNames

/-!
# Which USB device matches an address

`find_usb_device_at_path` walks up from a device and compares the address from its end.

* `findFrom_usbDevices`: the walk over the devices that are given by their ports;
* `UsbForest.Path.eq_of_path`: a path belongs to one device;
* `UsbForest.usb_match_exact`: the device that matches is the one with that path.
-/

namespace Evdi

/-- **The two walks** are the same, on addresses that fit `usb_addr`. -/
theorem findFrom_usbDevices {addr : List ℤ} {n : ℕ} (hmax : n ≤ maxEvdiUsbAddr)
    (d : {d : UsbDevice // ∀ port ∈ d.ports, 0 < port}) :
    usbDevices.findFrom addr d n = findUsbDeviceFrom addr d.1 n := by
  induction n generalizing d with
  | zero => rcases d with ⟨_ | _, _⟩ <;> rfl
  | succ n ih =>
    rw [UsbForest.findFrom, if_neg (by omega)]
    rcases d with ⟨busnum | ⟨parent, portnum⟩, hd⟩
    · by_cases haddr : addr[n]? = some (busnum : ℤ) <;> simp [findUsbDeviceFrom, haddr]
    · have hport := (UsbDevice.ports_onPort hd).2.ne'
      have hparent := ih (by omega) ⟨parent, (UsbDevice.ports_onPort hd).1⟩
      by_cases haddr : addr[n]? = some (portnum : ℤ) <;>
        simp [findUsbDeviceFrom, hport, haddr, hparent]

namespace UsbForest

variable {ι : Type*} {F : UsbForest ι} {d e : ι} {path path' : List ℕ}

/-! ### Paths -/

theorem exists_path (F : UsbForest ι) (d : ι) : ∃ path, F.Path d path := by
  induction d using F.wellFounded.induction with
  | _ d ih =>
    cases hparent : F.parent d with
    | none => exact ⟨_, .root hparent⟩
    | some p =>
      obtain ⟨path, hpath⟩ := ih p hparent
      exact ⟨_, .port hparent hpath⟩

theorem Path.ne_nil (h : F.Path d path) : path ≠ [] := by
  cases h <;> simp

/-- A device has one path. -/
theorem Path.unique (h : F.Path d path) (h' : F.Path d path') : path = path' := by
  induction h generalizing path' with
  | root hroot =>
    cases h' with
    | root => rfl
    | port hparent => simp [hroot] at hparent
  | port hparent hpath ih =>
    cases h' with
    | root hroot => simp [hroot] at hparent
    | port hparent' hpath' =>
      obtain rfl := Option.some.inj (hparent.symm.trans hparent')
      rw [ih hpath']

/-- **A path belongs to one device.** -/
theorem Path.eq_of_path (h : F.Path d path) (h' : F.Path e path) : d = e := by
  induction h generalizing e with
  | @root d hroot =>
    generalize hbus : [F.busnum d] = path at h'
    cases h' with
    | root hroot' => exact F.busesDistinct d e hroot hroot' (List.singleton_inj.1 hbus)
    | port hparent hpath =>
      have hlength := congrArg List.length hbus
      simp at hlength
      exact absurd hlength hpath.ne_nil
  | @port d p path hparent hpath ih =>
    generalize hport : path ++ [F.portnum d] = path' at h'
    cases h' with
    | root hroot' =>
      have hlength := congrArg List.length hport
      simp at hlength
      exact absurd hlength hpath.ne_nil
    | port hparent' hpath' =>
      obtain ⟨rfl, hnum⟩ := List.append_inj' hport rfl
      obtain rfl := ih hpath'
      exact F.siblingsDistinct d e p hparent hparent' (List.singleton_inj.1 hnum)

/-- The way to an ancestor is shorter. -/
theorem Path.length_lt (h : F.Path d path) (h' : F.Path e path') (hancestor : F.Ancestor e d) :
    path'.length < path.length := by
  induction hancestor generalizing path with
  | single hparent =>
    cases h with
    | root hroot => simp [hroot] at hparent
    | port hparent' hpath =>
      obtain rfl := Option.some.inj (hparent.symm.trans hparent')
      rw [hpath.unique h']
      simp
  | tail _ hparent ih =>
    cases h with
    | root hroot => simp [hroot] at hparent
    | port hparent' hpath =>
      obtain rfl := Option.some.inj (hparent.symm.trans hparent')
      have := ih hpath
      simp only [List.length_append, List.length_singleton]
      omega

/-! ### The walk -/

/-- **The walk** from the component `n - 1` on accepts the devices whose path is the first `n`
components. -/
theorem findFrom_iff {addr : List ℤ} {n : ℕ} (hn : n ≤ addr.length) (hmax : n ≤ maxEvdiUsbAddr) (d : ι) :
    F.findFrom addr d n = true ↔ ∃ path, F.Path d path ∧ addr.take n = path.map Nat.cast := by
  induction n generalizing d with
  | zero =>
    refine iff_of_false (by simp [findFrom]) ?_
    rintro ⟨path, hpath, hnil⟩
    exact hpath.ne_nil (List.map_eq_nil_iff.1 hnil.symm)
  | succ n ih =>
    rw [findFrom, if_neg (by omega)]
    dsimp only
    obtain ⟨a, ha⟩ : ∃ a, addr[n]? = some a := ⟨addr.get ⟨n, by omega⟩, List.getElem?_eq_getElem _⟩
    have htake : addr.take (n + 1) = addr.take n ++ [a] := by
      rw [List.take_add_one, ha]
      rfl
    rw [htake, ha]
    cases hparent : F.parent d with
    | none =>
      rw [if_pos (F.rootPort d hparent)]
      have htaken : (addr.take n).length = n := List.length_take_of_le (by omega)
      constructor
      · intro h
        split_ifs at h with ha
        obtain rfl := Option.some.inj (not_not.1 ha)
        obtain rfl : n = 0 := by simpa using h
        exact ⟨_, .root hparent, by simp⟩
      · rintro ⟨path, hpath, heq⟩
        obtain rfl := hpath.unique (.root hparent)
        rw [List.map_singleton] at heq
        obtain rfl : n = 0 := by
          have hlength := congrArg List.length heq
          rw [List.length_append, htaken] at hlength
          simpa using hlength
        have hbus : a = F.busnum d := by simpa using heq
        rw [hbus]
        simp
    | some p =>
      rw [if_neg (F.portPos d p hparent).ne']
      constructor
      · intro h
        split_ifs at h with ha
        obtain rfl := Option.some.inj (not_not.1 ha)
        obtain ⟨path, hpath, heq⟩ := (ih (by omega) (by omega) p).1 h
        exact ⟨_, .port hparent hpath, by simp [heq]⟩
      · rintro ⟨path, hpath, heq⟩
        obtain ⟨path', hpath'⟩ := F.exists_path p
        obtain rfl := hpath.unique (.port hparent hpath')
        rw [List.map_append, List.map_singleton] at heq
        obtain ⟨hbefore, hport⟩ := List.append_inj' heq rfl
        rw [if_neg (not_not.2 (congrArg some (List.singleton_inj.1 hport)))]
        exact (ih (by omega) (by omega) p).2 ⟨path', hpath', hbefore⟩

/-- **USB address matching is exact and unique.**

* A device matches an address when the number of its root's bus and of the ports down to it are the
  address.
* No two devices match, and in particular none of their ancestors. -/
theorem usb_match_exact (F : UsbForest ι) {addr : List ℤ} (hmax : addr.length ≤ maxEvdiUsbAddr) :
    (∀ d, F.findUsbDeviceAtPath addr d = true ↔
      ∃ path, F.Path d path ∧ addr = path.map Nat.cast) ∧
    (∀ d e, F.findUsbDeviceAtPath addr d = true → F.findUsbDeviceAtPath addr e = true → d = e) ∧
    ∀ d e, F.Ancestor e d →
      ¬ (F.findUsbDeviceAtPath addr d = true ∧ F.findUsbDeviceAtPath addr e = true) := by
  have hexact : ∀ d, F.findUsbDeviceAtPath addr d = true ↔
      ∃ path, F.Path d path ∧ addr = path.map Nat.cast := by
    intro d
    rw [findUsbDeviceAtPath, findFrom_iff le_rfl hmax, List.take_length]
  have hunique : ∀ d e, F.findUsbDeviceAtPath addr d = true → F.findUsbDeviceAtPath addr e = true →
      d = e := by
    intro d e hd he
    obtain ⟨path, hpath, hsame⟩ := (hexact d).1 hd
    obtain ⟨path', hpath', hsame'⟩ := (hexact e).1 he
    obtain rfl := List.map_injective_iff.2 Nat.cast_injective (hsame.symm.trans hsame')
    exact hpath.eq_of_path hpath'
  refine ⟨hexact, hunique, fun d e hancestor ⟨hd, he⟩ => ?_⟩
  obtain rfl := hunique d e hd he
  obtain ⟨path, hpath⟩ := F.exists_path d
  exact (hpath.length_lt hpath hancestor).false

/-- Port 2 of bus 1. -/
theorem usb_match_sample :
    usbDevices.findUsbDeviceAtPath [1, 2] ⟨.onPort (.rootHub 1) 2, by simp [UsbDevice.ports]⟩ = true :=
  ((@usb_match_exact _ usbDevices [1, 2] (by decide)).1 _).2 ⟨_, .port rfl (.root rfl), rfl⟩

end UsbForest

end Evdi
