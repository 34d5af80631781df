import Evdi.Model.OpenDevice

/-!
# A handle is never the DRM master

Whatever other processes and other threads do meanwhile, `evdi_open` closes every descriptor it has opened
but that of its handle, which is not a master; it opens the card at most 51 times.

* `CardFiles.Idle`, `CardFiles.Slave`: nothing is held, or a descriptor that is not a master;
* `CardFiles.under_openAsSlave`, `under_waitForDevice`, `under_openDevice`: the functions, one by one;
* **`evdi_open_slave`**: the results, and the descriptor that is not closed.
-/

namespace Evdi

open Atomic Prog

namespace CardFiles

/-! ### What the call holds -/

/-- All that was opened is closed. -/
def Idle (s : CardFiles) : Prop := s.opened = s.closed

/-- All is closed but `fd`, which is open, with a file of `P`. -/
structure Holds (fd : ℕ) (P : CardFile → Prop) (s : CardFiles) : Prop where
  opened : s.opened = s.closed ++ [fd]
  file : ∃ file, s.files fd = some file ∧ P file

/-- All is closed but `fd`, which is not a master. -/
abbrev Slave (fd : ℕ) : CardFiles → Prop := Holds fd (·.isMaster = false)

/-- The card was opened at most `n` times, and there were at most `k` pauses. -/
structure Spent (n k : ℕ) (s : CardFiles) : Prop where
  opened : s.opened.length ≤ n
  sleeps : s.sleeps ≤ k

variable {s t : CardFiles} {n k fd : ℕ} {P : CardFile → Prop}

theorem Others.refl (s : CardFiles) : Others s s := ⟨rfl, rfl, rfl, fun _ _ => rfl⟩

theorem Others.held (h : Others s t) (hs : s.Held fd) : t.Held fd := by
  unfold Held at hs ⊢
  rwa [h.opened, h.closed]

theorem Holds.held (h : Holds fd P s) : s.Held fd := by
  unfold Held
  rw [h.opened, List.count_append, List.count_singleton_self]
  exact Nat.lt_succ_self _

theorem Idle.others (hs : s.Idle) (h : Others s t) : t.Idle := by
  rw [Idle, h.opened, h.closed]
  exact hs

theorem Holds.others (hs : Holds fd P s) (h : Others s t) : Holds fd P t :=
  ⟨by rw [h.opened, h.closed, hs.opened], by rw [h.files fd hs.held]; exact hs.file⟩

theorem Spent.others (hs : Spent n k s) (h : Others s t) : Spent n k t :=
  ⟨by rw [h.opened]; exact hs.opened, by rw [h.sleeps]; exact hs.sleeps⟩

theorem Spent.mono (hs : Spent n k s) {n' k' : ℕ} (hn : n ≤ n') (hk : k ≤ k') : Spent n' k' s :=
  ⟨hs.opened.trans hn, hs.sleeps.trans hk⟩

/-! ### System calls -/

/-- An `open` fails, or gives a descriptor that is held from then on. -/
theorem under_sysOpen (hidle : s.Idle) (hspent : Spent n k s) :
    sysOpen.Under Others (fun (ret : ℤ) t => (ret = -1 ∧ t.Idle ∧ Spent n k t) ∨
      ∃ fd : ℕ, ret = fd ∧ Holds fd (fun _ => True) t ∧ Spent (n + 1) k t) s := by
  refine under_act fun t h => ?_
  cases hfd : t.nextFd.filter fun fd => (t.files fd).isNone with
  | none => exact .inl ⟨rfl, hidle.others h, hspent.others h⟩
  | some fd =>
    have hopened := hidle.others h
    have hspent := hspent.others h
    refine .inr ⟨fd, rfl, ⟨congrArg (· ++ [fd]) hopened, _, Function.update_self .., trivial⟩,
      ?_, hspent.sleeps⟩
    rw [List.length_append, List.length_singleton]
    exact Nat.add_le_add_right hspent.opened 1

theorem under_sysClose (hfd : Holds fd P s) (hspent : Spent n k s) :
    (sysClose fd).Under Others (fun _ t => t.Idle ∧ Spent n k t) s := by
  refine under_modify fun t h => ?_
  have hspent := hspent.others h
  exact ⟨(hfd.others h).opened, hspent.opened, hspent.sleeps⟩

theorem drmAuthMagic_eq {file : CardFile} (h : s.unplugged = false) (hfd : s.files fd = some file) :
    drmAuthMagic fd s = if file.isMaster then -EINVAL else -EACCES := by
  simp [drmAuthMagic, h, hfd]

/-- Only a descriptor that is not a master is refused with `EACCES`. -/
theorem file_of_drmAuthMagic {file : CardFile} (h : drmAuthMagic fd s = -EACCES)
    (hfd : s.files fd = some file) : file.isMaster = false := by
  cases hunplugged : s.unplugged with
  | true =>
    rw [drmAuthMagic, if_pos hunplugged] at h
    exact absurd h (by decide)
  | false =>
    rw [drmAuthMagic_eq hunplugged hfd] at h
    split_ifs at h with hmaster
    · exact absurd h (by decide)
    · simpa using hmaster

/-- A descriptor that is found not to be a master is not. -/
theorem under_drmIsMaster (hfd : Holds fd P s) (hspent : Spent n k s) :
    (drmIsMaster fd).Under Others (fun isMaster t => Holds fd P t ∧ Spent n k t ∧
      (isMaster = false → Slave fd t)) s := by
  refine under_read fun t h => ⟨hfd.others h, hspent.others h, fun hslave => ?_⟩
  have hauth : drmAuthMagic fd t = -EACCES := by simpa using hslave
  obtain ⟨file, hfile, -⟩ := (hfd.others h).file
  exact ⟨(hfd.others h).opened, file, hfile, file_of_drmAuthMagic hauth hfile⟩

/-- Dropping a mastership makes no master. -/
theorem under_dropMaster (hfd : Holds fd P s) (hP : ∀ file, P file → P { file with isMaster := false })
    (hspent : Spent n k s) :
    (dropMaster fd).Under Others (fun _ t => Holds fd P t ∧ Spent n k t) s := by
  refine under_act fun t h => ?_
  have hfd := hfd.others h
  have hspent := hspent.others h
  obtain ⟨file, hfile, hprop⟩ := hfd.file
  rw [Int.toNat_natCast, hfile]
  dsimp only
  split_ifs
  · exact ⟨⟨hfd.opened, _, Function.update_self .., hP file hprop⟩, hspent.opened, hspent.sleeps⟩
  · exact ⟨hfd, hspent⟩

theorem under_dropIfMaster (hfd : Holds fd P s) (hP : ∀ file, P file → P { file with isMaster := false })
    (hspent : Spent n k s) :
    (dropIfMaster fd).Under Others (fun _ t => Holds fd P t ∧ Spent n k t) s := by
  refine Under.bind ((under_drmIsMaster hfd hspent).mono fun isMaster t ht => ?_)
  obtain ⟨hfd, hspent, -⟩ := ht
  cases isMaster with
  | false => exact ⟨hfd, hspent⟩
  | true => exact under_dropMaster hfd hP hspent

/-! ### The functions -/

/-- What an attempt comes to: nothing is held, or a descriptor that is not a master. -/
def Attempted (n k : ℕ) (ret : ℤ) (t : CardFiles) : Prop :=
  Spent n k t ∧ ((ret < 0 ∧ t.Idle) ∨ ∃ fd : ℕ, ret = fd ∧ Slave fd t)

/-- **`open_as_slave`.** -/
theorem under_openAsSlave (hidle : s.Idle) (hspent : Spent n k s) :
    openAsSlave.Under Others (Attempted (n + 1) k) s := by
  refine Under.bind ((under_sysOpen hidle hspent).mono fun ret t ht => ?_)
  rcases ht with ⟨rfl, hidle, hspent⟩ | ⟨fd, rfl, hfd, hspent⟩
  · exact ⟨hspent.mono n.le_succ le_rfl, .inl ⟨by decide, hidle⟩⟩
  · have hnonneg : ¬ (fd : ℤ) < 0 := by omega
    rw [if_neg hnonneg]
    refine Under.bind ((under_dropIfMaster hfd (fun _ => id) hspent).mono fun err t ht => ?_)
    obtain ⟨hfd, hspent⟩ := ht
    split_ifs with herr
    · exact Under.bind ((under_sysClose hfd hspent).mono fun _ t ht => ⟨ht.2, .inl ⟨herr, ht.1⟩⟩)
    · refine Under.bind ((under_drmIsMaster hfd hspent).mono fun isMaster t ht => ?_)
      obtain ⟨hfd, hspent, hslave⟩ := ht
      cases isMaster with
      | false => exact ⟨hspent, .inr ⟨fd, rfl, hslave rfl⟩⟩
      | true =>
        exact Under.bind ((under_sysClose hfd hspent).mono fun _ t ht =>
          ⟨ht.2, .inl ⟨by decide, ht.1⟩⟩)

/-- **`wait_for_device`**: an attempt more than there are pauses. -/
theorem under_waitForDevice (hidle : s.Idle) (hspent : Spent 0 k s) :
    waitForDevice.Under Others (Attempted 51 (k + 50)) s := by
  refine under_poll (I := fun m t => t.Idle ∧ m ≤ 50 ∧ Spent (50 - m) (k + (50 - m)) t)
    (J := fun m t => t.Idle ∧ m ≤ 50 ∧ Spent (51 - m) (k + (50 - m)) t)
    (fun m t ht => ?_) (fun m t ht => ?_) (fun ret t hret ht => ?_) waitCount ⟨hidle, le_rfl, hspent⟩
  · obtain ⟨hidle, hm, hspent⟩ := ht
    refine (under_openAsSlave hidle hspent).mono fun ret u hu => ?_
    obtain ⟨hspent, hret⟩ := hu
    have hn : 50 - m + 1 = 51 - m := by omega
    rw [hn] at hspent
    rcases hret with ⟨hneg, hidle⟩ | ⟨fd, rfl, hfd⟩
    · rw [if_pos (decide_eq_true hneg)]
      exact ⟨hidle, hm, hspent⟩
    · have hnonneg : ¬ decide ((fd : ℤ) < 0) = true := by simp
      rw [if_neg hnonneg]
      exact ⟨hspent.mono (by omega) (by omega), .inr ⟨fd, rfl, hfd⟩⟩
  · obtain ⟨hidle, hm, hspent⟩ := ht
    refine under_modify fun u hu => ?_
    have hidle := hidle.others hu
    have hspent := hspent.others hu
    refine ⟨hidle, by omega, ?_, ?_⟩
    · have hlength := hspent.opened
      dsimp only
      omega
    · have hsleeps := hspent.sleeps
      dsimp only
      omega
  · obtain ⟨hidle, -, hspent⟩ := ht
    exact ⟨hspent, .inl ⟨by simpa using hret, hidle⟩⟩

/-- **`wait_for_master`** looks and sleeps. -/
theorem under_waitForMaster (devicePath : List Char) (hidle : s.Idle) (hspent : Spent 0 0 s) :
    (waitForMaster devicePath).Under Others (fun _ t => t.Idle ∧ Spent 0 50 t) s := by
  refine under_poll (I := fun m t => t.Idle ∧ m ≤ 50 ∧ Spent 0 (50 - m) t)
    (J := fun m t => t.Idle ∧ m ≤ 50 ∧ Spent 0 (50 - m) t)
    (fun m t ht => ?_) (fun m t ht => ?_) (fun b t _ ht => ⟨ht.1, ht.2.2⟩) waitCount
    ⟨hidle, le_rfl, hspent⟩
  · obtain ⟨hidle, hm, hspent⟩ := ht
    refine under_read fun u hu => ?_
    split_ifs
    · exact ⟨hidle.others hu, hm, hspent.others hu⟩
    · exact ⟨hidle.others hu, (hspent.others hu).mono le_rfl (Nat.sub_le _ _)⟩
  · obtain ⟨hidle, hm, hspent⟩ := ht
    refine under_modify fun u hu => ?_
    have hidle := hidle.others hu
    have hspent := hspent.others hu
    refine ⟨hidle, by omega, hspent.opened, ?_⟩
    have hsleeps := hspent.sleeps
    dsimp only
    omega

/-- **`open_device`.** -/
theorem under_openDevice (device : ℤ) (hidle : s.Idle) (hspent : Spent 0 0 s) :
    (openDevice device).Under Others (Attempted 51 100) s := by
  refine Under.bind (under_read fun t ht => ?_)
  have hwait : (when (xorgRunning t) (waitForMaster (cardPath device) >>= fun _ => .pure ())).Under
      Others (fun _ t => t.Idle ∧ Spent 0 50 t) t := by
    refine under_when (fun _ => ?_) fun _ => ⟨hidle.others ht, (hspent.others ht).mono le_rfl (by omega)⟩
    exact Under.bind (under_waitForMaster _ (hidle.others ht) (hspent.others ht))
  refine Under.bind (hwait.mono fun _ t ht => ?_)
  refine Under.bind ((under_waitForDevice ht.1 ht.2).mono fun ret t ht => ?_)
  obtain ⟨hspent, hret⟩ := ht
  rcases hret with ⟨hneg, hidle⟩ | ⟨fd, rfl, hfd⟩
  · have hnot : ¬ 0 ≤ ret := by omega
    rw [if_neg hnot]
    exact ⟨hspent, .inl ⟨hneg, hidle⟩⟩
  · rw [if_pos (Int.natCast_nonneg fd)]
    exact Under.bind ((under_dropMaster hfd (fun _ _ => rfl) hspent).mono fun _ t ht =>
      ⟨ht.2, .inr ⟨fd, rfl, ht.1⟩⟩)

/-- A file that is not a master, with a driver that the library works with. -/
structure CompatibleSlave (file : CardFile) : Prop where
  isMaster : file.isMaster = false
  driver : DriverFits file.driver

/-- `is_evdi(fd) && is_evdi_compatible(fd)` finds the driver of the file. -/
theorem under_isCompatibleEvdi (hfd : Slave fd s) (hspent : Spent n k s) :
    (isCompatibleEvdi fd).Under Others (fun compatible t => Slave fd t ∧ Spent n k t ∧
      (compatible = true → Holds fd CompatibleSlave t)) s := by
  refine Under.bind (under_read fun t ht => ?_)
  have hfd := hfd.others ht
  have hspent := hspent.others ht
  obtain ⟨file, hfile, hslave⟩ := hfd.file
  split_ifs with hevdi
  · refine under_read fun u hu => ⟨hfd.others hu, hspent.others hu, fun hcompatible => ?_⟩
    have hfile' : u.files fd = some file := (hu.files fd hfd.held).trans hfile
    simp only [Int.toNat_natCast, hfile, Option.any_some, Bool.and_eq_true, beq_iff_eq] at hevdi
    simp only [Int.toNat_natCast, hfile', Option.any_some, Bool.and_eq_true, beq_iff_eq,
      decide_eq_true_eq] at hcompatible
    exact ⟨(hfd.others hu).opened, file, hfile', hslave, hevdi.2, hcompatible.2.1, hcompatible.2.2⟩
  · exact ⟨hfd, hspent, fun h => absurd h Bool.false_ne_true⟩

/-- What `evdi_open` leaves. -/
structure Opened (ret : Option ℕ) (t : CardFiles) : Prop where
  spent : Spent 51 100 t
  handle : ∀ fd, ret = some fd → fd ≠ 0 ∧ Holds fd CompatibleSlave t
  failed : ret = none → t.Idle ∨ Slave 0 t

theorem Opened.others {ret : Option ℕ} (hs : Opened ret s) (h : Others s t) : Opened ret t := by
  refine ⟨hs.spent.others h, fun fd hfd => ?_, fun hnone => ?_⟩
  · obtain ⟨hne, hholds⟩ := hs.handle fd hfd
    exact ⟨hne, hholds.others h⟩
  · exact (hs.failed hnone).imp (Idle.others · h) (Holds.others · h)

/-- **`evdi_open`.** -/
theorem under_evdiOpenCard (device : ℤ) (calloc : Bool) (hidle : s.Idle) (hspent : Spent 0 0 s) :
    (evdiOpenCard device calloc).Under Others Opened s := by
  refine Under.bind ((under_openDevice device hidle hspent).mono fun ret t ht => ?_)
  obtain ⟨hspent, hret⟩ := ht
  rcases hret with ⟨hneg, hidle⟩ | ⟨fd, rfl, hfd⟩
  · have hnot : ¬ 0 < ret := by omega
    rw [if_neg hnot]
    exact ⟨hspent, fun _ h => absurd h (by simp), fun _ => .inl hidle⟩
  · by_cases hzero : fd = 0
    · -- the descriptor 0 counts as a failure, and is not closed
      subst hzero
      exact ⟨hspent, fun _ h => absurd h (by simp), fun _ => .inr hfd⟩
    · have hpos : (0 : ℤ) < fd := by omega
      rw [if_pos hpos]
      refine Under.bind ((under_isCompatibleEvdi hfd hspent).mono fun compatible t ht => ?_)
      obtain ⟨hfd, hspent, hholds⟩ := ht
      split_ifs with hopen
      · obtain ⟨hcompatible, -⟩ := Bool.and_eq_true_iff.1 hopen
        refine ⟨hspent, fun fd' h => ?_, fun h => absurd h (by simp)⟩
        obtain rfl : fd = fd' := by simpa using h
        exact ⟨hzero, hholds hcompatible⟩
      · exact Under.bind ((under_sysClose hfd hspent).mono fun _ t ht =>
          ⟨ht.2, fun _ h => absurd h (by simp), fun _ => .inl ht.1⟩)

/-! ### A willing kernel -/

/-- The mastership is dropped, if there is one. -/
theorem willing_dropIfMaster (hfd : Holds fd (fun file => DriverFits file.driver) s)
    (hspent : Spent n k s) : (dropIfMaster fd).Under WillingOthers
      (fun err t => err = 0 ∧ Holds fd CompatibleSlave t ∧ Spent n k t) s := by
  refine Under.bind (under_read fun t ht => ?_)
  have hfd := hfd.others ht.1
  have hspent := hspent.others ht.1
  obtain ⟨file, hfile, hfits⟩ := hfd.file
  rw [drmAuthMagic_eq ht.2.unplugged hfile]
  cases hmaster : file.isMaster with
  | false => exact ⟨rfl, ⟨hfd.opened, file, hfile, hmaster, hfits⟩, hspent⟩
  | true =>
    refine under_act fun u hu => ?_
    have hfile' : u.files fd = some file := (hu.1.files fd hfd.held).trans hfile
    have hfd := hfd.others hu.1
    have hspent := hspent.others hu.1
    simp only [Int.toNat_natCast, hfile', hu.2.unplugged, hu.2.mayDrop, hmaster]
    exact ⟨rfl, ⟨hfd.opened, _, Function.update_self .., rfl, hfits⟩, hspent.opened, hspent.sleeps⟩

/-- One attempt is enough. -/
theorem willing_openAsSlave (hidle : s.Idle) (hspent : Spent n k s) :
    openAsSlave.Under WillingOthers
      (fun (ret : ℤ) t => ∃ fd : ℕ, ret = fd ∧ Holds fd CompatibleSlave t ∧ Spent (n + 1) k t) s := by
  have hopen : sysOpen.Under WillingOthers (fun (ret : ℤ) t => ∃ fd : ℕ, ret = fd ∧
      Holds fd (fun file => DriverFits file.driver) t ∧ Spent (n + 1) k t) s := by
    refine under_act fun t ht => ?_
    obtain ⟨fd, hnext, hfree⟩ := ht.2.nextFd
    have hfilter : t.nextFd.filter (fun fd => (t.files fd).isNone) = some fd := by
      simp [hnext, hfree]
    have hidle := hidle.others ht.1
    have hspent := hspent.others ht.1
    rw [hfilter]
    refine ⟨fd, rfl, ⟨congrArg (· ++ [fd]) hidle, _, Function.update_self .., ht.2.driver⟩, ?_,
      hspent.sleeps⟩
    rw [List.length_append, List.length_singleton]
    exact Nat.add_le_add_right hspent.opened 1
  refine Under.bind (hopen.mono fun ret t ht => ?_)
  obtain ⟨fd, rfl, hfd, hspent⟩ := ht
  have hnonneg : ¬ (fd : ℤ) < 0 := by omega
  rw [if_neg hnonneg]
  refine Under.bind ((willing_dropIfMaster hfd hspent).mono fun err t ht => ?_)
  obtain ⟨rfl, hslave, hspent⟩ := ht
  rw [if_neg (lt_irrefl 0)]
  refine Under.bind (under_read fun u hu => ?_)
  have hslave := hslave.others hu.1
  obtain ⟨file, hfile, hcompatible⟩ := hslave.file
  rw [drmAuthMagic_eq hu.2.unplugged hfile, hcompatible.isMaster]
  exact ⟨fd, rfl, hslave, hspent.others hu.1⟩

theorem willing_openDevice (device : ℤ) (hidle : s.Idle) (hspent : Spent 0 0 s) :
    (openDevice device).Under WillingOthers
      (fun (ret : ℤ) t => ∃ fd : ℕ, ret = fd ∧ Holds fd CompatibleSlave t ∧ Spent 1 50 t) s := by
  refine Under.bind (under_read fun t ht => ?_)
  have hidle := hidle.others ht.1
  have hspent := hspent.others ht.1
  have hwait : (when (xorgRunning t) (waitForMaster (cardPath device) >>= fun _ => .pure ())).Under
      WillingOthers (fun _ t => t.Idle ∧ Spent 0 50 t) t := by
    refine under_when (fun _ => ?_) fun _ => ⟨hidle, hspent.mono le_rfl (Nat.zero_le _)⟩
    exact Under.bind ((under_waitForMaster _ hidle hspent).weaken fun _ _ h => h.1)
  refine Under.bind (hwait.mono fun _ t ht => ?_)
  have hfirst : waitForDevice.Under WillingOthers
      (fun (ret : ℤ) t => ∃ fd : ℕ, ret = fd ∧ Holds fd CompatibleSlave t ∧ Spent 1 50 t) t := by
    refine under_poll_first ((willing_openAsSlave ht.1 ht.2).mono fun ret u hu => ⟨?_, hu⟩) waitCount
    obtain ⟨fd, rfl, -⟩ := hu
    simp
  refine Under.bind (hfirst.mono fun ret u hu => ?_)
  obtain ⟨fd, rfl, hslave, hspent⟩ := hu
  rw [if_pos (Int.natCast_nonneg fd)]
  exact Under.bind (((under_dropMaster hslave (fun _ h => ⟨rfl, h.driver⟩) hspent).weaken
    fun _ _ h => h.1).mono fun _ w hw => ⟨fd, rfl, hw⟩)

/-- With a willing kernel there is a handle, unless its descriptor is 0. -/
theorem willing_evdiOpenCard (device : ℤ) (hidle : s.Idle) (hspent : Spent 0 0 s) :
    (evdiOpenCard device true).Under WillingOthers
      (fun ret t => ∃ fd : ℕ, t.opened = [fd] ∧ ret = if fd = 0 then none else some fd) s := by
  have hopened : ∀ {fd : ℕ} {t : CardFiles}, Holds fd CompatibleSlave t → Spent 1 50 t →
      t.opened = [fd] := by
    intro fd t hslave hspent
    have hlength := hspent.opened
    rw [hslave.opened, List.length_append, List.length_singleton] at hlength
    have hclosed : t.closed = [] := List.length_eq_zero_iff.1 (by omega)
    rw [hslave.opened, hclosed, List.nil_append]
  refine Under.bind ((willing_openDevice device hidle hspent).mono fun ret t ht => ?_)
  obtain ⟨fd, rfl, hslave, hspent⟩ := ht
  by_cases hzero : fd = 0
  · subst hzero
    exact ⟨0, hopened hslave hspent, rfl⟩
  · have hpos : (0 : ℤ) < fd := by omega
    rw [if_pos hpos]
    have hcompatible : (isCompatibleEvdi fd).Under WillingOthers
        (fun compatible t => compatible = true ∧ Holds fd CompatibleSlave t ∧ Spent 1 50 t) t := by
      refine Under.bind (under_read fun t ht => ?_)
      have hslave := hslave.others ht.1
      have hspent := hspent.others ht.1
      obtain ⟨file, hfile, hfits⟩ := hslave.file
      rw [if_pos (by simp [ht.2.unplugged, hfile, hfits.driver.name])]
      refine under_read fun u hu => ⟨?_, hslave.others hu.1, hspent.others hu.1⟩
      have hfile' : u.files fd = some file := (hu.1.files fd hslave.held).trans hfile
      simp [hu.2.unplugged, hfile', hfits.driver.versionMajor, hfits.driver.versionMinor]
    refine Under.bind (hcompatible.mono fun compatible t ht => ?_)
    obtain ⟨rfl, hslave, hspent⟩ := ht
    exact ⟨fd, hopened hslave hspent, by rw [if_neg hzero]; simp⟩

/-! ### The results -/

/-- A card that nobody else has open, and a process whose next descriptor is `fd`. -/
def sample (fd : ℕ) : CardFiles where
  procs := none
  myself := 1
  nextFd := some fd
  otherMaster := false
  unplugged := false
  mayDrop := true
  driver := ⟨['e', 'v', 'd', 'i'], 1, 14⟩
  files := fun _ => none
  opened := []
  closed := []
  sleeps := 0

/-- **A handle is never the DRM master.** Whatever others do before and after each of its system calls,
`evdi_open` opens the card at most 51 times and sleeps at most 100 times, and when it is over:

* the descriptor of its handle is open and not a master, and stays so; every other one is closed, and the
  driver behind it is one that the library works with;
* if it fails, all it has opened is closed, or all but the descriptor 0.

When the kernel opens the card, whose driver fits, and lets go of masterships, and there is memory, it opens
the card once, and makes a handle of every descriptor but 0. -/
theorem evdi_open_slave :
    (∀ device calloc s, s.opened = [] → s.closed = [] → s.sleeps = 0 →
      (evdiOpenCard device calloc).Under Others (fun ret t => ∀ u, Others t u →
        u.opened.length ≤ 51 ∧ u.sleeps ≤ 100 ∧
        (∀ fd, ret = some fd → fd ≠ 0 ∧ u.opened = u.closed ++ [fd] ∧
          ∃ file, u.files fd = some file ∧ file.isMaster = false ∧ DriverFits file.driver) ∧
        (ret = none → u.opened = u.closed ∨ u.opened = u.closed ++ [0])) s) ∧
    (∀ device s, s.opened = [] → s.closed = [] → s.sleeps = 0 →
      (evdiOpenCard device true).Under WillingOthers
        (fun ret t => ∃ fd, t.opened = [fd] ∧ ret = if fd = 0 then none else some fd) s) ∧
    (((evdiOpenCard 0 true).exec (sample 3)).2 = some 3 ∧
      ((evdiOpenCard 0 true).exec (sample 3)).1.opened = [3] ∧
      ((evdiOpenCard 0 true).exec (sample 3)).1.closed = []) ∧
    ((evdiOpenCard 0 true).exec (sample 0)).2 = none ∧
      ((evdiOpenCard 0 true).exec (sample 0)).1.opened = [0] ∧
      ((evdiOpenCard 0 true).exec (sample 0)).1.closed = [] := by
  have hstart : ∀ s : CardFiles, s.opened = [] → s.closed = [] → s.sleeps = 0 →
      s.Idle ∧ Spent 0 0 s := by
    intro s hopened hclosed hsleeps
    exact ⟨hopened.trans hclosed.symm, by simp [hopened], hsleeps.le⟩
  refine ⟨fun device calloc s hopened hclosed hsleeps => ?_,
    fun device s hopened hclosed hsleeps => ?_, ⟨rfl, rfl, rfl⟩, rfl, rfl, rfl⟩
  · obtain ⟨hidle, hspent⟩ := hstart s hopened hclosed hsleeps
    refine (under_evdiOpenCard device calloc hidle hspent).mono fun ret t ht u hu => ?_
    have hu := ht.others hu
    refine ⟨hu.spent.opened, hu.spent.sleeps, fun fd hfd => ?_, fun hnone => ?_⟩
    · obtain ⟨hne, hholds⟩ := hu.handle fd hfd
      obtain ⟨file, hfile, hslave⟩ := hholds.file
      exact ⟨hne, hholds.opened, file, hfile, hslave.isMaster, hslave.driver⟩
    · exact (hu.failed hnone).imp id Holds.opened
  · obtain ⟨hidle, hspent⟩ := hstart s hopened hclosed hsleeps
    exact willing_evdiOpenCard device hidle hspent

end CardFiles

end Evdi
