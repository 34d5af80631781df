import Evdi.Foundations.Section
import Evdi.Model.Device

/-!
# The platform devices

The table of devices of `evdi_platform_drv.c`, and the functions on one device of `evdi_platform_dev.c`.

A `struct platform_device *` is `NULL`, an error pointer, or the number of an object; objects that are
registered are in `objects`.  A function that reads through an error pointer, reads an object that is
gone, or reads the driver data of a device that has none, has no value: the kernel oopses, and the
thread ends there.  All such reads come before the function has changed anything.

* `platformDeviceAddLocked`: the part of `evdi_platform_device_add` under the lock;
* `platformDeviceLink`: the part after it;
* `platformDeviceAdd`, `platformAddDevices`: the calls, as programs of sections;
* `platformDeviceAddLocked_cases`: what the locked part does.
-/

namespace Evdi

open Atomic

/-- `EVDI_DEVICE_COUNT_MAX`. -/
abbrev deviceCountMax : ℕ := 16

/-- A `struct usb_device`. -/
abbrev UsbDev := ℕ

/-- The devices that others can be children of: the platform bus, and USB devices. -/
inductive ParentDev
  | platformBus
  | usb (dev : UsbDev)
  deriving DecidableEq

/-- A `struct platform_device *`. -/
inductive DevPtr
  | null
  | err (error : ℤ)
  | dev (object : ℕ)
  deriving DecidableEq

/-- `IS_ERR_OR_NULL`. -/
def DevPtr.isErrOrNull : DevPtr → Bool
  | .dev _ => false
  | _ => true

/-- `struct evdi_platform_device_data`. Of its `drm_dev`, the driver reads `dev_private`. -/
structure PlatformDeviceData where
  devPrivate : Option Device
  parent : Option UsbDev
  symlinked : Bool

/-- A registered `struct platform_device`: its number, its parent, its driver data, and where the link
`device` in its sysfs directory points. -/
structure PlatformDevice where
  id : ℤ
  parent : ParentDev
  data : Option PlatformDeviceData
  link : Option UsbDev

/-- `struct evdi_platform_drv_context`, with the objects that there are. -/
structure PlatformCtx where
  devCount : UInt32
  devices : Fin deviceCountMax → DevPtr
  objects : ℕ → Option PlatformDevice
  nextObject : ℕ

/-- The context as `evdi_init` makes it. -/
def PlatformCtx.init : PlatformCtx where
  devCount := 0
  devices := fun _ => .null
  objects := fun _ => none
  nextObject := 0

namespace PlatformCtx

variable (ctx : PlatformCtx)

/-- The object a pointer points at. -/
def object : DevPtr → Option PlatformDevice
  | .dev n => ctx.objects n
  | _ => none

/-- `platform_get_drvdata`, if it can be read and is not `NULL`. -/
def drvdata (pdev : DevPtr) : Option PlatformDeviceData := (ctx.object pdev).bind (·.data)

/-- Change an object, if it is there. -/
def onObject (pdev : DevPtr) (f : PlatformDevice → PlatformDevice) : PlatformCtx :=
  match pdev with
  | .dev n => { ctx with objects := Function.update ctx.objects n ((ctx.objects n).map f) }
  | _ => ctx

end PlatformCtx

/-! ### One device -/

/-- What the kernel answers when a device is created: the error of `platform_device_register_full`, if
it fails, and what `evdi_drm_device_create` finds, unless the probe fails. -/
structure CreateAnswers where
  error : Option ℤ
  probe : Option (ℤ × DrmCore)

/-- The driver data that `evdi_platform_device_probe` leaves. -/
def platformDeviceProbe (ans : CreateAnswers) : Option PlatformDeviceData :=
  ans.probe.map fun (fgConsole, drm) => ⟨some (Device.init fgConsole drm), none, false⟩

/-- `platform_device_register_full`, which probes the device: a device without a parent is put on the
platform bus, and stays registered when its probe fails. -/
def platformDeviceRegisterFull (ans : CreateAnswers) (id : ℤ) (parent : Option ParentDev)
    (ctx : PlatformCtx) : PlatformCtx × DevPtr :=
  match ans.error with
  | some error => (ctx, .err error)
  | none =>
    ({ ctx with
        objects := Function.update ctx.objects ctx.nextObject
          (some ⟨id, parent.getD .platformBus, platformDeviceProbe ans, none⟩)
        nextObject := ctx.nextObject + 1 }, .dev ctx.nextObject)

/-- `evdi_platform_dev_create`. The mask of the device is set without a look at the pointer. -/
def platformDevCreate (ans : CreateAnswers) (id : ℤ) (parent : Option ParentDev) (ctx : PlatformCtx) :
    Option (PlatformCtx × DevPtr) :=
  let (ctx, platformDev) := platformDeviceRegisterFull ans id parent ctx
  if platformDev.isErrOrNull then none else some (ctx, platformDev)

/-- `evdi_platform_dev_destroy`. `platform_device_unregister` ignores error pointers. -/
def platformDevDestroy (dev : DevPtr) (ctx : PlatformCtx) : Option PlatformCtx :=
  match dev with
  | .dev n =>
    (ctx.objects n).map fun _ => { ctx with objects := Function.update ctx.objects n none }
  | _ => some ctx

/-- The test of `evdi_platform_device_is_free`. -/
def PlatformDeviceData.isFree (data : PlatformDeviceData) : Bool :=
  match data.devPrivate with
  | some evdi => !evdi.painter.any (·.isConnected) && !data.symlinked
  | none => false

/-- `evdi_platform_device_is_free`. -/
def platformDeviceIsFree (pdev : DevPtr) (ctx : PlatformCtx) : Option Bool :=
  (ctx.drvdata pdev).map (·.isFree)

/-- `evdi_platform_device_link`, where `createLink` is the success of `sysfs_create_link`. -/
def platformDeviceLink (createLink : Bool) (pdev : DevPtr) (parent : Option UsbDev) (ctx : PlatformCtx) :
    Option PlatformCtx :=
  match parent with
  | none => some ctx
  | some parent =>
    if pdev = .null then some ctx
    else
      (platformDeviceIsFree pdev ctx).map fun free =>
        if !free then ctx
        else if !createLink then ctx
        else ctx.onObject pdev fun dev =>
          { dev with
            link := some parent
            data := dev.data.map fun data => { data with symlinked := true, parent := some parent } }

/-- `evdi_platform_device_unlink_if_linked_with`. -/
def platformDeviceUnlinkIfLinkedWith (pdev : DevPtr) (parent : UsbDev) (ctx : PlatformCtx) :
    Option PlatformCtx :=
  (ctx.drvdata pdev).map fun data =>
    if data.parent = some parent then
      ctx.onObject pdev fun dev =>
        { dev with
          link := none
          data := dev.data.map fun data => { data with symlinked := false, parent := none } }
    else ctx

/-! ### The table -/

/-- The slots in the order of the loops. -/
def slots : List (Fin deviceCountMax) := List.finRange deviceCountMax

/-- `evdi_platform_drv_get_free_idx`, with nothing for `-ENOMEM`. -/
def platformDrvGetFreeIdx (ctx : PlatformCtx) : Option (Fin deviceCountMax) :=
  slots.find? fun i => ctx.devices i = .null

/-- The loop of `evdi_platform_drv_get_free_device`, over the slots `is`. -/
def getFreeDeviceFrom (ctx : PlatformCtx) : List (Fin deviceCountMax) → Option DevPtr
  | [] => some .null
  | i :: is =>
    if ctx.devices i = .null then getFreeDeviceFrom ctx is
    else do
      if ← platformDeviceIsFree (ctx.devices i) ctx then pure (ctx.devices i)
      else getFreeDeviceFrom ctx is

/-- `evdi_platform_drv_get_free_device`. -/
def platformDrvGetFreeDevice (ctx : PlatformCtx) : Option DevPtr := getFreeDeviceFrom ctx slots

/-- `evdi_platform_drv_create_new_device`. -/
def platformDrvCreateNewDevice (ans : CreateAnswers) (ctx : PlatformCtx) :
    Option (PlatformCtx × DevPtr) :=
  match platformDrvGetFreeIdx ctx with
  | none => some (ctx, .err (-EINVAL))
  | some id =>
    if ctx.devCount ≥ .ofNat deviceCountMax then some (ctx, .err (-EINVAL))
    else
      (platformDevCreate ans id.val none ctx).map fun (ctx, pdev) =>
        ({ ctx with
            devices := Function.update ctx.devices id pdev
            devCount := ctx.devCount + 1 }, pdev)

/-- `evdi_platform_device_add`, up to the unlock. -/
def platformDeviceAddLocked (ans : CreateAnswers) (parent : Option UsbDev) (ctx : PlatformCtx) :
    Option (PlatformCtx × DevPtr) :=
  (if parent.isSome then platformDrvGetFreeDevice ctx else some .null).bind fun pdev =>
    if pdev.isErrOrNull then platformDrvCreateNewDevice ans ctx else some (ctx, pdev)

/-- `evdi_platform_device_add`. -/
def platformDeviceAdd (ans : CreateAnswers) (createLink : Bool) (parent : Option UsbDev) :
    OptionT (Prog PlatformCtx) ℤ := do
  let pdev ← Prog.attempt (platformDeviceAddLocked ans parent)
  if pdev.isErrOrNull then .pure (-EINVAL)
  else
    Prog.attempt fun ctx => (platformDeviceLink createLink pdev parent ctx).map (·, ())
    .pure 0

/-- The checks of `evdi_platform_add_devices` on the count that it has read: its result, unless it
goes on to add devices. -/
def addDevicesCheck (devCount val : UInt32) : Option ℤ :=
  if val = 0 then some 0
  else if val > .ofNat deviceCountMax - devCount then some (-EINVAL)
  else none

/-- The loop of `evdi_platform_add_devices`, with `n` devices to go. -/
def addDevicesLoop (ans : ℕ → CreateAnswers) : ℕ → OptionT (Prog PlatformCtx) Unit
  | 0 => .pure ()
  | n + 1 => do
    if (← platformDeviceAdd (ans n) true none) = 0 then addDevicesLoop ans n else .pure ()

/-- `evdi_platform_add_devices`. -/
def platformAddDevices (ans : ℕ → CreateAnswers) (val : UInt32) : OptionT (Prog PlatformCtx) ℤ := do
  match addDevicesCheck (← (Prog.read (·.devCount) : Prog PlatformCtx UInt32)) val with
  | some ret => .pure ret
  | none =>
    addDevicesLoop ans val.toNat
    .pure 0

/-- One turn of the loop of `evdi_platform_remove_all_devices`. -/
def removeDevice (ctx : PlatformCtx) (i : Fin deviceCountMax) : Option PlatformCtx :=
  if ctx.devices i = .null then some ctx
  else
    (platformDevDestroy (ctx.devices i) ctx).map fun ctx =>
      { ctx with devCount := ctx.devCount - 1, devices := Function.update ctx.devices i .null }

/-- `evdi_platform_remove_all_devices`. -/
def platformRemoveAllDevices (ctx : PlatformCtx) : Option PlatformCtx :=
  (slots.foldlM removeDevice ctx).map fun ctx => { ctx with devCount := 0 }

/-- One turn of the loop of `evdi_platform_drv_usb`, up to the lock that it takes when it has
destroyed the device of the slot: the context, and whether it has. -/
def platformDrvUsbVisit (usb : UsbDev) (i : Fin deviceCountMax) (ctx : PlatformCtx) :
    Option (PlatformCtx × Bool) :=
  let pdev := ctx.devices i
  if pdev = .null then some (ctx, false)
  else do
    let ctx ← platformDeviceUnlinkIfLinkedWith pdev usb ctx
    if (ctx.object pdev).map (·.parent) = some (.usb usb) then
      (platformDevDestroy pdev ctx).map (·, true)
    else some (ctx, false)

/-- The locked part of that turn. -/
def platformDrvUsbForget (i : Fin deviceCountMax) (ctx : PlatformCtx) : PlatformCtx :=
  { ctx with devCount := ctx.devCount - 1, devices := Function.update ctx.devices i .null }

/-! ### What the locked part of an addition does -/

/-- The context with a new device in slot `i`. -/
def PlatformCtx.withDevice (ctx : PlatformCtx) (i : Fin deviceCountMax)
    (data : Option PlatformDeviceData) :
    PlatformCtx :=
  { ctx with
    devCount := ctx.devCount + 1
    devices := Function.update ctx.devices i (.dev ctx.nextObject)
    objects := Function.update ctx.objects ctx.nextObject (some ⟨i.val, .platformBus, data, none⟩)
    nextObject := ctx.nextObject + 1 }

/-- An addition comes to create a device, for slot `i`. -/
structure Creates (ctx : PlatformCtx) (parent : Option UsbDev) (i : Fin deviceCountMax) : Prop where
  none_free : parent.isSome → platformDrvGetFreeDevice ctx = some .null
  idx : platformDrvGetFreeIdx ctx = some i
  count_lt : ctx.devCount < .ofNat deviceCountMax

theorem Creates.slot {ctx : PlatformCtx} {parent : Option UsbDev} {i : Fin deviceCountMax}
    (h : Creates ctx parent i) : ctx.devices i = .null := by
  simpa using List.find?_some h.idx

/-- A device that is free, in the table. -/
structure PlatformCtx.FreeDevice (ctx : PlatformCtx) (n : ℕ) : Prop where
  slot : ∃ i, ctx.devices i = .dev n
  free : platformDeviceIsFree (.dev n) ctx = some true

theorem platformDeviceIsFree_eq_some {pdev : DevPtr} {ctx : PlatformCtx} {free : Bool}
    (h : platformDeviceIsFree pdev ctx = some free) :
    ∃ n data, pdev = .dev n ∧ ctx.drvdata pdev = some data ∧ data.isFree = free := by
  obtain ⟨data, hdata, hfree⟩ := Option.map_eq_some_iff.1 h
  cases pdev with
  | dev n => exact ⟨n, data, rfl, hdata, hfree⟩
  | null => simp [PlatformCtx.drvdata, PlatformCtx.object] at hdata
  | err e => simp [PlatformCtx.drvdata, PlatformCtx.object] at hdata

/-- **The search for a free device** finds one that is free or nothing, if it ends. -/
theorem getFreeDeviceFrom_cases {ctx : PlatformCtx} {is : List (Fin deviceCountMax)} {pdev : DevPtr}
    (h : getFreeDeviceFrom ctx is = some pdev) : pdev = .null ∨ ∃ n, pdev = .dev n ∧ ctx.FreeDevice n := by
  induction is with
  | nil => exact .inl (Option.some.inj h).symm
  | cons i is ih =>
    rw [getFreeDeviceFrom] at h
    by_cases hnull : ctx.devices i = .null
    · rw [if_pos hnull] at h
      exact ih h
    · rw [if_neg hnull] at h
      obtain ⟨free, hfree, h⟩ := Option.bind_eq_some_iff.1 h
      cases free with
      | true =>
        obtain rfl := Option.some.inj h
        obtain ⟨n, -, hn, -⟩ := platformDeviceIsFree_eq_some hfree
        exact .inr ⟨n, hn, ⟨i, hn⟩, hn ▸ hfree⟩
      | false => exact ih h

/-- A creation is refused, or registers a device for the first slot that is empty. -/
theorem platformDrvCreateNewDevice_cases {ans : CreateAnswers} {ctx ctx' : PlatformCtx} {pdev : DevPtr}
    (h : platformDrvCreateNewDevice ans ctx = some (ctx', pdev)) :
    (ctx' = ctx ∧ pdev = .err (-EINVAL) ∧
      ∀ i, platformDrvGetFreeIdx ctx = some i → ¬ ctx.devCount < .ofNat deviceCountMax) ∨
    ∃ i, platformDrvGetFreeIdx ctx = some i ∧ ctx.devCount < .ofNat deviceCountMax ∧ ans.error = none ∧
      ctx' = ctx.withDevice i (platformDeviceProbe ans) ∧ pdev = .dev ctx.nextObject := by
  unfold platformDrvCreateNewDevice at h
  cases hidx : platformDrvGetFreeIdx ctx with
  | none =>
    rw [hidx] at h
    obtain ⟨rfl, rfl⟩ := Prod.mk.inj (Option.some.inj h)
    exact .inl ⟨rfl, rfl, by simp⟩
  | some i =>
    rw [hidx] at h
    dsimp only at h
    split_ifs at h with hcount
    · obtain ⟨rfl, rfl⟩ := Prod.mk.inj (Option.some.inj h)
      exact .inl ⟨rfl, rfl, fun _ _ => UInt32.not_lt.2 hcount⟩
    · cases herror : ans.error with
      | none =>
        simp only [platformDevCreate, platformDeviceRegisterFull, herror, DevPtr.isErrOrNull,
          Bool.false_eq_true, if_false, Option.map_some, Option.some.injEq, Prod.mk.injEq] at h
        exact .inr ⟨i, rfl, UInt32.not_le.1 hcount, rfl, h.1.symm, h.2.symm⟩
      | some e => simp [platformDevCreate, platformDeviceRegisterFull, herror, DevPtr.isErrOrNull] at h

/-- An addition that comes to create a device does, unless `platform_device_register_full` fails. -/
theorem platformDeviceAddLocked_of_creates {ctx : PlatformCtx} {parent : Option UsbDev}
    {i : Fin deviceCountMax} (h : Creates ctx parent i) (ans : CreateAnswers) :
    platformDeviceAddLocked ans parent ctx =
      if ans.error = none then some (ctx.withDevice i (platformDeviceProbe ans), .dev ctx.nextObject)
      else none := by
  have hsearch : (if parent.isSome then platformDrvGetFreeDevice ctx else some .null) = some .null := by
    split_ifs with hparent
    · exact h.none_free hparent
    · rfl
  have hnull : DevPtr.null.isErrOrNull = true := rfl
  have hcount : ¬ ctx.devCount ≥ .ofNat deviceCountMax := UInt32.not_le.2 h.count_lt
  rw [platformDeviceAddLocked, hsearch, Option.bind_some, if_pos hnull, platformDrvCreateNewDevice, h.idx]
  dsimp only
  rw [if_neg hcount]
  cases herror : ans.error with
  | none => simp [platformDevCreate, platformDeviceRegisterFull, herror, DevPtr.isErrOrNull,
      PlatformCtx.withDevice]
  | some e => simp [platformDevCreate, platformDeviceRegisterFull, herror, DevPtr.isErrOrNull]

/-- **The locked part of an addition** finds a free device, is refused, or creates a device, if it does
not end in a fault. -/
theorem platformDeviceAddLocked_cases {ans : CreateAnswers} {parent : Option UsbDev}
    {ctx ctx' : PlatformCtx} {pdev : DevPtr}
    (h : platformDeviceAddLocked ans parent ctx = some (ctx', pdev)) :
    (∃ n, ctx' = ctx ∧ pdev = .dev n ∧ parent.isSome ∧
      platformDrvGetFreeDevice ctx = some (.dev n) ∧ ctx.FreeDevice n) ∨
    (ctx' = ctx ∧ pdev = .err (-EINVAL) ∧ ∀ i, ¬ Creates ctx parent i) ∨
    ∃ i, Creates ctx parent i ∧ ans.error = none ∧
      ctx' = ctx.withDevice i (platformDeviceProbe ans) ∧ pdev = .dev ctx.nextObject := by
  obtain ⟨found, hfound, h⟩ := Option.bind_eq_some_iff.1 h
  -- the search, where there is one, finds a free device or nothing
  have hsearch : (found = .null ∧ (parent.isSome → platformDrvGetFreeDevice ctx = some .null)) ∨
      ∃ n, found = .dev n ∧ parent.isSome ∧ platformDrvGetFreeDevice ctx = some (.dev n) ∧
        ctx.FreeDevice n := by
    split_ifs at hfound with hparent
    · rcases getFreeDeviceFrom_cases hfound with rfl | ⟨n, rfl, hfree⟩
      · exact .inl ⟨rfl, fun _ => hfound⟩
      · exact .inr ⟨n, rfl, hparent, hfound, hfree⟩
    · exact .inl ⟨(Option.some.inj hfound).symm, fun hsome => absurd hsome hparent⟩
  rcases hsearch with ⟨rfl, hnone⟩ | ⟨n, rfl, hparent, hget, hfree⟩
  · rcases platformDrvCreateNewDevice_cases h with ⟨rfl, rfl, hfull⟩ | ⟨i, hidx, hcount, hrest⟩
    · exact .inr (.inl ⟨rfl, rfl, fun i hi => hfull i hi.idx hi.count_lt⟩)
    · exact .inr (.inr ⟨i, ⟨hnone, hidx, hcount⟩, hrest⟩)
  · obtain ⟨rfl, rfl⟩ := Prod.mk.inj (Option.some.inj h)
    exact .inl ⟨n, rfl, rfl, hparent, hget, hfree⟩

end Evdi
