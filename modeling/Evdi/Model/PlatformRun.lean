import Evdi.Foundations.Transition
import Evdi.Model.Platform

/-!
# The platform devices, at run time

Requests for a device with a parent, writes of a count to `add`, removals of USB devices, and
`remove_all`, all at once.  What runs under the lock of the context, or touches one device outside of
it, is one step.  A call that faults takes no step: its thread ends there, and what it was about to do
is left undone.

* `AttachRequest`, `AddWriter`, `UsbRemoval`: the calls under way, and those that have returned;
* `Platform.Step`: one step of one of them.
-/

namespace Evdi

open Transition

/-! ### The calls -/

/-- What has become of the link that a request is to make. -/
inductive RequestLink
  | never
  | made
  | removed
  deriving DecidableEq

/-- A call of `evdi_platform_device_add` with a parent, past its locked part: the device that it has
got, its result if it has returned, and its link. -/
structure AttachRequest where
  parent : UsbDev
  pdev : DevPtr
  ret : Option ℤ
  link : RequestLink
  deriving DecidableEq

/-- The request after the locked part. -/
def AttachRequest.picked (parent : UsbDev) (pdev : DevPtr) : AttachRequest where
  parent := parent
  pdev := pdev
  ret := if pdev.isErrOrNull then some (-EINVAL) else none
  link := .never

/-- The request after its call of `evdi_platform_device_link`, which finds `ctx`. -/
def AttachRequest.returned (r : AttachRequest) (createLink : Bool) (ctx : PlatformCtx) : AttachRequest :=
  { r with
    ret := some 0
    link := if platformDeviceIsFree r.pdev ctx = some true ∧ createLink then .made else .never }

/-- The request after a device was unlinked from `usb`. -/
def AttachRequest.unlinked (pdev : DevPtr) (usb : UsbDev) (r : AttachRequest) : AttachRequest :=
  if r.pdev = pdev ∧ r.parent = usb ∧ r.link = .made then { r with link := .removed } else r

/-- A call of `evdi_platform_add_devices`: the value written, how many devices are to come, the slots
that it has filled, and its result if it has returned. -/
structure AddWriter where
  val : UInt32
  left : ℕ
  filled : List (Fin deviceCountMax)
  ret : Option ℤ
  deriving DecidableEq

/-- The call after its checks of the count that it has read. -/
def AddWriter.start (devCount val : UInt32) : AddWriter :=
  match addDevicesCheck devCount val with
  | some ret => ⟨val, 0, [], some ret⟩
  | none => ⟨val, val.toNat, [], none⟩

/-- The slots that have got a device. -/
def filledSlots (ctx ctx' : PlatformCtx) : List (Fin deviceCountMax) :=
  slots.filter fun i => ctx.devices i = .null && !(ctx'.devices i).isErrOrNull

/-- The call after an addition, which leads from `ctx` to `ctx'` with the device `pdev`: it goes on
while there are devices to come and none has failed, and returns 0 in any case. -/
def AddWriter.added (w : AddWriter) (ctx ctx' : PlatformCtx) (pdev : DevPtr) : AddWriter where
  val := w.val
  left := w.left - 1
  filled := w.filled ++ filledSlots ctx ctx'
  ret := if pdev.isErrOrNull ∨ w.left - 1 = 0 then some 0 else none

/-- A run of `evdi_platform_drv_usb`: the slots still to visit, and the one of which the device has just
been destroyed. -/
structure UsbRemoval where
  usb : UsbDev
  left : List (Fin deviceCountMax)
  destroyed : Option (Fin deviceCountMax)

/-! ### Steps -/

/-- The context, and the calls. -/
structure Platform where
  ctx : PlatformCtx
  requests : List AttachRequest
  writers : List AddWriter
  removals : List UsbRemoval

namespace Platform

/-- The module has been loaded. -/
def init : Platform := ⟨.init, [], [], []⟩

/-- What may happen. -/
inductive Action
  | attach (parent : UsbDev) (ans : CreateAnswers)
  | link (createLink : Bool)
  | addDevices (val : UInt32)
  | addDevice (ans : CreateAnswers)
  | usbRemoval (usb : UsbDev)
  | usbVisit
  | usbForget
  | removeAll
  | client (object : ℕ) (evdi : Device)

/-- One step: the locked part of a request, or its link; the start of a call that adds devices, or one
addition; the start of the removal of a USB device, the visit of a slot, or the locked part of that;
`remove_all`; or anything that the clients and the kernel do to an evdi device. -/
inductive Step : Platform → Action → Platform → Prop
  | attach {s : Platform} {ctx : PlatformCtx} {pdev : DevPtr} (parent : UsbDev) (ans : CreateAnswers) :
      platformDeviceAddLocked ans (some parent) s.ctx = some (ctx, pdev) →
      Step s (.attach parent ans)
        { s with ctx := ctx, requests := s.requests ++ [.picked parent pdev] }
  | link {s : Platform} {ctx : PlatformCtx} {l rs : List AttachRequest} {r : AttachRequest}
      (createLink : Bool) : s.requests = l ++ r :: rs → r.ret = none →
      platformDeviceLink createLink r.pdev (some r.parent) s.ctx = some ctx →
      Step s (.link createLink)
        { s with ctx := ctx, requests := l ++ r.returned createLink s.ctx :: rs }
  | addDevices {s : Platform} (val : UInt32) :
      Step s (.addDevices val) { s with writers := s.writers ++ [.start s.ctx.devCount val] }
  | addDevice {s : Platform} {ctx : PlatformCtx} {pdev : DevPtr} {l ws : List AddWriter} {w : AddWriter}
      (ans : CreateAnswers) : s.writers = l ++ w :: ws → w.ret = none →
      platformDeviceAddLocked ans none s.ctx = some (ctx, pdev) →
      Step s (.addDevice ans) { s with ctx := ctx, writers := l ++ w.added s.ctx ctx pdev :: ws }
  | usbRemoval {s : Platform} (usb : UsbDev) :
      Step s (.usbRemoval usb) { s with removals := s.removals ++ [⟨usb, slots, none⟩] }
  | usbVisit {s : Platform} {ctx : PlatformCtx} {destroyed : Bool} {l rs : List UsbRemoval} {usb : UsbDev}
      {i : Fin deviceCountMax} {is : List (Fin deviceCountMax)} :
      s.removals = l ++ ⟨usb, i :: is, none⟩ :: rs →
      platformDrvUsbVisit usb i s.ctx = some (ctx, destroyed) →
      Step s .usbVisit
        { s with
          ctx := ctx
          requests := s.requests.map (.unlinked (s.ctx.devices i) usb)
          removals := l ++ ⟨usb, is, if destroyed then some i else none⟩ :: rs }
  | usbForget {s : Platform} {l rs : List UsbRemoval} {usb : UsbDev} {i : Fin deviceCountMax}
      {is : List (Fin deviceCountMax)} : s.removals = l ++ ⟨usb, is, some i⟩ :: rs →
      Step s .usbForget
        { s with ctx := platformDrvUsbForget i s.ctx, removals := l ++ ⟨usb, is, none⟩ :: rs }
  | removeAll {s : Platform} {ctx : PlatformCtx} : platformRemoveAllDevices s.ctx = some ctx →
      Step s .removeAll { s with ctx := ctx }
  | client {s : Platform} {n : ℕ} {data : PlatformDeviceData} (evdi : Device) :
      s.ctx.drvdata (.dev n) = some data → data.devPrivate.isSome →
      Step s (.client n evdi)
        { s with ctx := s.ctx.onObject (.dev n) fun dev =>
            { dev with data := dev.data.map fun data => { data with devPrivate := some evdi } } }

end Platform

end Evdi
