import Evdi.Model.UsbPath

/-!
# USB devices by their pointers

The devices of the USB core as `find_usb_device_at_path` walks them: each has a pointer to its parent,
the number of its port, and the number of its bus.

* `UsbForest`: any set of such devices, of any depth;
* `UsbForest.findUsbDeviceAtPath`: the walk;
* `UsbForest.Path`: the number of the bus and of the ports on the way down to a device.
-/

namespace Evdi

/-- A forest of USB devices: `port` 0 is that of a root hub. -/
structure UsbForest (ι : Type*) where
  parent : ι → Option ι
  portnum : ι → ℕ
  busnum : ι → ℕ
  rootPort : ∀ d, parent d = none → portnum d = 0
  portPos : ∀ d p, parent d = some p → 0 < portnum d
  busesDistinct : ∀ d e, parent d = none → parent e = none → busnum d = busnum e → d = e
  siblingsDistinct : ∀ d e p, parent d = some p → parent e = some p → portnum d = portnum e → d = e
  wellFounded : WellFounded fun p d => parent d = some p

namespace UsbForest

variable {ι : Type*}

/-- The loop of `find_usb_device_at_path`, from the component `i - 1` of the address on. -/
def findFrom (F : UsbForest ι) (addr : List ℤ) : ι → ℕ → Bool
  | _, 0 => false
  | pdev, i + 1 =>
    if i ≥ maxEvdiUsbAddr then false
    else
      let port := if F.portnum pdev = 0 then F.busnum pdev else F.portnum pdev
      if addr[i]? ≠ some (port : ℤ) then false
      else
        match F.parent pdev with
        | none => i == 0
        | some parent => findFrom F addr parent i

/-- `find_usb_device_at_path`. -/
def findUsbDeviceAtPath (F : UsbForest ι) (addr : List ℤ) (usb : ι) : Bool :=
  F.findFrom addr usb addr.length

/-- The number of the root's bus, and the numbers of the ports from there down to a device. -/
inductive Path (F : UsbForest ι) : ι → List ℕ → Prop
  | root {d : ι} : F.parent d = none → Path F d [F.busnum d]
  | port {d p : ι} {path : List ℕ} : F.parent d = some p → Path F p path →
      Path F d (path ++ [F.portnum d])

/-- `e` is the parent of `d`, or the parent's parent, and so on. -/
def Ancestor (F : UsbForest ι) (e d : ι) : Prop :=
  Relation.TransGen (fun p d => F.parent d = some p) e d

end UsbForest

/-! ### Devices given by their ports -/

theorem UsbDevice.ports_onPort {parent : UsbDevice} {portnum : ℕ}
    (h : ∀ port ∈ (UsbDevice.onPort parent portnum).ports, 0 < port) :
    (∀ port ∈ parent.ports, 0 < port) ∧ 0 < portnum := by
  simpa [UsbDevice.ports, or_imp, forall_and] using h

/-- The devices that `UsbDevice` describes, on ports from 1 on. -/
def usbDevices : UsbForest {d : UsbDevice // ∀ port ∈ d.ports, 0 < port} where
  parent
    | ⟨.rootHub _, _⟩ => none
    | ⟨.onPort parent _, h⟩ => some ⟨parent, (UsbDevice.ports_onPort h).1⟩
  portnum
    | ⟨.rootHub _, _⟩ => 0
    | ⟨.onPort _ portnum, _⟩ => portnum
  busnum d := d.1.busnum
  rootPort := by
    rintro ⟨_ | _, h⟩ hroot
    · rfl
    · cases hroot
  portPos := by
    rintro ⟨_ | ⟨parent, portnum⟩, h⟩ p hparent
    · cases hparent
    · exact (UsbDevice.ports_onPort h).2
  busesDistinct := by
    rintro ⟨_ | _, h⟩ ⟨_ | _, h'⟩ hroot hroot' hbus
    · exact Subtype.ext (congrArg UsbDevice.rootHub hbus)
    · cases hroot'
    · cases hroot
    · cases hroot
  siblingsDistinct := by
    rintro ⟨_ | ⟨parent, portnum⟩, h⟩ ⟨_ | ⟨parent', portnum'⟩, h'⟩ p hparent hparent' hport
    · cases hparent
    · cases hparent
    · cases hparent'
    · obtain ⟨rfl⟩ := hparent
      obtain ⟨rfl⟩ := hparent'
      obtain rfl : portnum = portnum' := hport
      rfl
  wellFounded := by
    refine Subrelation.wf ?_ (measure fun d => d.1.ports.length).wf
    rintro ⟨parent, h⟩ ⟨_ | ⟨parent', portnum⟩, h'⟩ hparent
    · cases hparent
    · obtain ⟨rfl⟩ := hparent
      show parent.ports.length < (parent.ports ++ [portnum]).length
      simp

section

variable {n : ℕ} {parent : UsbDevice} (h : ∀ port ∈ (UsbDevice.rootHub n).ports, 0 < port)
  (h' : ∀ port ∈ (UsbDevice.onPort parent n).ports, 0 < port)

@[simp] theorem usbDevices_parent_rootHub : usbDevices.parent ⟨.rootHub n, h⟩ = none := rfl
@[simp] theorem usbDevices_portnum_rootHub : usbDevices.portnum ⟨.rootHub n, h⟩ = 0 := rfl
@[simp] theorem usbDevices_busnum_rootHub : usbDevices.busnum ⟨.rootHub n, h⟩ = n := rfl
@[simp] theorem usbDevices_portnum_onPort : usbDevices.portnum ⟨.onPort parent n, h'⟩ = n := rfl
@[simp] theorem usbDevices_parent_onPort : usbDevices.parent ⟨.onPort parent n, h'⟩ =
    some ⟨parent, (UsbDevice.ports_onPort h').1⟩ := rfl

end

end Evdi
