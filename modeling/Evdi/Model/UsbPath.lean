import Evdi.Foundations.CString
import Evdi.Model.Platform

/-!
# Paths of USB devices

The part of `evdi_sysfs.c` that reads what is written to `add`: a count, or the path of a USB device
that the new device is to be linked to.

* `UsbDevice`, `UsbTree`: the USB devices there are, and what the USB core says of them;
* `parseUsbPath`: the parser of `add_device_with_usb_path`;
* `findUsbDeviceAtPath`: the way up from a device to its root hub;
* `addStore`: a write to `add`.
-/

namespace Evdi

open Atomic CString

/-- `MAX_EVDI_USB_ADDR`. -/
def maxEvdiUsbAddr : ℕ := 10

/-- What a path of a USB device starts with. -/
abbrev usbPrefix : List Char := ['u', 's', 'b', ':']

/-! ### USB devices -/

/-- A `struct usb_device`: the root hub of a bus, or a device at a port of its parent. -/
inductive UsbDevice
  | rootHub (busnum : ℕ)
  | onPort (parent : UsbDevice) (portnum : ℕ)
  deriving DecidableEq

namespace UsbDevice

/-- `bus->busnum`. -/
def busnum : UsbDevice → ℕ
  | rootHub busnum => busnum
  | onPort parent _ => parent.busnum

/-- The ports on the way from the root hub. -/
def ports : UsbDevice → List ℕ
  | rootHub _ => []
  | onPort parent portnum => parent.ports ++ [portnum]

end UsbDevice

/-- `port1.port2…`. -/
def portNames : List ℕ → List Char
  | [] => []
  | [port] => decimal port
  | port :: ports => decimal port ++ '.' :: portNames ports

/-- `bus-port1.port2…`. -/
def usbPathName (bus : ℕ) (ports : List ℕ) : List Char := decimal bus ++ '-' :: portNames ports

/-- The name that the kernel gives a USB device. -/
def UsbDevice.name (d : UsbDevice) : List Char :=
  match d with
  | rootHub busnum => ['u', 's', 'b'] ++ decimal busnum
  | onPort _ _ => usbPathName d.busnum d.ports

/-- The limits of the USB core: the number of a bus is an `int`, that of a port a `u8` from 1 on, and
hubs are nested no deeper than `MAX_TOPO_LEVEL`, 6. -/
structure UsbDevice.Valid (d : UsbDevice) : Prop where
  busnum_lt : d.busnum < 2 ^ 31
  port_pos : ∀ port ∈ d.ports, 0 < port
  port_lt : ∀ port ∈ d.ports, port < 2 ^ 8
  depth_le : d.ports.length ≤ 6

/-- The USB devices there are, in the order of `usb_for_each_dev`. There is one device at a port. -/
structure UsbTree where
  devices : List (UsbDev × UsbDevice)
  valid : ∀ usb ∈ devices, usb.2.Valid
  unique : ∀ usb ∈ devices, ∀ usb' ∈ devices, usb.2 = usb'.2 → usb = usb'

/-! ### The parser -/

/-- The loop over the ports in `add_device_with_usb_path`, with room for so many in `usb_addr`. -/
def parsePorts : ℕ → Option (List Char) → Option (List ℕ)
  | 0, _ => some []
  | room + 1, token => do
    let (port, token) := strsep '.' token
    let addr ← kstrtouint (← port)
    if token.isSome then
      return addr :: (← parsePorts room token)
    return [addr]

/-- What an `int` of `usb_addr` has of an unsigned number. -/
def storedAddr (addr : ℕ) : ℤ := (addr : ℤ).bmod (2 ^ 32)

/-- The parser of `add_device_with_usb_path`: `usb_addr`, unless it fails. -/
def parseUsbPath (kstrdupToken : Bool) (buf : List Char) (count : ℕ) : Option (List ℤ) := do
  let tempPath ← strnstr usbPrefix count buf
  let (busToken, tempPath) := strsep ':' (some (strim tempPath))
  let _ ← busToken
  let (usbToken, _) := strsep ':' tempPath
  let usbToken ← usbToken
  let (bus, token) := strsep '-' (if kstrdupToken then some usbToken else none)
  let bus ← kstrtouint (← bus)
  let ports ← parsePorts (maxEvdiUsbAddr - 1) token
  return (bus :: ports).map storedAddr

/-- The loop of `find_usb_device_at_path`, from the component `i - 1` of the address on. -/
def findUsbDeviceFrom (addr : List ℤ) : UsbDevice → ℕ → Bool
  | _, 0 => false
  | .rootHub busnum, i + 1 => addr[i]? == some (busnum : ℤ) && i == 0
  | .onPort parent portnum, i + 1 =>
    addr[i]? == some (if portnum = 0 then (parent.busnum : ℤ) else portnum) &&
      findUsbDeviceFrom addr parent i

/-- `find_usb_device_at_path`. -/
def findUsbDeviceAtPath (addr : List ℤ) (usb : UsbDevice) : Bool := findUsbDeviceFrom addr usb addr.length

/-- `usb_for_each_dev(parent_addr, find_usb_device_at_path)`. -/
def UsbTree.find (usbs : UsbTree) (addr : List ℤ) : Option (UsbDev × UsbDevice) :=
  usbs.devices.find? fun usb => findUsbDeviceAtPath addr usb.2

/-! ### Writes to `add` -/

/-- What a write to `add` comes to: whether the strings can be copied, the answers when devices are
created, and whether the link can be made. -/
structure AddStoreAnswers where
  kstrdupPath : Bool
  kstrdupToken : Bool
  create : ℕ → CreateAnswers
  createLink : Bool

/-- `evdi_platform_device_attach`. -/
def evdiPlatformDeviceAttach (ans : AddStoreAnswers) (usbs : UsbTree) (parentAddr : List ℤ) :
    OptionT (Prog PlatformCtx) ℤ :=
  match usbs.find parentAddr with
  | none => .pure (-EINVAL)
  | some (usb, _) => platformDeviceAdd (ans.create 0) ans.createLink (some usb)

/-- `add_device_with_usb_path`. -/
def addDeviceWithUsbPath (ans : AddStoreAnswers) (usbs : UsbTree) (buf : List Char) (count : ℕ) :
    OptionT (Prog PlatformCtx) ℤ :=
  if !ans.kstrdupPath then .pure (-ENOMEM)
  else
    match parseUsbPath ans.kstrdupToken buf count with
    | none => .pure (-EINVAL)
    | some usbAddr => do
      if (← evdiPlatformDeviceAttach ans usbs usbAddr) ≠ 0 then .pure (-EINVAL) else .pure count

/-- `add_store`. -/
def addStore (ans : AddStoreAnswers) (usbs : UsbTree) (buf : List Char) (count : ℕ) :
    OptionT (Prog PlatformCtx) ℤ :=
  if (strnstr usbPrefix count buf).isSome then addDeviceWithUsbPath ans usbs buf count
  else
    match kstrtouint buf with
    | none => .pure (-EINVAL)
    | some val => do
      let ret ← platformAddDevices ans.create (.ofNat val)
      if ret ≠ 0 then .pure ret else .pure count

/-- The device that `add_device_with_usb_path` finds for a string, where memory can be had. -/
def UsbTree.deviceFor (usbs : UsbTree) (s : List Char) : Option (UsbDev × UsbDevice) :=
  (parseUsbPath true s s.length).bind usbs.find

end Evdi
