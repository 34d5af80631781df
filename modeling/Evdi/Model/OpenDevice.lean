import Evdi.Foundations.Polling
import Evdi.Model.Cards
import Evdi.Model.Device

/-!
# The client library: opening a device file

What `evdi_open` does before there is a handle: it waits until somebody else has the card open if there is
an X server (`wait_for_master`), opens the card until it has a descriptor that is not the DRM master
(`wait_for_device`), and looks at the driver behind it.

Every system call is an atomic section, and anybody may do anything between two of them, but with the
descriptors of this call (`Others`).  A call that is interrupted changes nothing and `drm_ioctl` makes it
again, so that a call of `drm_ioctl` is its last one.  The kernel's part is: `open` makes a master of who
opens a card that has none, `AUTH_MAGIC` refuses who is not master with `EACCES`, and only `SET_MASTER` on
a descriptor itself makes a master of it later.

* `deviceHasMaster`, `xorgRunning`: what is looked up in `/proc`;
* `openAsSlave`, `waitForMaster`, `waitForDevice`, `openDevice`, `evdiOpenCard`: the functions.
-/

namespace Evdi

open Atomic CString

def EBADF : ℤ := 9
def EACCES : ℤ := 13

/-- A directory of `/proc`: its name, what can be read of its file `stat` and, as `fgets` cuts it, of its
file `maps`, and where the links in its directory `fd` lead, as far as they can be read. -/
structure Proc where
  dName : List Char
  stat : Option (List Char)
  maps : Option (List (List Char))
  fd : Option (List (Option (List Char)))

/-- What `DRM_IOCTL_VERSION` tells. -/
structure DrmVersion where
  name : List Char
  versionMajor : ℤ
  versionMinor : ℤ

/-- An open file of a card: whether it is the master, and the driver behind it. -/
structure CardFile where
  isMaster : Bool
  driver : DrmVersion

/-- The process and its surroundings, as far as they have to do with one path of a card: `/proc`, the number
of the process, the descriptor that `open` would give, whether another file is master, whether the card is
gone and whether the process may drop a mastership; the driver of the card that the path leads to; the
descriptors that are open; and what this call of `evdi_open` has opened, closed and slept. -/
structure CardFiles where
  procs : Option (List Proc)
  myself : ℤ
  nextFd : Option ℕ
  otherMaster : Bool
  unplugged : Bool
  mayDrop : Bool
  driver : DrmVersion
  files : ℕ → Option CardFile
  opened : List ℕ
  closed : List ℕ
  sleeps : ℕ

namespace CardFiles

/-! ### `/proc` -/

/-- `is_numeric`, and the test of `device_has_master`. -/
def isNumeric (name : List Char) : Bool := name.head?.any fun c => '0' ≤ c ∧ c ≤ '9'

/-- `does_path_links_to`, for what `readlink` answers. -/
def doesPathLinksTo (link : Option (List Char)) (substr : List Char) : Bool :=
  link.any fun path => substr <:+: path.take (pathMax - 1)

/-- `process_opened_device`. -/
def processOpenedDevice (p : Proc) (deviceFilePath : List Char) : Bool :=
  p.maps.any fun lines => lines.any fun line => deviceFilePath <:+: line

/-- `process_opened_files`. -/
def processOpenedFiles (p : Proc) (deviceFilePath : List Char) : Bool :=
  p.fd.any fun links => links.any fun link => doesPathLinksTo link deviceFilePath

/-- `device_has_master`. -/
def deviceHasMaster (deviceFilePath : List Char) (s : CardFiles) : Bool :=
  s.procs.any fun procs => procs.any fun p =>
    isNumeric p.dName && (strtol p.dName).bmod (2 ^ 32) != s.myself &&
      (processOpenedFiles p deviceFilePath || processOpenedDevice p deviceFilePath)

/-- `process_name`: at most six characters of the second word. -/
def processName (stat : List Char) : List Char :=
  let word := (stat.dropWhile (·.isWhitespace)).dropWhile (!·.isWhitespace)
  ((word.dropWhile (·.isWhitespace)).takeWhile (!·.isWhitespace)).take 6

/-- `is_Xorg`. -/
def isXorg (p : Proc) : Bool := p.stat.any fun stat => ['X', 'o', 'r', 'g'] <:+: processName stat

/-- `Xorg_running`. -/
def xorgRunning (s : CardFiles) : Bool :=
  s.procs.any fun procs => procs.any fun p => isNumeric p.dName && isXorg p

/-! ### System calls -/

/-- `open`, which answers a descriptor that is not in use or -1. -/
def sysOpen : Prog CardFiles ℤ := .act fun s =>
  match s.nextFd.filter fun fd => (s.files fd).isNone with
  | none => (s, -1)
  | some fd =>
    ({ s with
        files := Function.update s.files fd (some ⟨!s.otherMaster, s.driver⟩)
        opened := s.opened ++ [fd] }, fd)

/-- `close`. -/
def sysClose (fd : ℤ) : Prog CardFiles Unit := .modify fun s =>
  { s with
    files := Function.update s.files fd.toNat none
    closed := s.closed ++ [fd.toNat] }

/-- `usleep(SLEEP_INTERVAL_US)`. -/
def sleepInterval : Prog CardFiles Unit := .modify fun s => { s with sleeps := s.sleeps + 1 }

/-- `drm_auth_magic`, for the magic 0. -/
def drmAuthMagic (fd : ℤ) (s : CardFiles) : ℤ :=
  if s.unplugged then -ENODEV
  else
    match s.files fd.toNat with
    | none => -EBADF
    | some file => if file.isMaster then -EINVAL else -EACCES

/-- `drm_is_master`. -/
def drmIsMaster (fd : ℤ) : Prog CardFiles Bool := .read fun s => drmAuthMagic fd s ≠ -EACCES

/-- `drm_ioctl(fd, DRM_IOCTL_DROP_MASTER, NULL)`. -/
def dropMaster (fd : ℤ) : Prog CardFiles ℤ := .act fun s =>
  match s.files fd.toNat with
  | some file =>
    if !s.unplugged && s.mayDrop && file.isMaster then
      ({ s with files := Function.update s.files fd.toNat (some { file with isMaster := false }) }, 0)
    else (s, -1)
  | none => (s, -1)

/-- `is_evdi`. -/
def isEvdi (fd : ℤ) : Prog CardFiles Bool := .read fun s =>
  !s.unplugged && (s.files fd.toNat).any fun file => file.driver.name == ['e', 'v', 'd', 'i']

/-- `is_evdi_compatible`: the driver has the version 1.9, or a later one of 1. -/
def isEvdiCompatible (fd : ℤ) : Prog CardFiles Bool := .read fun s =>
  !s.unplugged && (s.files fd.toNat).any fun file =>
    file.driver.versionMajor == 1 && 9 ≤ file.driver.versionMinor

/-! ### The library -/

/-- `if (drm_is_master(fd)) err = drm_ioctl(fd, DRM_IOCTL_DROP_MASTER, NULL);` -/
def dropIfMaster (fd : ℤ) : Prog CardFiles ℤ := do
  let isMaster ← drmIsMaster fd
  if isMaster then dropMaster fd else .pure 0

/-- `open_as_slave`. -/
def openAsSlave : Prog CardFiles ℤ := do
  let fd ← sysOpen
  if fd < 0 then
    .pure (-1)
  else
    let err ← dropIfMaster fd
    if err < 0 then
      sysClose fd
      .pure err
    else
      let isMaster ← drmIsMaster fd
      if isMaster then
        sysClose fd
        .pure (-1)
      else .pure fd

/-- `TOTAL_WAIT_US / SLEEP_INTERVAL_US`. -/
def waitCount : ℕ := 5000000 / 100000

/-- `wait_for_master`, with its last answer. -/
def waitForMaster (devicePath : List Char) : Prog CardFiles Bool :=
  .poll (!·) (.read (deviceHasMaster devicePath)) sleepInterval waitCount

/-- `wait_for_device`. -/
def waitForDevice : Prog CardFiles ℤ := .poll (· < 0) openAsSlave sleepInterval waitCount

/-- `/dev/dri/card%d`. -/
def cardPath (device : ℤ) : List Char := "/dev/dri/card".toList ++ (toString device).toList

/-- `open_device`. -/
def openDevice (device : ℤ) : Prog CardFiles ℤ := do
  let running ← .read xorgRunning
  .when running (waitForMaster (cardPath device) >>= fun _ => .pure ())
  let fd ← waitForDevice
  if 0 ≤ fd then
    let _ ← dropMaster fd
    .pure fd
  else .pure fd

/-- `is_evdi(fd) && is_evdi_compatible(fd)`. -/
def isCompatibleEvdi (fd : ℤ) : Prog CardFiles Bool := do
  let evdi ← isEvdi fd
  if evdi then isEvdiCompatible fd else .pure false

/-- The descriptor of the handle that `evdi_open` makes, where `calloc` says whether there is memory. -/
def evdiOpenCard (device : ℤ) (calloc : Bool) : Prog CardFiles (Option ℕ) := do
  let fd ← openDevice device
  if 0 < fd then
    let compatible ← isCompatibleEvdi fd
    if compatible && calloc then .pure (some fd.toNat)
    else
      sysClose fd
      .pure none
  else .pure none

/-! ### The others -/

/-- The descriptor is one that this call has opened and not closed. -/
def Held (s : CardFiles) (fd : ℕ) : Prop := s.closed.count fd < s.opened.count fd

/-- What may happen between two system calls: anything, but with the descriptors of this call. The path may
come to lead to another card. -/
structure Others (s t : CardFiles) : Prop where
  opened : t.opened = s.opened
  closed : t.closed = s.closed
  sleeps : t.sleeps = s.sleeps
  files : ∀ fd, s.Held fd → t.files fd = s.files fd

/-- The driver that the library works with. -/
structure DriverFits (v : DrmVersion) : Prop where
  name : v.name = ['e', 'v', 'd', 'i']
  versionMajor : v.versionMajor = 1
  versionMinor : 9 ≤ v.versionMinor

/-- The kernel would open the card, whose driver fits, and lets go of a mastership. -/
structure Willing (s : CardFiles) : Prop where
  nextFd : ∃ fd, s.nextFd = some fd ∧ s.files fd = none
  driver : DriverFits s.driver
  unplugged : s.unplugged = false
  mayDrop : s.mayDrop = true

/-- The others, with a kernel that is willing. -/
def WillingOthers (s t : CardFiles) : Prop := Others s t ∧ t.Willing

end CardFiles

end Evdi
