import Evdi.Foundations.CString
import Evdi.Foundations.Transition

/-!
# The client library: opening cards

The part of `evdi_lib.c` that opens and closes cards, with its table `card_usage`.

A handle is the address of its context.  What the library finds in sysfs is given as `PlatformEntry`s,
and what the kernel and `calloc` answer as `OpenAnswers`.  `none` in place of a result is a process
that has died: of the assertion in `find_unused_card_for`, or of a link without a slash.

* `findUnusedCardFor`, `evdiOpen`, `evdiOpenAttachedToFixed`, `evdiClose`;
* `Cards.Step`: the calls of one process, in any order.
-/

namespace Evdi

open CString Transition

/-- `EVDI_USAGE_LEN`. -/
abbrev evdiUsageLen : ℕ := 64

def evdiInvalidDeviceIndex : ℤ := -1

/-- `PATH_MAX`. -/
def pathMax : ℕ := 4096

/-! ### What sysfs says -/

/-- A directory in `/sys/bus/platform/devices`: its name, whether there is a file `device` in it,
where that links to if it is a link, and the names in its directory `drm`, if that can be opened. -/
structure PlatformEntry where
  dName : List Char
  deviceExists : Bool
  device : Option (List Char)
  drm : Option (List (List Char))

/-- `get_drm_device_index`: the number of the last card in the directory. -/
def getDrmDeviceIndex (drm : Option (List (List Char))) : ℤ :=
  match drm with
  | none => evdiInvalidDeviceIndex
  | some names =>
    names.foldl (fun devIndex name =>
      if ['c', 'a', 'r', 'd'].isPrefixOf name then (strtol (name.drop 4)).bmod (2 ^ 32) else devIndex)
      evdiInvalidDeviceIndex

/-- The last component of a path that has `token` after its last slash is compared up to this length,
where `gap` is the distance from the string with the parent's name to the buffer of the path. -/
def parentTokenBound (gap : UInt64) (parentLength : ℕ) (path token : List Char) : ℕ :=
  (UInt64.ofNat parentLength - (gap + .ofNat (path.length - token.length))).toNat

/-- `is_correct_parent_device`. -/
def isCorrectParentDevice (gap : UInt64) (entry : PlatformEntry) (parentDevice : Option (List Char))
    (parentLength : ℕ) : Option Bool :=
  match parentDevice with
  | none => some !entry.deviceExists
  | some parentDevice =>
    match entry.device with
    | none => some false
    | some linkResolution =>
      if pathMax ≤ linkResolution.length then some false
      else if parentLength < 2 then some false
      else
        match strrchr '/' linkResolution with
        | none => none
        | some parentDeviceToken =>
          let parentDeviceToken := parentDeviceToken.tail
          let len := min parentDeviceToken.length
            (parentTokenBound gap parentLength linkResolution parentDeviceToken)
          some (parentLength == len && strncmp parentDeviceToken parentDevice len)

/-! ### The library -/

/-- What opening a card leaves in `struct evdi_device_context`. -/
structure CardHandle where
  fd : ℤ
  deviceIndex : ℤ

/-- The library: `card_usage`, the contexts that are not freed, the indices out of its bounds at which
`card_usage` was written, and what was written to `/sys/devices/evdi/add`. -/
structure Cards where
  cardUsage : Fin evdiUsageLen → Option ℕ
  contexts : ℕ → Option CardHandle
  outOfBounds : List ℤ
  added : List (List Char)

/-- The library as it is loaded. -/
def Cards.init : Cards where
  cardUsage := fun _ => none
  contexts := fun _ => none
  outOfBounds := []
  added := []

/-- `card_usage[device] = h`. -/
def Cards.setUsage (device : ℤ) (h : ℕ) (s : Cards) : Cards :=
  if hdevice : 0 ≤ device ∧ device < evdiUsageLen then
    { s with cardUsage := Function.update s.cardUsage ⟨device.toNat, by omega⟩ (some h) }
  else { s with outOfBounds := s.outOfBounds ++ [device] }

/-- What an open comes to: the result of `open_device`, the answers of `is_evdi` and
`is_evdi_compatible`, and the result of `calloc`. -/
structure OpenAnswers where
  fd : ℤ
  isEvdi : Bool
  isEvdiCompatible : Bool
  calloc : Option ℕ

/-- `evdi_open`. -/
def evdiOpen (ans : OpenAnswers) (device : ℤ) (s : Cards) : Cards × Option ℕ :=
  if 0 < ans.fd ∧ ans.isEvdi ∧ ans.isEvdiCompatible then
    match ans.calloc with
    | none => (s, none)
    | some h =>
      (Cards.setUsage device h
        { s with contexts := Function.update s.contexts h (some ⟨ans.fd, device⟩) }, some h)
  else (s, none)

/-- The loop of `find_unused_card_for`. -/
def findUnusedCardIn (gap : UInt64) (parentDevice : Option (List Char)) (length : ℕ) (s : Cards) :
    List PlatformEntry → Option ℤ
  | [] => some evdiInvalidDeviceIndex
  | entry :: entries =>
    if !List.isPrefixOf ['e', 'v', 'd', 'i'] entry.dName then
      findUnusedCardIn gap parentDevice length s entries
    else
      match isCorrectParentDevice gap entry parentDevice length with
      | none => none
      | some false => findUnusedCardIn gap parentDevice length s entries
      | some true =>
        let devIndex := getDrmDeviceIndex entry.drm
        if h : 0 ≤ devIndex ∧ devIndex < evdiUsageLen then
          if s.cardUsage ⟨devIndex.toNat, by omega⟩ = none then some devIndex
          else findUnusedCardIn gap parentDevice length s entries
        else none

/-- `find_unused_card_for`, where `entries` is what is found if the directory can be opened. -/
def findUnusedCardFor (gap : UInt64) (entries : Option (List PlatformEntry))
    (parentDevice : Option (List Char)) (length : ℕ) (s : Cards) : Option ℤ :=
  match entries with
  | none => some evdiInvalidDeviceIndex
  | some entries => findUnusedCardIn gap parentDevice length s entries

/-- `write_add_device`. -/
def writeAddDevice (buffer : List Char) (bufferLength : ℕ) (s : Cards) : Cards :=
  { s with added := s.added ++ [buffer.take bufferLength] }

/-- What `evdi_open_attached_to_fixed` comes to: where its buffer is, what is found in sysfs before a
device is added and after, and the answers when the card is opened. -/
structure AttachEnv where
  gap : UInt64
  before : Option (List PlatformEntry)
  after : Option (List PlatformEntry)
  answers : OpenAnswers

/-- `get_generic_device`. -/
def getGenericDevice (env : AttachEnv) (s : Cards) : Option (Cards × ℤ) := do
  let deviceIndex ← findUnusedCardFor env.gap env.before none 0 s
  if deviceIndex = evdiInvalidDeviceIndex then
    let s := writeAddDevice ['1'] 1 s
    return (s, ← findUnusedCardFor env.gap env.after none 0 s)
  return (s, deviceIndex)

/-- `get_device_attached_to_usb`. -/
def getDeviceAttachedToUsb (env : AttachEnv) (sysfsParentDevice : List Char) (length : ℕ) (s : Cards) :
    Option (Cards × ℤ) := do
  if length < 4 then
    return (s, evdiInvalidDeviceIndex)
  let parentDevice := sysfsParentDevice.drop 4
  let parentLength := length - 4
  let deviceIndex ← findUnusedCardFor env.gap env.before parentDevice parentLength s
  if deviceIndex = evdiInvalidDeviceIndex then
    let s := writeAddDevice sysfsParentDevice length s
    return (s, ← findUnusedCardFor env.gap env.after parentDevice parentLength s)
  return (s, deviceIndex)

/-- The choice of `evdi_open_attached_to_fixed`. -/
def attachedDeviceIndex (env : AttachEnv) (sysfsParentDevice : Option (List Char)) (length : ℕ)
    (s : Cards) :
    Option (Cards × ℤ) :=
  match sysfsParentDevice with
  | none => getGenericDevice env s
  | some parent =>
    if 4 < length ∧ strncmp parent ['u', 's', 'b', ':'] 4 then getDeviceAttachedToUsb env parent length s
    else some (s, evdiInvalidDeviceIndex)

/-- `evdi_open_attached_to_fixed`. -/
def evdiOpenAttachedToFixed (env : AttachEnv) (sysfsParentDevice : Option (List Char)) (length : ℕ)
    (s : Cards) : Option (Cards × Option ℕ) := do
  let (s, deviceIndex) ← attachedDeviceIndex env sysfsParentDevice length s
  if 0 ≤ deviceIndex ∧ deviceIndex < evdiUsageLen then
    return evdiOpen env.answers deviceIndex s
  return (s, none)

/-- `evdi_close`. -/
def evdiClose (handle : Option ℕ) (s : Cards) : Cards :=
  match handle with
  | none => s
  | some h =>
    { s with
      contexts := Function.update s.contexts h none
      cardUsage := fun i => if s.cardUsage i = some h then none else s.cardUsage i }

/-! ### Runs -/

namespace Cards

/-- The calls of a process. -/
inductive Action
  | openCard (device : ℤ) (ans : OpenAnswers)
  | openAttached (env : AttachEnv) (sysfsParentDevice : Option (List Char)) (length : ℕ)
  | close (handle : Option ℕ)

/-- `calloc` does not give out what is not freed. -/
def Fresh (s : Cards) (ans : OpenAnswers) : Prop := ∀ h, ans.calloc = some h → s.contexts h = none

/-- One call. The process closes handles that are open, or `EVDI_INVALID_HANDLE`. -/
inductive Step : Cards → Action → Cards → Prop
  | openCard {s : Cards} (device : ℤ) (ans : OpenAnswers) : s.Fresh ans →
      Step s (.openCard device ans) (evdiOpen ans device s).1
  | openAttached {s t : Cards} {ret : Option ℕ} (env : AttachEnv) (parent : Option (List Char))
      (length : ℕ) : s.Fresh env.answers → evdiOpenAttachedToFixed env parent length s = some (t, ret) →
      Step s (.openAttached env parent length) t
  | close {s : Cards} (handle : Option ℕ) : (∀ h, handle = some h → s.contexts h ≠ none) →
      Step s (.close handle) (evdiClose handle s)

end Cards

end Evdi
