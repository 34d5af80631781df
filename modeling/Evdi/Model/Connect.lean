import Evdi.Foundations.Bytes
import Evdi.Model.Painter
import Evdi.Model.Gem

/-!
# Cursor state, connecting and disconnecting

The setters of `evdi_cursor.c`, and the session functions of `evdi_painter.c`: connect,
disconnect, close, cleanup and the copy of the EDID handed to the connector.
-/

namespace Evdi

open Atomic Bytes

/-! ### The cursor -/

/-- `drm_gem_object_get` and `drm_gem_object_put`, by the references they add. -/
def drmGemObjectRef (obj : Option GemRef) (n : ℤ) (d : Device) : Device :=
  match obj with
  | none => d
  | some o => d.onDrm fun drm =>
      { drm with gemRefs := Function.update drm.gemRefs o.id (drm.gemRefs o.id + n) }

/-- `evdi_cursor_set_gem`. -/
def cursorSetGem (obj : Option GemRef) (d : Device) : Device :=
  let d := drmGemObjectRef obj 1 d
  let d := drmGemObjectRef d.cursor.obj (-1) d
  { d with cursor := { d.cursor with obj := obj } }

/-- `evdi_cursor_enable`. -/
def cursorEnable (enable : Bool) (d : Device) : Device :=
  let d := { d with cursor := { d.cursor with enabled := enable } }
  if enable then d else cursorSetGem none d

/-- What `evdi_cursor_set` is told about the new image. -/
structure CursorImage where
  width : UInt32
  height : UInt32
  hotX : Int32
  hotY : Int32
  pixelFormat : UInt32
  stride : UInt32

/-- The mapping step of `evdi_cursor_set`: the object, unless it could not be mapped. -/
def cursorMapObject (obj : Option GemObject) (ans : VmapAnswers) : Option GemRef :=
  match obj with
  | none => none
  | some obj => if (gemMapOnDemand obj ans).2 ≠ 0 then none else some obj.ref

/-- `evdi_cursor_set`. -/
def cursorSet (obj : Option GemObject) (ans : VmapAnswers) (image : CursorImage) (d : Device) :
    Device :=
  let obj := cursorMapObject obj ans
  let cursor := { d.cursor with
    enabled := obj.isSome
    width := image.width
    height := image.height
    hotX := image.hotX
    hotY := image.hotY
    pixelFormat := image.pixelFormat
    stride := image.stride }
  cursorSetGem obj { d with cursor := cursor }

/-- `evdi_cursor_move`. -/
def cursorMove (x y : Int32) (d : Device) : Device :=
  { d with cursor := { d.cursor with x := x, y := y } }

/-! ### The EDID -/

/-- `sizeof(struct edid)`, and the size of an extension block. -/
def edidBlockSize : ℕ := 128

/-- `MAX_EDID_SIZE`. -/
def maxEdidSize : ℕ := 255 * edidBlockSize + edidBlockSize

/-- `evdi_painter_get_edid_copy`, where `kmalloc` says whether there is memory for the copy. -/
def painterGetEdidCopy (kmalloc : Bool) (d : Device) : Option (List UInt8) :=
  match d.painter with
  | some p =>
    if p.isConnected ∧ p.edidLength ≠ 0 then
      p.edid.bind fun edid => if kmalloc then some (edid.take p.edidLength.toNat) else none
    else none
  | none => none

/-! ### Connect and disconnect -/

/-- What the kernel answers during a connect: whether the EDID buffer was allocated, and whether
an i2c adapter could be added. -/
structure ConnectAnswers where
  kzalloc : Bool
  i2cAdd : Bool

/-- `evdi_painter_connect`. -/
def painterConnect (edidData : UserRegion) (edidLength pixelAreaLimit pixelPerSecondLimit : UInt32)
    (file : DrmFile) (ans : ConnectAnswers) (d : Device) : Device × ℤ :=
  if edidLength.toNat < edidBlockSize then (d, -EINVAL)
  else if edidLength.toNat > maxEdidSize then (d, -EINVAL)
  else if !ans.kzalloc then (d, -ENOMEM)
  else
    match copyFromUser edidData edidLength.toNat with
    | none => (d, -EFAULT)
    | some newEdid =>
      let d := d.onPainter fun p =>
        { p with
          drmFilp := some file
          edidLength := edidLength
          edid := some newEdid
          isConnected := true
          needsFullModeset := true }
      ({ d with
          pixelAreaLimit := pixelAreaLimit
          pixelPerSecondLimit := pixelPerSecondLimit
          i2cAdapter := d.i2cAdapter || ans.i2cAdd }, 0)

/-- The painter as a successful connect leaves it. -/
def Painter.connected (p : Painter) (file : DrmFile) (edidLength : UInt32) (edid : List UInt8) :
    Painter :=
  { p with
    drmFilp := some file
    edidLength := edidLength
    edid := some edid
    isConnected := true
    needsFullModeset := true }

/-- **Connecting** is refused and changes nothing, or the whole EDID was read and is kept. -/
theorem painterConnect_cases (u : UserRegion) (n area pps : UInt32) (file : DrmFile)
    (ans : ConnectAnswers) (d : Device) :
    (∃ err, painterConnect u n area pps file ans d = (d, err) ∧ err < 0 ∧
      (n.toNat < edidBlockSize ∨ n.toNat > maxEdidSize ∨ ans.kzalloc = false ∨
        copyFromUser u n.toNat = none)) ∨
    ∃ edid, edidBlockSize ≤ n.toNat ∧ n.toNat ≤ maxEdidSize ∧ ans.kzalloc = true ∧
      copyFromUser u n.toNat = some edid ∧
      painterConnect u n area pps file ans d =
        ({ d with
            painter := d.painter.map (·.connected file n edid)
            pixelAreaLimit := area
            pixelPerSecondLimit := pps
            i2cAdapter := d.i2cAdapter || ans.i2cAdd }, 0) := by
  unfold painterConnect
  split_ifs with hsmall hlarge hk
  · exact .inl ⟨_, rfl, by decide, .inl hsmall⟩
  · exact .inl ⟨_, rfl, by decide, .inr (.inl hlarge)⟩
  · exact .inl ⟨_, rfl, by decide, .inr (.inr (.inl (by simpa using hk)))⟩
  · cases hcopy : copyFromUser u n.toNat with
    | none => exact .inl ⟨_, rfl, by decide, .inr (.inr (.inr rfl))⟩
    | some edid =>
      exact .inr ⟨edid, by omega, by omega, by simpa using hk, rfl, rfl⟩

/-- `evdi_painter_events_cleanup`. -/
def painterEventsCleanup (d : Device) : Device :=
  match d.painter with
  | none => d
  | some p =>
    (d.onDrm fun drm => { drm with freed := drm.freed ++ p.pendingEvents }).onPainter fun p =>
      { p with pendingEvents := [], sendEventsWorkPending := false }

/-- The framebuffer reference given up by disconnect and cleanup. -/
def putScanoutBuffer (d : Device) : Device :=
  match d.painter.bind (·.scanoutFb) with
  | some fb => (drmFramebufferRef fb (-1) d).onPainter fun p => { p with scanoutFb := none }
  | none => d

/-- `evdi_painter_disconnect`. -/
def painterDisconnect (file : DrmFile) (d : Device) : Device × ℤ :=
  if d.painter.bind (·.drmFilp) ≠ some file then (d, -EFAULT)
  else
    let d := putScanoutBuffer d
    let d := d.onPainter fun p => { p with isConnected := false }
    let d := painterEventsCleanup d
    let d := painterSendVblank d
    let d := cursorEnable false d
    let d := d.onPainter fun p => { p with ddcciBuffer := none, ddcciBufferLength := 0 }
    let d := { d with i2cAdapter := false }
    let d := d.onPainter fun p => { p with drmFilp := none, wasUpdateRequested := false }
    let d := { d with cursorEventsEnabled := false }
    (d.onPainter fun p => { p with ddcciResponseReceived := p.ddcciResponseReceived + 1 }, 0)

/-- The painter as a disconnect leaves it. -/
def Painter.disconnected (p : Painter) : Painter :=
  { p with
    scanoutFb := none
    isConnected := false
    pendingEvents := []
    sendEventsWorkPending := false
    crtc := none
    vblank := none
    ddcciBuffer := none
    ddcciBufferLength := 0
    drmFilp := none
    wasUpdateRequested := false
    ddcciResponseReceived := p.ddcciResponseReceived + 1 }

theorem painterDisconnect_refused {file : DrmFile} {d : Device}
    (h : d.painter.bind (·.drmFilp) ≠ some file) : painterDisconnect file d = (d, -EFAULT) := by
  rw [painterDisconnect, if_pos h]

/-- **The owner's disconnect**: the painter, the cursor and the rest of the device after it, and what
the kernel has been handed. -/
theorem painterDisconnect_owner {file : DrmFile} {d : Device} {p : Painter}
    (hp : d.painter = some p) (hfile : p.drmFilp = some file) :
    painterDisconnect file d =
      ({ d with
          painter := some p.disconnected
          cursor := { d.cursor with enabled := false, obj := none }
          cursorEventsEnabled := false
          i2cAdapter := false
          drm := { d.drm with
            freed := d.drm.freed ++ p.pendingEvents
            sentVblanks := d.drm.sentVblanks ++ vblankPair p.crtc p.vblank
            fbRefs := (putScanoutBuffer d).drm.fbRefs
            gemRefs := (cursorSetGem none d).drm.gemRefs } }, 0) := by
  have howner : ¬ d.painter.bind (·.drmFilp) ≠ some file := by simp [hp, hfile]
  rw [painterDisconnect, if_neg howner]
  cases hfb : p.scanoutFb <;> cases hobj : d.cursor.obj <;>
    simp [putScanoutBuffer, painterEventsCleanup, painterSendVblank, sendVblank_eq, cursorEnable,
      cursorSetGem, drmGemObjectRef, drmFramebufferRef, Painter.disconnected, Device.onPainter,
      Device.onDrm, hp, hfb, hobj]

/-- `struct drm_evdi_connect`. -/
structure ConnectCmd where
  connected : Int32
  devIndex : Int32
  edid : UInt64
  edidLength : UInt32
  pixelAreaLimit : UInt32
  pixelPerSecondLimit : UInt32
  deriving DecidableEq

/-- `evdi_painter_connect_ioctl`, where `user` is the caller's memory around each of its pointers. -/
def painterConnectIoctl (user : UInt64 → UserRegion) (ans : ConnectAnswers) (cmd : ConnectCmd)
    (file : DrmFile) (d : Device) : Device × ℤ :=
  match d.painter with
  | none => (d, -ENODEV)
  | some _ =>
    if cmd.connected ≠ 0 then
      painterConnect (user cmd.edid) cmd.edidLength cmd.pixelAreaLimit cmd.pixelPerSecondLimit
        file ans d
    else painterDisconnect file d

/-- `evdi_painter_close`, from the driver's `postclose`. -/
def painterClose (file : DrmFile) (d : Device) : Device :=
  if d.painter.bind (·.drmFilp) = some file then (painterDisconnect file d).1 else d

/-- **Disconnecting** is refused, or it is the owner's. -/
theorem painterDisconnect_cases (file : DrmFile) (d : Device) :
    painterDisconnect file d = (d, -EFAULT) ∨ ∃ p, d.painter = some p ∧ p.drmFilp = some file := by
  by_cases howner : d.painter.bind (·.drmFilp) = some file
  · exact .inr (Option.bind_eq_some_iff.1 howner)
  · exact .inl (painterDisconnect_refused howner)

/-- A close is a disconnect of which the answer is not looked at. -/
theorem painterClose_eq (file : DrmFile) (d : Device) :
    painterClose file d = (painterDisconnect file d).1 := by
  unfold painterClose
  split_ifs with howner
  · rfl
  · rw [painterDisconnect_refused howner]

/-- **A `CONNECT` call** is refused and changes nothing, connects its caller, or disconnects it. -/
theorem painterConnectIoctl_cases (user : UInt64 → UserRegion) (ans : ConnectAnswers)
    (cmd : ConnectCmd) (file : DrmFile) (d : Device) :
    (∃ err, painterConnectIoctl user ans cmd file d = (d, err) ∧ err < 0) ∨
    (∃ edid, cmd.connected ≠ 0 ∧ edidBlockSize ≤ cmd.edidLength.toNat ∧
      cmd.edidLength.toNat ≤ maxEdidSize ∧
      copyFromUser (user cmd.edid) cmd.edidLength.toNat = some edid ∧
      painterConnectIoctl user ans cmd file d =
        ({ d with
            painter := d.painter.map (·.connected file cmd.edidLength edid)
            pixelAreaLimit := cmd.pixelAreaLimit
            pixelPerSecondLimit := cmd.pixelPerSecondLimit
            i2cAdapter := d.i2cAdapter || ans.i2cAdd }, 0)) ∨
    (cmd.connected = 0 ∧ painterConnectIoctl user ans cmd file d = painterDisconnect file d) := by
  unfold painterConnectIoctl
  cases hp : d.painter with
  | none => exact .inl ⟨-ENODEV, rfl, by decide⟩
  | some p =>
    dsimp only
    split_ifs with hcmd
    · rcases painterConnect_cases (user cmd.edid) cmd.edidLength cmd.pixelAreaLimit
        cmd.pixelPerSecondLimit file ans d with ⟨err, heq, hneg, -⟩ | ⟨edid, hmin, hmax, -, hcopy, heq⟩
      · exact .inl ⟨err, heq, hneg⟩
      · exact .inr (.inl ⟨edid, hcmd, hmin, hmax, hcopy, by rw [heq, hp]⟩)
    · exact .inr (.inr ⟨not_not.1 hcmd, rfl⟩)

/-- A `CONNECT` call that disconnects, and is answered 0, is its owner's. -/
theorem painterConnectIoctl_disconnect {user : UInt64 → UserRegion} {ans : ConnectAnswers}
    {cmd : ConnectCmd} {file : DrmFile} {d d' : Device} (hcmd : cmd.connected = 0)
    (h : painterConnectIoctl user ans cmd file d = (d', 0)) :
    ∃ p, d.painter = some p ∧ p.drmFilp = some file ∧ d' = (painterDisconnect file d).1 := by
  rcases painterConnectIoctl_cases user ans cmd file d with ⟨err, heq, hneg⟩ |
    ⟨edid, hconnect, -⟩ | ⟨-, heq⟩
  · exact absurd (congrArg Prod.snd (heq.symm.trans h)) hneg.ne
  · exact absurd hcmd hconnect
  · have hanswer := heq.symm.trans h
    rcases painterDisconnect_cases file d with hrefused | ⟨p, hp, hfile⟩
    · exact absurd (Prod.mk.inj (hrefused.symm.trans hanswer)).2 (by decide)
    · exact ⟨p, hp, hfile, (congrArg Prod.fst hanswer).symm⟩

/-! ### The other requests -/

/-- `DDCCI_BUFFER_SIZE`. -/
def ddcciBufferSize : UInt32 := 64

/-- `struct drm_evdi_ddcci_response`. -/
structure DdcciResponseCmd where
  buffer : UInt64
  bufferLength : UInt32
  result : UInt8
  deriving DecidableEq

/-- `evdi_painter_ddcci_response_ioctl`, where `kzalloc` says whether the new buffer could be
allocated. The source dereferences the painter without a check. -/
def painterDdcciResponseIoctl (user : UInt64 → UserRegion) (kzalloc : Bool)
    (cmd : DdcciResponseCmd) (d : Device) : Device × ℤ :=
  let length := min cmd.bufferLength ddcciBufferSize
  let d := d.onPainter fun p => { p with ddcciBufferLength := length, ddcciBuffer := none }
  if !kzalloc then (d, -ENOMEM)
  else
    match copyFromUser (user cmd.buffer) length.toNat with
    | none => (d, -EFAULT)
    | some bytes =>
      (d.onPainter fun p =>
        { p with
          ddcciBuffer := some bytes
          ddcciResponseReceived := p.ddcciResponseReceived + 1 }, 0)

/-- The field of `struct drm_evdi_enable_cursor_events` that the driver reads. -/
structure EnableCursorEventsCmd where
  enable : UInt8
  deriving DecidableEq

/-- `evdi_painter_enable_cursor_events_ioctl`. -/
def painterEnableCursorEventsIoctl (cmd : EnableCursorEventsCmd) (d : Device) : Device × ℤ :=
  ({ d with cursorEventsEnabled := cmd.enable != 0 }, 0)

/-! ### The end of the painter -/

/-- `evdi_painter_cleanup`, which frees the painter. -/
def painterCleanup (d : Device) : Device :=
  let d := putScanoutBuffer d
  let d := painterSendVblank d
  let d := painterEventsCleanup d
  { d with painter := none }

end Evdi
