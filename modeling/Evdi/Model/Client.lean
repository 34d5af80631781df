import Evdi.Model.Grabpix

/-!
# The calls of clients

What the clients of a device may do, as steps.  All calls but `GRABPIX` are one step; a `GRABPIX` call
is two: its locked phase, and its end, with the copy before it.
-/

namespace Evdi

open Bytes

/-- A device, and the `GRABPIX` calls between their locked phase and their end. -/
structure Clients where
  device : Device
  grabs : List Grab

/-- A call, or one of the two phases of a `GRABPIX`, with its result. -/
inductive ClientCall
  | requestUpdate (ret : ℤ)
  | grabpix (cmd : GrabpixCmd)
  | grabpixDone (ret : ℤ)
  | connect (cmd : ConnectCmd) (file : DrmFile) (ret : ℤ)
  | close (file : DrmFile)
  | ddcciResponse (cmd : DdcciResponseCmd) (ret : ℤ)
  | enableCursorEvents (cmd : EnableCursorEventsCmd)

/-- One step of the clients. The copy of a `GRABPIX` call reads the device but does not change it, so
it is part of the call's end, with any result the caller's memory and the kernel may lead to. -/
inductive ClientStep : Clients → ClientCall → Clients → Prop
  | requestUpdate {s : Clients} {d : Device} {ret : ℤ} :
      painterRequestUpdateIoctl s.device = (d, ret) →
      ClientStep s (.requestUpdate ret) { s with device := d }
  | grabpix {s : Clients} {d : Device} {cmd cmd' : GrabpixCmd} {g : Grab} :
      painterGrabpixLocked cmd s.device = (d, cmd', .ok g) →
      ClientStep s (.grabpix cmd) ⟨d, s.grabs ++ [g]⟩
  | grabpixRefused {s : Clients} {d : Device} {cmd cmd' : GrabpixCmd} {err : ℤ} :
      painterGrabpixLocked cmd s.device = (d, cmd', .error err) →
      ClientStep s (.grabpix cmd) { s with device := d }
  | grabpixDone {s : Clients} {l r : List Grab} {g : Grab} (env : GrabEnv) :
      s.grabs = l ++ g :: r →
      ClientStep s (.grabpixDone (painterGrabpixCopy env g s.device).ret)
        ⟨painterGrabpixFinish g s.device, l ++ r⟩
  | connect {s : Clients} {d : Device} {cmd : ConnectCmd} {file : DrmFile} {ret : ℤ}
      (user : UInt64 → UserRegion) (ans : ConnectAnswers) :
      painterConnectIoctl user ans cmd file s.device = (d, ret) →
      ClientStep s (.connect cmd file ret) { s with device := d }
  | close {s : Clients} (file : DrmFile) :
      ClientStep s (.close file) { s with device := painterClose file s.device }
  | ddcciResponse {s : Clients} {d : Device} {cmd : DdcciResponseCmd} {ret : ℤ}
      (user : UInt64 → UserRegion) (kzalloc : Bool) :
      painterDdcciResponseIoctl user kzalloc cmd s.device = (d, ret) →
      ClientStep s (.ddcciResponse cmd ret) { s with device := d }
  | enableCursorEvents {s : Clients} (cmd : EnableCursorEventsCmd) :
      ClientStep s (.enableCursorEvents cmd)
        { s with device := (painterEnableCursorEventsIoctl cmd s.device).1 }

/-- What the calls of clients do to the device. -/
inductive ClientSection : (Device → Device) → Prop
  | requestUpdate : ClientSection fun d => (painterRequestUpdateIoctl d).1
  | grabpix (cmd : GrabpixCmd) : ClientSection fun d => (painterGrabpixLocked cmd d).1
  | grabpixDone (g : Grab) : ClientSection (painterGrabpixFinish g)
  | connect (user : UInt64 → UserRegion) (ans : ConnectAnswers) (cmd : ConnectCmd)
      (file : DrmFile) : ClientSection fun d => (painterConnectIoctl user ans cmd file d).1
  | close (file : DrmFile) : ClientSection (painterClose file)
  | ddcciResponse (user : UInt64 → UserRegion) (kzalloc : Bool) (cmd : DdcciResponseCmd) :
      ClientSection fun d => (painterDdcciResponseIoctl user kzalloc cmd d).1
  | enableCursorEvents (cmd : EnableCursorEventsCmd) :
      ClientSection fun d => (painterEnableCursorEventsIoctl cmd d).1

theorem ClientStep.section {s t : Clients} {call : ClientCall} (h : ClientStep s call t) :
    ∃ f, ClientSection f ∧ t.device = f s.device := by
  cases h with
  | requestUpdate heq => exact ⟨_, .requestUpdate, (congrArg Prod.fst heq).symm⟩
  | @grabpix d cmd cmd' g heq => exact ⟨_, .grabpix cmd, (congrArg Prod.fst heq).symm⟩
  | @grabpixRefused d cmd cmd' err heq => exact ⟨_, .grabpix cmd, (congrArg Prod.fst heq).symm⟩
  | @grabpixDone l r g env _ => exact ⟨_, .grabpixDone g, rfl⟩
  | connect user ans heq => exact ⟨_, .connect user ans _ _, (congrArg Prod.fst heq).symm⟩
  | close file => exact ⟨_, .close file, rfl⟩
  | ddcciResponse user kzalloc heq =>
    exact ⟨_, .ddcciResponse user kzalloc _, (congrArg Prod.fst heq).symm⟩
  | enableCursorEvents cmd => exact ⟨_, .enableCursorEvents cmd, rfl⟩

/-! ### The painter after a DDC/CI response -/

/-- A DDC/CI response changes the DDC/CI fields of the painter and nothing else. -/
theorem painterDdcciResponseIoctl_device (user : UInt64 → UserRegion) (kzalloc : Bool)
    (cmd : DdcciResponseCmd) (d : Device) : ∃ buffer length received,
      (painterDdcciResponseIoctl user kzalloc cmd d).1 = d.onPainter fun p =>
        { p with
          ddcciBuffer := buffer
          ddcciBufferLength := length
          ddcciResponseReceived := p.ddcciResponseReceived + received } := by
  unfold painterDdcciResponseIoctl
  cases kzalloc with
  | false => exact ⟨none, min cmd.bufferLength ddcciBufferSize, 0, rfl⟩
  | true =>
    cases hcopy : copyFromUser (user cmd.buffer) (min cmd.bufferLength ddcciBufferSize).toNat with
    | none => exact ⟨none, min cmd.bufferLength ddcciBufferSize, 0, by simp [hcopy]⟩
    | some bytes =>
      refine ⟨some bytes, min cmd.bufferLength ddcciBufferSize, 1, ?_⟩
      cases h : d.painter <;> simp [hcopy, Device.onPainter, h]

/-! ### A sample session -/

/-- A buffer of `width` by `height`, without an offset, in an object of 8 GiB. -/
def Framebuffer.sample (id : ℕ) (width height pitch : UInt32) : Framebuffer where
  id := id
  width := width
  height := height
  pitch0 := pitch
  offset0 := 0
  format := ⟨0x34325258, 4⟩
  obj := ⟨id, 2 ^ 33, none, false⟩
  isFromXe := false

/-- A process that has all its memory mapped, with one value in it. -/
def sampleUser (b : UInt8) : UserRegion := ⟨fun _ => b, fun _ => true⟩

/-- A connect with the 128 bytes at address 0. -/
def ConnectCmd.sample : ConnectCmd := ⟨1, 0, 0, 128, 0, 0⟩

/-- A call for at most `numRects` rectangles of a buffer of `width` by `height`. -/
def GrabpixCmd.sample (width height stride numRects : Int32) : GrabpixCmd :=
  ⟨grabpixModeDirty, width, height, stride, 0, numRects, 0⟩

/-- The device of one connected client, with `fb` as its scanout buffer. -/
def Device.sample (fb : Framebuffer) : Device :=
  let d := Device.init 0 (.init (.const true) (.const true))
  let d := (painterConnectIoctl (fun _ => sampleUser 0) ⟨true, true⟩ .sample 1 d).1
  ((painterSetScanoutBuffer (some fb)).exec d).1

/-- Nothing fails, and all bytes of all objects are `b`. -/
def GrabEnv.sample (b : UInt8) : GrabEnv where
  drmFormatInfo := fun _ => none
  vmap := ⟨0, true, .ok [], true⟩
  beginCpuAccess := 0
  objects := fun ref => ⟨ref, none, 0, false, fun _ => b⟩
  user := fun _ => sampleUser 0

end Evdi
