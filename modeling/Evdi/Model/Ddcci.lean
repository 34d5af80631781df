import Evdi.Foundations.Transition
import Evdi.Model.Client
import Evdi.Model.Modeset

/-!
# DDC/CI transfers

`evdi_painter_ddcci_data`, which sends a request for the monitor to the client and waits for its
response, in steps: the event, the `reinit_completion`, the sections of sending, the wait, and the copy
under the painter lock.  The i2c core lets one transfer through at a time.

* `DdcciPhase`: where the transfer under way is;
* `Ddcci.Step`: a transfer, the client's answers and the rest of the driver, in any order.
-/

namespace Evdi

open Atomic Bytes

/-! ### Messages -/

/-- `I2C_ADDRESS_DDCCI`. -/
def i2cAddressDdcci : UInt16 := 0x37

/-- What the driver reads of `struct i2c_msg`. -/
structure I2cMsg where
  addr : UInt16
  flags : UInt16
  len : UInt16
  buf : List UInt8

/-- `min_t(__u16, msg->len, DDCCI_BUFFER_SIZE)`, for the event and for the expected response. -/
def ddcciLength (msg : I2cMsg) : UInt32 := (min msg.len ddcciBufferSize.toUInt16).toUInt32

/-- The event made by `create_ddcci_data_event`. -/
def ddcciDataEvent (msg : I2cMsg) : Event :=
  .ddcciData (msg.buf.take (ddcciLength msg).toNat) (ddcciLength msg) msg.flags msg.addr

/-- The checks of `evdi_painter_i2c_data_notify`. -/
def i2cDataAccepted (msg : I2cMsg) (d : Device) : Bool :=
  d.painter.any (·.isConnected) && msg.addr == i2cAddressDdcci

/-! ### The completion -/

/-- `reinit_completion(&painter->ddcci_response_received)`. -/
def reinitCompletion (d : Device) : Device :=
  d.onPainter fun p => { p with ddcciResponseReceived := 0 }

/-- `painter->ddcci_response_received` is done. -/
def responseReceived (d : Device) : Bool := d.painter.any (0 < ·.ddcciResponseReceived)

/-- The end of a successful `wait_for_completion_interruptible_timeout`. -/
def takeCompletion (d : Device) : Device :=
  d.onPainter fun p => { p with ddcciResponseReceived := p.ddcciResponseReceived - 1 }

/-- The bytes copied to the message's buffer, if the response has the length expected. -/
def copiedResponse (msg : I2cMsg) (d : Device) : Option (List UInt8) :=
  match d.painter with
  | none => none
  | some p =>
    if ddcciLength msg ≠ p.ddcciBufferLength then none
    else p.ddcciBuffer.map (·.take p.ddcciBufferLength.toNat)

/-! ### Transfers -/

/-- Where the transfer under way is. `event` is the request it has created, if it could. -/
inductive DdcciPhase
  | idle
  | created (msg : I2cMsg) (event : Option PendingEvent)
  | sending (msg : I2cMsg) (event : Option PendingEvent) (rest : Prog Device Unit)
  | waiting (msg : I2cMsg) (event : Option PendingEvent)
  | woken (msg : I2cMsg) (event : Option PendingEvent)

/-- A device with the transfer under way; `answered` has the requests that the client has answered,
`answers` the answers that were accepted, and `copied` what transfers have copied, each with its
request. -/
structure Ddcci where
  device : Device
  phase : DdcciPhase
  answered : List PendingEvent
  answers : List (PendingEvent × List UInt8)
  copied : List (Option PendingEvent × List UInt8)

namespace Ddcci

/-- What may happen. -/
inductive Action
  | transfer
  | answer (request : PendingEvent) (bytes : Option (List UInt8))
  | other

/-- The answer that a call of `DDCCI_RESPONSE` passes in, when it succeeds. -/
def answerOf (user : UInt64 → UserRegion) (kzalloc : Bool) (cmd : DdcciResponseCmd) :
    Option (List UInt8) :=
  if kzalloc then copyFromUser (user cmd.buffer) (min cmd.bufferLength ddcciBufferSize).toNat
  else none

/-- One step: of the transfer, of the client, which answers a request it has received and not answered,
or of the rest of the driver. -/
inductive Step : Ddcci → Action → Ddcci → Prop
  | begin {s : Ddcci} {msg : I2cMsg} : s.phase = .idle → i2cDataAccepted msg s.device = true →
      Step s .transfer { s with
        device := (createEvent (ddcciDataEvent msg) s.device).1
        phase := .created msg (createEvent (ddcciDataEvent msg) s.device).2 }
  | reinit {s : Ddcci} {msg : I2cMsg} {event : Option PendingEvent} :
      s.phase = .created msg event →
      Step s .transfer { s with
        device := reinitCompletion s.device
        phase := .sending msg event (painterSendEvent event) }
  | send {s : Ddcci} {msg : I2cMsg} {event : Option PendingEvent} {f : Device → Device}
      {k : Device → Prog Device Unit} : s.phase = .sending msg event (.sec f k) →
      Step s .transfer { s with device := f s.device, phase := .sending msg event (k s.device) }
  | sent {s : Ddcci} {msg : I2cMsg} {event : Option PendingEvent} {u : Unit} :
      s.phase = .sending msg event (.pure u) →
      Step s .transfer { s with phase := .waiting msg event }
  | wake {s : Ddcci} {msg : I2cMsg} {event : Option PendingEvent} :
      s.phase = .waiting msg event → responseReceived s.device = true →
      Step s .transfer { s with device := takeCompletion s.device, phase := .woken msg event }
  | timeout {s : Ddcci} {msg : I2cMsg} {event : Option PendingEvent} :
      s.phase = .waiting msg event → Step s .transfer { s with phase := .idle }
  | copy {s : Ddcci} {msg : I2cMsg} {event : Option PendingEvent} :
      s.phase = .woken msg event →
      Step s .transfer { s with
        phase := .idle
        copied := s.copied ++ ((copiedResponse msg s.device).map (event, ·)).toList }
  | answer {s : Ddcci} {request : PendingEvent} (user : UInt64 → UserRegion) (kzalloc : Bool)
      (cmd : DdcciResponseCmd) : request ∈ s.device.drm.delivered →
      request.event.type = 0x80000006 → request ∉ s.answered →
      Step s (.answer request (answerOf user kzalloc cmd)) { s with
        device := (painterDdcciResponseIoctl user kzalloc cmd s.device).1
        answered := s.answered ++ [request]
        answers := s.answers ++ ((answerOf user kzalloc cmd).map (request, ·)).toList }
  | other {s : Ddcci} {f : Device → Device} :
      CommitSection f → Step s .other { s with device := f s.device }

/-- No transfer under way, and none before. -/
def init (d : Device) : Ddcci := ⟨d, .idle, [], [], []⟩

end Ddcci

end Evdi
