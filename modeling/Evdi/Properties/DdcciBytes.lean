import Evdi.Properties.DdcciMatch

/-!
# The bytes of a DDC/CI transfer

A transfer cuts its message to 64 bytes for the event, and once more for the length it expects; a
response is cut to 64 bytes when it is stored.  What is stored last before the transfer takes the painter
lock is copied, if it has the length expected; the response that ended the wait may have been replaced
by then.

* `Ddcci.CallStep`: a transfer among responses of any client, disconnects and the rest of the driver;
* `I2cMsg.bufAfter`: the message's buffer after the copy;
* `Moved`: the bytes of a response are where they belong;
* `Ddcci.ddcci_bytes`: the last response is moved, and nothing else is touched.
-/

namespace Evdi

open Atomic Bytes Transition

/-- The bytes of a message that a transfer is about: `min(msg->len, 64)`. -/
def I2cMsg.carried (msg : I2cMsg) : ℕ := min msg.len.toNat 64

/-- The message's buffer after the copy. -/
def I2cMsg.bufAfter (msg : I2cMsg) (d : Device) : List UInt8 :=
  match copiedResponse msg d with
  | some bytes => bytes ++ msg.buf.drop bytes.length
  | none => msg.buf

/-- The buffer begins with the bytes of the response, if both have the same length when cut to 64 bytes;
otherwise it is unchanged. -/
def Moved (msg : I2cMsg) (user : UInt64 → UserRegion) (cmd : DdcciResponseCmd) (buf : List UInt8) :
    Prop :=
  if min cmd.bufferLength.toNat 64 = msg.carried then
    buf = ((List.range msg.carried).map fun i : ℕ => (user cmd.buffer).byte i) ++
      msg.buf.drop msg.carried
  else buf = msg.buf

/-- The response that is held is as long as its length says. -/
def ResponseSized (d : Device) : Prop :=
  ∀ b n, heldResponse d = some (some b, n) → b.length = n.toNat

/-- The message and the event of the transfer under way. -/
def DdcciPhase.request : DdcciPhase → Option (I2cMsg × Option PendingEvent)
  | .idle => none
  | .created msg event => some (msg, event)
  | .sending msg event _ => some (msg, event)
  | .waiting msg event => some (msg, event)
  | .woken msg event => some (msg, event)

namespace Ddcci

/-! ### Calls -/

/-- What may happen. -/
inductive Call
  | transfer
  | response (user : UInt64 → UserRegion) (kzalloc : Bool) (cmd : DdcciResponseCmd)
  | disconnect (file : DrmFile)
  | other

/-- A step of the transfer, a response of any client, the owner's disconnect (others are refused and
change nothing), or something that leaves the response alone. -/
inductive CallStep : Ddcci → Call → Ddcci → Prop
  | transfer {s t : Ddcci} : Step s .transfer t → CallStep s .transfer t
  | response {s : Ddcci} (user : UInt64 → UserRegion) (kzalloc : Bool) (cmd : DdcciResponseCmd) :
      CallStep s (.response user kzalloc cmd)
        { s with device := (painterDdcciResponseIoctl user kzalloc cmd s.device).1 }
  | disconnect {s : Ddcci} (file : DrmFile) : s.device.painter.bind (·.drmFilp) = some file →
      CallStep s (.disconnect file) { s with device := (painterDisconnect file s.device).1 }
  | other {s : Ddcci} (f : Device → Device) : (∀ d, heldResponse (f d) = heldResponse d) →
      CallStep s .other { s with device := f s.device }

/-- The calls that leave the response alone. -/
def Call.Quiet : Call → Prop
  | .transfer => True
  | .response .. => False
  | .disconnect _ => False
  | .other => True

/-- A step that leaves the response alone. -/
def QuietStep (s : Ddcci) (a : Call) (t : Ddcci) : Prop := CallStep s a t ∧ a.Quiet

/-- From `s`, the call `a` leads to `t`, without a response or a disconnect after it. -/
def LastCall (s : Ddcci) (a : Call) (t : Ddcci) : Prop :=
  ∃ s', CallStep s a s' ∧ ∃ as, Run QuietStep s' as t

/-! ### What a transfer keeps -/

/-- What holds in every run: there is a painter, the response is as long as its length says, and the
event of the transfer under way is made from its message. -/
structure CallInv (s : Ddcci) : Prop where
  painter : heldResponse s.device ≠ none
  sized : ResponseSized s.device
  uses : ∀ msg event rest, s.phase = .sending msg event rest → rest.Uses SendSection
  request : ∀ msg e, s.phase.request = some (msg, some e) → e.event = ddcciDataEvent msg

variable {s t : Ddcci}

theorem createEvent_event {event : Event} {d : Device} {e : PendingEvent}
    (h : (createEvent event d).2 = some e) : e.event = event := by
  unfold createEvent at h
  split_ifs at h
  exact congrArg PendingEvent.event (Option.some.inj h).symm

/-- A step of the transfer leaves the response alone, and goes on with the same request. -/
theorem CallInv.transfer (hs : s.CallInv) (h : Step s .transfer t) :
    heldResponse t.device = heldResponse s.device ∧
      (∀ msg event rest, t.phase = .sending msg event rest → rest.Uses SendSection) ∧
      ∀ msg e, t.phase.request = some (msg, some e) → e.event = ddcciDataEvent msg := by
  cases h with
  | @begin msg hphase haccepted =>
    refine ⟨?_, (fun _ _ _ h => by cases h), fun msg' e he => ?_⟩
    · simp only [heldResponse, createEvent_painter]
    · obtain ⟨rfl, hevent⟩ := Prod.mk.inj (Option.some.inj he)
      exact createEvent_event hevent
  | @reinit msg event hphase =>
    refine ⟨heldResponse_onPainter _ (fun _ => rfl) fun _ => rfl, ?_, fun msg' e he => ?_⟩
    · rintro _ _ _ ⟨⟩
      exact uses_sendEvent event
    · exact hs.request msg' e (by rw [hphase]; exact he)
  | @send msg event f k hphase =>
    obtain ⟨hf, hk⟩ := hs.uses msg event _ hphase
    refine ⟨((CommitSection.send hf).ddcci_eq s.device).1, ?_, fun msg' e he => ?_⟩
    · rintro _ _ _ ⟨⟩
      exact hk s.device
    · exact hs.request msg' e (by rw [hphase]; exact he)
  | @sent msg event u hphase =>
    exact ⟨rfl, (fun _ _ _ h => by cases h), fun msg' e he => hs.request msg' e (by rw [hphase]; exact he)⟩
  | @wake msg event hphase hreceived =>
    refine ⟨heldResponse_onPainter _ (fun _ => rfl) fun _ => rfl,
      (fun _ _ _ h => by cases h), fun msg' e he => ?_⟩
    exact hs.request msg' e (by rw [hphase]; exact he)
  | timeout hphase => exact ⟨rfl, (fun _ _ _ h => by cases h), fun _ _ h => by cases h⟩
  | copy hphase => exact ⟨rfl, (fun _ _ _ h => by cases h), fun _ _ h => by cases h⟩

/-- The owner's disconnect leaves no response. -/
theorem heldResponse_disconnect {file : DrmFile} {d : Device}
    (howner : d.painter.bind (·.drmFilp) = some file) :
    heldResponse (painterDisconnect file d).1 = some (none, 0) := by
  obtain ⟨p, hp, hfile⟩ := Option.bind_eq_some_iff.1 howner
  rw [painterDisconnect_owner hp hfile]
  rfl

theorem painter_of_heldResponse {d : Device} (h : heldResponse d ≠ none) : d.painter ≠ none := by
  intro hp
  exact h (by rw [heldResponse, hp]; rfl)

/-- The response that is held after a call of `DDCCI_RESPONSE`. -/
theorem CallInv.held_response (hs : s.CallInv) (user : UInt64 → UserRegion) (kzalloc : Bool)
    (cmd : DdcciResponseCmd) : heldResponse (painterDdcciResponseIoctl user kzalloc cmd s.device).1 =
      some (answerOf user kzalloc cmd, min cmd.bufferLength ddcciBufferSize) := by
  obtain ⟨p, hp⟩ := Option.ne_none_iff_exists'.1 (painter_of_heldResponse hs.painter)
  rw [heldResponse_answer, hp]
  rfl

/-- A step that leaves the response alone. -/
theorem QuietStep.held (hs : s.CallInv) {a : Call} (h : QuietStep s a t) :
    heldResponse t.device = heldResponse s.device := by
  obtain ⟨hstep, hquiet⟩ := h
  cases hstep with
  | transfer h => exact (hs.transfer h).1
  | response => exact hquiet.elim
  | disconnect => exact hquiet.elim
  | other f hf => exact hf s.device

/-- **One call** keeps what holds in every run. -/
theorem CallInv.step (hs : s.CallInv) {a : Call} (h : CallStep s a t) : t.CallInv := by
  cases h with
  | transfer h =>
    obtain ⟨hheld, huses, hrequest⟩ := hs.transfer h
    exact ⟨by rw [hheld]; exact hs.painter, by rw [ResponseSized, hheld]; exact hs.sized, huses,
      hrequest⟩
  | response user kzalloc cmd =>
    have hheld := hs.held_response user kzalloc cmd
    refine ⟨by rw [hheld]; exact Option.some_ne_none _, fun b n hb => ?_, hs.uses, hs.request⟩
    rw [hheld] at hb
    obtain ⟨hanswer, rfl⟩ := Prod.mk.inj (Option.some.inj hb)
    exact length_answerOf hanswer
  | disconnect file howner =>
    have hheld := heldResponse_disconnect howner
    refine ⟨by rw [hheld]; exact Option.some_ne_none _, fun b n hb => ?_, hs.uses, hs.request⟩
    rw [hheld] at hb
    cases hb
  | other f hf =>
    have hheld := hf s.device
    exact ⟨by rw [hheld]; exact hs.painter, by rw [ResponseSized, hheld]; exact hs.sized, hs.uses,
      hs.request⟩

theorem callInv_init (fgConsole : ℤ) (drm : DrmCore) : (init (.init fgConsole drm)).CallInv :=
  ⟨Option.some_ne_none _, (fun _ _ h => by cases h), (fun _ _ _ h => by cases h),
    fun _ _ h => by cases h⟩

/-- What is held does not change without a response or a disconnect. -/
theorem held_of_quiet (hs : s.CallInv) {as : List Call} (h : Run QuietStep s as t) :
    t.CallInv ∧ heldResponse t.device = heldResponse s.device := by
  refine h.invariant (I := fun t => t.CallInv ∧ heldResponse t.device = heldResponse s.device)
    (fun _ _ _ ht hstep => ?_) ⟨hs, rfl⟩
  exact ⟨ht.1.step hstep.1, (hstep.held ht.1).trans ht.2⟩

end Ddcci

/-! ### The copy -/

section

variable {msg : I2cMsg} {d : Device}

theorem ddcciLength_toNat (msg : I2cMsg) : (ddcciLength msg).toNat = msg.carried := by
  rw [ddcciLength, UInt16.toNat_toUInt32, UInt16.toNat_min]
  rfl

theorem responseLength_toNat (n : UInt32) : (min n ddcciBufferSize).toNat = min n.toNat 64 := by
  rw [UInt32.toNat_min]
  rfl

/-- What is copied is what is held, if it has the length expected. -/
theorem copiedResponse_of_heldResponse {response : Option (List UInt8)} {n : UInt32}
    (hheld : heldResponse d = some (response, n)) : copiedResponse msg d =
      if ddcciLength msg ≠ n then none else response.map (·.take n.toNat) := by
  obtain ⟨p, hp, hheld⟩ := Option.map_eq_some_iff.1 hheld
  obtain ⟨rfl, rfl⟩ := Prod.mk.inj hheld
  rw [copiedResponse, hp]

/-- The bytes that are copied are as many as the message carries. -/
theorem length_copiedResponse (hsized : ResponseSized d) {bytes : List UInt8}
    (h : copiedResponse msg d = some bytes) : bytes.length = msg.carried := by
  cases hheld : heldResponse d with
  | none =>
    rw [heldResponse, Option.map_eq_none_iff] at hheld
    simp [copiedResponse, hheld] at h
  | some held =>
    obtain ⟨response, n⟩ := held
    rw [copiedResponse_of_heldResponse hheld] at h
    split_ifs at h with hlength
    obtain ⟨b, rfl, rfl⟩ := Option.map_eq_some_iff.1 h
    rw [List.length_take, hsized b n hheld, min_self, ← not_ne_iff.1 hlength, ddcciLength_toNat]

/-- **The copy** does not touch the bytes behind those that the message carries. -/
theorem drop_bufAfter (hsized : ResponseSized d) :
    (msg.bufAfter d).drop msg.carried = msg.buf.drop msg.carried := by
  unfold I2cMsg.bufAfter
  cases hcopied : copiedResponse msg d with
  | none => rfl
  | some bytes =>
    rw [← length_copiedResponse hsized hcopied]
    exact List.drop_left

/-- Without a response the message is left alone. -/
theorem bufAfter_of_none {n : UInt32} (h : heldResponse d = some (none, n)) :
    msg.bufAfter d = msg.buf := by
  have hcopied : copiedResponse msg d = none := by
    rw [copiedResponse_of_heldResponse h, Option.map_none, ite_self]
  rw [I2cMsg.bufAfter, hcopied]

/-- A response that is held is moved. -/
theorem moved_of_held {user : UInt64 → UserRegion} {kzalloc : Bool} {cmd : DdcciResponseCmd}
    {b : List UInt8} (hanswer : Ddcci.answerOf user kzalloc cmd = some b)
    (hheld : heldResponse d = some (some b, min cmd.bufferLength ddcciBufferSize)) :
    Moved msg user cmd (msg.bufAfter d) := by
  have hlength := length_answerOf hanswer
  have hcopied := @copiedResponse_of_heldResponse msg _ _ _ hheld
  rw [Option.map_some, List.take_of_length_le hlength.le] at hcopied
  have hexpected : ddcciLength msg = min cmd.bufferLength ddcciBufferSize ↔
      min cmd.bufferLength.toNat 64 = msg.carried := by
    rw [← UInt32.toNat_inj, ddcciLength_toNat, responseLength_toNat, eq_comm]
  unfold Moved
  split_ifs with hsame
  · rw [if_neg (not_not.2 (hexpected.2 hsame))] at hcopied
    rw [responseLength_toNat, hsame] at hlength
    have hbytes : b = (List.range msg.carried).map fun i : ℕ => (user cmd.buffer).byte i := by
      unfold Ddcci.answerOf at hanswer
      split_ifs at hanswer
      rw [copyFromUser_eq hanswer, responseLength_toNat, hsame]
    rw [I2cMsg.bufAfter, hcopied, ← hbytes, ← hlength]
  · rw [if_pos fun h => hsame (hexpected.1 h)] at hcopied
    rw [I2cMsg.bufAfter, hcopied]

end

namespace Ddcci

/-! ### Runs -/

variable {s t : Ddcci}

/-- The event of a transfer has the bytes that the message carries, and their number. -/
theorem CallInv.event (hs : s.CallInv) {msg : I2cMsg} {e : PendingEvent}
    (h : s.phase.request = some (msg, some e)) : ∃ length : UInt32, length.toNat = msg.carried ∧
      e.event = .ddcciData (msg.buf.take msg.carried) length msg.flags msg.addr := by
  refine ⟨ddcciLength msg, ddcciLength_toNat msg, ?_⟩
  rw [hs.request msg e h, ddcciDataEvent, ddcciLength_toNat]

/-- What is held when the last response has been followed by quiet steps only. -/
theorem CallInv.held_of_lastCall (hs : s.CallInv) {user : UInt64 → UserRegion} {kzalloc : Bool}
    {cmd : DdcciResponseCmd} (h : s.LastCall (.response user kzalloc cmd) t) :
    heldResponse t.device =
      some (answerOf user kzalloc cmd, min cmd.bufferLength ddcciBufferSize) := by
  obtain ⟨s', hstep, as, hquiet⟩ := h
  rw [(held_of_quiet (hs.step hstep) hquiet).2]
  cases hstep with
  | response => exact hs.held_response user kzalloc cmd

/-- **The bytes of a DDC/CI transfer**, in every run from a fresh device:

* a response that is held has the length noted for it, and the event of a transfer has the first bytes
  of its message and their number;
* when a transfer takes the painter lock, a successful response that nothing has replaced is moved to the
  message, and after a failed one or a disconnect the message is left alone;
* the copy does not touch the other bytes of the message. -/
theorem ddcci_bytes {fgConsole : ℤ} {drm : DrmCore} {as : List Call}
    (h : Run CallStep (init (.init fgConsole drm)) as s) :
    ResponseSized s.device ∧
    (∀ msg e, s.phase.request = some (msg, some e) → ∃ length : UInt32, length.toNat = msg.carried ∧
      e.event = .ddcciData (msg.buf.take msg.carried) length msg.flags msg.addr) ∧
    (∀ msg : I2cMsg, (msg.bufAfter s.device).drop msg.carried = msg.buf.drop msg.carried) ∧
    (∀ user kzalloc cmd t, s.LastCall (.response user kzalloc cmd) t → ∀ msg event,
      t.phase = .woken msg event → if (answerOf user kzalloc cmd).isSome
        then Moved msg user cmd (msg.bufAfter t.device) else msg.bufAfter t.device = msg.buf) ∧
    ∀ file t, s.LastCall (.disconnect file) t → ∀ msg event, t.phase = .woken msg event →
      msg.bufAfter t.device = msg.buf := by
  have hs : s.CallInv := h.invariant (I := CallInv) (fun _ _ _ hs hstep => hs.step hstep)
    (callInv_init fgConsole drm)
  refine ⟨hs.sized, fun msg e => hs.event, fun msg => drop_bufAfter hs.sized,
    fun user kzalloc cmd t hlast msg event _ => ?_, fun file t hlast msg event _ => ?_⟩
  · have hheld := hs.held_of_lastCall hlast
    cases hanswer : answerOf user kzalloc cmd with
    | none =>
      rw [hanswer] at hheld
      exact bufAfter_of_none hheld
    | some b =>
      rw [hanswer] at hheld
      exact moved_of_held hanswer hheld
  · obtain ⟨s', hstep, as, hquiet⟩ := hlast
    have hheld := (held_of_quiet (hs.step hstep) hquiet).2
    cases hstep with
    | disconnect _ howner => exact bufAfter_of_none (hheld.trans (heldResponse_disconnect howner))

/-! ### Two responses -/

/-- Connecting keeps the response. -/
theorem heldResponse_connect (user : UInt64 → UserRegion) (ans : ConnectAnswers) {cmd : ConnectCmd}
    (hcmd : cmd.connected ≠ 0) (file : DrmFile) (d : Device) :
    heldResponse (painterConnectIoctl user ans cmd file d).1 = heldResponse d := by
  rcases painterConnectIoctl_cases user ans cmd file d with ⟨err, heq, -⟩ |
    ⟨edid, -, -, -, -, heq⟩ | ⟨hzero, -⟩
  · rw [heq]
  · rw [heq]
    exact heldResponse_onPainter d (fun _ => rfl) fun _ => rfl
  · exact absurd hzero hcmd

/-- A device without a client, and no transfer under way. -/
def sampleFresh : Ddcci := init (.init 0 (.init (.const true) (.const true)))

/-- The transfer of the sample message, waiting. -/
def sampleWaiting : Ddcci :=
  { init sampleDevice with
    device := requested sampleMsg sampleDevice
    phase := .waiting sampleMsg (some (sampleRequest 0)) }

theorem run_sampleWaiting : ∃ as, Run CallStep sampleFresh as sampleWaiting := by
  obtain ⟨as, hrequest⟩ := @run_request sampleMsg (init sampleDevice) rfl rfl
  have hcalls : Run CallStep (init sampleDevice) _ sampleWaiting :=
    hrequest.map id (fun _ => .transfer) fun _ _ _ hstep => .transfer hstep
  have hconnect : CallStep sampleFresh .other (init sampleDevice) :=
    .other (fun d => (painterConnectIoctl (fun _ => sampleUser 0) ⟨true, true⟩ .sample 1 d).1)
      fun d => heldResponse_connect _ _ (by decide) 1 d
  exact ⟨_, (Run.one hconnect).append hcalls⟩

/-- A response of one byte. -/
def sampleResponse (b : UInt8) : Call := .response (fun _ => sampleUser b) true ⟨0, 1, 1⟩

/-- The client responds once, and its byte is moved. -/
theorem ddcci_bytes_once : ∃ as s t, Run CallStep sampleFresh as s ∧
    s.LastCall (sampleResponse 7) t ∧ t.phase = .woken sampleMsg (some (sampleRequest 0)) ∧
    Moved sampleMsg (fun _ => sampleUser 7) ⟨0, 1, 1⟩ (sampleMsg.bufAfter t.device) := by
  obtain ⟨as, hrun⟩ := run_sampleWaiting
  have hlast : sampleWaiting.LastCall (sampleResponse 7) _ :=
    ⟨_, .response _ true ⟨0, 1, 1⟩, _, .one ⟨.transfer (.wake rfl (by decide +kernel)), trivial⟩⟩
  exact ⟨as, _, _, hrun, hlast, rfl, (ddcci_bytes hrun).2.2.2.1 _ _ _ _ hlast _ _ rfl⟩

/-- The response that ends the wait is replaced before the transfer takes the painter lock. -/
theorem first_response_replaced : ∃ as s t u v, Run CallStep sampleFresh as s ∧
    s.phase = .waiting sampleMsg (some (sampleRequest 0)) ∧ responseReceived s.device = false ∧
    CallStep s (sampleResponse 7) t ∧ CallStep t .transfer u ∧
    u.phase = .woken sampleMsg (some (sampleRequest 0)) ∧ CallStep u (sampleResponse 8) v ∧
    v.phase = .woken sampleMsg (some (sampleRequest 0)) ∧ sampleMsg.bufAfter v.device = [8] ∧
    ¬ Moved sampleMsg (fun _ => sampleUser 7) ⟨0, 1, 1⟩ (sampleMsg.bufAfter v.device) := by
  obtain ⟨as, hrun⟩ := run_sampleWaiting
  refine ⟨as, _, _, _, _, hrun, rfl, by decide +kernel, .response _ true ⟨0, 1, 1⟩,
    .transfer (.wake rfl (by decide +kernel)), rfl, .response _ true ⟨0, 1, 1⟩, rfl, by decide +kernel,
    fun hmoved => ?_⟩
  rw [Moved, if_pos (by decide +kernel)] at hmoved
  exact absurd hmoved (by decide +kernel)

end Ddcci

end Evdi
