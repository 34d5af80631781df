import Evdi.Properties.DdcciBytes

/-!
# What the i2c bus is told

`dli2c_access_master` of `evdi_i2c.c` hands its messages on one by one and counts those that
`evdi_painter_i2c_data_notify` has taken.  The painter takes a message whatever becomes of it, and nobody
looks at the `result` of a response.

* `I2cMaster`: a call of `dli2c_access_master` around the transfers of `Ddcci`, with what became of the
  messages so far;
* `I2cMaster.Inv`: a message's buffer is what the response in force makes of it, whatever its `result`;
* `I2cMaster.failure_visible_iff`: failures are visible and harmless if and only if there are none.
-/

namespace Evdi

open Atomic Bytes Transition

/-! ### Calls of the bus -/

/-- A response that the painter holds: `cmd->result`, and the bytes it has copied. -/
structure HeldResponse where
  result : Bool
  bytes : List UInt8
  deriving DecidableEq

/-- The response that is held after a call of `DDCCI_RESPONSE`, if any. -/
def HeldResponse.ofCall (user : UInt64 → UserRegion) (kzalloc : Bool) (cmd : DdcciResponseCmd) :
    Option HeldResponse :=
  (Ddcci.answerOf user kzalloc cmd).map fun bytes => ⟨cmd.result ≠ 0, bytes⟩

/-- What became of a message: `taken` if `evdi_painter_i2c_data_notify` passed it on, the response in
force when its transfer took the painter lock, and its buffer afterwards. -/
structure I2cOutcome where
  msg : I2cMsg
  taken : Bool
  response : Option HeldResponse
  buf : List UInt8

/-- The message was answered: with success, and with as many bytes as it carries. -/
def I2cOutcome.answered (o : I2cOutcome) : Bool :=
  o.taken && o.response.any fun r => r.result && r.bytes.length == o.msg.carried

/-- The state of `dli2c_access_master`: the transfer of its current message, the messages that are left,
its `result`, and what became of the others. `response` is the last response, unless it failed or the
client has disconnected since. -/
structure I2cMaster where
  ddcci : Ddcci
  left : List I2cMsg
  result : ℕ
  done : List I2cOutcome
  response : Option HeldResponse

namespace I2cMaster

/-- What may happen. -/
inductive Action
  | accessMaster (msgs : List I2cMsg)
  | transfer
  | response (user : UInt64 → UserRegion) (kzalloc : Bool) (cmd : DdcciResponseCmd)
  | disconnect (file : DrmFile)
  | other

/-- A device without a client, before any call. -/
def init (fgConsole : ℤ) (drm : DrmCore) : I2cMaster :=
  ⟨.init (.init fgConsole drm), [], 0, [], none⟩

/-- The current message is disposed of: the next turn of the loop. -/
def next (ddcci : Ddcci) (rest : List I2cMsg) (o : I2cOutcome) (s : I2cMaster) : I2cMaster where
  ddcci := ddcci
  left := rest
  result := if o.taken then s.result + 1 else s.result
  done := s.done ++ [o]
  response := s.response

/-- One step: of `dli2c_access_master` and of the transfer of its current message, up to a timeout or to
the copy; or a response of any client, the owner's disconnect, or something that leaves the response
alone. -/
inductive Step : I2cMaster → Action → I2cMaster → Prop
  | accessMaster {s : I2cMaster} (msgs : List I2cMsg) : s.left = [] → s.ddcci.phase = .idle →
      Step s (.accessMaster msgs) { s with left := msgs, result := 0, done := [] }
  | ignored {s : I2cMaster} {msg : I2cMsg} {rest : List I2cMsg} : s.left = msg :: rest →
      s.ddcci.phase = .idle → i2cDataAccepted msg s.ddcci.device = false →
      Step s .transfer (s.next s.ddcci rest ⟨msg, false, none, msg.buf⟩)
  | start {s : I2cMaster} {msg : I2cMsg} {rest : List I2cMsg} : s.left = msg :: rest →
      s.ddcci.phase = .idle → i2cDataAccepted msg s.ddcci.device = true →
      Step s .transfer { s with
        ddcci := { s.ddcci with
          device := (createEvent (ddcciDataEvent msg) s.ddcci.device).1
          phase := .created msg (createEvent (ddcciDataEvent msg) s.ddcci.device).2 } }
  | goOn {s : I2cMaster} {t : Ddcci} : Ddcci.Step s.ddcci .transfer t → s.ddcci.phase ≠ .idle →
      t.phase ≠ .idle → Step s .transfer { s with ddcci := t }
  | timeout {s : I2cMaster} {msg : I2cMsg} {rest : List I2cMsg} {event : Option PendingEvent} :
      s.left = msg :: rest → s.ddcci.phase = .waiting msg event →
      Step s .transfer
        (s.next { s.ddcci with phase := .idle } rest ⟨msg, true, none, msg.buf⟩)
  | copy {s : I2cMaster} {msg : I2cMsg} {rest : List I2cMsg} {event : Option PendingEvent} :
      s.left = msg :: rest → s.ddcci.phase = .woken msg event →
      Step s .transfer
        (s.next
          { s.ddcci with
            phase := .idle
            copied := s.ddcci.copied ++
              ((copiedResponse msg s.ddcci.device).map (event, ·)).toList }
          rest ⟨msg, true, s.response, msg.bufAfter s.ddcci.device⟩)
  | response {s : I2cMaster} (user : UInt64 → UserRegion) (kzalloc : Bool) (cmd : DdcciResponseCmd) :
      Step s (.response user kzalloc cmd) { s with
        ddcci := { s.ddcci with
          device := (painterDdcciResponseIoctl user kzalloc cmd s.ddcci.device).1 }
        response := HeldResponse.ofCall user kzalloc cmd }
  | disconnect {s : I2cMaster} (file : DrmFile) :
      s.ddcci.device.painter.bind (·.drmFilp) = some file →
      Step s (.disconnect file) { s with
        ddcci := { s.ddcci with device := (painterDisconnect file s.ddcci.device).1 }
        response := none }
  | other {s : I2cMaster} (f : Device → Device) : (∀ d, heldResponse (f d) = heldResponse d) →
      Step s .other { s with ddcci := { s.ddcci with device := f s.ddcci.device } }

/-! ### Messages and responses -/

/-- A message's buffer, when the response is in force at the copy: the `result` plays no part. -/
def bufWith (msg : I2cMsg) : Option HeldResponse → List UInt8
  | none => msg.buf
  | some r => if r.bytes.length = msg.carried then r.bytes ++ msg.buf.drop msg.carried else msg.buf

/-- What is known of a message that has been disposed of. -/
structure Sound (o : I2cOutcome) : Prop where
  buf_eq : o.buf = bufWith o.msg o.response
  ignored : o.taken = false → o.response = none

/-- What holds in every run: the response is the one that the painter holds, and `result` counts the
messages that were taken. -/
structure Inv (s : I2cMaster) : Prop where
  call : s.ddcci.CallInv
  held : ∃ n, heldResponse s.ddcci.device = some (s.response.map (·.bytes), n)
  result_eq : s.result = (s.done.filter (·.taken)).length
  sound : ∀ o ∈ s.done, Sound o

variable {s t : I2cMaster}

/-- The copy, in terms of the response in force. -/
theorem bufAfter_of_held {msg : I2cMsg} {d : Device} {response : Option HeldResponse} {n : UInt32}
    (hsized : ResponseSized d) (h : heldResponse d = some (response.map (·.bytes), n)) :
    msg.bufAfter d = bufWith msg response := by
  cases response with
  | none => exact bufAfter_of_none h
  | some r =>
    have hlength : r.bytes.length = n.toNat := hsized _ _ h
    have hexpected : ddcciLength msg = n ↔ r.bytes.length = msg.carried := by
      rw [← UInt32.toNat_inj, ddcciLength_toNat, hlength, eq_comm]
    have hcopied := @copiedResponse_of_heldResponse msg _ _ _ h
    rw [Option.map_some, Option.map_some, List.take_of_length_le hlength.le] at hcopied
    rw [bufWith]
    split_ifs with hsame
    · rw [if_neg (not_not.2 (hexpected.2 hsame))] at hcopied
      rw [I2cMsg.bufAfter, hcopied, ← hsame]
    · rw [if_pos fun heq => hsame (hexpected.1 heq)] at hcopied
      rw [I2cMsg.bufAfter, hcopied]

/-- A message is disposed of. -/
theorem Inv.next (h : s.Inv) {ddcci : Ddcci} (rest : List I2cMsg) {o : I2cOutcome}
    (hcall : ddcci.CallInv) (hheld : heldResponse ddcci.device = heldResponse s.ddcci.device)
    (ho : Sound o) : (s.next ddcci rest o).Inv where
  call := hcall
  held := by
    obtain ⟨n, hn⟩ := h.held
    exact ⟨n, hheld.trans hn⟩
  result_eq := by
    rw [I2cMaster.next]
    dsimp only
    rw [h.result_eq, List.filter_append, List.length_append]
    cases htaken : o.taken <;> simp [htaken]
  sound := by
    intro o' ho'
    rcases List.mem_append.1 ho' with ho' | ho'
    · exact h.sound o' ho'
    · rw [List.mem_singleton.1 ho']
      exact ho

/-- Steps of the transfer under way. -/
theorem Inv.inTransfer (h : s.Inv) {ddcci : Ddcci} (hstep : Ddcci.Step s.ddcci .transfer ddcci) :
    ddcci.CallInv ∧ heldResponse ddcci.device = heldResponse s.ddcci.device :=
  ⟨h.call.step (.transfer hstep), (h.call.transfer hstep).1⟩

/-- **The step lemma.** -/
theorem Inv.step (h : s.Inv) {a : Action} (hstep : Step s a t) : t.Inv := by
  cases hstep with
  | accessMaster msgs hleft hphase => exact ⟨h.call, h.held, rfl, fun o ho => by cases ho⟩
  | ignored hleft hphase hrefused => exact h.next _ h.call rfl ⟨rfl, fun _ => rfl⟩
  | start hleft hphase haccepted =>
    obtain ⟨hcall, hheld⟩ := h.inTransfer (.begin hphase haccepted)
    exact ⟨hcall, by rw [hheld]; exact h.held, h.result_eq, h.sound⟩
  | goOn htransfer hbefore hafter =>
    obtain ⟨hcall, hheld⟩ := h.inTransfer htransfer
    exact ⟨hcall, by rw [hheld]; exact h.held, h.result_eq, h.sound⟩
  | timeout hleft hphase =>
    obtain ⟨hcall, hheld⟩ := h.inTransfer (.timeout hphase)
    exact h.next _ hcall hheld ⟨rfl, fun htaken => by cases htaken⟩
  | copy hleft hphase =>
    obtain ⟨hcall, hheld⟩ := h.inTransfer (.copy hphase)
    obtain ⟨n, hn⟩ := h.held
    exact h.next _ hcall hheld ⟨bufAfter_of_held h.call.sized hn, fun htaken => by cases htaken⟩
  | response user kzalloc cmd =>
    refine ⟨h.call.step (.response user kzalloc cmd),
      ⟨min cmd.bufferLength ddcciBufferSize, ?_⟩, h.result_eq, h.sound⟩
    rw [h.call.held_response user kzalloc cmd, HeldResponse.ofCall, Option.map_map]
    simp only [Function.comp_def, Option.map_id']
  | disconnect file howner =>
    exact ⟨h.call.step (.disconnect file howner), ⟨0, Ddcci.heldResponse_disconnect howner⟩,
      h.result_eq, h.sound⟩
  | other f hf =>
    obtain ⟨n, hn⟩ := h.held
    exact ⟨h.call.step (.other f hf), ⟨n, (hf _).trans hn⟩, h.result_eq, h.sound⟩

theorem inv_init (fgConsole : ℤ) (drm : DrmCore) : (init fgConsole drm).Inv where
  call := Ddcci.callInv_init fgConsole drm
  held := ⟨0, rfl⟩
  result_eq := rfl
  sound := fun o ho => by cases ho

/-! ### The result -/

/-- Failures are visible and harmless: a response with a `result` of false leaves its message's buffer
alone, and the messages counted are no more than those answered. -/
structure FailureVisible (s : I2cMaster) : Prop where
  harmless : ∀ o ∈ s.done, ∀ r, o.response = some r → r.result = false → o.buf = o.msg.buf
  counted : s.result ≤ (s.done.filter (·.answered)).length

/-- Where one predicate implies another, no fewer satisfy the first only if it is implied in turn. -/
theorem length_filter_le_iff {α : Type*} {p q : α → Bool} (hpq : ∀ x, q x = true → p x = true)
    (l : List α) :
    (l.filter p).length ≤ (l.filter q).length ↔ ∀ x ∈ l, p x = true → q x = true := by
  have hle : ∀ l : List α, (l.filter q).length ≤ (l.filter p).length := by
    intro l
    rw [← List.countP_eq_length_filter, ← List.countP_eq_length_filter]
    exact List.countP_mono_left fun x _ => hpq x
  induction l with
  | nil => simp
  | cons x l ih =>
    have hrest := hle l
    have hx := hpq x
    simp only [List.forall_mem_cons, ← ih, List.filter_cons]
    cases hp : p x <;> cases hq : q x <;> simp_all

theorem taken_of_answered (o : I2cOutcome) (h : o.answered = true) : o.taken = true := by
  rw [I2cOutcome.answered, Bool.and_eq_true] at h
  exact h.1

/-- **Failures are visible and harmless** if and only if there are none: each message that is taken has
been answered in time, with a `result` of true and the length that it carries. -/
theorem failure_visible_iff {fgConsole : ℤ} {drm : DrmCore} {as : List Action} {s : I2cMaster}
    (hrun : Run Step (init fgConsole drm) as s) :
    s.FailureVisible ↔ ∀ o ∈ s.done, o.taken = true → o.answered = true := by
  have hinv : s.Inv := hrun.invariant (I := Inv) (fun _ _ _ h hstep => h.step hstep)
    (inv_init fgConsole drm)
  have hcount := length_filter_le_iff taken_of_answered s.done
  rw [← hinv.result_eq] at hcount
  refine ⟨fun h => hcount.1 h.counted, fun hall => ⟨fun o ho r hr hfalse => ?_, hcount.2 hall⟩⟩
  have hsound := hinv.sound o ho
  cases htaken : o.taken with
  | false =>
    rw [hsound.ignored htaken] at hr
    cases hr
  | true =>
    have hanswered := hall o ho htaken
    simp [I2cOutcome.answered, hr, hfalse] at hanswered

/-! ### Two sample calls -/

/-- The steps of a transfer without interference. -/
theorem Run.inner {s : I2cMaster} {t : Ddcci} {as : List Unit}
    (h : Run Ddcci.InnerStep s.ddcci as t) :
    Run Step s (as.map fun _ => .transfer) { s with ddcci := t } :=
  h.map (fun ddcci => { s with ddcci }) _ fun _ _ _ hstep => .goOn hstep.1 hstep.2.1 hstep.2.2

/-- A call with the sample message, waiting for a response. -/
def sampleWaiting : I2cMaster where
  ddcci := Ddcci.sampleWaiting
  left := [Ddcci.sampleMsg]
  result := 0
  done := []
  response := none

theorem run_sampleWaiting : ∃ as, Run Step (init 0 (.init (.const true) (.const true))) as
    sampleWaiting := by
  have hconnect := Run.one (Step.other (s := init 0 (.init (.const true) (.const true)))
    (fun d => (painterConnectIoctl (fun _ => sampleUser 0) ⟨true, true⟩ .sample 1 d).1)
    fun d => Ddcci.heldResponse_connect _ _ (by decide) 1 d)
  let created : Ddcci :=
    { Ddcci.init Ddcci.sampleDevice with
      device := (createEvent (ddcciDataEvent Ddcci.sampleMsg) Ddcci.sampleDevice).1
      phase := .created Ddcci.sampleMsg (some (Ddcci.sampleRequest 0)) }
  have hstart : Run Step _ _ { sampleWaiting with ddcci := created } :=
    (hconnect.snoc (.accessMaster [Ddcci.sampleMsg] rfl rfl)).snoc (.start rfl rfl (by decide +kernel))
  obtain ⟨as, hinner⟩ := @Ddcci.run_created Ddcci.sampleMsg (some (Ddcci.sampleRequest 0)) created
  exact ⟨_, hstart.append (Run.inner (s := { sampleWaiting with ddcci := created }) hinner)⟩

/-- The rest of the call, when the client responds with one byte. -/
theorem run_sampleResponse (b result : UInt8) : ∃ as t, Run Step (init 0 (.init (.const true)
      (.const true))) as t ∧ t.result = 1 ∧
    t.done = [⟨Ddcci.sampleMsg, true, some ⟨result ≠ 0, [b]⟩, [b]⟩] := by
  obtain ⟨as, hrun⟩ := run_sampleWaiting
  have hresponse := hrun.snoc (.response (fun _ => sampleUser b) true ⟨0, 1, result⟩)
  have hreceived := responseReceived_answer
    (show Ddcci.answerOf (fun _ => sampleUser b) true ⟨0, 1, result⟩ = some [b] from rfl)
    (show sampleWaiting.ddcci.device.painter ≠ none from fun h => by cases h)
  have hwoken := hresponse.snoc
    (.goOn (.wake rfl hreceived) (fun h => by cases h) (fun h => by cases h))
  have hcopied := hwoken.snoc (.copy rfl rfl)
  exact ⟨_, _, hcopied, rfl, rfl⟩

/-- The client succeeds. -/
theorem failure_visible_success : ∃ as s, Run Step (init 0 (.init (.const true) (.const true))) as s ∧
    s.result = 1 ∧ s.FailureVisible := by
  obtain ⟨as, s, hrun, hresult, hdone⟩ := run_sampleResponse 7 1
  refine ⟨as, s, hrun, hresult, (failure_visible_iff hrun).2 fun o ho _ => ?_⟩
  rw [hdone, List.mem_singleton] at ho
  subst ho
  decide +kernel

/-- The client fails, and passes in a byte: the byte is copied, and the message counted. -/
theorem failed_response_copied : ∃ as s, Run Step (init 0 (.init (.const true) (.const true))) as s ∧
    s.done = [⟨Ddcci.sampleMsg, true, some ⟨false, [8]⟩, [8]⟩] ∧ s.result = 1 ∧
    ¬ s.FailureVisible := by
  obtain ⟨as, s, hrun, hresult, hdone⟩ := run_sampleResponse 8 0
  refine ⟨as, s, hrun, hdone, hresult, fun hvisible => ?_⟩
  have hbuf := hvisible.harmless ⟨Ddcci.sampleMsg, true, some ⟨false, [8]⟩, [8]⟩
    (by rw [hdone]; exact List.mem_singleton_self _) _ rfl rfl
  exact absurd hbuf (by decide)

end I2cMaster

end Evdi
