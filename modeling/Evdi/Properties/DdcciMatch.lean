import Evdi.Model.Ddcci
import Evdi.Properties.Lifecycle

/-!
# Responses and requests

A response carries no sign of the request it answers: it completes whatever transfer is waiting.  The
`reinit_completion` at the start of a transfer discards the responses that came before it; a response to
an older request that comes later is taken for the transfer's own.

* `Ddcci.Timely`: while a transfer is under way, only its own request is answered;
* `Ddcci.Inv`: the invariant of timely runs, "what a transfer would copy is the answer to its request";
* `Ddcci.responses_match`: the result.
-/

namespace Evdi

open Atomic Bytes Transition

/-! ### What a transfer looks at -/

/-- The response that the painter holds, with its length. -/
def heldResponse (d : Device) : Option (Option (List UInt8) × UInt32) :=
  d.painter.map fun p => (p.ddcciBuffer, p.ddcciBufferLength)

/-- The response is an answer to `event`, and as long as its length says. -/
def OwnResponse (answers : List (PendingEvent × List UInt8)) (event : Option PendingEvent)
    (d : Device) : Prop :=
  ∀ b n, heldResponse d = some (some b, n) →
    b.length = n.toNat ∧ ∃ r, event = some r ∧ (r, b) ∈ answers

theorem heldResponse_onPainter {f : Painter → Painter} (d : Device)
    (hb : ∀ p, (f p).ddcciBuffer = p.ddcciBuffer)
    (hl : ∀ p, (f p).ddcciBufferLength = p.ddcciBufferLength) :
    heldResponse (d.onPainter f) = heldResponse d := by
  cases h : d.painter <;> simp [heldResponse, h, hb, hl]

/-- A commit keeps what a transfer looks at. -/
theorem CommitSection.ddcci_eq {f : Device → Device} (h : CommitSection f) (d : Device) :
    heldResponse (f d) = heldResponse d ∧ responseReceived (f d) = responseReceived d := by
  have hview := h.painter_eq (v := fun p =>
      ((p.ddcciBuffer, p.ddcciBufferLength), p.ddcciResponseReceived))
    (fun p q hcore => ?_) (fun p r => ?_) (fun _ _ => rfl) d
  · have hheld : ∀ d : Device, heldResponse d = (d.painter.map fun p =>
        ((p.ddcciBuffer, p.ddcciBufferLength), p.ddcciResponseReceived)).map (·.1) := by
      intro d
      cases hp : d.painter <;> simp [heldResponse, hp]
    have hreceived : ∀ d : Device, responseReceived d = (d.painter.map fun p =>
        ((p.ddcciBuffer, p.ddcciBufferLength), p.ddcciResponseReceived)).any (0 < ·.2) := by
      intro d
      cases hp : d.painter <;> simp [responseReceived, hp]
    rw [hheld, hheld, hreceived, hreceived, hview]
    exact ⟨rfl, rfl⟩
  · have hread : ∀ p : Painter, ((p.ddcciBuffer, p.ddcciBufferLength), p.ddcciResponseReceived) =
        ((p.core.ddcciBuffer, p.core.ddcciBufferLength), p.core.ddcciResponseReceived) :=
      fun _ => rfl
    rw [hread p, hread q, hcore]
  · unfold Painter.markDirty
    cases p.scanoutFb <;> rfl

/-- A call of `DDCCI_RESPONSE` replaces the response, by nothing when it fails. -/
theorem heldResponse_answer (user : UInt64 → UserRegion) (kzalloc : Bool) (cmd : DdcciResponseCmd)
    (d : Device) : heldResponse (painterDdcciResponseIoctl user kzalloc cmd d).1 =
      d.painter.map fun _ =>
        (Ddcci.answerOf user kzalloc cmd, min cmd.bufferLength ddcciBufferSize) := by
  unfold painterDdcciResponseIoctl Ddcci.answerOf
  cases kzalloc with
  | false => simp [heldResponse, Function.comp_def]
  | true =>
    cases hcopy : copyFromUser (user cmd.buffer) (min cmd.bufferLength ddcciBufferSize).toNat <;>
      simp [heldResponse, hcopy, Function.comp_def]

theorem length_answerOf {user : UInt64 → UserRegion} {kzalloc : Bool} {cmd : DdcciResponseCmd}
    {b : List UInt8} (h : Ddcci.answerOf user kzalloc cmd = some b) :
    b.length = (min cmd.bufferLength ddcciBufferSize).toNat := by
  unfold Ddcci.answerOf at h
  split_ifs at h
  exact length_copyFromUser h

theorem responseReceived_answer {user : UInt64 → UserRegion} {kzalloc : Bool} {cmd : DdcciResponseCmd}
    {b : List UInt8} {d : Device} (h : Ddcci.answerOf user kzalloc cmd = some b)
    (hp : d.painter ≠ none) :
    responseReceived (painterDdcciResponseIoctl user kzalloc cmd d).1 = true := by
  obtain ⟨p, hp⟩ := Option.ne_none_iff_exists'.1 hp
  unfold Ddcci.answerOf at h
  split_ifs at h with hk
  simp [painterDdcciResponseIoctl, hk, h, responseReceived, hp]

theorem copiedResponse_of_held {msg : I2cMsg} {d : Device} {b : List UInt8} {n : UInt32}
    (h : heldResponse d = some (some b, n)) (hlength : b.length = n.toNat)
    (hexpected : ddcciLength msg = n) : copiedResponse msg d = some b := by
  obtain ⟨p, hp, hheld⟩ := Option.map_eq_some_iff.1 h
  simp only [Prod.mk.injEq] at hheld
  obtain ⟨hb, hn⟩ := hheld
  simp only [copiedResponse, hp, hb, hn, hexpected, ne_eq, not_true_eq_false, if_false, Option.map_some]
  rw [List.take_of_length_le hlength.le]

/-! ### Timely runs -/

/-- The request of the transfer under way, after its `reinit_completion`. -/
def DdcciPhase.underWay : DdcciPhase → Option (Option PendingEvent)
  | .sending _ event _ => some event
  | .waiting _ event => some event
  | .woken _ event => some event
  | _ => none

namespace Ddcci

/-- While a transfer is under way, only its own request is answered. -/
def Timely (s : Ddcci) : Action → Prop
  | .answer request bytes =>
    bytes.isSome → ∀ event, s.phase.underWay = some event → event = some request
  | _ => True

/-- The invariant of timely runs: nobody has responded since the transfer under way started, or what
the painter holds is the response to it. -/
structure Inv (s : Ddcci) : Prop where
  uses : ∀ msg event rest, s.phase = .sending msg event rest → rest.Uses SendSection
  own : ∀ event, s.phase.underWay = some event →
    ((∀ msg event, s.phase ≠ .woken msg event) ∧ responseReceived s.device = false) ∨
      OwnResponse s.answers event s.device
  copied : ∀ event b, (event, b) ∈ s.copied → ∃ r, event = some r ∧ (r, b) ∈ s.answers

/-- What is copied of an own response is all of it. -/
theorem copiedResponse_own {msg : I2cMsg} {d : Device} {b : List UInt8}
    {answers : List (PendingEvent × List UInt8)} {event : Option PendingEvent}
    (hown : OwnResponse answers event d) (h : copiedResponse msg d = some b) :
    ∃ r, event = some r ∧ (r, b) ∈ answers := by
  unfold copiedResponse at h
  cases hp : d.painter with
  | none => simp [hp] at h
  | some p =>
    simp only [hp] at h
    split_ifs at h
    obtain ⟨b', hb', rfl⟩ := Option.map_eq_some_iff.1 h
    obtain ⟨hlength, hanswer⟩ := hown b' p.ddcciBufferLength (by simp [heldResponse, hp, hb'])
    rwa [List.take_of_length_le hlength.le]

/-- A step that keeps what a transfer looks at, and the transfer's request. -/
theorem Inv.keeps {s t : Ddcci} (h : s.Inv) (hheld : heldResponse t.device = heldResponse s.device)
    (hreceived : responseReceived t.device = responseReceived s.device)
    (huses : ∀ msg event rest, t.phase = .sending msg event rest → rest.Uses SendSection)
    (hphase : ∀ event, t.phase.underWay = some event → s.phase.underWay = some event ∧
      ((∀ msg event, s.phase ≠ .woken msg event) → ∀ msg event, t.phase ≠ .woken msg event))
    (hanswers : t.answers = s.answers) (hcopied : t.copied = s.copied) : t.Inv where
  uses := huses
  own event hevent := by
    obtain ⟨hsame, hwoken⟩ := hphase event hevent
    rcases h.own event hsame with ⟨hasleep, hnone⟩ | hown
    · exact .inl ⟨hwoken hasleep, hreceived.trans hnone⟩
    · refine .inr fun b n hb => ?_
      rw [hanswers]
      exact hown b n (hheld ▸ hb)
  copied := by
    rw [hanswers, hcopied]
    exact h.copied

theorem uses_sendEvent (event : Option PendingEvent) : (painterSendEvent event).Uses SendSection := by
  cases event with
  | none => exact Prog.uses_pure _
  | some e => exact flushKinds_sendSection.sendEvent (.add e) (.cancel e)

theorem createEvent_painter (event : Event) (d : Device) :
    (createEvent event d).1.painter = d.painter := by
  unfold createEvent
  split_ifs <;> rfl

/-- A client that answers while a transfer is under way answers its request. -/
theorem Inv.answer {s : Ddcci} (h : s.Inv) {request : PendingEvent} (user : UInt64 → UserRegion)
    (kzalloc : Bool) (cmd : DdcciResponseCmd)
    (htimely : s.Timely (.answer request (answerOf user kzalloc cmd))) :
    Inv { s with
      device := (painterDdcciResponseIoctl user kzalloc cmd s.device).1
      answered := s.answered ++ [request]
      answers := s.answers ++ ((answerOf user kzalloc cmd).map (request, ·)).toList } := by
  have hheld := heldResponse_answer user kzalloc cmd s.device
  -- what is held now is what was passed in
  have hpassed : ∀ b n, heldResponse (painterDdcciResponseIoctl user kzalloc cmd s.device).1 =
      some (some b, n) → answerOf user kzalloc cmd = some b ∧
        n = min cmd.bufferLength ddcciBufferSize := by
    intro b n hb
    rw [hheld] at hb
    obtain ⟨p, -, hp⟩ := Option.map_eq_some_iff.1 hb
    simp only [Prod.mk.injEq] at hp
    exact ⟨hp.1, hp.2.symm⟩
  refine ⟨h.uses, fun event hevent => .inr fun b n hb => ?_, fun event b hb => ?_⟩
  · obtain ⟨hanswer, rfl⟩ := hpassed b n hb
    refine ⟨length_answerOf hanswer, request, htimely (by simp [hanswer]) event hevent, ?_⟩
    simp [hanswer]
  · obtain ⟨r, hr, hmem⟩ := h.copied event b hb
    exact ⟨r, hr, List.mem_append_left _ hmem⟩

/-- **Every timely step keeps the invariant.** -/
theorem Inv.step {s t : Ddcci} {a : Action} (h : s.Inv) (htimely : s.Timely a) (hstep : Step s a t) :
    t.Inv := by
  cases hstep with
  | begin hphase haccepted =>
    refine h.keeps ?_ ?_ nofun nofun rfl rfl
    · simp only [heldResponse, createEvent_painter]
    · simp only [responseReceived, createEvent_painter]
  | @reinit msg event hphase =>
    refine ⟨?_, fun e he => .inl ⟨nofun, ?_⟩, h.copied⟩
    · rintro _ _ _ ⟨⟩
      exact uses_sendEvent event
    · cases hp : s.device.painter <;> simp [responseReceived, reinitCompletion, hp]
  | @send msg event f k hphase =>
    obtain ⟨hf, hk⟩ := h.uses msg event _ hphase
    obtain ⟨hheld, hreceived⟩ := (CommitSection.send hf).ddcci_eq s.device
    refine h.keeps hheld hreceived ?_ (fun e he => ⟨?_, fun _ => nofun⟩) rfl rfl
    · rintro _ _ _ ⟨⟩
      exact hk s.device
    · rw [hphase]
      exact he
  | sent hphase =>
    refine h.keeps rfl rfl nofun (fun e he => ⟨?_, fun _ => nofun⟩) rfl rfl
    rw [hphase]
    exact he
  | @wake msg event hphase hreceived =>
    have hheld : heldResponse (takeCompletion s.device) = heldResponse s.device :=
      heldResponse_onPainter _ (fun _ => rfl) fun _ => rfl
    refine ⟨nofun, fun e he => .inr fun b n hb => ?_, h.copied⟩
    -- the transfer is woken by somebody, and then what is held is its response
    rcases h.own e (by rw [hphase]; exact he) with ⟨-, hnone⟩ | hown
    · simp [hreceived] at hnone
    · exact hown b n (hheld ▸ hb)
  | timeout hphase => exact h.keeps rfl rfl nofun nofun rfl rfl
  | @copy msg event hphase =>
    refine ⟨nofun, nofun, fun e b hb => ?_⟩
    rcases List.mem_append.1 hb with hb | hb
    · exact h.copied e b hb
    · simp only [Option.mem_toList, Option.map_eq_some_iff, Prod.mk.injEq] at hb
      obtain ⟨b', hcopied, rfl, rfl⟩ := hb
      rcases h.own event (by rw [hphase]; rfl) with ⟨hasleep, -⟩ | hown
      · exact absurd hphase (hasleep msg event)
      · exact copiedResponse_own hown hcopied
  | answer user kzalloc cmd hreceived htype hfirst => exact h.answer user kzalloc cmd htimely
  | @other f hf =>
    obtain ⟨hheld, hreceived⟩ := hf.ddcci_eq s.device
    exact h.keeps hheld hreceived h.uses (fun e he => ⟨he, id⟩) rfl rfl

/-! ### The results -/

/-- A step of a timely run. -/
def TimelyStep (s : Ddcci) (a : Action) (t : Ddcci) : Prop := s.Timely a ∧ Step s a t

theorem inv_init (d : Device) : (init d).Inv := ⟨nofun, nofun, nofun⟩

/-- An answer that comes while a transfer waits wakes it, and is copied when it has the length
expected. -/
theorem copies_answer {s t : Ddcci} {request : PendingEvent} {bytes : List UInt8} {msg : I2cMsg}
    {event : Option PendingEvent} (hstep : Step s (.answer request (some bytes)) t)
    (hphase : s.phase = .waiting msg event) (hpainter : s.device.painter ≠ none)
    (hlength : bytes.length = (ddcciLength msg).toNat) :
    ∃ u, Run Step t [.transfer, .transfer] u ∧ (event, bytes) ∈ u.copied := by
  generalize haction : Action.answer request (some bytes) = a at hstep
  cases hstep with
  | answer user kzalloc cmd hreceived htype hfirst =>
    obtain ⟨rfl, hanswer⟩ := Action.answer.inj haction
    have hpassed := length_answerOf hanswer.symm
    obtain ⟨p, hp⟩ := Option.ne_none_iff_exists'.1 hpainter
    have hheld := heldResponse_answer user kzalloc cmd s.device
    rw [← hanswer, hp, Option.map_some] at hheld
    have hcopied : copiedResponse msg
        (takeCompletion (painterDdcciResponseIoctl user kzalloc cmd s.device).1) = some bytes := by
      refine copiedResponse_of_held ?_ hpassed (UInt32.toNat_inj.1 (hlength.symm.trans hpassed))
      rw [takeCompletion, heldResponse_onPainter]
      · exact hheld
      · exact fun _ => rfl
      · exact fun _ => rfl
    refine ⟨_, (Run.one (.wake hphase (responseReceived_answer hanswer.symm hpainter))).snoc
      (.copy rfl), ?_⟩
    simp [hcopied]
  | _ => exact absurd haction nofun

/-- **Responses are matched to requests** by their time alone.

* In every run in which, while a transfer is under way, only its own request is answered, the bytes a
  transfer copies are the client's answer to the transfer's own request.
* Any answer of the length expected that comes while a transfer waits can be what it copies. -/
theorem responses_match (d : Device) :
    (∀ as s, Run TimelyStep (init d) as s → ∀ event b, (event, b) ∈ s.copied →
      ∃ r, event = some r ∧ (r, b) ∈ s.answers) ∧
    ∀ s t request bytes msg event, Step s (.answer request (some bytes)) t →
      s.phase = .waiting msg event → s.device.painter ≠ none →
      bytes.length = (ddcciLength msg).toNat →
      ∃ u, Run Step t [.transfer, .transfer] u ∧ (event, bytes) ∈ u.copied := by
  refine ⟨fun as s h => ?_, fun s t request bytes msg event hstep => copies_answer hstep⟩
  exact (h.invariant (I := Inv) (fun _ _ _ hs hstep => hs.step hstep.1 hstep.2) (inv_init d)).copied

/-! ### Two sample runs -/

theorem Step.timely {s t : Ddcci} (h : Step s .transfer t) : TimelyStep s .transfer t := ⟨trivial, h⟩

/-- A step of the transfer. -/
def TransferStep (s : Ddcci) (_ : Unit) (t : Ddcci) : Prop := Step s .transfer t

theorem Step.ofTransfer {s t : Ddcci} (h : Step s .transfer t) : TransferStep s () t := h

/-- A step of the transfer that neither begins nor ends it. -/
def InnerStep (s : Ddcci) (_ : Unit) (t : Ddcci) : Prop :=
  Step s .transfer t ∧ s.phase ≠ .idle ∧ t.phase ≠ .idle

/-- Sending, without interference. -/
theorem run_send {msg : I2cMsg} {event : Option PendingEvent} (rest : Prog Device Unit) (s : Ddcci) :
    ∃ as, Run InnerStep { s with phase := .sending msg event rest } as
      { s with device := (rest.exec s.device).1, phase := .waiting msg event } := by
  induction rest generalizing s with
  | pure u => exact ⟨[()], Run.one ⟨.sent rfl, by simp, by simp⟩⟩
  | sec f k ih =>
    obtain ⟨as, hrun⟩ := ih s.device { s with device := f s.device }
    have hsend : InnerStep { s with phase := .sending msg event (.sec f k) } ()
        { s with device := f s.device, phase := .sending msg event (k s.device) } :=
      ⟨.send rfl, by simp, by simp⟩
    exact ⟨_, (Run.one hsend).append hrun⟩

/-- A transfer that has created its event, up to its wait, without interference. -/
theorem run_created {msg : I2cMsg} {event : Option PendingEvent} (s : Ddcci) :
    ∃ as, Run InnerStep { s with phase := .created msg event } as
      { s with
        device := ((painterSendEvent event).exec (reinitCompletion s.device)).1
        phase := .waiting msg event } := by
  obtain ⟨as, hsend⟩ := @run_send msg event (painterSendEvent event)
    { s with device := reinitCompletion s.device }
  have hreinit : InnerStep { s with phase := .created msg event } ()
      { s with
        device := reinitCompletion s.device
        phase := .sending msg event (painterSendEvent event) } := ⟨.reinit rfl, by simp, by simp⟩
  exact ⟨_, (Run.one hreinit).append hsend⟩

/-- The device when a transfer starts to wait. -/
def requested (msg : I2cMsg) (d : Device) : Device :=
  ((painterSendEvent (createEvent (ddcciDataEvent msg) d).2).exec
    (reinitCompletion (createEvent (ddcciDataEvent msg) d).1)).1

/-- A transfer up to its wait, without interference. -/
theorem run_request {msg : I2cMsg} {s : Ddcci} (hidle : s.phase = .idle)
    (haccepted : i2cDataAccepted msg s.device = true) : ∃ as, Run TransferStep s as
      { s with
        device := requested msg s.device
        phase := .waiting msg (createEvent (ddcciDataEvent msg) s.device).2 } := by
  obtain ⟨as, hinner⟩ := @run_created msg (createEvent (ddcciDataEvent msg) s.device).2
    { s with device := (createEvent (ddcciDataEvent msg) s.device).1 }
  have hcreated := hinner.map id id fun _ _ _ hstep => hstep.1.ofTransfer
  exact ⟨_, (Run.one (Step.begin hidle haccepted).ofTransfer).append hcreated⟩

/-- Steps of the transfer alone make a timely run. -/
theorem run_timely {s t : Ddcci} {as : List Unit} (h : Run TransferStep s as t) :
    Run TimelyStep s (as.map fun _ => .transfer) t :=
  h.map id _ fun _ _ _ hstep => hstep.timely

/-- A client that is connected, with room for its events. -/
def sampleDevice : Device :=
  (painterConnectIoctl (fun _ => sampleUser 0) ⟨true, true⟩ .sample 1
    (Device.init 0 (.init (.const true) (.const true)))).1

/-- A request of one byte. -/
def sampleMsg : I2cMsg := ⟨0x37, 0, 1, [0]⟩

/-- The event of the request with the given serial. -/
def sampleRequest (serial : ℕ) : PendingEvent := ⟨serial, ddcciDataEvent sampleMsg⟩

/-- The client answers in time. -/
theorem responses_match_prompt : ∃ as s, Run TimelyStep (init sampleDevice) as s ∧
    (some (sampleRequest 0), [7]) ∈ s.copied ∧ (sampleRequest 0, [7]) ∈ s.answers := by
  obtain ⟨as, hrequest⟩ := @run_request sampleMsg (init sampleDevice) rfl rfl
  have hanswer := (run_timely hrequest).snoc ⟨?_, @Step.answer _ (sampleRequest 0)
    (fun _ => sampleUser 7) true ⟨0, 1, 1⟩ (by decide +kernel) rfl (by decide)⟩
  have hwake := hanswer.snoc (Step.wake rfl (by decide +kernel)).timely
  have hcopy := hwake.snoc (Step.copy rfl).timely
  · obtain ⟨r, hr, hmem⟩ := (responses_match sampleDevice).1 _ _ hcopy (some (sampleRequest 0)) [7]
      (by decide +kernel)
    obtain rfl := Option.some.inj hr
    exact ⟨_, _, hcopy, by decide +kernel, hmem⟩
  · rintro - event ⟨⟩
    rfl

/-- The client answers the first request after it has timed out, while the second one waits. -/
theorem late_answer_copied : ∃ as s, Run Step (init sampleDevice) as s ∧
    (some (sampleRequest 1), [7]) ∈ s.copied ∧ s.answers = [(sampleRequest 0, [7])] ∧
      ¬ ∃ r, some (sampleRequest 1) = some r ∧ (r, [7]) ∈ s.answers := by
  obtain ⟨as, hfirst⟩ := @run_request sampleMsg (init sampleDevice) rfl rfl
  have htimeout := (run_timely hfirst).snoc (Step.timeout rfl).timely
  obtain ⟨bs, hsecond⟩ := @run_request sampleMsg
    { init sampleDevice with device := requested sampleMsg sampleDevice } rfl (by decide +kernel)
  have hwaiting := (htimeout.append (run_timely hsecond)).map id id fun _ _ _ h => h.2
  have hanswer := hwaiting.snoc (@Step.answer _ (sampleRequest 0) (fun _ => sampleUser 7) true
    ⟨0, 1, 1⟩ (by decide +kernel) rfl (by decide))
  have hcopy := (hanswer.snoc (.wake rfl (by decide +kernel))).snoc (.copy rfl)
  refine ⟨_, _, hcopy, by decide +kernel, by decide +kernel, ?_⟩
  rintro ⟨r, hr, hmem⟩
  obtain rfl := Option.some.inj hr
  exact absurd hmem (by decide +kernel)

end Ddcci

end Evdi
