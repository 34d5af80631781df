import Evdi.Properties.Announce
import Evdi.Properties.Capacity

/-!
# No spurious update

A client that follows the protocol of update requests: it asks (`REQUEST_UPDATE`), and grabs once, at once
when the answer is 1 and after an `UPDATE_READY` event when it is 0; then it may ask again.  Any number of
commits and other threads of the kernel run in between, and sessions may follow one another.

* `Protocol`: the device with its threads, the client's place in the protocol, and how many of the
  events delivered it has read;
* `Protocol.Step.accounts`: an `UPDATE_READY` event is paid for by a request that was answered 0;
* `Protocol.Inv`: the invariant, for each place in the protocol;
* `Protocol.no_spurious_update`: the results.
-/

namespace Evdi

open Atomic Transition Bytes

/-- A client's place in the protocol. -/
inductive Phase
  | off
  | idle
  | waiting
  | mustGrab
  | grabbing
  deriving DecidableEq

/-- The phase after a request. -/
def Phase.asked (ret : ℤ) : Phase :=
  if ret = 0 then .waiting else if ret = 1 then .mustGrab else .idle

/-- The phase after an event was read. -/
def Phase.told (phase : Phase) (e : PendingEvent) : Phase :=
  if phase = .waiting ∧ e.event = .updateReady then .mustGrab else phase

/-- A device with its threads and one client. -/
structure Protocol extends System where
  phase : Phase
  read : ℕ

namespace Protocol

/-- What may happen. -/
inductive Action
  | kernel
  | connect (cmd : ConnectCmd) (file : DrmFile) (ret : ℤ)
  | requestUpdate (ret : ℤ)
  | readEvent (e : PendingEvent)
  | grabpix (cmd : GrabpixCmd)
  | grabpixDone (ret : ℤ)
  | disconnect (cmd : ConnectCmd) (file : DrmFile)
  | close (file : DrmFile)
  | ddcciResponse (cmd : DdcciResponseCmd) (ret : ℤ)
  | enableCursorEvents (cmd : EnableCursorEventsCmd)

/-- One step: of a thread of the kernel, or of the client, when it is its turn. A session begins with a
file of its own, to which no event has been delivered. -/
inductive Step : Protocol → Action → Protocol → Prop
  | kernel {s : Protocol} {t : System} : System.Step s.toSystem .kernel t →
      Step s .kernel { s with toSystem := t }
  | connect {s : Protocol} {t : System} {cmd : ConnectCmd} {file : DrmFile} {ret : ℤ} :
      s.phase = .off → cmd.connected ≠ 0 →
      System.Step s.toSystem (.client (.connect cmd file ret)) t →
      Step s (.connect cmd file ret)
        ⟨t, if ret = 0 then .idle else .off, t.device.drm.delivered.length⟩
  | requestUpdate {s : Protocol} {t : System} {ret : ℤ} : s.phase = .idle →
      System.Step s.toSystem (.client (.requestUpdate ret)) t →
      Step s (.requestUpdate ret) { s with toSystem := t, phase := Phase.asked ret }
  | readEvent {s : Protocol} {e : PendingEvent} : s.phase ≠ .off →
      s.device.drm.delivered[s.read]? = some e →
      Step s (.readEvent e) { s with phase := Phase.told s.phase e, read := s.read + 1 }
  | grabpix {s : Protocol} {t : System} {cmd : GrabpixCmd} : s.phase = .mustGrab →
      System.Step s.toSystem (.client (.grabpix cmd)) t →
      Step s (.grabpix cmd) { s with
        toSystem := t
        phase := if t.grabs.length = s.grabs.length then .idle else .grabbing }
  | grabpixDone {s : Protocol} {t : System} {ret : ℤ} : s.phase = .grabbing →
      System.Step s.toSystem (.client (.grabpixDone ret)) t →
      Step s (.grabpixDone ret) { s with toSystem := t, phase := .idle }
  | disconnect {s : Protocol} {t : System} {cmd : ConnectCmd} {file : DrmFile} :
      s.phase ≠ .off → s.phase ≠ .grabbing → cmd.connected = 0 →
      System.Step s.toSystem (.client (.connect cmd file 0)) t →
      Step s (.disconnect cmd file) { s with toSystem := t, phase := .off }
  | close {s : Protocol} {t : System} {file : DrmFile} : s.phase ≠ .off → s.phase ≠ .grabbing →
      s.device.painter.bind (·.drmFilp) = some file →
      System.Step s.toSystem (.client (.close file)) t →
      Step s (.close file) { s with toSystem := t, phase := .off }
  | ddcciResponse {s : Protocol} {t : System} {cmd : DdcciResponseCmd} {ret : ℤ} :
      System.Step s.toSystem (.client (.ddcciResponse cmd ret)) t →
      Step s (.ddcciResponse cmd ret) { s with toSystem := t }
  | enableCursorEvents {s : Protocol} {t : System} {cmd : EnableCursorEventsCmd} :
      System.Step s.toSystem (.client (.enableCursorEvents cmd)) t →
      Step s (.enableCursorEvents cmd) { s with toSystem := t }

/-- Before the first session. -/
def init (fgConsole : ℤ) (kzalloc hasSpace : Stream' Bool) : Protocol :=
  ⟨System.init fgConsole (.init kzalloc hasSpace), .off, 0⟩

/-- Every step is one of the whole device, or leaves it alone. -/
theorem Step.system {s t : Protocol} {a : Action} (h : Step s a t) :
    t.toSystem = s.toSystem ∨ ∃ b, b ≠ .cleanup ∧ System.Step s.toSystem b t.toSystem := by
  cases h with
  | kernel h => exact .inr ⟨_, by simp, h⟩
  | connect _ _ h => exact .inr ⟨_, by simp, h⟩
  | requestUpdate _ h => exact .inr ⟨_, by simp, h⟩
  | readEvent _ _ => exact .inl rfl
  | grabpix _ h => exact .inr ⟨_, by simp, h⟩
  | grabpixDone _ h => exact .inr ⟨_, by simp, h⟩
  | disconnect _ _ _ h => exact .inr ⟨_, by simp, h⟩
  | close _ _ _ h => exact .inr ⟨_, by simp, h⟩
  | ddcciResponse h => exact .inr ⟨_, by simp, h⟩
  | enableCursorEvents h => exact .inr ⟨_, by simp, h⟩

theorem run_system {s t : Protocol} {as : List Action} (h : Run Step s as t) :
    ∃ bs, Run System.Step s.toSystem bs t.toSystem := by
  induction h with
  | nil => exact ⟨[], Run.nil _⟩
  | snoc _ hstep ih =>
    obtain ⟨bs, hrun⟩ := ih
    rcases hstep.system with heq | ⟨b, -, hb⟩
    · exact ⟨bs, heq ▸ hrun⟩
    · exact ⟨_, hrun.snoc hb⟩

/-- Steps of the kernel leave the client where it is. -/
theorem run_kernel {s : Protocol} {t : System} {us : List Unit}
    (h : Run (fun s _ t => System.Step s .kernel t) s.toSystem us t) :
    Run Step s (us.map fun _ => .kernel) { s with toSystem := t } := by
  let lift (t : System) : Protocol := { s with toSystem := t }
  have hrun : Run Step (lift s.toSystem) (us.map fun _ => .kernel) (lift t) :=
    h.map lift (fun _ => Action.kernel) fun _ _ _ hstep => Step.kernel hstep
  exact hrun

/-! ### What the steps do -/

/-- A step of the threads is silent or answers a request. -/
theorem kernel_device {s t : System} (h : System.Step s .kernel t)
    (hs : s.ThreadsUse KernelSection) :
    (Silent s.device t.device ∧ (s.device.dirtyRects ≠ [] → t.device.dirtyRects ≠ []) ∨
      Announces s.device t.device) ∧ t.ThreadsUse KernelSection := by
  cases h with
  | kernel hpool =>
    obtain ⟨hdev, hts⟩ := System.kernel_cases kernelThread_announces hpool hs
    refine ⟨?_, hts⟩
    rcases hdev with rfl | ⟨f, ⟨hcommit, hannounce⟩, rfl⟩
    · exact .inl ⟨.refl _, id⟩
    · refine (hannounce s.device).imp_left fun hsilent => ⟨hsilent, ?_⟩
      exact dirtyRects_ne_nil_of_redraws (hcommit.redraws s.device)

/-- A client's step leaves the threads alone. -/
theorem client_step {s t : System} {call : ClientCall} (h : System.Step s (.client call) t) :
    ∃ c, ClientStep s.toClients call c ∧ t = { s with toClients := c } := by
  cases h with
  | @client c call hcall => exact ⟨c, hcall, rfl⟩

/-- A call that does not ask and does not end the session is silent. -/
theorem client_silent {s t : System} {call : ClientCall} (h : System.Step s (.client call) t)
    (hcall : call.Plain) : Silent s.device t.device := by
  obtain ⟨c, hstep, rfl⟩ := client_step h
  exact hstep.silent hcall

/-! ### Accounts -/

/-- The requests answered 0 among what happened. -/
def waits (as : List Action) : ℕ :=
  as.countP fun
    | .requestUpdate ret => ret == 0
    | _ => false

theorem accounts_requestUpdate {d d' : Device} {ret : ℤ}
    (h : painterRequestUpdateIoctl d = (d', ret)) :
    Accounts (waits [.requestUpdate ret]) d d' := by
  have hwaits : waits [.requestUpdate ret] = if ret = 0 then 1 else 0 := by
    simp [waits, List.countP_singleton]
  have hsame : Accounts 0 d d := (Silent.refl d).accounts
  rw [hwaits]
  rcases painterRequestUpdateIoctl_cases d with ⟨-, heq⟩ | ⟨-, heq⟩ | ⟨-, -, heq⟩ |
    ⟨hclear, -, -, heq⟩
  all_goals
    rw [heq] at h
    obtain ⟨rfl, rfl⟩ := Prod.mk.inj h
  · exact hsame
  · exact ⟨hsame.readys_le, hsame.paid.trans (Nat.le_add_right _ _), hsame.queued⟩
  · exact hsame
  · refine ⟨le_rfl, ?_, fun hlt => absurd hlt (lt_irrefl _)⟩
    -- the flag is set, by a request that is answered 0
    have hflag := Bool.toNat_le (requested
      (d.onPainter fun p => { p with wasUpdateRequested := true }))
    show readys d + _ ≤ readys d + (requested d).toNat + 1
    rw [hclear, Bool.toNat_false]
    omega

/-- **Every step** queues an `UPDATE_READY` event only for a request that waits, and only a request that
is answered 0 makes one wait. -/
theorem Step.accounts {s t : Protocol} {a : Action} (h : Step s a t)
    (hs : s.ThreadsUse KernelSection) : Accounts (waits [a]) s.device t.device := by
  cases h with
  | kernel h =>
    rcases (kernel_device h hs).1 with ⟨hsilent, -⟩ | hannounce
    · exact hsilent.accounts
    · exact hannounce.accounts
  | connect _ hcmd h => exact (client_silent h hcmd).accounts
  | requestUpdate _ h =>
    obtain ⟨c, hcall, rfl⟩ := client_step h
    cases hcall with
    | requestUpdate heq => exact accounts_requestUpdate heq
  | readEvent _ _ => exact (Silent.refl s.device).accounts
  | grabpix _ h => exact (client_silent h trivial).accounts
  | grabpixDone _ h => exact (client_silent h trivial).accounts
  | disconnect _ _ hcmd h =>
    obtain ⟨c, hcall, rfl⟩ := client_step h
    cases hcall with
    | connect user ans heq => exact (ends_connectIoctl hcmd heq).accounts
  | close _ _ howner h =>
    obtain ⟨c, hcall, rfl⟩ := client_step h
    cases hcall with
    | close file => exact (ends_close howner).accounts
  | ddcciResponse h => exact (client_silent h trivial).accounts
  | enableCursorEvents h => exact (client_silent h trivial).accounts

/-! ### What has not been read -/

/-- The `UPDATE_READY` events of the session that the client has not read. -/
def unread (s : Protocol) : ℕ := updateReadys (s.device.queue.drop s.read)

/-- What is added to the queue is added to what has not been read. -/
theorem unread_eq {d d' : Device} {n r : ℕ} (hr : r ≤ d.drm.delivered.length)
    (hdelivered : d.drm.delivered <+: d'.drm.delivered)
    (hqueue : updateReadys d'.queue = updateReadys d.queue + n) :
    updateReadys (d'.queue.drop r) = updateReadys (d.queue.drop r) + n := by
  have htake : d'.queue.take r = d.queue.take r := by
    obtain ⟨sent, hsent⟩ := hdelivered
    rw [Device.queue, Device.queue, List.take_append_of_le_length (hr.trans ?_),
      List.take_append_of_le_length hr, ← hsent, List.take_append_of_le_length hr]
    rw [← hsent]
    simp
  have hsplit : ∀ q : List PendingEvent,
      updateReadys q = updateReadys (q.take r) + updateReadys (q.drop r) := by
    intro q
    rw [← updateReadys_append, List.take_append_drop]
  rw [hsplit d'.queue, hsplit d.queue, htake] at hqueue
  omega

/-! ### The invariant -/

/-- In which states the client may be in which phase. -/
structure Inv (s : Protocol) : Prop where
  threads : s.ThreadsUse KernelSection
  read_le : s.read ≤ s.device.drm.delivered.length
  off : s.phase = .off →
    requested s.device = false ∧ updateReadys s.device.queue = updateReadys s.device.drm.delivered
  settled : s.phase ≠ .off → s.phase ≠ .waiting → requested s.device = false ∧ s.unread = 0
  waiting : s.phase = .waiting → s.unread + (requested s.device).toNat ≤ 1 ∧
    (0 < s.unread → s.device.dirtyRects ≠ [])
  mustGrab : s.phase = .mustGrab → s.device.dirtyRects ≠ []

theorem inv_init (fgConsole : ℤ) (kzalloc hasSpace : Stream' Bool) :
    (init fgConsole kzalloc hasSpace).Inv where
  threads := System.threadsUse_init _ _ _
  read_le := le_rfl
  off _ := ⟨rfl, rfl⟩
  settled h := absurd rfl h
  waiting h := absurd h (by simp [init])
  mustGrab h := absurd h (by simp [init])

/-- A silent step that keeps the phase, and the rectangles where they matter. -/
theorem Inv.of_silent {s t : Protocol} (h : s.Inv) (hthreads : t.ThreadsUse KernelSection)
    (hphase : t.phase = s.phase) (hread : t.read = s.read) (hsilent : Silent s.device t.device)
    (hdirty : s.device.dirtyRects ≠ [] → t.device.dirtyRects ≠ []) : t.Inv := by
  have hunread : t.unread = s.unread := by
    rw [unread, hread]
    exact unread_eq (n := 0) h.read_le hsilent.delivered hsilent.queue
  refine ⟨hthreads, ?_, fun hoff => ?_, fun hon hwait => ?_, fun hwait => ?_, fun hgrab => ?_⟩
  · rw [hread]
    exact h.read_le.trans hsilent.delivered.length_le
  · obtain ⟨hreq, hqueue⟩ := h.off (hphase ▸ hoff)
    refine ⟨hsilent.requested_eq.trans hreq, le_antisymm ?_ ?_⟩
    · rw [hsilent.queue, hqueue]
      exact List.Sublist.countP_le hsilent.delivered.sublist
    · exact List.Sublist.countP_le (List.sublist_append_left _ _)
  · obtain ⟨hreq, hzero⟩ := h.settled (hphase ▸ hon) (hphase ▸ hwait)
    exact ⟨hsilent.requested_eq.trans hreq, hunread.trans hzero⟩
  · obtain ⟨hone, hne⟩ := h.waiting (hphase ▸ hwait)
    rw [hunread, hsilent.requested_eq]
    exact ⟨hone, fun hpos => hdirty (hne hpos)⟩
  · exact hdirty (h.mustGrab (hphase ▸ hgrab))

/-- A commit that answers a request: the client waits, and will find the rectangles it is told of. -/
theorem Inv.of_announces {s t : Protocol} (h : s.Inv) (hthreads : t.ThreadsUse KernelSection)
    (hphase : t.phase = s.phase) (hread : t.read = s.read)
    (hannounce : Announces s.device t.device) : t.Inv := by
  have hreq := hannounce.was_requested
  -- a request waits in no other phase
  have hwaiting : s.phase = .waiting := by
    by_contra hne
    by_cases hoff : s.phase = .off
    · rw [(h.off hoff).1] at hreq
      exact Bool.false_ne_true hreq
    · rw [(h.settled hoff hne).1] at hreq
      exact Bool.false_ne_true hreq
  obtain ⟨n, hn, -, hqueue⟩ := hannounce.count
  have hunread : t.unread = s.unread + n := by
    rw [unread, hread]
    exact unread_eq h.read_le hannounce.delivered hqueue
  obtain ⟨hone, -⟩ := h.waiting hwaiting
  rw [hreq, Bool.toNat_true] at hone
  have hdirty : t.device.dirtyRects ≠ [] := hannounce.dirtyRects_eq ▸ hannounce.dirty
  refine ⟨hthreads, ?_, fun hoff => ?_, fun _ hwait => ?_, fun _ => ?_, fun _ => hdirty⟩
  · rw [hread]
    exact h.read_le.trans hannounce.delivered.length_le
  · rw [hphase, hwaiting] at hoff
    exact absurd hoff (by decide)
  · exact absurd (hphase.trans hwaiting) hwait
  · rw [hunread, hannounce.cleared, Bool.toNat_false]
    exact ⟨by omega, fun _ => hdirty⟩

/-- No request waits, and there is nothing to read. -/
theorem inv_settled {t : Protocol} (hthreads : t.ThreadsUse KernelSection)
    (hread : t.read ≤ t.device.drm.delivered.length) (hon : t.phase ≠ .off)
    (hwait : t.phase ≠ .waiting) (hreq : requested t.device = false) (hunread : t.unread = 0)
    (hdirty : t.phase = .mustGrab → t.device.dirtyRects ≠ []) : t.Inv where
  threads := hthreads
  read_le := hread
  off h := absurd h hon
  settled _ _ := ⟨hreq, hunread⟩
  waiting h := absurd h hwait
  mustGrab := hdirty

/-- The session is over. -/
theorem inv_ended {s t : Protocol} (hthreads : t.ThreadsUse KernelSection)
    (hread : t.read ≤ t.device.drm.delivered.length) (hoff : t.phase = .off)
    (hends : Ends s.device t.device) : t.Inv where
  threads := hthreads
  read_le := hread
  off _ := ⟨hends.cleared, by rw [hends.queue]⟩
  settled h := absurd hoff h
  waiting h := absurd (hoff.symm.trans h) (by decide)
  mustGrab h := absurd (hoff.symm.trans h) (by decide)

/-- A session begins: what was pending for the one before is gone. -/
theorem Inv.connect {s : Protocol} {t : System} {cmd : ConnectCmd} {file : DrmFile} {ret : ℤ}
    (h : s.Inv) (hoff : s.phase = .off) (hcmd : cmd.connected ≠ 0)
    (hstep : System.Step s.toSystem (.client (.connect cmd file ret)) t) :
    Inv ⟨t, if ret = 0 then .idle else .off, t.device.drm.delivered.length⟩ := by
  have hsilent := client_silent hstep hcmd
  obtain ⟨c, hcall, rfl⟩ := client_step hstep
  obtain ⟨hreq, hqueue⟩ := h.off hoff
  have hreq' : requested c.device = false := hsilent.requested_eq.trans hreq
  -- nothing was delivered in between
  have hdelivered : c.device.drm.delivered = s.device.drm.delivered := by
    cases hcall with
    | connect user ans heq =>
      obtain rfl := (congrArg Prod.fst heq).symm
      exact congrArg (fun v => v.2.1) (announceView_connectIoctl user ans hcmd _ s.device)
  have hqueue' : updateReadys c.device.queue = updateReadys c.device.drm.delivered := by
    rw [hdelivered, ← hqueue]
    exact hsilent.queue
  by_cases hret : ret = 0
  · rw [if_pos hret]
    refine inv_settled h.threads le_rfl (by simp) (by simp) hreq' ?_ (by simp)
    rw [Device.queue, updateReadys_append] at hqueue'
    show updateReadys (c.device.queue.drop c.device.drm.delivered.length) = 0
    rw [Device.queue, List.drop_left]
    omega
  · rw [if_neg hret]
    exact ⟨h.threads, le_rfl, fun _ => ⟨hreq', hqueue'⟩, fun hon => absurd rfl hon, by simp, by simp⟩

/-- A request of a client whose requests before are settled. -/
theorem Inv.requestUpdate {s : Protocol} {t : System} {ret : ℤ} (h : s.Inv)
    (hidle : s.phase = .idle) (hstep : System.Step s.toSystem (.client (.requestUpdate ret)) t) :
    Inv { s with toSystem := t, phase := Phase.asked ret } := by
  obtain ⟨hclear, hzero⟩ := h.settled (by simp [hidle]) (by simp [hidle])
  obtain ⟨c, hcall, rfl⟩ := client_step hstep
  cases hcall with
  | @requestUpdate d _ heq =>
    rcases painterRequestUpdateIoctl_cases s.device with ⟨-, hcase⟩ | ⟨hreq, -⟩ |
      ⟨-, hdirty, hcase⟩ | ⟨-, -, -, hcase⟩
    · obtain ⟨rfl, rfl⟩ := Prod.mk.inj (hcase.symm.trans heq)
      rw [show Phase.asked (-ENODEV) = .idle from rfl]
      exact inv_settled h.threads h.read_le (by simp) (by simp) hclear hzero (by simp)
    · rw [hclear] at hreq
      exact absurd hreq Bool.false_ne_true
    · obtain ⟨rfl, rfl⟩ := Prod.mk.inj (hcase.symm.trans heq)
      rw [show Phase.asked 1 = .mustGrab from rfl]
      exact inv_settled h.threads h.read_le (by simp) (by simp) hclear hzero fun _ => hdirty
    · obtain ⟨rfl, rfl⟩ := Prod.mk.inj (hcase.symm.trans heq)
      rw [show Phase.asked 0 = .waiting from rfl]
      have hqueue : (s.device.onPainter fun p => { p with wasUpdateRequested := true }).queue =
          s.device.queue := by
        cases hp : s.device.painter <;> simp [Device.queue, hp]
      have hunread : unread { s with
          device := s.device.onPainter fun p => { p with wasUpdateRequested := true }
          phase := .waiting } = 0 := by
        rw [unread, hqueue]
        exact hzero
      refine ⟨h.threads, h.read_le, by simp, by simp, fun _ => ?_, by simp⟩
      constructor
      · rw [hunread, Nat.zero_add]
        exact Bool.toNat_le _
      · intro hpos
        rw [hunread] at hpos
        exact absurd hpos (lt_irrefl 0)

/-- The client reads the next event. -/
theorem Inv.readEvent {s : Protocol} {e : PendingEvent} (h : s.Inv) (hon : s.phase ≠ .off)
    (he : s.device.drm.delivered[s.read]? = some e) :
    Inv { s with phase := Phase.told s.phase e, read := s.read + 1 } := by
  obtain ⟨hlt, hget⟩ := List.getElem?_eq_some_iff.1 he
  have hunread : s.unread = updateReadys [e] +
      unread { s with phase := Phase.told s.phase e, read := s.read + 1 } := by
    have hlt' : s.read < s.device.queue.length := by
      rw [Device.queue, List.length_append]
      omega
    have hhead : s.device.queue[s.read] = e := by
      rw [← hget]
      exact List.getElem_append_left hlt
    rw [unread, unread, List.drop_eq_getElem_cons hlt', hhead, ← updateReadys_append]
    rfl
  rw [updateReadys_singleton] at hunread
  by_cases hwait : s.phase = .waiting
  · obtain ⟨hone, hne⟩ := h.waiting hwait
    by_cases hready : e.event = .updateReady
    · -- the event that the client waits for: no request waits, and there is no other such event
      rw [if_pos hready] at hunread
      have htold : Phase.told s.phase e = .mustGrab := if_pos ⟨hwait, hready⟩
      rw [htold] at hunread ⊢
      have hflag : requested s.device = false := by
        cases hreq : requested s.device with
        | false => rfl
        | true => rw [hreq, Bool.toNat_true] at hone; omega
      exact inv_settled h.threads hlt (by simp) (by simp) hflag (by omega)
        fun _ => hne (by omega)
    · rw [if_neg hready, Nat.zero_add] at hunread
      have htold : Phase.told s.phase e = .waiting := by
        rw [Phase.told, if_neg fun hboth => hready hboth.2, hwait]
      rw [htold] at hunread ⊢
      exact ⟨h.threads, hlt, by simp, by simp, fun _ => ⟨hunread ▸ hone, fun hpos =>
        hne (hunread ▸ hpos)⟩, by simp⟩
  · have htold : Phase.told s.phase e = s.phase := by
      rw [Phase.told, if_neg fun hboth => hwait hboth.1]
    rw [htold] at hunread ⊢
    obtain ⟨hreq, hzero⟩ := h.settled hon hwait
    exact inv_settled h.threads hlt hon hwait hreq (by omega) h.mustGrab

/-- A grab, in either of its phases, leaves the client with nothing asked for. -/
theorem Inv.grab {s : Protocol} {t : System} {call : ClientCall} (h : s.Inv) (hon : s.phase ≠ .off)
    (hwait : s.phase ≠ .waiting) (hstep : System.Step s.toSystem (.client call) t)
    (hcall : call.Plain) {phase : Phase} (hphase : phase = .idle ∨ phase = .grabbing) :
    Inv { s with toSystem := t, phase := phase } := by
  have hsilent := client_silent hstep hcall
  obtain ⟨c, -, rfl⟩ := client_step hstep
  obtain ⟨hreq, hzero⟩ := h.settled hon hwait
  have hunread : unread { s with toClients := c, phase := phase } = 0 := by
    rw [← hzero]
    exact unread_eq (n := 0) h.read_le hsilent.delivered hsilent.queue
  refine inv_settled h.threads (h.read_le.trans hsilent.delivered.length_le) ?_ ?_
    (hsilent.requested_eq.trans hreq) hunread ?_
  · rcases hphase with rfl | rfl <;> simp
  · rcases hphase with rfl | rfl <;> simp
  · rcases hphase with rfl | rfl <;> simp

/-- The end of a session, by either call. -/
theorem Inv.ends {s : Protocol} {t : System} {call : ClientCall} (h : s.Inv)
    (hstep : System.Step s.toSystem (.client call) t) (hends : Ends s.device t.device) :
    Inv { s with toSystem := t, phase := .off } := by
  obtain ⟨c, -, rfl⟩ := client_step hstep
  refine inv_ended (s := s) h.threads ?_ rfl hends
  show s.read ≤ c.device.drm.delivered.length
  rw [hends.delivered]
  exact h.read_le

/-- A call that has nothing to do with updates. -/
theorem Inv.other {s : Protocol} {t : System} {call : ClientCall} (h : s.Inv)
    (hstep : System.Step s.toSystem (.client call) t) (hcall : call.Plain)
    (hdirty : t.device.dirtyRects = s.device.dirtyRects) : Inv { s with toSystem := t } := by
  have hsilent := client_silent hstep hcall
  obtain ⟨c, -, rfl⟩ := client_step hstep
  exact h.of_silent h.threads rfl rfl hsilent fun hne => hdirty.symm ▸ hne

theorem Step.inv {s t : Protocol} {a : Action} (hstep : Step s a t) (h : s.Inv) : t.Inv := by
  cases hstep with
  | @kernel t hk =>
    obtain ⟨hdev, hthreads⟩ := kernel_device hk h.threads
    rcases hdev with ⟨hsilent, hdirty⟩ | hannounce
    · exact h.of_silent hthreads rfl rfl hsilent hdirty
    · exact h.of_announces hthreads rfl rfl hannounce
  | connect hoff hcmd hs => exact h.connect hoff hcmd hs
  | requestUpdate hidle hs => exact h.requestUpdate hidle hs
  | readEvent hon he => exact h.readEvent hon he
  | grabpix hphase hs =>
    refine h.grab (by simp [hphase]) (by simp [hphase]) hs trivial ?_
    split_ifs
    · exact .inl rfl
    · exact .inr rfl
  | grabpixDone hphase hs => exact h.grab (by simp [hphase]) (by simp [hphase]) hs trivial (.inl rfl)
  | disconnect _ _ hcmd hs =>
    refine h.ends hs ?_
    obtain ⟨c, hcall, rfl⟩ := client_step hs
    cases hcall with
    | connect user ans heq => exact ends_connectIoctl hcmd heq
  | close _ _ howner hs =>
    refine h.ends hs ?_
    obtain ⟨c, hcall, rfl⟩ := client_step hs
    cases hcall with
    | close file => exact ends_close howner
  | ddcciResponse hs =>
    refine h.other hs trivial ?_
    obtain ⟨c, hcall, rfl⟩ := client_step hs
    cases hcall with
    | ddcciResponse user kzalloc heq =>
      obtain rfl := (congrArg Prod.fst heq).symm
      obtain ⟨buffer, length, received, heq'⟩ :=
        painterDdcciResponseIoctl_device user kzalloc _ s.device
      show (painterDdcciResponseIoctl user kzalloc _ s.device).1.dirtyRects = _
      rw [heq']
      exact dirtyRects_onPainter _ fun _ => rfl
  | enableCursorEvents hs =>
    refine h.other hs trivial ?_
    obtain ⟨c, hcall, rfl⟩ := client_step hs
    cases hcall with
    | enableCursorEvents cmd => rfl

theorem inv_run {fgConsole : ℤ} {kzalloc hasSpace : Stream' Bool} {as : List Action} {s : Protocol}
    (h : Run Step (init fgConsole kzalloc hasSpace) as s) : s.Inv :=
  h.invariant (fun _ _ _ hs hst => hst.inv hs) (inv_init fgConsole kzalloc hasSpace)

/-- Accounts add up over a run. -/
theorem accounts_run {s t : Protocol} {as : List Action} (h : Run Step s as t) (hs : s.Inv) :
    readys t.device + (requested t.device).toNat ≤
      readys s.device + (requested s.device).toNat + waits as ∧ t.Inv := by
  induction h with
  | nil => exact ⟨Nat.le_add_right _ _, hs⟩
  | @snoc t u as a _ hstep ih =>
    obtain ⟨hpaid, ht⟩ := ih
    have hlast := (hstep.accounts ht.threads).paid
    have hwaits : waits (as ++ [a]) = waits as + waits [a] := List.countP_append
    exact ⟨by omega, hstep.inv ht⟩

theorem readys_le_run {s t : Protocol} {as : List Action} (h : Run Step s as t) (hs : s.Inv) :
    readys s.device ≤ readys t.device := by
  refine (h.invariant (I := fun t => t.Inv ∧ readys s.device ≤ readys t.device) ?_ ⟨hs, le_rfl⟩).2
  rintro t a u ⟨ht, hle⟩ hstep
  exact ⟨hstep.inv ht, hle.trans (hstep.accounts ht.threads).readys_le⟩

/-! ### The results -/

/-- **No spurious update.** In every state of every run of a client that follows the protocol:

* no more `UPDATE_READY` events were queued than requests were answered 0;
* a step queues at most one, and between two of them a request is answered 0;
* a grab finds rectangles pending when it takes the painter's lock, and reports at least one if it
  gets past that phase. -/
theorem no_spurious_update {fgConsole : ℤ} {kzalloc hasSpace : Stream' Bool} {as : List Action}
    {s : Protocol} (h : Run Step (init fgConsole kzalloc hasSpace) as s) :
    readys s.device ≤ waits as ∧
    (∀ a s', Step s a s' → readys s'.device ≤ readys s.device + 1) ∧
    (∀ a s' bs t b t', Step s a s' → readys s.device < readys s'.device → Run Step s' bs t →
      Step t b t' → readys t.device < readys t'.device → 0 < waits bs) ∧
    (∀ cmd t, Step s (.grabpix cmd) t → painterGetNumDirts s.device ≥ 1 ∧
      ∀ d' cmd' g, painterGrabpixLocked cmd s.device = (d', cmd', .ok g) →
        1 ≤ cmd'.numRects.toInt ∧ (g.dirtyRects.length : ℤ) = cmd'.numRects.toInt) := by
  obtain ⟨hpaid, hinv⟩ := accounts_run h (inv_init fgConsole kzalloc hasSpace)
  refine ⟨?_, fun a s' hstep => ?_, ?_, ?_⟩
  · have hstart : readys (init fgConsole kzalloc hasSpace).device +
        (requested (init fgConsole kzalloc hasSpace).device).toNat = 0 := rfl
    omega
  · have haccounts := hstep.accounts hinv.threads
    by_cases hlt : readys s.device < readys s'.device
    · exact (haccounts.queued hlt).2.2.le
    · omega
  · intro a s' bs t b t' hfirst hqueued hrun hsecond hqueued'
    obtain ⟨-, hcleared, -⟩ := (hfirst.accounts hinv.threads).queued hqueued
    obtain ⟨hpaid', ht⟩ := accounts_run hrun (hfirst.inv hinv)
    have haccounts := hsecond.accounts ht.threads
    obtain ⟨hwaits, -, -⟩ := haccounts.queued hqueued'
    -- what the first event left, and what the second is paid with
    have hle : readys s'.device ≤ readys t.device :=
      readys_le_run hrun (hfirst.inv hinv)
    rw [hcleared, hwaits, Bool.toNat_false, Bool.toNat_true] at hpaid'
    omega
  · intro cmd t hstep
    cases hstep with
    | grabpix hphase _ =>
      have hdirty := hinv.mustGrab hphase
      refine ⟨numDirts_pos.2 hdirty, fun d' cmd' g heq => ?_⟩
      obtain ⟨p, efb, hp, -, rfl, -, rfl⟩ := painterGrabpixLocked_ok heq
      obtain ⟨bs, hrun⟩ := run_system h
      have hmax := (joined_shrinkDirtyRects cmd.numRects p.dirtyRects).length_le.trans
        (dirtsOk_run hrun hp).length_le
      have hcount : (cmd.setNumRects (shrinkDirtyRects cmd.numRects p.dirtyRects).length).numRects.toInt
          = (shrinkDirtyRects cmd.numRects p.dirtyRects).length := toInt_ofNat_of_le hmax
      rw [hcount]
      refine ⟨?_, rfl⟩
      rw [Device.dirtyRects_some hp] at hdirty
      have hne : shrinkDirtyRects cmd.numRects p.dirtyRects ≠ [] := by simpa using hdirty
      have := List.length_pos_iff.2 hne
      omega

/-- A first commit, with one rectangle of damage. -/
def sampleCommit : Commit := flipCommit none (.sample 1 64 64 256) [⟨0, 0, 8, 8⟩]

/-- A client that has connected and was answered 0. -/
def sampleWaiting : Protocol where
  device := (painterRequestUpdateIoctl (painterConnectIoctl (fun _ => sampleUser 0) ⟨true, true⟩
    .sample 1 (Device.init 0 (.init (.const true) (.const true)))).1).1
  grabs := []
  threads := []
  phase := .waiting
  read := 0

theorem run_sampleWaiting : Run Step (init 0 (.const true) (.const true))
    [.connect .sample 1 0, .requestUpdate 0] sampleWaiting :=
  ((Run.nil _).snoc (.connect rfl (by decide)
    (.client (.connect (fun _ => sampleUser 0) ⟨true, true⟩ rfl)))).snoc
    (.requestUpdate rfl (.client (.requestUpdate rfl)))

theorem delivered_sampleCommit :
    (sampleCommit.run.exec sampleWaiting.device).1.drm.delivered =
      [⟨0, .modeChanged 64 64 60 32 0x34325258⟩, ⟨1, .dpms 0⟩, ⟨2, .updateReady⟩] := by
  decide +kernel

/-- A client is answered 0, a commit marks a rectangle and queues an event, and the client reads it and
grabs: a rectangle is pending. -/
theorem no_spurious_update_waiting : ∃ as s t,
    Run Step (init 0 (.const true) (.const true)) as s ∧ s.read = 3 ∧
    Step s (.grabpix (.sample 64 64 256 16)) t ∧ painterGetNumDirts s.device ≥ 1 := by
  obtain ⟨us, hkernel⟩ := System.run_kernel (.commit sampleCommit) sampleWaiting.toSystem
  have hcommit := run_sampleWaiting.append (run_kernel hkernel)
  -- the events it leaves are read one after the other
  have hread := ((hcommit.snoc
    (.readEvent (by decide) (congrArg (·[0]?) delivered_sampleCommit))).snoc
    (.readEvent (by decide) (congrArg (·[1]?) delivered_sampleCommit))).snoc
    (.readEvent (by decide) (congrArg (·[2]?) delivered_sampleCommit))
  have hfound := (no_spurious_update hread).2.2.2 (.sample 64 64 256 16)
  refine ⟨_, _, _, hread, rfl, .grabpix rfl (.client (.grabpix rfl)), ?_⟩
  exact (hfound _ (.grabpix rfl (.client (.grabpix rfl)))).1

end Protocol

end Evdi
