import Evdi.Model.Card
import Evdi.Properties.Notify

/-!
# Which buffer an update is for

A card has one buffer requested, and takes an `UPDATE_READY` event to be about it.  That holds as long as
no more than one such event is owed: a request that the kernel has noted, or an event on its way.  A
mode change breaks it, since it makes the card request again while the event for the buffers that are
gone may be on its way.

* `painterRequestUpdateIoctl_answer`: the driver answers requests as the model's kernel does;
* `CardRun.Settled`: a step that keeps the count, with no request while an event is on its way;
* `CardRun.Inv`: what holds in runs of such steps, and `step_inv` that each of them keeps it;
* `update_buffer_known`: the buffer is known in all those runs;
* `stale_update_unknown`: a run with a mode change in which it is not.
-/

namespace Evdi

open Transition

/-- The driver's answer to a request. -/
theorem painterRequestUpdateIoctl_answer (d : Device) :
    RequestAnswer (requested d) (painterRequestUpdateIoctl d).2
      (requested (painterRequestUpdateIoctl d).1) := by
  rcases painterRequestUpdateIoctl_cases d with ⟨-, heq⟩ | ⟨hset, heq⟩ | ⟨hclear, -, heq⟩ |
    ⟨hclear, -, hp, heq⟩
  · rw [heq]
    exact .failed _ (show -ENODEV < 0 by decide)
  · rw [heq, hset]
    exact .ignored
  · rw [heq, hclear]
    exact .ready
  · obtain ⟨p, hp⟩ := Option.ne_none_iff_exists'.1 hp
    have hnoted : requested (d.onPainter fun p => { p with wasUpdateRequested := true }) = true := by
      simp [requested, hp]
    rw [heq, hclear]
    dsimp only
    rw [hnoted]
    exact .noted

/-! ### New buffers -/

theorem makeBuffers_two (c : Card) : c.makeBuffers 2 =
    { c with
      buffers := [c.numerator, c.numerator + 1]
      bufferRequested := none
      numerator := c.numerator + 1 + 1 } := rfl

/-- A free buffer is not held. -/
theorem freeBuffer_not_mem {held : List ℕ} {c : Card} {buffer : ℕ}
    (h : c.freeBuffer held = some buffer) : buffer ∈ c.buffers ∧ buffer ∉ held := by
  refine ⟨List.mem_of_find?_eq_some h, ?_⟩
  simpa using List.find?_some h

theorem freeBuffer_isSome {held : List ℕ} {c : Card} (h : ∃ b ∈ c.buffers, b ∉ held) :
    ∃ buffer, c.freeBuffer held = some buffer := by
  obtain ⟨b, hb, hfree⟩ := h
  have hsome : (c.freeBuffer held).isSome := by
    rw [Card.freeBuffer, List.find?_isSome]
    exact ⟨b, hb, by simpa using hfree⟩
  exact Option.isSome_iff_exists.1 hsome

namespace CardRun

/-! ### The property -/

/-- When the handler of `UPDATE_READY` runs, a buffer is requested, and it is the one that the handler is
given; and no buffer that Python code holds is requested or grabbed into. -/
structure Knows (s : CardRun) : Prop where
  handler : ∀ buffer events, s.phase = .updateReady buffer events →
    s.card.bufferRequested = some buffer
  target : ∀ buffer, s.target = some buffer → buffer ∉ s.held

/-- No request is made while an `UPDATE_READY` event is on its way. -/
def Settled (s : CardRun) : Action → Prop
  | .request _ => CardEvent.updateReady ∉ s.inFlight
  | _ => True

/-- A step that is settled. -/
def SettledStep (s : CardRun) (a : Action) (t : CardRun) : Prop := Step s a t ∧ s.Settled a

/-! ### The invariant -/

/-- The updates that are owed: the request that the kernel has noted, and the events on their way. -/
def owed (s : CardRun) : ℕ := s.wasUpdateRequested.toNat + s.inFlight.count .updateReady

/-- The buffer requested is the handle's, and not held. -/
def Matches (s : CardRun) (buffer : ℕ) : Prop :=
  s.card.bufferRequested = some buffer ∧ s.card.bufferToUpdate = buffer ∧ buffer ∉ s.held

/-- Some buffer can be requested. -/
def HasFree (s : CardRun) : Prop := ∃ b ∈ s.card.buffers, b ∉ s.held

/-- Between requests: what is owed is owed for the buffer. -/
def Waits (s : CardRun) : Prop := s.owed = 0 ∨ ∃ buffer, s.Matches buffer

/-- What holds at each place of the program. In a handler it holds again when a call of `handle_events`
is over. -/
def AtPhase (s : CardRun) : CardPhase → Prop
  | .python | .select | .dispatch _ | .acquire .. => s.Waits
  | .requestUpdate _ | .modeHandler _ => s.Waits ∨ (s.card.bufferRequested = none ∧ s.HasFree)
  | .requesting _ => ∃ buffer, s.card.bufferRequested = some buffer ∧ buffer ∉ s.held
  | .grabPixels _ => s.owed = 0 ∧ ∃ buffer, s.Matches buffer
  | .updateReady buffer _ => s.owed = 0 ∧ s.Matches buffer

/-- The invariant of settled runs. -/
structure Inv (s : CardRun) : Prop where
  suspended : ∀ phase ∈ s.suspended, phase.inPython = true
  requested : ∀ b ∈ s.card.bufferRequested, b ∈ s.card.buffers
  fresh : ∀ b, b ∈ s.held ∨ b ∈ s.card.buffers → b < s.card.numerator
  owed_le : s.owed ≤ 1
  atPhase : s.AtPhase s.phase

theorem inv_init (numerator : ℕ) : (init numerator).Inv where
  suspended := by simp [init]
  requested := by simp [init]
  fresh := by simp [init]
  owed_le := by simp [init, owed, inFlight, CardPhase.events]
  atPhase := .inl rfl

variable {s t : CardRun}

theorem Waits.matches (h : s.Waits) (howed : s.owed ≠ 0) : ∃ buffer, s.Matches buffer :=
  h.resolve_left howed

theorem Waits.congr (h : s.Waits) (hcard : t.card.bufferRequested = s.card.bufferRequested)
    (hupdate : t.card.bufferToUpdate = s.card.bufferToUpdate) (hheld : t.held = s.held)
    (howed : t.owed = s.owed) : t.Waits := by
  rcases h with hzero | ⟨buffer, hb, hu, hnot⟩
  · exact .inl (howed.trans hzero)
  · exact .inr ⟨buffer, hcard.trans hb, hupdate.trans hu, hheld ▸ hnot⟩

/-- With less held and less owed, what holds at a place goes on holding. -/
theorem AtPhase.mono {phase : CardPhase} (h : s.AtPhase phase)
    (hbuffers : t.card.buffers = s.card.buffers)
    (hrequested : t.card.bufferRequested = s.card.bufferRequested)
    (hupdate : t.card.bufferToUpdate = s.card.bufferToUpdate) (hheld : t.held ⊆ s.held)
    (howed : t.owed ≤ s.owed) : t.AtPhase phase := by
  have hmatches : ∀ buffer, s.Matches buffer → t.Matches buffer := fun buffer hm =>
    ⟨hrequested.trans hm.1, hupdate.trans hm.2.1, fun hmem => hm.2.2 (hheld hmem)⟩
  have hwaits : s.Waits → t.Waits := by
    rintro (hzero | ⟨buffer, hm⟩)
    · exact .inl (by omega)
    · exact .inr ⟨buffer, hmatches buffer hm⟩
  have hfree : s.HasFree → t.HasFree := fun ⟨b, hb, hnot⟩ =>
    ⟨b, hbuffers ▸ hb, fun hmem => hnot (hheld hmem)⟩
  cases phase with
  | python => exact hwaits h
  | select => exact hwaits h
  | dispatch events => exact hwaits h
  | acquire buffer left => exact hwaits h
  | requestUpdate left => exact h.imp hwaits fun hnew => ⟨hrequested.trans hnew.1, hfree hnew.2⟩
  | modeHandler events => exact h.imp hwaits fun hnew => ⟨hrequested.trans hnew.1, hfree hnew.2⟩
  | requesting left =>
    obtain ⟨buffer, hb, hnot⟩ := h
    exact ⟨buffer, hrequested.trans hb, fun hmem => hnot (hheld hmem)⟩
  | grabPixels left =>
    obtain ⟨hzero, buffer, hm⟩ := h
    exact ⟨by omega, buffer, hmatches buffer hm⟩
  | updateReady buffer events =>
    obtain ⟨hzero, hm⟩ := h
    exact ⟨by omega, hmatches buffer hm⟩

/-- Steps that leave the program where it is. -/
theorem Inv.elsewhere (h : s.Inv) (hphase : t.phase = s.phase) (hsuspended : t.suspended = s.suspended)
    (hbuffers : t.card.buffers = s.card.buffers)
    (hrequested : t.card.bufferRequested = s.card.bufferRequested)
    (hupdate : t.card.bufferToUpdate = s.card.bufferToUpdate)
    (hnumerator : s.card.numerator ≤ t.card.numerator) (hheld : t.held ⊆ s.held)
    (howed : t.owed ≤ s.owed) : t.Inv where
  suspended := hsuspended ▸ h.suspended
  requested := by
    rw [hrequested, hbuffers]
    exact h.requested
  fresh := by
    intro b hb
    rw [hbuffers] at hb
    exact (h.fresh b (hb.imp_left fun hmem => hheld hmem)).trans_le hnumerator
  owed_le := howed.trans h.owed_le
  atPhase := by
    rw [hphase]
    exact h.atPhase.mono hbuffers hrequested hupdate hheld howed

/-! ### Steps -/

theorem owed_eq (s : CardRun) : s.owed = s.wasUpdateRequested.toNat +
    (s.phase.events.count .updateReady + ((s.suspended.flatMap CardPhase.events).count .updateReady +
      s.pending.count .updateReady)) := by
  simp only [owed, inFlight, List.count_append]

/-- Moving through the program, with the events still to be handled the same. -/
theorem owed_congr (hw : t.wasUpdateRequested = s.wasUpdateRequested)
    (hsuspended : t.suspended = s.suspended) (hpending : t.pending = s.pending)
    (hevents : t.phase.events = s.phase.events) : t.owed = s.owed := by
  rw [owed_eq, owed_eq, hw, hsuspended, hpending, hevents]

theorem events_behind (left : Option (List CardEvent)) :
    (CardPhase.behind left).events = left.getD [] := by
  cases left <;> rfl

/-- A step from one place in a call of `handle_events` to another. -/
theorem Inv.move (h : s.Inv) (hsuspended : t.suspended = s.suspended)
    (hrequested : ∀ b ∈ t.card.bufferRequested, b ∈ t.card.buffers)
    (hfresh : ∀ b, b ∈ t.held ∨ b ∈ t.card.buffers → b < t.card.numerator)
    (howed : t.owed ≤ 1) (hat : t.AtPhase t.phase) : t.Inv where
  suspended := hsuspended ▸ h.suspended
  requested := hrequested
  fresh := hfresh
  owed_le := howed
  atPhase := hat

/-- The program goes on with the same updates to handle, and the card as it was. -/
theorem Inv.goto (h : s.Inv) {phase : CardPhase}
    (hevents : phase.events.count .updateReady = s.phase.events.count .updateReady)
    (hat : ({ s with phase := phase } : CardRun).owed = s.owed →
      ({ s with phase := phase } : CardRun).AtPhase phase) : Inv { s with phase := phase } := by
  have howed : ({ s with phase := phase } : CardRun).owed = s.owed := by
    rw [owed_eq, owed_eq, hevents]
  exact h.move rfl h.requested h.fresh (howed.trans_le h.owed_le) (hat howed)

/-- What Python code finds when a call of `handle_events` is over. -/
theorem Waits.inPython {phase : CardPhase} (hpython : phase.inPython = true) (h : s.Waits) :
    s.AtPhase phase := by
  cases phase with
  | python => exact h
  | acquire buffer left => exact h
  | modeHandler events => exact .inl h
  | _ => cases hpython

/-- A call of `handle_events` ends. -/
theorem Inv.leave (h : s.Inv) (hevents : s.phase.events = []) (hwaits : s.Waits) : s.leave.Inv := by
  have howed : s.leave.owed = s.owed := by
    rw [owed_eq, owed_eq, hevents, CardRun.leave]
    cases s.suspended with
    | nil => rfl
    | cons phase suspended => simp [add_assoc]
  have hpython : s.leave.phase.inPython = true := by
    have hsuspended := h.suspended
    rw [CardRun.leave]
    cases hs : s.suspended with
    | nil => rfl
    | cons phase suspended => exact hsuspended phase (by simp [hs])
  refine ⟨fun phase hphase => h.suspended phase (List.mem_of_mem_tail hphase), h.requested, h.fresh,
    howed.trans_le h.owed_le, ?_⟩
  exact Waits.inPython hpython (hwaits.congr rfl rfl rfl howed)

theorem Waits.behind (h : s.Waits) (left : Option (List CardEvent)) :
    s.AtPhase (.behind left) := by
  cases left <;> exact h

/-- `Card::request_update` picks a free buffer unless one is requested. -/
theorem Inv.requestUpdate (h : s.Inv) {left : Option (List CardEvent)}
    (hphase : s.phase = .requestUpdate left) : (s.requestUpdate left).Inv := by
  have hat := h.atPhase
  rw [hphase] at hat
  have hstays : s.Waits → ({ s with phase := .behind left } : CardRun).Inv := by
    intro hwaits
    refine h.goto (by rw [events_behind, hphase]; rfl) fun howed => ?_
    have hw : ({ s with phase := .behind left } : CardRun).Waits := hwaits.congr rfl rfl rfl howed
    exact hw.behind left
  unfold CardRun.requestUpdate
  split_ifs with hsome
  · refine hstays (hat.resolve_right fun hnew => ?_)
    rw [hnew.1] at hsome
    exact Bool.false_ne_true hsome
  · cases hfree : s.card.freeBuffer s.held with
    | none =>
      refine hstays (hat.resolve_right fun hnew => ?_)
      obtain ⟨buffer, hbuffer⟩ := freeBuffer_isSome hnew.2
      rw [hfree] at hbuffer
      cases hbuffer
    | some buffer =>
      obtain ⟨hmem, hnot⟩ := freeBuffer_not_mem hfree
      have howed' : ({ s with
          card := { s.card with bufferRequested := some buffer }
          phase := .requesting left } : CardRun).owed = s.owed :=
        owed_congr rfl rfl rfl (by rw [hphase]; rfl)
      refine h.move rfl (fun b hb => ?_) h.fresh (howed'.trans_le h.owed_le) ⟨buffer, rfl, hnot⟩
      obtain rfl := Option.some.inj hb
      exact hmem

/-- After the answer 1 no request is noted. -/
theorem clear_of_answer {requested requested' : Bool} (h : RequestAnswer requested 1 requested') :
    requested' = false := by
  generalize hret : (1 : ℤ) = ret at h
  cases h with
  | ignored => omega
  | ready => rfl
  | noted => omega
  | failed requested hneg => omega

/-- A request that is made while no event is on its way: only the request itself is owed after it. -/
theorem Inv.request (h : s.Inv) {left : Option (List CardEvent)} {buffer : ℕ} {ret : ℤ}
    {requested : Bool} (hphase : s.phase = .requesting left)
    (hbuffer : s.card.bufferRequested = some buffer)
    (hanswer : RequestAnswer s.wasUpdateRequested ret requested)
    (hsettled : CardEvent.updateReady ∉ s.inFlight) : (s.request left buffer ret requested).Inv := by
  have hat := h.atPhase
  rw [hphase] at hat
  obtain ⟨buffer', hbuffer', hnot⟩ := hat
  obtain rfl : buffer = buffer' := Option.some.inj (hbuffer.symm.trans hbuffer')
  have hmatches : (s.request left buffer ret requested).Matches buffer := ⟨hbuffer, rfl, hnot⟩
  have hevents : (s.request left buffer ret requested).phase.events = left.getD [] := by
    rw [CardRun.request]
    dsimp only
    split_ifs
    · rfl
    · exact events_behind left
  have hflight : (s.request left buffer ret requested).inFlight = s.inFlight := by
    rw [inFlight, inFlight, hevents, hphase]
    rfl
  have howed : (s.request left buffer ret requested).owed = requested.toNat := by
    rw [owed, hflight, List.count_eq_zero.2 hsettled, add_zero]
    rfl
  have hle : (s.request left buffer ret requested).owed ≤ 1 := by
    rw [howed]
    exact Bool.toNat_le requested
  by_cases hret : ret = 1
  · subst hret
    rw [clear_of_answer hanswer] at *
    have hgrab : (s.request left buffer 1 false).phase = .grabPixels left := by
      simp [CardRun.request]
    exact h.move rfl h.requested h.fresh hle (by rw [hgrab]; exact ⟨howed, _, hmatches⟩)
  · have hback : (s.request left buffer ret requested).phase = .behind left := by
      simp [CardRun.request, hret]
    refine h.move rfl h.requested h.fresh hle ?_
    rw [hback]
    exact Waits.behind (.inr ⟨buffer, hmatches⟩) left

/-- New buffers: none is requested, and all of them are free. -/
theorem Inv.makeBuffers (h : s.Inv) {events : List CardEvent}
    (hphase : s.phase = .dispatch (.modeChanged :: events)) :
    Inv { s with card := s.card.makeBuffers 2, phase := .modeHandler events } := by
  have howed : ({ s with
      card := s.card.makeBuffers 2
      phase := .modeHandler events } : CardRun).owed = s.owed := by
    rw [owed_eq, owed_eq, hphase]
    simp [CardPhase.events]
  have hfree : s.card.numerator ∉ s.held := fun hmem =>
    lt_irrefl _ (h.fresh s.card.numerator (.inl hmem))
  refine h.move rfl (fun b hb => by cases hb) ?_ (howed.trans_le h.owed_le)
    (.inr ⟨rfl, s.card.numerator, by simp [makeBuffers_two], hfree⟩)
  rw [makeBuffers_two]
  rintro b (hb | hb)
  · have := h.fresh b (.inl hb)
    dsimp only
    omega
  · simp only [List.mem_cons, List.not_mem_nil, or_false] at hb
    dsimp only
    omega

/-- A call of `handle_events` that Python code makes, in a handler or outside. -/
theorem Inv.handleEvents (h : s.Inv) (hpython : s.phase.inPython = true) :
    Inv { s with phase := .requestUpdate none, suspended := s.phase :: s.suspended } := by
  have howed : ({ s with
      phase := .requestUpdate none
      suspended := s.phase :: s.suspended } : CardRun).owed = s.owed := by
    rw [owed_eq, owed_eq]
    simp [CardPhase.events, add_assoc]
  have hwaits {u : CardRun} (hw : s.Waits) (hu : u = { s with
      phase := .requestUpdate none
      suspended := s.phase :: s.suspended }) : u.Waits := by
    subst hu
    exact hw.congr rfl rfl rfl howed
  have hat := h.atPhase
  refine ⟨?_, h.requested, h.fresh, howed.trans_le h.owed_le, ?_⟩
  · intro phase hphase
    rcases List.mem_cons.1 hphase with rfl | hphase
    · exact hpython
    · exact h.suspended phase hphase
  · cases hphase : s.phase with
    | python =>
      rw [hphase] at hat
      exact .inl (hwaits hat (by rw [hphase]))
    | acquire buffer left =>
      rw [hphase] at hat
      exact .inl (hwaits hat (by rw [hphase]))
    | modeHandler events =>
      rw [hphase] at hat
      exact hat.imp (hwaits · (by rw [hphase])) id
    | _ => simp [hphase, CardPhase.inPython] at hpython

/-- The acquire handler gets the buffer. -/
theorem Inv.grabPixels (h : s.Inv) {left : Option (List CardEvent)} {buffer : ℕ}
    (hphase : s.phase = .grabPixels left) (hbuffer : s.card.bufferRequested = some buffer) :
    Inv { s with held := buffer :: s.held, phase := .acquire buffer left } := by
  have hat := h.atPhase
  rw [hphase] at hat
  have howed : ({ s with
      held := buffer :: s.held
      phase := .acquire buffer left } : CardRun).owed = s.owed :=
    owed_congr rfl rfl rfl (by rw [hphase]; rfl)
  refine h.move rfl h.requested ?_ (howed.trans_le h.owed_le) (.inl (howed.trans hat.1))
  rintro b (hb | hb)
  · rcases List.mem_cons.1 hb with rfl | hb
    · exact h.fresh b (.inr (h.requested b hbuffer))
    · exact h.fresh b (.inl hb)
  · exact h.fresh b (.inr hb)

/-- The acquire handler returns, and has kept the buffer or not. If another one was requested meanwhile, it
is free again. -/
theorem Inv.acquired (h : s.Inv) {left : Option (List CardEvent)} {buffer : ℕ} (keep : Bool)
    (hphase : s.phase = .acquire buffer left) :
    Inv { s with
      card := { s.card with bufferRequested := none }
      held := if keep then s.held else s.held.erase buffer
      phase := .requestUpdate left } := by
  have hat := h.atPhase
  rw [hphase] at hat
  have hheld : (if keep then s.held else s.held.erase buffer) ⊆ s.held := by
    split_ifs
    · exact List.Subset.refl _
    · exact List.erase_subset
  have howed : ({ s with
      card := { s.card with bufferRequested := none }
      held := if keep then s.held else s.held.erase buffer
      phase := .requestUpdate left } : CardRun).owed = s.owed :=
    owed_congr rfl rfl rfl (by rw [hphase]; rfl)
  refine h.move rfl (fun b hb => by cases hb) ?_ (howed.trans_le h.owed_le) ?_
  · exact fun b hb => h.fresh b (hb.imp_left fun hmem => hheld hmem)
  · rcases hat with hzero | ⟨other, hb, -, hnot⟩
    · exact .inl (.inl (howed.trans hzero))
    · exact .inr ⟨rfl, other, h.requested other hb, fun hmem => hnot (hheld hmem)⟩

/-- A batch of events is read. -/
theorem Inv.read (h : s.Inv) (n : ℕ) (hphase : s.phase = .select) :
    Inv { s with phase := .dispatch (s.pending.take n), pending := s.pending.drop n } := by
  have hat := h.atPhase
  rw [hphase] at hat
  have howed : ({ s with
      phase := .dispatch (s.pending.take n)
      pending := s.pending.drop n } : CardRun).owed = s.owed := by
    have hsplit := congrArg (List.count .updateReady) (List.take_append_drop n s.pending)
    rw [List.count_append] at hsplit
    rw [owed_eq, owed_eq, hphase]
    simp only [CardPhase.events, List.count_nil]
    omega
  exact h.move rfl h.requested h.fresh (howed.trans_le h.owed_le) (Waits.congr hat rfl rfl rfl howed)

/-- An `UPDATE_READY` event is handled: it was the one update that was owed. -/
theorem Inv.dispatchUpdateReady (h : s.Inv) {events : List CardEvent}
    (hphase : s.phase = .dispatch (.updateReady :: events)) :
    Inv { s with phase := .updateReady s.card.bufferToUpdate events } := by
  have hat := h.atPhase
  rw [hphase] at hat
  have howed : ({ s with
      phase := .updateReady s.card.bufferToUpdate events } : CardRun).owed + 1 = s.owed := by
    rw [owed_eq, owed_eq, hphase]
    simp only [CardPhase.events, List.count_cons_self]
    omega
  obtain ⟨buffer, hm⟩ := Waits.matches hat (by omega)
  have hle := h.owed_le
  refine h.move rfl h.requested h.fresh (by omega) ⟨by omega, ?_⟩
  exact ⟨by rw [hm.2.1]; exact hm.1, rfl, by rw [hm.2.1]; exact hm.2.2⟩

/-- **The step lemma.** -/
theorem step_inv {a : Action} (hstep : SettledStep s a t) (h : s.Inv) : t.Inv := by
  obtain ⟨hstep, hsettled⟩ := hstep
  have hat := h.atPhase
  cases hstep with
  | handleEvents hpython => exact h.handleEvents hpython
  | requestUpdate hphase => exact h.requestUpdate hphase
  | request hphase hbuffer hanswer => exact h.request hphase hbuffer hanswer hsettled
  | @grabNothing left hphase hnone =>
    rw [hphase] at hat
    obtain ⟨-, buffer, hm, -⟩ := hat
    rw [hnone] at hm
    cases hm
  | grabPixels hphase hbuffer => exact h.grabPixels hphase hbuffer
  | acquired keep hphase => exact h.acquired keep hphase
  | timeout hphase =>
    rw [hphase] at hat
    exact h.leave (by rw [hphase]; rfl) hat
  | read n hphase => exact h.read n hphase
  | handled hphase =>
    rw [hphase] at hat
    exact h.leave (by rw [hphase]; rfl) hat
  | dispatchUpdateReady hphase => exact h.dispatchUpdateReady hphase
  | dispatchModeChanged hphase => exact h.makeBuffers hphase
  | @dispatchOther events hphase =>
    rw [hphase] at hat
    refine h.goto (by simp [hphase, CardPhase.events]) fun howed => ?_
    exact Waits.congr hat rfl rfl rfl howed
  | @updateReady buffer events hphase hbuffer =>
    rw [hphase] at hat
    refine h.goto (by rw [hphase]; rfl) fun howed => ?_
    exact ⟨howed.trans hat.1, buffer, hat.2⟩
  | @modeHandled events hphase =>
    rw [hphase] at hat
    refine h.goto (by rw [hphase]; rfl) fun howed => ?_
    exact Or.imp (fun hwaits : s.Waits => hwaits.congr rfl rfl rfl howed) id hat
  | drop buffer => exact h.elsewhere rfl rfl rfl rfl rfl le_rfl List.erase_subset le_rfl
  | makeElsewhere count =>
    exact h.elsewhere rfl rfl rfl rfl rfl (Nat.le_add_right _ count) (List.Subset.refl _) le_rfl
  | sendUpdateReady hset =>
    -- the request becomes an event
    refine h.elsewhere rfl rfl rfl rfl rfl le_rfl (List.Subset.refl _) ?_
    rw [owed_eq, owed_eq, hset, List.count_append]
    simp only [Bool.toNat_true, Bool.toNat_false, List.count_singleton_self]
    omega
  | @sendEvent e he =>
    refine h.elsewhere rfl rfl rfl rfl rfl le_rfl (List.Subset.refl _) ?_
    rw [owed_eq, owed_eq, List.count_append, List.count_singleton]
    simp [he]
  | forget =>
    refine h.elsewhere rfl rfl rfl rfl rfl le_rfl (List.Subset.refl _) ?_
    rw [owed_eq, owed_eq]
    simp

theorem Inv.knows (h : s.Inv) : s.Knows := by
  have hat := h.atPhase
  refine ⟨fun buffer events hphase => ?_, fun buffer htarget => ?_⟩
  · rw [hphase] at hat
    exact hat.2.1
  · unfold target at htarget
    split at htarget
    · rename_i left hphase
      rw [hphase] at hat
      obtain ⟨buffer', hb, hnot⟩ := hat
      obtain rfl := Option.some.inj (htarget.symm.trans hb)
      exact hnot
    · rename_i left hphase
      rw [hphase] at hat
      obtain ⟨-, buffer', hb, hu, hnot⟩ := hat
      rw [hb] at htarget
      obtain rfl : s.card.bufferToUpdate = buffer := Option.some.inj htarget
      exact hu ▸ hnot
    · cases htarget

/-- **The buffer of an update is known**, and no buffer that Python code holds is written to, in every run
in which no request is made while an `UPDATE_READY` event is on its way. -/
theorem update_buffer_known {numerator : ℕ} {as : List Action} {s : CardRun}
    (hrun : Run SettledStep (init numerator) as s) : s.Knows :=
  (hrun.invariant (fun _ _ _ h hstep => step_inv hstep h) (inv_init numerator)).knows

/-! ### Two sample runs -/

/-- A card of two buffers, the first of which has been requested. -/
def sampleRequested : CardRun where
  card := ⟨[0, 1], some 0, 2, 0⟩
  held := []
  wasUpdateRequested := true
  pending := []
  phase := .python
  suspended := []

theorem run_sampleRequested : ∃ as, Run SettledStep (init 0) as sampleRequested := by
  have hsent : Run SettledStep (init 0) [.sendEvent .modeChanged]
      { init 0 with pending := [.modeChanged] } := .one ⟨.sendEvent (by decide), trivial⟩
  have hcalled := (hsent.snoc ⟨.handleEvents rfl, trivial⟩).snoc ⟨.requestUpdate rfl, trivial⟩
  have hmode := ((hcalled.snoc ⟨.read 1 rfl, trivial⟩).snoc
    ⟨.dispatchModeChanged rfl, trivial⟩).snoc ⟨.modeHandled rfl, trivial⟩
  have hrequested := (hmode.snoc ⟨.requestUpdate rfl, trivial⟩).snoc
    ⟨.request rfl rfl .noted, List.not_mem_nil⟩
  exact ⟨_, hrequested.snoc ⟨.handled rfl, trivial⟩⟩

/-- The update for it. -/
theorem update_buffer_known_first : ∃ as s, Run SettledStep (init 0) as s ∧
    s.phase = .updateReady 0 [] ∧ s.Knows := by
  obtain ⟨as, hrun⟩ := run_sampleRequested
  have hsent := hrun.snoc ⟨.sendUpdateReady rfl, trivial⟩
  have hcalled := (hsent.snoc ⟨.handleEvents rfl, trivial⟩).snoc ⟨.requestUpdate rfl, trivial⟩
  have hupdate := (hcalled.snoc ⟨.read 1 rfl, trivial⟩).snoc ⟨.dispatchUpdateReady rfl, trivial⟩
  exact ⟨_, _, hupdate, rfl, update_buffer_known hupdate⟩

/-- A mode change before the update, in one batch: both new buffers are grabbed at once, and kept. -/
theorem stale_update_unknown : ∃ as s, Run Step (init 0) as s ∧
    s.phase = .updateReady 3 [] ∧ s.card.bufferRequested = none := by
  obtain ⟨as, hrun⟩ := run_sampleRequested
  have hrun : Run Step (init 0) as sampleRequested := by
    simpa using hrun.map id id fun _ _ _ h => h.1
  have hsent := (hrun.snoc (.sendEvent (e := .modeChanged) (by decide))).snoc (.sendUpdateReady rfl)
  have hcalled := (hsent.snoc (.handleEvents rfl)).snoc (.requestUpdate rfl)
  have hmode := ((hcalled.snoc (.read 2 rfl)).snoc (.dispatchModeChanged rfl)).snoc
    (.modeHandled rfl)
  have hfirst := (((hmode.snoc (.requestUpdate rfl)).snoc (.request rfl rfl .ready)).snoc
    (.grabPixels rfl rfl)).snoc (.acquired true rfl)
  have hsecond := (((hfirst.snoc (.requestUpdate rfl)).snoc (.request rfl rfl .ready)).snoc
    (.grabPixels rfl rfl)).snoc (.acquired true rfl)
  have hupdate := (hsecond.snoc (.requestUpdate rfl)).snoc (.dispatchUpdateReady rfl)
  exact ⟨_, _, hupdate, rfl, rfl⟩

end CardRun

end Evdi
