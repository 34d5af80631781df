import Evdi.Foundations.Transition
import Evdi.Properties.Notify

/-!
# No lost wake-up

The runs of a device with its clients, its delayed work and a compositor whose commits do not overlap:
a client's call and a section of the delayed work may fall between any two sections of a commit.

* `Sessions.Inv`: the invariant, "when no commit is in progress the device is quiet, and the commit in
  progress will leave it quiet";
* `Sessions.Step.effect`: what one step does to the request flag and the queue;
* `Sessions.no_lost_wakeup`: the results.
-/

namespace Evdi

open Atomic Transition Bytes

/-- A device with its clients, the commit in progress, and the delayed work. -/
structure Sessions extends Clients where
  commit : Option (Prog Device Unit)
  work : Prog Device Unit

namespace Sessions

/-- What may happen. -/
inductive Action
  | client (call : ClientCall)
  | work
  | commitStart (c : Commit)
  | commitSection
  | commitEnd

/-- One step: of a client, or a section of the delayed work or of the commit. -/
inductive Step : Sessions → Action → Sessions → Prop
  | client {s : Sessions} {c : Clients} {call : ClientCall} :
      ClientStep s.toClients call c → Step s (.client call) { s with toClients := c }
  | workStart {s : Sessions} {u : Unit} : s.work = .pure u →
      Step s .work { s with work := sendEventsWork }
  | workSection {s : Sessions} {f : Device → Device} {k : Device → Prog Device Unit} :
      s.work = .sec f k → Step s .work { s with device := f s.device, work := k s.device }
  | commitStart {s : Sessions} (c : Commit) : s.commit = none →
      Step s (.commitStart c) { s with commit := some c.run }
  | commitSection {s : Sessions} {f : Device → Device} {k : Device → Prog Device Unit} :
      s.commit = some (.sec f k) →
      Step s .commitSection { s with device := f s.device, commit := some (k s.device) }
  | commitEnd {s : Sessions} {u : Unit} : s.commit = some (.pure u) →
      Step s .commitEnd { s with commit := none }

/-- Before the first client: a fresh device, and nothing in progress. -/
def init (fgConsole : ℤ) (drm : DrmCore) : Sessions where
  device := Device.init fgConsole drm
  commit := none
  work := .pure ()
  grabs := []

/-! ### The invariant -/

/-- The commit in progress will leave the device quiet, or has no section left and did. -/
def Settles (d : Device) (p : Prog Device Unit) : Prop :=
  p.Establishes Device.Quiet ∨ (∃ u, p = .pure u) ∧ d.Quiet

/-- Commits and the delayed work are made of the sections of the driver, and no request waits on
pending rectangles unless a commit is still to look. -/
structure Inv (s : Sessions) : Prop where
  work : s.work.Uses SendSection
  commit : ∀ p, s.commit = some p → p.Uses CommitSection ∧ Settles s.device p
  quiet : s.commit = none → s.device.Quiet

theorem inv_init (fgConsole : ℤ) (drm : DrmCore) : (init fgConsole drm).Inv where
  work := trivial
  commit := by simp [init]
  quiet _ := quiet_of_not_requested rfl

/-- A step outside the commit keeps the invariant when it keeps the device quiet. -/
theorem Inv.of_quiet {s t : Sessions} (h : s.Inv) (hcommit : t.commit = s.commit)
    (hwork : t.work.Uses SendSection) (hquiet : s.device.Quiet → t.device.Quiet) : t.Inv where
  work := hwork
  commit := by
    intro p hp
    obtain ⟨huses, hsettles⟩ := h.commit p (hcommit ▸ hp)
    refine ⟨huses, ?_⟩
    rcases hsettles with hest | ⟨hpure, hq⟩
    · exact .inl hest
    · exact .inr ⟨hpure, hquiet hq⟩
  quiet hnone := hquiet (h.quiet (hcommit ▸ hnone))

theorem Inv.step {s t : Sessions} {a : Action} (h : s.Inv) (hstep : Step s a t) : t.Inv := by
  cases hstep with
  | @client c call hcall =>
    obtain ⟨f, hf, heq⟩ := hcall.section
    refine h.of_quiet rfl h.work fun hq => ?_
    show c.device.Quiet
    exact heq ▸ hf.quiet hq
  | workStart _ => exact h.of_quiet rfl sendEventsWork_uses id
  | workSection hw =>
    have huses := h.work
    rw [hw] at huses
    refine h.of_quiet rfl (huses.2 _) fun hq => hq.of_keeps (huses.1.keeps _) ?_
    rw [numDirts_pos, numDirts_pos, dirtyRects_eq_of_damageView (huses.1.damageView_eq _)]
    exact id
  | commitStart c hnone =>
    refine ⟨h.work, ?_, by simp⟩
    rintro p ⟨⟩
    exact ⟨c.run_uses, .inl c.run_establishes⟩
  | @commitSection f k hc =>
    obtain ⟨huses, hsettles⟩ := h.commit _ hc
    refine ⟨h.work, ?_, by simp⟩
    rintro p ⟨⟩
    refine ⟨huses.2 _, ?_⟩
    rcases hsettles with hest | ⟨⟨u, hu⟩, -⟩
    · rcases hest s.device with ⟨hpure, hq⟩ | hest
      · exact .inr ⟨hpure, hq⟩
      · exact .inl hest
    · exact absurd hu (by simp)
  | @commitEnd u hc =>
    obtain ⟨-, hsettles⟩ := h.commit _ hc
    refine ⟨h.work, by simp, fun _ => ?_⟩
    rcases hsettles with hest | ⟨-, hq⟩
    · exact hest.elim
    · exact hq

theorem inv_run {fgConsole : ℤ} {drm : DrmCore} {as : List Action} {s : Sessions}
    (h : Run Step (init fgConsole drm) as s) : s.Inv :=
  h.invariant (fun _ _ _ hs hst => hs.step hst) (inv_init fgConsole drm)

/-! ### What one step does -/

/-- Every step keeps the request flag, sets it, clears it with a notification, or ends the
session. -/
inductive Effect (d d' : Device) : Prop
  | call (h : CallEffect d d')
  | notifies (h : Notifies d d')

theorem Step.effect {s t : Sessions} {a : Action} (h : s.Inv) (hstep : Step s a t) :
    Effect s.device t.device := by
  cases hstep with
  | @client c call hcall =>
    obtain ⟨f, hf, heq⟩ := hcall.section
    show Effect s.device c.device
    exact .call (heq ▸ hf.effect s.device)
  | workStart _ => exact .call (.keeps (Keeps.refl _))
  | workSection hw =>
    have huses := h.work
    rw [hw] at huses
    exact .call (.keeps (huses.1.keeps _))
  | commitStart c _ => exact .call (.keeps (Keeps.refl _))
  | commitSection hc =>
    obtain ⟨huses, -⟩ := h.commit _ hc
    rcases huses.1.advances s.device with hk | hn
    · exact .call (.keeps hk)
    · exact .notifies hn
  | commitEnd _ => exact .call (.keeps (Keeps.refl _))

/-! ### A waiting client -/

/-- The request is still set, or an `UPDATE_READY` event was submitted after the first `n` events. -/
def Awaiting (n : ℕ) (d : Device) : Prop :=
  requested d = true ∨ ∃ e ∈ d.drm.submitted.drop n, e.event = .updateReady

/-- Every allocation to come succeeds. -/
def AllocationsSucceed (d : Device) : Prop := ∀ i, d.drm.kzalloc.get i = true

/-- While the client stays connected and allocations succeed, a waiting client keeps waiting or is
notified. -/
theorem Effect.awaiting {d d' : Device} {n : ℕ} (h : Effect d d') (hd : canSend d = true)
    (hd' : canSend d' = true) (hk : AllocationsSucceed d) (hn : n ≤ d.drm.submitted.length)
    (hw : Awaiting n d) :
    AllocationsSucceed d' ∧ n ≤ d'.drm.submitted.length ∧ Awaiting n d' := by
  have halloc : (∃ m, d'.drm.kzalloc = d.drm.kzalloc.drop m) → AllocationsSucceed d' := by
    rintro ⟨m, hm⟩ i
    rw [hm, Stream'.get_drop]
    exact hk _
  have hkeep : requested d' = requested d → d.drm.submitted <+: d'.drm.submitted →
      n ≤ d'.drm.submitted.length ∧ Awaiting n d' := by
    refine fun hreq hsub => ⟨hn.trans hsub.length_le, ?_⟩
    rcases hw with hset | ⟨e, he, hready⟩
    · exact .inl (hreq ▸ hset)
    · exact .inr ⟨e, (hsub.drop n).subset he, hready⟩
  cases h with
  | call h =>
    cases h with
    | keeps h => exact ⟨halloc h.kzalloc, hkeep h.requested_eq h.submitted⟩
    | asks h hs hk' => exact ⟨halloc ⟨0, hk'⟩, by rwa [hs], .inl h⟩
    | ends h hc hs => exact absurd hd' (by simp [hc])
  | notifies h =>
    obtain ⟨e, hready, -, hsub⟩ := h.appended hd (hk 0)
    refine ⟨halloc h.kzalloc, hn.trans h.submitted.length_le, .inr ⟨e, ?_, hready⟩⟩
    rw [hsub, List.drop_append_of_le_length hn]
    simp

/-- A step after which the client is connected. -/
def ConnectedStep (s : Sessions) (a : Action) (t : Sessions) : Prop :=
  canSend t.device = true ∧ Step s a t

theorem awaiting_run {s t : Sessions} {bs : List Action} {n : ℕ}
    (h : Run ConnectedStep s bs t) (hinv : s.Inv) (hd : canSend s.device = true)
    (hk : AllocationsSucceed s.device) (hn : n ≤ s.device.drm.submitted.length)
    (hw : Awaiting n s.device) : t.Inv ∧ Awaiting n t.device := by
  have hrun := h.invariant (I := fun s => s.Inv ∧ canSend s.device = true ∧
    AllocationsSucceed s.device ∧ n ≤ s.device.drm.submitted.length ∧ Awaiting n s.device)
    (fun s a t ⟨hi, hc, hk, hn, hw⟩ ⟨hc', hst⟩ =>
      ⟨hi.step hst, hc', (hst.effect hi).awaiting hc hc' hk hn hw⟩) ⟨hinv, hd, hk, hn, hw⟩
  exact ⟨hrun.1, hrun.2.2.2.2⟩

/-- A client that is answered 0 waits. -/
theorem requested_of_answer {d d' : Device} (h : painterRequestUpdateIoctl d = (d', 0)) :
    requested d' = true := by
  rcases painterRequestUpdateIoctl_cases d with ⟨-, heq⟩ | ⟨hwaits, heq⟩ | ⟨-, -, heq⟩ |
    ⟨-, -, hp, heq⟩
  all_goals obtain ⟨rfl, hret⟩ := Prod.mk.inj (heq.symm.trans h)
  · exact absurd hret (by decide)
  · exact hwaits
  · exact absurd hret (by decide)
  · exact requested_accepted hp

/-! ### Commits without interference -/

/-- Running the sections of the commit in progress one after the other is a run. -/
theorem run_exec {s : Sessions} {p : Prog Device Unit} (h : s.commit = some p) :
    ∃ as, Run Step s as
      { s with device := (p.exec s.device).1, commit := some (.pure (p.exec s.device).2) } := by
  induction p generalizing s with
  | pure u =>
    have hs : s = { s with device := s.device, commit := some (.pure u) } := by rw [← h]
    exact ⟨[], hs ▸ Run.nil s⟩
  | sec f k ih =>
    obtain ⟨as, hrun⟩ := ih s.device (s := { s with
      device := f s.device, commit := some (k s.device) }) rfl
    exact ⟨_, (Run.one (Step.commitSection h)).append hrun⟩

/-- **A commit without interference** is a run, and ends in the state its program computes. -/
theorem run_commit {s : Sessions} (c : Commit) (h : s.commit = none) :
    ∃ as, Run Step s as { s with device := (c.run.exec s.device).1, commit := none } := by
  obtain ⟨as, hrun⟩ := run_exec (s := { s with commit := some c.run }) rfl
  exact ⟨_, ((Run.one (Step.commitStart c h)).append hrun).snoc (Step.commitEnd rfl)⟩

/-! ### The results -/

/-- **No lost wake-up.** In every state of every run:

* when no commit is in progress, no request waits while rectangles are pending;
* a section of a commit that clears the request puts an `UPDATE_READY` event at the end of the queue,
  when the client is connected and the allocation succeeds;
* a client that is now answered 0, and stays connected while allocations succeed, has been sent an
  `UPDATE_READY` event by the time rectangles are pending and no commit is in progress. -/
theorem no_lost_wakeup {fgConsole : ℤ} {drm : DrmCore} {as : List Action} {s : Sessions}
    (h : Run Step (init fgConsole drm) as s) :
    (s.commit = none →
      ¬ (requested s.device = true ∧ painterGetNumDirts s.device > 0)) ∧
    (∀ t, Step s .commitSection t → requested s.device = true → requested t.device = false →
      canSend s.device = true → s.device.drm.kzalloc.head = true →
      ∃ e : PendingEvent, e.event = .updateReady ∧ t.device.queue = s.device.queue ++ [e]) ∧
    (∀ s' bs t, Step s (.client (.requestUpdate 0)) s' → canSend s'.device = true →
      AllocationsSucceed s'.device → Run ConnectedStep s' bs t → t.commit = none →
      painterGetNumDirts t.device > 0 →
      ∃ e ∈ t.device.drm.submitted.drop s'.device.drm.submitted.length, e.event = .updateReady) := by
  have hinv := inv_run h
  refine ⟨hinv.quiet, ?_, ?_⟩
  · intro t hstep hset hclear hd hk
    cases hstep with
    | commitSection hc =>
      obtain ⟨huses, -⟩ := hinv.commit _ hc
      rcases huses.1.advances s.device with hkeep | hnotify
      · rw [hkeep.requested_eq, hset] at hclear
        exact absurd hclear (by simp)
      · obtain ⟨e, he, hqueue, -⟩ := hnotify.appended hd hk
        exact ⟨e, he, hqueue⟩
  · intro s' bs t hask hd hk hrun hnone hdirts
    have hinv' := hinv.step hask
    have hset : requested s'.device = true := by
      cases hask with
      | client hcall =>
        cases hcall with
        | requestUpdate heq => exact requested_of_answer heq
    obtain ⟨hinv'', hwait⟩ := awaiting_run hrun hinv' hd hk le_rfl (.inl hset)
    rcases hwait with hset' | hready
    · exact absurd ⟨hset', hdirts⟩ (hinv''.quiet hnone)
    · exact hready

/-- A client connects and is answered 0; the commit that follows leaves one rectangle pending, and
the client does not wait any more. -/
theorem no_lost_wakeup_commit : ∃ as s,
    Run Step (init 0 (.init (.const true) (.const true))) as s ∧
    s.device.painter.map (·.isConnected) = some true ∧ painterGetNumDirts s.device = 1 ∧
    requested s.device = false := by
  have hask : ∃ s, Run Step (init 0 (.init (.const true) (.const true)))
      [.client (.connect .sample 1 0), .client (.requestUpdate 0)] s ∧ s.commit = none ∧
      requested s.device = true ∧
      (let d := ((Commit.sample [.primary (.sample none) (.sample (some (.sample 1 64 64 256)))
        [⟨0, 0, 8, 8⟩]]).run.exec s.device).1
      d.painter.map (·.isConnected) = some true ∧ painterGetNumDirts d = 1) :=
    ⟨_, ((Run.nil _).snoc (.client (.connect (fun _ => sampleUser 0) ⟨true, true⟩ rfl))).snoc
      (.client (.requestUpdate rfl)), rfl, rfl, rfl, rfl⟩
  obtain ⟨s, hrun, hnone, -, hconn, hdirts⟩ := hask
  obtain ⟨bs, hcommit⟩ := run_commit (Commit.sample [.primary (.sample none)
    (.sample (some (.sample 1 64 64 256))) [⟨0, 0, 8, 8⟩]]) hnone
  refine ⟨_, _, hrun.append hcommit, hconn, hdirts, ?_⟩
  have hquiet := (no_lost_wakeup (hrun.append hcommit)).1 rfl
  refine Bool.eq_false_iff.2 fun hset => hquiet ⟨hset, ?_⟩
  exact hdirts ▸ one_pos

end Sessions

end Evdi
