import Evdi.Foundations.Transition
import Evdi.Model.Client
import Evdi.Model.Modeset

/-!
# The whole device

A device with its clients and the kernel's own threads.  Any number of threads are under way, and the
atomic sections of all parties fall in any order.

* `KernelThread`: the threads;
* `System.Step`: one step of a client or of a thread, or the end of the painter;
* `System.Step.device_cases`, `System.run_invariant`: what a step does to the device, and what every run
  keeps.
-/

namespace Evdi

open Atomic Transition

/-- The marks of `evdi_user_framebuffer_dirty`, which then makes a commit. -/
def userFramebufferDirty (clips : List ClipRect) : Prog Device Unit :=
  .each (fun clip => .modify (painterMarkDirty clip)) clips

/-- The kernel's own threads: the compositor's commits, the marks before the commit of a dirty
framebuffer, changes of the scanout buffer, and the delayed work. -/
inductive KernelThread : Prog Device Unit → Prop
  | commit (c : Commit) : KernelThread c.run
  | userFramebufferDirty (clips : List ClipRect) : KernelThread (userFramebufferDirty clips)
  | setScanoutBuffer (fb : Option Framebuffer) : KernelThread (painterSetScanoutBuffer fb)
  | sendEventsWork : KernelThread sendEventsWork

/-- The threads are made of what commits are made of, and the sections of the delayed work. -/
theorem KernelThread.uses_of {P : (Device → Device) → Prop} (hP : CommitKinds P)
    (hwork : Evdi.sendEventsWork.Uses P) {p : Prog Device Unit} (h : KernelThread p) : p.Uses P := by
  cases h with
  | commit c => exact hP.commit c
  | userFramebufferDirty clips =>
    exact Prog.uses_each (fun clip => Prog.uses_modify (hP.markDirty clip)) clips
  | setScanoutBuffer fb => exact hP.setScanoutBuffer fb
  | sendEventsWork => exact hwork

theorem KernelThread.uses {p : Prog Device Unit} (h : KernelThread p) : p.Uses CommitSection :=
  h.uses_of commitKinds_commitSection (sendEventsWork_uses.mono fun _ => .send)

/-- A device with its clients, and the threads under way. -/
structure System extends Clients where
  threads : List (Prog Device Unit)

namespace System

/-- What may happen. -/
inductive Action
  | client (call : ClientCall)
  | kernel
  | cleanup

/-- One step: of a client, the start or a section of a thread, or the end of the painter. -/
inductive Step : System → Action → System → Prop
  | client {s : System} {c : Clients} {call : ClientCall} :
      ClientStep s.toClients call c → Step s (.client call) { s with toClients := c }
  | kernel {s : System} {d : Device} {ts : List (Prog Device Unit)} :
      PoolStep KernelThread (s.device, s.threads) () (d, ts) →
      Step s .kernel { s with device := d, threads := ts }
  | cleanup {s : System} : Step s .cleanup { s with device := painterCleanup s.device }

/-- Before the first client: a fresh device, and nothing under way. -/
def init (fgConsole : ℤ) (drm : DrmCore) : System where
  device := Device.init fgConsole drm
  grabs := []
  threads := []

/-! ### What the threads are made of -/

/-- What a step of the threads does: a thread starts, or one runs a section of its kind. -/
theorem kernel_cases {P : (Device → Device) → Prop} (hP : ∀ p, KernelThread p → p.Uses P)
    {d d' : Device} {ts ts' : List (Prog Device Unit)} {u : Unit}
    (h : PoolStep KernelThread (d, ts) u (d', ts')) (hts : ∀ p ∈ ts, p.Uses P) :
    (d' = d ∨ ∃ f, P f ∧ d' = f d) ∧ ∀ p ∈ ts', p.Uses P := by
  rcases h with hp | ⟨⟩
  · refine ⟨.inl rfl, fun q hq => ?_⟩
    rcases List.mem_append.1 hq with hq | hq
    · exact hts q hq
    · rw [List.mem_singleton.1 hq]
      exact hP _ hp
  · rename_i l r f k
    obtain ⟨hf, hk⟩ := hts (.sec f k) (by simp)
    refine ⟨.inr ⟨f, hf, rfl⟩, fun q hq => ?_⟩
    simp only [List.mem_append, List.mem_cons] at hq hts
    rcases hq with hq | rfl | hq
    · exact hts q (.inl hq)
    · exact hk d
    · exact hts q (.inr (.inr hq))

/-- All threads are made of the sections of commits. -/
def ThreadsUse (P : (Device → Device) → Prop) (s : System) : Prop := ∀ p ∈ s.threads, p.Uses P

/-- **Every step** is a section of a client or of the kernel, the end of the painter, or leaves the
device alone. -/
theorem Step.device_cases {P : (Device → Device) → Prop} (hP : ∀ p, KernelThread p → p.Uses P)
    {s t : System} {a : Action} (h : Step s a t) (hs : s.ThreadsUse P) :
    ((∃ f, ClientSection f ∧ t.device = f s.device) ∨ t.device = s.device ∨
      (∃ f, P f ∧ t.device = f s.device) ∨ t.device = painterCleanup s.device) ∧
    t.ThreadsUse P := by
  cases h with
  | client hcall =>
    obtain ⟨f, hf, heq⟩ := hcall.section
    exact ⟨.inl ⟨f, hf, heq⟩, hs⟩
  | kernel hpool =>
    obtain ⟨hdev, hts⟩ := kernel_cases hP hpool hs
    refine ⟨.inr ?_, hts⟩
    rcases hdev with heq | hsec
    · exact .inl heq
    · exact .inr (.inl hsec)
  | cleanup => exact ⟨.inr (.inr (.inr rfl)), hs⟩

/-- **Invariant rule.** What the sections of clients and commits and the end of the painter keep, every
run keeps. -/
theorem run_invariant {I : Device → Prop} (hclient : ∀ f, ClientSection f → ∀ d, I d → I (f d))
    (hcommit : ∀ f, CommitSection f → ∀ d, I d → I (f d))
    (hcleanup : ∀ d, I d → I (painterCleanup d)) {s t : System} {as : List Action}
    (h : Run Step s as t) (hs : s.ThreadsUse CommitSection) (h0 : I s.device) :
    I t.device ∧ t.ThreadsUse CommitSection := by
  refine h.invariant (I := fun s => I s.device ∧ s.ThreadsUse CommitSection) ?_ ⟨h0, hs⟩
  rintro s a t ⟨hI, hs⟩ hstep
  obtain ⟨hdev, ht⟩ := hstep.device_cases (fun _ => KernelThread.uses) hs
  refine ⟨?_, ht⟩
  rcases hdev with ⟨f, hf, heq⟩ | heq | ⟨f, hf, heq⟩ | heq
  · exact heq ▸ hclient f hf _ hI
  · exact heq ▸ hI
  · exact heq ▸ hcommit f hf _ hI
  · exact heq ▸ hcleanup _ hI

theorem threadsUse_init (P : (Device → Device) → Prop) (fgConsole : ℤ) (drm : DrmCore) :
    (init fgConsole drm).ThreadsUse P := by
  simp [ThreadsUse, init]

/-- The threads of a system that has run from its start. -/
theorem threadsUse_run {P : (Device → Device) → Prop} (hP : ∀ p, KernelThread p → p.Uses P)
    {fgConsole : ℤ} {drm : DrmCore} {as : List Action} {s : System}
    (h : Run Step (init fgConsole drm) as s) : s.ThreadsUse P :=
  h.invariant (I := fun s => s.ThreadsUse P) (fun _ _ _ hs hstep => (hstep.device_cases hP hs).2)
    (threadsUse_init _ _ _)

/-- A thread that runs without interference, from its start to its end, by steps of the kernel. -/
theorem run_kernel {p : Prog Device Unit} (hp : KernelThread p) (s : System) : ∃ us : List Unit,
    Run (fun s _ t => Step s .kernel t) s us
      { s with device := (p.exec s.device).1, threads := s.threads ++ [.pure ()] } := by
  obtain ⟨n, hexec⟩ := @PoolStep.exec _ KernelThread p s.device s.threads []
  have hpool := (Run.one (PoolStep.start hp)).append hexec
  -- each step of the pool is a step of the system
  let lift (c : Device × List (Prog Device Unit)) : System := { s with device := c.1, threads := c.2 }
  have hrun : Run (fun s _ t => Step s .kernel t) (lift (s.device, s.threads)) _
      (lift ((p.exec s.device).1, s.threads ++ [.pure ()])) :=
    hpool.map lift id fun _ _ _ hstep => Step.kernel hstep
  exact ⟨_, hrun⟩

theorem run_thread {p : Prog Device Unit} (hp : KernelThread p) (s : System) : ∃ as,
    Run Step s as { s with
      device := (p.exec s.device).1, threads := s.threads ++ [.pure ()] } := by
  obtain ⟨us, hrun⟩ := run_kernel hp s
  exact ⟨_, hrun.map id (fun _ => Action.kernel) fun _ _ _ hstep => hstep⟩

/-- A call of `CONNECT` by a process that has all its memory mapped. -/
theorem run_connect (cmd : ConnectCmd) (file : DrmFile) (s : System) : ∃ as, Run Step s as
    { s with
      device := (painterConnectIoctl (fun _ => sampleUser 0) ⟨true, true⟩ cmd file s.device).1 } :=
  ⟨_, Run.one (.client (.connect (fun _ => sampleUser 0) ⟨true, true⟩ (Prod.ext rfl rfl)))⟩

end System

end Evdi
