import Evdi.Properties.DeviceSetup

/-!
# Set-ups that fail

The labels of `evdi_drm_device_init` forget the VT notifier of the painter, and free again what
`evdi_fbdev_init` or the managed action has freed: a set-up that fails after its painter leaves one or
the other behind.

* `DrmSetup.Published`: the painter is in the chain, and nobody else is to take it out;
* `DrmSetup.Faulted`: something was used that was not there;
* `drm_setup_iff`: runs in which no set-up fails so are those in which all is as it should be.
-/

namespace Evdi

open Allocation Transition

namespace DrmSetup

variable {s t : DrmSetup} {n : ℕ}

/-! ### The painter -/

/-- The painter is in the chain, the evdi device points at it, and no managed action is there yet. -/
structure Published (s : DrmSetup) (n : ℕ) : Prop where
  painter : (s.evdis ⟨n, .evdi⟩).painter = some ⟨n, .painter⟩
  vt : ⟨n, .painter⟩ ∈ s.vtNotifiers
  drm : ∃ evdi, s.drms n = some ⟨evdi, false, false⟩

theorem Published.touch (h : s.Published n) (p : Option ObjId) : (s.touch p).Published n :=
  ⟨h.painter, h.vt, h.drm⟩

theorem Published.kfree (h : s.Published n) (p : Option ObjId) : (s.kfree p).Published n :=
  ⟨h.painter, h.vt, h.drm⟩

theorem Published.kzalloc (h : s.Published n) (success : Bool) (a : ObjId) :
    (s.kzalloc success a).1.Published n := by
  cases success <;> exact ⟨h.painter, h.vt, h.drm⟩

theorem Published.onEvdi (h : s.Published n) (evdi : Option ObjId) (f : EvdiPointers → EvdiPointers)
    (hf : ∀ e, (f e).painter = e.painter) : (s.onEvdi evdi f).Published n := by
  cases evdi with
  | none => exact ⟨h.painter, h.vt, h.drm⟩
  | some e =>
    refine ⟨?_, h.vt, h.drm⟩
    show (Function.update s.evdis e (f (s.evdis e)) ⟨n, .evdi⟩).painter = _
    rw [Function.update_apply]
    split_ifs with he
    · rw [hf, ← he]
      exact h.painter
    · exact h.painter

theorem Published.evdiCursorFree (h : s.Published n) (cursor : Option ObjId) :
    (evdiCursorFree cursor s).Published n := by
  cases cursor with
  | none => exact h
  | some c => exact (h.touch _).kfree _

theorem Published.evdiFbdevCleanup (h : s.Published n) : (evdiFbdevCleanup n s).Published n := by
  rw [Evdi.evdiFbdevCleanup]
  dsimp only
  split
  · exact h.touch _
  · exact (((h.touch _).touch _).kfree _).onEvdi _ _ fun _ => rfl

/-- A painter that was made is published. -/
theorem published_evdiPainterInit {ans : SetupAnswers} (hans : ans.painter = true)
    (hdrm : ∃ evdi, s.drms n = some ⟨evdi, false, false⟩) :
    (evdiPainterInit ans ⟨n, .evdi⟩ s).2 = 0 ∧ (evdiPainterInit ans ⟨n, .evdi⟩ s).1.Published n := by
  rw [Evdi.evdiPainterInit, hans, kzalloc_true]
  refine ⟨rfl, ?_, List.mem_append_right _ (List.mem_singleton_self _), hdrm⟩
  show (Function.update s.evdis ⟨n, .evdi⟩ { s.evdis ⟨n, .evdi⟩ with painter := some ⟨n, .painter⟩ }
    ⟨n, .evdi⟩).painter = _
  rw [Function.update_self]

theorem Published.evdiCursorInit (h : s.Published n) (ans : SetupAnswers) (evdi : ObjId) :
    (evdiCursorInit ans evdi s).1.Published n ∧
      ((evdiCursorInit ans evdi s).2 = 0 → ans.cursor = true) := by
  rw [Evdi.evdiCursorInit]
  dsimp only
  split_ifs with hnull
  · exact ⟨h.touch _, fun hret => by simp [EINVAL] at hret⟩
  · have hmade := ((h.touch (some evdi)).kzalloc ans.cursor ⟨evdi.drm, .cursor⟩).onEvdi (some evdi)
      (fun e => { e with cursor := ((s.touch (some evdi)).kzalloc ans.cursor ⟨evdi.drm, .cursor⟩).2 })
      fun _ => rfl
    cases hans : ans.cursor with
    | false =>
      rw [hans] at hmade
      exact ⟨hmade, fun hret => absurd hret (by simp [kzalloc_false, ENOMEM])⟩
    | true =>
      rw [hans] at hmade
      exact ⟨hmade.touch _, fun _ => rfl⟩

theorem Published.evdiFbdevInit (h : s.Published n) (ans : SetupAnswers) :
    (evdiFbdevInit ans n s).1.Published n ∧
      ((evdiFbdevInit ans n s).2 = 0 → ans.fbdev = true ∧ ans.drmFbHelperInit = 0 ∧
        ans.drmFbHelperInitialConfig = 0) := by
  rw [Evdi.evdiFbdevInit]
  cases hans : ans.fbdev with
  | false => exact ⟨h, fun hret => by simp [kzalloc_false, ENOMEM] at hret⟩
  | true =>
    have hmade := ((h.kzalloc true ⟨n, .fbdev⟩).onEvdi (s.devPrivate n)
      (fun evdi => { evdi with fbdev := some ⟨n, .fbdev⟩ }) fun _ => rfl).touch (some ⟨n, .fbdev⟩)
    rw [kzalloc_true]
    dsimp only
    split_ifs with hhelper hconfig
    · exact ⟨hmade.kfree _, fun hret => absurd hret hhelper⟩
    · exact ⟨(hmade.touch _).kfree _, fun hret => absurd hret hconfig⟩
    · exact ⟨hmade, fun hret => ⟨rfl, not_not.1 hhelper, hret⟩⟩

/-- **A painter that is freed in the chain.** -/
theorem Published.errFree_freed (h : s.Published n) (ret : ℤ) :
    ⟨n, .painter⟩ ∈ (errFree ⟨n, .evdi⟩ n ret s).1.vtNotifiers ∧
      ⟨n, .painter⟩ ∈ (errFree ⟨n, .evdi⟩ n ret s).1.heap.freed ∧
      (errFree ⟨n, .evdi⟩ n ret s).1.drms n = some ⟨none, false, false⟩ := by
  have hcursor := ((h.touch (some ⟨n, .evdi⟩)).evdiCursorFree
    ((s.touch (some ⟨n, .evdi⟩)).pointers (some ⟨n, .evdi⟩)).cursor).touch (some ⟨n, .evdi⟩)
  have hfreed := (hcursor.kfree (some ⟨n, .painter⟩)).kfree (some ⟨n, .evdi⟩)
  obtain ⟨evdi, hdrm⟩ := hfreed.drm
  rw [errFree]
  dsimp only
  rw [show (DrmSetup.pointers _ (some (⟨n, .evdi⟩ : ObjId))).painter = some ⟨n, .painter⟩ from
    hcursor.painter]
  refine ⟨hfreed.vt, (Heap.freed_free _ _).subset (Heap.mem_freed_free _ _), ?_⟩
  rw [onDrm, hdrm]
  exact Function.update_self _ _ _

theorem Published.not_good (h : s.Published n) (ret : ℤ) :
    ¬ (drmDevRelease n (errFree ⟨n, .evdi⟩ n ret s).1).Good := by
  obtain ⟨hvt, hfreed, hdrm⟩ := h.errFree_freed ret
  intro hgood
  rw [drmDevRelease, hdrm] at hgood
  exact ((hgood.vt _).1 hvt).2.2 hfreed

/-! ### Faults -/

/-- Something was used that was not there. -/
def Faulted (s : DrmSetup) : Prop := s.heap.faults ≠ []

theorem Faulted.touch (h : s.Faulted) (p : Option ObjId) : (s.touch p).Faulted :=
  (Heap.faults_touch p s.heap).ne_nil h

theorem Faulted.kfree (h : s.Faulted) (p : Option ObjId) : (s.kfree p).Faulted :=
  (Heap.faults_free p s.heap).ne_nil h

theorem Faulted.evdiCursorFree (h : s.Faulted) (cursor : Option ObjId) :
    (evdiCursorFree cursor s).Faulted := by
  cases cursor with
  | none => exact h
  | some c => exact (h.touch _).kfree _

theorem Faulted.evdiPainterCleanup (h : s.Faulted) (painter : Option ObjId) :
    (evdiPainterCleanup painter s).Faulted := by
  cases painter with
  | none => exact h
  | some p =>
    have hchain : ({ s.touch (some p) with vtNotifiers := (s.touch (some p)).vtNotifiers.erase p } :
      DrmSetup).Faulted := h.touch _
    exact hchain.kfree _

theorem Faulted.evdiDrmDeviceReleaseCb (h : s.Faulted) (dev : ℕ) :
    (evdiDrmDeviceReleaseCb dev s).Faulted :=
  (((((h.touch _).evdiCursorFree _).touch _).evdiPainterCleanup _).kfree _ :)

theorem Faulted.errFree (h : s.Faulted) (evdi : ObjId) (dev : ℕ) (ret : ℤ) :
    (errFree evdi dev ret s).1.Faulted :=
  (((((h.touch _).evdiCursorFree _).touch _).kfree _).kfree _ :)

theorem Faulted.drmDevRelease (h : s.Faulted) (dev : ℕ) : (drmDevRelease dev s).Faulted := by
  rw [Evdi.drmDevRelease]
  split_ifs
  · exact h.evdiDrmDeviceReleaseCb dev
  · exact h

/-- **An evdi device that the managed action took away.** -/
theorem faulted_evdiFbdevCleanup (s : DrmSetup) (n : ℕ) :
    (evdiFbdevCleanup n (evdiDrmDeviceReleaseCb n s)).Faulted := by
  have hprivate : (evdiDrmDeviceReleaseCb n s).devPrivate n = none := by
    rw [evdiDrmDeviceReleaseCb, onDrm, devPrivate]
    dsimp only
    rw [Function.update_self]
    cases DrmSetup.drms _ n <;> rfl
  have hnull : ((evdiDrmDeviceReleaseCb n s).touch none).Faulted := by simp [Faulted, touch, Heap.touch]
  rw [evdiFbdevCleanup, hprivate]
  exact hnull

/-! ### The set-up -/

theorem drmmAddActionOrReset_ret (ans : SetupAnswers) (n : ℕ) (s : DrmSetup) :
    (drmmAddActionOrReset ans n s).2 = ans.drmmAddAction := by
  rw [drmmAddActionOrReset]
  split_ifs with haction
  · rfl
  · exact (not_not.1 haction).symm

/-- **A set-up** that fails after its painter. -/
theorem initParts_failed {ans : SetupAnswers} (hpainter : ans.painter = true)
    (hdrm : ∃ evdi, s.drms n = some ⟨evdi, false, false⟩)
    (hfail : ¬ (ans.cursor = true ∧ ans.fbdev = true ∧ ans.drmFbHelperInit = 0 ∧
      ans.drmFbHelperInitialConfig = 0 ∧ ans.drmVblankInit = 0 ∧ ans.drmmAddAction = 0)) :
    (evdiDrmDeviceInitParts ans ⟨n, .evdi⟩ n s).2 ≠ 0 ∧
      ¬ (drmDevRelease n (evdiDrmDeviceInitParts ans ⟨n, .evdi⟩ n s).1).Good := by
  obtain ⟨hret₁, hpub₁⟩ := published_evdiPainterInit hpainter hdrm
  obtain ⟨hpub₂, hcursor⟩ := hpub₁.evdiCursorInit ans ⟨n, .evdi⟩
  obtain ⟨hpub₃, hfbdev⟩ := hpub₂.evdiFbdevInit ans
  rw [evdiDrmDeviceInitParts]
  dsimp only
  rw [if_neg (not_not.2 hret₁)]
  split_ifs with hret₂ hret₃ hvblank haction
  · exact ⟨hret₂, hpub₂.not_good _⟩
  · exact ⟨hret₃, hpub₃.evdiFbdevCleanup.not_good _⟩
  · exact ⟨hvblank, hpub₃.evdiFbdevCleanup.not_good _⟩
  · rw [drmmAddActionOrReset_ret] at haction
    have hcleanup := faulted_evdiFbdevCleanup
      (evdiFbdevInit ans n (evdiCursorInit ans ⟨n, .evdi⟩ (evdiPainterInit ans ⟨n, .evdi⟩ s).1).1).1 n
    have hfaulted := (hcleanup.errFree ⟨n, .evdi⟩ n ans.drmmAddAction).drmDevRelease n
    rw [drmmAddActionOrReset, if_pos haction]
    exact ⟨haction, fun hgood => hfaulted hgood.faults⟩
  · rw [drmmAddActionOrReset_ret] at haction
    obtain ⟨hfb, hhelper, hconfig⟩ := hfbdev (not_not.1 hret₃)
    exact absurd ⟨hcursor (not_not.1 hret₂), hfb, hhelper, hconfig, not_not.1 hvblank,
      not_not.1 haction⟩ hfail

/-- **A creation** that fails after its painter leaves a fault, or a notifier of a painter that is
freed. -/
theorem evdiDrmDeviceCreate_failed {ans : SetupAnswers} (hans : ¬ ans.Clean) (s : DrmSetup) :
    ¬ (evdiDrmDeviceCreate ans s).Good := by
  simp only [SetupAnswers.Clean, Classical.not_imp] at hans
  obtain ⟨hdrm, hevdi, hpainter, hfail⟩ := hans
  have hbegun : ∃ evdi, s.begun.drms s.nextDrm = some ⟨evdi, false, false⟩ :=
    ⟨_, Function.update_self _ _ _⟩
  obtain ⟨hret, hgood⟩ := initParts_failed hpainter hbegun hfail
  rw [evdiDrmDeviceCreate_eq hdrm, evdiDrmDeviceInit_eq hevdi, if_pos (.inl hret)]
  exact hgood

/-! ### Runs -/

/-- No creation fails after its painter. -/
def Action.Clean : Action → Prop
  | .create ans => ans.Clean
  | .remove _ => True
  | .release _ => True

/-- A step that does not fail so. -/
def CleanStep (s : DrmSetup) (a : Action) (t : DrmSetup) : Prop := Step s a t ∧ a.Clean

/-- **One step.** -/
theorem Sound.step {a : Action} (hs : s.Sound) (hstep : CleanStep s a t) : t.Sound := by
  obtain ⟨hstep, hclean⟩ := hstep
  cases hstep with
  | create ans => exact hs.create hclean
  | remove hdrm hremoved => exact hs.remove hdrm hremoved
  | release hdrm hremoved => exact hs.release hdrm

end DrmSetup

/-- **Set-up.** As long as no creation fails after its painter, the VT notifiers in the chain are
those of the painters that are there, nothing is freed twice, and nothing is used after it was freed;
a creation that fails so ends that, whatever was before. -/
theorem drm_setup_iff (s : DrmSetup) :
    (∀ actions, Run DrmSetup.CleanStep .init actions s → s.Good) ∧
    ∀ a t, DrmSetup.Step s a t → ¬ a.Clean → ¬ t.Good := by
  refine ⟨fun actions hrun => ?_, fun a t hstep hclean => ?_⟩
  · have hsound : s.Sound := hrun.invariant (fun s a t hs hstep => hs.step hstep) DrmSetup.Sound.init
    exact hsound.good
  · cases hstep with
    | create ans => exact DrmSetup.evdiDrmDeviceCreate_failed hclean s
    | remove => exact absurd trivial hclean
    | release => exact absurd trivial hclean

/-- A device is created, and removed, and its last reference dropped. -/
theorem drm_setup_iff_removed :
    (drmDevRelease 0 (evdiDrmDeviceRemove 0
      (evdiDrmDeviceCreate ⟨true, true, true, true, true, 0, 0, 0, 0, 0⟩ .init))).Good := by
  have hcreate : DrmSetup.CleanStep .init (.create ⟨true, true, true, true, true, 0, 0, 0, 0, 0⟩) _ :=
    ⟨.create _, fun _ _ _ => by decide⟩
  have hrun := ((Run.one hcreate).snoc
    ⟨.remove (show DrmSetup.drms _ 0 = some ⟨some ⟨0, .evdi⟩, true, false⟩ from rfl) rfl, trivial⟩).snoc
    ⟨.release (show DrmSetup.drms _ 0 = some ⟨some ⟨0, .evdi⟩, true, true⟩ from rfl) rfl, trivial⟩
  exact (drm_setup_iff _).1 _ hrun

/-- There is no memory for the cursor. -/
def noCursor : SetupAnswers := ⟨true, true, true, false, true, 0, 0, 0, 0, 0⟩

/-- `drm_fb_helper_init` fails. -/
def noFbHelper : SetupAnswers := ⟨true, true, true, true, true, -22, 0, 0, 0, 0⟩

/-- The painter of a device without a cursor is freed in the chain; the framebuffer device of one
without a helper is used after it was freed, and freed again. -/
theorem drm_setup_fails :
    (∃ s, Run DrmSetup.Step .init [.create noCursor] s ∧ ¬ s.Good ∧
      ⟨0, .painter⟩ ∈ s.vtNotifiers ∧ ⟨0, .painter⟩ ∈ s.heap.freed) ∧
    ∃ s, Run DrmSetup.Step .init [.create noFbHelper] s ∧ ¬ s.Good ∧
      s.heap.freed.count ⟨0, .fbdev⟩ = 2 ∧ some ⟨0, .fbdev⟩ ∈ s.heap.faults := by
  refine ⟨⟨_, Run.one (.create noCursor), fun hgood => ?_, by decide, by decide⟩,
    _, Run.one (.create noFbHelper), fun hgood => ?_, by decide, by decide⟩
  · have hnot : ¬ (evdiDrmDeviceCreate noCursor .init).heap.Live ⟨0, .painter⟩ := by decide
    exact hnot ((hgood.vt ⟨0, .painter⟩).1 (by decide)).2
  · have htwice : ¬ (evdiDrmDeviceCreate noFbHelper .init).heap.freed.Nodup := by decide
    exact htwice hgood.nodup

end Evdi
