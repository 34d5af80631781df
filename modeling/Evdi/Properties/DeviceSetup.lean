import Evdi.Model.DrmSetup

/-!
# Set-up and removal of DRM devices

What a device has allocated is freed by its managed action, which is the last thing that its set-up
adds: until then, the labels of `evdi_drm_device_init` have to free it.

* `DrmSetup.Good`: nothing is freed twice, used after it was freed, or left in the chain of VT
  notifiers;
* `DrmSetup.Sound`: what holds as long as no set-up fails after its painter;
* `DrmSetup.Building`: the set-up, part by part.
-/

namespace Evdi

open Allocation Transition

namespace DrmSetup

variable {s t : DrmSetup} {n : ℕ}

/-! ### The invariant -/

/-- The VT notifiers in the chain are those of the painters that are there, nothing was freed twice,
and nothing was used that was not there. A read through `dev_private` when it is `NULL` again counts as a use
of what was freed: `evdi_fbdev_cleanup` makes it when the managed action has run. -/
structure Good (s : DrmSetup) : Prop where
  vt : ∀ a, a ∈ s.vtNotifiers ↔ a.kind = .painter ∧ s.heap.Live a
  nodup : s.heap.freed.Nodup
  faults : s.heap.faults = []

/-- The pointers to the parts made so far. -/
def pointersTo (n : ℕ) (made : List SetupKind) : EvdiPointers where
  painter := if .painter ∈ made then some ⟨n, .painter⟩ else none
  cursor := if .cursor ∈ made then some ⟨n, .cursor⟩ else none
  fbdev := if .fbdev ∈ made then some ⟨n, .fbdev⟩ else none

/-- The parts of a device that is set up, from the last one on; the framebuffer device is gone when
the device is removed. -/
def parts (removed : Bool) : List SetupKind :=
  if removed then [.cursor, .painter] else [.fbdev, .cursor, .painter]

/-- The evdi device has these parts. -/
structure Has (s : DrmSetup) (n : ℕ) (made : List SetupKind) : Prop where
  pointers : s.evdis ⟨n, .evdi⟩ = pointersTo n made
  evdi : s.heap.Live ⟨n, .evdi⟩
  part : ∀ kind ∈ made, s.heap.Live ⟨n, kind⟩

/-- A device that is set up. -/
structure Owns (s : DrmSetup) (n : ℕ) (drm : DrmDevice) : Prop extends s.Has n (parts drm.removed) where
  devPrivate : drm.devPrivate = some ⟨n, .evdi⟩
  releaseCb : drm.releaseCb = true

/-- What holds of the memory, the chain and all devices but `except`. -/
structure SoundExcept (s : DrmSetup) (except : Option ℕ) : Prop where
  heap : s.heap.Sound
  fresh : ∀ a ∈ s.heap.allocated, a.drm < s.nextDrm
  drm_lt : ∀ m, s.drms m ≠ none → m < s.nextDrm
  blank : ∀ m, s.nextDrm ≤ m → s.evdis ⟨m, .evdi⟩ = pointersTo m []
  vt : ∀ a, a ∈ s.vtNotifiers ↔ a.kind = .painter ∧ s.heap.Live a
  vt_nodup : s.vtNotifiers.Nodup
  owns : ∀ m drm, s.drms m = some drm → except ≠ some m → s.Owns m drm

/-- **The invariant.** -/
abbrev Sound (s : DrmSetup) : Prop := s.SoundExcept none

theorem SoundExcept.good {except : Option ℕ} (hs : s.SoundExcept except) : s.Good :=
  ⟨hs.vt, hs.heap.nodup, hs.heap.faults⟩

theorem Sound.init : DrmSetup.init.Sound where
  heap := .empty
  fresh := fun _ ha => by simp [DrmSetup.init, Heap.empty] at ha
  drm_lt := fun _ h => absurd rfl h
  blank := fun _ _ => rfl
  vt := fun _ => by simp [DrmSetup.init, Heap.empty, Heap.Live]
  vt_nodup := List.nodup_nil
  owns := fun _ _ h => by simp [DrmSetup.init] at h

/-- **Frame.** What a device has is its own. -/
theorem Owns.frame {drm : DrmDevice} (h : s.Owns n drm)
    (hevdis : t.evdis ⟨n, .evdi⟩ = s.evdis ⟨n, .evdi⟩)
    (hlive : ∀ kind, s.heap.Live ⟨n, kind⟩ → t.heap.Live ⟨n, kind⟩) : t.Owns n drm where
  pointers := hevdis.trans h.pointers
  evdi := hlive _ h.evdi
  part := fun kind hkind => hlive _ (h.part kind hkind)
  devPrivate := h.devPrivate
  releaseCb := h.releaseCb

/-- A DRM device goes, and what it had; the others keep theirs. -/
theorem SoundExcept.drop {except : Option ℕ} (hs : s.SoundExcept except)
    (hn : ∀ m, except = some m → m = n) {heap : Heap ObjId} {chain : List ObjId} (hheap : heap.Sound)
    (hallocated : heap.allocated = s.heap.allocated)
    (hvt : ∀ a, a ∈ chain ↔ a.kind = .painter ∧ heap.Live a) (hnodup : chain.Nodup)
    (hlive : ∀ m kind, m ≠ n → s.heap.Live ⟨m, kind⟩ → heap.Live ⟨m, kind⟩) :
    ({ s with
      heap := heap
      vtNotifiers := chain
      drms := Function.update s.drms n none } : DrmSetup).Sound := by
  have hkept : ∀ {m d}, Function.update s.drms n none m = some d → m ≠ n ∧ s.drms m = some d := by
    intro m d hm
    have hmn : m ≠ n := by
      rintro rfl
      simp at hm
    exact ⟨hmn, (Function.update_of_ne hmn _ _).symm.trans hm⟩
  refine ⟨hheap, fun a ha => hs.fresh a (hallocated ▸ ha), fun m hm => ?_, hs.blank, hvt, hnodup,
    fun m d hm _ => ?_⟩
  · obtain ⟨d, hd⟩ := Option.ne_none_iff_exists'.1 hm
    exact hs.drm_lt m (by simp [(hkept hd).2])
  · obtain ⟨hmn, hd⟩ := hkept hm
    have hm := hs.owns m d hd fun hsome => hmn (hn m hsome)
    exact hm.frame rfl fun kind hkind => hlive m kind hmn hkind

theorem drm_lt_update {drms : ℕ → Option DrmDevice} {k : ℕ} (h : ∀ m, drms m ≠ none → m < k) (hn : n < k)
    (drm : Option DrmDevice) (m : ℕ) (hm : Function.update drms n drm m ≠ none) : m < k := by
  by_cases hmn : m = n
  · exact hmn ▸ hn
  · exact h m fun hnone => hm ((Function.update_of_ne hmn _ _).trans hnone)

/-- What is not a painter does not concern the chain. -/
theorem vt_free {heap : Heap ObjId} {chain : List ObjId} {b : ObjId}
    (hvt : ∀ a, a ∈ chain ↔ a.kind = .painter ∧ heap.Live a) (hb : heap.Live b)
    (hkind : b.kind ≠ .painter) (a : ObjId) :
    a ∈ chain ↔ a.kind = .painter ∧ (heap.free (some b)).Live a := by
  rw [hvt a, Heap.live_free_iff hb]
  constructor
  · rintro ⟨ha, halive⟩
    exact ⟨ha, halive, fun hab => hkind (hab ▸ ha)⟩
  · rintro ⟨ha, halive, -⟩
    exact ⟨ha, halive⟩

theorem vt_alloc {heap : Heap ObjId} {chain : List ObjId} {b : ObjId} (hheap : heap.Sound)
    (hvt : ∀ a, a ∈ chain ↔ a.kind = .painter ∧ heap.Live a) (hb : b ∉ heap.allocated)
    (hkind : b.kind ≠ .painter) (a : ObjId) :
    a ∈ chain ↔ a.kind = .painter ∧ (heap.alloc b).Live a := by
  rw [hvt a, hheap.live_alloc_iff hb]
  constructor
  · rintro ⟨ha, halive⟩
    exact ⟨ha, .inl halive⟩
  · rintro ⟨ha, halive | rfl⟩
    · exact ⟨ha, halive⟩
    · exact absurd ha hkind

/-! ### Accesses that find what they look for -/

theorem touch_live {a : ObjId} (ha : s.heap.Live a) : s.touch (some a) = s := by
  rw [touch, Heap.touch_live ha]

theorem onEvdi_live {e : ObjId} (he : s.heap.Live e) (f : EvdiPointers → EvdiPointers) :
    s.onEvdi (some e) f = { s with evdis := Function.update s.evdis e (f (s.evdis e)) } := by
  rw [onEvdi]
  rw [touch_live he]

theorem evdiCursorFree_live {c : ObjId} (hc : s.heap.Live c) :
    evdiCursorFree (some c) s = { s with heap := s.heap.free (some c) } := by
  rw [evdiCursorFree]
  rw [touch_live hc, kfree]

theorem evdiPainterCleanup_live {p : ObjId} (hp : s.heap.Live p) :
    evdiPainterCleanup (some p) s =
      { s with heap := s.heap.free (some p), vtNotifiers := s.vtNotifiers.erase p } := by
  rw [evdiPainterCleanup]
  rw [touch_live hp]
  rfl

/-! ### Removal and release -/

theorem Owns.devPrivate_eq {drm : DrmDevice} (h : s.Owns n drm) (hdrm : s.drms n = some drm) :
    s.devPrivate n = some ⟨n, .evdi⟩ := by
  rw [DrmSetup.devPrivate, hdrm]
  exact h.devPrivate

theorem mem_parts {kind : SetupKind} {removed : Bool} :
    kind ∈ parts removed ↔ kind = .cursor ∨ kind = .painter ∨ kind = .fbdev ∧ removed = false := by
  cases removed <;> cases kind <;> simp [parts]

theorem Owns.cursor {drm : DrmDevice} (h : s.Owns n drm) :
    (s.evdis ⟨n, .evdi⟩).cursor = some ⟨n, .cursor⟩ ∧ s.heap.Live ⟨n, .cursor⟩ := by
  have hmem : SetupKind.cursor ∈ parts drm.removed := mem_parts.2 (.inl rfl)
  exact ⟨by rw [h.pointers, pointersTo, if_pos hmem], h.part _ hmem⟩

theorem Owns.painter {drm : DrmDevice} (h : s.Owns n drm) :
    (s.evdis ⟨n, .evdi⟩).painter = some ⟨n, .painter⟩ ∧ s.heap.Live ⟨n, .painter⟩ := by
  have hmem : SetupKind.painter ∈ parts drm.removed := mem_parts.2 (.inr (.inl rfl))
  exact ⟨by rw [h.pointers, pointersTo, if_pos hmem], h.part _ hmem⟩

/-- The memory after the managed action has run. -/
def releasedHeap (n : ℕ) (heap : Heap ObjId) : Heap ObjId :=
  ((heap.free (some ⟨n, .cursor⟩)).free (some ⟨n, .painter⟩)).free (some ⟨n, .evdi⟩)

/-- **The managed action** frees what the device has, but for the framebuffer device. -/
theorem evdiDrmDeviceReleaseCb_eq {drm : DrmDevice} (h : s.Owns n drm) (hdrm : s.drms n = some drm) :
    evdiDrmDeviceReleaseCb n s =
      { s with
        heap := releasedHeap n s.heap
        vtNotifiers := s.vtNotifiers.erase ⟨n, .painter⟩
        drms := Function.update s.drms n (some { drm with devPrivate := none }) } := by
  obtain ⟨hcursor, hcursorLive⟩ := h.cursor
  obtain ⟨hpainter, hpainterLive⟩ := h.painter
  have hevdi : (s.heap.free (some ⟨n, .cursor⟩)).Live ⟨n, .evdi⟩ :=
    (Heap.live_free_iff hcursorLive).2 ⟨h.evdi, by simp⟩
  have hpainter' : (s.heap.free (some ⟨n, .cursor⟩)).Live ⟨n, .painter⟩ :=
    (Heap.live_free_iff hcursorLive).2 ⟨hpainterLive, by simp⟩
  rw [evdiDrmDeviceReleaseCb, h.devPrivate_eq hdrm, touch_live h.evdi]
  dsimp only [pointers, Option.elim]
  rw [hcursor, evdiCursorFree_live hcursorLive, touch_live hevdi]
  dsimp only
  rw [hpainter, evdiPainterCleanup_live hpainter', onDrm]
  simp [kfree, releasedHeap, hdrm]

theorem live_releasedHeap {heap : Heap ObjId} (hcursor : heap.Live ⟨n, .cursor⟩)
    (hpainter : heap.Live ⟨n, .painter⟩) (hevdi : heap.Live ⟨n, .evdi⟩) :
    (∀ a, (releasedHeap n heap).Live a ↔
      heap.Live a ∧ a ≠ ⟨n, .cursor⟩ ∧ a ≠ ⟨n, .painter⟩ ∧ a ≠ ⟨n, .evdi⟩) ∧
    (releasedHeap n heap).allocated = heap.allocated ∧ (heap.Sound → (releasedHeap n heap).Sound) := by
  have hpainter' : (heap.free (some ⟨n, .cursor⟩)).Live ⟨n, .painter⟩ :=
    (Heap.live_free_iff hcursor).2 ⟨hpainter, by simp⟩
  have hevdi' : ((heap.free (some ⟨n, .cursor⟩)).free (some ⟨n, .painter⟩)).Live ⟨n, .evdi⟩ := by
    rw [Heap.live_free_iff hpainter', Heap.live_free_iff hcursor]
    exact ⟨⟨hevdi, by simp⟩, by simp⟩
  refine ⟨fun a => ?_, ?_, fun hheap => ((hheap.free hcursor).free hpainter').free hevdi'⟩
  · rw [releasedHeap, Heap.live_free_iff hevdi', Heap.live_free_iff hpainter', Heap.live_free_iff hcursor]
    tauto
  · rw [releasedHeap, Heap.allocated_free, Heap.allocated_free, Heap.allocated_free]

/-- **The last reference** to a device that is set up is dropped. -/
theorem Sound.release (hs : s.Sound) {drm : DrmDevice} (hdrm : s.drms n = some drm) :
    (drmDevRelease n s).Sound := by
  have h := hs.owns n drm hdrm (by simp)
  obtain ⟨-, hcursor⟩ := h.cursor
  obtain ⟨-, hpainter⟩ := h.painter
  obtain ⟨hlive, hallocated, hheap⟩ := live_releasedHeap hcursor hpainter h.evdi
  have heq : drmDevRelease n s = { s with
      heap := releasedHeap n s.heap
      vtNotifiers := s.vtNotifiers.erase ⟨n, .painter⟩
      drms := Function.update s.drms n none } := by
    rw [drmDevRelease, hdrm, Option.any_some, h.releaseCb, if_pos rfl, evdiDrmDeviceReleaseCb_eq h hdrm]
    simp
  rw [heq]
  refine hs.drop (by simp) (hheap hs.heap) hallocated (fun a => ?_) (hs.vt_nodup.erase _)
    fun m kind hmn hkind => (hlive _).2 ⟨hkind, by simp [hmn]⟩
  rw [hs.vt_nodup.mem_erase_iff, hs.vt a, hlive a]
  constructor
  · rintro ⟨hne, hkind, ha⟩
    refine ⟨hkind, ha, ?_, hne, ?_⟩ <;> rintro rfl <;> simp at hkind
  · rintro ⟨hkind, ha, -, hne, -⟩
    exact ⟨hne, hkind, ha⟩

/-- **A device is removed**, and its framebuffer device freed. -/
theorem Sound.remove (hs : s.Sound) {drm : DrmDevice} (hdrm : s.drms n = some drm)
    (hremoved : drm.removed = false) : (evdiDrmDeviceRemove n s).Sound := by
  have h := hs.owns n drm hdrm (by simp)
  have hmem : SetupKind.fbdev ∈ parts drm.removed := mem_parts.2 (.inr (.inr ⟨rfl, hremoved⟩))
  have hlive := h.part _ hmem
  have hfbdev : (s.pointers (some ⟨n, .evdi⟩)).fbdev = some ⟨n, .fbdev⟩ := by
    show (s.evdis ⟨n, .evdi⟩).fbdev = _
    rw [h.pointers, pointersTo, if_pos hmem]
  have hunplug : evdiFbdevUnplug n s = s := by
    rw [evdiFbdevUnplug, h.devPrivate_eq hdrm, touch_live h.evdi, hfbdev]
    exact touch_live hlive
  have hfree : ∀ a, (s.heap.free (some ⟨n, .fbdev⟩)).Live a ↔ s.heap.Live a ∧ a ≠ ⟨n, .fbdev⟩ :=
    fun a => Heap.live_free_iff hlive
  have heq : evdiDrmDeviceRemove n s = { s with
      heap := s.heap.free (some ⟨n, .fbdev⟩)
      evdis := Function.update s.evdis ⟨n, .evdi⟩ (pointersTo n (parts true))
      drms := Function.update s.drms n (some { drm with removed := true }) } := by
    have hpointers : { s.evdis ⟨n, .evdi⟩ with fbdev := none } = pointersTo n (parts true) := by
      rw [h.pointers, hremoved]
      rfl
    rw [evdiDrmDeviceRemove, hunplug, evdiFbdevCleanup, h.devPrivate_eq hdrm, touch_live h.evdi, hfbdev]
    dsimp only
    have hevdi : (s.kfree (some ⟨n, .fbdev⟩)).heap.Live ⟨n, .evdi⟩ :=
      (hfree ⟨n, .evdi⟩).2 ⟨h.evdi, by simp⟩
    rw [touch_live hlive, onEvdi_live hevdi, onDrm]
    dsimp only [kfree]
    rw [hpointers, hdrm]
    rfl
  rw [heq]
  have hallocated : (s.heap.free (some ⟨n, .fbdev⟩)).allocated = s.heap.allocated :=
    Heap.allocated_free _ _
  have hlt : n < s.nextDrm := hs.drm_lt n (by simp [hdrm])
  refine ⟨hs.heap.free hlive, fun a ha => hs.fresh a (hallocated ▸ ha), drm_lt_update hs.drm_lt hlt _,
    fun m hm => ?_, vt_free hs.vt hlive (by simp), hs.vt_nodup, fun m d hm _ => ?_⟩
  · have hmn : m ≠ n := (hlt.trans_le hm).ne'
    exact (Function.update_of_ne (by simp [hmn]) _ _).trans (hs.blank m hm)
  · by_cases hmn : m = n
    · subst hmn
      have hd : Function.update s.drms m (some { drm with removed := true }) m = some d := hm
      rw [Function.update_self] at hd
      obtain rfl := Option.some.inj hd
      refine ⟨⟨Function.update_self _ _ _, (hfree _).2 ⟨h.evdi, by simp⟩, fun kind hkind => ?_⟩,
        h.devPrivate, h.releaseCb⟩
      rcases mem_parts.1 hkind with rfl | rfl | ⟨-, hfalse⟩
      · exact (hfree _).2 ⟨h.cursor.2, by simp⟩
      · exact (hfree _).2 ⟨h.painter.2, by simp⟩
      · simp at hfalse
    · refine (hs.owns m d ((Function.update_of_ne hmn _ _).symm.trans hm) (by simp)).frame ?_
        fun kind hkind => (hfree _).2 ⟨hkind, by simp [hmn]⟩
      exact Function.update_of_ne (by simp [hmn]) _ _

/-! ### Set-up, part by part -/

/-- A device that is being set up, with the parts made so far. -/
structure Building (s : DrmSetup) (n : ℕ) (made : List SetupKind) : Prop extends
    s.SoundExcept (some n), s.Has n made where
  drm : s.drms n = some ⟨some ⟨n, .evdi⟩, false, false⟩
  unmade : ∀ kind, ⟨n, kind⟩ ∈ s.heap.allocated → kind = .evdi ∨ kind ∈ made

/-- The set-up with a part more. -/
def withPart (s : DrmSetup) (n : ℕ) (kind : SetupKind) (made : List SetupKind) : DrmSetup :=
  { s with
    heap := s.heap.alloc ⟨n, kind⟩
    evdis := Function.update s.evdis ⟨n, .evdi⟩ (pointersTo n (kind :: made))
    vtNotifiers := if kind = .painter then s.vtNotifiers ++ [⟨n, kind⟩] else s.vtNotifiers }

theorem Building.notMem {made : List SetupKind} (hb : s.Building n made) (kind : SetupKind)
    (hkind : kind ≠ .evdi) (hnew : kind ∉ made) : ⟨n, kind⟩ ∉ s.heap.allocated :=
  fun hmem => (hb.unmade kind hmem).elim hkind hnew

theorem Building.withPart {made : List SetupKind} (hb : s.Building n made) (kind : SetupKind)
    (hkind : kind ≠ .evdi) (hnew : kind ∉ made) :
    (s.withPart n kind made).Building n (kind :: made) := by
  have hfresh := hb.notMem kind hkind hnew
  have hlive : ∀ a, (s.heap.alloc ⟨n, kind⟩).Live a ↔ s.heap.Live a ∨ a = ⟨n, kind⟩ := fun a =>
    hb.heap.live_alloc_iff hfresh
  have hold : ∀ a ∈ (s.heap.alloc ⟨n, kind⟩).allocated, a ∈ s.heap.allocated ∨ a = ⟨n, kind⟩ :=
    fun a ha => (List.mem_append.1 ha).imp_right List.mem_singleton.1
  have hlt : n < s.nextDrm := hb.drm_lt n (by simp [hb.drm])
  have hnot : ⟨n, kind⟩ ∉ s.vtNotifiers := fun hmem => hfresh ((hb.vt _).1 hmem).2.1
  refine ⟨⟨hb.heap.alloc, fun a ha => ?_, hb.drm_lt, fun m hm => ?_, fun a => ?_, ?_,
      fun m d hm hmn => ?_⟩,
    ⟨Function.update_self _ _ _, (hlive _).2 (.inl hb.evdi), fun k hk => (hlive _).2 ?_⟩, hb.drm,
    fun k hk => ?_⟩
  · rcases hold a ha with ha | rfl
    · exact hb.fresh a ha
    · exact hlt
  · have hmn : m ≠ n := (hlt.trans_le hm).ne'
    exact (Function.update_of_ne (by simp [hmn]) _ _).trans (hb.blank m hm)
  · show a ∈ (if kind = .painter then s.vtNotifiers ++ [⟨n, kind⟩] else s.vtNotifiers) ↔
      a.kind = .painter ∧ (s.heap.alloc ⟨n, kind⟩).Live a
    split_ifs with hpainter
    · rw [hlive a, List.mem_append, List.mem_singleton, hb.vt a]
      constructor
      · rintro (⟨ha, halive⟩ | rfl)
        · exact ⟨ha, .inl halive⟩
        · exact ⟨hpainter, .inr rfl⟩
      · rintro ⟨ha, halive | rfl⟩
        · exact .inl ⟨ha, halive⟩
        · exact .inr rfl
    · exact vt_alloc hb.heap hb.vt hfresh hpainter a
  · show (if kind = .painter then s.vtNotifiers ++ [⟨n, kind⟩] else s.vtNotifiers).Nodup
    split_ifs
    · refine List.nodup_append.2 ⟨hb.vt_nodup, List.nodup_singleton _, fun a ha b hb' => ?_⟩
      rw [List.mem_singleton.1 hb']
      exact ne_of_mem_of_not_mem ha hnot
    · exact hb.vt_nodup
  · have hne : m ≠ n := fun hmn' => hmn (congrArg some hmn'.symm)
    refine (hb.owns m d hm hmn).frame (Function.update_of_ne ?_ _ _) fun k hk => (hlive _).2 (.inl hk)
    simp [hne]
  · rcases List.mem_cons.1 hk with rfl | hk
    · exact .inr rfl
    · exact .inl (hb.part k hk)
  · rcases hold _ hk with hk | hk
    · exact (hb.unmade k hk).imp_right (List.mem_cons_of_mem _)
    · exact .inr (by simp [(ObjId.mk.inj hk).2])

/-- What `drm_dev_alloc` leaves. -/
def allocated (s : DrmSetup) : DrmSetup :=
  { s with
    drms := Function.update s.drms s.nextDrm (some ⟨none, false, false⟩)
    nextDrm := s.nextDrm + 1 }

/-- What the allocation of the evdi device leaves. -/
def begun (s : DrmSetup) : DrmSetup :=
  { s with
    heap := s.heap.alloc ⟨s.nextDrm, .evdi⟩
    drms := Function.update s.drms s.nextDrm (some ⟨some ⟨s.nextDrm, .evdi⟩, false, false⟩)
    nextDrm := s.nextDrm + 1 }

theorem Sound.begun (hs : s.Sound) : s.begun.Building s.nextDrm [] := by
  have hfresh : ∀ kind, (⟨s.nextDrm, kind⟩ : ObjId) ∉ s.heap.allocated := fun kind hmem =>
    absurd (hs.fresh _ hmem) (lt_irrefl _)
  have hlive : ∀ a, (s.heap.alloc ⟨s.nextDrm, .evdi⟩).Live a ↔ s.heap.Live a ∨ a = ⟨s.nextDrm, .evdi⟩ :=
    fun a => hs.heap.live_alloc_iff (hfresh .evdi)
  have hold : ∀ a ∈ (s.heap.alloc ⟨s.nextDrm, .evdi⟩).allocated,
      a ∈ s.heap.allocated ∨ a = ⟨s.nextDrm, .evdi⟩ :=
    fun a ha => (List.mem_append.1 ha).imp_right List.mem_singleton.1
  have hlt : ∀ m, s.drms m ≠ none → m < s.nextDrm + 1 := fun m hm =>
    (hs.drm_lt m hm).trans (Nat.lt_succ_self _)
  refine ⟨⟨hs.heap.alloc, fun a ha => ?_, drm_lt_update hlt (Nat.lt_succ_self _) _, fun m hm => ?_,
      vt_alloc hs.heap hs.vt (hfresh .evdi) (by simp), hs.vt_nodup, fun m d hm hmn => ?_⟩,
    ⟨hs.blank _ le_rfl, (hlive _).2 (.inr rfl), by simp⟩,
    Function.update_self _ _ _, fun kind hkind => ?_⟩
  · rcases hold a ha with ha | rfl
    · exact (hs.fresh a ha).trans (Nat.lt_succ_self _)
    · exact Nat.lt_succ_self _
  · exact hs.blank m ((Nat.le_succ _).trans hm)
  · have hne : m ≠ s.nextDrm := fun hmn' => hmn (congrArg some hmn'.symm)
    exact (hs.owns m d ((Function.update_of_ne hne _ _).symm.trans hm) (by simp)).frame rfl
      fun k hk => (hlive _).2 (.inl hk)
  · rcases hold _ hkind with hkind | hkind
    · exact absurd hkind (hfresh kind)
    · exact .inl (ObjId.mk.inj hkind).2

theorem kzalloc_true (s : DrmSetup) (a : ObjId) :
    s.kzalloc true a = ({ s with heap := s.heap.alloc a }, some a) := rfl

theorem kzalloc_false (s : DrmSetup) (a : ObjId) : s.kzalloc false a = (s, none) := rfl

/-- The painter is made, and is in the chain. -/
theorem Building.evdiPainterInit (hb : s.Building n []) {ans : SetupAnswers}
    (hans : ans.painter = true) :
    evdiPainterInit ans ⟨n, .evdi⟩ s = (s.withPart n .painter [], 0) := by
  have hnew := hb.notMem .painter (by simp) (by simp)
  have hevdi : (s.heap.alloc ⟨n, .painter⟩).Live ⟨n, .evdi⟩ :=
    (hb.heap.live_alloc_iff hnew).2 (.inl hb.evdi)
  have hpainter : (s.heap.alloc ⟨n, .painter⟩).Live ⟨n, .painter⟩ :=
    (hb.heap.live_alloc_iff hnew).2 (.inr rfl)
  rw [Evdi.evdiPainterInit, hans, kzalloc_true]
  dsimp only
  rw [onEvdi_live hevdi, touch_live hpainter, hb.pointers]
  rfl

/-- The cursor is made. -/
theorem Building.evdiCursorInit (hb : s.Building n [.painter]) {ans : SetupAnswers}
    (hans : ans.cursor = true) :
    evdiCursorInit ans ⟨n, .evdi⟩ s = (s.withPart n .cursor [.painter], 0) := by
  have hnew := hb.notMem .cursor (by simp) (by simp)
  have hevdi : (s.heap.alloc ⟨n, .cursor⟩).Live ⟨n, .evdi⟩ :=
    (hb.heap.live_alloc_iff hnew).2 (.inl hb.evdi)
  have hcursor : (s.heap.alloc ⟨n, .cursor⟩).Live ⟨n, .cursor⟩ :=
    (hb.heap.live_alloc_iff hnew).2 (.inr rfl)
  have hnull : (s.pointers (some ⟨n, .evdi⟩)).cursor = none := by
    show (s.evdis ⟨n, .evdi⟩).cursor = none
    rw [hb.pointers]
    rfl
  rw [Evdi.evdiCursorInit, touch_live hb.evdi]
  dsimp only
  rw [if_neg (not_not.2 hnull), hans, kzalloc_true]
  dsimp only
  rw [onEvdi_live hevdi, touch_live hcursor, hb.pointers]
  rfl

/-- The framebuffer device is made. -/
theorem Building.evdiFbdevInit (hb : s.Building n [.cursor, .painter]) {ans : SetupAnswers}
    (hans : ans.fbdev = true) (hinit : ans.drmFbHelperInit = 0)
    (hconfig : ans.drmFbHelperInitialConfig = 0) :
    evdiFbdevInit ans n s = (s.withPart n .fbdev [.cursor, .painter], 0) := by
  have hnew := hb.notMem .fbdev (by simp) (by simp)
  have hevdi : (s.heap.alloc ⟨n, .fbdev⟩).Live ⟨n, .evdi⟩ :=
    (hb.heap.live_alloc_iff hnew).2 (.inl hb.evdi)
  have hfbdev : (s.heap.alloc ⟨n, .fbdev⟩).Live ⟨n, .fbdev⟩ :=
    (hb.heap.live_alloc_iff hnew).2 (.inr rfl)
  have hprivate : s.devPrivate n = some ⟨n, .evdi⟩ := by
    rw [DrmSetup.devPrivate, hb.drm]
    rfl
  rw [Evdi.evdiFbdevInit, hprivate, hans, kzalloc_true]
  dsimp only
  rw [onEvdi_live hevdi, touch_live hfbdev, hb.pointers, hinit, hconfig]
  rfl

/-! ### Creation -/

/-- A device that has all its parts, once its managed action is added. -/
theorem Building.done (hb : s.Building n (parts false)) :
    (s.onDrm n fun drm => { drm with releaseCb := true }).Sound := by
  have heq : s.onDrm n (fun drm => { drm with releaseCb := true }) =
      { s with drms := Function.update s.drms n (some ⟨some ⟨n, .evdi⟩, true, false⟩) } := by
    rw [onDrm, hb.drm]
    rfl
  rw [heq]
  refine ⟨hb.heap, hb.fresh, drm_lt_update hb.drm_lt (hb.drm_lt n (by simp [hb.drm])) _, hb.blank, hb.vt,
    hb.vt_nodup, fun m d hm _ => ?_⟩
  by_cases hmn : m = n
  · subst hmn
    have hd : Function.update s.drms m (some ⟨some ⟨m, .evdi⟩, true, false⟩) m = some d := hm
    rw [Function.update_self] at hd
    obtain rfl := Option.some.inj hd
    exact ⟨⟨hb.pointers, hb.evdi, hb.part⟩, rfl, rfl⟩
  · refine (hb.owns m d ((Function.update_of_ne hmn _ _).symm.trans hm) ?_).frame rfl fun _ hk => hk
    exact fun hsome => hmn (Option.some.inj hsome).symm

/-- A device that has no part yet is given up. -/
theorem Building.giveUp (hb : s.Building n []) (ret : ℤ) :
    (drmDevRelease n (errFree ⟨n, .evdi⟩ n ret s).1).Sound := by
  have hpointers : s.pointers (some ⟨n, .evdi⟩) = pointersTo n [] := hb.pointers
  have heq : drmDevRelease n (errFree ⟨n, .evdi⟩ n ret s).1 = { s with
      heap := s.heap.free (some ⟨n, .evdi⟩), drms := Function.update s.drms n none } := by
    have hfree : (errFree ⟨n, .evdi⟩ n ret s).1 = { s with
        heap := s.heap.free (some ⟨n, .evdi⟩)
        drms := Function.update s.drms n (some ⟨none, false, false⟩) } := by
      rw [errFree, touch_live hb.evdi, hpointers]
      dsimp only [evdiCursorFree, pointersTo]
      rw [if_neg (by simp)]
      dsimp only
      rw [touch_live hb.evdi, hpointers, onDrm]
      dsimp only [kfree, pointersTo]
      rw [if_neg (by simp), hb.drm]
      rfl
    rw [hfree, drmDevRelease]
    simp
  rw [heq]
  exact hb.drop (fun m hm => (Option.some.inj hm).symm) (hb.heap.free hb.evdi) (Heap.allocated_free _ _)
    (vt_free hb.vt hb.evdi (by simp)) hb.vt_nodup fun m kind hmn hkind =>
      (Heap.live_free_iff hb.evdi).2 ⟨hkind, by simp [hmn]⟩

/-- A DRM device without an evdi device is given up. -/
theorem Sound.giveUp (hs : s.Sound) : (drmDevRelease s.nextDrm s.allocated).Sound := by
  have heq : drmDevRelease s.nextDrm s.allocated = { s with
      drms := Function.update s.drms s.nextDrm none, nextDrm := s.nextDrm + 1 } := by
    simp [drmDevRelease, allocated]
  rw [heq]
  have hnext : ({ s with nextDrm := s.nextDrm + 1 } : DrmSetup).Sound :=
    ⟨hs.heap, fun a ha => (hs.fresh a ha).trans (Nat.lt_succ_self _),
      fun m hm => (hs.drm_lt m hm).trans (Nat.lt_succ_self _),
      fun m hm => hs.blank m ((Nat.le_succ _).trans hm),
      hs.vt, hs.vt_nodup, fun m d hm h => (hs.owns m d hm h).frame rfl fun _ hk => hk⟩
  exact hnext.drop (by simp) hs.heap rfl hs.vt hs.vt_nodup fun _ _ _ hk => hk

end DrmSetup

/-- No step of a set-up fails after its painter. -/
def SetupAnswers.Clean (ans : SetupAnswers) : Prop :=
  ans.drmDevAlloc = true → ans.evdi = true → ans.painter = true →
    ans.cursor = true ∧ ans.fbdev = true ∧ ans.drmFbHelperInit = 0 ∧ ans.drmFbHelperInitialConfig = 0 ∧
    ans.drmVblankInit = 0 ∧ ans.drmmAddAction = 0

namespace DrmSetup

variable {s t : DrmSetup} {n : ℕ}

theorem evdiDrmDeviceCreate_eq {ans : SetupAnswers} (hdrm : ans.drmDevAlloc = true) (s : DrmSetup) :
    evdiDrmDeviceCreate ans s =
      if (evdiDrmDeviceInit ans s.nextDrm s.allocated).2 ≠ 0 ∨ ans.drmDevRegister ≠ 0 then
        drmDevRelease s.nextDrm (evdiDrmDeviceInit ans s.nextDrm s.allocated).1
      else (evdiDrmDeviceInit ans s.nextDrm s.allocated).1 := by
  rw [evdiDrmDeviceCreate, hdrm]
  show (if (evdiDrmDeviceInit ans s.nextDrm s.allocated).2 ≠ 0 then _ else _) = _
  split_ifs <;> tauto

theorem evdiDrmDeviceInit_eq {ans : SetupAnswers} (hevdi : ans.evdi = true) (s : DrmSetup) :
    evdiDrmDeviceInit ans s.nextDrm s.allocated =
      evdiDrmDeviceInitParts ans ⟨s.nextDrm, .evdi⟩ s.nextDrm s.begun := by
  rw [evdiDrmDeviceInit, hevdi, kzalloc_true]
  simp [onDrm, allocated, begun]

/-- The set-up of a device that does not fail. -/
theorem Building.initParts (hb : s.Building n []) {ans : SetupAnswers} (hpainter : ans.painter = true)
    (hcursor : ans.cursor = true) (hfbdev : ans.fbdev = true) (hhelper : ans.drmFbHelperInit = 0)
    (hconfig : ans.drmFbHelperInitialConfig = 0) (hvblank : ans.drmVblankInit = 0)
    (haction : ans.drmmAddAction = 0) :
    (evdiDrmDeviceInitParts ans ⟨n, .evdi⟩ n s).2 = 0 ∧
      (evdiDrmDeviceInitParts ans ⟨n, .evdi⟩ n s).1.Sound ∧
      (evdiDrmDeviceInitParts ans ⟨n, .evdi⟩ n s).1.drms n ≠ none := by
  have hb₁ := hb.withPart .painter (by simp) (by simp)
  have hb₂ := hb₁.withPart .cursor (by simp) (by simp)
  have hb₃ := hb₂.withPart .fbdev (by simp) (by simp)
  have heq : evdiDrmDeviceInitParts ans ⟨n, .evdi⟩ n s =
      ((((s.withPart n .painter []).withPart n .cursor [.painter]).withPart n .fbdev
        [.cursor, .painter]).onDrm n fun drm => { drm with releaseCb := true }, 0) := by
    rw [evdiDrmDeviceInitParts, hb.evdiPainterInit hpainter]
    dsimp only
    rw [if_neg (by simp), hb₁.evdiCursorInit hcursor]
    dsimp only
    rw [if_neg (by simp), hb₂.evdiFbdevInit hfbdev hhelper hconfig]
    dsimp only
    rw [if_neg (by simp), if_neg (not_not.2 hvblank), drmmAddActionOrReset, if_neg (not_not.2 haction)]
    rfl
  rw [heq]
  exact ⟨rfl, hb₃.done, by simp [onDrm, hb₃.drm]⟩

/-- Without a painter, it is given up. -/
theorem Building.initParts_giveUp (hb : s.Building n []) {ans : SetupAnswers}
    (hpainter : ans.painter = false) :
    (evdiDrmDeviceInitParts ans ⟨n, .evdi⟩ n s).2 ≠ 0 ∧
      (drmDevRelease n (evdiDrmDeviceInitParts ans ⟨n, .evdi⟩ n s).1).Sound := by
  have hinit : Evdi.evdiPainterInit ans ⟨n, .evdi⟩ s = (s, -ENOMEM) := by
    have hsame : Function.update s.evdis ⟨n, .evdi⟩ { s.evdis ⟨n, .evdi⟩ with painter := none } =
        s.evdis := by
      rw [Function.update_eq_self_iff, hb.pointers]
      rfl
    rw [Evdi.evdiPainterInit, hpainter, kzalloc_false]
    dsimp only
    rw [onEvdi_live hb.evdi, hsame]
  have heq : evdiDrmDeviceInitParts ans ⟨n, .evdi⟩ n s = errFree ⟨n, .evdi⟩ n (-ENOMEM) s := by
    rw [evdiDrmDeviceInitParts, hinit]
    rfl
  rw [heq]
  exact ⟨by simp [errFree, ENOMEM], hb.giveUp _⟩

/-- **A creation** that does not fail after its painter leaves all as it should be. -/
theorem Sound.create (hs : s.Sound) {ans : SetupAnswers} (hans : ans.Clean) :
    (evdiDrmDeviceCreate ans s).Sound := by
  cases hdrm : ans.drmDevAlloc with
  | false =>
    rw [evdiDrmDeviceCreate, hdrm]
    exact hs
  | true =>
    rw [evdiDrmDeviceCreate_eq hdrm]
    cases hevdi : ans.evdi with
    | false =>
      have hinit : evdiDrmDeviceInit ans s.nextDrm s.allocated = (s.allocated, -ENOMEM) := by
        rw [evdiDrmDeviceInit, hevdi]
        rfl
      rw [hinit, if_pos (.inl (by simp [ENOMEM]))]
      exact hs.giveUp
    | true =>
      rw [evdiDrmDeviceInit_eq hevdi]
      cases hpainter : ans.painter with
      | false =>
        obtain ⟨hret, hsound⟩ := hs.begun.initParts_giveUp hpainter
        rw [if_pos (.inl hret)]
        exact hsound
      | true =>
        obtain ⟨hcursor, hfbdev, hhelper, hconfig, hvblank, haction⟩ := hans hdrm hevdi hpainter
        obtain ⟨-, hsound, hthere⟩ :=
          hs.begun.initParts hpainter hcursor hfbdev hhelper hconfig hvblank haction
        split_ifs
        · obtain ⟨drm, hdrm'⟩ := Option.ne_none_iff_exists'.1 hthere
          exact hsound.release hdrm'
        · exact hsound

end DrmSetup

end Evdi
