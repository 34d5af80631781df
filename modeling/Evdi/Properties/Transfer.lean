import Evdi.Foundations.Transition
import Evdi.Model.Client
import Evdi.Properties.PlainCopy

/-!
# Incremental transfer

A client that grabs only the dirty rectangles ends up with what a full copy would give it.  The runs are
those of one framebuffer: the compositor writes pixels and marks rectangles, and the client grabs, where
the locked phase and the copy of a grab are two steps and several grabs may be under way.

* `Transfer.Inv`: the invariant, "a pixel that was marked is fresh in the client's buffer, or it is owed:
  written and not yet marked, pending, or in the rectangles of a grab under way";
* `Transfer.Inv.step`: every step keeps it;
* `Transfer.transfer_refines`: the result.
-/

namespace Evdi

open Bytes Overwrite Transition Absorption

/-- A device with its grabs under way, the memory in which its framebuffer is mapped, the client's memory
around its buffer, the pixels that were ever marked, and those written since they were last marked. -/
structure Transfer extends Clients where
  memory : Memory
  buffer : UserRegion
  marked : Set Pixel
  unmarked : Set Pixel

namespace Transfer

/-- What may happen. -/
inductive Action
  | write (pixels : Set Pixel)
  | mark (rect : ClipRect)
  | grabpix (cmd : GrabpixCmd)
  | grabpixDone (rects : List ClipRect)

/-- One step: the compositor writes pixels of the framebuffer, or marks a rectangle; the client's grab
passes its locked phase, or ends with success, with the rectangles it returns. -/
inductive Step (fb : Framebuffer) (stride : ℕ) : Transfer → Action → Transfer → Prop
  | write {s : Transfer} {pixels : Set Pixel} {memory : Memory} : pixels ⊆ fb.pixels →
      (∀ a, (∀ c ∈ cells 4 pixels, fbCell fb c ≠ a) → memory a = s.memory a) →
      Step fb stride s (.write pixels)
        { s with memory := memory, unmarked := s.unmarked ∪ pixels }
  | mark {s : Transfer} (rect : ClipRect) :
      Step fb stride s (.mark rect)
        { s with
          device := painterMarkDirty rect s.device
          marked := s.marked ∪ (rect.ordered.pixels ∩ fb.pixels)
          unmarked := s.unmarked \ rect.ordered.pixels }
  | grabpix {s : Transfer} {d : Device} {cmd cmd' : GrabpixCmd} {g : Grab} :
      cmd.bufByteStride.toInt = stride → painterGrabpixLocked cmd s.device = (d, cmd', .ok g) →
      Step fb stride s (.grabpix cmd) { s with device := d, grabs := s.grabs ++ [g] }
  | grabpixDone {s : Transfer} {l r : List Grab} {g : Grab} (env : GrabEnv) :
      s.grabs = l ++ g :: r → env.user g.cmd.buffer = s.buffer →
      (env.objects fb.obj).memory = s.memory → (painterGrabpixCopy env g s.device).ret = 0 →
      Step fb stride s (.grabpixDone (painterGrabpixCopy env g s.device).rects)
        { s with
          device := painterGrabpixFinish g s.device
          grabs := l ++ r
          buffer := (painterGrabpixCopy env g s.device).buffer }

variable {fb : Framebuffer} {stride : ℕ}

/-- The framebuffer is one that the driver admits and not from xe, and the rows of the client's buffer
do not overlap. -/
structure Setting (fb : Framebuffer) (stride : ℕ) : Prop where
  admitted : fb.Admitted
  not_xe : fb.isFromXe = false
  stride_ge : 4 * fb.width.toNat ≤ stride

/-- The rectangles that a grab is about to take start below `2 ^ 31` on both sides. -/
def Fits (fb : Framebuffer) (stride : ℕ) (s : Transfer) : Action → Prop
  | .grabpix cmd =>
    ∀ r ∈ shrinkDirtyRects cmd.numRects s.device.dirtyRects, CopyFits fb stride r
  | _ => True

/-- The client has the pixel as it is in the framebuffer. -/
def Fresh (fb : Framebuffer) (stride : ℕ) (s : Transfer) (p : Pixel) : Prop :=
  ∀ i < 4, s.buffer.byte (clientCell stride (p, i)) = s.memory (fbCell fb (p, i))

/-- The pixel is still to come: it was written and not yet marked, or it is pending, or a grab under way
will copy it. -/
def Owed (s : Transfer) (p : Pixel) : Prop :=
  p ∈ s.unmarked ∨ p ∈ covered s.device.dirtyRects ∨ ∃ g ∈ s.grabs, p ∈ covered g.dirtyRects

/-- The framebuffer is shown, to a client that has cursor events; its grabs copy it with its stride, and
fit; and the pixels that were marked are owed or fresh. -/
structure Inv (fb : Framebuffer) (stride : ℕ) (s : Transfer) : Prop where
  scanout : s.device.painter.bind (·.scanoutFb) = some fb
  cursor : s.device.cursorEventsEnabled = true
  grabs : ∀ g ∈ s.grabs, g.efb = fb ∧ g.cmd.bufByteStride.toInt = stride ∧
    ∀ r ∈ g.dirtyRects, CopyFits fb stride r
  unmarked : s.unmarked ⊆ fb.pixels
  marked : s.marked ⊆ fb.pixels
  delivered : ∀ p ∈ s.marked, s.Owed p ∨ s.Fresh fb stride p

/-- Before the first step: the framebuffer is shown, and nothing was marked or written. -/
structure Starts (fb : Framebuffer) (s : Transfer) : Prop where
  scanout : s.device.painter.bind (·.scanoutFb) = some fb
  cursor : s.device.cursorEventsEnabled = true
  grabs : s.grabs = []
  unmarked : s.unmarked = ∅
  marked : s.marked = ∅

theorem Starts.inv {s : Transfer} (h : s.Starts fb) : s.Inv fb stride where
  scanout := h.scanout
  cursor := h.cursor
  grabs := by simp [h.grabs]
  unmarked := by simp [h.unmarked]
  marked := by simp [h.marked]
  delivered := by simp [h.marked]

/-! ### The steps -/

/-- A write leaves the other pixels alone. -/
theorem Fresh.write {s : Transfer} {p : Pixel} {pixels : Set Pixel} {memory : Memory}
    (hfb : fb.Admitted) (h : s.Fresh fb stride p) (hp : p ∈ fb.pixels) (hpixels : pixels ⊆ fb.pixels)
    (hnot : p ∉ pixels)
    (hwrite : ∀ a, (∀ c ∈ cells 4 pixels, fbCell fb c ≠ a) → memory a = s.memory a) (u : Set Pixel) :
    Fresh fb stride { s with memory := memory, unmarked := u } p := by
  intro i hi
  rw [h i hi]
  refine (hwrite _ fun c hc heq => ?_).symm
  obtain rfl := cell_injOn hfb.pitch_ge (hpixels hc.1).1 hp.1 hc.2 hi heq
  exact hnot hc.1

theorem Inv.write {s : Transfer} {pixels : Set Pixel} {memory : Memory} (h : s.Inv fb stride)
    (hfb : fb.Admitted) (hpixels : pixels ⊆ fb.pixels)
    (hwrite : ∀ a, (∀ c ∈ cells 4 pixels, fbCell fb c ≠ a) → memory a = s.memory a) :
    Inv fb stride { s with memory := memory, unmarked := s.unmarked ∪ pixels } where
  scanout := h.scanout
  cursor := h.cursor
  grabs := h.grabs
  unmarked := Set.union_subset h.unmarked hpixels
  marked := h.marked
  delivered := by
    intro p hp
    by_cases hnot : p ∈ pixels
    · exact .inl (.inl (.inr hnot))
    · rcases h.delivered p hp with (howed | howed | howed) | hfresh
      · exact .inl (.inl (.inl howed))
      · exact .inl (.inr (.inl howed))
      · exact .inl (.inr (.inr howed))
      · exact .inr (hfresh.write hfb (h.marked hp) hpixels hnot hwrite _)

theorem Inv.mark {s : Transfer} (h : s.Inv fb stride) (rect : ClipRect) :
    Inv fb stride { s with
      device := painterMarkDirty rect s.device
      marked := s.marked ∪ (rect.ordered.pixels ∩ fb.pixels)
      unmarked := s.unmarked \ rect.ordered.pixels } := by
  obtain ⟨p, hp, hscanout⟩ := Option.bind_eq_some_iff.1 h.scanout
  have hmarked : (painterMarkDirty rect s.device).painter = some (p.markDirty rect) := by
    simp [painterMarkDirty, hp]
  have hcover := p.covered_markDirty hscanout rect
  rw [pixels_sanitize, ← Device.dirtyRects_some hp, ← Device.dirtyRects_some hmarked] at hcover
  refine ⟨?_, h.cursor, h.grabs, Set.sdiff_subset.trans h.unmarked,
    Set.union_subset h.marked Set.inter_subset_right, ?_⟩
  · show (painterMarkDirty rect s.device).painter.bind (·.scanoutFb) = some fb
    rw [hmarked]
    exact (p.markDirty_scanoutFb rect).trans hscanout
  · rintro q (hq | hq)
    · by_cases hin : q ∈ rect.ordered.pixels
      · exact .inl (.inr (.inl (hcover (.inr ⟨hin, h.marked hq⟩))))
      · rcases h.delivered q hq with (howed | howed | howed) | hfresh
        · exact .inl (.inl ⟨howed, hin⟩)
        · exact .inl (.inr (.inl (hcover (.inl howed))))
        · exact .inl (.inr (.inr howed))
        · exact .inr hfresh
    · exact .inl (.inr (.inl (hcover (.inr hq))))

theorem Inv.grabpix {s : Transfer} {d : Device} {cmd cmd' : GrabpixCmd} {g : Grab}
    (h : s.Inv fb stride) (hfits : s.Fits fb stride (.grabpix cmd))
    (hstride : cmd.bufByteStride.toInt = stride)
    (heq : painterGrabpixLocked cmd s.device = (d, cmd', .ok g)) :
    Inv fb stride { s with device := d, grabs := s.grabs ++ [g] } := by
  obtain ⟨p, efb, hp, hefb, rfl, rfl, rfl⟩ := painterGrabpixLocked_ok heq
  obtain rfl : efb = fb := by
    have hscanout := h.scanout
    rw [hp, Option.bind_some, hefb] at hscanout
    exact Option.some.inj hscanout
  refine ⟨by simp [drmFramebufferRef, hp, hefb], h.cursor, ?_, h.unmarked, h.marked, ?_⟩
  · intro g hg
    rcases List.mem_append.1 hg with hg | hg
    · exact h.grabs g hg
    · rw [List.mem_singleton.1 hg]
      exact ⟨rfl, hstride, Device.dirtyRects_some hp ▸ hfits⟩
  · intro q hq
    rcases h.delivered q hq with (howed | howed | ⟨g, hg, howed⟩) | hfresh
    · exact .inl (.inl howed)
    · -- what was pending is now in the rectangles of the grab
      rw [Device.dirtyRects_some hp] at howed
      exact .inl (.inr (.inr ⟨_, List.mem_append_right _ (List.mem_singleton_self _),
        covered_shrinkDirtyRects _ _ howed⟩))
    · exact .inl (.inr (.inr ⟨g, List.mem_append_left _ hg, howed⟩))
    · exact .inr hfresh

/-- What the end of a grab does to the client's buffer. -/
theorem Inv.copied {s : Transfer} {env : GrabEnv} {g : Grab} (h : s.Inv fb stride)
    (hset : Setting fb stride) (hg : g ∈ s.grabs)
    (huser : env.user g.cmd.buffer = s.buffer) (hmem : (env.objects fb.obj).memory = s.memory)
    (hret : (painterGrabpixCopy env g s.device).ret = 0) :
    covered g.dirtyRects ⊆ fb.pixels ∧ Overwrites (clientCell stride)
      (fun c => s.memory (fbCell fb c)) (cells 4 (covered g.dirtyRects))
      s.buffer.byte (painterGrabpixCopy env g s.device).buffer.byte := by
  obtain ⟨rfl, hstride, hfits⟩ := h.grabs g hg
  have hcopy := grabpixCopy_overwrites hset.admitted hset.not_xe hset.stride_ge hfits hstride
    h.cursor hret
  rwa [huser, hmem] at hcopy

theorem Inv.grabpixDone {s : Transfer} {env : GrabEnv} {g : Grab} {l r : List Grab}
    (h : s.Inv fb stride) (hset : Setting fb stride) (hgrabs : s.grabs = l ++ g :: r)
    (huser : env.user g.cmd.buffer = s.buffer) (hmem : (env.objects fb.obj).memory = s.memory)
    (hret : (painterGrabpixCopy env g s.device).ret = 0) :
    Inv fb stride { s with
      device := painterGrabpixFinish g s.device
      grabs := l ++ r
      buffer := (painterGrabpixCopy env g s.device).buffer } := by
  have hg : g ∈ s.grabs := by simp [hgrabs]
  obtain ⟨hinside, hcopy⟩ := h.copied hset hg huser hmem hret
  have hdevice : (painterGrabpixFinish g s.device).painter = s.device.painter ∧
      (painterGrabpixFinish g s.device).cursorEventsEnabled = s.device.cursorEventsEnabled := by
    rw [painterGrabpixFinish, sendVblank_eq]
    exact ⟨rfl, rfl⟩
  have hdirts : (painterGrabpixFinish g s.device).dirtyRects = s.device.dirtyRects := by
    rw [Device.dirtyRects, hdevice.1]
    rfl
  refine ⟨?_, hdevice.2.trans h.cursor, fun g' hg' => h.grabs g' ?_, h.unmarked, h.marked, ?_⟩
  · show (painterGrabpixFinish g s.device).painter.bind (·.scanoutFb) = some fb
    rw [hdevice.1]
    exact h.scanout
  · rw [hgrabs]
    rcases List.mem_append.1 hg' with hg' | hg'
    · exact List.mem_append_left _ hg'
    · exact List.mem_append_right _ (List.mem_cons_of_mem _ hg')
  · intro p hp
    by_cases hin : p ∈ covered g.dirtyRects
    · exact .inr fun i hi => hcopy.fresh (p, i) ⟨hin, hi⟩
    · rcases h.delivered p hp with (howed | howed | ⟨g', hg', howed⟩) | hfresh
      · exact .inl (.inl howed)
      · exact .inl (.inr (.inl (hdirts ▸ howed)))
      · refine .inl (.inr (.inr ⟨g', ?_, howed⟩))
        rw [hgrabs, List.mem_append, List.mem_cons] at hg'
        rcases hg' with hg' | rfl | hg'
        · exact List.mem_append_left _ hg'
        · exact absurd howed hin
        · exact List.mem_append_right _ hg'
      · refine .inr fun i hi => ?_
        rw [← hfresh i hi]
        refine hcopy.frame _ fun c hc heq => hin ?_
        obtain rfl := cell_injOn hset.stride_ge (hinside hc.1).1 (h.marked hp).1 hc.2 hi heq
        exact hc.1

theorem Inv.step {s t : Transfer} {a : Action} (h : s.Inv fb stride) (hset : Setting fb stride)
    (hfits : s.Fits fb stride a) (hstep : Step fb stride s a t) : t.Inv fb stride := by
  cases hstep with
  | write hpixels hwrite => exact h.write hset.admitted hpixels hwrite
  | mark rect => exact h.mark rect
  | grabpix hstride heq => exact h.grabpix hfits hstride heq
  | grabpixDone env hgrabs huser hmem hret => exact h.grabpixDone hset hgrabs huser hmem hret

/-! ### The result -/

/-- **Incremental transfer refines a full copy**, as long as the rectangles that are grabbed start below
`2 ^ 31`. In every such run, when nothing is pending, no grab is under way and every write has been
marked, the client has every pixel that was ever marked as it is in the framebuffer; and whenever a grab
ends, each byte of the client's buffer that it changed belongs to a pixel of the rectangles it returns. -/
theorem transfer_refines {s t : Transfer} {as : List Action} (hset : Setting fb stride)
    (hs : s.Starts fb)
    (hrun : Run (fun s a t => s.Fits fb stride a ∧ Step fb stride s a t) s as t) :
    (t.device.dirtyRects = [] → t.grabs = [] → t.unmarked = ∅ →
      ∀ p ∈ t.marked, t.Fresh fb stride p) ∧
    ∀ rects u, Step fb stride t (.grabpixDone rects) u →
      ∀ a, u.buffer.byte a ≠ t.buffer.byte a →
        ∃ c ∈ cells 4 (covered rects), clientCell stride c = a := by
  have hinv : t.Inv fb stride :=
    hrun.invariant (fun _ _ _ h hstep => h.step hset hstep.1 hstep.2) hs.inv
  constructor
  · intro hpending hgrabs hunmarked p hp
    rcases hinv.delivered p hp with (howed | howed | ⟨g, hg, -⟩) | hfresh
    · simp [hunmarked] at howed
    · simp [hpending] at howed
    · simp [hgrabs] at hg
    · exact hfresh
  · intro rects u hstep a ha
    cases hstep with
    | grabpixDone env hgrabs huser hmem hret =>
      obtain ⟨-, hcopy⟩ := hinv.copied hset (by simp [hgrabs]) huser hmem hret
      rw [painterGrabpixCopy_of_grabbable _ ((painterGrabpixCopy_ret_eq_zero _ _ _).1 hret)]
      exact hcopy.changed ha

/-- A client whose buffer is all zero, and a framebuffer of 64 by 64 in memory full of ones. -/
def sample : Transfer where
  device := { Device.sample (.sample 1 64 64 256) with cursorEventsEnabled := true }
  grabs := []
  memory := fun _ => 1
  buffer := sampleUser 0
  marked := ∅
  unmarked := ∅

/-- The first pixel of row 32 is marked. -/
def sampleMarked : Transfer :=
  let r : ClipRect := ⟨0, 32, 1, 33⟩
  { sample with
    device := painterMarkDirty r sample.device
    marked := sample.marked ∪ (r.ordered.pixels ∩ (Framebuffer.sample 1 64 64 256).pixels)
    unmarked := sample.unmarked \ r.ordered.pixels }

/-- The grab of that pixel. -/
def sampleGrab (stride : Int32) : Grab where
  cmd := ⟨grabpixModeDirty, 64, 64, stride, 0, 1, 0⟩
  efb := .sample 1 64 64 256
  dirtyRects := [⟨0, 32, 1, 33⟩]
  crtc := none
  vblank := none

/-- It has passed its locked phase. -/
def sampleLocked (stride : Int32) : Transfer :=
  { sampleMarked with
    device := (painterGrabpixLocked (.sample 64 64 stride 16) sampleMarked.device).1
    grabs := [sampleGrab stride] }

/-- It has ended. -/
def sampleGrabbed (stride : Int32) : Transfer :=
  let s := sampleLocked stride
  { s with
    device := painterGrabpixFinish (sampleGrab stride) s.device
    grabs := []
    buffer := (painterGrabpixCopy (.sample 1) (sampleGrab stride) s.device).buffer }

theorem shrinkDirtyRects_sample : shrinkDirtyRects 16 [⟨0, 32, 1, 33⟩] = [⟨0, 32, 1, 33⟩] := by
  decide +kernel

theorem sample_mark (n : ℕ) :
    Step (.sample 1 64 64 256) n sample (.mark ⟨0, 32, 1, 33⟩) sampleMarked := .mark _

theorem sample_grabpix {n : ℕ} {stride : Int32} (h : stride.toInt = n) :
    Step (.sample 1 64 64 256) n sampleMarked (.grabpix (.sample 64 64 stride 16))
      (sampleLocked stride) := by
  have hnum : ¬ (16 : Int32) < 1 := by decide
  have hgrab : ∀ rects, rects = [⟨0, 32, 1, 33⟩] →
      (⟨(GrabpixCmd.sample 64 64 stride 16).setNumRects rects.length, .sample 1 64 64 256, rects,
        none, none⟩ : Grab) = sampleGrab stride := by
    rintro _ rfl
    rfl
  have hlocked := @painterGrabpixLocked_scanout (.sample 64 64 stride 16) sampleMarked.device _ _
    rfl hnum rfl rfl
  refine .grabpix h (Prod.ext rfl (Prod.ext rfl ?_))
  rw [hlocked]
  exact congrArg Except.ok (hgrab _ shrinkDirtyRects_sample)

theorem sample_grabpixDone {n : ℕ} {stride : Int32}
    (hret : (painterGrabpixCopy (.sample 1) (sampleGrab stride) (sampleLocked stride).device).ret = 0) :
    Step (.sample 1 64 64 256) n (sampleLocked stride)
      (.grabpixDone
        (painterGrabpixCopy (.sample 1) (sampleGrab stride) (sampleLocked stride).device).rects)
      (sampleGrabbed stride) :=
  .grabpixDone (l := []) (r := []) (.sample 1) rfl rfl rfl hret

theorem sampleGrabbed_unmarked (stride : Int32) : (sampleGrabbed stride).unmarked = ∅ :=
  Set.empty_sdiff _

theorem sampleGrabbed_marked (stride : Int32) : (0, 32) ∈ (sampleGrabbed stride).marked :=
  .inr ⟨by decide, by decide, by decide⟩

/-- One pixel is marked and grabbed: the client has it. -/
theorem transfer_refines_grabbed :
    (sampleGrabbed 256).Fresh (.sample 1 64 64 256) 256 (0, 32) := by
  have hset : Setting (.sample 1 64 64 256) 256 :=
    ⟨⟨by decide, by decide, by decide⟩, rfl, by decide⟩
  have hmark : sample.Fits (.sample 1 64 64 256) 256 (.mark ⟨0, 32, 1, 33⟩) := trivial
  have hgrabpix : sampleMarked.Fits (.sample 1 64 64 256) 256
      (.grabpix (.sample 64 64 256 16)) := by
    intro r hr _
    obtain rfl := List.mem_singleton.1 (shrinkDirtyRects_sample ▸ hr)
    decide
  have hdone : ∀ rects, (sampleLocked 256).Fits (.sample 1 64 64 256) 256 (.grabpixDone rects) :=
    fun _ => trivial
  have hrun : Run (fun s a t => s.Fits (.sample 1 64 64 256) 256 a ∧
      Step (.sample 1 64 64 256) 256 s a t) sample _ (sampleGrabbed 256) :=
    ((Run.one ⟨hmark, sample_mark 256⟩).snoc ⟨hgrabpix, sample_grabpix rfl⟩).snoc
      ⟨hdone _, sample_grabpixDone (by decide +kernel)⟩
  exact (transfer_refines hset ⟨rfl, rfl, rfl, rfl, rfl⟩ hrun).1 rfl rfl
    (sampleGrabbed_unmarked 256) _ (sampleGrabbed_marked 256)

/-- With rows of 64 MiB the pixel lies 2 GiB into the client's buffer, an offset that is negative as an
`int`: nothing is pending any more, and the client does not have it. -/
theorem far_row_stays_stale :
    Setting (.sample 1 64 64 256) (2 ^ 26) ∧ sample.Starts (.sample 1 64 64 256) ∧ ∃ as t,
      Run (Step (.sample 1 64 64 256) (2 ^ 26)) sample as t ∧ t.device.dirtyRects = [] ∧
      t.grabs = [] ∧ t.unmarked = ∅ ∧ (0, 32) ∈ t.marked ∧
      ¬ t.Fresh (.sample 1 64 64 256) (2 ^ 26) (0, 32) := by
  refine ⟨⟨⟨by decide, by decide, by decide⟩, rfl, by decide⟩, ⟨rfl, rfl, rfl, rfl, rfl⟩, _,
    sampleGrabbed 67108864, ((Run.one (sample_mark _)).snoc (sample_grabpix rfl)).snoc
    (sample_grabpixDone (by decide +kernel)), rfl, rfl, sampleGrabbed_unmarked _,
    sampleGrabbed_marked _, fun hfresh => ?_⟩
  have hstale : (sampleGrabbed 67108864).buffer.byte (2 ^ 31) = 0 := by decide +kernel
  have hone := hstale.symm.trans (hfresh 0 (by decide))
  exact absurd hone (by decide)

end Transfer

end Evdi
