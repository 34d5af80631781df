import Evdi.Foundations.Mirror
import Evdi.Properties.Damage
import Evdi.Properties.Transfer

/-!
# The picture on a screen

What a device, a compositor that flips pages and one client do to the picture, without the code: the client's
buffer is a mirror of the framebuffer that is scanned out.  A commit shows another framebuffer, marks the
damage, and hands over its vblank event; the event goes with the next grab of damage and is sent when the
grab is over; and up to then the compositor draws into neither framebuffer.

* `Frames`: the compositor's framebuffers, `Kept`: those it does not draw into;
* `Picture`, `Picture.Beside`: what goes on beside a commit;
* `Before`, `During`, `Marked`, `Rested`: what holds before the flip, while the damage is marked, before the
  event is handed over, and afterwards;
* `Before.flip`, `During.mark`, `Marked.setVblank`: how a commit gets from one to the next;
* `Rested.copied`: when nothing is left to copy, the client has the picture and the event was sent;
* `Rested.next`: when the event was sent, another commit may start.
-/

namespace Evdi

open Mirroring Bytes Overwrite Absorption

/-! ### Framebuffers -/

/-- The memory of the GEM objects, the framebuffer of the last commit, the one before it, and the event of the
last commit. -/
structure Frames where
  memory : ℕ → Memory
  front : Framebuffer
  old : Framebuffer
  event : Option VblankEvent

namespace Frames

/-- The event of the last commit is among those sent. -/
def Sent (F : Frames) (sent : List (Crtc × VblankEvent)) : Prop := ∀ e ∈ F.event, ∃ c, (c, e) ∈ sent

/-- The compositor does not draw into the framebuffer: it is the last one, or the one before it and the event
was not sent yet. -/
def Kept (F : Frames) (sent : List (Crtc × VblankEvent)) (fb : Framebuffer) : Prop :=
  fb = F.front ∨ fb = F.old ∧ ¬ F.Sent sent

/-- The bytes of a pixel. -/
def content (F : Frames) (fb : Framebuffer) (p : Pixel) (i : Fin 4) : UInt8 :=
  F.memory fb.obj.id (fbCell fb (p, i))

/-- The memory of an object is drawn into. -/
def draw (F : Frames) (obj : ℕ) (memory : Memory) : Frames :=
  { F with memory := Function.update F.memory obj memory }

theorem content_draw {F : Frames} {fb : Framebuffer} {obj : ℕ} (h : fb.obj.id ≠ obj) (memory : Memory) :
    (F.draw obj memory).content fb = F.content fb := by
  funext p i
  simp only [content, draw, Function.update_of_ne h]

end Frames

/-- A framebuffer of the given size that the driver admits, not from xe, all rows of which start below `2 ^ 31`,
in its memory and in the client's buffer; the rows of that buffer do not overlap. -/
structure Framebuffer.Suits (fb : Framebuffer) (width height : UInt32) (stride : ℕ) : Prop
    extends Transfer.Setting fb stride where
  width_eq : fb.width = width
  height_eq : fb.height = height
  src_lt : fb.offset0.toNat + (fb.pitch0.toNat + 4) * 2 ^ 16 < 2 ^ 31
  dst_lt : (stride + 4) * 2 ^ 16 < 2 ^ 31

/-- Every rectangle of such a framebuffer can be copied. -/
theorem Framebuffer.Suits.copyFits {fb : Framebuffer} {width height : UInt32} {stride : ℕ}
    (h : fb.Suits width height stride) (r : ClipRect) : CopyFits fb stride r := by
  have hx := r.x1.toNat_lt
  have hy := r.y1.toNat_lt
  have hrow (n : ℕ) : n * r.y1.toNat + 4 * r.x1.toNat ≤ (n + 4) * 2 ^ 16 := by
    have hmul : n * r.y1.toNat ≤ n * 2 ^ 16 := Nat.mul_le_mul_left n hy.le
    omega
  have hsrc := hrow fb.pitch0.toNat
  have hdst := hrow stride
  have := h.src_lt
  have := h.dst_lt
  exact fun _ => ⟨by omega, by omega⟩

theorem Framebuffer.Suits.pixels_eq {fb fb' : Framebuffer} {width height : UInt32} {stride : ℕ}
    (h : fb.Suits width height stride) (h' : fb'.Suits width height stride) : fb.pixels = fb'.pixels := by
  rw [Framebuffer.pixels, Framebuffer.pixels, h.width_eq, h.height_eq, h'.width_eq, h'.height_eq]

/-! ### Pictures -/

/-- The event that goes with a grab. -/
def Grab.vblanks (g : Grab) : List (Crtc × VblankEvent) := vblankPair g.crtc g.vblank

/-- The compositor's framebuffers; the scanout buffer, the damage, the event that waits for a grab, and the
events sent; the grab under way, and the client's buffer. -/
structure Picture extends Frames where
  scanout : Framebuffer
  dirtyRects : List ClipRect
  held : List (Crtc × VblankEvent)
  sent : List (Crtc × VblankEvent)
  grab : Option Grab
  buffer : UserRegion

namespace Picture

/-- What goes on beside a commit: a grab takes the damage and the event, or ends with its copy, and the
compositor draws into what it does not keep. -/
inductive Beside (stride : ℕ) : Picture → Picture → Prop
  | lock {P : Picture} {g : Grab} : P.grab = none → g.efb = P.scanout →
      covered P.dirtyRects ⊆ covered g.dirtyRects → g.vblanks = P.held →
      g.cmd.bufByteStride.toInt = stride →
      Beside stride P { P with dirtyRects := [], held := [], grab := some g }
  | done {P : Picture} {g : Grab} {buffer : UserRegion} : P.grab = some g →
      covered g.dirtyRects ⊆ g.efb.pixels →
      Overwrites (clientCell stride) (fun c => P.memory g.efb.obj.id (fbCell g.efb c))
        (cells 4 (covered g.dirtyRects)) P.buffer.byte buffer.byte →
      Beside stride P { P with grab := none, sent := P.sent ++ g.vblanks, buffer := buffer }
  | draw {P : Picture} (obj : ℕ) (memory : Memory) : (∀ fb, P.Kept P.sent fb → fb.obj.id ≠ obj) →
      Beside stride P { P with toFrames := P.toFrames.draw obj memory }

/-- The client's buffer, as a mirror of the scanout buffer. -/
def mirror (stride : ℕ) (P : Picture) : Mirror Framebuffer Pixel (Fin 4 → UInt8) where
  content := P.content
  shown := P.scanout
  dirty := covered P.dirtyRects
  grab := P.grab.map fun g => (g.efb, covered g.dirtyRects)
  copy p i := P.buffer.byte (clientCell stride (p, i))

/-- The framebuffers suit one another, those that are shown and grabbed are kept, and the mirror is faithful
but for the pixels of `rest`. -/
structure Sound (stride : ℕ) (rest : Set Pixel) (P : Picture) : Prop where
  front : P.front.Suits P.front.width P.front.height stride
  old : P.old.Suits P.front.width P.front.height stride
  scanout : P.Kept P.sent P.scanout
  grab : ∀ g ∈ P.grab, P.Kept P.sent g.efb ∧ g.cmd.bufByteStride.toInt = stride
  faithful : Mirror.Faithful P.front.pixels rest (P.mirror stride)

variable {stride : ℕ} {rest : Set Pixel} {P : Picture}

/-- What is kept suits. -/
theorem Sound.suits (h : P.Sound stride rest) {fb : Framebuffer} (hfb : P.Kept P.sent fb) :
    fb.Suits P.front.width P.front.height stride := by
  rcases hfb with rfl | ⟨rfl, -⟩
  · exact h.front
  · exact h.old

theorem Sound.lock {g : Grab} (h : P.Sound stride rest) (hgrab : P.grab = none)
    (hefb : g.efb = P.scanout) (hcover : covered P.dirtyRects ⊆ covered g.dirtyRects)
    (hstride : g.cmd.bufByteStride.toInt = stride) :
    Sound stride rest { P with dirtyRects := [], held := [], grab := some g } where
  front := h.front
  old := h.old
  scanout := h.scanout
  grab := by
    rintro _ ⟨⟩
    exact ⟨hefb ▸ h.scanout, hstride⟩
  faithful := h.faithful.lock (by rw [mirror, hgrab]; rfl) hefb hcover

/-- A grab ends: its event is sent, so that what is shown has to be the last framebuffer if there is one. -/
theorem Sound.done {g : Grab} {buffer : UserRegion} (h : P.Sound stride rest) (hgrab : P.grab = some g)
    (hinside : covered g.dirtyRects ⊆ g.efb.pixels)
    (hcopy : Overwrites (clientCell stride) (fun c => P.memory g.efb.obj.id (fbCell g.efb c))
      (cells 4 (covered g.dirtyRects)) P.buffer.byte buffer.byte)
    (hkept : P.scanout = P.front ∨ g.vblanks = []) :
    Sound stride rest { P with grab := none, sent := P.sent ++ g.vblanks, buffer := buffer } where
  front := h.front
  old := h.old
  scanout := by
    rcases hkept with hfront | hnone
    · exact .inl hfront
    · show P.Kept (P.sent ++ g.vblanks) P.scanout
      rw [hnone, List.append_nil]
      exact h.scanout
  grab := by
    rintro _ ⟨⟩
  faithful := by
    have hsuits := h.suits (h.grab g hgrab).1
    refine h.faithful.done (g := (g.efb, covered g.dirtyRects)) (by rw [mirror, hgrab]; rfl)
      (fun p _ hp => ?_) fun p hp hnot => ?_
    · funext i
      exact hcopy.fresh (p, i) ⟨hp, i.isLt⟩
    · funext i
      refine hcopy.frame _ fun c hc heq => hnot ?_
      have hwidth : p.1 < g.efb.width.toNat := by
        rw [hsuits.width_eq]
        exact hp.1
      obtain rfl := cell_injOn hsuits.stride_ge (hinside hc.1).1 hwidth hc.2 i.isLt heq
      exact hc.1

theorem Sound.draw {obj : ℕ} (h : P.Sound stride rest) (memory : Memory)
    (hobj : ∀ fb, P.Kept P.sent fb → fb.obj.id ≠ obj) :
    Sound stride rest { P with toFrames := P.toFrames.draw obj memory } where
  front := h.front
  old := h.old
  scanout := h.scanout
  grab := h.grab
  faithful := by
    refine h.faithful.draw (Frames.content_draw (hobj _ h.scanout) memory) fun g hg => ?_
    obtain ⟨g', hg', rfl⟩ := Option.map_eq_some_iff.1 hg
    exact Frames.content_draw (hobj _ (h.grab g' hg').1) memory

/-! ### Before the event is handed over -/

/-- No event waits, in the painter or with a grab, and that of the commit under way was not sent. -/
structure Unset (P : Picture) : Prop where
  held : P.held = []
  grab : ∀ g ∈ P.grab, g.vblanks = []
  not_sent : ¬ P.Sent P.sent

theorem Unset.beside {P' : Picture} (h : P.Unset) (hstep : P.Beside stride P') : P'.Unset := by
  cases hstep with
  | lock hgrab hefb hcover hvblanks hstride =>
    refine ⟨rfl, ?_, h.not_sent⟩
    rintro _ ⟨⟩
    exact hvblanks.trans h.held
  | @done g buffer hgrab hinside hcopy =>
    refine ⟨h.held, ?_, ?_⟩
    · rintro _ ⟨⟩
    · show ¬ P.Sent (P.sent ++ g.vblanks)
      rw [h.grab g hgrab, List.append_nil]
      exact h.not_sent
  | draw obj memory hobj => exact ⟨h.held, h.grab, h.not_sent⟩

/-- While no event waits, what goes on beside a commit keeps the picture sound. -/
theorem Sound.beside {P' : Picture} (h : P.Sound stride rest) (hunset : P.Unset)
    (hstep : P.Beside stride P') : P'.Sound stride rest := by
  cases hstep with
  | lock hgrab hefb hcover hvblanks hstride => exact h.lock hgrab hefb hcover hstride
  | @done g buffer hgrab hinside hcopy => exact h.done hgrab hinside hcopy (.inr (hunset.grab g hgrab))
  | draw obj memory hobj => exact h.draw memory hobj

/-- Before the flip: the framebuffer of the commit before is shown, all grabs are of it, and the new one differs
from it in the damage only. -/
structure Before (stride : ℕ) (damage : Set Pixel) (P : Picture) : Prop where
  sound : P.Sound stride ∅
  unset : P.Unset
  shown : P.scanout = P.old
  grab : ∀ g ∈ P.grab, g.efb = P.scanout
  same : ∀ p ∈ P.front.pixels, p ∉ damage → P.content P.old p = P.content P.front p

/-- After the flip: the new framebuffer is shown, and `rest` is still to be marked. -/
structure During (stride : ℕ) (rest : Set Pixel) (P : Picture) : Prop where
  sound : P.Sound stride rest
  unset : P.Unset
  shown : P.scanout = P.front

/-- After the marks: there is damage, or no grab is of another framebuffer. -/
structure Marked (stride : ℕ) (P : Picture) : Prop where
  sound : P.Sound stride ∅
  unset : P.Unset
  shown : P.scanout = P.front
  stale : ∀ g ∈ P.grab, g.efb ≠ P.scanout → P.dirtyRects ≠ []

variable {damage : Set Pixel}

theorem Before.beside {P' : Picture} (h : P.Before stride damage) (hstep : P.Beside stride P') :
    P'.Before stride damage := by
  refine ⟨h.sound.beside h.unset hstep, h.unset.beside hstep, ?_, ?_, ?_⟩
  · cases hstep <;> exact h.shown
  · cases hstep with
    | lock hgrab hefb hcover hvblanks hstride =>
      rintro _ ⟨⟩
      exact hefb
    | done hgrab hinside hcopy => rintro _ ⟨⟩
    | draw obj memory hobj => exact h.grab
  · cases hstep with
    | lock hgrab hefb hcover hvblanks hstride => exact h.same
    | done hgrab hinside hcopy => exact h.same
    | draw obj memory hobj =>
      intro p hp hnot
      have hold := hobj _ (.inr ⟨rfl, h.unset.not_sent⟩)
      show (P.toFrames.draw obj memory).content P.old p = (P.toFrames.draw obj memory).content P.front p
      rw [Frames.content_draw hold, Frames.content_draw (hobj _ (.inl rfl))]
      exact h.same p hp hnot

theorem During.beside {P' : Picture} (h : P.During stride rest) (hstep : P.Beside stride P') :
    P'.During stride rest := by
  refine ⟨h.sound.beside h.unset hstep, h.unset.beside hstep, ?_⟩
  cases hstep <;> exact h.shown

theorem Marked.beside {P' : Picture} (h : P.Marked stride) (hstep : P.Beside stride P') :
    P'.Marked stride := by
  refine ⟨h.sound.beside h.unset hstep, h.unset.beside hstep, ?_, ?_⟩
  · cases hstep <;> exact h.shown
  · cases hstep with
    | lock hgrab hefb hcover hvblanks hstride =>
      rintro _ ⟨⟩ hne
      exact absurd hefb hne
    | done hgrab hinside hcopy => rintro _ ⟨⟩
    | draw obj memory hobj => exact h.stale

/-- **The flip.** -/
theorem Before.flip (h : P.Before stride damage) : During stride damage { P with scanout := P.front } where
  sound := by
    refine ⟨h.sound.front, h.sound.old, .inl rfl, h.sound.grab, ?_⟩
    have hsame : ∀ p ∈ P.front.pixels, p ∉ damage → P.content P.scanout p = P.content P.front p :=
      h.shown ▸ h.same
    have hflip := h.sound.faithful.flip (b := P.front) hsame
    rw [Set.empty_union] at hflip
    exact hflip
  unset := ⟨h.unset.held, h.unset.grab, h.unset.not_sent⟩
  shown := rfl

/-- Without a flip: the framebuffer is the one before. -/
theorem Before.still (h : P.Before stride damage) (hfront : P.front = P.old) : P.Marked stride where
  sound := h.sound
  unset := h.unset
  shown := h.shown.trans hfront.symm
  stale g hg hne := absurd (h.grab g hg) hne

/-- **A mark.** -/
theorem During.mark {rest' : Set Pixel} {rects : List ClipRect} (h : P.During stride rest)
    (hcover : covered P.dirtyRects ∪ rest ⊆ covered rects ∪ rest') :
    During stride rest' { P with dirtyRects := rects } where
  sound := ⟨h.sound.front, h.sound.old, h.sound.scanout, h.sound.grab, h.sound.faithful.mark hcover⟩
  unset := ⟨h.unset.held, h.unset.grab, h.unset.not_sent⟩
  shown := h.shown

/-- All marks were made, and there is damage. -/
theorem During.marked (h : P.During stride ∅) (hdirty : P.dirtyRects ≠ []) : P.Marked stride :=
  ⟨h.sound, h.unset, h.shown, fun _ _ _ => hdirty⟩

theorem Marked.during (h : P.Marked stride) : P.During stride ∅ := ⟨h.sound, h.unset, h.shown⟩

/-! ### After the commit -/

/-- Where the event of the last commit is: in the painter, while there is damage; with the grab of that
damage; or sent. -/
inductive Fence (P : Picture) : Prop
  | held (c : Crtc) (e : VblankEvent) (event : P.event = some e) (held : P.held = [(c, e)])
      (grab : ∀ g ∈ P.grab, g.vblanks = []) (dirty : P.dirtyRects ≠ []) (not_sent : ¬ P.Sent P.sent)
  | taken (c : Crtc) (e : VblankEvent) (event : P.event = some e) (held : P.held = []) (g : Grab)
      (grab : P.grab = some g) (vblanks : g.vblanks = [(c, e)]) (efb : g.efb = P.front)
      (not_sent : ¬ P.Sent P.sent)
  | sent (sent : P.Sent P.sent) (held : P.held = []) (vblanks : ∀ g ∈ P.grab, g.vblanks = [])
      (efb : ∀ g ∈ P.grab, g.efb = P.front)

/-- After a commit: the last framebuffer is shown, and its event will be sent. -/
structure Rested (stride : ℕ) (P : Picture) : Prop where
  sound : P.Sound stride ∅
  shown : P.scanout = P.front
  fence : P.Fence

theorem Fence.beside {P' : Picture} (h : P.Fence) (hshown : P.scanout = P.front)
    (hstep : P.Beside stride P') : P'.Fence := by
  cases hstep with
  | @lock g hgrab hefb hcover hvblanks hstride =>
    cases h with
    | held c e event held grab dirty not_sent =>
      exact .taken c e event rfl g rfl (hvblanks.trans held) (hefb.trans hshown) not_sent
    | taken c e event held g' grab vblanks efb not_sent => exact absurd (hgrab.symm.trans grab) (by simp)
    | sent sent held vblanks efb =>
      refine .sent sent rfl ?_ ?_
      · rintro _ ⟨⟩
        exact hvblanks.trans held
      · rintro _ ⟨⟩
        exact hefb.trans hshown
  | @done g buffer hgrab hinside hcopy =>
    cases h with
    | held c e event held grab dirty not_sent =>
      refine .held c e event held (by rintro _ ⟨⟩) dirty ?_
      show ¬ P.Sent (P.sent ++ g.vblanks)
      rw [grab g hgrab, List.append_nil]
      exact not_sent
    | taken c e event held g' grab vblanks efb not_sent =>
      obtain rfl : g = g' := Option.some.inj (hgrab.symm.trans grab)
      refine .sent (fun e' he' => ?_) held (by rintro _ ⟨⟩) (by rintro _ ⟨⟩)
      obtain rfl : e = e' := Option.some.inj (event.symm.trans he')
      exact ⟨c, List.mem_append_right _ (vblanks ▸ List.mem_singleton_self _)⟩
    | sent sent held vblanks efb =>
      refine .sent (fun e he => ?_) held (by rintro _ ⟨⟩) (by rintro _ ⟨⟩)
      obtain ⟨c, hc⟩ := sent e he
      exact ⟨c, List.mem_append_left _ hc⟩
  | draw obj memory hobj =>
    cases h with
    | held c e event held grab dirty not_sent => exact .held c e event held grab dirty not_sent
    | taken c e event held g grab vblanks efb not_sent =>
      exact .taken c e event held g grab vblanks efb not_sent
    | sent sent held vblanks efb => exact .sent sent held vblanks efb

theorem Rested.beside {P' : Picture} (h : P.Rested stride) (hstep : P.Beside stride P') :
    P'.Rested stride := by
  have hfence := h.fence.beside h.shown hstep
  cases hstep with
  | lock hgrab hefb hcover hvblanks hstride =>
    exact ⟨h.sound.lock hgrab hefb hcover hstride, h.shown, hfence⟩
  | done hgrab hinside hcopy =>
    exact ⟨h.sound.done hgrab hinside hcopy (.inl h.shown), h.shown, hfence⟩
  | draw obj memory hobj => exact ⟨h.sound.draw memory hobj, h.shown, hfence⟩

/-- What `evdi_painter_set_vblank` does for a connected client: the event waits if there is damage, and is sent
otherwise. -/
def setVblank (c : Crtc) (e : VblankEvent) (P : Picture) : Picture :=
  if P.dirtyRects = [] then { P with held := [], sent := P.sent ++ P.held ++ [(c, e)] }
  else { P with held := [(c, e)], sent := P.sent ++ P.held }

/-- **The event is handed over.**  It is sent at once only when no grab is of a framebuffer that the compositor
could then draw into. -/
theorem Marked.setVblank {c : Crtc} {e : VblankEvent} (h : P.Marked stride) (hevent : P.event = some e) :
    (P.setVblank c e).Rested stride := by
  by_cases hdirty : P.dirtyRects = []
  · have hgrab : ∀ g ∈ P.grab, g.efb = P.front := by
      intro g hg
      by_contra hne
      exact h.stale g hg (fun heq => hne (heq.trans h.shown)) hdirty
    have hsent : P.Sent (P.sent ++ P.held ++ [(c, e)]) := by
      intro e' he'
      obtain rfl : e = e' := Option.some.inj (hevent.symm.trans he')
      exact ⟨c, List.mem_append_right _ (List.mem_singleton_self _)⟩
    rw [Picture.setVblank, if_pos hdirty]
    refine ⟨⟨h.sound.front, h.sound.old, .inl h.shown, fun g hg => ?_, h.sound.faithful⟩, h.shown,
      .sent hsent rfl h.unset.grab hgrab⟩
    exact ⟨.inl (hgrab g hg), (h.sound.grab g hg).2⟩
  · have hsame : P.sent ++ P.held = P.sent := by rw [h.unset.held, List.append_nil]
    rw [Picture.setVblank, if_neg hdirty, hsame]
    exact ⟨⟨h.sound.front, h.sound.old, h.sound.scanout, h.sound.grab, h.sound.faithful⟩, h.shown,
      .held c e hevent rfl h.unset.grab hdirty h.unset.not_sent⟩

/-- **At rest**, with no damage and no grab under way, the client has the last framebuffer, and its event was
sent. -/
theorem Rested.copied (h : P.Rested stride) (hdirty : P.dirtyRects = []) (hgrab : P.grab = none) :
    (∀ p ∈ P.front.pixels, ∀ i : Fin 4, P.buffer.byte (clientCell stride (p, i)) =
      P.memory P.front.obj.id (fbCell P.front (p, i))) ∧ P.Sent P.sent := by
  constructor
  · intro p hp i
    have hnone : covered ([] : List ClipRect) = ∅ := cover_nil
    have hcopy := h.sound.faithful.copy_eq (by rw [mirror, hdirty]; exact hnone)
      (by rw [mirror, hgrab]; rfl) hp
    have hbyte := congrFun hcopy i
    rw [mirror, h.shown] at hbyte
    exact hbyte
  · cases h.fence with
    | held c e event held grab dirty not_sent => exact absurd hdirty dirty
    | taken c e event held g grab vblanks efb not_sent => exact absurd (hgrab.symm.trans grab) (by simp)
    | sent sent held vblanks efb => exact sent

/-- **The next commit** may start when the event was sent: what is shown and what is being grabbed is the
framebuffer it replaces. -/
theorem Rested.next {fb : Framebuffer} {e : VblankEvent} (h : P.Rested stride) (hsent : P.Sent P.sent)
    (hnew : ∀ c, (c, e) ∉ P.sent) (hfb : fb.Suits P.front.width P.front.height stride)
    (hsame : ∀ p ∈ P.front.pixels, p ∉ damage → P.content P.front p = P.content fb p) :
    Before stride damage { P with front := fb, old := P.front, event := some e } := by
  have hpixels : fb.pixels = P.front.pixels := hfb.pixels_eq h.sound.front
  have hnot : ¬ ∀ e' ∈ some e, ∃ c, (c, e') ∈ P.sent := by
    intro hall
    obtain ⟨c, hc⟩ := hall e rfl
    exact hnew c hc
  cases h.fence with
  | held c e' event held grab dirty not_sent => exact absurd hsent not_sent
  | taken c e' event held g grab vblanks efb not_sent => exact absurd hsent not_sent
  | sent sent held vblanks efb =>
    refine ⟨⟨?_, ?_, .inr ⟨h.shown, hnot⟩, fun g hg => ?_, ?_⟩, ⟨held, vblanks, hnot⟩, h.shown,
      fun g hg => (efb g hg).trans h.shown.symm, ?_⟩
    · show fb.Suits fb.width fb.height stride
      rw [hfb.width_eq, hfb.height_eq]
      exact hfb
    · show P.front.Suits fb.width fb.height stride
      rw [hfb.width_eq, hfb.height_eq]
      exact h.sound.front
    · exact ⟨.inr ⟨efb g hg, hnot⟩, (h.sound.grab g hg).2⟩
    · show Mirror.Faithful fb.pixels ∅ (P.mirror stride)
      rw [hpixels]
      exact h.sound.faithful
    · show ∀ p ∈ fb.pixels, p ∉ damage → P.content P.front p = P.content fb p
      rw [hpixels]
      exact hsame

end Picture

end Evdi
