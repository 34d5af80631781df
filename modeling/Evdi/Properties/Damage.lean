import Evdi.Model.Client
import Evdi.Model.Modeset

/-!
# Damage is not lost

Which pixels stay covered by the pending rectangles when a `GRABPIX` call fails, and which pixels of a
commit's damage are covered by them after `evdi_plane_atomic_update`.

Both functions lose damage in some states; the results say in which ones exactly.
-/

namespace Evdi

open Atomic Bytes Absorption

/-! ### Failed grabs -/

/-- What a call leaves pending: all of it when it was refused before the lock, the merged rectangles
when there was no scanout buffer, and otherwise nothing, whatever its result. -/
theorem painterGrabpixIoctl_dirtyRects (env : GrabEnv) (cmd : GrabpixCmd) (d : Device) :
    (painterGrabpixIoctl env cmd d).1.dirtyRects =
      if cmd.mode ≠ grabpixModeDirty ∨ cmd.numRects < 1 then d.dirtyRects
      else if (d.painter.bind (·.scanoutFb)).isSome then []
      else shrinkDirtyRects cmd.numRects d.dirtyRects := by
  unfold painterGrabpixIoctl
  rcases painterGrabpixLocked_cases cmd d with ⟨err, h, -, hrefused⟩ | ⟨p, hp, hfb, h⟩ |
    ⟨p, efb, cmd', hp, hfb, -, h⟩
  · rw [h]
    split_ifs with hcmd hscan
    · rfl
    · -- without a painter there is no scanout buffer either
      have hnone := hrefused.resolve_left fun hm => hcmd (.inl hm)
      simp [hnone.resolve_left fun hn => hcmd (.inr hn)] at hscan
    · have hnone := hrefused.resolve_left fun hm => hcmd (.inl hm)
      have hrects : d.dirtyRects = [] := by
        rw [Device.dirtyRects, hnone.resolve_left fun hn => hcmd (.inr hn)]
      show d.dirtyRects = _
      rw [hrects, shrinkDirtyRects_eq_nil.2 rfl]
  · rw [h]
    have hcmd : ¬ (cmd.mode ≠ grabpixModeDirty ∨ cmd.numRects < 1) := by
      rintro (hm | hn)
      · simp [painterGrabpixLocked, hm, EINVAL, EAGAIN] at h
      · by_cases hm : cmd.mode = grabpixModeDirty
        · simp [painterGrabpixLocked, hm, hn, EINVAL, EAGAIN] at h
        · simp [painterGrabpixLocked, hm, EINVAL, EAGAIN] at h
    simp [if_neg hcmd, hp, hfb, Device.dirtyRects]
  · rw [h]
    have hcmd : ¬ (cmd.mode ≠ grabpixModeDirty ∨ cmd.numRects < 1) := by
      rintro (hm | hn)
      · simp [painterGrabpixLocked, hm] at h
      · by_cases hm : cmd.mode = grabpixModeDirty
        · simp [painterGrabpixLocked, hm, hn] at h
        · simp [painterGrabpixLocked, hm] at h
    simp [if_neg hcmd, hp, hfb, Device.dirtyRects, painterGrabpixFinish, sendVblank_eq,
      drmFramebufferRef]

/-- A grab of the pending rectangles that succeeds: the client takes them. -/
def Device.GrabSucceeds (env : GrabEnv) (cmd : GrabpixCmd) (d : Device) : Prop :=
  ∃ efb, d.painter.bind (·.scanoutFb) = some efb ∧
    Grabbable env cmd efb (shrinkDirtyRects cmd.numRects d.dirtyRects)

/-- **A grab that fails loses no damage** exactly when it is refused before the lock, there is no
scanout buffer, or nothing is pending; or when it does not fail. -/
theorem failed_grab_keeps_damage_iff (env : GrabEnv) (cmd : GrabpixCmd) (d : Device) :
    ((painterGrabpixIoctl env cmd d).2.2.1 ≠ 0 →
      covered d.dirtyRects ⊆ covered (painterGrabpixIoctl env cmd d).1.dirtyRects) ↔
      cmd.mode ≠ grabpixModeDirty ∨ cmd.numRects < 1 ∨ d.painter.bind (·.scanoutFb) = none ∨
        covered d.dirtyRects = ∅ ∨ d.GrabSucceeds env cmd := by
  rw [painterGrabpixIoctl_dirtyRects]
  split_ifs with hcmd hscan
  · simp only [subset_refl, implies_true, true_iff]
    tauto
  · obtain ⟨efb, hbind⟩ := Option.isSome_iff_exists.1 hscan
    obtain ⟨p, hp, hfb⟩ := Option.bind_eq_some_iff.1 hbind
    have hmode : cmd.mode = grabpixModeDirty := by tauto
    have hnum : ¬ cmd.numRects < 1 := by tauto
    have hret : (painterGrabpixIoctl env cmd d).2.2.1 = 0 ↔ d.GrabSucceeds env cmd := by
      rw [painterGrabpixIoctl_ret_eq_zero hmode hnum hp hfb]
      simp [Device.GrabSucceeds, hbind, Device.dirtyRects_some hp]
    have hsome : d.painter.bind (·.scanoutFb) ≠ none := by simp [hbind]
    simp only [ne_eq, hret, cover_nil, Set.subset_empty_iff]
    tauto
  · have hnone : d.painter.bind (·.scanoutFb) = none := by simpa using hscan
    simp only [covered_shrinkDirtyRects, implies_true, true_iff]
    exact .inr (.inr (.inl hnone))

/-- A first full frame of 1280 by 720 is pending; a client that still has its buffer of 1920 by 1080
fails to grab it, and the frame is lost. -/
theorem mode_change_grab_loses_damage :
    let d := painterMarkDirty ⟨0, 0, 1280, 720⟩ (Device.sample (.sample 1 1280 720 5120))
    let call := painterGrabpixIoctl (.sample 0) (.sample 1920 1080 7680 16) d
    call.2.2.1 = -EINVAL ∧ (0, 0) ∈ covered d.dirtyRects ∧ (0, 0) ∉ covered call.1.dirtyRects := by
  refine ⟨rfl, ⟨⟨0, 0, 1280, 720⟩, by decide, by decide⟩, ?_⟩
  rw [painterGrabpixIoctl_dirtyRects, if_neg (by decide), if_pos (by decide)]
  simp

/-! ### Commits -/

/-- The pixels of a rectangle of the DRM core. -/
def DrmRect.pixels (r : DrmRect) : Set Pixel :=
  {p | (r.x1.toInt ≤ p.1 ∧ (p.1 : ℤ) < r.x2.toInt) ∧ r.y1.toInt ≤ p.2 ∧ (p.2 : ℤ) < r.y2.toInt}

instance (r : DrmRect) (p : Pixel) : Decidable (p ∈ r.pixels) :=
  inferInstanceAs (Decidable (_ ∧ _))

/-- The rectangle lies in the framebuffer, as those of the damage iterator do: it clips them to the
plane's source, which the update has set to the whole framebuffer. -/
structure DrmRect.Inside (r : DrmRect) (fb : Framebuffer) : Prop where
  x1_nonneg : 0 ≤ r.x1.toInt
  y1_nonneg : 0 ≤ r.y1.toInt
  x_le : r.x1.toInt ≤ r.x2.toInt
  y_le : r.y1.toInt ≤ r.y2.toInt
  x2_le : r.x2.toInt ≤ fb.width.toNat
  y2_le : r.y2.toInt ≤ fb.height.toNat

/-- The pixels of a commit's damage. -/
def damagePixels (damage : List DrmRect) : Set Pixel := cover DrmRect.pixels damage

theorem toNat_toUInt16 {x : Int32} (hl : 0 ≤ x.toInt) (hu : x.toInt < 2 ^ 16) :
    (x.toUInt32.toUInt16.toNat : ℤ) = x.toInt := by
  have hx : x.toUInt32.toNat = x.toInt.toNat :=
    Int32.toNat_toUInt32_of_le (by rw [Int32.le_iff_toInt_le]; simpa using hl)
  rw [UInt32.toNat_toUInt16, hx]
  omega

/-- Marking a damage rectangle marks its pixels. -/
theorem pixels_sanitize_toClip {r : DrmRect} {fb : Framebuffer} (h : r.Inside fb)
    (hfb : fb.Admitted) :
    (framebufferSanitizeRect fb.width fb.height r.toClip).pixels = r.pixels := by
  obtain ⟨hx1, hy1, hx, hy, hx2, hy2⟩ := h
  have hw := hfb.width_le
  have hh := hfb.height_le
  have ex1 := toNat_toUInt16 hx1 (by omega)
  have ey1 := toNat_toUInt16 hy1 (by omega)
  have ex2 := toNat_toUInt16 (hx1.trans hx) (by omega)
  have ey2 := toNat_toUInt16 (hy1.trans hy) (by omega)
  have hordered : r.toClip.ordered = r.toClip :=
    ClipRect.ordered_of_le (UInt16.le_iff_toNat_le.2 (by simp only [DrmRect.toClip]; omega))
      (UInt16.le_iff_toNat_le.2 (by simp only [DrmRect.toClip]; omega))
  rw [pixels_sanitize, hordered]
  ext ⟨x, y⟩
  simp only [DrmRect.toClip, ClipRect.mem_pixels, DrmRect.pixels, Set.mem_inter_iff,
    Set.mem_ofPred_eq]
  omega

theorem damagePixels_subset {fb : Framebuffer} {damage : List DrmRect}
    (h : ∀ r ∈ damage, r.Inside fb) : damagePixels damage ⊆ fb.pixels := by
  rintro ⟨x, y⟩ ⟨r, hr, hp⟩
  obtain ⟨hx1, hy1, hx, hy, hx2, hy2⟩ := h r hr
  simp only [DrmRect.pixels, Set.mem_ofPred_eq] at hp
  simp only [Framebuffer.pixels, Set.mem_ofPred_eq]
  omega

theorem pixels_sanitize_fullscreen {fb : Framebuffer} (hfb : fb.Admitted) :
    (framebufferSanitizeRect fb.width fb.height fb.fullscreenRect).pixels = fb.pixels := by
  have hw := hfb.width_le
  have hh := hfb.height_le
  have hordered : fb.fullscreenRect.ordered = fb.fullscreenRect :=
    ClipRect.ordered_of_le (UInt16.le_iff_toNat_le.2 (by simp [Framebuffer.fullscreenRect]))
      (UInt16.le_iff_toNat_le.2 (by simp [Framebuffer.fullscreenRect]))
  rw [pixels_sanitize, hordered]
  ext ⟨x, y⟩
  simp only [Framebuffer.fullscreenRect, ClipRect.mem_pixels, Framebuffer.pixels,
    Set.mem_inter_iff, Set.mem_ofPred_eq, UInt32.toNat_toUInt16, UInt16.toNat_zero]
  omega

/-- Marking a list of damage rectangles covers them all. -/
theorem Painter.covered_foldl_markDirty {fb : Framebuffer} (hfb : fb.Admitted)
    (damage : List DrmRect) (hdamage : ∀ r ∈ damage, r.Inside fb) (p : Painter)
    (h : p.scanoutFb = some fb) :
    covered p.dirtyRects ∪ damagePixels damage ⊆
      covered (damage.foldl (fun p r => p.markDirty r.toClip) p).dirtyRects := by
  induction damage generalizing p with
  | nil => simp [damagePixels]
  | cons r damage ih =>
    have hmark := covered_markDirty h r.toClip
    rw [pixels_sanitize_toClip (hdamage r (by simp)) hfb] at hmark
    have hrest := ih (fun r hr => hdamage r (by simp [hr])) (p.markDirty r.toClip)
      ((p.markDirty_scanoutFb _).trans h)
    rw [damagePixels, cover_cons, ← Set.union_assoc]
    exact (Set.union_subset_union_left _ hmark).trans hrest

/-! ### The primary update -/

/-- The painter after the update, from the painter `p` after the power notification: a full modeset
may be forced; the framebuffer is set and the damage is marked when the framebuffer is another or a
modeset is due; and the whole framebuffer is marked when nothing is pending then. -/
def updatedPainter (old new : PlaneState) (fb : Framebuffer) (damage : List DrmRect)
    (p : Painter) : Painter :=
  let p := if forcesModeset old new fb then { p with needsFullModeset := true } else p
  let p := if old.fb != some fb || p.needsFullModeset then
      damage.foldl (fun p r => p.markDirty r.toClip) { p with scanoutFb := some fb }
    else p
  if p.numDirts == 0 then p.markDirty fb.fullscreenRect else p

/-- Without interference, the program takes the painter `p` to `p'`. -/
def Takes (prog : Prog Device Unit) (p p' : Painter) : Prop :=
  ∀ d : Device, d.painter = some p → (prog.exec d).1.painter = some p'

theorem takes_onPainter (f : Painter → Painter) (p : Painter) :
    Takes (.modify fun d => d.onPainter f) p (f p) := by
  intro d hd
  simp [hd]

theorem Takes.bind {prog : Prog Device Unit} {k : Unit → Prog Device Unit} {p p' p'' : Painter}
    (h : Takes prog p p') (hk : Takes (k ()) p' p'') : Takes (prog >>= k) p p'' := by
  intro d hd
  rw [Prog.exec_bind]
  exact hk _ (h d hd)

/-- What is read is determined by the painter. -/
theorem takes_read {α : Type} {f : Device → α} {k : α → Prog Device Unit} {p p' : Painter} {v : α}
    (hf : ∀ d : Device, d.painter = some p → f d = v) (hk : Takes (k v) p p') :
    Takes (Prog.read f >>= k) p p' := by
  intro d hd
  rw [Prog.exec_bind, Prog.exec_read, hf d hd]
  exact hk d hd

theorem takes_when {c : Bool} {prog : Prog Device Unit} {p p' : Painter} (h : Takes prog p p') :
    Takes (.when c prog) p (if c then p' else p) := by
  intro d hd
  cases c
  · simpa using hd
  · simpa using h d hd

theorem takes_each {β : Type} {prog : β → Prog Device Unit} {f : Painter → β → Painter}
    (h : ∀ b p, Takes (prog b) p (f p b)) (bs : List β) (p : Painter) :
    Takes (.each prog bs) p (bs.foldl f p) := by
  induction bs generalizing p with
  | nil => exact fun d hd => hd
  | cons b bs ih => exact (h b p).bind (ih (f p b))

/-- The update is the power notification, then a function on the painter. -/
theorem planeAtomicUpdate_painter {old new : PlaneState} {fb : Framebuffer}
    (hnew : new.fb = some fb) (damage : List DrmRect) {d : Device} {q : Painter}
    (hq : ((notifyCrtcChange old new).exec d).1.painter = some q) :
    ((planeAtomicUpdate old new damage).exec d).1.painter =
      some (updatedPainter old new fb damage q) := by
  have hshow : ∀ p, Takes (painterSetScanoutBuffer (some fb)) p { p with scanoutFb := some fb } := by
    intro p d hd
    rw [painterSetScanoutBuffer_exec]
    simp [hd]
  have hmark : ∀ p, Takes (painterSetScanoutBuffer (some fb) >>= fun _ =>
      Prog.each (fun rect => Prog.modify (painterMarkDirty rect.toClip)) damage) p
      (damage.foldl (fun p r => p.markDirty r.toClip) { p with scanoutFb := some fb }) :=
    fun p => (hshow p).bind (takes_each (fun rect p => takes_onPainter _ p) damage _)
  rw [planeAtomicUpdate, Prog.exec_bind, hnew]
  refine Takes.bind (takes_when (takes_onPainter _ q)) ?_ _ hq
  refine takes_read (v := Painter.needsFullModeset _)
    (fun d hd => by rw [painterNeedsFullModeset, hd, Option.any_some]) ?_
  refine Takes.bind (takes_when (hmark _)) ?_
  refine takes_read (v := Painter.numDirts _) (fun d hd => by rw [painterGetNumDirts, hd]) ?_
  exact takes_when (takes_onPainter _ _)

/-! ### Which damage is pending after the update -/

/-- A framebuffer of another format is another framebuffer, and so is a first one. -/
theorem ne_of_forcesModeset {old new : PlaneState} {fb : Framebuffer}
    (h : forcesModeset old new fb = true) : old.fb ≠ some fb := by
  intro hsame
  simp [forcesModeset, hsame] at h

section

variable {old new : PlaneState} {fb : Framebuffer} {damage : List DrmRect} {p : Painter}

/-- When the framebuffer is another or a modeset is due, all damage is pending. -/
theorem updatedPainter_shows (hfb : fb.Admitted) (hdamage : ∀ r ∈ damage, r.Inside fb)
    (h : old.fb ≠ some fb ∨ p.needsFullModeset = true) :
    damagePixels damage ⊆ covered (updatedPainter old new fb damage p).dirtyRects := by
  have hcond : (old.fb != some fb || (if forcesModeset old new fb then
      { p with needsFullModeset := true } else p).needsFullModeset) = true := by
    rcases h with h | h
    · simp [h]
    · split_ifs <;> simp [h]
  simp only [updatedPainter, hcond, if_true]
  have hmarked := Painter.covered_foldl_markDirty hfb damage hdamage
    { (if forcesModeset old new fb then { p with needsFullModeset := true } else p) with
      scanoutFb := some fb } rfl
  generalize List.foldl _ _ damage = q at hmarked ⊢
  refine (Set.subset_union_right.trans hmarked).trans ?_
  split_ifs with hzero
  · have hnil : q.dirtyRects = [] := by simpa [Painter.numDirts] using hzero
    simp [hnil]
  · exact subset_rfl

/-- Otherwise the pending rectangles stay as they are when there are any, and the whole framebuffer is
marked when there are none. -/
theorem updatedPainter_same (hsame : old.fb = some fb) (hmodeset : p.needsFullModeset = false) :
    updatedPainter old new fb damage p =
      if p.dirtyRects = [] then p.markDirty fb.fullscreenRect else p := by
  have hforce : ¬ forcesModeset old new fb = true := fun h => ne_of_forcesModeset h hsame
  simp [updatedPainter, hforce, hsame, hmodeset, Painter.numDirts]

end

/-- **Damage of a commit is dropped** exactly when the framebuffer is the one shown already, no full
modeset is due, other rectangles are pending, and they do not cover it. -/
theorem commit_damage_pending_iff {old new : PlaneState} {fb : Framebuffer}
    {damage : List DrmRect} {d : Device} {p : Painter} (hp : d.painter = some p)
    (hnew : new.fb = some fb) (hfb : fb.Admitted) (hdamage : ∀ r ∈ damage, r.Inside fb)
    (hscanout : (old.fb ≠ some fb ∨ p.needsFullModeset = true) ∨ p.scanoutFb = some fb) :
    damagePixels damage ⊆ covered ((planeAtomicUpdate old new damage).exec d).1.dirtyRects ↔
      old.fb ≠ some fb ∨ p.needsFullModeset = true ∨ p.dirtyRects = [] ∨
        damagePixels damage ⊆ covered p.dirtyRects := by
  -- the power notification changes nothing the damage is about
  obtain ⟨q, hq, hrects, hfbq, hmodeset⟩ : ∃ q,
      ((notifyCrtcChange old new).exec d).1.painter = some q ∧ q.dirtyRects = p.dirtyRects ∧
      q.scanoutFb = p.scanoutFb ∧ q.needsFullModeset = p.needsFullModeset := by
    have hview := damageView_exec (notifyCrtcChange_uses old new) d
    rw [damageView, damageView, hp] at hview
    obtain ⟨q, hq, hqp⟩ := Option.map_eq_some_iff.1 hview
    simp only [Prod.mk.injEq] at hqp
    exact ⟨q, hq, hqp⟩
  rw [Device.dirtyRects_some (planeAtomicUpdate_painter hnew damage hq)]
  by_cases hshows : old.fb ≠ some fb ∨ p.needsFullModeset = true
  · have hall : damagePixels damage ⊆
        covered (updatedPainter old new fb damage q).dirtyRects :=
      updatedPainter_shows hfb hdamage (hmodeset ▸ hshows)
    simp only [hall, true_iff]
    tauto
  · obtain ⟨hsame, hnone⟩ : old.fb = some fb ∧ p.needsFullModeset = false := by
      simpa [not_or] using hshows
    rw [updatedPainter_same hsame (hmodeset.trans hnone), hrects]
    by_cases hempty : p.dirtyRects = []
    · have hfull := Painter.covered_markDirty (hfbq.trans (hscanout.resolve_left hshows))
        fb.fullscreenRect
      rw [pixels_sanitize_fullscreen hfb] at hfull
      have hall := (damagePixels_subset hdamage).trans (Set.subset_union_right.trans hfull)
      simp [hempty, hall]
    · simp [hempty, hsame, hnone, hrects]

theorem Framebuffer.admitted_sample : (Framebuffer.sample 2 64 64 256).Admitted :=
  ⟨by decide, by decide, by decide⟩

/-- A flip to another framebuffer with one damage rectangle: it is pending after the update. -/
theorem flip_damage_pending :
    damagePixels [⟨0, 0, 8, 8⟩] ⊆ covered
      ((planeAtomicUpdate (.sample (some (.sample 1 64 64 256)))
        (.sample (some (.sample 2 64 64 256))) [⟨0, 0, 8, 8⟩]).exec
        (Device.sample (.sample 1 64 64 256))).1.dirtyRects := by
  refine (commit_damage_pending_iff (p := ((Device.sample (.sample 1 64 64 256)).painter.get rfl))
    rfl rfl Framebuffer.admitted_sample ?_ (.inl (.inl (by decide)))).2 (.inl (by decide))
  intro r hr
  obtain rfl := List.mem_singleton.1 hr
  exact ⟨by decide, by decide, by decide, by decide, by decide, by decide⟩

/-- After that flip, a commit that draws into the framebuffer shown, elsewhere, is not seen: its damage
is covered by no pending rectangle. -/
theorem draw_after_flip_loses_damage :
    let fb := Framebuffer.sample 2 64 64 256
    let d := ((Commit.sample [.primary (.sample (some (.sample 1 64 64 256)))
      (.sample (some fb)) [⟨0, 0, 8, 8⟩]]).run.exec (Device.sample (.sample 1 64 64 256))).1
    let draw := planeAtomicUpdate (.sample (some fb)) (.sample (some fb)) [⟨16, 16, 24, 24⟩]
    d.painter.bind (·.scanoutFb) = some fb ∧ (16, 16) ∈ damagePixels [⟨16, 16, 24, 24⟩] ∧
      (16, 16) ∉ covered (draw.exec d).1.dirtyRects := by
  intro fb d draw
  have hrects : (draw.exec d).1.dirtyRects = [⟨0, 0, 8, 8⟩] := by decide +kernel
  refine ⟨by decide +kernel, ⟨_, List.mem_singleton_self _, by decide⟩, ?_⟩
  rw [hrects]
  rintro ⟨r, hr, hp⟩
  obtain rfl := List.mem_singleton.1 hr
  exact absurd hp (by decide)

end Evdi
