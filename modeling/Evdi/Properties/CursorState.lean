import Evdi.Model.Client
import Evdi.Model.CursorState

/-!
# The state of the cursor

An update of the cursor plane hands its image to `evdi_cursor_set`, which takes the image off when it
cannot be mapped, and then calls `evdi_cursor_enable`, which enables the cursor all the same.

* `CursorLife.Held`: a cursor that is not enabled has no object, and the cursor holds one reference, to
  its object;
* `CursorLife.Shown`: an enabled cursor has an object, which is mapped;
* `CursorLife.cursor_state_sound`: the first holds in every run, the second as long as the images that
  are to be shown can be mapped.
-/

namespace Evdi

open Atomic Transition

/-! ### What leaves the cursor alone -/

/-- The cursor, and the references to GEM objects. -/
def cursorAndRefs (d : Device) : Cursor × (ℕ → ℤ) := (d.cursor, d.drm.gemRefs)

theorem cursorView_of_cursorAndRefs {d d' : Device} (h : cursorAndRefs d' = cursorAndRefs d) :
    cursorView d' = cursorView d := by
  have hcursor : d'.cursor = d.cursor := congrArg (·.1) h
  have hrefs : d'.drm.gemRefs = d.drm.gemRefs := congrArg (·.2) h
  rw [cursorView, cursorView, hcursor, hrefs]

/-- Sending an event does not touch the cursor. -/
theorem SendSection.cursorAndRefs_eq {f : Device → Device} (h : SendSection f) (d : Device) :
    cursorAndRefs (f d) = cursorAndRefs d := by
  have heffect := h.effect d
  obtain ⟨used, space, serial, submitted, delivered, freed, -, -, hdrm⟩ := heffect.drm
  have hcursor : (f d).cursor = d.cursor := by rw [heffect.rest]
  have hrefs : (f d).drm.gemRefs = d.drm.gemRefs := by rw [hdrm]
  exact Prod.ext hcursor hrefs

theorem cursorAndRefs_send {α : Type} {p : Prog Device α} (h : p.Uses SendSection) (d : Device) :
    cursorAndRefs (p.exec d).1 = cursorAndRefs d :=
  h.exec_eq (fun _ hf => hf.cursorAndRefs_eq) d

theorem cursorAndRefs_painterSendCursorSet (gemHandle : UInt32) (d : Device) :
    cursorAndRefs ((painterSendCursorSet gemHandle).exec d).1 = cursorAndRefs d :=
  cursorAndRefs_send (createAndSend_kinds _) d

theorem cursorAndRefs_painterSendCursorMove (d : Device) :
    cursorAndRefs (painterSendCursorMove.exec d).1 = cursorAndRefs d :=
  cursorAndRefs_send (createAndSend_kinds _) d

/-- The update-ready event leaves the cursor alone. -/
theorem cursorAndRefs_updateReady (d : Device) :
    cursorAndRefs (painterSendUpdateReadyIfNeeded.exec d).1 = cursorAndRefs d := by
  rw [painterSendUpdateReadyIfNeeded, Prog.exec_atomically, updateReadyIfNeeded_exec]
  split_ifs
  · exact cursorAndRefs_send (createAndSend_uses .updateReady) d
  · rfl

theorem cursorAndRefs_markFullScreenDirty (d : Device) :
    cursorAndRefs (markFullScreenDirty.exec d).1 = cursorAndRefs d := by
  rw [markFullScreenDirty, Prog.exec_bind, Prog.exec_read, Prog.exec_bind, Prog.exec_modify,
    cursorAndRefs_updateReady]
  rfl

theorem cursorAndRefs_cursorMarkDirty (old new : PlaneState) (fb : Framebuffer) (d : Device) :
    cursorAndRefs ((cursorMarkDirty old new fb).exec d).1 = cursorAndRefs d := by
  unfold cursorMarkDirty
  split_ifs
  · rfl
  · rfl

/-- **An update** moves the cursor and changes its image; what follows leaves it alone. -/
theorem cursorAndRefs_cursorAtomicUpdate (old new : PlaneState) (env : CursorEnv) (d : Device) :
    cursorAndRefs ((cursorAtomicUpdate old new env).exec d).1 =
      cursorAndRefs ((Prog.when (new.fb != old.fb) (cursorShow new.fb env)).exec
        (cursorMove new.crtcX new.crtcY d)).1 := by
  rw [cursorAtomicUpdate, Prog.exec_bind, Prog.exec_read, Prog.exec_bind, Prog.exec_modify,
    Prog.exec_bind, Prog.exec_read_ite]
  split_ifs
  · rw [Prog.exec_bind, Prog.exec_when, Prog.exec_when]
    split_ifs
    · rw [cursorAndRefs_painterSendCursorMove, cursorAndRefs_painterSendCursorSet]
    · exact cursorAndRefs_painterSendCursorMove _
    · exact cursorAndRefs_painterSendCursorSet _ _
    · rfl
  · cases new.fb with
    | none => rfl
    | some fb => exact cursorAndRefs_cursorMarkDirty old new fb _

/-! ### What sets the cursor -/

theorem drmGemObjectRef_cursor (obj : Option GemRef) (n : ℤ) (d : Device) :
    (drmGemObjectRef obj n d).cursor = d.cursor := by
  cases obj <;> rfl

/-- References to `obj` are taken or put back. -/
theorem drmGemObjectRef_gemRefs (obj : Option GemRef) (n : ℤ) (d : Device) (id : ℕ) :
    (drmGemObjectRef obj n d).drm.gemRefs id = d.drm.gemRefs id + n * heldRefs obj id := by
  cases obj with
  | none => simp [drmGemObjectRef, heldRefs]
  | some o =>
    by_cases hid : o.id = id
    · subst hid
      simp [drmGemObjectRef, heldRefs]
    · have hne : id ≠ o.id := fun h => hid h.symm
      simp [drmGemObjectRef, heldRefs, hid, hne]

/-- A reference that is taken before and put back afterwards. -/
theorem cursorView_drmGemObjectRef (obj : Option GemRef) (n : ℤ) (d : Device) :
    cursorView (drmGemObjectRef obj n d) =
      (d.cursor.enabled, d.cursor.obj, fun id => (cursorView d).2.2 id + n * heldRefs obj id) := by
  refine Prod.ext ?_ (Prod.ext ?_ (funext fun id => ?_))
  · exact congrArg Cursor.enabled (drmGemObjectRef_cursor obj n d)
  · exact congrArg Cursor.obj (drmGemObjectRef_cursor obj n d)
  · show (drmGemObjectRef obj n d).drm.gemRefs id - heldRefs (drmGemObjectRef obj n d).cursor.obj id =
      d.drm.gemRefs id - heldRefs d.cursor.obj id + n * heldRefs obj id
    rw [drmGemObjectRef_gemRefs, drmGemObjectRef_cursor]
    ring

theorem cursorSetGem_cursor_eq (obj : Option GemRef) (d : Device) :
    (cursorSetGem obj d).cursor = { d.cursor with obj := obj } := by
  unfold cursorSetGem
  dsimp only
  rw [drmGemObjectRef_cursor, drmGemObjectRef_cursor]

/-- **A change of the object** moves the cursor's reference with it. -/
theorem cursorView_cursorSetGem (obj : Option GemRef) (d : Device) :
    cursorView (cursorSetGem obj d) = (d.cursor.enabled, obj, (cursorView d).2.2) := by
  have hcursor := cursorSetGem_cursor_eq obj d
  refine Prod.ext ?_ (Prod.ext ?_ (funext fun id => ?_))
  · show (cursorSetGem obj d).cursor.enabled = d.cursor.enabled
    rw [hcursor]
  · show (cursorSetGem obj d).cursor.obj = obj
    rw [hcursor]
  · show (cursorSetGem obj d).drm.gemRefs id - heldRefs (cursorSetGem obj d).cursor.obj id =
      d.drm.gemRefs id - heldRefs d.cursor.obj id
    rw [hcursor]
    unfold cursorSetGem
    dsimp only
    rw [drmGemObjectRef_gemRefs, drmGemObjectRef_gemRefs, drmGemObjectRef_cursor]
    ring

theorem cursorView_cursorEnable (enable : Bool) (d : Device) :
    cursorView (cursorEnable enable d) =
      (enable, if enable then d.cursor.obj else none, (cursorView d).2.2) := by
  cases enable with
  | true => rfl
  | false => exact cursorView_cursorSetGem none _

theorem cursorView_cursorSet (obj : Option GemObject) (ans : VmapAnswers) (image : CursorImage)
    (d : Device) : cursorView (cursorSet obj ans image d) =
      ((cursorMapObject obj ans).isSome, cursorMapObject obj ans, (cursorView d).2.2) := by
  unfold cursorSet
  dsimp only
  rw [cursorView_cursorSetGem]
  rfl

/-- The image change of an update. -/
theorem cursorView_cursorShow (fb : Option Framebuffer) (env : CursorEnv) (d : Device) :
    cursorView ((cursorShow fb env).exec d).1 =
      (fb.isSome, fb.bind fun fb => cursorMapObject (some (env.objects fb.obj)) env.vmap,
        (cursorView d).2.2) := by
  cases fb with
  | none => exact cursorView_cursorEnable false d
  | some fb =>
    rw [cursorShow, Prog.exec_bind, Prog.exec_modify, Prog.exec_modify, cursorView_cursorEnable,
      cursorView_cursorSet]
    refine Prod.ext rfl (Prod.ext ?_ rfl)
    exact congrArg (·.2.1) (cursorView_cursorSet _ _ _ d)

/-- **An update** changes the image, if the plane shows another framebuffer. -/
theorem cursorView_cursorAtomicUpdate (old new : PlaneState) (env : CursorEnv) (d : Device) :
    cursorView ((cursorAtomicUpdate old new env).exec d).1 =
      if new.fb != old.fb then (new.fb.isSome,
        new.fb.bind fun fb => cursorMapObject (some (env.objects fb.obj)) env.vmap,
        (cursorView d).2.2)
      else cursorView d := by
  rw [cursorView_of_cursorAndRefs (cursorAndRefs_cursorAtomicUpdate old new env d), Prog.exec_when]
  split_ifs
  · exact cursorView_cursorShow new.fb env _
  · rfl

/-- **`evdi_crtc_cursor_set`** shows the object it finds, if it can be mapped. -/
theorem cursorView_crtcCursorSet (gemObjectLookup : UInt32 → Option GemRef) (env : CursorEnv)
    (handle width height : UInt32) (hotX hotY : Int32) (d : Device) :
    cursorView ((crtcCursorSet gemObjectLookup env handle width height hotX hotY).exec d).1 =
      let found := (if handle ≠ 0 then gemObjectLookup handle else none).map env.objects
      ((cursorMapObject found env.vmap).isSome, cursorMapObject found env.vmap, (cursorView d).2.2) := by
  unfold crtcCursorSet
  generalize (if handle ≠ 0 then gemObjectLookup handle else none) = obj
  -- the reference the lookup takes is put back
  have hset (image : CursorImage) : cursorView (drmGemObjectRef obj (-1)
      (cursorSet (obj.map env.objects) env.vmap image (drmGemObjectRef obj 1 d))) =
      ((cursorMapObject (obj.map env.objects) env.vmap).isSome,
        cursorMapObject (obj.map env.objects) env.vmap, (cursorView d).2.2) := by
    have hview := cursorView_cursorSet (obj.map env.objects) env.vmap image (drmGemObjectRef obj 1 d)
    rw [cursorView_drmGemObjectRef, hview, cursorView_drmGemObjectRef]
    refine Prod.ext (congrArg (·.1) hview) (Prod.ext (congrArg (·.2.1) hview) (funext fun id => ?_))
    show (cursorView d).2.2 id + 1 * heldRefs obj id + -1 * heldRefs obj id = (cursorView d).2.2 id
    ring
  dsimp only
  rw [← hset ⟨width, height, hotX, hotY, drmFormatArgb8888, 4 * width⟩, Prog.exec_bind,
    Prog.exec_modify, Prog.exec_bind, Prog.exec_modify, Prog.exec_bind, Prog.exec_modify,
    Prog.exec_read_ite]
  split_ifs
  · exact cursorView_of_cursorAndRefs (cursorAndRefs_painterSendCursorSet _ _)
  · exact cursorView_of_cursorAndRefs (cursorAndRefs_markFullScreenDirty _)

/-- **A disconnect** takes the image off, if it is the owner's. -/
theorem cursorView_painterDisconnect (file : DrmFile) (d : Device) :
    cursorView (painterDisconnect file d).1 = cursorView d ∨
      cursorView (painterDisconnect file d).1 = (false, none, (cursorView d).2.2) := by
  rcases painterDisconnect_cases file d with heq | ⟨p, hp, hfile⟩
  · rw [heq]
    exact .inl rfl
  · rw [painterDisconnect_owner hp hfile]
    exact .inr (Prod.ext rfl (Prod.ext rfl (congrArg (·.2.2) (cursorView_cursorSetGem none d))))

/-! ### Runs -/

/-- What `evdi_cursor_set` takes over: the object it is handed, if that is mapped or can be. -/
theorem cursorMapObject_some (t : GemTable) (ref : GemRef) (ans : VmapAnswers) :
    cursorMapObject (some (t.state ref)) ans =
      if (gemMapOnDemand (t.state ref) ans).2 ≠ 0 then none else some ref := by
  rw [cursorMapObject, t.ref_eq]

/-- An object that could be mapped on demand is mapped. -/
theorem GemTable.mapImage_vmapped {t : GemTable} {ref : GemRef} {ans : VmapAnswers}
    (hans : ans.Documented) (hret : (gemMapOnDemand (t.state ref) ans).2 = 0) :
    ((t.mapImage (some ref) ans).state ref).vmapped = true := by
  show (Function.update t.state ref (gemMapOnDemand (t.state ref) ans).1 ref).vmapped = true
  rw [Function.update_self]
  unfold gemMapOnDemand at hret ⊢
  split_ifs at hret ⊢ with hmapped
  · exact hmapped
  · exact gemVmap_vmapped hans hret

namespace CursorLife

variable {s t : CursorLife} {a : Action}

/-- A cursor that is not enabled has no object, and the cursor holds one reference, to its object:
`refs` counts those that others hold. -/
structure Held (refs : ℕ → ℤ) (s : CursorLife) : Prop where
  hidden : s.device.cursor.enabled = false → s.device.cursor.obj = none
  refs_eq : ∀ id, s.device.drm.gemRefs id = refs id + heldRefs s.device.cursor.obj id

/-- An enabled cursor has an object, which is mapped. -/
def Shown (s : CursorLife) : Prop :=
  s.live = true → s.device.cursor.enabled = true →
    ∃ obj, s.device.cursor.obj = some obj ∧ (s.objects.state obj).vmapped = true

/-- An update to another framebuffer finds its object mapped, or maps it. -/
def MapsImage (s : CursorLife) : Action → Prop
  | .update old new ans _ =>
    ∀ ref, newImage old new = some ref → (gemMapOnDemand (s.objects.state ref) ans).2 = 0
  | _ => True

/-- A call in which no image that is to be shown fails to be mapped. -/
def MappedStep (s : CursorLife) (a : Action) (t : CursorLife) : Prop := Step s a t ∧ s.MapsImage a

theorem Held.of_view {refs : ℕ → ℤ} (hs : Held refs s) {enabled : Bool} {obj : Option GemRef}
    (hview : cursorView t.device = (enabled, obj, (cursorView s.device).2.2))
    (hhidden : enabled = false → obj = none) : Held refs t := by
  have henabled : t.device.cursor.enabled = enabled := congrArg (·.1) hview
  have hobj : t.device.cursor.obj = obj := congrArg (·.2.1) hview
  refine ⟨fun h => hobj.trans (hhidden (henabled.symm.trans h)), fun id => ?_⟩
  have hloose : t.device.drm.gemRefs id - heldRefs t.device.cursor.obj id =
      s.device.drm.gemRefs id - heldRefs s.device.cursor.obj id := congrFun (congrArg (·.2.2) hview) id
  have hrefs := hs.refs_eq id
  omega

/-- **One call** moves the cursor's reference with its object. -/
theorem Held.step {refs : ℕ → ℤ} (hs : Held refs s) (h : Step s a t) : Held refs t := by
  have hsame : ∀ {d : Device}, cursorView d = cursorView s.device → cursorView d =
      (s.device.cursor.enabled, s.device.cursor.obj, (cursorView s.device).2.2) := fun h => h
  cases h with
  | update old new ans gemHandle hlive hans =>
    have hview := cursorView_cursorAtomicUpdate old new (s.env ans gemHandle) s.device
    split_ifs at hview
    · refine hs.of_view hview fun hnone => ?_
      rw [Option.isSome_eq_false_iff, Option.isNone_iff_eq_none] at hnone
      rw [hnone]
      rfl
    · exact hs.of_view (hsame hview) hs.hidden
  | set gemObjectLookup ans gemHandle handle width height hotX hotY hlive hans =>
    refine hs.of_view (cursorView_crtcCursorSet _ _ _ _ _ _ _ _) fun hnone => ?_
    rwa [Option.isSome_eq_false_iff, Option.isNone_iff_eq_none] at hnone
  | disconnect file hlive =>
    rcases cursorView_painterDisconnect file s.device with hview | hview
    · exact hs.of_view (hsame hview) hs.hidden
    · exact hs.of_view hview fun _ => rfl
  | free hlive => exact hs.of_view (cursorView_cursorSetGem none s.device) fun _ => rfl
  | other f hf => exact hs.of_view (hsame (hf s.device)) hs.hidden

theorem Shown.of_view (hs : s.Shown) (hlive : t.live = s.live) (hobjects : t.objects = s.objects)
    (hview : cursorView t.device = cursorView s.device) : t.Shown := by
  have henabled : t.device.cursor.enabled = s.device.cursor.enabled := congrArg (·.1) hview
  have hobj : t.device.cursor.obj = s.device.cursor.obj := congrArg (·.2.1) hview
  unfold Shown
  rw [hlive, henabled, hobj, hobjects]
  exact hs

/-- The object that is handed to `evdi_cursor_set` is shown if it can be mapped. -/
theorem Shown.of_handed {ref : GemRef} {ans : VmapAnswers} (hans : ans.Documented)
    (hret : (gemMapOnDemand (s.objects.state ref) ans).2 = 0)
    (hobj : t.device.cursor.obj = some ref)
    (hobjects : t.objects = s.objects.mapImage (some ref) ans) : t.Shown := by
  intro _ _
  refine ⟨ref, hobj, ?_⟩
  rw [hobjects]
  exact GemTable.mapImage_vmapped hans hret

theorem not_shown_of_none (hlive : t.live = true) (henabled : t.device.cursor.enabled = true)
    (hnone : t.device.cursor.obj = none) : ¬ t.Shown := by
  intro hshown
  obtain ⟨obj, hobj, -⟩ := hshown hlive henabled
  rw [hnone] at hobj
  cases hobj

theorem Shown.of_hidden (h : t.device.cursor.enabled = false) : t.Shown := by
  intro _ henabled
  rw [h] at henabled
  cases henabled

/-- **One call** in which no image fails to be mapped leaves an enabled cursor with its image. -/
theorem Shown.step (hs : s.Shown) (h : MappedStep s a t) : t.Shown := by
  obtain ⟨hstep, hmaps⟩ := h
  cases hstep with
  | update old new ans gemHandle hlive hans =>
    have hview := cursorView_cursorAtomicUpdate old new (s.env ans gemHandle) s.device
    have himage : newImage old new = if new.fb != old.fb then new.fb.map (·.obj) else none := rfl
    split_ifs at hview himage
    · cases hfb : new.fb with
      | none =>
        refine Shown.of_hidden ((congrArg (·.1) hview).trans ?_)
        rw [hfb]
        rfl
      | some fb =>
        rw [hfb] at hview himage
        have hret := hmaps fb.obj himage
        refine Shown.of_handed hans hret ((congrArg (·.2.1) hview).trans ?_) (by rw [himage]; rfl)
        show cursorMapObject (some (s.objects.state fb.obj)) ans = some fb.obj
        rw [cursorMapObject_some, if_neg (not_not.2 hret)]
    · refine hs.of_view rfl ?_ hview
      rw [himage]
      rfl
  | set gemObjectLookup ans gemHandle handle width height hotX hotY hlive hans =>
    have hview := cursorView_crtcCursorSet gemObjectLookup (s.env ans gemHandle) handle width height
      hotX hotY s.device
    cases hfound : (if handle ≠ 0 then gemObjectLookup handle else none) with
    | none =>
      rw [hfound] at hview
      exact Shown.of_hidden (congrArg (·.1) hview)
    | some ref =>
      have hmapped : cursorMapObject (some (s.objects.state ref)) ans = _ := cursorMapObject_some _ _ _
      rw [hfound] at hview
      by_cases hret : (gemMapOnDemand (s.objects.state ref) ans).2 = 0
      · rw [if_neg (not_not.2 hret)] at hmapped
        exact Shown.of_handed hans hret ((congrArg (·.2.1) hview).trans hmapped) rfl
      · rw [if_pos hret] at hmapped
        exact Shown.of_hidden ((congrArg (·.1) hview).trans (congrArg Option.isSome hmapped))
  | disconnect file hlive =>
    rcases cursorView_painterDisconnect file s.device with hview | hview
    · exact hs.of_view rfl rfl hview
    · exact Shown.of_hidden (congrArg (·.1) hview)
  | free hlive => exact fun hfreed => by cases hfreed
  | other f hf => exact hs.of_view rfl rfl (hf s.device)

/-- **An image that fails to be mapped** is taken off by `evdi_cursor_set`, and the cursor without it is
enabled. -/
theorem not_shown_of_not_mapsImage (h : Step s a t) (hbad : ¬ s.MapsImage a) :
    t.live = true ∧ t.device.cursor.enabled = true ∧ t.device.cursor.obj = none := by
  cases h with
  | update old new ans gemHandle hlive hans =>
    have hview := cursorView_cursorAtomicUpdate old new (s.env ans gemHandle) s.device
    have himage : newImage old new = if new.fb != old.fb then new.fb.map (·.obj) else none := rfl
    simp only [MapsImage, Classical.not_forall] at hbad
    obtain ⟨ref, href, hret⟩ := hbad
    rw [href] at himage
    split_ifs at hview himage
    obtain ⟨fb, hfb, rfl⟩ := Option.map_eq_some_iff.1 himage.symm
    rw [hfb] at hview
    refine ⟨hlive, congrArg (·.1) hview, (congrArg (·.2.1) hview).trans ?_⟩
    show cursorMapObject (some (s.objects.state fb.obj)) ans = none
    rw [cursorMapObject_some, if_pos hret]
  | set => exact absurd trivial hbad
  | disconnect => exact absurd trivial hbad
  | free => exact absurd trivial hbad
  | other => exact absurd trivial hbad

/-- **The cursor's state** is sound in every run, but for an enabled cursor without an object, and that
is seen exactly when an image is to be shown that fails to be mapped. -/
theorem cursor_state_sound {s₀ : CursorLife} (hcursor : s₀.device.cursor = Cursor.init) :
    (∀ as s, Run Step s₀ as s → s.Held s₀.device.drm.gemRefs ∧
      ∀ a t, Step s a t → ¬ s.MapsImage a → ¬ t.Shown) ∧
    ∀ as s, Run MappedStep s₀ as s → s.Shown := by
  refine ⟨fun as s h => ⟨?_, fun a t hstep hbad => ?_⟩, fun as s h => ?_⟩
  · refine h.invariant (I := Held s₀.device.drm.gemRefs) (fun _ _ _ hs hstep => hs.step hstep) ?_
    refine ⟨fun _ => by rw [hcursor]; rfl, fun id => ?_⟩
    rw [hcursor]
    exact (add_zero _).symm
  · obtain ⟨hlive, henabled, hnone⟩ := not_shown_of_not_mapsImage hstep hbad
    exact not_shown_of_none hlive henabled hnone
  · refine h.invariant (I := Shown) (fun _ _ _ hs hstep => hs.step hstep) (Shown.of_hidden ?_)
    rw [hcursor]
    rfl

/-! ### A cursor that is enabled without an object -/

/-- A device whose cursor was just made, among objects that are not mapped. -/
def sample : CursorLife where
  device := .init 0 (.init (.const true) (.const true))
  objects := ⟨fun ref => ⟨ref, none, 0, false, fun _ => 0⟩, fun _ => rfl⟩
  live := true

/-- The cursor plane shows its first image, which `vmap` maps or does not. -/
def Action.sampleShow (vmap : Bool) : Action :=
  .update (.sample none) (.sample (some (.sample 1 64 64 256))) ⟨0, true, .ok [5], vmap⟩ 0

theorem step_sampleShow (vmap : Bool) : ∃ t, Step sample (.sampleShow vmap) t :=
  ⟨_, .update _ _ _ _ rfl ⟨fun _ => rfl, fun err herr => by cases herr⟩⟩

/-- A first image that is mapped is shown, and held by one reference. -/
theorem sound_sampleShow :
    ∃ t, Step sample (.sampleShow true) t ∧ t.Held (fun _ => 0) ∧ t.Shown := by
  obtain ⟨t, ht⟩ := step_sampleShow true
  have hmaps : sample.MapsImage (.sampleShow true) := fun ref href => by
    cases href
    rfl
  have hsound := @cursor_state_sound sample rfl
  exact ⟨t, ht, (hsound.1 _ t (.one ht)).1, hsound.2 _ t (.one ⟨ht, hmaps⟩)⟩

/-- The first image cannot be mapped: the cursor is enabled and has no object. -/
theorem enabled_without_object :
    ∃ as t, Run Step sample as t ∧ t.device.cursor.enabled = true ∧ t.device.cursor.obj = none ∧
      ¬ t.Shown := by
  obtain ⟨t, ht⟩ := step_sampleShow false
  have hbad : ¬ sample.MapsImage (.sampleShow false) := fun hmaps =>
    absurd (hmaps (Framebuffer.sample 1 64 64 256).obj rfl) (by decide)
  obtain ⟨hlive, henabled, hnone⟩ := not_shown_of_not_mapsImage ht hbad
  exact ⟨_, t, .one ht, henabled, hnone, not_shown_of_none hlive henabled hnone⟩

end CursorLife

end Evdi
