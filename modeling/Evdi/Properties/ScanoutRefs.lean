import Evdi.Foundations.Transition
import Evdi.Model.Client

/-!
# References to scanout framebuffers

`evdi_painter_set_scanout_buffer` takes its reference before it holds the painter lock and drops the old
buffer's after it, a `GRABPIX` call takes one under the lock and drops it at its end, and disconnect and
cleanup drop the painter's.

* `Swap`: a call of `evdi_painter_set_scanout_buffer` under way;
* `ScanoutRefs.Step`: such calls, the clients' calls and the end of the painter, in any order;
* `ScanoutRefs.refs_balanced`: who holds the references.
-/

namespace Evdi

open Atomic Bytes Transition

/-! ### Setting the scanout buffer, step by step -/

/-- A call of `evdi_painter_set_scanout_buffer`: before it has taken its reference, before the locked
swap, and before it drops the old framebuffer. -/
inductive Swap
  | called (newfb : Option Framebuffer)
  | taken (newfb : Option Framebuffer)
  | swapped (oldfb : Option Framebuffer)

/-- `if (fb) drm_framebuffer_get(&fb->base)`, and the same with `put`. -/
def refIfSet (fb : Option Framebuffer) (n : ℤ) (d : Device) : Device :=
  match fb with
  | some fb => drmFramebufferRef fb n d
  | none => d

/-- The next step of a call: what it does to the device, and what is left of the call. -/
def Swap.next (d : Device) : Swap → Device × Option Swap
  | .called newfb => (refIfSet newfb 1 d, some (.taken newfb))
  | .taken newfb => ((swapScanoutBuffer newfb d).1, some (.swapped (swapScanoutBuffer newfb d).2))
  | .swapped oldfb => (refIfSet oldfb (-1) d, none)

/-- The end of `evdi_painter_set_scanout_buffer`, after the unlock. -/
def putOldfb : Option Framebuffer → Prog Device Unit
  | some oldfb => .modify (drmFramebufferRef oldfb (-1))
  | none => .pure ()

/-- What is left of the program of the call. -/
def Swap.run : Swap → Prog Device Unit
  | .called newfb => painterSetScanoutBuffer newfb
  | .taken newfb => Prog.act (swapScanoutBuffer newfb) >>= putOldfb
  | .swapped oldfb => putOldfb oldfb

/-- A step is the next section of the program, or there is nothing to do. -/
theorem Swap.next_section (w : Swap) (d : Device) :
    ((w.next d).1 = d ∧ (w.next d).2.elim (.pure ()) Swap.run = w.run) ∨
      ∃ f k, w.run = .sec f k ∧ (w.next d).1 = f d ∧
        (w.next d).2.elim (.pure ()) Swap.run = k d := by
  cases w with
  | called newfb =>
    cases newfb with
    | none => exact .inl ⟨rfl, rfl⟩
    | some fb => exact .inr ⟨_, _, rfl, rfl, rfl⟩
  | taken newfb => exact .inr ⟨_, _, rfl, rfl, rfl⟩
  | swapped oldfb =>
    cases oldfb with
    | none => exact .inl ⟨rfl, rfl⟩
    | some fb => exact .inr ⟨_, _, rfl, rfl, rfl⟩

/-- Only the locked swap looks at the painter. -/
def Swap.usesPainter : Swap → Bool
  | .taken _ => true
  | _ => false

/-- Whether a call holds a reference to framebuffer `i`: to the new one until the swap, and to the old
one after it. -/
def Swap.holds : Swap → ℕ → Bool
  | .called _, _ => false
  | .taken newfb, i => newfb.any (·.id = i)
  | .swapped oldfb, i => oldfb.any (·.id = i)

/-! ### The parties -/

/-- A device with its clients, and the calls of `evdi_painter_set_scanout_buffer` under way. -/
structure ScanoutRefs extends Clients where
  swaps : List Swap

namespace ScanoutRefs

/-- What may happen. -/
inductive Action
  | client (call : ClientCall)
  | call (newfb : Option Framebuffer)
  | swap
  | cleanup

/-- One step: a call of a client, the start or a step of a call that sets the scanout buffer, or the end
of the painter, which is freed: nothing may swap its buffer then. -/
inductive Step : ScanoutRefs → Action → ScanoutRefs → Prop
  | client {s : ScanoutRefs} {c : Clients} {call : ClientCall} :
      ClientStep s.toClients call c → Step s (.client call) { s with toClients := c }
  | call {s : ScanoutRefs} (newfb : Option Framebuffer) :
      Step s (.call newfb) { s with swaps := s.swaps ++ [.called newfb] }
  | swap {s : ScanoutRefs} {l r : List Swap} {w : Swap} :
      s.swaps = l ++ w :: r → (w.usesPainter = true → s.device.painter ≠ none) →
      Step s .swap { s with
        device := (w.next s.device).1
        swaps := l ++ (w.next s.device).2.toList ++ r }
  | cleanup {s : ScanoutRefs} : Step s .cleanup { s with device := painterCleanup s.device }

/-- A fresh device, and nothing under way. -/
def init (fgConsole : ℤ) (kzalloc hasSpace : Stream' Bool) : ScanoutRefs where
  device := Device.init fgConsole (.init kzalloc hasSpace)
  grabs := []
  swaps := []

end ScanoutRefs

/-! ### References the painter does not account for -/

/-- The reference that a pointer to a framebuffer stands for. -/
def pointerRefs (fb : Option Framebuffer) (i : ℕ) : ℤ := if fb.any (·.id = i) then 1 else 0

/-- The references of framebuffer `i` besides the painter's own. -/
def looseRefs (d : Device) (i : ℕ) : ℤ :=
  d.drm.fbRefs i - pointerRefs (d.painter.bind (·.scanoutFb)) i

theorem looseRefs_congr {d d' : Device} (hrefs : d'.drm.fbRefs = d.drm.fbRefs)
    (hfb : d'.painter.bind (·.scanoutFb) = d.painter.bind (·.scanoutFb)) :
    looseRefs d' = looseRefs d := by
  funext i
  rw [looseRefs, looseRefs, hrefs, hfb]

theorem looseRefs_onPainter {f : Painter → Painter} (d : Device)
    (hf : ∀ p, (f p).scanoutFb = p.scanoutFb) : looseRefs (d.onPainter f) = looseRefs d := by
  refine looseRefs_congr rfl ?_
  cases h : d.painter <;> simp [h, hf]

theorem looseRefs_ref (fb : Framebuffer) (n : ℤ) (d : Device) (i : ℕ) :
    looseRefs (drmFramebufferRef fb n d) i = looseRefs d i + if fb.id = i then n else 0 := by
  show Function.update d.drm.fbRefs fb.id (d.drm.fbRefs fb.id + n) i -
    pointerRefs (d.painter.bind (·.scanoutFb)) i = _
  rw [looseRefs, Function.update_apply]
  by_cases h : fb.id = i
  · subst h
    simp only [if_true]
    omega
  · rw [if_neg h, if_neg (Ne.symm h)]
    omega

theorem looseRefs_refIfSet (fb : Option Framebuffer) (n : ℤ) (d : Device) (i : ℕ) :
    looseRefs (refIfSet fb n d) i = looseRefs d i + n * pointerRefs fb i := by
  cases fb with
  | none => simp [refIfSet, pointerRefs]
  | some fb =>
    rw [refIfSet, looseRefs_ref]
    by_cases h : fb.id = i <;> simp [pointerRefs, h]

/-- The swap hands the reference of the new framebuffer to the painter, and takes the old one's. -/
theorem looseRefs_swap (newfb : Option Framebuffer) {d : Device} (hp : d.painter ≠ none) (i : ℕ) :
    looseRefs (swapScanoutBuffer newfb d).1 i =
      looseRefs d i - pointerRefs newfb i + pointerRefs (swapScanoutBuffer newfb d).2 i := by
  obtain ⟨p, hp⟩ := Option.ne_none_iff_exists'.1 hp
  simp only [looseRefs, swapScanoutBuffer, hp, Device.onPainter_painter, Device.onPainter_drm,
    Option.map_some, Option.bind_some]
  omega

/-- Giving up the painter's framebuffer is giving up its reference. -/
theorem looseRefs_putScanoutBuffer (d : Device) : looseRefs (putScanoutBuffer d) = looseRefs d := by
  funext i
  unfold putScanoutBuffer
  cases hfb : d.painter.bind (·.scanoutFb) with
  | none => rfl
  | some fb =>
    have href := looseRefs_ref fb (-1) d i
    obtain ⟨p, hp, hpfb⟩ := Option.bind_eq_some_iff.1 hfb
    have hnone : pointerRefs none i = 0 := rfl
    have hsome : pointerRefs (some fb) i = if fb.id = i then 1 else 0 := by simp [pointerRefs]
    -- the drop, with the pointer still there, leaves the balance one short
    rw [looseRefs, looseRefs, drmFramebufferRef, Device.onDrm_painter, hfb, hsome] at href
    simp only [looseRefs, drmFramebufferRef, Device.onPainter_painter, Device.onDrm_painter, hp,
      Option.map_some, Option.bind_some, hnone, hpfb, hsome, Device.onPainter_drm]
    split_ifs at href ⊢ <;> omega

/-! ### The calls of clients -/

theorem looseRefs_sendVblank (crtc : Option Crtc) (vblank : Option VblankEvent) (d : Device) :
    looseRefs (sendVblank crtc vblank d) = looseRefs d := by
  rw [sendVblank_eq]
  rfl

/-- The painter has no framebuffer after it has given it up. -/
theorem scanoutFb_putScanoutBuffer (d : Device) :
    (putScanoutBuffer d).painter.bind (·.scanoutFb) = none := by
  unfold putScanoutBuffer
  cases hfb : d.painter.bind (·.scanoutFb) with
  | none => exact hfb
  | some fb =>
    rw [Device.onPainter_painter]
    cases (drmFramebufferRef fb (-1) d).painter <;> rfl

theorem looseRefs_cleanup (d : Device) : looseRefs (painterCleanup d) = looseRefs d := by
  rw [← looseRefs_putScanoutBuffer d]
  refine looseRefs_congr ?_ (scanoutFb_putScanoutBuffer d).symm
  show (painterEventsCleanup (painterSendVblank (putScanoutBuffer d))).drm.fbRefs = _
  unfold painterEventsCleanup painterSendVblank
  cases h : (putScanoutBuffer d).painter <;> simp [h, sendVblank_eq]

theorem looseRefs_disconnect (file : DrmFile) (d : Device) :
    looseRefs (painterDisconnect file d).1 = looseRefs d := by
  rcases painterDisconnect_cases file d with heq | ⟨p, hp, hfile⟩
  · rw [heq]
  · rw [painterDisconnect_owner hp hfile, ← looseRefs_putScanoutBuffer d]
    exact looseRefs_congr rfl (scanoutFb_putScanoutBuffer d).symm

theorem looseRefs_connectIoctl (user : UInt64 → UserRegion) (ans : ConnectAnswers) (cmd : ConnectCmd)
    (file : DrmFile) (d : Device) :
    looseRefs (painterConnectIoctl user ans cmd file d).1 = looseRefs d := by
  rcases painterConnectIoctl_cases user ans cmd file d with ⟨err, heq, -⟩ |
    ⟨edid, -, -, -, -, heq⟩ | ⟨-, heq⟩
  · rw [heq]
  · rw [heq]
    exact looseRefs_onPainter (f := (·.connected file cmd.edidLength edid)) d fun _ => rfl
  · rw [heq]
    exact looseRefs_disconnect file d

theorem looseRefs_requestUpdate (d : Device) :
    looseRefs (painterRequestUpdateIoctl d).1 = looseRefs d := by
  rcases painterRequestUpdateIoctl_device d with heq | heq
  · rw [heq]
  · rw [heq]
    exact looseRefs_onPainter d fun _ => rfl

theorem looseRefs_ddcciResponse (user : UInt64 → UserRegion) (kzalloc : Bool)
    (cmd : DdcciResponseCmd) (d : Device) :
    looseRefs (painterDdcciResponseIoctl user kzalloc cmd d).1 = looseRefs d := by
  obtain ⟨buffer, length, received, heq⟩ := painterDdcciResponseIoctl_device user kzalloc cmd d
  rw [heq]
  exact looseRefs_onPainter d fun _ => rfl

/-- A grab takes a reference in its locked phase. -/
theorem looseRefs_grabpix {cmd cmd' : GrabpixCmd} {d d' : Device} {g : Grab}
    (h : painterGrabpixLocked cmd d = (d', cmd', .ok g)) (i : ℕ) :
    looseRefs d' i = looseRefs d i + if g.efb.id = i then 1 else 0 := by
  obtain ⟨p, efb, -, -, -, rfl, rfl⟩ := painterGrabpixLocked_ok h
  rw [← looseRefs_ref]
  refine congrFun (looseRefs_onPainter _ ?_) i
  exact fun _ => rfl

theorem looseRefs_grabpixRefused {cmd cmd' : GrabpixCmd} {d d' : Device} {err : ℤ}
    (h : painterGrabpixLocked cmd d = (d', cmd', .error err)) : looseRefs d' = looseRefs d := by
  rcases painterGrabpixLocked_error h with rfl | rfl
  · rfl
  · exact looseRefs_onPainter d fun _ => rfl

/-- ... and drops it at its end. -/
theorem looseRefs_grabpixDone (g : Grab) (d : Device) (i : ℕ) :
    looseRefs (painterGrabpixFinish g d) i = looseRefs d i - if g.efb.id = i then 1 else 0 := by
  rw [painterGrabpixFinish, looseRefs_ref, looseRefs_sendVblank]
  split_ifs <;> omega

/-! ### The balance -/

theorem countP_holds (w : Swap) (i : ℕ) :
    ((([w] : List Swap).countP (·.holds i) : ℕ) : ℤ) = if w.holds i then 1 else 0 := by
  rw [List.countP_singleton]
  split_ifs <;> rfl

/-- A step of a call hands over the references it holds. -/
theorem looseRefs_next (w : Swap) {d : Device} (hp : w.usesPainter = true → d.painter ≠ none) (i : ℕ) :
    looseRefs (w.next d).1 i + (if w.holds i then 1 else 0) =
      looseRefs d i + ((w.next d).2.toList.countP (·.holds i) : ℕ) := by
  cases w with
  | called newfb =>
    have href := looseRefs_refIfSet newfb 1 d i
    have hcount : (([Swap.taken newfb].countP (·.holds i) : ℕ) : ℤ) = pointerRefs newfb i :=
      countP_holds _ i
    show looseRefs (refIfSet newfb 1 d) i + 0 =
      looseRefs d i + ([Swap.taken newfb].countP (·.holds i) : ℕ)
    omega
  | taken newfb =>
    have hswap := looseRefs_swap newfb (hp rfl) i
    have hcount : (([Swap.swapped (swapScanoutBuffer newfb d).2].countP (·.holds i) : ℕ) : ℤ) =
      pointerRefs (swapScanoutBuffer newfb d).2 i := countP_holds _ i
    show looseRefs (swapScanoutBuffer newfb d).1 i + pointerRefs newfb i =
      looseRefs d i + ([Swap.swapped (swapScanoutBuffer newfb d).2].countP (·.holds i) : ℕ)
    omega
  | swapped oldfb =>
    have href := looseRefs_refIfSet oldfb (-1) d i
    show looseRefs (refIfSet oldfb (-1) d) i + pointerRefs oldfb i = looseRefs d i + 0
    omega

namespace ScanoutRefs

/-- Every reference is the painter's, or held by a grab or a swap under way. -/
def Balanced (s : ScanoutRefs) : Prop :=
  ∀ i, looseRefs s.device i =
    (s.grabs.countP (·.efb.id = i) : ℕ) + (s.swaps.countP (·.holds i) : ℕ)

theorem Balanced.of_looseRefs {s : ScanoutRefs} {d : Device} (hs : s.Balanced)
    (h : looseRefs d = looseRefs s.device) : Balanced { s with device := d } := by
  intro i
  rw [h]
  exact hs i

theorem balanced_client {s : ScanoutRefs} {c : Clients} {call : ClientCall}
    (h : ClientStep s.toClients call c) (hs : s.Balanced) : Balanced { s with toClients := c } := by
  cases h with
  | requestUpdate heq =>
    exact hs.of_looseRefs (congrArg (looseRefs ·.1) heq ▸ looseRefs_requestUpdate s.device)
  | grabpix heq =>
    intro i
    rw [looseRefs_grabpix heq, List.countP_append, List.countP_singleton, hs i]
    simp only [decide_eq_true_eq]
    split_ifs <;> push_cast <;> omega
  | grabpixRefused heq => exact hs.of_looseRefs (looseRefs_grabpixRefused heq)
  | @grabpixDone l r g env hgrabs =>
    intro i
    rw [looseRefs_grabpixDone, hs i, hgrabs]
    simp only [List.countP_append, List.countP_cons, decide_eq_true_eq]
    split_ifs <;> push_cast <;> omega
  | connect user ans heq =>
    exact hs.of_looseRefs (congrArg (looseRefs ·.1) heq ▸ looseRefs_connectIoctl user ans _ _ s.device)
  | close file =>
    exact hs.of_looseRefs (painterClose_eq file s.device ▸ looseRefs_disconnect file s.device)
  | ddcciResponse user kzalloc heq =>
    exact hs.of_looseRefs (congrArg (looseRefs ·.1) heq ▸ looseRefs_ddcciResponse user kzalloc _ s.device)
  | enableCursorEvents cmd => exact hs

/-- **Every step keeps the balance.** -/
theorem Step.balanced {s t : ScanoutRefs} {a : Action} (h : Step s a t) (hs : s.Balanced) :
    t.Balanced := by
  cases h with
  | client hcall => exact balanced_client hcall hs
  | call newfb =>
    intro i
    rw [List.countP_append, List.countP_singleton, if_neg (by simp [Swap.holds]), Nat.add_zero]
    exact hs i
  | @swap l r w hswaps hp =>
    intro i
    have hnext := looseRefs_next w hp i
    have hi := hs i
    rw [hswaps] at hi
    simp only [List.countP_append, List.countP_cons] at hi hnext ⊢
    split_ifs at hi hnext <;> push_cast at * <;> omega
  | cleanup => exact hs.of_looseRefs (looseRefs_cleanup s.device)

theorem balanced_init (fgConsole : ℤ) (kzalloc hasSpace : Stream' Bool) :
    (init fgConsole kzalloc hasSpace).Balanced := fun _ => rfl

theorem fbRefs_eq {s : ScanoutRefs} (h : s.Balanced) (i : ℕ) : s.device.drm.fbRefs i =
    pointerRefs (s.device.painter.bind (·.scanoutFb)) i +
      (s.grabs.countP (·.efb.id = i) : ℕ) + (s.swaps.countP (·.holds i) : ℕ) := by
  have hi := h i
  rw [looseRefs] at hi
  omega

theorem pointerRefs_nonneg (fb : Option Framebuffer) (i : ℕ) : 0 ≤ pointerRefs fb i := by
  unfold pointerRefs
  split_ifs <;> decide

/-- **References to framebuffers are balanced.** In every state of every run:

* the references of a framebuffer are the painter's, one for each grab, and one for each call that sets
  the scanout buffer and holds it;
* whoever holds a framebuffer has a reference: the painter, a grab, and a call before its drop, so that
  no step drops a reference that was not taken;
* when the painter is gone and nothing is under way, no reference is left. -/
theorem refs_balanced {fgConsole : ℤ} {kzalloc hasSpace : Stream' Bool} {as : List Action}
    {s : ScanoutRefs} (h : Run Step (init fgConsole kzalloc hasSpace) as s) :
    (∀ i, s.device.drm.fbRefs i = pointerRefs (s.device.painter.bind (·.scanoutFb)) i +
      (s.grabs.countP (·.efb.id = i) : ℕ) + (s.swaps.countP (·.holds i) : ℕ)) ∧
    (∀ i, 0 ≤ s.device.drm.fbRefs i) ∧
    (∀ fb, s.device.painter.bind (·.scanoutFb) = some fb → 1 ≤ s.device.drm.fbRefs fb.id) ∧
    (∀ g ∈ s.grabs, 1 ≤ s.device.drm.fbRefs g.efb.id) ∧
    (∀ w ∈ s.swaps, ∀ i, w.holds i = true → 1 ≤ s.device.drm.fbRefs i) ∧
    (s.device.painter = none → s.grabs = [] → s.swaps = [] → ∀ i, s.device.drm.fbRefs i = 0) := by
  have hbalanced := h.invariant (I := Balanced) (fun _ _ _ hs hstep => hstep.balanced hs)
    (balanced_init _ _ _)
  have heq := fbRefs_eq hbalanced
  have hpointer := pointerRefs_nonneg (s.device.painter.bind (·.scanoutFb))
  refine ⟨heq, fun i => ?_, fun fb hfb => ?_, fun g hg => ?_, fun w hw i hi => ?_, ?_⟩
  · have := hpointer i
    rw [heq]
    omega
  · have hone : pointerRefs (s.device.painter.bind (·.scanoutFb)) fb.id = 1 := by
      simp [hfb, pointerRefs]
    rw [heq, hone]
    omega
  · have hcount : 0 < s.grabs.countP fun g' => g'.efb.id = g.efb.id :=
      List.countP_pos_iff.2 ⟨g, hg, by simp⟩
    have := hpointer g.efb.id
    rw [heq]
    omega
  · have hcount : 0 < s.swaps.countP (·.holds i) :=
      List.countP_pos_iff.2 ⟨w, hw, by simpa using hi⟩
    have := hpointer i
    rw [heq]
    omega
  · intro hgone hgrabs hswaps i
    rw [heq, hgone, hgrabs, hswaps]
    rfl

/-- A framebuffer is set, grabbed, and given up by the end of the painter before the grab has ended. -/
theorem refs_balanced_after_cleanup : ∃ as s,
    Run Step (init 0 (.const true) (.const true)) as s ∧ Action.cleanup ∈ as ∧
      s.device.drm.fbRefs 1 = 0 := by
  have hcall : Run Step (init 0 (.const true) (.const true)) [.call (some (.sample 1 64 64 256))] _ :=
    Run.one (.call _)
  have hget := hcall.snoc (.swap (l := []) (r := []) rfl nofun)
  have hswap := hget.snoc (.swap (l := []) (r := []) rfl fun _ => nofun)
  have hput := hswap.snoc (.swap (l := []) (r := []) rfl nofun)
  have hgrab := hput.snoc (.client (.grabpix
    (@painterGrabpixLocked_scanout (.sample 64 64 256 16) _ _ _ rfl (by decide) rfl rfl)))
  have hcleanup := hgrab.snoc .cleanup
  have hdone := hcleanup.snoc (.client (.grabpixDone (l := []) (r := []) (.sample 0) rfl))
  exact ⟨_, _, hdone, by simp, (refs_balanced hdone).2.2.2.2.2 rfl rfl rfl 1⟩

end ScanoutRefs

end Evdi
