import Evdi.Foundations.Custody
import Evdi.Model.GemSpace

/-!
# References to GEM objects

Any number of threads create, look up, show and close GEM objects and framebuffers.  Each reference that was
taken is in one place: a handle, a framebuffer, the cursor, or the hands of a thread.

* `heldObjs`, `heldFbs`: the references on objects and on framebuffers;
* `Balanced`: the counts are those of the references and of what threads have in hand;
* `carries_lookup`, `carries_put`, `carries_fbPut`, …: what the parts of the functions do to it;
* **`gem_refs_balanced`**: the result.
-/

namespace Evdi

open Atomic Transition

namespace GemSpace

/-! ### The balance -/

/-- The references on objects: of handles, of framebuffers and of the cursor. -/
def heldObjs (w : GemSpace) : Multiset ℕ :=
  ↑(w.handles.map (·.obj)) + w.fbs.live.val.map w.fbObj + ↑w.cursor.toList

/-- The references on framebuffers: of the DRM core, and of the painter. -/
def heldFbs (w : GemSpace) : Multiset ℕ := ↑w.holders + ↑w.scanoutFb.toList

/-- What threads have in hand: references on objects and on framebuffers. -/
abbrev Hands := Multiset ℕ × Multiset ℕ

/-- The counts are those of the references, and handles are distinct and not 0. -/
structure Balanced (w : GemSpace) (hand : Hands) : Prop where
  objs : w.objs.Sound (w.heldObjs + hand.1)
  fbs : w.fbs.Sound (w.heldFbs + hand.2)
  handles : (w.handles.map fun e => (e.file, e.handle)).Nodup
  pos : ∀ e ∈ w.handles, 1 ≤ e.handle

theorem balanced_init : Balanced init 0 := by
  refine ⟨?_, ?_, List.nodup_nil, by simp [init]⟩
  · simpa [heldObjs, init, RefTable.live, RefTable.empty] using RefTable.sound_empty
  · simpa [heldFbs, init] using RefTable.sound_empty

/-- An object in hand. -/
def objInHand (obj : Option ℕ) : Hands := (↑obj.toList, 0)

/-- Objects in hand. -/
def objsInHand (objs : List ℕ) : Hands := (↑objs, 0)

/-- A framebuffer in hand. -/
def fbInHand (fb : Option ℕ) : Hands := (0, ↑fb.toList)

section

variable {w : GemSpace} {hand : Hands} {obj fb : ℕ}

@[simp] theorem objInHand_none : objInHand none = 0 := rfl
@[simp] theorem fbInHand_none : fbInHand none = 0 := rfl

@[simp] theorem objInHand_fst : (objInHand (some obj) + hand).1 = obj ::ₘ hand.1 := by
  simp [objInHand]

@[simp] theorem objInHand_snd {obj : Option ℕ} : (objInHand obj + hand).2 = hand.2 := by
  simp [objInHand]

@[simp] theorem fbInHand_fst {fb : Option ℕ} : (fbInHand fb + hand).1 = hand.1 := by simp [fbInHand]

@[simp] theorem fbInHand_snd : (fbInHand (some fb) + hand).2 = fb ::ₘ hand.2 := by simp [fbInHand]

/-- A reference on an object that somebody refers to. -/
theorem Balanced.getObj (h : Balanced w hand) (hobj : obj ∈ w.heldObjs + hand.1) :
    Balanced { w with objs := w.objs.get obj } (objInHand (some obj) + hand) := by
  refine ⟨?_, ?_, h.handles, h.pos⟩
  · rw [objInHand_fst, Multiset.add_cons]
    exact h.objs.get hobj
  · rw [objInHand_snd]
    exact h.fbs

/-- A reference in hand is dropped. -/
theorem Balanced.putObj (h : Balanced w (objInHand (some obj) + hand)) :
    Balanced (drmGemObjectPut obj w) hand := by
  obtain ⟨hobjs, hfbs, hhandles, hpos⟩ := h
  rw [objInHand_fst, Multiset.add_cons] at hobjs
  rw [objInHand_snd] at hfbs
  exact ⟨hobjs.put, hfbs, hhandles, hpos⟩

/-- A reference on a framebuffer that somebody refers to. -/
theorem Balanced.getFb (h : Balanced w hand) (hfb : fb ∈ w.heldFbs + hand.2) :
    Balanced (drmFramebufferGet fb w) (fbInHand (some fb) + hand) := by
  have hget := h.fbs.get hfb
  have hlive : (w.fbs.get fb).live = w.fbs.live := by
    rw [hget.live_eq, h.fbs.live_eq, Multiset.toFinset_cons, Finset.insert_eq_of_mem]
    exact Multiset.mem_toFinset.2 hfb
  have hheld : (drmFramebufferGet fb w).heldObjs = w.heldObjs := by
    rw [heldObjs, heldObjs, drmFramebufferGet, hlive]
  refine ⟨?_, ?_, h.handles, h.pos⟩
  · rw [hheld, fbInHand_fst]
    exact h.objs
  · rw [fbInHand_snd, Multiset.add_cons]
    exact hget

/-- A framebuffer in hand is dropped; with its last reference goes that on its object. -/
theorem Balanced.putFb (h : Balanced w (fbInHand (some fb) + hand)) :
    Balanced (drmFramebufferPut fb w) hand := by
  obtain ⟨hobjs, hfbs, hhandles, hpos⟩ := h
  rw [fbInHand_snd, Multiset.add_cons] at hfbs
  rw [fbInHand_fst] at hobjs
  have hlive := hfbs.live_eq
  rw [Multiset.toFinset_cons] at hlive
  by_cases hmore : fb ∈ w.heldFbs + hand.2
  · obtain ⟨hlast, hput⟩ := hfbs.put_more hmore
    have hsame : (w.fbs.put fb).1.live = w.fbs.live := by
      rw [hput.live_eq, hlive, Finset.insert_eq_of_mem (Multiset.mem_toFinset.2 hmore)]
    have hw : drmFramebufferPut fb w = { w with fbs := (w.fbs.put fb).1 } := by
      simp [drmFramebufferPut, hlast]
    rw [hw]
    refine ⟨?_, hput, hhandles, hpos⟩
    rw [heldObjs, hsame]
    exact hobjs
  · obtain ⟨hlast, hput⟩ := hfbs.put_last hmore
    have hw : drmFramebufferPut fb w =
        drmGemObjectPut (w.fbObj fb) { w with fbs := (w.fbs.put fb).1 } := by
      simp [drmFramebufferPut, hlast]
    -- the framebuffer held its object
    have hheld : w.heldObjs = w.fbObj fb ::ₘ heldObjs { w with fbs := (w.fbs.put fb).1 } := by
      rw [heldObjs, heldObjs, hlive, hput.live_eq,
        Finset.insert_val_of_notMem (by rwa [Multiset.mem_toFinset]), Multiset.map_cons,
        Multiset.add_cons, Multiset.cons_add]
    rw [hw]
    refine Balanced.putObj ⟨?_, ?_, hhandles, hpos⟩
    · rw [objInHand_fst, Multiset.add_cons, ← Multiset.cons_add, ← hheld]
      exact hobjs
    · rw [objInHand_snd]
      exact hput

/-- A new object, in the hands of its maker. -/
theorem Balanced.allocObj (h : Balanced w hand) :
    Balanced { w with objs := w.objs.alloc } (objInHand (some w.objs.next) + hand) := by
  obtain ⟨hobjs, hfbs, hhandles, hpos⟩ := h
  refine ⟨?_, ?_, hhandles, hpos⟩
  · rw [objInHand_fst, Multiset.add_cons]
    exact hobjs.alloc
  · rw [objInHand_snd]
    exact hfbs

/-- A new handle for an object that somebody refers to. -/
theorem Balanced.createHandle (h : Balanced w hand) (hobj : obj ∈ w.heldObjs + hand.1) (file : DrmFile)
    (memory : Bool) : Balanced (drmGemHandleCreate file obj memory w).1 hand := by
  obtain ⟨hobjs, hfbs, hhandles, hpos⟩ := h
  unfold drmGemHandleCreate
  cases memory with
  | false => exact ⟨hobjs, hfbs, hhandles, hpos⟩
  | true =>
    obtain ⟨hone, hfree⟩ := w.freeHandle_spec file
    refine ⟨?_, hfbs, ?_, fun e he => ?_⟩
    · have hheld : heldObjs { w with
          objs := w.objs.get obj
          handles := w.handles ++ [⟨file, w.freeHandle file, obj⟩] } = obj ::ₘ w.heldObjs := by
        simp only [heldObjs, List.map_append, List.map_cons, List.map_nil, ← Multiset.coe_add,
          Multiset.coe_singleton, ← Multiset.singleton_add]
        abel
      rw [if_pos rfl, hheld, Multiset.cons_add]
      exact hobjs.get hobj
    · rw [if_pos rfl, List.map_append, List.map_cons, List.map_nil]
      refine List.Nodup.append hhandles (List.nodup_singleton _) ?_
      rw [List.disjoint_singleton]
      intro hmem
      obtain ⟨e, he, heq⟩ := List.mem_map.1 hmem
      exact hfree e he (Prod.mk.inj heq).1 (Prod.mk.inj heq).2
    · rcases List.mem_append.1 he with he | he
      · exact hpos e he
      · rw [List.mem_singleton.1 he]
        exact hone

/-- The cursor gets another object, or none. -/
theorem Balanced.cursorSetGem (h : Balanced w hand) (new : Option ℕ)
    (hnew : ∀ obj ∈ new, obj ∈ w.heldObjs + hand.1) : Balanced (cursorSetGemRef new w) hand := by
  let v := new.elim w fun obj => { w with objs := w.objs.get obj }
  have hget : Balanced v (objInHand new + hand) := by
    cases new with
    | none => rwa [objInHand_none, zero_add]
    | some obj => exact h.getObj (hnew obj rfl)
  have hsame : v.cursor = w.cursor := by cases new <;> rfl
  -- what the cursor held comes into the hand, and what was in the hand goes to the cursor
  have hswap : Balanced { v with cursor := new } (objInHand w.cursor + hand) := by
    obtain ⟨hobjs, hfbs, hhandles, hpos⟩ := hget
    refine ⟨?_, ?_, hhandles, hpos⟩
    · have hheld : heldObjs { v with cursor := new } + (objInHand w.cursor + hand).1 =
          v.heldObjs + (objInHand new + hand).1 := by
        simp only [heldObjs, objInHand, Prod.fst_add, hsame]
        abel
      rw [hheld]
      exact hobjs
    · rw [objInHand_snd] at hfbs ⊢
      exact hfbs
  have hset : cursorSetGemRef new w =
      { v.cursor.elim v (fun old => drmGemObjectPut old v) with cursor := new } := rfl
  rw [hset, hsame]
  cases hold : w.cursor with
  | none =>
    rw [hold, objInHand_none, zero_add] at hswap
    exact hswap
  | some old =>
    rw [hold] at hswap
    exact hswap.putObj

/-- Fields that hold no reference may change. -/
theorem Balanced.of_eq {w' : GemSpace} (h : Balanced w hand) (hobjs : w'.objs = w.objs)
    (hfbs : w'.fbs = w.fbs) (hfbObj : w'.fbObj = w.fbObj) (hhandles : w'.handles = w.handles)
    (hholders : w'.holders = w.holders) (hcursor : w'.cursor = w.cursor)
    (hscanout : w'.scanoutFb = w.scanoutFb) : Balanced w' hand := by
  obtain ⟨h₁, h₂, h₃, h₄⟩ := h
  refine ⟨?_, ?_, by rwa [hhandles], by rwa [hhandles]⟩
  · rwa [heldObjs, hobjs, hfbs, hfbObj, hhandles, hcursor]
  · rwa [heldFbs, hfbs, hholders, hscanout]

/-- A framebuffer that somebody refers to refers to its object. -/
theorem Balanced.fbObj_held (h : Balanced w hand) (hfb : fb ∈ w.heldFbs + hand.2) :
    w.fbObj fb ∈ w.heldObjs := by
  have hlive : fb ∈ w.fbs.live := h.fbs.mem_live.2 hfb
  have hmem : w.fbObj fb ∈ w.fbs.live.val.map w.fbObj := Multiset.mem_map_of_mem _ hlive
  exact Multiset.mem_add.2 (.inl (Multiset.mem_add.2 (.inr hmem)))

/-- A new framebuffer takes over the object in hand. -/
theorem Balanced.fbInit (h : Balanced w (objInHand (some obj) + hand)) : Balanced (fbInit obj w) hand := by
  obtain ⟨hobjs, hfbs, hhandles, hpos⟩ := h
  rw [objInHand_fst] at hobjs
  rw [objInHand_snd] at hfbs
  have hnew : w.fbs.next ∉ w.fbs.live := fun hmem =>
    absurd (RefTable.mem_live.1 hmem).1 (lt_irrefl _)
  have hlive : w.fbs.alloc.live = insert w.fbs.next w.fbs.live := by
    rw [hfbs.alloc.live_eq, Multiset.toFinset_cons, hfbs.live_eq]
  have hmap : w.fbs.live.val.map (Function.update w.fbObj w.fbs.next obj) =
      w.fbs.live.val.map w.fbObj := by
    refine Multiset.map_congr rfl fun fb hfb => Function.update_of_ne ?_ _ _
    rintro rfl
    exact hnew hfb
  refine ⟨?_, ?_, hhandles, hpos⟩
  · have hheld : (GemSpace.fbInit obj w).heldObjs = obj ::ₘ w.heldObjs := by
      simp only [heldObjs, GemSpace.fbInit, hlive, Finset.insert_val_of_notMem hnew, Multiset.map_cons,
        Function.update_self, hmap, Multiset.add_cons, Multiset.cons_add]
    rw [hheld, Multiset.cons_add, ← Multiset.add_cons]
    exact hobjs
  · have hheld : (GemSpace.fbInit obj w).heldFbs = w.fbs.next ::ₘ w.heldFbs := by
      simp only [heldFbs, GemSpace.fbInit, ← Multiset.coe_add, Multiset.coe_singleton,
        ← Multiset.singleton_add]
      abel
    rw [hheld, Multiset.cons_add]
    exact hfbs.alloc

/-- An object comes into the hand of who looks it up. -/
theorem Balanced.lookup (h : Balanced w hand) (file : DrmFile) (handle : ℕ) :
    Balanced (drmGemObjectLookup file handle w).1
      (objInHand (drmGemObjectLookup file handle w).2 + hand) := by
  unfold drmGemObjectLookup
  cases hfind : w.handles.find? fun e => e.file == file && e.handle == handle with
  | none => rwa [objInHand_none, zero_add]
  | some e =>
    refine h.getObj (Multiset.mem_add.2 (.inl ?_))
    simp only [heldObjs, Multiset.mem_add, Multiset.mem_coe, or_assoc]
    exact .inl (List.mem_map_of_mem (List.mem_of_find?_eq_some hfind))

theorem Balanced.borrow (h : Balanced w hand) (fb : ℕ) :
    Balanced (borrow fb w).1 (fbInHand (borrow fb w).2 + hand) := by
  unfold GemSpace.borrow
  split_ifs with hmem
  · exact h.getFb (Multiset.mem_add.2 (.inl (Multiset.mem_add.2 (.inl hmem))))
  · rwa [fbInHand_none, zero_add]

/-- Handles are taken out of the tables, and what they refer to comes into the hand. -/
theorem Balanced.closeHandles (h : Balanced w hand) (p : GemHandle → Bool) :
    Balanced (closeHandles p w).1 (objsInHand (closeHandles p w).2 + hand) := by
  obtain ⟨hobjs, hfbs, hhandles, hpos⟩ := h
  refine ⟨?_, ?_, ?_, fun e he => hpos e (List.mem_of_mem_filter he)⟩
  · have hsplit : (↑(w.handles.map (·.obj)) : Multiset ℕ) =
        ↑((w.handles.filter p).map (·.obj)) + ↑((w.handles.filter fun e => !p e).map (·.obj)) := by
      rw [Multiset.coe_add, ← List.map_append]
      exact Multiset.coe_eq_coe.2 ((List.filter_append_perm p w.handles).map _).symm
    have hheld : (GemSpace.closeHandles p w).1.heldObjs +
        (objsInHand (GemSpace.closeHandles p w).2 + hand).1 = w.heldObjs + hand.1 := by
      simp only [heldObjs, GemSpace.closeHandles, objsInHand, hsplit, Prod.fst_add]
      abel
    rw [hheld]
    exact hobjs
  · rw [Prod.snd_add, objsInHand, zero_add]
    exact hfbs
  · exact hhandles.sublist (List.Sublist.map _ List.filter_sublist)

/-! ### The parts of the functions -/

theorem carries_lookup (file : DrmFile) (handle : ℕ) :
    (Prog.act (drmGemObjectLookup file handle)).Carries Balanced 0 objInHand :=
  Prog.carries_act fun _ _ hB => Balanced.lookup (by rwa [zero_add] at hB) file handle

theorem carries_putObj (obj : Option ℕ) :
    (putObj obj).Carries Balanced (objInHand obj) fun _ => 0 := by
  cases obj with
  | none => exact Prog.settles_pure (B := Balanced) ()
  | some obj =>
    refine Prog.carries_modify fun w rest hB => ?_
    rw [zero_add]
    exact hB.putObj

theorem carries_putFb (fb : Option ℕ) : (putFb fb).Carries Balanced (fbInHand fb) fun _ => 0 := by
  cases fb with
  | none => exact Prog.settles_pure (B := Balanced) ()
  | some fb =>
    refine Prog.carries_modify fun w rest hB => ?_
    rw [zero_add]
    exact hB.putFb

theorem carries_borrow (fb : ℕ) : (Prog.act (borrow fb)).Carries Balanced 0 fbInHand :=
  Prog.carries_act fun _ _ hB => Balanced.borrow (by rwa [zero_add] at hB) fb

/-- The cursor takes the object of a framebuffer in hand. -/
theorem carries_cursorSet (fb : Option ℕ) (mapped : Bool) :
    (Prog.modify fun w => fb.elim w fun fb => cursorSetRef (some (w.fbObj fb)) mapped w).Carries Balanced
      (fbInHand fb) fun _ => fbInHand fb := by
  refine Prog.carries_modify fun w rest hB => ?_
  cases fb with
  | none => exact hB
  | some fb =>
    refine hB.cursorSetGem _ fun obj hobj => ?_
    cases mapped with
    | false => exact absurd hobj (Option.not_mem_none _)
    | true =>
      obtain rfl : obj = w.fbObj fb := (Option.mem_some.1 hobj).symm
      refine Multiset.mem_add.2 (.inl (hB.fbObj_held ?_))
      rw [fbInHand_snd]
      exact Multiset.mem_add.2 (.inr (Multiset.mem_cons_self _ _))

/-- The cursor takes an object in hand. -/
theorem carries_cursorSetObj (obj : Option ℕ) (mapped : Bool) :
    (Prog.modify (cursorSetRef obj mapped)).Carries Balanced (objInHand obj) fun _ => objInHand obj := by
  refine Prog.carries_modify fun w rest hB => hB.cursorSetGem _ fun obj' hobj => ?_
  cases mapped with
  | false => exact absurd hobj (Option.not_mem_none _)
  | true =>
    obtain rfl : obj = some obj' := hobj
    rw [objInHand_fst]
    exact Multiset.mem_add.2 (.inr (Multiset.mem_cons_self _ _))

/-- All objects in hand are dropped. -/
theorem carries_putAll (objs : List ℕ) :
    (Prog.each (fun obj => putObj (some obj)) objs).Carries Balanced (objsInHand objs) fun _ => 0 := by
  induction objs with
  | nil => exact Prog.settles_pure (B := Balanced) ()
  | cons obj objs ih =>
    have hput := (carries_putObj (some obj)).frame (objsInHand objs)
    have hhand : objInHand (some obj) + objsInHand objs = objsInHand (obj :: objs) := by
      refine Prod.ext ?_ (zero_add 0)
      simp only [objInHand_fst, objsInHand, Multiset.cons_coe]
    rw [hhand] at hput
    refine hput.bind fun _ => ?_
    rw [zero_add]
    exact ih

theorem settles_cursorEnable (enable : Bool) :
    (Prog.modify (cursorEnableRef enable)).Settles Balanced := by
  refine Prog.settles_modify fun w hand hB => ?_
  cases enable with
  | true => exact hB
  | false => exact hB.cursorSetGem none (by simp)

theorem settles_lookupCursorHandle : (Prog.act lookupCursorHandle).Settles Balanced := by
  refine Prog.settles_act fun w hand hB => ?_
  unfold lookupCursorHandle
  split
  · exact hB
  · exact hB.of_eq rfl rfl rfl rfl rfl rfl rfl
  · exact hB

/-- A handle for the cursor's object, to which the cursor refers. -/
theorem settles_createCursorHandle (memory : Bool) :
    (Prog.act (createCursorHandle memory)).Settles Balanced := by
  refine Prog.settles_act fun w hand hB => ?_
  unfold createCursorHandle
  split
  · exact hB
  · exact hB.of_eq rfl rfl rfl rfl rfl rfl rfl
  · rename_i obj file hcursor _
    exact hB.createHandle (by simp [heldObjs, hcursor]) file memory

theorem settles_painterGetGemHandle (memory : Bool) : (painterGetGemHandle memory).Settles Balanced := by
  refine settles_lookupCursorHandle.bind fun handle => ?_
  cases handle with
  | none => exact settles_createCursorHandle memory
  | some handle => exact Prog.settles_pure _

theorem settles_flushPendingEvents (room : ℕ) :
    (Prog.modify (flushPendingEvents room)).Settles Balanced := by
  refine Prog.settles_modify fun w hand hB => ?_
  unfold flushPendingEvents
  cases w.drmFilp with
  | none => exact hB
  | some file => exact hB.of_eq rfl rfl rfl rfl rfl rfl rfl

theorem settles_painterSendEvent (ans : CursorEventAnswers) (event : Option CursorHandle) :
    (painterSendEvent ans event).Settles Balanced := by
  refine (Prog.settles_read fun w : GemSpace => w.drmFilp).bind fun file => Prog.settles_when ?_
  refine Prog.Settles.bind (Prog.settles_modify fun w hand hB => ?_) fun _ =>
    settles_flushPendingEvents ans.room
  exact hB.of_eq rfl rfl rfl rfl rfl rfl rfl

theorem settles_sendCursorSet (ans : CursorEventAnswers) : (sendCursorSet ans).Settles Balanced := by
  refine (Prog.settles_read fun w : GemSpace => w.cursorEventsEnabled).bind fun enabled => ?_
  exact Prog.settles_when ((settles_painterGetGemHandle ans.memory).bind (settles_painterSendEvent ans))

/-! ### The threads -/

theorem settles_gemCreate (file : DrmFile) (memory : Bool) : (gemCreate file memory).Settles Balanced := by
  refine Prog.Carries.bind (Prog.carries_act (n := objInHand) fun w rest hB => ?_) carries_putObj
  rw [zero_add] at hB
  have hnext : w.objs.next ∈ (objInHand (some w.objs.next) + rest).1 := by
    rw [objInHand_fst]
    exact Multiset.mem_cons_self _ _
  have hmade := hB.allocObj.createHandle (Multiset.mem_add.2 (.inr hnext)) file memory
  dsimp only
  split_ifs
  · exact hmade
  · rw [objInHand_none, zero_add]
    exact hmade.putObj

theorem settles_primeImport (file : DrmFile) (pages memory : Bool) :
    (primeImport file pages memory).Settles Balanced := by
  refine Prog.Carries.bind (Prog.carries_act (n := objInHand) fun w rest hB => ?_) fun obj => ?_
  · rw [zero_add] at hB
    dsimp only
    split_ifs
    · exact hB.allocObj
    · rw [objInHand_none, zero_add]
      exact hB.allocObj.putObj
  · cases obj with
    | none => exact carries_putObj none
    | some obj =>
      refine Prog.Carries.bind (Prog.carries_act (n := fun _ => objInHand (some obj))
        fun w rest hB => ?_) fun _ => carries_putObj (some obj)
      have hmem : obj ∈ (objInHand (some obj) + rest).1 := by
        rw [objInHand_fst]
        exact Multiset.mem_cons_self _ _
      exact hB.createHandle (Multiset.mem_add.2 (.inr hmem)) file memory

theorem settles_gemMmap (file : DrmFile) (handle : ℕ) : (gemMmap file handle).Settles Balanced :=
  (carries_lookup file handle).bind carries_putObj

theorem settles_fbUserFbCreate (file : DrmFile) (handle : ℕ) (fits : Bool) :
    (fbUserFbCreate file handle fits).Settles Balanced := by
  refine (carries_lookup file handle).bind fun obj => ?_
  cases obj with
  | none => exact carries_putObj none
  | some obj =>
    cases fits with
    | false => exact carries_putObj (some obj)
    | true =>
      refine Prog.carries_modify fun w rest hB => ?_
      rw [zero_add]
      exact hB.fbInit

theorem settles_fbCreateHandle (fb : ℕ) (file : DrmFile) (memory : Bool) :
    (fbCreateHandle fb file memory).Settles Balanced := by
  refine (carries_borrow fb).bind fun fb => ?_
  cases fb with
  | none => exact carries_putFb none
  | some fb =>
    refine Prog.Carries.bind (Prog.carries_act (n := fun _ => fbInHand (some fb))
      fun w rest hB => ?_) fun _ => carries_putFb (some fb)
    refine hB.createHandle (Multiset.mem_add.2 (.inl (hB.fbObj_held ?_))) file memory
    rw [fbInHand_snd]
    exact Multiset.mem_add.2 (.inr (Multiset.mem_cons_self _ _))

theorem settles_setScanoutBuffer (fb : ℕ) : (painterSetScanoutBuffer fb).Settles Balanced := by
  refine (carries_borrow fb).bind fun fb => ?_
  cases fb with
  | none => exact carries_putFb none
  | some fb =>
    -- the reference in hand and that of the painter change places
    refine Prog.Carries.bind (Prog.carries_act (n := fbInHand) fun w rest hB => ?_) carries_putFb
    obtain ⟨hobjs, hfbs, hhandles, hpos⟩ := hB
    refine ⟨?_, ?_, hhandles, hpos⟩
    · rw [fbInHand_fst] at hobjs ⊢
      exact hobjs
    · have hheld : heldFbs { w with scanoutFb := some fb } + (fbInHand w.scanoutFb + rest).2 =
          w.heldFbs + (fbInHand (some fb) + rest).2 := by
        simp only [heldFbs, fbInHand, Prod.snd_add]
        abel
      rw [hheld]
      exact hfbs

theorem settles_painterGrabpix : painterGrabpix.Settles Balanced := by
  refine Prog.Carries.bind (Prog.carries_act (n := fbInHand) fun w rest hB => ?_) carries_putFb
  rw [zero_add] at hB
  dsimp only
  cases hfb : w.scanoutFb with
  | none => rwa [fbInHand_none, zero_add]
  | some fb => exact hB.getFb (by simp [heldFbs, hfb])

theorem settles_cursorUpdate (fb : Option ℕ) (mapped : Bool) (ans : CursorEventAnswers) :
    (cursorUpdate fb mapped ans).Settles Balanced := by
  refine Prog.Carries.bind (Prog.carries_act (n := fbInHand) fun w rest hB => ?_) fun fb => ?_
  · rw [zero_add] at hB
    cases fb with
    | none => rwa [Option.elim_none, fbInHand_none, zero_add]
    | some fb => exact hB.borrow fb
  refine (carries_cursorSet fb mapped).bind fun _ => ?_
  refine ((settles_cursorEnable fb.isSome).frame _).bind fun _ => ?_
  exact ((settles_sendCursorSet ans).frame _).bind fun _ => carries_putFb fb

theorem settles_crtcCursorSet (file : DrmFile) (handle : ℕ) (mapped : Bool) (ans : CursorEventAnswers) :
    (crtcCursorSet file handle mapped ans).Settles Balanced := by
  refine Prog.Carries.bind (Prog.carries_act (n := objInHand) fun w rest hB => ?_) fun obj => ?_
  · rw [zero_add] at hB
    split_ifs
    · exact hB.lookup file handle
    · rwa [objInHand_none, zero_add]
  refine (carries_cursorSetObj obj mapped).bind fun _ => ?_
  exact (carries_putObj obj).bind fun _ => settles_sendCursorSet ans

theorem settles_gemClose (file : DrmFile) (handle : ℕ) : (gemClose file handle).Settles Balanced := by
  refine Prog.Carries.bind (Prog.carries_act (n := objsInHand) fun w rest hB => ?_) carries_putAll
  rw [zero_add] at hB
  exact hB.closeHandles _

theorem settles_gemRelease (file : DrmFile) : (gemRelease file).Settles Balanced := by
  refine Prog.Carries.bind (Prog.carries_act (n := objsInHand) fun w rest hB => ?_) carries_putAll
  rw [zero_add] at hB
  exact hB.closeHandles _

theorem settles_holdFb (fb : ℕ) : (Prog.modify (holdFb fb)).Settles Balanced := by
  refine Prog.settles_modify fun w hand hB => ?_
  unfold holdFb
  split_ifs with hmem
  · have hheld : fb ∈ w.heldFbs := Multiset.mem_add.2 (.inl hmem)
    obtain ⟨hobjs, hfbs, hhandles, hpos⟩ := hB.getFb (Multiset.mem_add.2 (.inl hheld))
    refine ⟨?_, ?_, hhandles, hpos⟩
    · rw [fbInHand_fst] at hobjs
      exact hobjs
    · have hheld : heldFbs { drmFramebufferGet fb w with holders := w.holders ++ [fb] } + hand.2 =
          (drmFramebufferGet fb w).heldFbs + (fbInHand (some fb) + hand).2 := by
        simp only [heldFbs, drmFramebufferGet, fbInHand, Prod.snd_add, ← Multiset.coe_add,
          Option.toList_some]
        abel
      rw [hheld]
      exact hfbs
  · exact hB

theorem settles_dropFb (fb : ℕ) : (Prog.modify (dropFb fb)).Settles Balanced := by
  refine Prog.settles_modify fun w hand hB => ?_
  unfold dropFb
  split_ifs with hmem
  · obtain ⟨hobjs, hfbs, hhandles, hpos⟩ := hB
    refine Balanced.putFb ⟨?_, ?_, hhandles, hpos⟩
    · rw [fbInHand_fst]
      exact hobjs
    · have hheld : heldFbs { w with holders := w.holders.erase fb } + (fbInHand (some fb) + hand).2 =
          w.heldFbs + hand.2 := by
        have hcons : (↑w.holders : Multiset ℕ) = fb ::ₘ ↑(w.holders.erase fb) :=
          Multiset.coe_eq_coe.2 (List.perm_cons_erase hmem)
        rw [heldFbs, heldFbs, hcons, fbInHand_snd, Multiset.add_cons, Multiset.cons_add,
          Multiset.cons_add]
      rw [hheld]
      exact hfbs
  · exact hB

theorem GemThread.settles {p : Prog GemSpace Unit} (h : GemThread p) : p.Settles Balanced := by
  cases h with
  | gemCreate file memory => exact settles_gemCreate file memory
  | primeImport file pages memory => exact settles_primeImport file pages memory
  | gemMmap file handle => exact settles_gemMmap file handle
  | fbUserFbCreate file handle fits => exact settles_fbUserFbCreate file handle fits
  | fbCreateHandle fb file memory => exact settles_fbCreateHandle fb file memory
  | setScanoutBuffer fb => exact settles_setScanoutBuffer fb
  | grabpix => exact settles_painterGrabpix
  | cursorUpdate fb mapped ans => exact settles_cursorUpdate fb mapped ans
  | crtcCursorSet file handle mapped ans => exact settles_crtcCursorSet file handle mapped ans
  | sendEvents room => exact settles_flushPendingEvents room
  | gemClose file handle => exact settles_gemClose file handle
  | gemRelease file => exact settles_gemRelease file
  | holdFb fb => exact settles_holdFb fb
  | dropFb fb => exact settles_dropFb fb

end

/-! ### The result -/

section

variable {w : GemSpace} {hand : Hands}

theorem drmFramebufferPut_scanout (fb : ℕ) (w : GemSpace) :
    { drmFramebufferPut fb w with scanoutFb := none } =
      drmFramebufferPut fb { w with scanoutFb := none } := by
  unfold drmFramebufferPut
  dsimp only
  split_ifs <;> rfl

/-- A disconnect drops the painter's framebuffer. -/
theorem Balanced.dropScanout (h : Balanced w hand) : Balanced (dropScanout w) hand := by
  have hput : Balanced (w.scanoutFb.elim w fun fb =>
      { drmFramebufferPut fb w with scanoutFb := none }) hand := by
    cases hfb : w.scanoutFb with
    | none => exact h
    | some fb =>
      obtain ⟨hobjs, hfbs, hhandles, hpos⟩ := h
      rw [Option.elim_some, drmFramebufferPut_scanout]
      refine Balanced.putFb ⟨?_, ?_, hhandles, hpos⟩
      · rw [fbInHand_fst]
        exact hobjs
      · have hheld : heldFbs { w with scanoutFb := none } + (fbInHand (some fb) + hand).2 =
            w.heldFbs + hand.2 := by
          simp only [heldFbs, hfb, fbInHand, Prod.snd_add, Option.toList_none, Multiset.coe_nil]
          abel
        rw [hheld]
        exact hfbs
  exact hput.of_eq rfl rfl rfl rfl rfl rfl rfl

/-- Each step keeps the balance of the references and of what the threads have in hand. -/
theorem Step.custody {w' : GemSpace} {ts ts' : List (Prog GemSpace Unit)} {a : Action}
    {hands : List Hands} (h : Step (w, ts) a (w', ts')) (hc : Custody Balanced w ts hands) :
    ∃ hands', Custody Balanced w' ts' hands' := by
  cases h with
  | thread hpool => exact PoolStep.custody (fun p hp => hp.settles) hpool hc
  | disconnect file _ _ => exact ⟨hands, hc.1, hc.2.dropScanout⟩
  | dropCursor _ =>
    have hcursor : Balanced (cursorEnableRef false w) hands.sum := hc.2.cursorSetGem none (by simp)
    exact ⟨hands, hc.1, hcursor.of_eq rfl rfl rfl rfl rfl rfl rfl⟩
  | connect _ _ | enableCursorEvents _ | dropEvents _ | dropFile _ | disconnected _ =>
    exact ⟨hands, hc.1, hc.2.of_eq rfl rfl rfl rfl rfl rfl rfl⟩

theorem run_custody {ts : List (Prog GemSpace Unit)} {as : List Action}
    (h : Run Step (init, []) as (w, ts)) : ∃ hands, Custody Balanced w ts hands :=
  h.invariant (I := fun c => ∃ hands, Custody Balanced c.1 c.2 hands)
    (fun _ _ _ ⟨_, hc⟩ hstep => hstep.custody hc) ⟨[], List.Forall₂.nil, balanced_init⟩

/-- **Every reference is accounted for.** What handles, framebuffers, the cursor, the painter and the DRM core
refer to is there, and nothing goes twice; handles are distinct in their file and not 0. When no thread is
under way, the counts are those of the references, and what is gone is what nobody refers to. -/
theorem gem_refs_balanced {ts : List (Prog GemSpace Unit)} {as : List Action}
    (h : Run Step (init, []) as (w, ts)) :
    (∀ obj ∈ w.heldObjs, obj < w.objs.next ∧ obj ∉ w.objs.gone) ∧
      (∀ fb ∈ w.heldFbs, fb < w.fbs.next ∧ fb ∉ w.fbs.gone) ∧
      (w.objs.gone.Nodup ∧ w.fbs.gone.Nodup) ∧
      ((w.handles.map fun e => (e.file, e.handle)).Nodup ∧ ∀ e ∈ w.handles, 1 ≤ e.handle) ∧
      ((∀ p ∈ ts, p = .pure ()) →
        (∀ obj, w.objs.count obj = w.heldObjs.count obj) ∧
        (∀ fb, w.fbs.count fb = w.heldFbs.count fb) ∧
        (∀ obj < w.objs.next, obj ∈ w.objs.gone ↔ obj ∉ w.heldObjs) ∧
        ∀ fb < w.fbs.next, fb ∈ w.fbs.gone ↔ fb ∉ w.heldFbs) := by
  obtain ⟨hands, hc⟩ := run_custody h
  obtain ⟨hobjs, hfbs, hhandles, hpos⟩ := hc.2
  refine ⟨fun obj hobj => ?_, fun fb hfb => ?_, ⟨hobjs.gone_nodup, hfbs.gone_nodup⟩, ⟨hhandles, hpos⟩,
    fun hover => ?_⟩
  · have hmem : obj ∈ w.heldObjs + hands.sum.1 := Multiset.mem_add.2 (.inl hobj)
    exact ⟨hobjs.lt_next obj hmem, hobjs.not_gone hmem⟩
  · have hmem : fb ∈ w.heldFbs + hands.sum.2 := Multiset.mem_add.2 (.inl hfb)
    exact ⟨hfbs.lt_next fb hmem, hfbs.not_gone hmem⟩
  · have hB := hc.over hover
    have hobjs : w.objs.Sound w.heldObjs := by simpa using hB.objs
    have hfbs : w.fbs.Sound w.heldFbs := by simpa using hB.fbs
    exact ⟨hobjs.count_eq, hfbs.count_eq,
      fun obj hlt => ⟨fun hgone hmem => hobjs.not_gone hmem hgone, hobjs.gone hlt⟩,
      fun fb hlt => ⟨fun hgone hmem => hfbs.not_gone hmem hgone, hfbs.gone hlt⟩⟩

end

/-- A thread that starts among others, and runs to its end. -/
theorem run_thread {p : Prog GemSpace Unit} (hp : GemThread p) (w : GemSpace)
    (ts : List (Prog GemSpace Unit)) :
    ∃ as, Run Step (w, ts) as ((p.exec w).1, ts ++ [.pure ()]) := by
  obtain ⟨n, hexec⟩ := @PoolStep.exec _ GemThread p w ts []
  have hpool := (Run.one (@PoolStep.start _ GemThread w ts p hp)).append hexec
  exact ⟨_, hpool.map id (fun _ => Action.thread) fun _ _ _ hstep => .thread hstep⟩

/-- An object that a client made is there; an import without memory for its pages is gone. -/
theorem gem_refs_balanced_import : ∃ as w ts, Run Step (init, []) as (w, ts) ∧
    0 ∉ w.objs.gone ∧ w.objs.count 0 = 1 ∧ 1 ∈ w.objs.gone := by
  obtain ⟨as, hcreate⟩ := run_thread (.gemCreate 1 true) init []
  obtain ⟨bs, himport⟩ := run_thread (.primeImport 1 false true) ((gemCreate 1 true).exec init).1 [.pure ()]
  have hrun := hcreate.append himport
  have hheld : ((primeImport 1 false true).exec ((gemCreate 1 true).exec init).1).1.heldObjs = {0} ∧
      ((primeImport 1 false true).exec ((gemCreate 1 true).exec init).1).1.objs.next = 2 := by
    simp [gemCreate, primeImport, drmGemHandleCreate, drmGemObjectPut, putObj, heldObjs,
      freeHandle_ne_zero, init, RefTable.alloc, RefTable.get, RefTable.put, RefTable.empty, RefTable.live]
  obtain ⟨hthere, -, -, -, hover⟩ := gem_refs_balanced hrun
  obtain ⟨hcount, -, hgone, -⟩ := hover (by simp)
  refine ⟨_, _, _, hrun, (hthere 0 ?_).2, ?_, (hgone 1 ?_).2 ?_⟩
  · rw [hheld.1]
    exact Multiset.mem_singleton_self 0
  · rw [hcount, hheld.1]
    exact Multiset.count_singleton_self 0
  · rw [hheld.2]
    exact Nat.one_lt_two
  · rw [hheld.1]
    simp

end GemSpace

end Evdi
