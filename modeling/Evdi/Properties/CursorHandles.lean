import Evdi.Foundations.Interference
import Evdi.Properties.GemCustody

/-!
# The handles of cursor events

A `CURSOR_SET` event names the cursor's object by a handle of the client that is connected, which the driver
looks up in the handle table of the client's file, or makes there.  The event may be sent much later.

* `Plain`: the sections that have nothing to do with the events;
* `Made`: what the threads may rely on of the handle in an event;
* `Tells`, `Later`: what a section does to the events, and what any step does to what threads rely on;
* **`cursor_handles_valid`**: a handle that was told names the object, until the client closes it, if the client
  is still the same;
* **`null_file_never`**: when the driver may look at the handle table of no file.
-/

namespace Evdi

open Atomic Transition

namespace GemSpace

/-! ### What sections do to the events -/

/-- What the events are made of, and what they told. -/
def view (w : GemSpace) :
    List ToldHandle × List (Option CursorHandle) × Bool × Option DrmFile × ℕ × Bool × Teardown :=
  (w.told, w.pending, w.nullFile, w.drmFilp, w.connects, w.cursorEventsEnabled, w.teardown)

/-- A handle that is in its table, or was closed. -/
def Known (w : GemSpace) (e : GemHandle) : Prop := e ∈ w.handles ∨ e ∈ w.closed

/-- The handle of an event is in its table, or was closed; and the table is that of the client, unless there
was a connect since. -/
structure Made (w : GemSpace) (c : CursorHandle) : Prop where
  known : w.Known c.entry
  connects_le : c.connects ≤ w.connects
  file_eq : c.connects = w.connects → ∀ file, w.drmFilp = some file → c.file = file

/-- What any number of steps do to what threads rely on: no handle is taken away without being closed, and
without a connect there is no other client. -/
structure Later (w w' : GemSpace) : Prop where
  known : ∀ e, w.Known e → w'.Known e
  connects_le : w.connects ≤ w'.connects
  drmFilp : w'.connects = w.connects → w'.drmFilp = w.drmFilp ∨ w'.drmFilp = none

/-- What a section of a thread does: events are made with handles of the client, and sent to the client. -/
structure Tells (w w' : GemSpace) : Prop where
  known : ∀ e, w.Known e → w'.Known e
  connects : w'.connects = w.connects
  drmFilp : w'.drmFilp = w.drmFilp
  teardown : w'.teardown = w.teardown
  pending : ∀ c, some c ∈ w'.pending → some c ∈ w.pending ∨ w'.Made c
  told : ∀ t ∈ w'.told, t ∈ w.told ∨
    some t.cursor ∈ w.pending ∧ t.connects = w.connects ∧ w.drmFilp = some t.file
  nullFile : w.drmFilp.isSome → w'.nullFile = w.nullFile

/-- A section that has nothing to do with the events, and takes no handle away without closing it. -/
def Plain (f : GemSpace → GemSpace) : Prop :=
  ∀ w, (f w).view = w.view ∧ ∀ e, w.Known e → (f w).Known e

section

variable {w w' w'' : GemSpace}

theorem Later.trans (h : Later w w') (h' : Later w' w'') : Later w w'' where
  known := fun e he => h'.known e (h.known e he)
  connects_le := h.connects_le.trans h'.connects_le
  drmFilp := by
    intro heq
    have hle := h.connects_le
    have hle' := h'.connects_le
    rcases h'.drmFilp (by omega) with hsame | hnone
    · rw [hsame]
      exact h.drmFilp (by omega)
    · exact .inr hnone

theorem Made.later {c : CursorHandle} (hc : w.Made c) (h : Later w w') : w'.Made c where
  known := h.known _ hc.known
  connects_le := hc.connects_le.trans h.connects_le
  file_eq := by
    intro heq file hfile
    have hle := hc.connects_le
    have hle' := h.connects_le
    rcases h.drmFilp (by omega) with hsame | hnone
    · exact hc.file_eq (by omega) file (hsame ▸ hfile)
    · rw [hnone] at hfile
      exact absurd hfile.symm (Option.some_ne_none _)

theorem Tells.later (h : Tells w w') : Later w w' :=
  ⟨h.known, h.connects.ge, fun _ => .inl h.drmFilp⟩

theorem tells_refl (w : GemSpace) : Tells w w :=
  ⟨fun _ => id, rfl, rfl, rfl, fun _ => .inl, fun _ => .inl, fun _ => rfl⟩

/-- A section that leaves the events alone. -/
theorem tells_of_view (hview : w'.view = w.view) (hknown : ∀ e, w.Known e → w'.Known e) : Tells w w' := by
  simp only [view, Prod.mk.injEq] at hview
  obtain ⟨htold, hpending, hnull, hfile, hconnects, -, hteardown⟩ := hview
  exact ⟨hknown, hconnects, hfile, hteardown, fun c hc => .inl (hpending ▸ hc), fun t ht => .inl (htold ▸ ht),
    fun _ => hnull⟩

theorem Plain.tells {f : GemSpace → GemSpace} (hf : Plain f) (w : GemSpace) : Tells w (f w) :=
  tells_of_view (hf w).1 (hf w).2

end

theorem plain_id : Plain id := fun _ => ⟨rfl, fun _ => id⟩

theorem plain_objPut (obj : ℕ) : Plain (drmGemObjectPut obj) := fun _ => ⟨rfl, fun _ => id⟩

theorem plain_fbGet (fb : ℕ) : Plain (drmFramebufferGet fb) := fun _ => ⟨rfl, fun _ => id⟩

theorem plain_fbPut (fb : ℕ) : Plain (drmFramebufferPut fb) := by
  intro w
  unfold drmFramebufferPut
  dsimp only
  split_ifs
  · exact ⟨rfl, fun _ => id⟩
  · exact ⟨rfl, fun _ => id⟩

theorem plain_lookup (file : DrmFile) (handle : ℕ) :
    Plain fun w => (drmGemObjectLookup file handle w).1 := by
  intro w
  unfold drmGemObjectLookup
  dsimp only
  split
  · exact ⟨rfl, fun _ => id⟩
  · exact ⟨rfl, fun _ => id⟩

theorem plain_handleCreate (file : DrmFile) (obj : ℕ) (memory : Bool) :
    Plain fun w => (drmGemHandleCreate file obj memory w).1 := by
  intro w
  unfold drmGemHandleCreate
  split_ifs
  · exact ⟨rfl, fun e he => Or.imp_left (fun h => List.mem_append_left _ h) he⟩
  · exact ⟨rfl, fun _ => id⟩

theorem plain_closeHandles (p : GemHandle → Bool) : Plain fun w => (closeHandles p w).1 := by
  intro w
  refine ⟨rfl, fun e he => ?_⟩
  rcases he with he | he
  · cases hp : p e with
    | true => exact .inr (List.mem_append_right _ (List.mem_filter.2 ⟨he, hp⟩))
    | false => exact .inl (List.mem_filter.2 ⟨he, by rw [hp]; rfl⟩)
  · exact .inr (List.mem_append_left _ he)

theorem cursorSetGemRef_eq (obj : Option ℕ) (w : GemSpace) :
    ∃ objs, cursorSetGemRef obj w = { w with objs := objs, cursor := obj } := by
  cases obj with
  | none =>
    simp only [cursorSetGemRef, Option.elim_none]
    cases w.cursor <;> exact ⟨_, rfl⟩
  | some obj =>
    simp only [cursorSetGemRef, Option.elim_some]
    cases w.cursor <;> exact ⟨_, rfl⟩

theorem plain_cursorSetGemRef (obj : Option ℕ) : Plain (cursorSetGemRef obj) := by
  intro w
  obtain ⟨objs, heq⟩ := cursorSetGemRef_eq obj w
  rw [heq]
  exact ⟨rfl, fun _ => id⟩

theorem plain_borrow (fb : ℕ) : Plain fun w => (borrow fb w).1 := by
  intro w
  unfold borrow
  dsimp only
  split_ifs
  · exact plain_fbGet fb w
  · exact plain_id w

/-- No client, and no cursor events. -/
def Off (w : GemSpace) : Prop :=
  w.drmFilp = none ∧ w.cursorEventsEnabled = false ∧ w.nullFile = false

/-- A thread makes and sends events as it should, whatever the others do, and tells nothing while there is
no client. -/
structure Tame {α : Type} (p : Prog GemSpace α) : Prop where
  relies : ∀ w, p.Relies Later Tells (fun _ _ => True) w
  off : p.Preserves Off fun _ t => Off t

section

variable {α β : Type}

theorem Plain.off {f : GemSpace → GemSpace} (hf : Plain f) {w : GemSpace} (hw : Off w) : Off (f w) := by
  have hview := (hf w).1
  simp only [view, Prod.mk.injEq] at hview
  obtain ⟨-, -, hnull, hfile, -, henabled, -⟩ := hview
  exact ⟨hfile.trans hw.1, henabled.trans hw.2.1, hnull.trans hw.2.2⟩

theorem tame_pure (a : α) : Tame (Prog.pure a : Prog GemSpace α) := ⟨fun _ => trivial, trivial⟩

theorem tame_act {f : GemSpace → GemSpace × α} (hf : Plain fun w => (f w).1) : Tame (Prog.act f) :=
  ⟨fun _ => Prog.relies_act fun w _ => ⟨hf.tells w, trivial⟩, Prog.preserves_act fun _ => hf.off⟩

theorem tame_modify {f : GemSpace → GemSpace} (hf : Plain f) : Tame (Prog.modify f) :=
  ⟨fun _ => Prog.relies_modify fun w _ => ⟨hf.tells w, trivial⟩, Prog.preserves_modify fun _ => hf.off⟩

theorem Tame.bind {p : Prog GemSpace α} {k : α → Prog GemSpace β} (hp : Tame p) (hk : ∀ a, Tame (k a)) :
    Tame (p >>= k) where
  relies := fun w => Prog.Relies.bind ((hp.relies w).mono fun a t _ => (hk a).relies t)
  off := hp.off.bind fun a => (hk a).off

theorem tame_each {f : β → Prog GemSpace Unit} (hf : ∀ b, Tame (f b)) (bs : List β) :
    Tame (Prog.each f bs) := by
  induction bs with
  | nil => exact tame_pure ()
  | cons b bs ih => exact (hf b).bind fun _ => ih

end

theorem tame_putObj (obj : Option ℕ) : Tame (putObj obj) := by
  cases obj with
  | none => exact tame_pure ()
  | some obj => exact tame_modify (plain_objPut obj)

theorem tame_putFb (fb : Option ℕ) : Tame (putFb fb) := by
  cases fb with
  | none => exact tame_pure ()
  | some fb => exact tame_modify (plain_fbPut fb)

theorem tame_closeHandles (p : GemHandle → Bool) :
    Tame (Prog.act (closeHandles p) >>= Prog.each fun obj => putObj (some obj)) :=
  (tame_act (plain_closeHandles p)).bind (tame_each fun _ => tame_putObj _)

theorem plain_fbInit (obj : ℕ) : Plain (fbInit obj) := fun _ => ⟨rfl, fun _ => id⟩

theorem plain_gemCreate (file : DrmFile) (memory : Bool) : Plain fun w =>
    (if (drmGemHandleCreate file w.objs.next memory { w with objs := w.objs.alloc }).2 ≠ 0 then
      ((drmGemHandleCreate file w.objs.next memory { w with objs := w.objs.alloc }).1, some w.objs.next)
    else (drmGemObjectPut w.objs.next
      (drmGemHandleCreate file w.objs.next memory { w with objs := w.objs.alloc }).1, none)).1 := by
  intro w
  have hcreate := plain_handleCreate file w.objs.next memory { w with objs := w.objs.alloc }
  dsimp only at hcreate ⊢
  split_ifs
  · exact hcreate
  · exact ⟨hcreate.1, hcreate.2⟩

theorem plain_holdFb (fb : ℕ) : Plain (holdFb fb) := by
  intro w
  unfold holdFb
  split_ifs <;> exact ⟨rfl, fun _ => id⟩

theorem plain_dropFb (fb : ℕ) : Plain (dropFb fb) := by
  intro w
  unfold dropFb
  split_ifs
  · have hput := plain_fbPut fb { w with holders := w.holders.erase fb }
    exact ⟨hput.1, hput.2⟩
  · exact plain_id w

/-! ### The making of an event -/

theorem gemObjectHandleLookup_none {file : DrmFile} {obj : ℕ} {w : GemSpace}
    (h : ∀ e ∈ w.handles, e.file = file → e.obj ≠ obj) : gemObjectHandleLookup file obj w = 0 := by
  have hfind : (w.idr file).find? (·.obj == obj) = none := by
    rw [List.find?_eq_none]
    intro e he heq
    obtain ⟨he, hfile⟩ := List.mem_filter.1 ((List.mem_insertionSort _).1 he)
    exact h e he (beq_iff_eq.1 hfile) (beq_iff_eq.1 heq)
  rw [gemObjectHandleLookup, hfind]

/-- The lookup finds the lowest handle of the object. -/
theorem gemObjectHandleLookup_some {file : DrmFile} {obj : ℕ} {w : GemSpace} {e : GemHandle}
    (he : e ∈ w.handles) (hfile : e.file = file) (hobj : e.obj = obj) :
    ∃ e' ∈ w.handles, e'.file = file ∧ e'.obj = obj ∧ gemObjectHandleLookup file obj w = e'.handle ∧
      ∀ e'' ∈ w.handles, e''.file = file → e''.obj = obj → e'.handle ≤ e''.handle := by
  have hidr : ∀ e, e ∈ w.idr file ↔ e ∈ w.handles ∧ e.file = file := fun e => by
    rw [idr, List.mem_insertionSort, List.mem_filter, beq_iff_eq]
  cases hfind : (w.idr file).find? (·.obj == obj) with
  | none =>
    have hno := List.find?_eq_none.1 hfind e ((hidr e).2 ⟨he, hfile⟩)
    exact absurd (beq_iff_eq.2 hobj) hno
  | some e' =>
    obtain ⟨hobj', before, later, hsplit, hbefore⟩ := List.find?_eq_some_iff_append.1 hfind
    obtain ⟨hmem, hfile'⟩ := (hidr e').1 (List.mem_of_find?_eq_some hfind)
    refine ⟨e', hmem, hfile', beq_iff_eq.1 hobj', by rw [gemObjectHandleLookup, hfind],
      fun e'' he'' hfile'' hobj'' => ?_⟩
    have hsorted : (w.idr file).Pairwise (·.handle ≤ ·.handle) := List.pairwise_insertionSort _ _
    rw [hsplit] at hsorted
    have hin := (hidr e'').2 ⟨he'', hfile''⟩
    rw [hsplit] at hin
    rcases List.mem_append.1 hin with hin | hin
    · simpa [hobj''] using hbefore e'' hin
    · rcases List.mem_cons.1 hin with rfl | hin
      · exact le_rfl
      · exact (List.pairwise_cons.1 (List.pairwise_append.1 hsorted).2.1).1 e'' hin

/-- A handle that is found is one of the file's for the object. -/
theorem gemObjectHandleLookup_mem {file : DrmFile} {obj : ℕ} {w : GemSpace}
    (h : gemObjectHandleLookup file obj w ≠ 0) :
    ⟨file, gemObjectHandleLookup file obj w, obj⟩ ∈ w.handles := by
  by_cases hex : ∃ e ∈ w.handles, e.file = file ∧ e.obj = obj
  · obtain ⟨e, he, hfile, hobj⟩ := hex
    obtain ⟨e', he', rfl, rfl, hlookup, -⟩ := gemObjectHandleLookup_some he hfile hobj
    rw [hlookup]
    exact he'
  · exact absurd (gemObjectHandleLookup_none fun e he hf ho => hex ⟨e, he, hf, ho⟩) h

/-- The table of a file that is not there is looked at, and nothing else happens. -/
theorem tells_nullFile {w : GemSpace} (h : w.drmFilp = none) : Tells w { w with nullFile := true } :=
  ⟨fun _ => id, rfl, rfl, rfl, fun _ => .inl, fun _ => .inl, fun hfile => by simp [h] at hfile⟩

/-- The lookup. -/
theorem lookupCursorHandle_tells (w : GemSpace) : Tells w (lookupCursorHandle w).1 ∧
    ∀ c, (lookupCursorHandle w).2 = some c → (lookupCursorHandle w).1.Made c := by
  unfold lookupCursorHandle
  split
  · exact ⟨tells_refl w, fun _ h => absurd h.symm (Option.some_ne_none _)⟩
  · exact ⟨tells_nullFile ‹_›, fun _ h => absurd h.symm (Option.some_ne_none _)⟩
  · rename_i obj file _ hfile
    refine ⟨tells_refl w, fun c hc => ?_⟩
    dsimp only at hc ⊢
    split_ifs at hc with hne
    obtain rfl := Option.some.inj hc
    refine ⟨.inl (gemObjectHandleLookup_mem hne), le_rfl, fun _ file' hfile' => ?_⟩
    exact Option.some.inj (hfile.symm.trans hfile')

/-- The creation. -/
theorem createCursorHandle_tells (memory : Bool) (w : GemSpace) :
    Tells w (createCursorHandle memory w).1 ∧
      ∀ c, (createCursorHandle memory w).2 = some c → (createCursorHandle memory w).1.Made c := by
  unfold createCursorHandle
  split
  · exact ⟨tells_refl w, fun _ h => absurd h.symm (Option.some_ne_none _)⟩
  · exact ⟨tells_nullFile ‹_›, fun _ h => absurd h.symm (Option.some_ne_none _)⟩
  · rename_i obj file _ hfile
    refine ⟨(plain_handleCreate file obj memory).tells w, fun c hc => ?_⟩
    cases memory with
    | false => simp [drmGemHandleCreate] at hc
    | true =>
      simp only [drmGemHandleCreate, if_true, ne_eq, w.freeHandle_ne_zero file, not_false_eq_true] at hc
      obtain rfl := Option.some.inj hc
      refine ⟨.inl (List.mem_append_right _ (List.mem_singleton_self _)), le_rfl, fun _ file' hfile' => ?_⟩
      exact Option.some.inj (hfile.symm.trans hfile')

/-- **The handle of an event**, however others run between the lookup and the creation. -/
theorem painterGetGemHandle_relies (memory : Bool) (w : GemSpace) :
    (painterGetGemHandle memory).Relies Later Tells (fun handle t => ∀ c, handle = some c → t.Made c) w := by
  refine Prog.Relies.bind (Prog.relies_act fun t _ => ⟨(lookupCursorHandle_tells t).1, ?_⟩)
  have hmade := (lookupCursorHandle_tells t).2
  generalize (lookupCursorHandle t).2 = handle at hmade ⊢
  cases handle with
  | some handle => exact hmade
  | none => exact Prog.relies_act fun t' _ => createCursorHandle_tells memory t'

/-! ### The sending -/

theorem addEventToPendingList_tells {squash : Bool} {event : Option CursorHandle} {w : GemSpace}
    (h : ∀ c, event = some c → w.Made c) : Tells w (addEventToPendingList squash event w) where
  known := fun _ => id
  connects := rfl
  drmFilp := rfl
  teardown := rfl
  pending := by
    intro c hc
    rcases List.mem_append.1 hc with hc | hc
    · refine .inl ?_
      split_ifs at hc
      · exact List.mem_of_mem_dropLast hc
      · exact hc
    · obtain ⟨hknown, hle, hfile⟩ := h c (List.mem_singleton.1 hc).symm
      exact .inr ⟨hknown, hle, hfile⟩
  told := fun _ => .inl
  nullFile := fun _ => rfl

theorem flushPendingEvents_tells (room : ℕ) (w : GemSpace) : Tells w (flushPendingEvents room w) := by
  unfold flushPendingEvents
  split
  · exact tells_refl w
  · rename_i file hfile
    refine ⟨fun _ => id, rfl, rfl, rfl, fun c hc => .inl (List.mem_of_mem_drop hc), fun t ht => ?_, fun _ => rfl⟩
    rcases List.mem_append.1 ht with ht | ht
    · exact .inl ht
    · obtain ⟨event, hevent, htold⟩ := List.mem_filterMap.1 ht
      obtain ⟨c, rfl, rfl⟩ := Option.map_eq_some_iff.1 htold
      exact .inr ⟨List.mem_of_mem_take hevent, rfl, hfile⟩

theorem flushPendingEvents_off {room : ℕ} {w : GemSpace} (hw : Off w) : Off (flushPendingEvents room w) := by
  rw [flushPendingEvents, hw.1]
  exact hw

theorem tame_flushPendingEvents (room : ℕ) : Tame (Prog.modify (flushPendingEvents room)) :=
  ⟨fun _ => Prog.relies_modify fun t _ => ⟨flushPendingEvents_tells room t, trivial⟩,
    Prog.preserves_modify fun _ => flushPendingEvents_off⟩

/-- **An event is sent**, with a handle that was made before. -/
theorem painterSendEvent_relies (ans : CursorEventAnswers) {event : Option CursorHandle} {w : GemSpace}
    (h : ∀ c, event = some c → w.Made c) :
    (painterSendEvent ans event).Relies Later Tells (fun _ _ => True) w := by
  refine Prog.Relies.bind (Prog.relies_read fun t ht => ⟨tells_refl t, ?_⟩)
  refine Prog.relies_when (fun _ => ?_) fun _ => trivial
  refine Prog.Relies.bind (Prog.relies_modify fun t' ht' => ?_)
  have hmade : ∀ c, event = some c → t'.Made c := fun c hc => (h c hc).later (ht.trans ht')
  exact ⟨addEventToPendingList_tells hmade, (tame_flushPendingEvents ans.room).relies _⟩

theorem tame_sendCursorSet (ans : CursorEventAnswers) : Tame (sendCursorSet ans) where
  relies := by
    intro w
    refine Prog.Relies.bind (Prog.relies_read fun t _ => ⟨tells_refl t, ?_⟩)
    refine Prog.relies_when (fun _ => ?_) fun _ => trivial
    refine Prog.Relies.bind ((painterGetGemHandle_relies ans.memory _).mono fun handle t' hmade => ?_)
    exact painterSendEvent_relies ans hmade
  off := by
    refine Prog.preserves_read_bind (fun _ => id) fun w hw => ?_
    rw [hw.2.1]
    exact Prog.preserves_pure ()

/-! ### The threads -/

theorem GemThread.tame {p : Prog GemSpace Unit} (h : GemThread p) : Tame p := by
  cases h with
  | gemCreate file memory => exact (tame_act (plain_gemCreate file memory)).bind tame_putObj
  | primeImport file pages memory =>
    refine Tame.bind (tame_act (fun w => ?_)) fun obj => ?_
    · cases pages <;> exact ⟨rfl, fun _ => id⟩
    · cases obj with
      | none => exact tame_pure ()
      | some obj =>
        exact (tame_act (plain_handleCreate file obj memory)).bind fun _ => tame_putObj _
  | gemMmap file handle => exact (tame_act (plain_lookup file handle)).bind tame_putObj
  | fbUserFbCreate file handle fits =>
    refine (tame_act (plain_lookup file handle)).bind fun obj => ?_
    cases obj with
    | none => exact tame_pure ()
    | some obj =>
      cases fits with
      | false => exact tame_putObj (some obj)
      | true => exact tame_modify (plain_fbInit obj)
  | fbCreateHandle fb file memory =>
    refine (tame_act (plain_borrow fb)).bind fun fb => ?_
    cases fb with
    | none => exact tame_pure ()
    | some fb =>
      refine Tame.bind (tame_act (fun w => ?_)) fun _ => tame_putFb _
      exact plain_handleCreate file (w.fbObj fb) memory w
  | setScanoutBuffer fb =>
    refine (tame_act (plain_borrow fb)).bind fun fb => ?_
    cases fb with
    | none => exact tame_pure ()
    | some fb => exact (tame_act (fun _ => ⟨rfl, fun _ => id⟩)).bind tame_putFb
  | grabpix =>
    refine Tame.bind (tame_act (fun w => ?_)) tame_putFb
    dsimp only
    cases w.scanoutFb with
    | none => exact plain_id w
    | some fb => exact plain_fbGet fb w
  | cursorUpdate fb mapped ans =>
    refine Tame.bind (tame_act (fun w => ?_)) fun fb => ?_
    · cases fb with
      | none => exact plain_id w
      | some fb => exact plain_borrow fb w
    refine Tame.bind (tame_modify (fun w => ?_)) fun _ => ?_
    · cases fb with
      | none => exact plain_id w
      | some fb => exact plain_cursorSetGemRef _ w
    refine Tame.bind (tame_modify (fun w => ?_)) fun _ => ?_
    · cases fb with
      | none => exact plain_cursorSetGemRef none w
      | some fb => exact plain_id w
    exact (tame_sendCursorSet ans).bind fun _ => tame_putFb fb
  | crtcCursorSet file handle mapped ans =>
    refine Tame.bind (tame_act (fun w => ?_)) fun obj => ?_
    · split_ifs
      · exact plain_lookup file handle w
      · exact plain_id w
    refine (tame_modify (fun w => plain_cursorSetGemRef _ w)).bind fun _ => ?_
    exact (tame_putObj obj).bind fun _ => tame_sendCursorSet ans
  | sendEvents room => exact tame_flushPendingEvents room
  | gemClose file handle => exact tame_closeHandles _
  | gemRelease file => exact tame_closeHandles _
  | holdFb fb => exact tame_modify (plain_holdFb fb)
  | dropFb fb => exact tame_modify (plain_dropFb fb)

/-! ### The handles that were told -/

/-- A part of a disconnect that leaves the handles and the events as they are. -/
structure DropsOther (w w' : GemSpace) (teardown : Teardown) : Prop where
  handles : w'.handles = w.handles
  closed : w'.closed = w.closed
  view : w'.view = { w with teardown := teardown }.view

theorem dropScanout_dropsOther (w : GemSpace) : DropsOther w (dropScanout w) .scanoutDropped := by
  unfold dropScanout
  cases w.scanoutFb with
  | none => exact ⟨rfl, rfl, rfl⟩
  | some fb =>
    dsimp only [Option.elim_some]
    unfold drmFramebufferPut
    dsimp only
    split_ifs
    · exact ⟨rfl, rfl, rfl⟩
    · exact ⟨rfl, rfl, rfl⟩

theorem dropCursor_dropsOther (w : GemSpace) :
    DropsOther w { cursorEnableRef false w with teardown := .cursorDropped } .cursorDropped := by
  obtain ⟨objs, heq⟩ := cursorSetGemRef_eq none w
  rw [cursorEnableRef, if_neg Bool.false_ne_true, heq]
  exact ⟨rfl, rfl, rfl⟩

/-- The handles of pending events are good; those that were told are in their tables, or closed, and the
table is that of the file that was told, unless there was a connect in between. -/
structure ToldMade (w : GemSpace) : Prop where
  pending : ∀ c, some c ∈ w.pending → w.Made c
  told : ∀ t ∈ w.told, w.Known t.cursor.entry ∧ (t.cursor.connects = t.connects → t.cursor.file = t.file)

section

variable {w w' : GemSpace} {ts ts' : List (Prog GemSpace Unit)} {a : Action}

theorem ToldMade.tells (hw : w.ToldMade) (h : Tells w w') : w'.ToldMade where
  pending := by
    intro c hc
    rcases h.pending c hc with hc | hc
    · exact (hw.pending c hc).later h.later
    · exact hc
  told := by
    intro t ht
    rcases h.told t ht with ht | ⟨hc, hconnects, hfile⟩
    · exact ⟨h.known _ (hw.told t ht).1, (hw.told t ht).2⟩
    · have hmade := hw.pending _ hc
      exact ⟨h.known _ hmade.known, fun heq => hmade.file_eq (heq.trans hconnects) _ hfile⟩

/-- No event is made or sent. -/
theorem ToldMade.later (hw : w.ToldMade) (h : Later w w') (hpending : w'.pending ⊆ w.pending)
    (htold : w'.told = w.told) : w'.ToldMade where
  pending := fun c hc => (hw.pending c (hpending hc)).later h
  told := by
    intro t ht
    rw [htold] at ht
    exact ⟨h.known _ (hw.told t ht).1, (hw.told t ht).2⟩

/-- The threads, however others run between their sections, do what they should. -/
def AllRely (w : GemSpace) (ts : List (Prog GemSpace Unit)) : Prop :=
  ∀ p ∈ ts, p.Relies Later Tells (fun _ _ => True) w

theorem AllRely.later (hts : AllRely w ts) (h : Later w w') : AllRely w' ts := fun p hp =>
  (hts p hp).rely (fun _ _ _ h h' => h.trans h') (fun _ _ _ _ _ => trivial) h

theorem pool_tells (h : PoolStep GemThread (w, ts) () (w', ts')) (hts : AllRely w ts) :
    Tells w w' ∧ AllRely w' ts' :=
  h.relies tells_refl (fun _ _ => Tells.later) (fun _ _ _ => Later.trans)
    (fun _ hp => (GemThread.tame hp).relies) hts

theorem DropsOther.toldMade {teardown : Teardown} (h : DropsOther w w' teardown) (hw : w.ToldMade)
    (hts : AllRely w ts) : w'.ToldMade ∧ AllRely w' ts := by
  have hview := h.view
  simp only [GemSpace.view, Prod.mk.injEq] at hview
  obtain ⟨htold, hpending, -, hfile, hconnects, -⟩ := hview
  have hlater : Later w w' :=
    ⟨fun e he => by rwa [Known, h.handles, h.closed], hconnects.ge, fun _ => .inl hfile⟩
  exact ⟨hw.later hlater (by rw [hpending]; exact List.Subset.refl _) htold, hts.later hlater⟩

theorem later_dropFile (w : GemSpace) : Later w { w with drmFilp := none, teardown := .fileDropped } :=
  ⟨fun _ => id, le_rfl, fun _ => .inr rfl⟩

/-- **Each step** keeps what is known of the handles of events, and what the threads rely on. -/
theorem Step.toldMade (h : Step (w, ts) a (w', ts')) (hw : w.ToldMade) (hts : AllRely w ts) :
    w'.ToldMade ∧ AllRely w' ts' := by
  cases h with
  | thread hpool =>
    obtain ⟨htells, hts'⟩ := pool_tells hpool hts
    exact ⟨hw.tells htells, hts'⟩
  | connect file _ =>
    have hlater : Later w { w with drmFilp := some file, connects := w.connects + 1 } :=
      ⟨fun _ => id, Nat.le_succ _, fun heq => absurd heq (Nat.succ_ne_self _)⟩
    exact ⟨hw.later hlater (List.Subset.refl _) rfl, hts.later hlater⟩
  | enableCursorEvents enable =>
    have hlater : Later w { w with cursorEventsEnabled := enable } := ⟨fun _ => id, le_rfl, fun _ => .inl rfl⟩
    exact ⟨hw.later hlater (List.Subset.refl _) rfl, hts.later hlater⟩
  | disconnect file _ _ => exact (dropScanout_dropsOther w).toldMade hw hts
  | dropEvents _ =>
    have hlater : Later w { w with pending := [], teardown := .eventsDropped } :=
      ⟨fun _ => id, le_rfl, fun _ => .inl rfl⟩
    exact ⟨hw.later hlater (List.nil_subset _) rfl, hts.later hlater⟩
  | dropCursor _ => exact (dropCursor_dropsOther w).toldMade hw hts
  | dropFile _ =>
    exact ⟨hw.later (later_dropFile w) (List.Subset.refl _) rfl, hts.later (later_dropFile w)⟩
  | disconnected _ =>
    have hlater : Later w { w with cursorEventsEnabled := false, teardown := .none } :=
      ⟨fun _ => id, le_rfl, fun _ => .inl rfl⟩
    exact ⟨hw.later hlater (List.Subset.refl _) rfl, hts.later hlater⟩

theorem run_toldMade {as : List Action} (h : Run Step (init, []) as (w, ts)) : w.ToldMade :=
  (h.invariant (I := fun c => c.1.ToldMade ∧ AllRely c.1 c.2)
    (fun _ _ _ hc hstep => hstep.toldMade hc.1 hc.2)
    ⟨⟨by simp [init], by simp [init]⟩, by simp [AllRely]⟩).1

/-- A handle of a table is looked up there. -/
theorem lookup_of_mem (hnodup : (w.handles.map fun e => (e.file, e.handle)).Nodup) {e : GemHandle}
    (he : e ∈ w.handles) : (drmGemObjectLookup e.file e.handle w).2 = some e.obj := by
  unfold drmGemObjectLookup
  cases hfind : w.handles.find? fun e' => e'.file == e.file && e'.handle == e.handle with
  | none =>
    have hno := List.find?_eq_none.1 hfind e he
    simp at hno
  | some e' =>
    have hkey := List.find?_some hfind
    rw [Bool.and_eq_true, beq_iff_eq, beq_iff_eq] at hkey
    have heq := List.inj_on_of_nodup_map hnodup (List.mem_of_find?_eq_some hfind) he
      (Prod.ext hkey.1 hkey.2)
    rw [heq]

/-- With nobody in between, the lowest handle that the file has for the object is taken, and one is made only
where there is none. -/
structure GetsHandle (w : GemSpace) (obj : ℕ) (file : DrmFile) (memory : Bool) : Prop where
  found : ∀ e ∈ w.handles, e.file = file → e.obj = obj → ∃ handle ≤ e.handle,
    (painterGetGemHandle memory).exec w = (w, some ⟨file, w.connects, obj, handle⟩)
  made : (∀ e ∈ w.handles, e.file = file → e.obj ≠ obj) → (painterGetGemHandle memory).exec w =
    if memory then
      ({ w with
          objs := w.objs.get obj
          handles := w.handles ++ [⟨file, w.freeHandle file, obj⟩] },
        some ⟨file, w.connects, obj, w.freeHandle file⟩)
    else (w, none)

theorem getsHandle {obj : ℕ} {file : DrmFile} (hpos : ∀ e ∈ w.handles, 1 ≤ e.handle)
    (hcursor : w.cursor = some obj) (hfile : w.drmFilp = some file) (memory : Bool) :
    GetsHandle w obj file memory where
  found := by
    intro e he hef heo
    obtain ⟨e', he', -, -, hlookup, hleast⟩ := gemObjectHandleLookup_some he hef heo
    have hne : gemObjectHandleLookup file obj w ≠ 0 := by
      rw [hlookup]
      exact Nat.one_le_iff_ne_zero.1 (hpos e' he')
    refine ⟨gemObjectHandleLookup file obj w, hlookup ▸ hleast e he hef heo, ?_⟩
    simp [painterGetGemHandle, lookupCursorHandle, hcursor, hfile, hne]
  made := by
    intro hno
    have hzero := gemObjectHandleLookup_none hno
    cases memory with
    | false => simp [painterGetGemHandle, lookupCursorHandle, createCursorHandle, hcursor, hfile, hzero,
        drmGemHandleCreate]
    | true => simp [painterGetGemHandle, lookupCursorHandle, createCursorHandle, hcursor, hfile, hzero,
        drmGemHandleCreate, freeHandle_ne_zero]

end

/-! ### Runs -/

/-- Steps within a condition on what happens. -/
def Within (G : GemSpace × List (Prog GemSpace Unit) → Action → Prop)
    (c : GemSpace × List (Prog GemSpace Unit)) (a : Action) (c' : GemSpace × List (Prog GemSpace Unit)) :
    Prop :=
  Step c a c' ∧ G c a

section

variable {G : GemSpace × List (Prog GemSpace Unit) → Action → Prop} {w w' : GemSpace}
  {ts ts' : List (Prog GemSpace Unit)} {teardown : Teardown}

theorem allRely_over (h : ∀ p ∈ ts, p = .pure ()) : AllRely w ts := by
  intro p hp
  rw [h p hp]
  exact trivial

/-- Steps of threads alone do not end a disconnect. -/
theorem pool_within (hG : ∀ c, c.1.teardown = teardown → G c .thread) {as : List Unit}
    (h : Run (PoolStep GemThread) (w, ts) as (w', ts')) (hw : w.teardown = teardown) (hts : AllRely w ts) :
    Run (Within G) (w, ts) (as.map fun _ => .thread) (w', ts') ∧ w'.teardown = teardown ∧ AllRely w' ts' := by
  generalize hc : (w', ts') = c' at h
  induction h generalizing w' ts' with
  | nil =>
    obtain ⟨rfl, rfl⟩ := Prod.mk.inj hc
    exact ⟨Run.nil _, hw, hts⟩
  | @snoc t u as a hrun hstep ih =>
    obtain ⟨hwithin, hteardown, hrely⟩ := ih rfl
    subst hc
    obtain ⟨htells, hrely'⟩ := pool_tells hstep hrely
    refine ⟨?_, htells.teardown.trans hteardown, hrely'⟩
    rw [List.map_append]
    exact hwithin.snoc ⟨.thread hstep, hG _ hteardown⟩

/-- A thread that starts among others that are over, and runs to its end. -/
theorem run_thread_within (hG : ∀ c, c.1.teardown = teardown → G c .thread) {p : Prog GemSpace Unit}
    (hp : GemThread p) (w : GemSpace) (hw : w.teardown = teardown) (ts : List (Prog GemSpace Unit))
    (hts : ∀ p ∈ ts, p = .pure ()) :
    ∃ as, Run (Within G) (w, ts) as ((p.exec w).1, ts ++ [.pure ()]) := by
  obtain ⟨n, hexec⟩ := @PoolStep.exec _ GemThread p w ts []
  exact ⟨_, (pool_within hG ((Run.one (PoolStep.start hp)).append hexec) hw (allRely_over hts)).1⟩

end

theorem freeHandle_of_empty {file : DrmFile} {w : GemSpace} (h : w.handles = []) :
    w.freeHandle file = 1 := by
  refine (Nat.find_eq_iff _).2 ⟨⟨le_rfl, by simp [h]⟩, fun n hn hfree => ?_⟩
  omega

/-- A client makes its first object. -/
theorem gemCreate_first {w : GemSpace} (hhandles : w.handles = []) (hnext : w.objs.next = 0) :
    ∃ objs, ((gemCreate 1 true).exec w).1 = { w with objs := objs, handles := [⟨1, 1, 0⟩] } := by
  refine ⟨((gemCreate 1 true).exec w).1.objs, ?_⟩
  simp [gemCreate, drmGemHandleCreate, drmGemObjectPut, putObj, freeHandle_of_empty, hhandles, hnext]

/-- There is memory, and room for so many events. -/
def CursorEventAnswers.withRoom (room : ℕ) : CursorEventAnswers := ⟨true, true, true, false, room⟩

/-- Client 1 has connected, enabled cursor events, and made an object. -/
def withClient (objs : RefTable) : GemSpace :=
  { init with
    objs := objs
    handles := [⟨1, 1, 0⟩]
    drmFilp := some 1
    connects := 1
    cursorEventsEnabled := true }

theorem run_withClient {G : GemSpace × List (Prog GemSpace Unit) → Action → Prop}
    (hG : ∀ c, c.1.teardown = .none → G c .thread) (hconnect : ∀ c, G c (.connect 1))
    (henable : ∀ c, c.1.drmFilp.isSome → G c (.enableCursorEvents true)) :
    ∃ as objs, Run (Within G) (init, []) as (withClient objs, [.pure ()]) := by
  let w := { init with drmFilp := some 1, connects := 1, cursorEventsEnabled := true }
  have hstart : Run (Within G) (init, []) [.connect 1, .enableCursorEvents true] (w, []) :=
    (Run.one ⟨.connect 1 rfl, hconnect _⟩).snoc ⟨.enableCursorEvents true, henable _ rfl⟩
  obtain ⟨as, hcreate⟩ := run_thread_within hG (.gemCreate 1 true) w rfl [] (by simp)
  obtain ⟨objs, heq⟩ := gemCreate_first (w := w) rfl rfl
  rw [heq] at hcreate
  exact ⟨_, objs, hstart.append hcreate⟩

/-- **The handles of cursor events.** A handle that was told is found with the cursor's object, which is there,
until it is closed, in the table where it was found or made. If no client has connected in between, this is the
table of the client that was told. A client that connects over another one may be told of a handle that its
table has not. -/
theorem cursor_handles_valid :
    (∀ as w ts, Run Step (init, []) as (w, ts) →
      (∀ t ∈ w.told,
        (t.cursor.entry ∉ w.closed →
          (drmGemObjectLookup t.cursor.file t.cursor.handle w).2 = some t.cursor.obj ∧
            t.cursor.obj ∉ w.objs.gone) ∧
        (t.cursor.connects = t.connects → t.cursor.file = t.file)) ∧
      ∀ obj file, w.cursor = some obj → w.drmFilp = some file → ∀ memory, GetsHandle w obj file memory) ∧
    ∃ as w ts t, Run Step (init, []) as (w, ts) ∧ t ∈ w.told ∧
      (drmGemObjectLookup t.file t.cursor.handle w).2 = none := by
  refine ⟨fun as w ts h => ⟨fun t ht => ⟨fun hopen => ?_, ((run_toldMade h).told t ht).2⟩,
    fun obj file hcursor hfile memory => ?_⟩, ?_⟩
  · obtain ⟨hands, hc⟩ := run_custody h
    have hmem := ((run_toldMade h).told t ht).1.resolve_right hopen
    refine ⟨lookup_of_mem hc.2.handles hmem, hc.2.objs.not_gone (Multiset.mem_add.2 (.inl ?_))⟩
    refine Multiset.mem_add.2 (.inl (Multiset.mem_add.2 (.inl ?_)))
    exact Multiset.mem_coe.2 (List.mem_map_of_mem (f := (·.obj)) hmem)
  · obtain ⟨hands, hc⟩ := run_custody h
    exact getsHandle hc.2.pos hcursor hfile memory
  · -- the event waits for room, and client 2 connects
    obtain ⟨as, objs, hstart⟩ := run_withClient (G := fun _ _ => True) (fun _ _ => trivial)
      (fun _ => trivial) fun _ _ => trivial
    have hstart := hstart.map id id fun _ _ _ hstep => hstep.1
    let set := crtcCursorSet 1 1 true (.withRoom 0)
    obtain ⟨bs, hset⟩ := run_thread (.crtcCursorSet 1 1 true (.withRoom 0)) (withClient objs) [.pure ()]
    let w := { (set.exec (withClient objs)).1 with drmFilp := some 2, connects := 2 }
    have hconnect : Run Step ((set.exec (withClient objs)).1, [.pure (), .pure ()]) [.connect 2]
        (w, [.pure (), .pure ()]) := Run.one (.connect 2 rfl)
    obtain ⟨cs, hsend⟩ := run_thread (.sendEvents 1) w [.pure (), .pure ()]
    exact ⟨_, _, _, ⟨2, 2, ⟨1, 1, 0, 1⟩⟩, ((hstart.append hset).append hconnect).append hsend,
      List.mem_singleton_self _, rfl⟩

/-- The client shows its first object as the cursor, and is told of it by its handle. -/
theorem cursor_handles_valid_first : ∃ as w ts, Run Step (init, []) as (w, ts) ∧
    ⟨1, 1, ⟨1, 1, 0, 1⟩⟩ ∈ w.told ∧ (drmGemObjectLookup 1 1 w).2 = some 0 ∧ 0 ∉ w.objs.gone := by
  obtain ⟨as, objs, hstart⟩ := run_withClient (G := fun _ _ => True) (fun _ _ => trivial)
    (fun _ => trivial) fun _ _ => trivial
  have hstart := hstart.map id id fun _ _ _ hstep => hstep.1
  obtain ⟨bs, hset⟩ := run_thread (.crtcCursorSet 1 1 true (.withRoom 1)) (withClient objs) [.pure ()]
  have htold : ⟨1, 1, ⟨1, 1, 0, 1⟩⟩ ∈
      ((crtcCursorSet 1 1 true (.withRoom 1)).exec (withClient objs)).1.told := List.mem_singleton_self _
  have hvalid := (cursor_handles_valid.1 _ _ _ (hstart.append hset)).1 _ htold
  exact ⟨_, _, _, hstart.append hset, htold, hvalid.1 List.not_mem_nil⟩

/-! ### The handle table of no file -/

/-- Cursor events are enabled for a client that is connected. -/
def EnablesConnected (w : GemSpace) (a : Action) : Prop :=
  a = .enableCursorEvents true → w.drmFilp.isSome

/-- No thread is under way at the end of a disconnect. -/
def EndsQuiet (c : GemSpace × List (Prog GemSpace Unit)) (a : Action) : Prop :=
  (a = .dropFile → ∀ p ∈ c.2, p = .pure ()) ∧ (a = .thread → c.1.teardown ≠ .fileDropped)

/-- No file's table was looked at, and none will be while there is no client. -/
structure NoNullFile (c : GemSpace × List (Prog GemSpace Unit)) : Prop where
  nullFile : c.1.nullFile = false
  rely : AllRely c.1 c.2
  off : c.1.drmFilp = none → (c.1.teardown = .fileDropped ∧ ∀ p ∈ c.2, p = .pure ()) ∨
    Off c.1 ∧ ∀ p ∈ c.2, p.Preserves Off fun _ t => Off t

section

variable {w w' : GemSpace} {ts ts' : List (Prog GemSpace Unit)} {a : Action}

/-- A step that leaves the client alone, and is no end of a disconnect. -/
theorem NoNullFile.of_same (hN : NoNullFile (w, ts)) (hrely : AllRely w' ts) (hnull : w'.nullFile = w.nullFile)
    (hfile : w'.drmFilp = w.drmFilp) (henabled : w'.cursorEventsEnabled = w.cursorEventsEnabled)
    (hteardown : w.teardown ≠ .fileDropped) : NoNullFile (w', ts) where
  nullFile := hnull.trans hN.nullFile
  rely := hrely
  off := by
    intro hnone
    obtain ⟨hw, hts⟩ := (hN.off (hfile.symm.trans hnone)).resolve_left fun hend => hteardown hend.1
    exact .inr ⟨⟨hnone, henabled.trans hw.2.1, hnull.trans hw.2.2⟩, hts⟩

theorem DropsOther.noNullFile {teardown : Teardown} (h : DropsOther w w' teardown)
    (hN : NoNullFile (w, ts)) (hrely : AllRely w' ts) (hteardown : w.teardown ≠ .fileDropped) :
    NoNullFile (w', ts) := by
  have hview := h.view
  simp only [GemSpace.view, Prod.mk.injEq] at hview
  obtain ⟨-, -, hnull, hfile, -, henabled, -⟩ := hview
  exact hN.of_same hrely hnull hfile henabled hteardown

theorem Step.noNullFile (h : Step (w, ts) a (w', ts')) (ha : EnablesConnected w a)
    (hend : EndsQuiet (w, ts) a) (htold : w.ToldMade) (hN : NoNullFile (w, ts)) : NoNullFile (w', ts') := by
  have hrely := (h.toldMade htold hN.rely).2
  cases h with
  | thread hpool =>
    obtain ⟨htells, -⟩ := pool_tells hpool hN.rely
    cases hfile : w.drmFilp with
    | none =>
      have hoff := (hN.off hfile).resolve_left fun hover => hend.2 rfl hover.1
      have hoff' := PoolStep.invariant (fun p hp => (GemThread.tame hp).off) _ _ _ hoff hpool
      exact ⟨hoff'.1.2.2, hrely, fun _ => .inr hoff'⟩
    | some file =>
      have hsome : w.drmFilp.isSome := by rw [hfile]; rfl
      refine ⟨(htells.nullFile hsome).trans hN.nullFile, hrely, fun hnone => ?_⟩
      have hsame : w'.drmFilp = some file := htells.drmFilp.trans hfile
      exact absurd (hsame.symm.trans hnone) (Option.some_ne_none _)
  | connect file _ => exact ⟨hN.nullFile, hrely, fun hnone => absurd hnone (Option.some_ne_none _)⟩
  | enableCursorEvents enable =>
    refine ⟨hN.nullFile, hrely, fun hnone => ?_⟩
    cases enable with
    | false => exact (hN.off hnone).imp_right fun hoff => ⟨⟨hnone, rfl, hN.nullFile⟩, hoff.2⟩
    | true =>
      have hsome := ha rfl
      have hnone' : w.drmFilp = none := hnone
      rw [hnone'] at hsome
      exact absurd hsome Bool.false_ne_true
  | disconnect file hteardown _ =>
    exact (dropScanout_dropsOther w).noNullFile hN hrely (by simp [hteardown])
  | dropEvents hteardown => exact hN.of_same hrely rfl rfl rfl (by simp [hteardown])
  | dropCursor hteardown =>
    exact (dropCursor_dropsOther w).noNullFile hN hrely (by simp [hteardown])
  | dropFile _ => exact ⟨hN.nullFile, hrely, fun _ => .inl ⟨rfl, hend.1 rfl⟩⟩
  | disconnected _ =>
    refine ⟨hN.nullFile, hrely, fun hnone => .inr ⟨⟨hnone, rfl, hN.nullFile⟩, ?_⟩⟩
    rcases hN.off hnone with ⟨-, hover⟩ | hoff
    · intro p hp
      rw [hover p hp]
      exact Prog.preserves_pure ()
    · exact hoff.2

end

/-- Cursor events that are enabled with no client look at the table of no file. -/
theorem null_file_unconnected : ∃ as w ts,
    Run (Within fun c a => EndsQuiet c a) (init, []) as (w, ts) ∧ w.nullFile = true := by
  have hG : ∀ c : GemSpace × List (Prog GemSpace Unit), c.1.teardown = .none → EndsQuiet c .thread :=
    fun c hc => ⟨nofun, fun _ => by simp [hc]⟩
  let w := { init with cursorEventsEnabled := true }
  have henable : Within (fun c a => EndsQuiet c a) (init, []) (.enableCursorEvents true) (w, []) :=
    ⟨.enableCursorEvents true, nofun, nofun⟩
  obtain ⟨as, hcreate⟩ := run_thread_within hG (.gemCreate 1 true) w rfl [] (by simp)
  obtain ⟨objs, heq⟩ := gemCreate_first (w := w) rfl rfl
  rw [heq] at hcreate
  obtain ⟨bs, hset⟩ := run_thread_within hG (.crtcCursorSet 1 1 true (.withRoom 0))
    { w with objs := objs, handles := [⟨1, 1, 0⟩] } rfl [.pure ()] (by simp)
  exact ⟨_, _, _, ((Run.one henable).append hcreate).append hset, rfl⟩

/-- The cursor's part of a disconnect is over, and a thread sets the cursor again; before it makes the event,
the disconnect drops the file. -/
theorem null_file_overtaken : ∃ as w ts,
    Run (Within fun c a => EnablesConnected c.1 a) (init, []) as (w, ts) ∧ w.nullFile = true := by
  have hG : ∀ (teardown : Teardown) (c : GemSpace × List (Prog GemSpace Unit)),
      c.1.teardown = teardown → EnablesConnected c.1 .thread := fun _ _ _ h => nomatch h
  obtain ⟨as, objs, hstart⟩ := run_withClient (hG .none) (fun _ h => nomatch h) fun _ h _ => h
  have hdisconnect : Run (Within fun c a => EnablesConnected c.1 a) (withClient objs, [.pure ()]) _ _ :=
    ((Run.one ⟨.disconnect 1 rfl rfl, nofun⟩).snoc ⟨.dropEvents rfl, nofun⟩).snoc
      ⟨.dropCursor rfl, nofun⟩
  let w := { withClient objs with teardown := .cursorDropped }
  let before : Prog GemSpace Bool := do
    let obj ← .act fun w => if 1 ≠ 0 then drmGemObjectLookup 1 1 w else (w, none)
    .modify (cursorSetRef obj true)
    putObj obj
    .read (·.cursorEventsEnabled)
  let event := fun enabled => Prog.when (enabled && true)
    (painterGetGemHandle true >>= painterSendEvent (.withRoom 0))
  have hparts : crtcCursorSet 1 1 true (.withRoom 0) = before >>= event := by
    simp only [before, Prog.bind_assoc]
    rfl
  have hspawn := @PoolStep.start _ GemThread w [.pure ()] _ (.crtcCursorSet 1 1 true (.withRoom 0))
  rw [hparts] at hspawn
  obtain ⟨m, hbefore⟩ := @PoolStep.exec_bind _ GemThread _ before event w [.pure ()] []
  obtain ⟨hset, -, hrely⟩ := pool_within (hG .cursorDropped) ((Run.one hspawn).append hbefore) rfl
    (allRely_over (by simp))
  let w' := { (before.exec w).1 with drmFilp := none, teardown := .fileDropped }
  have hdrop : Within (fun c a => EnablesConnected c.1 a) ((before.exec w).1, [.pure (), event true])
      .dropFile (w', [.pure (), event true]) := ⟨.dropFile rfl, nofun⟩
  obtain ⟨n, hexec⟩ := @PoolStep.exec _ GemThread (event true) w' [.pure ()] []
  obtain ⟨hevent, -⟩ := pool_within (hG .fileDropped) hexec rfl (hrely.later (later_dropFile _))
  exact ⟨_, _, _, (((hstart.append hdisconnect).append hset).snoc hdrop).append hevent, rfl⟩

/-- A client connects, is told of its cursor, and disconnects when the thread is over. -/
theorem null_file_quiet : ∃ as w ts,
    Run (Within fun c a => EnablesConnected c.1 a ∧ EndsQuiet c a) (init, []) as (w, ts) ∧ w.told ≠ [] ∧
      w.drmFilp = none := by
  let G : GemSpace × List (Prog GemSpace Unit) → Action → Prop :=
    fun c a => EnablesConnected c.1 a ∧ EndsQuiet c a
  have hG : ∀ c : GemSpace × List (Prog GemSpace Unit), c.1.teardown = .none → G c .thread :=
    fun c hc => ⟨nofun, nofun, fun _ => by simp [hc]⟩
  obtain ⟨as, objs, hstart⟩ := run_withClient (G := G) hG (fun _ => ⟨nofun, nofun, nofun⟩)
    fun _ h => ⟨fun _ => h, nofun, nofun⟩
  obtain ⟨bs, hset⟩ := run_thread_within (G := G) hG (.crtcCursorSet 1 1 true (.withRoom 1))
    (withClient objs) rfl [.pure ()] (by simp)
  let w := ((crtcCursorSet 1 1 true (.withRoom 1)).exec (withClient objs)).1
  have hdisconnect : Run (Within G) (w, [.pure (), .pure ()]) _ _ :=
    ((((Run.one ⟨.disconnect 1 rfl rfl, nofun, nofun, nofun⟩).snoc
      ⟨.dropEvents rfl, nofun, nofun, nofun⟩).snoc
      ⟨.dropCursor rfl, nofun, nofun, nofun⟩).snoc
      ⟨.dropFile rfl, nofun, fun _ => by simp, nofun⟩).snoc
      ⟨.disconnected rfl, nofun, nofun, nofun⟩
  exact ⟨_, _, _, (hstart.append hset).append hdisconnect, List.cons_ne_nil _ _, rfl⟩

/-- **The handle table of no file.** The driver looks at the table of a file that is not there only if cursor
events are enabled with no client connected, or a thread is under way at the end of a disconnect; each of the
two is enough. -/
theorem null_file_never :
    (∀ as w ts, Run (Within fun c a => EnablesConnected c.1 a ∧ EndsQuiet c a) (init, []) as (w, ts) →
      w.nullFile = false) ∧
    (∃ as w ts, Run (Within fun c a => EnablesConnected c.1 a ∧ EndsQuiet c a) (init, []) as (w, ts) ∧
      w.told ≠ [] ∧ w.drmFilp = none) ∧
    (∃ as w ts, Run (Within fun c a => EndsQuiet c a) (init, []) as (w, ts) ∧ w.nullFile = true) ∧
    ∃ as w ts, Run (Within fun c a => EnablesConnected c.1 a) (init, []) as (w, ts) ∧ w.nullFile = true := by
  refine ⟨fun as w ts h => ?_, null_file_quiet, null_file_unconnected, null_file_overtaken⟩
  have hall := h.invariant (I := fun c => c.1.ToldMade ∧ NoNullFile c)
    (fun c a c' hc hstep => ⟨(hstep.1.toldMade hc.1 hc.2.rely).1,
      hstep.1.noNullFile hstep.2.1 hstep.2.2 hc.1 hc.2⟩)
    ⟨⟨by simp [init], by simp [init]⟩, rfl, by simp [AllRely], fun _ => .inr ⟨⟨rfl, rfl, rfl⟩, by simp⟩⟩
  exact hall.2.nullFile

end GemSpace

end Evdi
