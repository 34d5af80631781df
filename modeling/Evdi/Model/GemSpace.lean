import Evdi.Foundations.Refcount
import Evdi.Foundations.Section
import Evdi.Model.Device

/-!
# Who refers to GEM objects

The GEM objects and framebuffers of a device with all that refers to them: the handles of open files,
framebuffers, the cursor and the scanout buffer.  Objects, framebuffers and files are numbered.

The handle table of a file (`object_idr`) is kept by the DRM core, which also holds references on
framebuffers (the ids of clients, the states of planes): what it may do with them is listed beside the
driver's functions.  Each handle has a reference of its own here, where the core has one for all handles
of an object; a handle that is made in the table of a file that was released stays there, and counts.  The
object of the console's framebuffer (`evdifb_create`) is not among the objects.

* `GemSpace`, `GemSpace.init`: the state;
* `gemObjectHandleLookup`, `painterGetGemHandle`, `painterSendEvent`: the handles that the driver looks up
  and creates for the cursor, and the events that tell them;
* `gemCreate`, `gemMmap`, `fbUserFbCreate`, `cursorUpdate`, …: the functions that take and drop references,
  as programs of sections;
* `GemThread`, `Step`: threads in these functions, and the steps of connecting and disconnecting.
-/

namespace Evdi

open Atomic Transition

/-! ### The state -/

/-- An entry of a file's handle table. -/
structure GemHandle where
  file : DrmFile
  handle : ℕ
  obj : ℕ
  deriving DecidableEq

/-- The handle in a `CURSOR_SET` event: the file in whose table it was found or made, how many connects
there had been, and the cursor's object. -/
structure CursorHandle where
  file : DrmFile
  connects : ℕ
  obj : ℕ
  handle : ℕ
  deriving DecidableEq

/-- Its entry in the table. -/
def CursorHandle.entry (c : CursorHandle) : GemHandle := ⟨c.file, c.handle, c.obj⟩

/-- A handle that was told: the file that the event was sent to, and how many connects there had been. -/
structure ToldHandle where
  file : DrmFile
  connects : ℕ
  cursor : CursorHandle
  deriving DecidableEq

/-- How far a disconnect has come, which holds the painter's lock. -/
inductive Teardown
  | none
  | scanoutDropped
  | eventsDropped
  | cursorDropped
  | fileDropped
  deriving DecidableEq

/-- The objects and framebuffers of a device, and who refers to them. `holders` are the references on
framebuffers that the DRM core holds, one entry each. `closed` are the handles that were closed, `pending`
what the pending `CURSOR_SET` events tell, nothing for a handle of 0, and `told` what was sent. `connects`
counts the connects; `nullFile` is set once the handle table of a `NULL` file was looked at. -/
structure GemSpace where
  objs : RefTable
  fbs : RefTable
  fbObj : ℕ → ℕ
  handles : List GemHandle
  closed : List GemHandle
  holders : List ℕ
  cursor : Option ℕ
  scanoutFb : Option ℕ
  drmFilp : Option DrmFile
  connects : ℕ
  cursorEventsEnabled : Bool
  teardown : Teardown
  pending : List (Option CursorHandle)
  told : List ToldHandle
  nullFile : Bool

namespace GemSpace

/-- No object, and no client. -/
def init : GemSpace where
  objs := .empty
  fbs := .empty
  fbObj := fun _ => 0
  handles := []
  closed := []
  holders := []
  cursor := none
  scanoutFb := none
  drmFilp := none
  connects := 0
  cursorEventsEnabled := false
  teardown := .none
  pending := []
  told := []
  nullFile := false

/-- The handle table of a file, by increasing handle, as `idr_for_each_entry` goes through it. -/
def idr (file : DrmFile) (w : GemSpace) : List GemHandle :=
  (w.handles.filter (·.file == file)).insertionSort (·.handle ≤ ·.handle)

/-- There is always a handle that is not in use. -/
theorem exists_free (file : DrmFile) (w : GemSpace) :
    ∃ h, 1 ≤ h ∧ ∀ e ∈ w.handles, e.file = file → e.handle ≠ h := by
  refine ⟨(w.handles.map (·.handle)).sum + 1, by omega, fun e he _ heq => ?_⟩
  have hle := List.le_sum_of_mem (List.mem_map_of_mem (f := (·.handle)) he)
  omega

/-- The lowest handle that is not in use, as `idr_alloc` chooses it. -/
def freeHandle (file : DrmFile) (w : GemSpace) : ℕ := Nat.find (w.exists_free file)

theorem freeHandle_spec (file : DrmFile) (w : GemSpace) :
    1 ≤ w.freeHandle file ∧ ∀ e ∈ w.handles, e.file = file → e.handle ≠ w.freeHandle file :=
  Nat.find_spec (w.exists_free file)

theorem freeHandle_ne_zero (file : DrmFile) (w : GemSpace) : w.freeHandle file ≠ 0 :=
  Nat.one_le_iff_ne_zero.1 (w.freeHandle_spec file).1

/-! ### References -/

/-- `drm_gem_object_put`: with the last reference goes the object (`evdi_gem_free_object`). -/
def drmGemObjectPut (obj : ℕ) (w : GemSpace) : GemSpace := { w with objs := (w.objs.put obj).1 }

/-- `drm_framebuffer_get`. -/
def drmFramebufferGet (fb : ℕ) (w : GemSpace) : GemSpace := { w with fbs := w.fbs.get fb }

/-- `drm_framebuffer_put`: with the last reference goes the framebuffer
(`evdi_user_framebuffer_destroy`), which puts its object. -/
def drmFramebufferPut (fb : ℕ) (w : GemSpace) : GemSpace :=
  let (fbs, last) := w.fbs.put fb
  if last then drmGemObjectPut (w.fbObj fb) { w with fbs := fbs } else { w with fbs := fbs }

/-- `drm_gem_object_lookup`: the object, with a reference for the caller. -/
def drmGemObjectLookup (file : DrmFile) (handle : ℕ) (w : GemSpace) : GemSpace × Option ℕ :=
  match w.handles.find? fun e => e.file == file && e.handle == handle with
  | some e => ({ w with objs := w.objs.get e.obj }, some e.obj)
  | none => (w, none)

/-- `drm_gem_handle_create`: a new handle with a reference, or 0 if there is no memory. -/
def drmGemHandleCreate (file : DrmFile) (obj : ℕ) (memory : Bool) (w : GemSpace) : GemSpace × ℕ :=
  if memory then
    ({ w with
        objs := w.objs.get obj
        handles := w.handles ++ [⟨file, w.freeHandle file, obj⟩] }, w.freeHandle file)
  else (w, 0)

/-! ### Handles for the cursor -/

/-- `evdi_gem_object_handle_lookup`. -/
def gemObjectHandleLookup (file : DrmFile) (obj : ℕ) (w : GemSpace) : ℕ :=
  match (w.idr file).find? (·.obj == obj) with
  | some e => e.handle
  | none => 0

/-- The first part of `evdi_painter_get_gem_handle`, where the source does not look whether `drm_filp` is
`NULL`. -/
def lookupCursorHandle (w : GemSpace) : GemSpace × Option CursorHandle :=
  match w.cursor, w.drmFilp with
  | none, _ => (w, none)
  | some _, none => ({ w with nullFile := true }, none)
  | some obj, some file =>
    let handle := gemObjectHandleLookup file obj w
    (w, if handle ≠ 0 then some ⟨file, w.connects, obj, handle⟩ else none)

/-- Its second part, which reads `drm_filp` again. -/
def createCursorHandle (memory : Bool) (w : GemSpace) : GemSpace × Option CursorHandle :=
  match w.cursor, w.drmFilp with
  | none, _ => (w, none)
  | some _, none => ({ w with nullFile := true }, none)
  | some obj, some file =>
    let (w', handle) := drmGemHandleCreate file obj memory w
    (w', if handle ≠ 0 then some ⟨file, w.connects, obj, handle⟩ else none)

/-- `evdi_painter_get_gem_handle`, which looks for a handle and then makes one. Its caller holds the
cursor's lock meanwhile; that the cursor is read again, and might be another one, only adds runs. -/
def painterGetGemHandle (memory : Bool) : Prog GemSpace (Option CursorHandle) := do
  match ← .act lookupCursorHandle with
  | some handle => .pure (some handle)
  | none => .act (createCursorHandle memory)

/-- What an event of the cursor comes to: memory for the event and for a handle, whether the painter is
connected, whether the last pending event is of the same kind, and how many events there is room for. -/
structure CursorEventAnswers where
  event : Bool
  memory : Bool
  connected : Bool
  squash : Bool
  room : ℕ

/-- `evdi_painter_add_event_to_pending_list`. -/
def addEventToPendingList (squash : Bool) (event : Option CursorHandle) (w : GemSpace) : GemSpace :=
  { w with pending := (if squash then w.pending.dropLast else w.pending) ++ [event] }

/-- `evdi_painter_flush_pending_events`, with room for so many events. They are sent to the file that is
connected; without one, where the kernel would read through `NULL`, none is. -/
def flushPendingEvents (room : ℕ) (w : GemSpace) : GemSpace :=
  match w.drmFilp with
  | none => w
  | some file =>
    { w with
      pending := w.pending.drop room
      told := w.told ++ (w.pending.take room).filterMap (·.map (⟨file, w.connects, ·⟩)) }

/-- `evdi_painter_send_event`. -/
def painterSendEvent (ans : CursorEventAnswers) (event : Option CursorHandle) : Prog GemSpace Unit := do
  let file ← .read (·.drmFilp)
  .when (file.isSome && ans.connected) do
    .modify (addEventToPendingList ans.squash event)
    .modify (flushPendingEvents ans.room)

/-! ### The cursor -/

/-- `evdi_cursor_set_gem`, which nobody runs but under the cursor's lock or at its end. -/
def cursorSetGemRef (obj : Option ℕ) (w : GemSpace) : GemSpace :=
  let w := obj.elim w fun obj => { w with objs := w.objs.get obj }
  let w := w.cursor.elim w fun old => drmGemObjectPut old w
  { w with cursor := obj }

/-- `evdi_cursor_set`, up to the object. -/
def cursorSetRef (obj : Option ℕ) (mapped : Bool) (w : GemSpace) : GemSpace :=
  cursorSetGemRef (if mapped then obj else none) w

/-- `evdi_cursor_enable`, up to the object. -/
def cursorEnableRef (enable : Bool) (w : GemSpace) : GemSpace :=
  if enable then w else cursorSetGemRef none w

/-! ### Functions as programs -/

/-- The DRM core hands out one of the references on framebuffers that it holds. -/
def borrow (fb : ℕ) (w : GemSpace) : GemSpace × Option ℕ :=
  if fb ∈ w.holders then (drmFramebufferGet fb w, some fb) else (w, none)

/-- `drm_gem_object_put` for a pointer, which may be `NULL`. -/
def putObj : Option ℕ → Prog GemSpace Unit
  | some obj => .modify (drmGemObjectPut obj)
  | none => .pure ()

/-- `drm_framebuffer_put` for a pointer, where its callers look whether it is `NULL`. -/
def putFb : Option ℕ → Prog GemSpace Unit
  | some fb => .modify (drmFramebufferPut fb)
  | none => .pure ()

/-- `evdi_gem_create`. Up to its handle the object is private; without one it is released. -/
def gemCreate (file : DrmFile) (memory : Bool) : Prog GemSpace Unit := do
  let obj ← .act fun w =>
    let obj := w.objs.next
    let (w', handle) := drmGemHandleCreate file obj memory { w with objs := w.objs.alloc }
    if handle ≠ 0 then (w', some obj) else (drmGemObjectPut obj w', none)
  putObj obj

/-- An import: `evdi_prime_import_sg_table`, which frees the object without memory for its pages, and the
handle that the DRM core creates. -/
def primeImport (file : DrmFile) (pages memory : Bool) : Prog GemSpace Unit := do
  let obj ← .act fun w =>
    let obj := w.objs.next
    let w := { w with objs := w.objs.alloc }
    if pages then (w, some obj) else (drmGemObjectPut obj w, none)
  match obj with
  | some obj => do
    let _ ← .act (drmGemHandleCreate file obj memory)
    putObj (some obj)
  | none => .pure ()

/-- `evdi_gem_mmap`: the reference of the lookup is dropped on all paths. -/
def gemMmap (file : DrmFile) (handle : ℕ) : Prog GemSpace Unit := do
  let obj ← .act (drmGemObjectLookup file handle)
  putObj obj

/-- A new framebuffer of an object, whose reference it takes over. -/
def fbInit (obj : ℕ) (w : GemSpace) : GemSpace :=
  { w with
    fbs := w.fbs.alloc
    fbObj := Function.update w.fbObj w.fbs.next obj
    holders := w.holders ++ [w.fbs.next] }

/-- `evdi_fb_user_fb_create`, where `fits` says that the object is large enough and there is memory. -/
def fbUserFbCreate (file : DrmFile) (handle : ℕ) (fits : Bool) : Prog GemSpace Unit := do
  match ← .act (drmGemObjectLookup file handle) with
  | some obj => if fits then .modify (fbInit obj) else putObj (some obj)
  | none => .pure ()

/-- `evdi_user_framebuffer_create_handle`, for a framebuffer that the DRM core holds. -/
def fbCreateHandle (fb : ℕ) (file : DrmFile) (memory : Bool) : Prog GemSpace Unit := do
  match ← .act (borrow fb) with
  | some fb => do
    let _ ← .act fun w => drmGemHandleCreate file (w.fbObj fb) memory w
    putFb (some fb)
  | none => .pure ()

/-- `evdi_painter_set_scanout_buffer`, with a framebuffer that the DRM core holds. -/
def painterSetScanoutBuffer (fb : ℕ) : Prog GemSpace Unit := do
  match ← .act (borrow fb) with
  | some fb => do
    let oldfb ← .act fun w => ({ w with scanoutFb := some fb }, w.scanoutFb)
    putFb oldfb
  | none => .pure ()

/-- `evdi_painter_grabpix_ioctl`: the locked phase, and its end. -/
def painterGrabpix : Prog GemSpace Unit := do
  let fb ← .act fun w => (w.scanoutFb.elim w fun fb => drmFramebufferGet fb w, w.scanoutFb)
  putFb fb

/-- `evdi_painter_send_cursor_set`, if cursor events are enabled. -/
def sendCursorSet (ans : CursorEventAnswers) : Prog GemSpace Unit := do
  let enabled ← .read (·.cursorEventsEnabled)
  .when (enabled && ans.event) (painterGetGemHandle ans.memory >>= painterSendEvent ans)

/-- `evdi_cursor_atomic_update` with another framebuffer, if any. The state of the plane holds it
meanwhile. -/
def cursorUpdate (fb : Option ℕ) (mapped : Bool) (ans : CursorEventAnswers) : Prog GemSpace Unit := do
  let fb ← .act fun w => fb.elim (w, none) fun fb => borrow fb w
  .modify fun w => fb.elim w fun fb => cursorSetRef (some (w.fbObj fb)) mapped w
  .modify (cursorEnableRef fb.isSome)
  sendCursorSet ans
  putFb fb

/-- `evdi_crtc_cursor_set`. -/
def crtcCursorSet (file : DrmFile) (handle : ℕ) (mapped : Bool) (ans : CursorEventAnswers) :
    Prog GemSpace Unit := do
  let obj ← .act fun w => if handle ≠ 0 then drmGemObjectLookup file handle w else (w, none)
  .modify (cursorSetRef obj mapped)
  putObj obj
  sendCursorSet ans

/-! ### What the DRM core does -/

/-- Handles are taken out of the tables; the references they held are left to the caller. -/
def closeHandles (p : GemHandle → Bool) (w : GemSpace) : GemSpace × List ℕ :=
  ({ w with
      handles := w.handles.filter fun e => !p e
      closed := w.closed ++ w.handles.filter p }, (w.handles.filter p).map (·.obj))

/-- A client closes a handle. -/
def gemClose (file : DrmFile) (handle : ℕ) : Prog GemSpace Unit := do
  let objs ← .act (closeHandles fun e => e.file == file && e.handle == handle)
  .each (fun obj => putObj (some obj)) objs

/-- A file is released with all of its handles. -/
def gemRelease (file : DrmFile) : Prog GemSpace Unit := do
  let objs ← .act (closeHandles (·.file == file))
  .each (fun obj => putObj (some obj)) objs

/-- One more reference on a framebuffer: for the state of a plane, say. -/
def holdFb (fb : ℕ) (w : GemSpace) : GemSpace :=
  if fb ∈ w.holders then { drmFramebufferGet fb w with holders := w.holders ++ [fb] } else w

/-- One reference less: `RMFB`, the release of its file, or the end of a plane's state. -/
def dropFb (fb : ℕ) (w : GemSpace) : GemSpace :=
  if fb ∈ w.holders then drmFramebufferPut fb { w with holders := w.holders.erase fb } else w

/-- The threads. -/
inductive GemThread : Prog GemSpace Unit → Prop
  | gemCreate (file : DrmFile) (memory : Bool) : GemThread (gemCreate file memory)
  | primeImport (file : DrmFile) (pages memory : Bool) : GemThread (primeImport file pages memory)
  | gemMmap (file : DrmFile) (handle : ℕ) : GemThread (gemMmap file handle)
  | fbUserFbCreate (file : DrmFile) (handle : ℕ) (fits : Bool) :
      GemThread (fbUserFbCreate file handle fits)
  | fbCreateHandle (fb : ℕ) (file : DrmFile) (memory : Bool) :
      GemThread (fbCreateHandle fb file memory)
  | setScanoutBuffer (fb : ℕ) : GemThread (painterSetScanoutBuffer fb)
  | grabpix : GemThread painterGrabpix
  | cursorUpdate (fb : Option ℕ) (mapped : Bool) (ans : CursorEventAnswers) :
      GemThread (cursorUpdate fb mapped ans)
  | crtcCursorSet (file : DrmFile) (handle : ℕ) (mapped : Bool) (ans : CursorEventAnswers) :
      GemThread (crtcCursorSet file handle mapped ans)
  | sendEvents (room : ℕ) : GemThread (.modify (flushPendingEvents room))
  | gemClose (file : DrmFile) (handle : ℕ) : GemThread (gemClose file handle)
  | gemRelease (file : DrmFile) : GemThread (gemRelease file)
  | holdFb (fb : ℕ) : GemThread (.modify (holdFb fb))
  | dropFb (fb : ℕ) : GemThread (.modify (dropFb fb))

/-- `evdi_painter_disconnect`, up to the end of the scanout buffer. -/
def dropScanout (w : GemSpace) : GemSpace :=
  let w := w.scanoutFb.elim w fun fb => { drmFramebufferPut fb w with scanoutFb := none }
  { w with teardown := .scanoutDropped }

/-- What may happen. The last four are the parts of a disconnect. -/
inductive Action
  | thread
  | connect (file : DrmFile)
  | enableCursorEvents (enable : Bool)
  | disconnect (file : DrmFile)
  | dropEvents
  | dropCursor
  | dropFile
  | disconnected

/-- One step: of a thread, or of connecting and disconnecting, which take the painter's lock. Between the
parts of a disconnect, others run that do not need the lock. -/
inductive Step : GemSpace × List (Prog GemSpace Unit) → Action →
    GemSpace × List (Prog GemSpace Unit) → Prop
  | thread {w w' : GemSpace} {ts ts' : List (Prog GemSpace Unit)} :
      PoolStep GemThread (w, ts) () (w', ts') → Step (w, ts) .thread (w', ts')
  | connect {w : GemSpace} {ts : List (Prog GemSpace Unit)} (file : DrmFile) : w.teardown = .none →
      Step (w, ts) (.connect file)
        ({ w with drmFilp := some file, connects := w.connects + 1 }, ts)
  | enableCursorEvents {w : GemSpace} {ts : List (Prog GemSpace Unit)} (enable : Bool) :
      Step (w, ts) (.enableCursorEvents enable) ({ w with cursorEventsEnabled := enable }, ts)
  | disconnect {w : GemSpace} {ts : List (Prog GemSpace Unit)} (file : DrmFile) :
      w.teardown = .none → w.drmFilp = some file → Step (w, ts) (.disconnect file) (dropScanout w, ts)
  | dropEvents {w : GemSpace} {ts : List (Prog GemSpace Unit)} : w.teardown = .scanoutDropped →
      Step (w, ts) .dropEvents ({ w with pending := [], teardown := .eventsDropped }, ts)
  | dropCursor {w : GemSpace} {ts : List (Prog GemSpace Unit)} : w.teardown = .eventsDropped →
      Step (w, ts) .dropCursor ({ cursorEnableRef false w with teardown := .cursorDropped }, ts)
  | dropFile {w : GemSpace} {ts : List (Prog GemSpace Unit)} : w.teardown = .cursorDropped →
      Step (w, ts) .dropFile ({ w with drmFilp := none, teardown := .fileDropped }, ts)
  | disconnected {w : GemSpace} {ts : List (Prog GemSpace Unit)} : w.teardown = .fileDropped →
      Step (w, ts) .disconnected ({ w with cursorEventsEnabled := false, teardown := .none }, ts)

end GemSpace

end Evdi
