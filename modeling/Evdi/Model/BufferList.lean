import Evdi.Foundations.Linked
import Evdi.Foundations.Transition
import Evdi.Model.Library

/-!
# The client library: the list of buffers

The buffers registered with a handle, as the linked list that `evdi_lib.c` keeps of them, and the calls
that change it.  `none` in place of a result is a process that has died, of an assertion or of an access
to a node that is not there, or a loop given up after `n` turns.

* `findBuffer`, `addFrameBuffer`, `removeFrameBuffer`: the three walks over the list;
* `evdiRegisterBuffer`, `evdiUnregisterBuffer`, `evdiRequestUpdate`, `evdiGrabPixels`: the calls;
* `EvdiHandle.Step`: the calls of a client on one handle, in any order.
-/

namespace Evdi

open Linked Retry

/-- `struct evdi_device_context`, with the list at `frameBuffersListHead`. -/
structure EvdiHandle where
  bufferToUpdate : Int32
  frameBuffers : Memory EvdiBuffer

namespace EvdiHandle

/-- The handle that `evdi_open` has allocated, all zero. -/
def init : EvdiHandle := ⟨0, .empty⟩

/-! ### The walks -/

/-- The loop of `findBuffer`, at `node`. -/
def findBufferFrom (m : Memory EvdiBuffer) (id : Int32) : ℕ → Option ℕ → Option (Option ℕ)
  | _, none => some none
  | 0, some _ => none
  | n + 1, some node => do
    let current ← m.node node
    if current.value.id = id then some (some node) else findBufferFrom m id n current.next

/-- `findBuffer`. -/
def findBuffer (n : ℕ) (context : EvdiHandle) (id : Int32) : Option (Option ℕ) :=
  findBufferFrom context.frameBuffers id n context.frameBuffers.head

/-- The loop of `addFrameBuffer`, at the link `node`, where `calloc` is what `calloc` answers. The
assertion behind it is about the link, which is never `NULL`; the copy to `NULL` is what fails. -/
def addFrameBufferAt (calloc : Option ℕ) (frameBuffer : EvdiBuffer) :
    ℕ → Link → Memory EvdiBuffer → Option (Memory EvdiBuffer)
  | 0, _, _ => none
  | n + 1, node, m => do
    match ← m.load node with
    | some a => addFrameBufferAt calloc frameBuffer n (.next a) m
    | none =>
      let a ← calloc
      (m.alloc a ⟨frameBuffer, none⟩).store (some a) node

/-- `addFrameBuffer`. -/
def addFrameBuffer (n : ℕ) (calloc : Option ℕ) (frameBuffer : EvdiBuffer) (context : EvdiHandle) :
    Option EvdiHandle := do
  let m ← addFrameBufferAt calloc frameBuffer n .head context.frameBuffers
  return { context with frameBuffers := m }

/-- The loop of `removeFrameBuffer`, at `current`, where `prev` is the link that led there. -/
def removeFrameBufferFrom (id : Option Int32) :
    ℕ → Link → Option ℕ → Memory EvdiBuffer → Option (Memory EvdiBuffer)
  | _, _, none, m => some m
  | 0, _, some _, _ => none
  | n + 1, prev, some current, m => do
    let node ← m.node current
    if id = none ∨ id = some node.value.id then
      let m ← m.free current
      let m ← m.store node.next prev
      removeFrameBufferFrom id n prev node.next m
    else removeFrameBufferFrom id n (.next current) node.next m

/-- `removeFrameBuffer`. -/
def removeFrameBuffer (n : ℕ) (id : Option Int32) (context : EvdiHandle) : Option EvdiHandle := do
  let m ← removeFrameBufferFrom id n .head context.frameBuffers.head context.frameBuffers
  return { context with frameBuffers := m }

/-! ### The calls -/

/-- `evdi_register_buffer`. -/
def evdiRegisterBuffer (n : ℕ) (calloc : Option ℕ) (buffer : EvdiBuffer) (handle : EvdiHandle) :
    Option EvdiHandle := do
  match ← handle.findBuffer n buffer.id with
  | some _ => none
  | none => handle.addFrameBuffer n calloc buffer

/-- `evdi_unregister_buffer`. The first field of a node is its buffer, so that the buffer of no node is
`NULL` and the assertion fails. -/
def evdiUnregisterBuffer (n : ℕ) (bufferId : Int32) (handle : EvdiHandle) : Option EvdiHandle := do
  match ← handle.findBuffer n bufferId with
  | none => none
  | some _ => handle.removeFrameBuffer n (some bufferId)

/-- `evdi_request_update`, where `requestResult` is what the request comes to. -/
def evdiRequestUpdate (requestResult : ℤ) (bufferId : Int32) (handle : EvdiHandle) :
    EvdiHandle × Bool :=
  ({ handle with bufferToUpdate := bufferId }, requestResult == 1)

/-- `evdi_grab_pixels`. -/
def evdiGrabPixels (n : ℕ) (kernelDirts : UInt64) (envs : Stream' GrabEnv) (d : Device)
    (handle : EvdiHandle) : Option GrabResult := do
  match ← handle.findBuffer n handle.bufferToUpdate with
  | none => some ⟨d, [], 0⟩
  | some destinationNode =>
    let node ← handle.frameBuffers.node destinationNode
    let r ← retry (fun r => ioctlAgain r.1) GrabRequest.ioctl n ⟨d, node.value.grab kernelDirts, envs⟩
    return grabResult r.1 r.2.1 r.2.2

/-! ### Runs -/

/-- A call on the handle. -/
inductive Call
  | registerBuffer (buffer : EvdiBuffer)
  | unregisterBuffer (bufferId : Int32)
  | requestUpdate (bufferId : Int32)
  | grabPixels (result : GrabResult)

/-- One call that returns. `calloc` does not give out what is not freed. -/
inductive Step : EvdiHandle → Call → EvdiHandle → Prop
  | registerBuffer {h h' : EvdiHandle} (n : ℕ) (calloc : Option ℕ) (buffer : EvdiBuffer) :
      (∀ a, calloc = some a → h.frameBuffers.node a = none) →
      evdiRegisterBuffer n calloc buffer h = some h' → Step h (.registerBuffer buffer) h'
  | unregisterBuffer {h h' : EvdiHandle} (n : ℕ) (bufferId : Int32) :
      evdiUnregisterBuffer n bufferId h = some h' → Step h (.unregisterBuffer bufferId) h'
  | requestUpdate {h : EvdiHandle} (requestResult : ℤ) (bufferId : Int32) :
      Step h (.requestUpdate bufferId) (evdiRequestUpdate requestResult bufferId h).1
  | grabPixels {h : EvdiHandle} {result : GrabResult} (n : ℕ) (kernelDirts : UInt64)
      (envs : Stream' GrabEnv) (d : Device) :
      h.evdiGrabPixels n kernelDirts envs d = some result → Step h (.grabPixels result) h

end EvdiHandle

end Evdi
