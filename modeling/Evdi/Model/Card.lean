import Evdi.Foundations.Transition

/-!
# The Python client's card

`class Card` of `pyevdi/Card.cpp`, with the Python code around it and the kernel behind it.  The card's
buffers are known by their ids, and there are never so many that `numerator` overflows.  The acquire
handler may keep the buffer that it is given, and Python code may drop a buffer that it holds at any
time; a buffer that it holds has a `use_count()` above one.  Handlers may call `handle_events` again.

* `Card`: the card's fields, `Card.makeBuffers`, `Card.freeBuffer`;
* `RequestAnswer`: what the kernel may answer to a request;
* `CardRun.Step`: one step of the card's functions, of the Python code, or of the kernel.
-/

namespace Evdi

open Transition

/-! ### The card -/

/-- `class Card`: its buffers and the one requested, with `Buffer::numerator`, and `bufferToUpdate` of the
library's handle. -/
structure Card where
  buffers : List ℕ
  bufferRequested : Option ℕ
  numerator : ℕ
  bufferToUpdate : ℕ
  deriving DecidableEq

/-- `Card::clearBuffers`. -/
def Card.clearBuffers (c : Card) : Card := { c with bufferRequested := none, buffers := [] }

/-- The body of the loop of `Card::makeBuffers`. -/
def Card.emplaceBuffer (c : Card) : Card :=
  { c with buffers := c.buffers ++ [c.numerator], numerator := c.numerator + 1 }

/-- `Card::makeBuffers`. -/
def Card.makeBuffers (count : ℕ) (c : Card) : Card := Card.emplaceBuffer^[count] c.clearBuffers

/-- The loop of `Card::request_update`: the first buffer that the card alone holds, when Python code holds
`held`. -/
def Card.freeBuffer (held : List ℕ) (c : Card) : Option ℕ := c.buffers.find? fun i => i ∉ held

/-! ### The kernel -/

/-- The events of a card: those whose handlers use the buffers, and the others. -/
inductive CardEvent
  | updateReady
  | modeChanged
  | other
  deriving DecidableEq

/-- What `DRM_IOCTL_EVDI_REQUEST_UPDATE` may return, and whether an update is requested before and
after it. -/
inductive RequestAnswer : Bool → ℤ → Bool → Prop
  | ignored : RequestAnswer true 0 true
  | ready : RequestAnswer false 1 false
  | noted : RequestAnswer false 0 true
  | failed (requested : Bool) {ret : ℤ} : ret < 0 → RequestAnswer requested ret requested

/-! ### Steps -/

/-- Where the client is: in Python code, or at the start of a function of the card, with the events of the
batch that is being handled left behind it, or none before the batch has been read. -/
inductive CardPhase
  | python
  | requestUpdate (left : Option (List CardEvent))
  | requesting (left : Option (List CardEvent))
  | grabPixels (left : Option (List CardEvent))
  | acquire (buffer : ℕ) (left : Option (List CardEvent))
  | select
  | dispatch (events : List CardEvent)
  | updateReady (bufferToBeUpdated : ℕ) (events : List CardEvent)
  | modeHandler (events : List CardEvent)
  deriving DecidableEq

/-- Behind `Card::request_update`: `select` in `handle_events`, or the next event of the batch. -/
def CardPhase.behind : Option (List CardEvent) → CardPhase
  | none => .select
  | some events => .dispatch events

/-- The events that have been read, and not been handled. -/
def CardPhase.events : CardPhase → List CardEvent
  | .requestUpdate left | .requesting left | .grabPixels left | .acquire _ left => left.getD []
  | .dispatch events | .updateReady _ events | .modeHandler events => events
  | .python | .select => []

/-- Python code runs: outside of the card, or in a handler of its own. -/
def CardPhase.inPython : CardPhase → Bool
  | .python | .acquire .. | .modeHandler _ => true
  | _ => false

/-- The card, the buffers that Python code holds, the kernel's side, where the client is, and what is to
go on after the call of `handle_events`. -/
structure CardRun where
  card : Card
  held : List ℕ
  wasUpdateRequested : Bool
  pending : List CardEvent
  phase : CardPhase
  suspended : List CardPhase
  deriving DecidableEq

namespace CardRun

/-- A card that has been opened; `numerator` counts the buffers of all cards of the process. -/
def init (numerator : ℕ) : CardRun where
  card := ⟨[], none, numerator, 0⟩
  held := []
  wasUpdateRequested := false
  pending := []
  phase := .python
  suspended := []

/-- The events that have been sent, and not been handled. -/
def inFlight (s : CardRun) : List CardEvent :=
  s.phase.events ++ (s.suspended.flatMap CardPhase.events ++ s.pending)

/-- `handle_events` returns. -/
def leave (s : CardRun) : CardRun :=
  { s with phase := s.suspended.headD .python, suspended := s.suspended.tail }

/-- `Card::request_update`, up to its request. -/
def requestUpdate (left : Option (List CardEvent)) (s : CardRun) : CardRun :=
  if s.card.bufferRequested.isSome then { s with phase := .behind left }
  else match s.card.freeBuffer s.held with
    | none => { s with phase := .behind left }
    | some buffer =>
      { s with card := { s.card with bufferRequested := some buffer }, phase := .requesting left }

/-- `evdi_request_update`, and what `Card::request_update` does with its result. -/
def request (left : Option (List CardEvent)) (buffer : ℕ) (ret : ℤ) (requested : Bool)
    (s : CardRun) : CardRun :=
  { s with
    card := { s.card with bufferToUpdate := buffer }
    wasUpdateRequested := requested
    phase := if ret = 1 then .grabPixels left else .behind left }

/-- The buffer that is being requested, or that pixels are being grabbed into. -/
def target (s : CardRun) : Option ℕ :=
  match s.phase with
  | .requesting _ => s.card.bufferRequested
  | .grabPixels _ => s.card.bufferRequested.map fun _ => s.card.bufferToUpdate
  | _ => none

/-- What may happen. -/
inductive Action
  | handleEvents
  | requestUpdate
  | request (ret : ℤ)
  | grabPixels
  | acquired (keep : Bool)
  | timeout
  | read (n : ℕ)
  | dispatch
  | updateReady
  | modeHandled
  | drop (buffer : ℕ)
  | makeElsewhere (count : ℕ)
  | sendUpdateReady
  | sendEvent (e : CardEvent)
  | forget

/-- One step. `request` is `evdi_request_update`, `grabPixels` is `Card::grab_pixels` up to the acquire
handler, `updateReady` is `default_update_ready_handler` with its assertion; `dispatch` handles the next
event of the batch up to a handler of the client's. The kernel sends `UPDATE_READY` when an update is
requested of it, other events at any time, and forgets a request when the event cannot be allocated or
the client disconnects. -/
inductive Step : CardRun → Action → CardRun → Prop
  | handleEvents {s : CardRun} :
      s.phase.inPython = true →
      Step s .handleEvents
        { s with phase := .requestUpdate none, suspended := s.phase :: s.suspended }
  | requestUpdate {s : CardRun} {left : Option (List CardEvent)} :
      s.phase = .requestUpdate left → Step s .requestUpdate (s.requestUpdate left)
  | request {s : CardRun} {left : Option (List CardEvent)} {buffer : ℕ} {ret : ℤ} {requested : Bool} :
      s.phase = .requesting left → s.card.bufferRequested = some buffer →
      RequestAnswer s.wasUpdateRequested ret requested →
      Step s (.request ret) (s.request left buffer ret requested)
  | grabNothing {s : CardRun} {left : Option (List CardEvent)} :
      s.phase = .grabPixels left → s.card.bufferRequested = none →
      Step s .grabPixels { s with phase := .behind left }
  | grabPixels {s : CardRun} {left : Option (List CardEvent)} {buffer : ℕ} :
      s.phase = .grabPixels left → s.card.bufferRequested = some buffer →
      Step s .grabPixels { s with held := buffer :: s.held, phase := .acquire buffer left }
  | acquired {s : CardRun} {left : Option (List CardEvent)} {buffer : ℕ} (keep : Bool) :
      s.phase = .acquire buffer left →
      Step s (.acquired keep)
        { s with
          card := { s.card with bufferRequested := none }
          held := if keep then s.held else s.held.erase buffer
          phase := .requestUpdate left }
  | timeout {s : CardRun} : s.phase = .select → Step s .timeout s.leave
  | read {s : CardRun} (n : ℕ) :
      s.phase = .select →
      Step s (.read n)
        { s with phase := .dispatch (s.pending.take n), pending := s.pending.drop n }
  | handled {s : CardRun} : s.phase = .dispatch [] → Step s .dispatch s.leave
  | dispatchUpdateReady {s : CardRun} {events : List CardEvent} :
      s.phase = .dispatch (.updateReady :: events) →
      Step s .dispatch { s with phase := .updateReady s.card.bufferToUpdate events }
  | dispatchModeChanged {s : CardRun} {events : List CardEvent} :
      s.phase = .dispatch (.modeChanged :: events) →
      Step s .dispatch { s with card := s.card.makeBuffers 2, phase := .modeHandler events }
  | dispatchOther {s : CardRun} {events : List CardEvent} :
      s.phase = .dispatch (.other :: events) → Step s .dispatch { s with phase := .dispatch events }
  | updateReady {s : CardRun} {buffer : ℕ} {events : List CardEvent} :
      s.phase = .updateReady buffer events → s.card.bufferRequested = some buffer →
      Step s .updateReady { s with phase := .grabPixels (some events) }
  | modeHandled {s : CardRun} {events : List CardEvent} :
      s.phase = .modeHandler events →
      Step s .modeHandled { s with phase := .requestUpdate (some events) }
  | drop {s : CardRun} (buffer : ℕ) : Step s (.drop buffer) { s with held := s.held.erase buffer }
  | makeElsewhere {s : CardRun} (count : ℕ) :
      Step s (.makeElsewhere count)
        { s with card := { s.card with numerator := s.card.numerator + count } }
  | sendUpdateReady {s : CardRun} :
      s.wasUpdateRequested = true →
      Step s .sendUpdateReady
        { s with wasUpdateRequested := false, pending := s.pending ++ [.updateReady] }
  | sendEvent {s : CardRun} {e : CardEvent} :
      e ≠ .updateReady → Step s (.sendEvent e) { s with pending := s.pending ++ [e] }
  | forget {s : CardRun} : Step s .forget { s with wasUpdateRequested := false }

end CardRun

end Evdi
