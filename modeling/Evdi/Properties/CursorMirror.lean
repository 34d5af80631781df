import Evdi.Model.Desktop
import Evdi.Properties.CursorDamage
import Evdi.Properties.Stranded

/-!
# The client's cursor

A client that has cursor events enabled draws the cursor itself, from the last `CURSOR_SET` and the last
`CURSOR_MOVE` event that it read.  These show the cursor of the device, whenever no commit is under way and
nothing is pending.

* `lastOf`, `Device.stream`, `Device.sent`: the last event of a type, in what the client has read or will
  read, and how many were sent;
* `Spares`: what all but the cursor's plane leave alone;
* `Shown`: the last event of a type shows the cursor;
* `under_sendCursor`, `under_cursorAtomicUpdate`: a new event shows the cursor, whatever other threads do;
* **`cursor_mirrored`**: the result, over runs of the device with all of its threads.
-/

namespace Evdi

open Atomic Transition

/-! ### The last events -/

def cursorSetType : UInt32 := 0x80000004
def cursorMoveType : UInt32 := 0x80000005

/-- The types of the cursor's events. -/
def IsCursorType (type : UInt32) : Prop := type = cursorSetType ∨ type = cursorMoveType

/-- The last event of a type. -/
def lastOf (type : UInt32) (l : List PendingEvent) : Option Event :=
  (l.filter (·.event.type == type)).getLast?.map (·.event)

/-- What the client has read or, unless it disconnects, will read. -/
def Device.stream (d : Device) : List PendingEvent := d.drm.delivered ++ d.pendingEvents

/-- How many events of a type were sent. -/
def Device.sent (type : UInt32) (d : Device) : ℕ := d.drm.submitted.countP (·.event.type == type)

theorem lastOf_append_self {type : UInt32} (l : List PendingEvent) {e : PendingEvent}
    (he : e.event.type = type) : lastOf type (l ++ [e]) = some e.event := by
  simp [lastOf, List.filter_append, he]

theorem lastOf_append_other {type : UInt32} (l : List PendingEvent) {e : PendingEvent}
    (he : e.event.type ≠ type) : lastOf type (l ++ [e]) = lastOf type l := by
  simp [lastOf, List.filter_append, he]

/-- A new event is the last of its type, also where it takes the place of another. -/
theorem lastOf_push_self {type : UInt32} (done pending : List PendingEvent) {e : PendingEvent}
    (he : e.event.type = type) : lastOf type (done ++ (pushEvent pending e).1) = some e.event := by
  rcases pushEvent_cases pending e with hpush | ⟨older, last, -, -, hpush⟩ <;>
    rw [hpush, ← List.append_assoc, lastOf_append_self _ he]

/-- A new event leaves the last events of other types alone. -/
theorem lastOf_push_other {type : UInt32} (done pending : List PendingEvent) {e : PendingEvent}
    (he : e.event.type ≠ type) :
    lastOf type (done ++ (pushEvent pending e).1) = lastOf type (done ++ pending) := by
  rcases pushEvent_cases pending e with hpush | ⟨older, last, hpending, hsup, hpush⟩
  · rw [hpush, ← List.append_assoc, lastOf_append_other _ he]
  · have hlast : last.event.type ≠ type := fun h => he (hsup.1.trans h)
    rw [hpush, hpending, ← List.append_assoc, ← List.append_assoc, lastOf_append_other _ he,
      lastOf_append_other _ hlast]

/-! ### What is left alone -/

/-- The cursor, the last events of the types of `T` and their numbers are as before, and there is still
memory. -/
structure Spares (T : UInt32 → Prop) (d d' : Device) : Prop where
  cursor : d'.cursor = d.cursor
  answers : (∀ n, d.drm.kzalloc n = true) → ∀ n, d'.drm.kzalloc n = true
  last : ∀ type, T type → lastOf type d'.stream = lastOf type d.stream
  sent : ∀ type, T type → d'.sent type = d.sent type

section

variable {T T' : UInt32 → Prop} {d d' d'' : Device}

theorem Spares.refl (d : Device) : Spares T d d := ⟨rfl, id, fun _ _ => rfl, fun _ _ => rfl⟩

theorem Spares.trans (h : Spares T d d') (h' : Spares T d' d'') : Spares T d d'' where
  cursor := h'.cursor.trans h.cursor
  answers hd := h'.answers (h.answers hd)
  last type ht := (h'.last type ht).trans (h.last type ht)
  sent type ht := (h'.sent type ht).trans (h.sent type ht)

theorem Spares.mono (h : Spares T d d') (hT : ∀ type, T' type → T type) : Spares T' d d' where
  cursor := h.cursor
  answers := h.answers
  last type ht := h.last type (hT type ht)
  sent type ht := h.sent type (hT type ht)

theorem stream_eq_of_queueView (h : queueView d' = queueView d) : d'.stream = d.stream := by
  simp only [queueView, Prod.mk.injEq] at h
  obtain ⟨hpainter, -, hdelivered, -⟩ := h
  have hpending : d'.pendingEvents = d.pendingEvents := by
    cases hp : d.painter <;> cases hp' : d'.painter <;> simp_all [Device.pendingEvents]
  rw [Device.stream, Device.stream, hdelivered, hpending]

theorem spares_of_queueView (h : queueView d' = queueView d) (hcursor : d'.cursor = d.cursor) :
    Spares T d d' := by
  have hstream := stream_eq_of_queueView h
  simp only [queueView, Prod.mk.injEq] at h
  obtain ⟨-, hsubmitted, -, -, -, hkzalloc⟩ := h
  refine ⟨hcursor, fun hd => ?_, fun type _ => by rw [hstream], fun type _ => ?_⟩
  · rwa [hkzalloc]
  · rw [Device.sent, Device.sent, hsubmitted]

theorem spares_createEvent (event : Event) (d : Device) : Spares T d (createEvent event d).1 := by
  have htail (h : ∀ n, d.drm.kzalloc n = true) (n : ℕ) : d.drm.kzalloc.tail n = true := h (n + 1)
  unfold createEvent
  split_ifs
  · exact ⟨rfl, htail, fun _ _ => rfl, fun _ _ => rfl⟩
  · exact ⟨rfl, htail, fun _ _ => rfl, fun _ _ => rfl⟩

/-- A new event of a type that is not of `T`. -/
theorem spares_addEvent {e : PendingEvent} (he : ¬ T e.event.type) (d : Device) :
    Spares T d (painterAddEventToPendingList e d) := by
  unfold painterAddEventToPendingList
  cases hp : d.painter with
  | none => exact .refl d
  | some p =>
    have hne {type : UInt32} (ht : T type) : e.event.type ≠ type := fun h => he (h ▸ ht)
    refine ⟨rfl, id, fun type ht => ?_, fun type ht => ?_⟩
    · simp only [Device.stream, Device.pendingEvents, hp, Option.elim_some]
      exact lastOf_push_other _ _ (hne ht)
    · simp [Device.sent, hne ht]

theorem spares_flush (d : Device) : Spares T d (painterFlushPendingEvents d).1 := by
  unfold painterFlushPendingEvents
  cases hp : d.painter with
  | none => exact .refl d
  | some p =>
    obtain ⟨sent, left, space, hpending, heq⟩ := flushEvents_spec p.pendingEvents d.drm
    dsimp only
    rw [heq]
    refine ⟨rfl, id, fun type _ => ?_, fun _ _ => rfl⟩
    simp [Device.stream, Device.pendingEvents, hp, hpending]

/-- A program of sections that leave the types of `T` alone. -/
abbrev Leaves (T : UInt32 → Prop) {α : Type} (p : Prog Device α) : Prop :=
  p.Preserves (fun _ => True) (Spares T)

theorem leaves_quiet {α : Type} {f : Device → Device × α} (hf : Quiet fun d => (f d).1) :
    Leaves T (.act f) :=
  Prog.preserves_act fun d _ => spares_of_queueView (hf d).1 (hf d).2

theorem leaves_read {α : Type} (f : Device → α) : Leaves T (.read f) :=
  fun d _ => ⟨Spares.refl d, trivial⟩

theorem leaves_flush : Leaves T (.act painterFlushPendingEvents) :=
  Prog.preserves_act fun d _ => spares_flush d

theorem leaves_flushOrSchedule : Leaves T flushOrSchedule := by
  refine (leaves_read _).bind fun pending => ?_
  cases pending with
  | true => exact Prog.preserves_pure ()
  | false =>
    refine leaves_flush.bind fun flushedAll => ?_
    cases flushedAll with
    | true => exact Prog.preserves_pure ()
    | false => exact Prog.preserves_modify fun d _ => spares_of_queueView (queueView_onPainter d) rfl

theorem leaves_sendEvent {e : Option PendingEvent} (he : ∀ e' ∈ e, ¬ T e'.event.type) :
    Leaves T (painterSendEvent e) := by
  cases e with
  | none => exact Prog.preserves_pure ()
  | some e =>
    refine (leaves_read _).bind fun connected => ?_
    cases connected with
    | true =>
      refine (Prog.preserves_modify fun d _ => spares_addEvent (he e rfl) d).bind fun _ => ?_
      exact leaves_flushOrSchedule
    | false => exact Prog.preserves_modify fun d _ => ⟨rfl, id, fun _ _ => rfl, fun _ _ => rfl⟩

theorem createEvent_event {event : Event} {d : Device} {e : PendingEvent}
    (h : e ∈ (createEvent event d).2) : e.event = event := by
  unfold createEvent at h
  split_ifs at h
  · obtain rfl := Option.some.inj h
    rfl
  · simp at h

/-- What has nothing to do with the cursor leaves its events alone. -/
theorem leaves_rules : QueueRules fun _ p => Leaves IsCursorType p where
  pure := Prog.preserves_pure
  bind := Prog.Preserves.bind
  atomically hp := hp.atomically (fun _ _ _ _ => trivial) Spares.refl fun _ _ _ => Spares.trans
  read := leaves_read
  act := leaves_quiet
  flush := leaves_flush
  send {event} he := by
    refine fun d _ => ⟨spares_createEvent event d, leaves_sendEvent fun e' he' => ?_⟩
    rw [createEvent_event he']
    simpa [Event.isCursor, IsCursorType, cursorSetType, cursorMoveType] using he
  sendLate {event f} he hf := by
    refine fun d _ => ⟨spares_createEvent event d, fun d' _ => ⟨spares_of_queueView (hf d').1 (hf d').2,
      leaves_sendEvent fun e' he' => ?_⟩⟩
    rw [createEvent_event he']
    simpa [Event.isCursor, IsCursorType, cursorSetType, cursorMoveType] using he

end

/-! ### What the last events show -/

/-- If more than `n` events of the type were sent, the last of them shows the cursor. -/
def Shown (type : UInt32) (shows : Cursor → Event → Prop) (n : ℕ) (d : Device) : Prop :=
  n < d.sent type → ∃ e ∈ lastOf type d.stream, shows d.cursor e

/-- There is always memory for an event. -/
def Plenty (d : Device) : Prop := ∀ n, d.drm.kzalloc n = true

theorem Shown.spares {T : UInt32 → Prop} {type : UInt32} {shows : Cursor → Event → Prop} {n : ℕ}
    {d d' : Device} (h : Shown type shows n d) (hd : Spares T d d') (ht : T type) :
    Shown type shows n d' := by
  intro hn
  rw [hd.sent type ht] at hn
  rw [hd.last type ht, hd.cursor]
  exact h hn

/-- What other threads do while the session lasts. -/
def Rely (file : DrmFile) (d d' : Device) : Prop := Session file d' ∧ Spares IsCursorType d d'

theorem Rely.trans {file : DrmFile} {d d' d'' : Device} (h : Rely file d d') (h' : Rely file d' d'') :
    Rely file d d'' := ⟨h'.1, h.2.trans h'.2⟩

/-- The other type of the cursor's events. -/
def IsOther (type type' : UInt32) : Prop := IsCursorType type' ∧ type' ≠ type

/-- **A new event about the cursor** is sent, and shows it, whatever other threads do; what is true of the
other type stays. -/
theorem under_sendCursor (file : DrmFile) {type : UInt32} (hcursor : IsCursorType type)
    (event : Cursor → Event) (htype : ∀ c, (event c).type = type) (shows : Cursor → Event → Prop)
    (hshows : ∀ c, shows c (event c)) {I : Device → Prop}
    (hI : ∀ d d', I d → Spares (IsOther type) d d' → I d') (n : ℕ) {d : Device} (hd : I d)
    (hplenty : Plenty d) :
    (Prog.act (fun d => createEvent (event d.cursor) d) >>= painterSendEvent).Under (Rely file)
      (fun _ d => Shown type shows n d ∧ I d ∧ Plenty d) d := by
  have hother {d d' : Device} (h : Spares IsCursorType d d') : Spares (IsOther type) d d' :=
    h.mono fun _ ht => ht.1
  refine Prog.Under.bind (Prog.under_act fun d₁ h₁ => ?_)
  have hplenty₁ := h₁.2.answers hplenty
  have hcreated := spares_createEvent (T := IsCursorType) (event d₁.cursor) d₁
  have hsome : (createEvent (event d₁.cursor) d₁).2 = some ⟨d₁.drm.nextSerial, event d₁.cursor⟩ := by
    have hhead : d₁.drm.kzalloc.head = true := hplenty₁ 0
    rw [createEvent, if_pos hhead]
  rw [hsome]
  refine Prog.Under.bind (Prog.under_read fun d₂ h₂ => ?_)
  rw [h₂.1.canSend, if_pos rfl]
  refine Prog.Under.bind (Prog.under_modify fun d₃ h₃ => ?_)
  -- the event is about the cursor as it still is
  have hkept := (hcreated.trans h₂.2).trans h₃.2
  let e : PendingEvent := ⟨d₁.drm.nextSerial, event d₁.cursor⟩
  have hadded : Spares (IsOther type) d₃ (painterAddEventToPendingList e d₃) :=
    spares_addEvent (fun h => h.2 (htype d₁.cursor)) d₃
  have hshown : Shown type shows n (painterAddEventToPendingList e d₃) := by
    intro _
    obtain ⟨⟨p, hp, -⟩, -⟩ := h₃.1
    refine ⟨event d₁.cursor, ?_, ?_⟩
    · simp only [painterAddEventToPendingList, Device.stream, Device.pendingEvents, hp, Option.elim_some]
      exact lastOf_push_self _ _ (htype d₁.cursor)
    · rw [hadded.cursor, hkept.cursor]
      exact hshows _
  have hkeep (d d' : Device) (h : Shown type shows n d ∧ I d ∧ Plenty d)
      (hdd' : Spares IsCursorType d d') : Shown type shows n d' ∧ I d' ∧ Plenty d' :=
    ⟨h.1.spares hdd' hcursor, hI _ _ h.2.1 (hother hdd'), hdd'.answers h.2.2⟩
  have hI₃ := hI _ _ (hI _ _ hd (hother (h₁.2.trans hkept))) hadded
  exact Prog.under_of_preserves (fun d d' h hR => hkeep d d' h hR.2) hkeep leaves_flushOrSchedule
    ⟨hshown, hI₃, hadded.answers (hkept.answers hplenty₁)⟩

/-! ### Updates of the cursor's plane -/

/-- A `CURSOR_SET` event that shows the cursor's image, with a handle for it. -/
def ShowsImage (c : Cursor) (e : Event) : Prop := ∃ handle, handle ≠ 0 ∧ e = cursorSetEvent c handle

/-- A `CURSOR_MOVE` event that shows the cursor's position. -/
def ShowsPosition (c : Cursor) (e : Event) : Prop := e = .cursorMove c.x c.y

theorem cursorSetEvent_type (c : Cursor) (handle : UInt32) :
    (cursorSetEvent c handle).type = cursorSetType := by
  unfold cursorSetEvent
  split
  · split_ifs <;> rfl
  · rfl

/-- The last events show the cursor, up to what is still to be sent. -/
structure Mirrored (n m : ℕ) (image position : Bool) (d : Device) : Prop where
  image : image = false → Shown cursorSetType ShowsImage n d
  position : position = false → Shown cursorMoveType ShowsPosition m d
  plenty : Plenty d

theorem Mirrored.spares {n m : ℕ} {image position : Bool} {d d' : Device}
    (h : Mirrored n m image position d) (hd : Spares IsCursorType d d') :
    Mirrored n m image position d' where
  image hi := (h.image hi).spares hd (.inl rfl)
  position hp := (h.position hp).spares hd (.inr rfl)
  plenty := hd.answers h.plenty

theorem cursor_drmGemObjectRef (obj : Option GemRef) (n : ℤ) (d : Device) :
    (drmGemObjectRef obj n d).cursor = d.cursor := by
  cases obj <;> rfl

/-- The cursor's place, and all that is about the queue. -/
def placeView (d : Device) := (d.cursor.x, d.cursor.y, queueView d)

theorem placeView_cursorSetGem (obj : Option GemRef) (d : Device) :
    placeView (cursorSetGem obj d) = placeView d := by
  have hcursor : (cursorSetGem obj d).cursor = { d.cursor with obj := obj } := by
    simp [cursorSetGem, cursor_drmGemObjectRef]
  rw [placeView, placeView, queueView_cursorSetGem, hcursor]

/-- A new image, or none, leaves the cursor in its place. -/
theorem placeView_cursorShow (fb : Option Framebuffer) (env : CursorEnv) :
    (cursorShow fb env).Preserves (fun _ => True) fun d d' => placeView d' = placeView d := by
  have henable (enable : Bool) : (Prog.modify (cursorEnable enable)).Preserves (fun _ => True)
      fun d d' => placeView d' = placeView d := by
    refine Prog.preserves_modify fun d _ => ?_
    cases enable with
    | true => rfl
    | false => exact placeView_cursorSetGem none _
  cases fb with
  | none => exact henable false
  | some fb =>
    refine (Prog.preserves_modify fun d _ => ?_).bind fun _ => henable true
    exact placeView_cursorSetGem _ _

/-- What keeps the cursor in its place keeps what is shown of its place. -/
theorem Mirrored.of_placeView {n m : ℕ} {position : Bool} {d d' : Device}
    (h : Mirrored n m true position d) (hd : placeView d' = placeView d) :
    Mirrored n m true position d' := by
  simp only [placeView, Prod.mk.injEq] at hd
  obtain ⟨hx, hy, hqueue⟩ := hd
  have hkept : Spares (fun _ => True) d { d' with cursor := d.cursor } :=
    spares_of_queueView hqueue rfl
  refine ⟨fun hi => absurd hi (by decide), fun hp hn => ?_, hkept.answers h.plenty⟩
  obtain ⟨e, he, hshows⟩ := (h.position hp).spares hkept trivial hn
  refine ⟨e, he, ?_⟩
  rw [ShowsPosition, hx, hy]
  exact hshows

theorem Mirrored.cursorMove {n m : ℕ} {x y : Int32} {moved : Bool} {d : Device}
    (h : Mirrored n m false false d) (hmoved : moved = false → d.cursor.x = x ∧ d.cursor.y = y) :
    Mirrored n m false moved (cursorMove x y d) := by
  refine ⟨h.image, fun hm hn => ?_, h.plenty⟩
  obtain ⟨e, he, hshows⟩ := h.position rfl hn
  obtain ⟨hx, hy⟩ := hmoved hm
  refine ⟨e, he, ?_⟩
  rw [ShowsPosition, hx, hy] at hshows
  exact hshows

section

variable {file : DrmFile} {n m : ℕ} {image position : Bool} {d : Device}

theorem under_cursorShow (fb : Option Framebuffer) (env : CursorEnv)
    (hd : Mirrored n m false position d) :
    (Prog.when image (cursorShow fb env)).Under (Rely file)
      (fun _ => Mirrored n m image position) d := by
  refine Prog.under_when (fun hi => ?_) fun hi => ?_
  · rw [hi]
    refine Prog.under_of_preserves (fun d d' h hR => h.spares hR.2)
      (fun d d' h hplace => h.of_placeView hplace) (placeView_cursorShow fb env) ?_
    exact ⟨fun h => absurd h (by decide), hd.position, hd.plenty⟩
  · rwa [hi]

theorem under_sendCursorSet {handle : UInt32} (hhandle : handle ≠ 0) (hd : Mirrored n m image position d) :
    (Prog.when image (painterSendCursorSet handle)).Under (Rely file)
      (fun _ => Mirrored n m false position) d := by
  refine Prog.under_when (fun hi => ?_) fun hi => ?_
  · have hsend := under_sendCursor file
      (I := fun d => position = false → Shown cursorMoveType ShowsPosition m d) (.inl rfl)
      (fun c => cursorSetEvent c handle) (fun c => cursorSetEvent_type c handle) ShowsImage
      (fun c => ⟨handle, hhandle, rfl⟩) (fun d d' h hk hp => (h hp).spares hk ⟨.inr rfl, by decide⟩) n
      hd.position hd.plenty
    exact hsend.mono fun _ d h => ⟨fun _ => h.1, h.2.1, h.2.2⟩
  · rwa [hi] at hd

theorem under_sendCursorMove (hd : Mirrored n m false position d) :
    (Prog.when position painterSendCursorMove).Under (Rely file)
      (fun _ => Mirrored n m false false) d := by
  refine Prog.under_when (fun hp => ?_) fun hp => ?_
  · have hsend := under_sendCursor file
      (I := fun d => false = false → Shown cursorSetType ShowsImage n d) (.inr rfl)
      (fun c => .cursorMove c.x c.y) (fun _ => rfl) ShowsPosition (fun _ => rfl)
      (fun d d' h hk hi => (h hi).spares hk ⟨.inl rfl, by decide⟩) m hd.image hd.plenty
    exact hsend.mono fun _ d h => ⟨h.2.1, fun _ => h.1, h.2.2⟩
  · rwa [hp] at hd

/-- A handle for the cursor's object is made, where one is. -/
def PlaneUpdate.HandleMade : PlaneUpdate → Prop
  | .primary .. => True
  | .cursor _ _ env => env.gemHandle ≠ 0

/-- So it is in all updates of the commit. -/
def Commit.HandlesMade (c : Commit) : Prop := ∀ u ∈ c.updates, u.HandleMade

/-- **An update of the cursor's plane** leaves the last events showing the cursor, whatever other threads
do. -/
theorem under_cursorAtomicUpdate (old new : PlaneState) {env : CursorEnv} (henv : env.gemHandle ≠ 0)
    (hd : Mirrored n m false false d) :
    (cursorAtomicUpdate old new env).Under (Rely file) (fun _ => Mirrored n m false false) d := by
  refine Prog.Under.bind (Prog.under_read fun d₁ h₁ => ?_)
  refine Prog.Under.bind (Prog.under_modify fun d₂ h₂ => ?_)
  have hd₂ := (hd.spares h₁.2).spares h₂.2
  have hmoved : Mirrored n m false (d₁.cursor.x != new.crtcX || d₁.cursor.y != new.crtcY)
      (cursorMove new.crtcX new.crtcY d₂) := by
    refine hd₂.cursorMove fun hm => ?_
    rw [h₂.2.cursor]
    simpa using hm
  refine Prog.Under.bind ((under_cursorShow new.fb env hmoved).mono fun _ d₃ hd₃ => ?_)
  refine Prog.Under.bind (Prog.under_read fun d₄ h₄ => ?_)
  rw [h₄.1.2, if_pos rfl]
  have hd₄ := hd₃.spares h₄.2
  exact Prog.Under.bind ((under_sendCursorSet henv hd₄).mono fun _ d₅ hd₅ =>
    under_sendCursorMove hd₅)

/-- **A commit** leaves the last events showing the cursor. -/
theorem under_commit {c : Commit} (hc : c.HandlesMade) (hd : Mirrored n m false false d) :
    c.run.Under (Rely file) (fun _ => Mirrored n m false false) d := by
  have hquiet {p : Prog Device Unit} (hp : Leaves IsCursorType p) {d : Device}
      (hd : Mirrored n m false false d) :
      p.Under (Rely file) (fun _ => Mirrored n m false false) d :=
    Prog.under_of_preserves (fun d d' h hR => h.spares hR.2) (fun d d' h hG => h.spares hG) hp hd
  have hupdates : (Prog.each PlaneUpdate.run c.updates).Under (Rely file)
      (fun _ => Mirrored n m false false) d := by
    refine Prog.under_each (fun u hu d hd => ?_) hd
    cases u with
    | primary old new damage => exact hquiet (leaves_rules.planeAtomicUpdate old new damage) hd
    | cursor old new env => exact under_cursorAtomicUpdate old new (hc _ hu) hd
  exact Prog.Under.bind (hupdates.mono fun _ d hd => hquiet (leaves_rules.crtcAtomicFlush _ _) hd)

end

/-! ### Clients and other threads -/

/-- A call that does not end the session keeps the cursor and what was sent. -/
theorem ClientSection.spares {f : Device → Device} (h : ClientSection f) {file : DrmFile} {d : Device}
    (hd : Session file (f d)) : Spares IsCursorType d (f d) := by
  have hdisconnect {file' : DrmFile} (hd : Session file (painterDisconnect file' d).1) :
      Spares IsCursorType d (painterDisconnect file' d).1 := by
    rcases painterDisconnect_cases file' d with heq | ⟨p, hp, hfile⟩
    · rw [heq]
      exact .refl d
    · rw [painterDisconnect_owner hp hfile] at hd
      exact absurd hd.2 (by simp)
  cases h with
  | requestUpdate =>
    dsimp only
    rcases painterRequestUpdateIoctl_device d with heq | heq
    · rw [heq]
      exact .refl d
    · rw [heq]
      exact spares_of_queueView (queueView_onPainter d) rfl
  | grabpix cmd =>
    dsimp only
    rcases painterGrabpixLocked_cases cmd d with ⟨err, heq, -⟩ | ⟨p, -, -, heq⟩ |
      ⟨p, efb, cmd', -, -, -, heq⟩
    · rw [heq]
      exact .refl d
    · rw [heq]
      exact spares_of_queueView (queueView_onPainter d) rfl
    · rw [heq]
      exact spares_of_queueView (queueView_onPainter _) rfl
  | grabpixDone g => exact spares_of_queueView (queueView_grabpixFinish g d) (sendVblank_cursor _ _ d)
  | connect user ans cmd file' =>
    dsimp only at hd ⊢
    rcases painterConnectIoctl_cases user ans cmd file' d with ⟨err, heq, -⟩ |
      ⟨edid, -, -, -, -, heq⟩ | ⟨-, heq⟩
    · rw [heq]
      exact .refl d
    · rw [heq]
      refine spares_of_queueView ?_ rfl
      exact queueView_onPainter (f := (·.connected file' cmd.edidLength edid)) d
    · rw [heq] at hd ⊢
      exact hdisconnect hd
  | close file' =>
    rw [painterClose_eq] at hd ⊢
    exact hdisconnect hd
  | ddcciResponse user kzalloc cmd =>
    obtain ⟨buffer, length, received, heq⟩ := painterDdcciResponseIoctl_device user kzalloc cmd d
    dsimp only
    rw [heq]
    exact spares_of_queueView (queueView_onPainter d) rfl
  | enableCursorEvents cmd => exact ⟨rfl, id, fun _ _ => rfl, fun _ _ => rfl⟩

/-! ### Runs -/

/-- A step in a session that lasts, and in which handles can be made. -/
def Desktop.SessionStep (file : DrmFile) (s : Desktop) (a : Desktop.Action) (t : Desktop) : Prop :=
  (Desktop.Step s a t ∧ Session file t.device) ∧ ∀ c, a = .commit c → c.HandlesMade

/-- The threads beside the commits leave the cursor's events alone. -/
def Desktop.Beside (s : Desktop) : Prop := ∀ p ∈ s.threads, Leaves IsCursorType p

theorem leaves_beside (p : Prog Device Unit) (h : BesideThread p) : Leaves IsCursorType p :=
  h.rules leaves_rules

theorem Desktop.Step.beside {s t : Desktop} {a : Desktop.Action} (h : Desktop.Step s a t)
    (hs : s.Beside) : t.Beside := by
  cases h with
  | client hcall => exact hs
  | commit c hidle => exact hs
  | «section» hcommit => exact hs
  | thread hpool => exact (hpool.preserves Spares.refl leaves_beside hs).2
  | switchConsole console => exact hs

/-- **Every step** of a session leaves the commit under way such that the last events show the cursor at
its end. -/
theorem Desktop.SessionStep.under {file : DrmFile} {n m : ℕ} {s t : Desktop} {a : Desktop.Action}
    (h : Desktop.SessionStep file s a t) (hsession : Session file s.device) (hs : s.Beside)
    (hunder : s.commit.Under (Rely file) (fun _ => Mirrored n m false false) s.device) :
    t.commit.Under (Rely file) (fun _ => Mirrored n m false false) t.device := by
  obtain ⟨⟨hstep, hsession'⟩, hhandles⟩ := h
  have hother {d : Device} (hd : Rely file s.device d) :
      s.commit.Under (Rely file) (fun _ => Mirrored n m false false) d := by
    refine Prog.Under.rely (fun d d' d'' h h' => h.trans h') (fun _ d d' h hR => ?_) hunder hd
    exact h.spares hR.2
  cases hstep with
  | client hcall =>
    obtain ⟨f, hf, heq⟩ := hcall.section
    refine hother ⟨hsession', ?_⟩
    rw [heq] at hsession' ⊢
    exact hf.spares hsession'
  | commit c hidle =>
    rw [hidle] at hunder
    exact under_commit (hhandles c rfl) hunder
  | @«section» f k hcommit =>
    rw [hcommit] at hunder
    exact hunder s.device ⟨hsession, .refl _⟩
  | thread hpool => exact hother ⟨hsession', (hpool.preserves Spares.refl leaves_beside hs).1⟩
  | switchConsole console => exact hother ⟨hsession', ⟨rfl, id, fun _ _ => rfl, fun _ _ => rfl⟩⟩

/-- **The client sees the cursor.** In every run of a device with all of its threads, from any moment of a
session at which no commit is under way and from which on there is memory for events and handles: as long as
the session lasts and whenever no commit is under way, the last `CURSOR_SET` event in what the client has
read or will read shows the image of the cursor, with a handle for it, if one was sent since, and the last
`CURSOR_MOVE` event its position, if one was sent since. -/
theorem cursor_mirrored {fgConsole : ℤ} {drm : DrmCore} {file : DrmFile} {as bs : List Desktop.Action}
    {s t : Desktop} (h : Run Desktop.Step (Desktop.init fgConsole drm) as s)
    (hidle : s.commit = .pure ()) (hsession : Session file s.device)
    (hplenty : ∀ n, s.device.drm.kzalloc n = true) (hrun : Run (Desktop.SessionStep file) s bs t)
    (hover : t.commit = .pure ()) :
    (s.device.sent cursorSetType < t.device.sent cursorSetType →
      ∃ handle, handle ≠ 0 ∧
        lastOf cursorSetType t.device.stream = some (cursorSetEvent t.device.cursor handle)) ∧
    (s.device.sent cursorMoveType < t.device.sent cursorMoveType →
      lastOf cursorMoveType t.device.stream =
        some (.cursorMove t.device.cursor.x t.device.cursor.y)) := by
  have hbeside : s.Beside :=
    h.invariant (fun _ _ _ hs hstep => hstep.beside hs) (by simp [Desktop.Beside, Desktop.init])
  have hstart : Mirrored (s.device.sent cursorSetType) (s.device.sent cursorMoveType) false false
      s.device :=
    ⟨fun _ hlt => absurd hlt (lt_irrefl _), fun _ hlt => absurd hlt (lt_irrefl _), hplenty⟩
  have hend := hrun.invariant (I := fun t => Session file t.device ∧ t.Beside ∧
      t.commit.Under (Rely file) (fun _ => Mirrored (s.device.sent cursorSetType)
        (s.device.sent cursorMoveType) false false) t.device)
    (fun _ _ _ hs hstep => ⟨hstep.1.2, hstep.1.1.beside hs.2.1, hstep.under hs.1 hs.2.1 hs.2.2⟩)
    ⟨hsession, hbeside, by rwa [hidle]⟩
  have hmirrored := hend.2.2
  rw [hover] at hmirrored
  refine ⟨fun hsent => ?_, fun hsent => ?_⟩
  · obtain ⟨e, he, handle, hhandle, rfl⟩ := hmirrored.image rfl hsent
    exact ⟨handle, hhandle, he⟩
  · obtain ⟨e, he, rfl⟩ := hmirrored.position rfl hsent
    exact he

/-! ### A session with a cursor -/

theorem SendSection.cursorEventsEnabled_eq {f : Device → Device} (h : SendSection f) (d : Device) :
    (f d).cursorEventsEnabled = d.cursorEventsEnabled := by
  rw [(h.effect d).rest]

theorem cursorEventsEnabled_sendVblank (crtc : Option Crtc) (vblank : Option VblankEvent) (d : Device) :
    (sendVblank crtc vblank d).cursorEventsEnabled = d.cursorEventsEnabled := by
  rw [sendVblank_eq]
  rfl

theorem cursorEventsEnabled_setVblank (crtc : Option Crtc) (vblank : Option VblankEvent) (d : Device) :
    (painterSetVblank crtc vblank d).cursorEventsEnabled = d.cursorEventsEnabled := by
  have hsend : (painterSendVblank d).cursorEventsEnabled = d.cursorEventsEnabled := by
    unfold painterSendVblank
    cases d.painter with
    | none => rfl
    | some p => exact cursorEventsEnabled_sendVblank _ _ d
  unfold painterSetVblank
  cases d.painter with
  | none => exact cursorEventsEnabled_sendVblank crtc vblank d
  | some p =>
    dsimp only
    split_ifs
    · exact hsend
    · exact (cursorEventsEnabled_sendVblank _ _ _).trans hsend

/-- No section of a commit changes whether the client gets cursor events. -/
theorem CommitSection.cursorEventsEnabled_eq {f : Device → Device} (h : CommitSection f) (d : Device) :
    (f d).cursorEventsEnabled = d.cursorEventsEnabled := by
  cases h with
  | send h => exact h.cursorEventsEnabled_eq d
  | cursorSet obj ans image => exact cursorEventsEnabled_cursorSetGem _ _
  | cursorEnable enable => exact cursorEventsEnabled_cursorEnable enable d
  | setVblank crtc vblank => exact cursorEventsEnabled_setVblank crtc vblank d
  | updateReady =>
    dsimp only
    rw [updateReadyIfNeeded_exec]
    split_ifs
    · exact (createAndSend_uses .updateReady).exec_eq (v := (·.cursorEventsEnabled))
        (fun _ hf => hf.cursorEventsEnabled_eq) d
    · rfl
  | _ => rfl

/-- No section of a commit ends a session. -/
theorem CommitSection.session {f : Device → Device} (h : CommitSection f) {file : DrmFile} {d : Device}
    (hd : Session file d) : Session file (f d) := by
  obtain ⟨⟨p, hp, hfile, hconnected⟩, hevents⟩ := hd
  have hview := h.painter_eq (v := fun p => (p.core.isConnected, p.core.drmFilp))
    (fun p q hcore => by rw [hcore]) (fun p r => by unfold Painter.markDirty; cases p.scanoutFb <;> rfl)
    (fun _ _ => rfl) d
  constructor
  · rw [hp, Option.map_some, Option.map_eq_some_iff] at hview
    obtain ⟨q, hq, heq⟩ := hview
    obtain ⟨hqconnected, hqfile⟩ := Prod.mk.inj heq
    exact ⟨q, hq, hqfile.trans hfile, hqconnected.trans hconnected⟩
  · rw [h.cursorEventsEnabled_eq, hevents]

/-- A commit that runs to its end with nothing in between. -/
theorem Desktop.run_commit {file : DrmFile} {p : Prog Device Unit} (hp : p.Uses CommitSection)
    (s : Desktop) (hs : Session file s.device) : ∃ bs, Run (Desktop.SessionStep file)
      { s with commit := p } bs { s with device := (p.exec s.device).1, commit := .pure () } := by
  induction p generalizing s with
  | pure a => exact ⟨[], Run.nil _⟩
  | sec f k ih =>
    have hf := hp.1.session hs
    obtain ⟨bs, hrun⟩ := ih s.device (hp.2 s.device) { s with device := f s.device } hf
    have hstep : Desktop.SessionStep file { s with commit := .sec f k } .section
        { s with device := f s.device, commit := k s.device } := ⟨⟨.section rfl, hf⟩, by simp⟩
    exact ⟨_, (Run.one hstep).append hrun⟩

/-- A first image of the cursor, and its event. -/
theorem cursor_mirrored_first : ∃ t : Desktop, t.device.cursor.enabled = true ∧ ∃ handle, handle ≠ 0 ∧
    lastOf cursorSetType t.device.stream = some (cursorSetEvent t.device.cursor handle) := by
  let s₀ := Desktop.init 0 (.init (.const true) (.const true))
  let d₁ := (painterConnectIoctl (fun _ => sampleUser 0) ⟨true, true⟩ .sample 1 s₀.device).1
  let s : Desktop := { s₀ with device := { d₁ with cursorEventsEnabled := true } }
  have hconnect : Desktop.Step s₀ (.client (.connect .sample 1 0)) { s₀ with device := d₁ } :=
    .client (.connect (fun _ => sampleUser 0) ⟨true, true⟩ (Prod.ext rfl rfl))
  have henable : Desktop.Step { s₀ with device := d₁ } (.client (.enableCursorEvents ⟨1⟩)) s :=
    .client (.enableCursorEvents ⟨1⟩)
  have hsession : Session 1 s.device := ⟨⟨_, rfl, rfl, rfl⟩, rfl⟩
  let env : CursorEnv := ⟨fun ref => ⟨ref, none, 0, false, fun _ => 0⟩, ⟨0, true, .ok [], true⟩, 7⟩
  let c := Commit.sample [.cursor (.sample none) (.sample (some (.sample 1 64 64 256))) env]
  obtain ⟨bs, hrun⟩ := Desktop.run_commit c.run_uses s hsession
  have hhandles : c.HandlesMade := by
    intro u hu
    obtain rfl := List.mem_singleton.1 hu
    exact (by decide : (7 : UInt32) ≠ 0)
  have hcommit : Desktop.SessionStep 1 s (.commit c) { s with commit := c.run } :=
    ⟨⟨.commit c rfl, hsession⟩, fun c' hc' => Desktop.Action.commit.inj hc' ▸ hhandles⟩
  have hall := (Run.one hcommit).append hrun
  exact ⟨_, by decide +kernel, (cursor_mirrored ((Run.one hconnect).snoc henable) rfl hsession
    (fun _ => rfl) hall rfl).1 (by decide +kernel)⟩

end Evdi
