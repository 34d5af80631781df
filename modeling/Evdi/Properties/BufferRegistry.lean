import Evdi.Model.BufferList

/-!
# The registry of buffers

A handle keeps its buffers as a linked list.  Over all calls on a handle the list is a finite map from
ids to buffers.

* `EvdiHandle.findBufferFrom_spec`, `addFrameBufferAt_spec`, `removeFrameBufferFrom_spec`: each walk
  from any place of a list, with the number of turns it needs;
* `registry`, `requested`: what the calls have registered, and for which id an update was requested;
* `EvdiHandle.Inv`: the list of the handle against the calls made so far;
* `buffer_registry`: the result.
-/

namespace Evdi

open Linked Transition Retry

/-- The entry of a buffer in the list: the address of its node, and the buffer. -/
abbrev BufferEntry := ℕ × EvdiBuffer

/-- The first entry with the id. -/
def findEntry (entries : List BufferEntry) (id : Int32) : Option BufferEntry :=
  entries.find? fun e => e.2.id == id

/-- The entries that `removeFrameBuffer` leaves. -/
def keptEntries (id : Option Int32) (entries : List BufferEntry) : List BufferEntry :=
  entries.filter fun e => ¬ (id = none ∨ id = some e.2.id)

theorem findEntry_cons (e : BufferEntry) (entries : List BufferEntry) (id : Int32) :
    findEntry (e :: entries) id = if e.2.id = id then some e else findEntry entries id := by
  by_cases h : e.2.id = id <;> simp [findEntry, h]

theorem keptEntries_cons (id : Option Int32) (e : BufferEntry) (entries : List BufferEntry) :
    keptEntries id (e :: entries) =
      if id = none ∨ id = some e.2.id then keptEntries id entries else e :: keptEntries id entries := by
  by_cases h : id = none ∨ id = some e.2.id
  · rw [if_pos h, keptEntries, List.filter_cons_of_neg (by rw [decide_not, decide_eq_true h]; simp)]
    rfl
  · rw [if_neg h, keptEntries, List.filter_cons_of_pos (by rw [decide_not, decide_eq_false h]; simp)]
    rfl

namespace EvdiHandle

/-! ### The walks -/

section

variable {m : Memory EvdiBuffer} {l r : List BufferEntry}

/-- The loop of `findBuffer` in the middle of a list. -/
theorem findBufferFrom_spec (h : Lists m (l ++ r)) (id : Int32) (n : ℕ) :
    findBufferFrom m id n (first r) = some ((findEntry r id).map Prod.fst) ∨
      findBufferFrom m id n (first r) = none ∧ n < r.length := by
  induction r generalizing l n with
  | nil => exact .inl (by cases n <;> rfl)
  | cons e r ih =>
    cases n with
    | zero => exact .inr ⟨rfl, by simp⟩
    | succ n =>
      have hstep : findBufferFrom m id (n + 1) (first (e :: r)) =
          if e.2.id = id then some (some e.1) else findBufferFrom m id n (first r) := by
        rw [first_cons, findBufferFrom, h.node]
        rfl
      rw [hstep, findEntry_cons, List.length_cons]
      by_cases hid : e.2.id = id
      · exact .inl (by rw [if_pos hid, if_pos hid]; rfl)
      · rw [if_neg hid, if_neg hid]
        have hrest := ih (l := l ++ [e]) (by simpa using h) n
        exact hrest.imp_right fun hnone => ⟨hnone.1, by omega⟩

/-- The loop of `addFrameBuffer` in the middle of a list. -/
theorem addFrameBufferAt_spec (h : Lists m (l ++ r)) {a : ℕ} (ha : m.node a = none) (b : EvdiBuffer)
    (n : ℕ) :
    (∃ m', addFrameBufferAt (some a) b n (lastLink l) m = some m' ∧ Lists m' (l ++ r ++ [(a, b)])) ∨
      addFrameBufferAt (some a) b n (lastLink l) m = none ∧ n ≤ r.length := by
  induction r generalizing l n with
  | nil =>
    cases n with
    | zero => exact .inr ⟨rfl, le_rfl⟩
    | succ n =>
      rw [List.append_nil] at h ⊢
      obtain ⟨m', hstore, hlists⟩ := h.append (v := b) ha
      refine .inl ⟨m', ?_, hlists⟩
      rw [addFrameBufferAt, Memory.load_lastLink h.segment]
      exact hstore
  | cons e r ih =>
    cases n with
    | zero => exact .inr ⟨rfl, Nat.zero_le _⟩
    | succ n =>
      have hstep : addFrameBufferAt (some a) b (n + 1) (lastLink l) m =
          addFrameBufferAt (some a) b n (lastLink (l ++ [e])) m := by
        rw [addFrameBufferAt, h.load, lastLink_concat]
        rfl
      rw [hstep, List.length_cons, Nat.succ_le_succ_iff]
      simpa using ih (l := l ++ [e]) (by simpa using h) n

/-- The loop of `removeFrameBuffer` in the middle of a list. -/
theorem removeFrameBufferFrom_spec (h : Lists m (l ++ r)) (id : Option Int32) (n : ℕ) :
    (∃ m', removeFrameBufferFrom id n (lastLink l) (first r) m = some m' ∧
        Lists m' (l ++ keptEntries id r)) ∨
      removeFrameBufferFrom id n (lastLink l) (first r) m = none ∧ n < r.length := by
  induction r generalizing l m n with
  | nil => exact .inl ⟨m, by cases n <;> rfl, h⟩
  | cons e r ih =>
    cases n with
    | zero => exact .inr ⟨rfl, by simp⟩
    | succ n =>
      by_cases hid : id = none ∨ id = some e.2.id
      · -- the node is freed, and the walk goes on behind the same link
        obtain ⟨m₁, m₂, hfree, hstore, hlists⟩ := h.unlink
        have hstep : removeFrameBufferFrom id (n + 1) (lastLink l) (first (e :: r)) m =
            removeFrameBufferFrom id n (lastLink l) (first r) m₂ := by
          simp only [first_cons, removeFrameBufferFrom, h.node, bind, Option.bind_some, if_pos hid,
            hfree, hstore]
        rw [hstep, keptEntries_cons, if_pos hid, List.length_cons]
        exact (ih hlists n).imp_right fun hnone => ⟨hnone.1, by omega⟩
      · have hstep : removeFrameBufferFrom id (n + 1) (lastLink l) (first (e :: r)) m =
            removeFrameBufferFrom id n (lastLink (l ++ [e])) (first r) m := by
          simp only [first_cons, removeFrameBufferFrom, h.node, bind, Option.bind_some, if_neg hid,
            lastLink_concat]
        rw [hstep, keptEntries_cons, if_neg hid, List.length_cons, Nat.succ_lt_succ_iff]
        simpa using ih (l := l ++ [e]) (by simpa using h) n

end

/-- Without memory nothing is added. -/
theorem addFrameBufferAt_none (b : EvdiBuffer) (n : ℕ) (node : Link) (m : Memory EvdiBuffer) :
    addFrameBufferAt none b n node m = none := by
  induction n generalizing node with
  | zero => rfl
  | succ n ih =>
    rw [addFrameBufferAt]
    rcases hload : m.load node with _ | _ | a
    · rfl
    · rfl
    · exact ih (.next a)

/-! ### The calls -/

section

variable {h : EvdiHandle} {entries : List BufferEntry}

theorem findBuffer_spec (hl : Lists h.frameBuffers entries) (id : Int32) (n : ℕ) :
    h.findBuffer n id = some ((findEntry entries id).map Prod.fst) ∨
      h.findBuffer n id = none ∧ n < entries.length := by
  rw [findBuffer, hl.head_eq]
  exact findBufferFrom_spec (l := []) hl id n

theorem findBuffer_eq (hl : Lists h.frameBuffers entries) (id : Int32) {n : ℕ}
    (hn : entries.length ≤ n) : h.findBuffer n id = some ((findEntry entries id).map Prod.fst) :=
  (findBuffer_spec hl id n).resolve_right fun hnone => absurd hnone.2 (by omega)

theorem addFrameBuffer_spec (hl : Lists h.frameBuffers entries) {a : ℕ}
    (ha : h.frameBuffers.node a = none) (b : EvdiBuffer) (n : ℕ) :
    (∃ h', h.addFrameBuffer n (some a) b = some h' ∧ Lists h'.frameBuffers (entries ++ [(a, b)]) ∧
        h'.bufferToUpdate = h.bufferToUpdate) ∨
      h.addFrameBuffer n (some a) b = none ∧ n ≤ entries.length := by
  rw [addFrameBuffer]
  rcases addFrameBufferAt_spec (l := []) hl ha b n with ⟨m', hm', hlists⟩ | ⟨hnone, hn⟩
  · rw [lastLink_nil] at hm'
    exact .inl ⟨{ h with frameBuffers := m' }, by rw [hm']; rfl, hlists, rfl⟩
  · rw [lastLink_nil] at hnone
    exact .inr ⟨by rw [hnone]; rfl, hn⟩

theorem removeFrameBuffer_spec (hl : Lists h.frameBuffers entries) (id : Option Int32) (n : ℕ) :
    (∃ h', h.removeFrameBuffer n id = some h' ∧ Lists h'.frameBuffers (keptEntries id entries) ∧
        h'.bufferToUpdate = h.bufferToUpdate) ∨
      h.removeFrameBuffer n id = none ∧ n < entries.length := by
  rw [removeFrameBuffer, hl.head_eq]
  rcases removeFrameBufferFrom_spec (l := []) hl id n with ⟨m', hm', hlists⟩ | ⟨hnone, hn⟩
  · rw [lastLink_nil] at hm'
    exact .inl ⟨{ h with frameBuffers := m' }, by rw [hm']; rfl, hlists, rfl⟩
  · rw [lastLink_nil] at hnone
    exact .inr ⟨by rw [hnone]; rfl, hn⟩

/-- A buffer that may be registered is, when there are turns enough. -/
theorem evdiRegisterBuffer_spec (hl : Lists h.frameBuffers entries) {a : ℕ} {b : EvdiBuffer}
    (hid : findEntry entries b.id = none) (ha : h.frameBuffers.node a = none) (n : ℕ) :
    (∃ h', evdiRegisterBuffer n (some a) b h = some h' ∧
        Lists h'.frameBuffers (entries ++ [(a, b)]) ∧ h'.bufferToUpdate = h.bufferToUpdate) ∨
      evdiRegisterBuffer n (some a) b h = none ∧ n ≤ entries.length := by
  rcases findBuffer_spec hl b.id n with hfind | ⟨hfind, hn⟩
  · have hcall : evdiRegisterBuffer n (some a) b h = h.addFrameBuffer n (some a) b := by
      rw [evdiRegisterBuffer, hfind, hid]
      rfl
    rw [hcall]
    exact addFrameBuffer_spec hl ha b n
  · exact .inr ⟨by rw [evdiRegisterBuffer, hfind]; rfl, hn.le⟩

/-- The assertion of `evdi_register_buffer`, and the copy to `NULL` behind it. -/
theorem of_evdiRegisterBuffer (hl : Lists h.frameBuffers entries) {h' : EvdiHandle} {n : ℕ}
    {calloc : Option ℕ} {b : EvdiBuffer} (hcall : evdiRegisterBuffer n calloc b h = some h') :
    findEntry entries b.id = none ∧ ∃ a, calloc = some a := by
  rcases findBuffer_spec hl b.id n with hfind | ⟨hfind, -⟩
  · rw [evdiRegisterBuffer, hfind] at hcall
    cases hentry : findEntry entries b.id with
    | some e =>
      rw [hentry] at hcall
      exact absurd hcall (by simp)
    | none =>
      refine ⟨rfl, Option.ne_none_iff_exists'.1 ?_⟩
      rintro rfl
      rw [hentry] at hcall
      simp [addFrameBuffer, addFrameBufferAt_none] at hcall
  · rw [evdiRegisterBuffer, hfind] at hcall
    exact absurd hcall (by simp)

/-- An id that is registered can be unregistered, when there are turns enough. -/
theorem evdiUnregisterBuffer_spec (hl : Lists h.frameBuffers entries) {id : Int32} {e : BufferEntry}
    (hid : findEntry entries id = some e) (n : ℕ) :
    (∃ h', evdiUnregisterBuffer n id h = some h' ∧
        Lists h'.frameBuffers (keptEntries (some id) entries) ∧
        h'.bufferToUpdate = h.bufferToUpdate) ∨
      evdiUnregisterBuffer n id h = none ∧ n < entries.length := by
  rcases findBuffer_spec hl id n with hfind | ⟨hfind, hn⟩
  · have hcall : evdiUnregisterBuffer n id h = h.removeFrameBuffer n (some id) := by
      rw [evdiUnregisterBuffer, hfind, hid]
      rfl
    rw [hcall]
    exact removeFrameBuffer_spec hl (some id) n
  · exact .inr ⟨by rw [evdiUnregisterBuffer, hfind]; rfl, hn⟩

/-- The assertion of `evdi_unregister_buffer`. -/
theorem of_evdiUnregisterBuffer (hl : Lists h.frameBuffers entries) {h' : EvdiHandle} {n : ℕ}
    {id : Int32} (hcall : evdiUnregisterBuffer n id h = some h') :
    ∃ e, findEntry entries id = some e := by
  refine Option.ne_none_iff_exists'.1 fun hnone => ?_
  rcases findBuffer_spec hl id n with hfind | ⟨hfind, -⟩
  · rw [evdiUnregisterBuffer, hfind, hnone] at hcall
    exact absurd hcall (by simp)
  · rw [evdiUnregisterBuffer, hfind] at hcall
    exact absurd hcall (by simp)

/-! ### The list without its nodes -/

/-- The handle with the list of its buffers in place of their nodes. -/
def context (h : EvdiHandle) (entries : List BufferEntry) : EvdiDeviceContext where
  bufferToUpdate := h.bufferToUpdate
  frameBuffers := entries.map Prod.snd

theorem findBuffer_context (h : EvdiHandle) (entries : List BufferEntry) (id : Int32) :
    Evdi.findBuffer (h.context entries) id = (findEntry entries id).map Prod.snd :=
  List.find?_map ..

/-- Grabbing through the nodes is grabbing from the list. -/
theorem evdiGrabPixels_eq (hl : Lists h.frameBuffers entries) {n : ℕ} (hn : entries.length ≤ n)
    (kernelDirts : UInt64) (envs : Stream' GrabEnv) (d : Device) :
    h.evdiGrabPixels n kernelDirts envs d =
      Evdi.evdiGrabPixels n (h.context entries) kernelDirts envs d := by
  have hlatest : (h.context entries).bufferToUpdate = h.bufferToUpdate := rfl
  rw [evdiGrabPixels, findBuffer_eq hl _ hn, Evdi.evdiGrabPixels, findBuffer_context, hlatest]
  cases hentry : findEntry entries h.bufferToUpdate with
  | none => rfl
  | some e =>
    obtain ⟨l, r, rfl⟩ := List.append_of_mem (List.mem_of_find?_eq_some hentry)
    have hnode : h.frameBuffers.node e.1 = some ⟨e.2, first r⟩ := hl.node
    simp only [bind, Option.bind_some, hnode, pure, Option.map_eq_bind, Function.comp_def]

end

/-! ### What the calls have registered -/

/-- What one call does to the map from ids to buffers. -/
def Call.onRegistry (buffers : Int32 → Option EvdiBuffer) : Call → Int32 → Option EvdiBuffer
  | .registerBuffer buffer => Function.update buffers buffer.id (some buffer)
  | .unregisterBuffer bufferId => Function.update buffers bufferId none
  | .requestUpdate _ => buffers
  | .grabPixels _ => buffers

/-- The buffers registered after the calls, by their ids. -/
def registry (calls : List Call) : Int32 → Option EvdiBuffer :=
  calls.foldl Call.onRegistry fun _ => none

/-- The id that one call leaves in `bufferToUpdate`. -/
def Call.onRequested (bufferToUpdate : Int32) : Call → Int32
  | .requestUpdate bufferId => bufferId
  | _ => bufferToUpdate

/-- The id of the latest request for an update; 0 before the first. -/
def requested (calls : List Call) : Int32 := calls.foldl Call.onRequested 0

theorem registry_concat (calls : List Call) (call : Call) :
    registry (calls ++ [call]) = call.onRegistry (registry calls) := by
  rw [registry, List.foldl_append]
  rfl

theorem requested_concat (calls : List Call) (call : Call) :
    requested (calls ++ [call]) = call.onRequested (requested calls) := by
  rw [requested, List.foldl_append]
  rfl

/-! ### Entries -/

/-- The ids of the entries. -/
abbrev entryIds (entries : List BufferEntry) : List Int32 := entries.map (·.2.id)

theorem findEntry_eq_none {entries : List BufferEntry} {id : Int32} :
    findEntry entries id = none ↔ id ∉ entryIds entries := by
  simp [findEntry, entryIds]

theorem findEntry_append (entries : List BufferEntry) (e : BufferEntry) (id : Int32)
    (hid : findEntry entries e.2.id = none) :
    findEntry (entries ++ [e]) id = if id = e.2.id then some e else findEntry entries id := by
  rw [findEntry, List.find?_append]
  by_cases h : id = e.2.id
  · subst h
    rw [findEntry] at hid
    simp [hid]
  · have hne : (e.2.id == id) = false := by simpa using fun he : e.2.id = id => h he.symm
    simp [h, hne, findEntry]

theorem findEntry_kept (entries : List BufferEntry) (id id' : Int32) :
    findEntry (keptEntries (some id') entries) id = if id = id' then none else findEntry entries id := by
  induction entries with
  | nil => simp [findEntry, keptEntries]
  | cons e entries ih =>
    rw [keptEntries_cons]
    simp only [reduceCtorEq, false_or, Option.some.injEq]
    by_cases he : id' = e.2.id
    · rw [if_pos he, ih, findEntry_cons]
      split_ifs with h1 h2
      · rfl
      · exact absurd (h2.symm.trans he.symm) h1
      · rfl
    · rw [if_neg he, findEntry_cons, ih, findEntry_cons]
      split_ifs with h1 h2
      · exact absurd (h2.symm.trans h1.symm) he
      all_goals rfl

/-- Of different ids, one is removed with one entry. -/
theorem keptEntries_of_nodup {l r : List BufferEntry} {a : ℕ} {b : EvdiBuffer}
    (h : (entryIds (l ++ (a, b) :: r)).Nodup) : keptEntries (some b.id) (l ++ (a, b) :: r) = l ++ r := by
  have hnodup : (entryIds l ++ b.id :: entryIds r).Nodup := by simpa [entryIds] using h
  have hmem := (List.nodup_cons.1 (List.nodup_middle.1 hnodup)).1
  have hkeep : ∀ s : List BufferEntry, b.id ∉ entryIds s → keptEntries (some b.id) s = s := by
    intro s hs
    refine List.filter_eq_self.2 fun e he => ?_
    have hne : b.id ≠ e.2.id := fun heq => hs (heq ▸ List.mem_map_of_mem he)
    simp [hne]
  rw [List.mem_append, not_or] at hmem
  rw [keptEntries, List.filter_append, ← keptEntries, ← keptEntries, hkeep l hmem.1, keptEntries_cons,
    if_pos (.inr rfl), hkeep r hmem.2]

/-! ### Every run -/

/-- The list of the handle after the calls: no two entries of one id, and the latest buffer of each id
that is registered. -/
structure Inv (calls : List Call) (h : EvdiHandle) (entries : List BufferEntry) : Prop where
  lists : Lists h.frameBuffers entries
  unique : (entryIds entries).Nodup
  buffers : ∀ id, (findEntry entries id).map Prod.snd = registry calls id
  latest : h.bufferToUpdate = requested calls

theorem inv_init : Inv [] init [] := ⟨.empty, List.nodup_nil, fun _ => rfl, rfl⟩

section

variable {calls : List Call} {h h' : EvdiHandle} {entries : List BufferEntry}

theorem Inv.findEntry_none (hinv : Inv calls h entries) {id : Int32} :
    findEntry entries id = none ↔ registry calls id = none := by
  rw [← hinv.buffers]
  exact Option.map_eq_none_iff.symm

theorem Inv.registerBuffer (hinv : Inv calls h entries) {a : ℕ} {b : EvdiBuffer}
    (hid : findEntry entries b.id = none) (hl : Lists h'.frameBuffers (entries ++ [(a, b)]))
    (hlatest : h'.bufferToUpdate = h.bufferToUpdate) :
    Inv (calls ++ [.registerBuffer b]) h' (entries ++ [(a, b)]) where
  lists := hl
  unique := by
    rw [entryIds, List.map_append]
    exact hinv.unique.append (List.nodup_singleton _) (by simpa using findEntry_eq_none.1 hid)
  buffers := fun id => by
    rw [registry_concat, findEntry_append entries (a, b) id hid]
    by_cases hb : id = b.id
    · simp [Call.onRegistry, hb]
    · simp [Call.onRegistry, hb, hinv.buffers]
  latest := by
    rw [requested_concat, hlatest]
    exact hinv.latest

theorem Inv.unregisterBuffer (hinv : Inv calls h entries) {id : Int32}
    (hl : Lists h'.frameBuffers (keptEntries (some id) entries))
    (hlatest : h'.bufferToUpdate = h.bufferToUpdate) :
    Inv (calls ++ [.unregisterBuffer id]) h' (keptEntries (some id) entries) where
  lists := hl
  unique := hinv.unique.sublist (List.filter_sublist.map _)
  buffers := fun id' => by
    rw [registry_concat, findEntry_kept]
    by_cases hid : id' = id
    · simp [Call.onRegistry, hid]
    · simp [Call.onRegistry, hid, hinv.buffers]
  latest := by
    rw [requested_concat, hlatest]
    exact hinv.latest

/-- One call. -/
theorem inv_step {call : Call} (hinv : Inv calls h entries) (hstep : Step h call h') :
    ∃ entries', Inv (calls ++ [call]) h' entries' := by
  cases hstep with
  | registerBuffer n calloc buffer hfresh hcall =>
    obtain ⟨hid, a, rfl⟩ := of_evdiRegisterBuffer hinv.lists hcall
    rcases evdiRegisterBuffer_spec hinv.lists hid (hfresh a rfl) n with ⟨t, ht, hl, hlatest⟩ | ⟨hnone, -⟩
    · rw [hcall, Option.some.injEq] at ht
      subst ht
      exact ⟨_, hinv.registerBuffer hid hl hlatest⟩
    · exact absurd (hcall.symm.trans hnone) (by simp)
  | unregisterBuffer n bufferId hcall =>
    obtain ⟨e, he⟩ := of_evdiUnregisterBuffer hinv.lists hcall
    rcases evdiUnregisterBuffer_spec hinv.lists he n with ⟨t, ht, hl, hlatest⟩ | ⟨hnone, -⟩
    · rw [hcall, Option.some.injEq] at ht
      subst ht
      exact ⟨_, hinv.unregisterBuffer hl hlatest⟩
    · exact absurd (hcall.symm.trans hnone) (by simp)
  | requestUpdate requestResult bufferId =>
    refine ⟨entries, hinv.lists, hinv.unique, fun id => ?_, ?_⟩
    · rw [registry_concat]
      exact hinv.buffers id
    · rw [requested_concat]
      rfl
  | grabPixels n kernelDirts envs d _ =>
    refine ⟨entries, hinv.lists, hinv.unique, fun id => ?_, ?_⟩
    · rw [registry_concat]
      exact hinv.buffers id
    · rw [requested_concat]
      exact hinv.latest

theorem inv_run (hrun : Run Step init calls h) : ∃ entries, Inv calls h entries := by
  induction hrun with
  | nil => exact ⟨[], inv_init⟩
  | snoc _ hstep ih =>
    obtain ⟨entries, hinv⟩ := ih
    exact inv_step hinv hstep

/-- The entry of a registered id. -/
theorem Inv.entry (hinv : Inv calls h entries) {id : Int32} {b : EvdiBuffer}
    (hb : registry calls id = some b) : ∃ a, findEntry entries id = some (a, b) ∧ b.id = id := by
  rw [← hinv.buffers] at hb
  obtain ⟨⟨a, b'⟩, he, rfl⟩ := Option.map_eq_some_iff.1 hb
  exact ⟨a, he, by simpa using List.find?_some he⟩

/-- Every entry is registered. -/
theorem Inv.registered (hinv : Inv calls h entries) {l r : List BufferEntry} {a : ℕ} {b : EvdiBuffer}
    (hentries : entries = l ++ (a, b) :: r) : findEntry entries b.id = some (a, b) := by
  subst hentries
  have hnodup : (entryIds l ++ b.id :: entryIds r).Nodup := by simpa [entryIds] using hinv.unique
  have hl : findEntry l b.id = none := findEntry_eq_none.2 fun hmem =>
    (List.nodup_append.1 hnodup).2.2 _ hmem _ (List.mem_cons_self ..) rfl
  rw [findEntry] at hl
  simp [findEntry, List.find?_append, hl]

end

/-! ### The result -/

/-- **The list of buffers is a map from ids to buffers.** After any calls on a handle the nodes from its
head to `NULL` are those of some `entries`, and no others are allocated; the entries have different ids,
and each is the latest buffer registered under its id. With as many turns as there are entries:

* `findBuffer` finds the node of a registered buffer, and `NULL` for any other id;
* another buffer can be registered, and comes last;
* any entry, wherever it is, can be unregistered, and the others stay where and as they are;
* `removeFrameBuffer` without an id leaves nothing;
* `evdi_grab_pixels` makes its request for the buffer named by the latest `evdi_request_update`, or
  reports that there are no rectangles. -/
theorem buffer_registry {calls : List Call} {h : EvdiHandle} (hrun : Run Step init calls h) :
    ∃ entries, Lists h.frameBuffers entries ∧ (entryIds entries).Nodup ∧
      (∀ e ∈ entries, registry calls e.2.id = some e.2) ∧
      (∀ id n, entries.length ≤ n →
        (registry calls id = none → h.findBuffer n id = some none) ∧
        ∀ b, registry calls id = some b →
          b.id = id ∧ ∃ a, (a, b) ∈ entries ∧ h.findBuffer n id = some (some a)) ∧
      (∀ a b n, registry calls b.id = none → h.frameBuffers.node a = none → entries.length < n →
        ∃ h', evdiRegisterBuffer n (some a) b h = some h' ∧
          Lists h'.frameBuffers (entries ++ [(a, b)])) ∧
      (∀ l a b r n, entries = l ++ (a, b) :: r → entries.length ≤ n →
        ∃ h', evdiUnregisterBuffer n b.id h = some h' ∧ Lists h'.frameBuffers (l ++ r)) ∧
      (∀ n, entries.length ≤ n →
        ∃ h', h.removeFrameBuffer n none = some h' ∧ Lists h'.frameBuffers []) ∧
      ∀ kernelDirts envs d n, entries.length ≤ n → h.evdiGrabPixels n kernelDirts envs d =
        match registry calls (requested calls) with
        | none => some ⟨d, [], 0⟩
        | some b =>
          (retry (fun r => ioctlAgain r.1) GrabRequest.ioctl n ⟨d, b.grab kernelDirts, envs⟩).map
            fun r => grabResult r.1 r.2.1 r.2.2 := by
  obtain ⟨entries, hinv⟩ := inv_run hrun
  refine ⟨entries, hinv.lists, hinv.unique, ?_, ?_, ?_, ?_, ?_, ?_⟩
  · intro e he
    obtain ⟨l, r, hentries⟩ := List.append_of_mem he
    rw [← hinv.buffers, hinv.registered hentries]
    rfl
  · intro id n hn
    rw [findBuffer_eq hinv.lists id hn]
    refine ⟨fun hnone => by rw [hinv.findEntry_none.2 hnone]; rfl, fun b hb => ?_⟩
    obtain ⟨a, he, hid⟩ := hinv.entry hb
    exact ⟨hid, a, List.mem_of_find?_eq_some he, by rw [he]; rfl⟩
  · intro a b n hnone ha hn
    rcases evdiRegisterBuffer_spec hinv.lists (hinv.findEntry_none.2 hnone) ha n with
      ⟨h', hcall, hl, -⟩ | ⟨-, hle⟩
    · exact ⟨h', hcall, hl⟩
    · omega
  · intro l a b r n hentries hn
    rcases evdiUnregisterBuffer_spec hinv.lists (hinv.registered hentries) n with
      ⟨h', hcall, hl, -⟩ | ⟨-, hlt⟩
    · subst hentries
      rw [keptEntries_of_nodup hinv.unique] at hl
      exact ⟨h', hcall, hl⟩
    · omega
  · intro n hn
    rcases removeFrameBuffer_spec hinv.lists none n with ⟨h', hcall, hl, -⟩ | ⟨-, hlt⟩
    · refine ⟨h', hcall, ?_⟩
      have hkept : keptEntries none entries = [] := by simp [keptEntries]
      rwa [hkept] at hl
    · omega
  · intro kernelDirts envs d n hn
    rw [evdiGrabPixels_eq hinv.lists hn, Evdi.evdiGrabPixels, findBuffer_context, ← hinv.latest,
      ← hinv.buffers]
    rfl

/-- A buffer of 64 by 64. -/
def sampleBuffer (id : Int32) : EvdiBuffer := ⟨id, 0, 64, 64, 256⟩

/-- Of two buffers the first is unregistered again: it is not found any more, and the second still is. -/
theorem buffer_registry_second :
    ∃ h, Run Step init [.registerBuffer (sampleBuffer 1), .registerBuffer (sampleBuffer 2),
        .unregisterBuffer 1, .requestUpdate 2] h ∧
      ∃ entries, Lists h.frameBuffers entries ∧
        ∀ n, entries.length ≤ n → h.findBuffer n 1 = some none ∧
          ∃ a, h.findBuffer n 2 = some (some a) := by
  have hrun : Run Step init [.registerBuffer (sampleBuffer 1)] _ :=
    Run.one (.registerBuffer 3 (some 16) (sampleBuffer 1) (fun _ _ => rfl) rfl)
  have hrun := hrun.snoc (.registerBuffer 3 (some 32) (sampleBuffer 2)
    (by rintro _ ⟨⟩; rfl) rfl)
  have hrun := hrun.snoc (.unregisterBuffer 3 1 rfl)
  have hrun := hrun.snoc (.requestUpdate 0 2)
  obtain ⟨entries, hlists, -, -, hfind, -⟩ := buffer_registry hrun
  refine ⟨_, hrun, entries, hlists, fun n hn => ⟨(hfind 1 n hn).1 rfl, ?_⟩⟩
  obtain ⟨-, a, -, ha⟩ := (hfind 2 n hn).2 (sampleBuffer 2) rfl
  exact ⟨a, ha⟩

end EvdiHandle

end Evdi
