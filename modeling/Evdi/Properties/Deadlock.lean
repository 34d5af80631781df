import Evdi.Model.Locks

/-!
# Deadlocks

Threads in all entry points of the driver, in any number and in any order of their steps: what they do
with the locks, and which of them can come to wait for each other.

The locks have an order, and each function takes them in this order, except one: `evdi_painter_disconnect`
removes the i2c adapter with the painter locked, while a transfer on the adapter locks the painter when the
client has answered.

* `LockKind.rank`: the order;
* `Entry.Asks`: the requests that the entry points make;
* `Embrace`: a disconnection and a transfer that wait for each other;
* **`deadlock_embrace`**: there is no other deadlock, and from this one nobody comes back.
-/

namespace Evdi

open Transition Locking

/-- The order of the locks. -/
def LockKind.rank : LockKind → ℕ
  | .context => 0
  | .modeset => 1
  | .adapter => 2
  | .painter => 3
  | .vtChain | .debugfs => 4
  | .work => 5
  | .cursor => 6
  | .reservation => 7
  | .pages => 8
  | .event | .table => 9

/-- `event_lock` and `table_lock` are spinlocks. -/
def LockKind.spins : LockKind → Bool
  | .event | .table => true
  | _ => false

/-- The entry points that disconnect a client. -/
def Entry.disconnects : Entry → Bool
  | .connectIoctl | .postclose => true
  | _ => false

/-- A request of an entry point, with the kinds held when it is made. -/
structure Entry.Asks (e : Entry) (held : List LockKind) (k : LockKind) : Prop where
  spin : ∀ h ∈ held, h.spins = false
  adapter : .adapter ∈ held → e = .i2cTransfer ∧ held = [.adapter] ∧ (k = .painter ∨ k = .event)
  order : (∀ h ∈ held, h.rank < k.rank) ∨ e.disconnects = true ∧ held = [.painter] ∧ k = .adapter

instance (e : Entry) (held : List LockKind) (k : LockKind) : Decidable (e.Asks held k) :=
  decidable_of_iff
    ((∀ h ∈ held, h.spins = false) ∧
      (.adapter ∈ held → e = .i2cTransfer ∧ held = [.adapter] ∧ (k = .painter ∨ k = .event)) ∧
      ((∀ h ∈ held, h.rank < k.rank) ∨ e.disconnects = true ∧ held = [.painter] ∧ k = .adapter))
    ⟨fun h => ⟨h.1, h.2.1, h.2.2⟩, fun h => ⟨h.spin, h.adapter, h.order⟩⟩

/-- Every entry point gives back what it takes, on all of its paths. -/
theorem Entry.check_prog (e : Entry) : e.prog.check [] = some [] := by
  cases e <;> decide

/-- The requests of every entry point. -/
theorem Entry.asks (e : Entry) : ∀ r ∈ e.prog.requests [], e.Asks r.1 r.2 := by
  cases e <;> decide +kernel

/-- The threads are in order, with the requests of their entry points. -/
abbrev Sound : List (LockThread Task LockKind Lock) → Prop :=
  AllOrderly Lock.kind Task.own fun t => t.entry.Asks

theorem Task.path_orderly (t : Task) (ops : List (Op LockKind Lock)) (h : t.path ops) :
    Orderly Lock.kind t.own t.entry.Asks [] ops :=
  LockProg.Path.orderly_nil h t.entry.check_prog t.entry.asks

variable {ts : List (LockThread Task LockKind Lock)} {as : List Unit}

theorem run_sound {us : List (LockThread Task LockKind Lock)}
    (h : Run (Step Lock.kind Task.path) ts as us) (hts : Sound ts) : Sound us :=
  h.invariant (fun _ _ _ hs hstep => step_orderly Task.path_orderly hstep hs) hts

/-- A thread that disconnects a client, and one in a transfer, wait for each other. -/
structure Embrace (dev : ℕ) (t u : LockThread Task LockKind Lock) : Prop where
  disconnects : t.tag.entry.disconnects = true
  painter : t.held = [⟨.painter, dev⟩]
  removes : t.WaitsFor ⟨.adapter, dev⟩
  transfers : u.tag.entry = .i2cTransfer
  adapter : u.held = [⟨.adapter, dev⟩]
  answered : u.WaitsFor ⟨.painter, dev⟩

/-- Nobody leaves an embrace. -/
theorem Embrace.forever {dev : ℕ} {t u : LockThread Task LockKind Lock} (h : Embrace dev t u)
    (ht : t ∈ ts) (hu : u ∈ ts) {us : List (LockThread Task LockKind Lock)}
    (hrun : Run (Step Lock.kind Task.path) ts as us) : t ∈ us ∧ u ∈ us := by
  refine hrun.invariant (I := fun us => t ∈ us ∧ u ∈ us) (fun vs _ ws hvs hstep => ?_) ⟨ht, hu⟩
  obtain ⟨ht, hu⟩ := hvs
  constructor
  · exact step_waiting hstep ht h.removes hu (by simp [h.adapter])
  · exact step_waiting hstep hu h.answered ht (by simp [h.painter])

/-- The locks of a thread on one device are those of its device. -/
theorem Task.own_id {t : Task} (ht : t.entry.platform = false) {a : Lock} (ha : t.own a)
    (hk : a.kind.perDevice = true) : a.id = t.device :=
  ha ht hk

/-- A lock that a thread holds alone. -/
theorem held_eq_singleton {t : LockThread Task LockKind Lock} {k : LockKind}
    (h : t.held.map Lock.kind = [k]) (hown : ∀ a ∈ t.held, t.tag.own a)
    (ht : t.tag.entry.platform = false) (hk : k.perDevice = true) :
    t.held = [⟨k, t.tag.device⟩] := by
  obtain ⟨⟨k', id⟩, hheld, rfl⟩ := List.map_eq_singleton_iff.1 h
  have hid : id = t.tag.device := Task.own_id ht (hown _ (by simp [hheld])) hk
  rw [hheld, hid]

/-- A lock that a thread waits for. -/
theorem waitsFor_eq {t : LockThread Task LockKind Lock} {a : Lock} {k : LockKind} (ha : a.kind = k)
    (hown : t.tag.own a) (ht : t.tag.entry.platform = false) (hk : k.perDevice = true) :
    a = ⟨k, t.tag.device⟩ := by
  subst ha
  rw [← Task.own_id ht hown hk]

theorem Entry.platform_of_disconnects {e : Entry} (h : e.disconnects = true) : e.platform = false := by
  cases e <;> first | rfl | exact absurd h (by decide)

/-- Nobody waits for a spinlock's owner to wait. -/
theorem Sound.not_spins (hts : Sound ts) {t : LockThread Task LockKind Lock} (ht : t ∈ ts) {a b : Lock}
    (ha : t.WaitsFor a) (hb : b ∈ t.held) : b.kind.spins = false :=
  (hts.request ht ha).2.2.spin _ (List.mem_map_of_mem hb)

/-- **The one deadlock** comes from a disconnection and a transfer on the same device. -/
theorem Sound.embrace (hts : Sound ts) (h : Deadlocked Lock.kind ts) :
    ∃ dev, ∃ t ∈ ts, ∃ u ∈ ts, Embrace dev t u := by
  -- somebody goes against the order: a disconnection that removes the adapter
  obtain ⟨t, ht, a, ha, b, hb, hrank⟩ := h.unranked LockKind.rank hts
  obtain ⟨hown, -, hasks⟩ := hts.request ht ha
  obtain ⟨hdisc, hheld, hadapter⟩ : t.tag.entry.disconnects = true ∧
      t.held.map Lock.kind = [.painter] ∧ a.kind = .adapter := by
    rcases hasks.order with horder | hexcept
    · exact absurd (horder b.kind (List.mem_map_of_mem hb)) (Nat.not_lt.2 hrank)
    · exact hexcept
  have htplat := Entry.platform_of_disconnects hdisc
  have htheld := held_eq_singleton hheld (hts t ht).2 htplat rfl
  obtain rfl := waitsFor_eq hadapter hown htplat rfl
  -- who has the adapter is in a transfer, and waits too
  obtain ⟨u, hu, hmem, hutodo⟩ := h.holder hts ht ha
  obtain ⟨a', ha', -⟩ := h.blocked hu hutodo
  obtain ⟨huown, -, huasks⟩ := hts.request hu ha'
  obtain ⟨huentry, huheld, hkind⟩ := huasks.adapter (List.mem_map_of_mem hmem)
  have huplat : u.tag.entry.platform = false := by rw [huentry]; rfl
  have huheld' := held_eq_singleton huheld (hts u hu).2 huplat rfl
  have hdev : t.tag.device = u.tag.device := by simpa [huheld'] using hmem
  refine ⟨t.tag.device, t, ht, u, hu, hdisc, htheld, ha, huentry, by rw [hdev, huheld'], ?_⟩
  rcases hkind with hpainter | hevent
  · -- it waits for the painter, which the disconnection holds
    obtain rfl := waitsFor_eq hpainter huown huplat rfl
    rwa [hdev]
  · -- it would wait for somebody who waits with `event_lock` held
    obtain ⟨v, hv, hvmem, hvtodo⟩ := h.holder hts hu ha'
    obtain ⟨a'', ha'', -⟩ := h.blocked hv hvtodo
    have hspin := hts.not_spins hv ha'' hvmem
    rw [hevent] at hspin
    exact absurd hspin (by decide)

/-- **Locks.** In every run of threads in the driver, no lock is held twice, who is done holds none, and
who waits holds no spinlock; in a deadlock, a thread that disconnects a client and one in a transfer to the
same device wait for each other, and two such threads stay there for good. -/
theorem deadlock_embrace (h : Run (Step Lock.kind Task.path) [] as ts) :
    Exclusive ts ∧ (∀ t ∈ ts, t.todo = [] → t.held = []) ∧
      (∀ t ∈ ts, ∀ a b, t.WaitsFor a → b ∈ t.held → b.kind.spins = false) ∧
      (Deadlocked Lock.kind ts → ∃ dev, ∃ t ∈ ts, ∃ u ∈ ts, Embrace dev t u) ∧
      ∀ dev, ∀ t ∈ ts, ∀ u ∈ ts, Embrace dev t u → ∀ bs us,
        Run (Step Lock.kind Task.path) ts bs us → t ∈ us ∧ u ∈ us := by
  have hts : Sound ts := run_sound h (by simp [Sound, AllOrderly])
  have hexcl : Exclusive ts :=
    h.invariant (fun _ _ _ hs hstep => step_exclusive hstep hs) List.nodup_nil
  refine ⟨hexcl, fun t ht hnil => ?_, fun t ht a b ha hb => hts.not_spins ht ha hb, hts.embrace,
    fun dev t ht u hu hembrace bs us hrun => hembrace.forever ht hu hrun⟩
  have horderly := (hts t ht).1
  rwa [hnil] at horderly

/-! ### The deadlock -/

/-- What `evdi_painter_disconnect` does when the client holds no framebuffer and the cursor has no
object. -/
def disconnectOps (dev : ℕ) : List (Op LockKind Lock) :=
  [.acquire ⟨.painter, dev⟩, .acquire ⟨.event, dev⟩, .release .event, .acquire ⟨.work, dev⟩,
    .release .work, .acquire ⟨.cursor, dev⟩, .release .cursor, .acquire ⟨.adapter, dev⟩,
    .release .adapter, .release .painter, .acquire ⟨.modeset, dev⟩, .release .modeset]

/-- What a transfer of one message does when the client answers. -/
def transferOps (dev : ℕ) : List (Op LockKind Lock) :=
  [.acquire ⟨.adapter, dev⟩, .acquire ⟨.event, dev⟩, .release .event, .acquire ⟨.painter, dev⟩,
    .release .painter, .release .adapter]

open LockProg in
theorem disconnectOps_path (dev : ℕ) : Task.path ⟨.connectIoctl, dev⟩ (disconnectOps dev) := by
  have take (k : LockKind) : Task.own ⟨.connectIoctl, dev⟩ ⟨k, dev⟩ := fun _ _ => rfl
  have pass (k : LockKind) : (Locks.passing k).Path Lock.kind (Task.own ⟨.connectIoctl, dev⟩) _ :=
    .seq (.acquire (take k) rfl) (.seq .skip .release)
  have h : Locks.painterDisconnect.Path Lock.kind (Task.own ⟨.connectIoctl, dev⟩) _ :=
    .seq (.acquire (take .painter) rfl) (.right (.seq (.left .skip)
      (.seq (.seq (pass .event) (pass .work)) (.seq (.left .skip)
        (.seq (.seq (.acquire (take .cursor) rfl) (.seq (.left .skip) .release))
          (.seq (.right (pass .adapter)) (.seq .release
            (.seq (.seq (.acquire (take .modeset) rfl) (.seq .stop .release)) (.left .skip)))))))))
  exact .right (.right h)

open LockProg in
theorem transferOps_path (dev : ℕ) : Task.path ⟨.i2cTransfer, dev⟩ (transferOps dev) := by
  have take (k : LockKind) : Task.own ⟨.i2cTransfer, dev⟩ ⟨k, dev⟩ := fun _ _ => rfl
  have pass (k : LockKind) : (Locks.passing k).Path Lock.kind (Task.own ⟨.i2cTransfer, dev⟩) _ :=
    .seq (.acquire (take k) rfl) (.seq .skip .release)
  have send : Locks.painterSendEvent.Path Lock.kind (Task.own ⟨.i2cTransfer, dev⟩) _ :=
    .right (.right (.seq (pass .event) (.left .skip)))
  have h : Locks.painterI2cDataNotify.Path Lock.kind (Task.own ⟨.i2cTransfer, dev⟩) _ :=
    .right (.seq send (.right (pass .painter)))
  have hall : Locks.i2cAccessMaster.Path Lock.kind (Task.own ⟨.i2cTransfer, dev⟩) _ :=
    .seq (.acquire (take .adapter) rfl) (.seq (.turn h .stop) .release)
  exact hall

/-- The transfer has its answer, and the disconnection comes to the adapter. -/
def embraced (dev : ℕ) : List (LockThread Task LockKind Lock) :=
  [⟨⟨.i2cTransfer, dev⟩, [⟨.adapter, dev⟩], (transferOps dev).drop 3⟩,
    ⟨⟨.connectIoctl, dev⟩, [⟨.painter, dev⟩], (disconnectOps dev).drop 7⟩]

theorem embraced_deadlocked (dev : ℕ) : Deadlocked Lock.kind (embraced dev) := by
  refine deadlocked_of_waits (by simp [embraced]) fun t ht => ?_
  rcases List.mem_pair.1 ht with rfl | rfl
  · exact ⟨⟨.painter, dev⟩, ⟨_, rfl⟩, _, List.mem_cons_of_mem _ (List.mem_singleton_self _), by simp⟩
  · exact ⟨⟨.adapter, dev⟩, ⟨_, rfl⟩, _, List.mem_cons_self, by simp⟩

/-- A transfer takes the adapter and sends its event; then a disconnection takes the painter. -/
theorem reaches_embraced (dev : ℕ) : Reaches Lock.kind Task.path [] (embraced dev) := by
  have hnil : Reaches Lock.kind Task.path [] [] := ⟨[], .nil _⟩
  have htransfer : Reaches Lock.kind Task.path []
      ([] ++ [⟨⟨.i2cTransfer, dev⟩, [⟨.adapter, dev⟩], (transferOps dev).drop 3⟩]) := by
    have h := hnil.start (transferOps_path dev)
    have h := h.acquire (by simp) (by simp)
    have h := h.acquire (by simp) (by simp)
    exact h.release
  have h := htransfer.start (disconnectOps_path dev)
  have h := h.acquire (by simp) (by simp)
  have h := h.acquire (by simp) (by simp)
  have h := h.release
  have h := h.acquire (by simp) (by simp)
  have h := h.release
  have h := h.acquire (by simp) (by simp)
  exact h.release

/-- The run of a transfer and a disconnection. -/
theorem deadlock_embrace_first : ∃ as ts, Run (Step Lock.kind Task.path) [] as ts ∧
    Deadlocked Lock.kind ts ∧ ∃ dev, ∃ t ∈ ts, ∃ u ∈ ts, Embrace dev t u := by
  obtain ⟨as, h⟩ := reaches_embraced 0
  exact ⟨as, _, h, embraced_deadlocked 0, (deadlock_embrace h).2.2.2.1 (embraced_deadlocked 0)⟩

end Evdi
