import Evdi.Foundations.Transition
import Mathlib.Algebra.Order.BigOperators.Group.List

/-!
# Locks

What functions do with locks: which they take and give back on each of their paths, which locks they
wait for while they hold others, and what that means for any number of threads.

Locks have kinds.  A function names the kinds; a thread that runs it takes locks of these kinds.

* `LockProg`, `LockProg.Path`: the lock operations of a function, and of one path through it;
* `LockProg.check`, `LockProg.requests`: what is held after a function, if all of its paths agree, and the
  requests that it may make, each with the kinds held then;
* `Orderly`, `LockProg.Path.orderly`: what the check says about each path;
* `LockThread`, `Step`: threads that wait for each other;
* `step_exclusive`, `step_waiting`: no lock is held twice; who waits for a lock that is held stays there;
* `Deadlocked.holder`, `Deadlocked.unranked`: in a deadlock each waiting thread waits for one that waits
  itself, and one of the requests goes against the order.
-/

namespace Locking

open Transition

/-- What a function does with locks, by their kinds. -/
inductive LockProg (K : Type*)
  | skip
  | acquire (k : K)
  | release (k : K)
  | seq (p q : LockProg K)
  | choice (p q : LockProg K)
  | loop (p : LockProg K)

/-- One operation of a thread; no thread holds two locks of one kind. -/
inductive Op (K L : Type*)
  | acquire (a : L)
  | release (k : K)

variable {K L T : Type*}

namespace LockProg

instance : Append (LockProg K) := ⟨.seq⟩

/-- A part that may be left out. -/
def maybe (p : LockProg K) : LockProg K := .choice .skip p

/-- A part under a lock. -/
def locked (k : K) (p : LockProg K) : LockProg K := .acquire k ++ (p ++ .release k)

/-- The paths of a function that is run with the locks of `own`. -/
inductive Path (kind : L → K) (own : L → Prop) : LockProg K → List (Op K L) → Prop
  | skip : Path kind own .skip []
  | acquire {a : L} {k : K} : own a → kind a = k → Path kind own (.acquire k) [.acquire a]
  | release {k : K} : Path kind own (.release k) [.release k]
  | seq {p q : LockProg K} {xs ys : List (Op K L)} :
      Path kind own p xs → Path kind own q ys → Path kind own (.seq p q) (xs ++ ys)
  | left {p q : LockProg K} {xs : List (Op K L)} :
      Path kind own p xs → Path kind own (.choice p q) xs
  | right {p q : LockProg K} {xs : List (Op K L)} :
      Path kind own q xs → Path kind own (.choice p q) xs
  | stop {p : LockProg K} : Path kind own (.loop p) []
  | turn {p : LockProg K} {xs ys : List (Op K L)} :
      Path kind own p xs → Path kind own (.loop p) ys → Path kind own (.loop p) (xs ++ ys)

variable [DecidableEq K]

/-- The kinds held after the function, when those of `held` are held before: if no kind is taken twice,
only what is held is given back, and all paths agree. -/
def check : LockProg K → List K → Option (List K)
  | .skip, held => some held
  | .acquire k, held => if k ∈ held then none else some (k :: held)
  | .release k, held => if k ∈ held then some (held.filter (· ≠ k)) else none
  | .seq p q, held => (p.check held).bind q.check
  | .choice p q, held =>
    match p.check held with
    | none => none
    | some after => if q.check held = some after then some after else none
  | .loop p, held => if p.check held = some held then some held else none

/-- The requests of the function, each with the kinds held when it is made. -/
def requests : LockProg K → List K → List (List K × K)
  | .skip, _ => []
  | .acquire k, held => [(held, k)]
  | .release _, _ => []
  | .seq p q, held => p.requests held ++ (p.check held).elim [] q.requests
  | .choice p q, held => p.requests held ++ q.requests held
  | .loop p, held => p.requests held

end LockProg

/-! ### Paths -/

variable [DecidableEq K]

/-- From `held` on, the operations ask only for locks of `own` that are not of a kind held, in the
situations of `R`; they give back only what is held, and in the end all of it. -/
def Orderly (kind : L → K) (own : L → Prop) (R : List K → K → Prop) :
    List L → List (Op K L) → Prop
  | held, [] => held = []
  | held, .acquire a :: ops =>
    own a ∧ kind a ∉ held.map kind ∧ R (held.map kind) (kind a) ∧
      Orderly kind own R (a :: held) ops
  | held, .release k :: ops =>
    k ∈ held.map kind ∧ Orderly kind own R (held.filter (kind · ≠ k)) ops

variable {kind : L → K} {own : L → Prop} {R : List K → K → Prop}

/-- **The check is sound**: a path of a function that checks out goes before whatever is orderly after
it. -/
theorem LockProg.Path.orderly {p : LockProg K} {ops : List (Op K L)} (hp : p.Path kind own ops)
    {before after : List K} (hcheck : p.check before = some after)
    (hR : ∀ r ∈ p.requests before, R r.1 r.2) {held : List L} (hheld : held.map kind = before)
    {ops' : List (Op K L)}
    (hafter : ∀ held' : List L, (∀ a ∈ held', a ∈ held ∨ own a) → held'.map kind = after →
      Orderly kind own R held' ops') : Orderly kind own R held (ops ++ ops') := by
  induction hp generalizing before after held ops' with
  | skip =>
    obtain rfl : before = after := by simpa [LockProg.check] using hcheck
    exact hafter held (fun a ha => .inl ha) hheld
  | @acquire a k ha hk =>
    subst hk hheld
    simp only [LockProg.check] at hcheck
    split_ifs at hcheck with hmem
    obtain rfl := Option.some.inj hcheck
    refine ⟨ha, hmem, hR _ (List.mem_singleton_self _), hafter _ (fun b hb => ?_) rfl⟩
    rcases List.mem_cons.1 hb with rfl | hb
    · exact .inr ha
    · exact .inl hb
  | @release k =>
    subst hheld
    simp only [LockProg.check] at hcheck
    split_ifs at hcheck with hmem
    obtain rfl := Option.some.inj hcheck
    refine ⟨hmem, hafter _ (fun b hb => .inl (List.mem_filter.1 hb).1) ?_⟩
    rw [List.filter_map]
    rfl
  | @seq p q xs ys _ _ ihp ihq =>
    obtain ⟨mid, hmid, hq⟩ := Option.bind_eq_some_iff.1 hcheck
    rw [List.append_assoc]
    refine ihp hmid (fun r hr => hR r (List.mem_append_left _ hr)) hheld fun held' hown hheld' => ?_
    refine ihq hq (fun r hr => hR r (List.mem_append_right _ ?_)) hheld' fun held'' hown' => ?_
    · rwa [hmid]
    · refine hafter held'' fun a ha => ?_
      rcases hown' a ha with ha | ha
      · exact hown a ha
      · exact .inr ha
  | @left p q xs _ ih =>
    have hp : p.check before = some after := by
      simp only [LockProg.check] at hcheck
      split at hcheck
      · simp at hcheck
      · rename_i hp
        split_ifs at hcheck
        rw [hp, hcheck]
    exact ih hp (fun r hr => hR r (List.mem_append_left _ hr)) hheld hafter
  | @right p q xs _ ih =>
    have hq : q.check before = some after := by
      simp only [LockProg.check] at hcheck
      split at hcheck
      · simp at hcheck
      · split_ifs at hcheck with hq
        rw [hq, hcheck]
    exact ih hq (fun r hr => hR r (List.mem_append_right _ hr)) hheld hafter
  | stop =>
    simp only [LockProg.check] at hcheck
    split_ifs at hcheck
    obtain rfl := Option.some.inj hcheck
    exact hafter held (fun a ha => .inl ha) hheld
  | @turn p xs ys _ _ ihp ihloop =>
    have hturn := hcheck
    simp only [LockProg.check] at hturn
    split_ifs at hturn with hp
    rw [List.append_assoc]
    refine ihp hp hR hheld fun held' hown hheld' => ?_
    refine ihloop hcheck hR hheld' fun held'' hown' => ?_
    refine hafter held'' fun a ha => ?_
    rcases hown' a ha with ha | ha
    · exact hown a ha
    · exact .inr ha

/-- A path of a function that starts and ends without locks. -/
theorem LockProg.Path.orderly_nil {p : LockProg K} {ops : List (Op K L)} (hp : p.Path kind own ops)
    (hcheck : p.check [] = some []) (hR : ∀ r ∈ p.requests [], R r.1 r.2) :
    Orderly kind own R [] ops := by
  rw [← List.append_nil ops]
  exact hp.orderly hcheck hR List.map_nil fun held' _ hheld' => List.map_eq_nil_iff.1 hheld'

/-! ### Threads -/

/-- A thread: what it runs, the locks it holds, and what is left of its path. -/
structure LockThread (T K L : Type*) where
  tag : T
  held : List L
  todo : List (Op K L)

/-- One thread takes a lock that nobody holds, or gives one back. -/
inductive Move (kind : L → K) : List (LockThread T K L) → List (LockThread T K L) → Prop
  | acquire {l r : List (LockThread T K L)} {t : T} {held : List L} {a : L} {ops : List (Op K L)} :
      (∀ u ∈ l ++ ⟨t, held, .acquire a :: ops⟩ :: r, a ∉ u.held) →
      Move kind (l ++ ⟨t, held, .acquire a :: ops⟩ :: r) (l ++ ⟨t, a :: held, ops⟩ :: r)
  | release {l r : List (LockThread T K L)} {t : T} {held : List L} {k : K} {ops : List (Op K L)} :
      Move kind (l ++ ⟨t, held, .release k :: ops⟩ :: r)
        (l ++ ⟨t, held.filter (kind · ≠ k), ops⟩ :: r)

/-- A thread starts on one of its paths, or one moves. -/
inductive Step (kind : L → K) (path : T → List (Op K L) → Prop) :
    List (LockThread T K L) → Unit → List (LockThread T K L) → Prop
  | start {ts : List (LockThread T K L)} {t : T} {ops : List (Op K L)} : path t ops →
      Step kind path ts () (ts ++ [⟨t, [], ops⟩])
  | move {ts us : List (LockThread T K L)} : Move kind ts us → Step kind path ts () us

/-- Some thread is not at its end, and none can move. -/
def Deadlocked (kind : L → K) (ts : List (LockThread T K L)) : Prop :=
  (∃ t ∈ ts, t.todo ≠ []) ∧ ¬ ∃ us, Move kind ts us

/-- The thread waits for a lock. -/
def LockThread.WaitsFor (t : LockThread T K L) (a : L) : Prop := ∃ ops, t.todo = .acquire a :: ops

omit [DecidableEq K] in
/-- A thread waits for one lock. -/
theorem LockThread.WaitsFor.unique {t : LockThread T K L} {a b : L} (ha : t.WaitsFor a)
    (hb : t.WaitsFor b) : a = b := by
  obtain ⟨ops, hops⟩ := ha
  obtain ⟨ops', hops'⟩ := hb
  have heq := hops.symm.trans hops'
  simpa using (List.cons.inj heq).1

/-- All threads are orderly, each with the locks and the requests of what it runs. -/
def AllOrderly (kind : L → K) (own : T → L → Prop) (R : T → List K → K → Prop)
    (ts : List (LockThread T K L)) : Prop :=
  ∀ t ∈ ts, Orderly kind (own t.tag) (R t.tag) t.held t.todo ∧ ∀ a ∈ t.held, own t.tag a

/-- No lock is held twice. -/
def Exclusive (ts : List (LockThread T K L)) : Prop := (ts.flatMap (·.held)).Nodup

section

variable {path : T → List (Op K L) → Prop} {own : T → L → Prop} {R : T → List K → K → Prop}
  {ts us : List (LockThread T K L)}

/-- **Every step** keeps the threads orderly. -/
theorem step_orderly (hpath : ∀ t ops, path t ops → Orderly kind (own t) (R t) [] ops) {u : Unit}
    (h : Step kind path ts u us) (hts : AllOrderly kind own R ts) : AllOrderly kind own R us := by
  cases h with
  | @start t ops hops =>
    intro v hv
    rcases List.mem_append.1 hv with hv | hv
    · exact hts v hv
    · rw [List.mem_singleton.1 hv]
      exact ⟨hpath t ops hops, by simp⟩
  | move hmove =>
    -- the threads that do not move are as they were
    cases hmove with
    | @acquire l r t held a ops hfree =>
      obtain ⟨⟨hown, hkind, hR, hops⟩, hheld⟩ := hts ⟨t, held, .acquire a :: ops⟩ (by simp)
      intro v hv
      rcases List.mem_append.1 hv with hv | hv
      · exact hts v (List.mem_append_left _ hv)
      rcases List.mem_cons.1 hv with rfl | hv
      · exact ⟨hops, List.forall_mem_cons.2 ⟨hown, hheld⟩⟩
      · exact hts v (List.mem_append_right _ (List.mem_cons_of_mem _ hv))
    | @release l r t held k ops =>
      obtain ⟨⟨hk, hops⟩, hheld⟩ := hts ⟨t, held, .release k :: ops⟩ (by simp)
      intro v hv
      rcases List.mem_append.1 hv with hv | hv
      · exact hts v (List.mem_append_left _ hv)
      rcases List.mem_cons.1 hv with rfl | hv
      · exact ⟨hops, fun a ha => hheld a (List.mem_filter.1 ha).1⟩
      · exact hts v (List.mem_append_right _ (List.mem_cons_of_mem _ hv))

/-- **Every step** keeps the locks exclusive. -/
theorem step_exclusive {u : Unit} (h : Step kind path ts u us) (hts : Exclusive ts) :
    Exclusive us := by
  unfold Exclusive at hts ⊢
  cases h with
  | start => simpa using hts
  | move hmove =>
    cases hmove with
    | @acquire l r t held a ops hfree =>
      have hnew : a ∉ l.flatMap (·.held) ++ (held ++ r.flatMap (·.held)) := by
        intro ha
        obtain ⟨v, hv, hav⟩ : ∃ v ∈ l ++ ⟨t, held, .acquire a :: ops⟩ :: r, a ∈ v.held := by
          simpa [List.mem_flatMap, or_and_right, exists_or] using ha
        exact hfree v hv hav
      simp only [List.flatMap_append, List.flatMap_cons, List.cons_append] at hts ⊢
      exact List.nodup_middle.2 (List.nodup_cons.2 ⟨hnew, hts⟩)
    | @release l r t held k ops =>
      simp only [List.flatMap_append, List.flatMap_cons] at hts ⊢
      refine hts.sublist (List.Sublist.append_left (List.Sublist.append_right ?_ _) _)
      exact List.filter_sublist

/-! ### Deadlocks -/

/-- In a deadlock, a thread that is not at its end waits for a lock that is held. -/
theorem Deadlocked.blocked (h : Deadlocked kind ts) {t : LockThread T K L} (ht : t ∈ ts)
    (htodo : t.todo ≠ []) : ∃ a, t.WaitsFor a ∧ ∃ u ∈ ts, a ∈ u.held := by
  obtain ⟨l, r, rfl⟩ := List.append_of_mem ht
  obtain ⟨tag, held, todo⟩ := t
  cases todo with
  | nil => exact absurd rfl htodo
  | cons op ops =>
    cases op with
    | release k => exact absurd ⟨_, Move.release⟩ h.2
    | acquire a =>
      refine ⟨a, ⟨ops, rfl⟩, ?_⟩
      by_contra hfree
      push Not at hfree
      exact h.2 ⟨_, Move.acquire hfree⟩

/-- Threads that all wait for locks that are held are in a deadlock. -/
theorem deadlocked_of_waits (hne : ts ≠ [])
    (h : ∀ t ∈ ts, ∃ a, t.WaitsFor a ∧ ∃ u ∈ ts, a ∈ u.held) : Deadlocked kind ts := by
  constructor
  · obtain ⟨t, ht⟩ := List.exists_mem_of_ne_nil ts hne
    obtain ⟨a, ⟨ops, hops⟩, -⟩ := h t ht
    exact ⟨t, ht, by simp [hops]⟩
  · rintro ⟨us, hmove⟩
    cases hmove with
    | @acquire l r tag held b ops hfree =>
      obtain ⟨a, ha, u, hu, hmem⟩ := h ⟨tag, held, .acquire b :: ops⟩ (by simp)
      obtain rfl := ha.unique ⟨ops, rfl⟩
      exact hfree u hu hmem
    | @release l r tag held k ops =>
      obtain ⟨a, ⟨ops', hops⟩, -⟩ := h ⟨tag, held, .release k :: ops⟩ (by simp)
      simp at hops

/-- **Waiting.** In a deadlock, whoever waits waits for a thread that waits itself. -/
theorem Deadlocked.holder (h : Deadlocked kind ts) (hts : AllOrderly kind own R ts)
    {t : LockThread T K L} (ht : t ∈ ts) {a : L} (ha : t.WaitsFor a) :
    ∃ u ∈ ts, a ∈ u.held ∧ u.todo ≠ [] := by
  have htodo : t.todo ≠ [] := by
    obtain ⟨ops, hops⟩ := ha
    simp [hops]
  obtain ⟨b, hb, u, hu, hmem⟩ := h.blocked ht htodo
  obtain rfl := ha.unique hb
  refine ⟨u, hu, hmem, fun hnil => ?_⟩
  have hempty : u.held = [] := by
    have horderly := (hts u hu).1
    rwa [hnil] at horderly
  simp [hempty] at hmem

/-- A thread that waits for a lock that is held stays as it is. -/
theorem step_waiting {w : Unit} (h : Step kind path ts w us) {t u : LockThread T K L} {a : L}
    (ht : t ∈ ts) (ha : t.WaitsFor a) (hu : u ∈ ts) (hmem : a ∈ u.held) : t ∈ us := by
  cases h with
  | start => exact List.mem_append_left _ ht
  | move hmove =>
    cases hmove with
    | @acquire l r tag held b ops hfree =>
      have hne : t ≠ ⟨tag, held, .acquire b :: ops⟩ := by
        rintro rfl
        obtain rfl := ha.unique ⟨ops, rfl⟩
        exact hfree u hu hmem
      simp only [List.mem_append, List.mem_cons, hne, false_or] at ht ⊢
      exact ht.imp_right .inr
    | @release l r tag held k ops =>
      have hne : t ≠ ⟨tag, held, .release k :: ops⟩ := by
        rintro rfl
        obtain ⟨ops', hops⟩ := ha
        simp at hops
      simp only [List.mem_append, List.mem_cons, hne, false_or] at ht ⊢
      exact ht.imp_right .inr

/-- What a waiting thread asks for is one of the requests of what it runs. -/
theorem AllOrderly.request (hts : AllOrderly kind own R ts) {t : LockThread T K L} (ht : t ∈ ts)
    {a : L} (ha : t.WaitsFor a) :
    own t.tag a ∧ kind a ∉ t.held.map kind ∧ R t.tag (t.held.map kind) (kind a) := by
  obtain ⟨ops, hops⟩ := ha
  have horderly := (hts t ht).1
  rw [hops] at horderly
  exact ⟨horderly.1, horderly.2.1, horderly.2.2.1⟩

/-- The rank of the lock that a thread asks for next. -/
def LockThread.wantedRank (kind : L → K) (rank : K → ℕ) (t : LockThread T K L) : ℕ :=
  match t.todo with
  | .acquire a :: _ => rank (kind a)
  | _ => 0

/-- **Order.** In a deadlock some thread waits for a lock that does not come after all those it
holds. -/
theorem Deadlocked.unranked (rank : K → ℕ) (h : Deadlocked kind ts) (hts : AllOrderly kind own R ts) :
    ∃ t ∈ ts, ∃ a, t.WaitsFor a ∧ ∃ b ∈ t.held, rank (kind a) ≤ rank (kind b) := by
  by_contra hranked
  push Not at hranked
  -- along a chain of waiting threads the ranks would grow without end
  have hgrow : ∀ n, ∃ t ∈ ts, t.todo ≠ [] ∧ ∃ a, t.WaitsFor a ∧ n ≤ rank (kind a) := by
    intro n
    induction n with
    | zero =>
      obtain ⟨t, ht, htodo⟩ := h.1
      obtain ⟨a, ha, -⟩ := h.blocked ht htodo
      exact ⟨t, ht, htodo, a, ha, Nat.zero_le _⟩
    | succ n ih =>
      obtain ⟨t, ht, htodo, a, ha, hn⟩ := ih
      obtain ⟨u, hu, hmem, hutodo⟩ := h.holder hts ht ha
      obtain ⟨b, hb, -⟩ := h.blocked hu hutodo
      exact ⟨u, hu, hutodo, b, hb, Nat.succ_le_of_lt (lt_of_le_of_lt hn (hranked u hu b hb a hmem))⟩
  obtain ⟨t, ht, -, a, ⟨ops, hops⟩, hn⟩ := hgrow ((ts.map (LockThread.wantedRank kind rank)).sum + 1)
  have hwanted : t.wantedRank kind rank = rank (kind a) := by simp [LockThread.wantedRank, hops]
  have hle := List.le_sum_of_mem (List.mem_map_of_mem (f := LockThread.wantedRank kind rank) ht)
  omega

/-! ### The last thread -/

/-- The states that a run leads to. -/
def Reaches (kind : L → K) (path : T → List (Op K L) → Prop) (ts us : List (LockThread T K L)) : Prop :=
  ∃ as, Run (Step kind path) ts as us

theorem Reaches.start (h : Reaches kind path ts us) {t : T} {ops : List (Op K L)} (ht : path t ops) :
    Reaches kind path ts (us ++ [⟨t, [], ops⟩]) := by
  obtain ⟨as, h⟩ := h
  exact ⟨_, h.snoc (.start ht)⟩

theorem Reaches.acquire {t : T} {held : List L} {a : L} {ops : List (Op K L)}
    (h : Reaches kind path ts (us ++ [⟨t, held, .acquire a :: ops⟩])) (hus : ∀ u ∈ us, a ∉ u.held)
    (hheld : a ∉ held) : Reaches kind path ts (us ++ [⟨t, a :: held, ops⟩]) := by
  obtain ⟨as, h⟩ := h
  refine ⟨_, h.snoc (.move (.acquire fun u hu => ?_))⟩
  rcases List.mem_append.1 hu with hu | hu
  · exact hus u hu
  · rwa [List.mem_singleton.1 hu]

theorem Reaches.release {t : T} {held : List L} {k : K} {ops : List (Op K L)}
    (h : Reaches kind path ts (us ++ [⟨t, held, .release k :: ops⟩])) :
    Reaches kind path ts (us ++ [⟨t, held.filter (kind · ≠ k), ops⟩]) := by
  obtain ⟨as, h⟩ := h
  exact ⟨_, h.snoc (.move .release)⟩

end

end Locking
