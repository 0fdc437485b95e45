import LteUe.Proofs.Executor.Acts

/-!
# Deferrals are run on time

What is done at the site of an executor makes steps of `Deferrals.Step` (`Site.run_events`), as long as no timer
callback faults. So in every run of an executor a deferral by `ticks` is run once, in the `max ticks 1`-th tick of
the timers that begins after it was posted (`Site.deferrals_on_time`).
-/

namespace LteUe

variable {L κ : Type}

namespace Deferrals

/-- The events of some posts. -/
def postedAll (l : List (Nat × κ)) : List (Event κ) := l.map fun w => .posted w.1 w.2

theorem run_postedAll (d : Deferrals κ) (l : List (Nat × κ)) :
    Run Step d (postedAll l) { d with posted := d.posted ++ l } := by
  induction l generalizing d with
  | nil =>
    rw [List.append_nil]
    exact .nil
  | cons w l ih =>
    have h := ih { d with posted := d.posted ++ [w] }
    rw [List.append_assoc] at h
    exact .cons (.post w.1 w.2) h

theorem steps_postedAll (l : List (Nat × κ)) : steps (postedAll l) = 0 := by
  induction l with
  | nil => rfl
  | cons w l ih => exact ih

theorem Step.posted_of_used {d d' : Deferrals κ} (h : Step d .used d') : d'.posted = d.posted := by
  cases h <;> rfl

/-- Deferrals are run on time in the run with events `t`. -/
structure OnTime [DecidableEq κ] (t : List (Event κ)) : Prop where
  /-- Each step of the timers runs the deferrals that are due then, and no others. -/
  due_of_stepped (l : List (Event κ)) (invoked : List κ) (r : List (Event κ)) :
    t = l ++ .stepped invoked :: r → invoked.Perm (due l)
  /-- Every deferral posted has been run once, or is outstanding. -/
  once : (invokedIn t ++ (outstanding t).map (·.2)).Perm (postedIn t)
  /-- A deferral whose callback is not posted again is run in the `max ticks 1`-th step that begins
  after the post, once there. -/
  after (l : List (Event κ)) (ticks : Nat) (c : κ) (m : List (Event κ)) (invoked : List κ)
    (r : List (Event κ)) : t = l ++ .posted ticks c :: (m ++ .stepped invoked :: r) →
    (∀ n, Event.posted n c ∉ l) → (∀ n, Event.posted n c ∉ m) →
    invoked.count c = if steps m + 1 = max ticks 1 then 1 else 0
  /-- It is run in no step that begins before the post. -/
  before (l : List (Event κ)) (invoked : List κ) (r : List (Event κ)) (c : κ) :
    t = l ++ .stepped invoked :: r → (∀ n, Event.posted n c ∉ l) → c ∉ invoked

theorem onTime [DecidableEq κ] {n : Nat} {t : List (Event κ)} {d : Deferrals κ}
    (h : Run Step (start n) t d) : OnTime t where
  due_of_stepped l invoked r hl := by
    subst hl
    exact invoked_perm h
  once := conserved h
  after l ticks c m invoked r hl hcl hcm := by
    have hl' : t = (l ++ .posted ticks c :: m) ++ .stepped invoked :: r := by simp [hl]
    subst hl'
    rw [(invoked_perm h).count_eq]
    exact count_due hcl hcm
  before l invoked r c hl hc := by
    subst hl
    rw [(invoked_perm h).mem_iff, ← List.count_pos_iff, count_due_of_not_posted hc]
    exact Nat.lt_irrefl 0

/-- A deferral is due when the steps that it waits for have been made, but for one. -/
theorem mem_due {l t : List (Event κ)} {ticks : Nat} {c : κ} (h : steps t + 1 = max ticks 1) :
    c ∈ due (l ++ .posted ticks c :: t) := by
  induction l with
  | nil =>
    rw [List.nil_append, due, Event.due?, if_pos h]
    exact List.mem_cons_self
  | cons e l ih => exact List.mem_append_right _ ih

theorem filterMap_sublist {β : Type} {f g : Nat → Option β} (h : ∀ i, g i = none ∨ g i = f i)
    (l : List Nat) : (l.filterMap g).Sublist (l.filterMap f) := by
  induction l with
  | nil => exact .slnil
  | cons i l ih =>
    rcases h i with hi | hi
    · rw [List.filterMap_cons_none hi]
      cases hf : f i with
      | none =>
        rw [List.filterMap_cons_none hf]
        exact ih
      | some b =>
        rw [List.filterMap_cons_some hf]
        exact ih.cons b
    · cases hf : f i with
      | none =>
        rw [List.filterMap_cons_none hf, List.filterMap_cons_none (hi.trans hf)]
        exact ih
      | some b =>
        rw [List.filterMap_cons_some hf, List.filterMap_cons_some (hi.trans hf)]
        exact ih.cons_cons b

theorem invoked_sublist (d : Deferrals κ) : d.invoked.Sublist d.timers.due := by
  refine filterMap_sublist (fun i => ?_) _
  rw [invokedAt, TimerTable.dueAt]
  cases d.timers.slots[i]? with
  | none => exact .inl rfl
  | some s =>
    rw [Option.bind_some, Option.bind_some]
    split
    · exact .inl rfl
    · exact .inr rfl

end Deferrals

namespace Site

open Deferrals (Event postedAll OnTime)

/-! ## What acts make of deferrals -/

/-- The deferrals that are posted in the course of an act. -/
def Act.posts : Act κ → List (Nat × κ)
  | posted ticks callback => [(ticks, callback)]
  | called _ posts | ticked _ posts => posts
  | _ => []

/-- What an act does to deferrals, in order. -/
def Act.events : Act κ → List (Event κ)
  | took => [.armed]
  | used => [.used]
  | ticked invoked posts => .stepped invoked :: postedAll posts
  | a => postedAll a.posts

def eventsIn (t : List (Act κ)) : List (Event κ) := t.flatMap (·.events)

theorem eventsIn_append (l t : List (Act κ)) : eventsIn (l ++ t) = eventsIn l ++ eventsIn t :=
  List.flatMap_append

theorem eventsIn_cons (a : Act κ) (t : List (Act κ)) : eventsIn (a :: t) = a.events ++ eventsIn t :=
  List.flatMap_cons

theorem deferrals_eq {x y : Site L κ} (ht : y.executor.timers = x.executor.timers)
    (hd : y.shared.deferred = x.shared.deferred) (ho : y.own = x.own) : y.deferrals = x.deferrals := by
  rw [deferrals, deferrals, ht, hd, ho]

/-- To conclude a task touches neither the timers nor the deferrals that wait. -/
theorem conclude_spec (u : Task) (r : Except Fault Reply) (e : Executor L κ) (s : Shared κ) :
    (Executor.conclude u r e s).1.timers = e.timers ∧
      (Executor.conclude u r e s).2.deferred = s.deferred := by
  obtain ⟨c, ticket⟩ := u
  cases r with
  | ok reply => cases ticket <;> exact ⟨rfl, rfl⟩
  | error f => cases ticket <;> exact ⟨rfl, rfl⟩

variable [Layers L κ] {x y : Site L κ} {a : Act κ} {t : List (Act κ)}

/-- A tick of the timers arms what is posted and steps the timers; then the tick is counted. -/
theorem tickTimers_eq (x : Site L κ) :
    Work.tickTimers (x.executor, x.shared) =
      match TimerTable.stepAll (Layers.fire : κ → Hook L κ κ)
        (x.deferrals.arm.timers, x.executor.layers, { x.shared.toSurroundings with deferred := [] }) with
      | .ok _ (t, l, r) => .ok () ({ x.executor with
          timers := t, layers := l, ticksProcessed := x.executor.ticksProcessed + 1 }, Work.adopt x.shared r)
      | .error f (t, l, r) => .error f ({ x.executor with timers := t, layers := l }, Work.adopt x.shared r) := by
  show EStateM.bind Work.stepTimers _ ({ x.executor with timers := x.deferrals.arm.timers }, _) = _
  simp only [EStateM.bind, Work.stepTimers]
  cases TimerTable.stepAll (Layers.fire : κ → Hook L κ κ)
      (x.deferrals.arm.timers, x.executor.layers, { x.shared.toSurroundings with deferred := [] }) with
  | error f y => rfl
  | ok n y => rfl

/-- A tick of the timers that no callback ends early runs the callbacks that are due, in the order of their
places. What they post waits. -/
theorem tickTimers_ok {e : Executor L κ} {s : Shared κ}
    (h : Work.tickTimers (x.executor, x.shared) = .ok () (e, s)) :
    ∃ n r, TimerTable.stepAll (Layers.fire : κ → Hook L κ κ)
        (x.deferrals.arm.timers, x.executor.layers, { x.shared.toSurroundings with deferred := [] }) =
          .ok n (e.timers, e.layers, r) ∧ s.deferred = r.deferred := by
  rw [tickTimers_eq] at h
  split at h
  · next n t l r hs =>
    cases h
    exact ⟨n, r, hs, rfl⟩
  · cases h

/-- As long as no callback faults, acts make the steps of deferrals. -/
theorem Step.run_events (h : Step x a y) (ha : a ≠ .faulted) :
    Run Deferrals.Step x.deferrals a.events y.deferrals := by
  cases h with
  | @post ticks callback r hd =>
    unfold Surroundings.defer at hd
    split at hd
    · cases hd
    · cases hd
      exact x.deferrals.run_postedAll [(ticks, callback)]
  | take _ hb =>
    obtain ⟨d, -, rfl, rfl⟩ := Executor.begin_eq_some_iff.1 hb
    exact run_singleton_iff.2 .arm
  | @call c e s posts all _ ho _ _ =>
    rw [Work.outcome_hook_eq] at ho
    cases ho
    exact x.deferrals.run_postedAll all
  | tick ht =>
    obtain ⟨n, r, hs, -⟩ := tickTimers_ok ht
    exact .cons (.step hs) (Deferrals.run_postedAll _ _)
  | fault => exact absurd rfl ha
  | @use d hd =>
    have hp := hd.posted_of_used
    obtain ⟨timers, posted, own⟩ := d
    cases hp
    exact run_singleton_iff.2 hd
  | conclude u r =>
    obtain ⟨ht, hd⟩ := conclude_spec u r x.executor x.shared
    exact run_nil_iff.2 (deferrals_eq ht hd rfl)
  | pass ht _ hd => exact run_nil_iff.2 (deferrals_eq ht hd rfl)

theorem run_events (h : Run Step x t y) (ht : .faulted ∉ t) :
    Run Deferrals.Step x.deferrals (eventsIn t) y.deferrals := by
  induction h with
  | nil => exact .nil
  | @snoc t y z a _ hstep ih =>
    rw [List.mem_append, not_or, List.mem_singleton] at ht
    rw [eventsIn_append]
    refine (ih ht.1).append ?_
    rw [eventsIn_cons, eventsIn, List.flatMap_nil, List.append_nil]
    exact hstep.run_events (Ne.symm ht.2)

omit [Layers L κ] in
theorem steps_eventsIn (t : List (Act κ)) : Deferrals.steps (eventsIn t) = ticks t := by
  induction t with
  | nil => rfl
  | cons a t ih =>
    have ha : Deferrals.steps a.events = ticks [a] := by
      cases a with
      | ticked invoked posts =>
        show Deferrals.steps ([.stepped invoked] ++ postedAll posts) = 1
        rw [Deferrals.steps_append, Deferrals.steps_postedAll]
        rfl
      | posted | called => exact Deferrals.steps_postedAll _
      | _ => rfl
    rw [eventsIn_cons, Deferrals.steps_append, ih, ha, ← ticks_append, List.singleton_append]

omit [Layers L κ] in
/-- What an act has posted is among its events, and no step of the timers follows it there. -/
theorem Act.exists_events {n : Nat} {c : κ} (h : (n, c) ∈ a.posts) :
    ∃ p q, a.events = p ++ .posted n c :: q ∧ Deferrals.steps q = 0 := by
  obtain ⟨l, r, hlr⟩ := List.append_of_mem h
  have hp : postedAll a.posts = postedAll l ++ .posted n c :: postedAll r := by
    rw [hlr, postedAll, List.map_append, List.map_cons]
    rfl
  cases a with
  | ticked invoked posts =>
    exact ⟨.stepped invoked :: postedAll l, postedAll r, congrArg (_ :: ·) hp, Deferrals.steps_postedAll r⟩
  | posted | called => exact ⟨postedAll l, postedAll r, hp, Deferrals.steps_postedAll r⟩
  | _ => cases h

/-! ## The theorem -/

/-- A deferral by at most one tick is run when the timers are ticked next: in the tick in which medium access
control has posted it, or in the next one if a task, a hook that follows the ticks of a report, a timer callback
or another thread has. -/
def Prompt (t : List (Act κ)) : Prop :=
  ∀ (l : List (Act κ)) (a : Act κ) (m : List (Act κ)) (invoked : List κ) (posts : List (Nat × κ))
    (r : List (Act κ)) (n : Nat) (c : κ), t = l ++ a :: (m ++ .ticked invoked posts :: r) →
    (n, c) ∈ a.posts → n ≤ 1 → ticks m = 0 → c ∈ invoked

/-- What the executor of a stack does are acts at its site. -/
structure Executes (L : Type) {κ : Type} [Layers L κ] : Prop where
  /-- In a turn it takes a task, works on it and concludes it, whatever the task and however it ends. It counts
  each tick of the timers that it makes. -/
  turn {e e' : Executor L κ} {s s' : Shared κ} : e.turn s = some (e', s') → ∀ own, ∃ t own',
    Run Step ⟨e, s, own⟩ (.took :: t ++ [.concluded]) ⟨e', s', own'⟩ ∧ (∀ a ∈ t, a.isWork = true) ∧
      e'.ticksProcessed = e.ticksProcessed + ticks t
  /-- So it does turn after turn, as long as there are tasks. -/
  turns (n : Nat) (e : Executor L κ) (s : Shared κ) (own : List TimerId) : ∃ t own',
    Run Step ⟨e, s, own⟩ t ⟨(e.turns n s).1, (e.turns n s).2, own'⟩ ∧
      (e.turns n s).1.ticksProcessed = e.ticksProcessed + ticks t
  /-- In a report, medium access control is called in each tick before the timers are ticked, and the other
  layers after all ticks. -/
  report {tti jump : UInt32} {e e' : Executor L κ} {s s' : Shared κ} :
    Work.runTti tti jump (e, s) = .ok () (e', s') → ∀ own, ∃ t posts posts' own',
      OfTicks (Tti.subTicks tti jump) t ∧ Run Step ⟨e, s, own⟩
        (.passed :: t ++ [.called .rrcBatch posts, .called .nasBatch posts', .passed]) ⟨e', s', own'⟩
  /-- The callbacks that a tick is said to run are among those that it calls, with the layers that the executor
  has, one after the other. -/
  tick {x : Site L κ} {e : Executor L κ} {s : Shared κ} :
    Work.tickTimers (x.executor, x.shared) = .ok () (e, s) →
      x.deferrals.arm.invoked.Sublist x.deferrals.arm.timers.due ∧ ∃ kept r,
        x.deferrals.arm.timers.due.mapM (Layers.fire : κ → Hook L κ κ)
          (x.executor.layers, { x.shared.toSurroundings with deferred := [] }) = .ok kept (e.layers, r) ∧
        s.deferred = r.deferred
  /-- A tick faults only if one of the callbacks that are due does. -/
  fault {x : Site L κ} {f : Fault} {z : Executor L κ × Shared κ} :
    Work.tickTimers (x.executor, x.shared) = .error f z →
      ∃ c ∈ x.deferrals.arm.timers.due, ∃ v w, (Layers.fire c : Hook L κ κ) v = .error f w

theorem executes (hL : Layers.PostOnly L) : Executes L where
  turn := run_turn hL
  turns := run_turns hL
  report := run_report hL
  tick {x e s} h := by
    obtain ⟨n, r, hs, hr⟩ := tickTimers_ok h
    obtain ⟨⟨kept, hst⟩, -⟩ := TimerTable.stepAll_ok hs
    exact ⟨Deferrals.invoked_sublist _, _, r, hst.fired, hr⟩
  fault {x f z} h := by
    rw [tickTimers_eq] at h
    split at h
    · cases h
    · next hs =>
      cases h
      obtain ⟨i, kept, hcut⟩ := TimerTable.stepAll_error hs
      obtain ⟨s, c, v, hi, hd, hc, -, hf⟩ := hcut.fault
      refine ⟨c, List.mem_filterMap.2 ⟨i, List.mem_range.2 (Array.getElem?_eq_some_iff.1 hi).1, ?_⟩, v, _, hf⟩
      rw [TimerTable.dueAt, hi, Option.bind_some, TimerSlot.due?, if_pos hd, hc]

theorem prompt {layers : L} {c : StackConfig} (h : Run Step (start layers c) t x) (ht : .faulted ∉ t) :
    Prompt t := by
  intro l a m invoked posts r n c hl hc hn hm
  subst hl
  obtain ⟨p, q, hpq, hq⟩ := Act.exists_events hc
  have hrun := run_events h ht
  have hticked : (Act.ticked invoked posts).events = .stepped invoked :: postedAll posts := rfl
  have he : eventsIn (l ++ a :: (m ++ .ticked invoked posts :: r)) =
      (eventsIn l ++ p ++ .posted n c :: (q ++ eventsIn m)) ++
        .stepped invoked :: (postedAll posts ++ eventsIn r) := by
    simp [eventsIn_append, eventsIn_cons, hpq, hticked]
  rw [he] at hrun
  refine (Deferrals.invoked_perm hrun).mem_iff.2 (Deferrals.mem_due ?_)
  rw [Deferrals.steps_append, hq, steps_eventsIn, hm]
  omega

/-- In every run of an executor in which no timer callback faults, every deferral is run once, in the
`max ticks 1`-th tick of the timers that begins after it was posted, and in no other, whatever other timers and
deferrals there are. A run is made of acts in any order, of which every turn of the executor consists, with
layers that only post. -/
theorem deferrals_on_time [DecidableEq κ] (hL : Layers.PostOnly L) {layers : L} {c : StackConfig}
    (h : Run Step (start layers c) t x) (ht : .faulted ∉ t) :
    OnTime (eventsIn t) ∧ Prompt t ∧ Executes L :=
  ⟨Deferrals.onTime (run_events h ht), prompt h ht, executes hL⟩

/-! ## A run -/

theorem exists_ticked {d : Deferrals κ} (table : TimerTable κ) {n : Nat} {l : List κ}
    (hd : x.deferrals.arm = d) (hl : d.invoked = l)
    (hs : ∀ layers r, ∃ r',
      TimerTable.stepAll (Layers.fire : κ → Hook L κ κ) (d.timers, layers, r) = .ok n (table, layers, r') ∧
        r'.deferred = r.deferred) :
    ∃ y, Step x (.ticked l []) y ∧ y.deferrals = d.stepTo table := by
  subst hd hl
  obtain ⟨r, hs, hr⟩ := hs x.executor.layers { x.shared.toSurroundings with deferred := [] }
  have htick := tickTimers_eq x
  rw [hs] at htick
  have hd : (Work.adopt x.shared r).deferred = [] := hr
  have hstep := Step.tick htick
  rw [hd] at hstep
  refine ⟨_, hstep, ?_⟩
  rw [deferrals, hd]
  rfl

/-- A timer of a task, and two deferrals that are yet to be armed. -/
def bothPosted (a b : Callback) : Deferrals Callback where
  timers := { slots := #[{ inUse := true }] }
  posted := [(0, a), (2, b)]
  own := [⟨0, 0⟩]

/-- A timer of a task, and two deferrals of which the first is due. -/
def firstDue (a b : Callback) : Deferrals Callback where
  timers := { slots := #[{ inUse := true }, TimerTable.deferralSlot 0 0 a, TimerTable.deferralSlot 0 2 b] }
  own := [⟨0, 0⟩]

/-- What is left when that one has run: its place is free, and the other one is due. -/
def secondDue (a b : Callback) : Deferrals Callback where
  timers :=
    { slots := #[{ inUse := true }, (TimerTable.deferralSlot 0 0 a).vacate,
        { TimerTable.deferralSlot 0 2 b with remaining := 1 }]
      free := [1] }
  own := [⟨0, 0⟩]

/-- The timers when both have run. -/
def noneDue (a b : Callback) : TimerTable Callback where
  slots := #[{ inUse := true }, (TimerTable.deferralSlot 0 0 a).vacate,
    { (TimerTable.deferralSlot 0 2 b).vacate with remaining := 0 }]
  free := [2, 1]

/-- A deferral by no ticks and one by two, around a timer of a task: the first is run in the first tick that
follows, the other in the second. -/
theorem deferrals_on_time_of_two :
    let a : Callback := .deferral "a" 0 0 false
    let b : Callback := .deferral "b" 2 0 false
    let t : List (Act Callback) := [.posted 0 a, .used, .posted 2 b, .ticked [a] [], .ticked [b] []]
    Layers.PostOnly ObservedLayers ∧
      (∃ x : Site ObservedLayers Callback, Run Step (start { plan := {} } { timerCapacity := 1 }) t x) ∧
      OnTime (eventsIn t) ∧ Prompt t := by
  intro a b t
  have hposted : ∃ x : Site ObservedLayers Callback,
      Run Step (start { plan := {} } { timerCapacity := 1 }) [.posted 0 a, .used, .posted 2 b] x ∧
        x.deferrals = bothPosted a b :=
    ⟨_, .cons (.post rfl) (.cons (.use .create) (.cons (.post rfl) .nil)), by rfl⟩
  obtain ⟨x, hx, hd⟩ := hposted
  have hd : x.deferrals.arm = firstDue a b := by
    rw [hd]
    rfl
  obtain ⟨y, hy, hd⟩ := exists_ticked (n := 1) (l := [a]) (secondDue a b).timers hd (by cbv)
    fun layers r => ⟨_, by rfl, by rfl⟩
  have hd : y.deferrals.arm = secondDue a b := by
    rw [hd]
    rfl
  obtain ⟨z, hz, -⟩ := exists_ticked (n := 1) (l := [b]) (noneDue a b) hd (by cbv)
    fun layers r => ⟨_, by rfl, by rfl⟩
  have h : Run Step (start { plan := {} } { timerCapacity := 1 }) t z := (hx.snoc hy).snoc hz
  have ht : .faulted ∉ t := by simp [t]
  obtain ⟨hon, hprompt, -⟩ := deferrals_on_time ObservedLayers.postOnly h ht
  exact ⟨ObservedLayers.postOnly, ⟨z, h⟩, hon, hprompt⟩

end Site

end LteUe
