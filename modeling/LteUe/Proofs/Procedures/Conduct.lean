import LteUe.Proofs.Procedures.Ledger
import LteUe.Proofs.Procedures.Mirrors

/-!
# How procedures are conducted

Whoever starts procedures of the radio, and whatever else goes on, the radio is asked at most once for each
procedure that is started, and what it answers is reported in one task at most, which the executor runs before
the task that ends it, if at all. A procedure that is not started leads to nothing. As long as the dispatcher
is open, each procedure started has been completed, or is in the channel of the pool, with a worker, in the
queue of background results or in the hands of the executor, and once (`Procedures.procedures_conducted`).
-/

namespace LteUe

variable {L κ : Type}

namespace Procedures

variable {x y : Procedures L κ} {e : Event κ} {t : List (Event κ)}

/-! ## The ledger that is kept -/

/-- The entry of what may be a procedure. -/
def placed (o : Option Nat) (σ : Option Situation) : Multiset (Nat × Situation) :=
  o.elim 0 fun n => Ledger.entry n σ

/-- Where the job is that a worker has. -/
def situation? (d : Desk) : Option Situation :=
  match d.progress with
  | .taken => some (.taken d.job)
  | .reporting u => some (.reporting u)
  | .over => none

/-- Where the procedures are whose jobs are in the channel. -/
def inChannel (l : List (Option Nat × Job)) : Multiset (Nat × Situation) :=
  (l.map fun c => placed c.1 (some (.queued c.2))).sum

/-- Where the procedures are that workers are about. -/
def atDesks (l : List Desk) : Multiset (Nat × Situation) :=
  (l.map fun d => placed d.caller (situation? d)).sum

/-- Where the procedures are whose tasks are in the queue. -/
def inBacklog (l : List (Option Nat × Task)) : Multiset (Nat × Situation) :=
  (l.map fun b => placed b.1 (some (.waiting b.2))).sum

/-- Where the procedure is whose task the executor has. -/
def atHand (o : Option (Option Nat × Task)) : Multiset (Nat × Situation) :=
  o.elim 0 fun b => placed b.1 (some (.running b.2))

/-- Where all procedures are. -/
def places (x : Procedures L κ) : Multiset (Nat × Situation) :=
  inChannel x.channel + atDesks x.desks + inBacklog x.backlog + atHand x.hand

/-- The ledger of the procedures. -/
def ledger (x : Procedures L κ) : Ledger := ⟨x.started, x.places⟩

theorem inChannel_cons (c : Option Nat × Job) (l : List (Option Nat × Job)) :
    inChannel (c :: l) = placed c.1 (some (.queued c.2)) + inChannel l := List.sum_cons

theorem inChannel_snoc (l : List (Option Nat × Job)) (c : Option Nat × Job) :
    inChannel (l ++ [c]) = inChannel l + placed c.1 (some (.queued c.2)) := by
  simp [inChannel]

theorem atDesks_cons (d : Desk) (l : List Desk) :
    atDesks (d :: l) = placed d.caller (situation? d) + atDesks l := List.sum_cons

theorem atDesks_middle (l m : List Desk) (d : Desk) :
    atDesks (l ++ d :: m) = placed d.caller (situation? d) + atDesks (l ++ m) := by
  simp only [atDesks, List.map_append, List.map_cons, List.sum_append, List.sum_cons]
  abel

theorem inBacklog_cons (b : Option Nat × Task) (l : List (Option Nat × Task)) :
    inBacklog (b :: l) = placed b.1 (some (.waiting b.2)) + inBacklog l := List.sum_cons

theorem inBacklog_snoc (l : List (Option Nat × Task)) (b : Option Nat × Task) :
    inBacklog (l ++ [b]) = inBacklog l + placed b.1 (some (.waiting b.2)) := by
  simp [inBacklog]

theorem placed_left_none (σ : Option Situation) : placed none σ = 0 := rfl

theorem placed_none (o : Option Nat) : placed o none = 0 := by
  cases o <;> rfl

theorem run_goes {o : Option Nat} {σ : Situation} {c : Chapter κ} {σ' : Option Situation} (h : Goes σ c σ')
    (i : Nat) (s : Multiset (Nat × Situation)) :
    Run Ledger.Step ⟨i, placed o (some σ) + s⟩ (mark o c) ⟨i, placed o σ' + s⟩ := by
  cases o with
  | none => exact .nil
  | some n => exact run_singleton_iff.2 (.go h)

theorem places_of_desk {l m : List Desk} {d : Desk} (h : x.desks = l ++ d :: m) :
    x.places = placed d.caller (situation? d) +
      (inChannel x.channel + atDesks (l ++ m) + inBacklog x.backlog + atHand x.hand) := by
  simp only [places, h, atDesks_middle]
  abel

theorem ledger_eq {k : Ledger} (hs : y.started = k.started) (hp : y.places = k.entries) : y.ledger = k := by
  rw [ledger, hs, hp]

theorem ledger_aside (hs : y.started = x.started) (hp : y.places = x.places) :
    Run Ledger.Step x.ledger ([] : List (Nat × Chapter κ)) y.ledger :=
  run_nil_iff.2 (ledger_eq hs hp)

theorem ledger_call {m : Nat × Chapter κ} {k : Ledger} (h : Ledger.Step x.ledger m k)
    (hs : y.started = k.started) (hp : y.places = k.entries) : Run Ledger.Step x.ledger [m] y.ledger :=
  run_singleton_iff.2 (ledger_eq hs hp ▸ h)

theorem ledger_goes {o : Option Nat} {σ : Situation} {c : Chapter κ} {σ' : Option Situation}
    {s : Multiset (Nat × Situation)} (h : Goes σ c σ') (hs : y.started = x.started)
    (hx : x.places = placed o (some σ) + s) (hy : y.places = placed o σ' + s) :
    Run Ledger.Step x.ledger (mark o c) y.ledger := by
  rw [ledger, ledger, hs, hx, hy]
  exact run_goes h _ _

theorem run_drops (i : Nat) (l : List (Option Nat × Task)) (s : Multiset (Nat × Situation)) :
    Run Ledger.Step ⟨i, inBacklog l + s⟩ (l.flatMap fun b => mark (κ := κ) b.1 (.dropped b.2)) ⟨i, s⟩ := by
  induction l with
  | nil =>
    rw [show inBacklog [] + s = s from zero_add s]
    exact .nil
  | cons b l ih =>
    rw [inBacklog_cons, add_assoc, List.flatMap_cons]
    refine Run.append (run_goes (.drop b.2) _ _) ?_
    rwa [placed_none, zero_add]

/-- The layers are told what the radio has answered, and nothing else. -/
theorem callsOf_report [Layers L κ] (p : Procedure) (r : Radio) (y : Executor L κ × Shared κ) :
    Work.callsOf (p.report r).command y = [p.told r] := by
  cases p with
  | search => exact Work.calls_hook (.searchDone r.result r.found) _ (fun _ => .done) y
  | select cell => exact Work.calls_hook (.selectDone (r.select cell)) _ (fun _ => .done) y

variable [Layers L κ]

theorem Step.ledger (h : Step x e y) (hm : Mirrors x) : Run Ledger.Step x.ledger e.1 y.ledger := by
  -- each step moves one procedure from place to place, or none; only a close moves several
  cases h with
  | @call b s p hs =>
    cases b with
    | false => exact ledger_call (.refuse p) rfl (by simp [places, Procedures.ledger])
    | true =>
      refine ledger_call (.enter p) rfl ?_
      simp only [places, if_true, inChannel_snoc, Procedures.ledger, placed, Option.elim_some]
      abel
  | @submit j b s hj hs =>
    refine ledger_aside rfl ?_
    cases b with
    | false => simp [places]
    | true => simp only [places, if_true, inChannel_snoc, placed_left_none, add_zero]
  | @receive w o j rest pool hc hp =>
    refine ledger_goes (s := inChannel rest + atDesks x.desks + inBacklog x.backlog + atHand x.hand)
      (.receive j) rfl ?_ ?_
    · simp only [places, hc, inChannel_cons, add_assoc]
    · simp only [places, atDesks_cons, situation?]
      abel
  | @ask l m w o p r c s hd hs =>
    rw [Shared.consult_eq_report hs]
    exact ledger_goes (.ask p r rfl) rfl (places_of_desk hd)
      (places_of_desk (d := ⟨w, o, p.job, .reporting (p.report r)⟩) rfl)
  | @work l m w o j r s hd hj hs =>
    refine ledger_aside rfl ?_
    have ho := hm.held _ (hd ▸ List.mem_append_right _ List.mem_cons_self)
    rw [hj] at ho
    cases o with
    | some n => cases ho
    | none =>
      rw [places_of_desk hd, places_of_desk (d := ⟨w, none, j, _⟩) rfl]
      rfl
  | @report l m w o j u d hd hu ho =>
    refine ledger_goes (.report u) rfl (places_of_desk hd) ?_
    simp only [places, atDesks_middle, inBacklog_snoc, situation?, placed_none]
    abel
  | @turnAway l m w o j u e hd ho =>
    exact ledger_goes (.turnAway u) rfl (places_of_desk hd) (places_of_desk (d := ⟨w, o, j, .over⟩) rfl)
  | @complete l m w o j hd =>
    refine ledger_aside rfl ((places_of_desk hd).trans ?_).symm
    rw [situation?, placed_none, zero_add]
    rfl
  | @begin y o u rest hb hy =>
    have hh : x.hand = none := Option.map_eq_none_iff.1 (hm.hand.trans hy.of_began.1)
    refine ledger_goes (s := inChannel x.channel + atDesks x.desks + inBacklog rest) (.begin u) rfl ?_ ?_
    · simp only [places, hb, hh, inBacklog_cons, atHand, Option.elim_none]
      abel
    · simp only [places, atHand, Option.elim_some]
      abel
  | @beginOther y i u hi hy =>
    have hh : x.hand = none := Option.map_eq_none_iff.1 (hm.hand.trans hy.of_began.1)
    refine ledger_aside rfl ?_
    simp only [places, hh, atHand, Option.elim_some, Option.elim_none, placed_left_none]
  | @run f o u seen s hh ht he hk hp =>
    have hc : ∀ (p : Procedure) r, u = p.report r → Work.callsOf u.command (f, seen) = [p.told r] := by
      rintro p r rfl
      exact callsOf_report p r _
    refine ledger_goes (s := inChannel x.channel + atDesks x.desks + inBacklog x.backlog)
      (.complete hc) rfl ?_ ?_
    · simp only [places, hh, atHand, Option.elim_some]
      abel
    · simp only [places, atHand, Option.elim_none, placed_none]
      abel
  | @close y w hy hc hp =>
    have hx : x.places = inBacklog x.backlog + (inChannel x.channel + atDesks x.desks + atHand x.hand) := by
      rw [places]
      abel
    have hd := run_drops (κ := κ) x.started x.backlog
      (inChannel x.channel + atDesks x.desks + atHand x.hand)
    rw [← hx] at hd
    have hr : ledger { x with toLifetime := y, backlog := [] } =
        ⟨x.started, inChannel x.channel + atDesks x.desks + atHand x.hand⟩ :=
      ledger_eq rfl (congrArg (· + _) (add_zero _))
    exact hr ▸ hd
  | @other y w hy hr hb hc hp =>
    refine ledger_aside rfl ?_
    cases w.2.acceptedOn? QueueKind.background.index with
    | none => simp [places]
    | some u =>
      simp only [places, Option.toList_some, List.map_singleton, inBacklog_snoc, placed_left_none, add_zero]

theorem sound {c : StackConfig} (h : Run Step (start c) t x) : Ledger.Sound (marks t) x.ledger := by
  induction h with
  | nil => exact Ledger.sound_start
  | snoc h hs ih =>
    rw [marks, List.flatMap_append, List.flatMap_singleton]
    exact ih.run (hs.ledger (mirrors h))

theorem mem_mark {o : Option Nat} {c : Chapter κ} {m : Nat × Chapter κ} (h : m ∈ mark o c) : m.2 = c := by
  obtain ⟨n, -, rfl⟩ := List.mem_map.1 h
  rfl

theorem Step.within (h : Step x e y) : ∀ m ∈ e.1, m.2.Within e.2 := by
  intro m hm
  cases h with
  | call p =>
    rw [List.mem_singleton.1 hm]
    rfl
  | submit => cases hm
  | work => cases hm
  | complete => cases hm
  | beginOther => cases hm
  | other => cases hm
  | close hy hc =>
    obtain ⟨b, -, hb⟩ := List.mem_flatMap.1 hm
    rw [mem_mark hb]
    exact hc
  | receive =>
    rw [mem_mark hm]
    rfl
  | ask =>
    rw [mem_mark hm]
    rfl
  | report =>
    rw [mem_mark hm]
    rfl
  | turnAway =>
    rw [mem_mark hm]
    rfl
  | begin =>
    rw [mem_mark hm]
    rfl
  | run =>
    rw [mem_mark hm]
    exact ⟨_, rfl⟩

theorem within {x₀ : Procedures L κ} (h : Run Step x₀ t x) : ∀ e ∈ t, ∀ m ∈ e.1, m.2.Within e.2 := by
  induction h with
  | nil => exact fun _ he => absurd he List.not_mem_nil
  | snoc _ hs ih =>
    intro e he
    obtain he | he := List.mem_append.1 he
    · exact ih e he
    · rw [List.mem_singleton.1 he]
      exact hs.within

theorem Step.closed_of_lost {c : StackConfig} (h : Run Step (start c) t x) (hs : Step x e y)
    {m : Nat × Chapter κ} (hm : m ∈ e.1) (hl : m.2.isLost = true) : y.shared.dispatcher.closed = true := by
  cases hs with
  | turnAway _ ho =>
    refine Shared.closed_of_rejected ?_ ho
    rw [(books h).ordered.queues]
    decide
  | close hy hc => exact hy.deal.closed_iff.2 (.inr hc)
  | call => 
    rw [List.mem_singleton.1 hm] at hl
    cases hl
  | submit => cases hm
  | work => cases hm
  | complete => cases hm
  | beginOther => cases hm
  | other => cases hm
  | receive | ask | report | begin | run =>
    rw [mem_mark hm] at hl
    cases hl

theorem callers_lost {c : StackConfig} (h : Run Step (start c) t x)
    (ho : x.shared.dispatcher.closed = false) :
    callers (·.isLost) (marks t) = [] := by
  have hl : ∀ m ∈ marks t, m.2.isLost = true → x.shared.dispatcher.closed = true := by
    clear ho
    induction h with
    | nil => exact fun _ hm => absurd hm List.not_mem_nil
    | snoc h hs ih =>
      intro m hm hl
      rw [marks, List.flatMap_append, List.flatMap_singleton] at hm
      obtain hm | hm := List.mem_append.1 hm
      · exact hs.life.deal.closed_iff.2 (.inl (ih m hm hl))
      · exact hs.closed_of_lost h hm hl
  refine List.map_eq_nil_iff.2 (List.filter_eq_nil_iff.2 fun m hm hlost => ?_)
  have hc := hl m hm hlost
  rw [ho] at hc
  cases hc

/-! ## The balance -/

omit [Layers L κ] in
theorem map_placed {α : Type} (l : List α) (f : α → Option Nat) (g : α → Option Situation) :
    ((l.map fun a => placed (f a) (g a)).sum).map (·.1) =
      l.filterMap fun a => if g a = none then none else f a := by
  induction l with
  | nil => rfl
  | cons a l ih =>
    rw [List.map_cons, List.sum_cons, Multiset.map_add, ih]
    cases hf : f a with
    | none => simp [placed, hf]
    | some n => cases hg : g a <;> simp [placed, Ledger.entry, hf, hg]

omit [Layers L κ] in
theorem map_places (x : Procedures L κ) :
    x.places.map (·.1) = (x.queued ++ x.held ++ x.waiting ++ x.inHand : List Nat) := by
  have hd : ∀ d : Desk, situation? d = none ↔ d.progress = .over := by
    rintro ⟨w, o, j, _ | u | _⟩ <;> simp [situation?]
  rw [places, Multiset.map_add, Multiset.map_add, Multiset.map_add, inChannel, atDesks, inBacklog, map_placed,
    map_placed, map_placed]
  simp only [hd, reduceCtorEq, if_false, ← Multiset.coe_add]
  congr 1
  unfold inHand atHand
  cases x.hand with
  | none => rfl
  | some b => cases h : b.1 <;> simp [placed, Ledger.entry, h]

/-! ## The operations -/

omit [Layers L κ] in
theorem command_report_ne (p : Procedure) (r : Radio) : (p.report r).command ≠ .teardown := by
  cases p <;> nofun

/-- A worker takes the oldest job, a procedure, and asks the radio. -/
theorem exists_run_asked {n w : Nat} {p : Procedure} {rest : List (Option Nat × Job)} {pool : WorkerPool Job}
    {r : Radio} {c : Command} {s : Shared κ} (hc : x.channel = (some n, p.job) :: rest)
    (hp : x.shared.pool.receive w = some (p.job, pool)) (hr : x.shared.radio = some r)
    (hs : Shared.consult { x.shared with pool := pool } p.job = (some c, s)) :
    ∃ l, Run Step x l
        { x with
          shared := s
          channel := rest
          desks := ⟨w, some n, p.job, .reporting (p.report r)⟩ :: x.desks } ∧
      marks l = [(n, .received), (n, .asked p r)] := by
  have h₁ : Step x (mark (some n) .received, .worked, .missed) _ := .receive hc hp
  have hs' : { { x.shared with pool := pool } with radio := some r }.consult p.job = (some c, s) := by
    rw [← hr]
    exact hs
  have h₂ := Step.ask (x := { x with
    shared := { x.shared with pool := pool }
    channel := rest
    desks := ⟨w, some n, p.job, .taken⟩ :: x.desks }) (l := []) rfl hs'
  obtain ⟨world, hw⟩ := Shared.consult_eq { x.shared with pool := pool } p.job
  rw [hs] at hw
  obtain rfl : s = _ := hw
  rw [Shared.consult_eq_report hs'] at h₂
  exact ⟨_, .cons h₁ (run_singleton_iff.2 h₂), rfl⟩

/-- A worker that has a task to enqueue does so, or finds the dispatcher closed, and is done with its job. -/
theorem exists_run_reported {w : Nat} {o : Option Nat} {j : Job} {c : Command} {m : List Desk} {b : Bool}
    {s : Shared κ} (hd : x.desks = ⟨w, o, j, .reporting { command := c }⟩ :: m) (hc : c ≠ .teardown)
    (h : x.shared.postResult c = some (b, s)) :
    ∃ l y, Run Step x l y ∧ y.shared = { s with pool := s.pool.complete w } ∧
      marks l = mark o (if b then .reported { command := c } else .turnedAway { command := c }) := by
  simp only [Shared.postResult, Shared.enqueue] at h
  cases ho : x.shared.offer .background { command := c } with
  | accepted d =>
    rw [ho] at h
    cases h
    have h₁ := Step.report (l := []) hd hc ho
    refine ⟨_, _, .cons h₁ (run_singleton_iff.2 (.complete (l := []) rfl)), rfl, ?_⟩
    exact List.append_nil _
  | rejected e =>
    rw [ho] at h
    cases h
    have h₁ := Step.turnAway (l := []) hd ho
    refine ⟨_, _, .cons h₁ (run_singleton_iff.2 (.complete (l := []) rfl)), rfl, ?_⟩
    exact List.append_nil _
  | parked =>
    rw [ho] at h
    cases h

/-- A worker that runs the oldest job without a break, a procedure, asks the radio and reports its answer. -/
theorem exists_run_job (hm : Mirrors x) {n : Nat} {p : Procedure} {rest : List (Option Nat × Job)} {b : Bool}
    {s : Shared κ} (hc : x.channel = (some n, p.job) :: rest) (h : x.shared.runJob = some (some b, s)) :
    ∃ r l y, x.shared.radio = some r ∧ Run Step x l y ∧ y.shared = s ∧
      marks l = [(n, .received), (n, .asked p r),
        (n, if b then .reported (p.report r) else .turnedAway (p.report r))] := by
  unfold Shared.runJob at h
  obtain ⟨⟨j, pool⟩, hp, h⟩ := Option.bind_eq_some_iff.1 h
  obtain ⟨-, rest', hw, -⟩ := WorkerPool.receive_eq_some_iff.1 hp
  -- the channel of the procedures mirrors that of the pool, so this is the job of the call
  have hx := hm.channel
  rw [hc, List.map_cons, hw] at hx
  obtain rfl : p.job = j := (List.cons.inj hx).1
  dsimp only at h
  generalize hcon : Shared.consult { x.shared with pool := pool } p.job = z at h
  obtain ⟨_ | c, s₁⟩ := z
  · cases h
  obtain ⟨r, hr, hcr⟩ := Shared.exists_radio_of_consult hcon
  obtain ⟨l, hl, hmarks⟩ := exists_run_asked hc hp hr hcon
  rw [← hcr] at hl
  dsimp only at h
  cases hpost : s₁.postResult c with
  | none =>
    rw [hpost] at h
    cases h
  | some z =>
    obtain ⟨b', s₂⟩ := z
    rw [hpost] at h
    cases h
    have hne : c ≠ .teardown := by
      have hne := command_report_ne p r
      rwa [← hcr] at hne
    obtain ⟨l', y, hl', hy, hmarks'⟩ := exists_run_reported (L := L) (x := { x with
      shared := s₁
      channel := rest
      desks := ⟨0, some n, p.job, .reporting { command := c }⟩ :: x.desks }) rfl hne hpost
    refine ⟨r, _, y, hr, hl.append hl', hy, ?_⟩
    rw [marks, List.flatMap_append, ← hcr]
    refine (congrArg₂ (· ++ ·) hmarks hmarks').trans ?_
    cases b <;> rfl

theorem exists_run_calls (ps : List Procedure) (hr : x.shared.radio.isSome = true) :
    ∃ l i c, Run Step x l { x with
      shared := { x.shared with pool := ps.foldl (fun q p => (q.push p.job).2) x.shared.pool }
      started := i
      channel := c } := by
  induction ps generalizing x with
  | nil => exact ⟨[], _, _, .nil⟩
  | cons p ps ih =>
    obtain ⟨r, hr'⟩ := Option.isSome_iff_exists.1 hr
    have hs : x.shared.asLayer p.start = ((x.shared.pool.push p.job).1,
        { x.shared with pool := (x.shared.pool.push p.job).2 }) := by
      cases p <;> simp [Shared.asLayer, Procedure.start, Surroundings.startSearch, Surroundings.startSelect,
        Surroundings.submitRadio, Surroundings.submit, Procedure.job, hr']
    obtain ⟨l, i, c, hl⟩ := ih (x := { x with
      shared := { x.shared with pool := (x.shared.pool.push p.job).2 }
      started := x.started + 1
      channel := x.channel ++ if (x.shared.pool.push p.job).1 then [(some x.started, p.job)] else [] }) hr
    exact ⟨_, i, c, .cons (.call p hs) hl⟩

theorem step_completed {e : Executor L κ} {o : Option Nat} {u : Task} {s : Shared κ} {r : Except Fault Reply}
    {calls : List (Call κ)} (seen : Shared κ) (hh : x.hand = some (o, u)) (ht : x.task = some u)
    (he : x.executor = some e) (hk : x.shared.Keeps s) (hp : s.pool = x.shared.pool)
    (hr : (outcome (Work.perform u.command) (e, seen)).1 = r)
    (hc : Work.callsOf u.command (e, seen) = calls) :
    Step x (mark o (.completed u calls), .ran u r, .missed)
      { x with shared := s, executor := some (e.run u seen).1, task := none, hand := none } :=
  hr ▸ hc ▸ .run hh ht he hk hp

/-- Whichever queue the executor takes a task from, the task is in hand then. -/
theorem exists_step_begun (hm : Mirrors x) {e e' : Executor L κ} {u : Task} {s : Shared κ} (ht : x.task = none)
    (he : x.executor = some e) (hr : e.running = true) (hb : e.begin x.shared = some (u, e', s)) :
    ∃ w o b, Step x w { x with
      shared := s, executor := some e', task := some u, hand := some (o, u), backlog := b } := by
  obtain ⟨i, hi, hhead⟩ := Executor.exists_serving_of_begin hb
  have hbegin := Execution.step_began ht he hr hb hi
  by_cases hbg : i = QueueKind.background.index
  · subst hbg
    have hx := hm.backlog
    cases hq : x.backlog with
    | nil =>
      rw [hq] at hx
      rw [← hx] at hhead
      cases hhead
    | cons b rest =>
      obtain ⟨o, v⟩ := b
      rw [hq] at hx
      rw [← hx] at hhead
      cases hhead
      exact ⟨_, o, rest, .begin hq hbegin⟩
  · exact ⟨_, none, x.backlog, .beginOther hbg hbegin⟩

/-- A turn of the executor takes a task and runs it. The layers may start procedures meanwhile. -/
theorem exists_run_turn (hm : Mirrors x) {e e' : Executor L κ} {s : Shared κ} {ps : List Procedure}
    (ht : x.task = none) (he : x.executor = some e) (h : e.turn x.shared = some (e', s))
    (hr : x.shared.radio.isSome = true)
    (hp : s.pool = ps.foldl (fun q p => (q.push p.job).2) x.shared.pool) :
    ∃ l y, Run Step x l y ∧ y.toLifetime = { x.toLifetime with shared := s, executor := some e' } := by
  obtain ⟨hrun, u, e₁, s₁, hb, hu⟩ := Executor.turn_eq_some_iff.1 h
  obtain ⟨w, o, b, h₁⟩ := exists_step_begun hm ht he hrun hb
  have hk := (Executor.keeps_run u e₁ s₁).1
  obtain ⟨l, j, c, h₂⟩ := exists_run_calls (x := { x with
    shared := s₁, executor := some e₁, task := some u, hand := some (o, u), backlog := b }) ps
    (Executor.radio_begin hb ▸ hr)
  rw [hu] at hk
  have h₃ := step_completed (s := s) (x := { x with
    shared := { s₁ with pool := ps.foldl (fun q p => (q.push p.job).2) s₁.pool }
    executor := some e₁, task := some u, hand := some (o, u), backlog := b, started := j, channel := c })
    s₁ rfl rfl rfl ⟨hk.dispatcher, hk.radio, hk.state⟩ (hp.trans (by rw [Executor.pool_begin hb])) rfl rfl
  rw [hu] at h₃
  exact ⟨_, _, .cons h₁ (h₂.snoc h₃), by rw [← ht]⟩

/-! ## The theorem -/

/-- What holds of the procedures after the events `t` that have led to `x`. -/
structure Conducted (t : List (Event κ)) (x : Procedures L κ) : Prop where
  /-- A procedure goes one of its ways, and has got so far on it. -/
  story (n : Nat) : ∃ p r, ∃ l ∈ ways p r, own n (marks t) <+: l
  /-- So a call starts it once at most, it asks the radio once at most, and it comes to one report and one
  completion at most. -/
  once (n : Nat) (f : Chapter κ → Bool) :
    f ∈ [Chapter.isAccepted, Chapter.isAsked, Chapter.isReported, Chapter.isCompleted] →
      (own n (marks t)).countP f ≤ 1
  /-- What is completed is a procedure that a call has started, and radio resource control is told what the
  radio answered when it was asked for this procedure. -/
  answer (n : Nat) (u : Task) (calls : List (Call κ)) : .completed u calls ∈ own n (marks t) →
    ∃ p r, .called p true ∈ own n (marks t) ∧ .asked p r ∈ own n (marks t) ∧ u = p.report r ∧
      calls = [p.told r]
  /-- A call that returns `false` leads to nothing. -/
  refused (n : Nat) (p : Procedure) : .called p false ∈ own n (marks t) →
    own n (marks t) = [.called p false]
  /-- A task is reported, taken and run as the dispatcher is given it, and the executor takes it and runs
  it. -/
  within : ∀ e ∈ t, ∀ m ∈ e.1, m.2.Within e.2
  /-- After the task that ends the executor has been run, none is taken and none is run. -/
  ended (u : Task) (e : Event κ) (y : Procedures L κ) :
    u ∈ Lifetime.run (Execution.lives (lives t)) → u.command = .teardown → Step x e y →
      ∀ m ∈ e.1, m.2.isRun = false
  /-- A call starts one procedure at most. -/
  nodup : (callers (·.isAccepted) (marks t)).Nodup
  /-- While the dispatcher is open, each procedure started has been completed, or is in the channel of the
  pool, with a worker, in the queue of background results or in the hands of the executor, and once. -/
  balance : x.shared.dispatcher.closed = false → (callers (·.isAccepted) (marks t)).Perm
    (callers (·.isCompleted) (marks t) ++ (x.queued ++ x.held ++ x.waiting ++ x.inHand))
  /-- Otherwise its answer may have been lost. -/
  total : (callers (·.isAccepted) (marks t)).Perm
    (callers (·.isCompleted) (marks t) ++ callers (·.isLost) (marks t) ++
      (x.queued ++ x.held ++ x.waiting ++ x.inHand))
  /-- A stack that runs has an open dispatcher. -/
  isOpen : x.state = .running → x.shared.dispatcher.closed = false
  /-- The jobs and tasks told apart are those of the pool, the queue and the executor. -/
  mirrors : x.Mirrors
  /-- A worker that runs the oldest job, a procedure, without a break makes these steps. -/
  job (n : Nat) (p : Procedure) (rest : List (Option Nat × Job)) (b : Bool) (s : Shared κ) :
    x.channel = (some n, p.job) :: rest → x.shared.runJob = some (some b, s) →
      ∃ r l y, x.shared.radio = some r ∧ Run Step x l y ∧ y.shared = s ∧
        marks l = [(n, .received), (n, .asked p r),
          (n, if b then .reported (p.report r) else .turnedAway (p.report r))]
  /-- And so does a turn of the executor in which the layers start the procedures `ps`. -/
  turn (e e' : Executor L κ) (s : Shared κ) (ps : List Procedure) : x.task = none → x.executor = some e →
    e.turn x.shared = some (e', s) → x.shared.radio.isSome = true →
      s.pool = ps.foldl (fun q p => (q.push p.job).2) x.shared.pool →
        ∃ l y, Run Step x l y ∧ y.toLifetime = { x.toLifetime with shared := s, executor := some e' }

theorem Step.isRun_of_ended {c : StackConfig} (h : Run Step (start c) t x) (hs : Step x e y) {u : Task}
    (hu : u ∈ Lifetime.run (Execution.lives (lives t))) (hc : u.command = .teardown) :
    ∀ m ∈ e.1, m.2.isRun = false := by
  intro m hm
  obtain ⟨hb, hr⟩ := (books h).ended hs.life hu hc
  have hw := hs.within m hm
  cases hm₂ : m.2 with
  | begun v =>
    rw [hm₂] at hw
    rw [show e.2.1 = .began v from hw] at hb
    cases hb
  | completed v calls =>
    rw [hm₂] at hw
    obtain ⟨r, hw⟩ := hw
    rw [hw] at hr
    cases hr
  | _ => rfl

theorem total {c : StackConfig} (h : Run Step (start c) t x) : (callers (·.isAccepted) (marks t)).Perm
    (callers (·.isCompleted) (marks t) ++ callers (·.isLost) (marks t) ++
      (x.queued ++ x.held ++ x.waiting ++ x.inHand)) := by
  have hb := (sound h).balance
  rw [ledger, map_places, Multiset.coe_add, Multiset.coe_add] at hb
  exact Multiset.coe_eq_coe.1 hb

/-- However procedures are started, and whatever else goes on, each is asked of the radio once at most, and
completed once at most with what the radio has answered; none is lost while the dispatcher is open. -/
theorem procedures_conducted {c : StackConfig} (h : Run Step (start c) t x) : Conducted t x where
  story := (sound h).way
  once n _ := (sound h).once n
  answer _ _ _ := (sound h).answer
  refused _ _ := (sound h).refused
  within := within h
  ended _ _ _ hu hc hs := hs.isRun_of_ended h hu hc
  nodup := (sound h).nodup
  balance ho := by
    have ht := total h
    rwa [callers_lost h ho, List.append_nil] at ht
  total := total h
  isOpen hs := by
    have hm : ∀ s ∈ Lifetime.stages, s.state = .running → s.closed = false := by decide
    exact hm _ (books h).ordered.stage hs
  mirrors := mirrors h
  job _ _ _ _ _ := exists_run_job (mirrors h)
  turn _ _ _ _ := exists_run_turn (mirrors h)

theorem step_aside {z : Lifetime L κ} {w : Lifetime.Event} (h : Lifetime.Aside x.toLifetime w z) :
    Step x ([], w, .missed) { x with toLifetime := z } := by
  have hs := Step.other (Execution.step_aside h.step h.idle h.dispatcher) h.idle.1 h.idle.2.2 rfl ⟨_, h.pool⟩
  rwa [show (Traffic.Event.missed : Traffic.Event Task).acceptedOn? QueueKind.background.index = none from rfl,
    Option.toList_none, List.map_nil, List.append_nil] at hs

theorem run_aside {z : Lifetime L κ} {l : List Lifetime.Event} (h : Run Lifetime.Aside x.toLifetime l z) :
    Run Step x (l.map ([], ·, .missed)) { x with toLifetime := z } :=
  h.map (g := fun z => { x with toLifetime := z }) fun _ ha => step_aside ha

/-- A call comes too early. Another one starts a search, and while the executor completes it the layers start
a selection of the cell that has been found. -/
theorem procedures_conducted_in_turn :
    let r : Radio := { found := ⟨7, 100⟩, selectable := ⟨7, 100⟩ }
    let u : Task := Procedure.search.report r
    let t : List (Event Callback) :=
      [([(0, .called .search false)], .worked, .missed),
        ([], .initEntered 0 Execution.oneCell .uninitialized, .missed), ([], .usim 0 (.ok ()), .missed),
        ([], .raised 0 .mac, .missed), ([], .raised 0 .rlc, .missed), ([], .raised 0 .pdcp, .missed),
        ([], .raised 0 .nas, .missed), ([], .raised 0 .rrc, .missed), ([], .raised 0 .radio, .missed),
        ([], .raised 0 (.capture .mac), .missed), ([], .raised 0 (.capture .nas), .missed),
        ([], .worked, .missed), ([], .worked, .missed), ([], .initReturned 0 (.ok ()), .missed),
        ([(1, .called .search true)], .worked, .missed), ([(1, .received)], .worked, .missed),
        ([(1, .asked .search r)], .worked, .missed),
        ([(1, .reported u)], .posted u, .accepted 0 ⟨0, 5⟩ u), ([], .worked, .missed),
        ([(1, .begun u)], .began u, .popped 5 u), ([(2, .called (.select ⟨7, 100⟩) true)], .worked, .missed),
        ([(1, .completed u [.searchDone .cellFound ⟨7, 100⟩])], .ran u (.ok .done), .missed)]
    (∃ x : Procedures ObservedLayers Callback, Run Step (start {}) t x ∧ Conducted t x) ∧
      callers (·.isAccepted) (marks t) = [1, 2] ∧ callers (·.isCompleted) (marks t) = [1] := by
  intro r u t
  have h : ∃ x : Procedures ObservedLayers Callback, Run Step (start {}) t x := by
    refine exists_run_cons (.call .search rfl) ?_
    -- The stack is started.
    refine exists_run_append
      (run_aside (Lifetime.run_starting ObservedLayers.jobless { plan := {} } {} rfl rfl)) ?_
    -- A worker makes the search.
    refine exists_run_cons (.call .search rfl) <| exists_run_cons (.receive (w := 0) (o := some 1) rfl rfl) ?_
    refine exists_run_cons (.ask (l := []) (o := some 1) (p := .search) (r := r) rfl rfl) ?_
    refine exists_run_cons (.report (l := []) (o := some 1) rfl nofun rfl) <|
      exists_run_cons (.complete (l := []) rfl) ?_
    refine exists_run_cons (.begin (o := some 1) rfl (Execution.step_began rfl rfl rfl rfl rfl)) ?_
    refine exists_run_cons (.call (.select ⟨7, 100⟩) rfl) ?_
    -- What the task sees of all that threads share makes no difference.
    exact exists_run_cons (step_completed (o := some 1) (.ofConfig {}) rfl rfl rfl ⟨rfl, rfl, rfl⟩ rfl rfl rfl)
      ⟨_, .nil⟩
  obtain ⟨x, h⟩ := h
  exact ⟨⟨x, h, procedures_conducted h⟩, rfl, rfl⟩

end Procedures

end LteUe
