import LteUe.Proofs.Pool.Crew

/-!
# What becomes of the jobs of a worker pool

A job that a pool has accepted waits in the channel, is being run, or has been run once, by the one worker that
took it from the channel. The jobs are accepted until a call of stop ends the channel, and until then all the
workers are there, however many jobs have faulted. When that call returns, all the accepted jobs are done, but
for the one in which the call was made (`exactlyOnce`).

The last part needs a second worker if the call comes from a job: the call joins the others, and a worker that
has left says that the channel is empty. In a pool of one there is nobody to say so.
-/

namespace LteUe.Crew

variable {β : Type} {n : Nat} {t : List (Event β)} {x y : Crew β}

/-- The jobs that wait, those that are being run, and those that have been run to their ends. -/
def places (t : List (Event β)) (x : Crew β) : List β :=
  x.pool.waiting ++ x.running ++ (ran t).map (·.2)

/-- Nothing is promised of equal jobs but their number. Where no two pushes bring the same job, the places of a
job are its own: it is in one of them, once. -/
structure ExactlyOnce (n : Nat) (t : List (Event β)) (x : Crew β) : Prop where
  /-- Every accepted job is waiting, being run, or run, in one of these places and once. -/
  placed : (accepted t).Perm (places t x)
  once : (pushed t).Nodup → (places t x).Nodup
  /-- A job is run by the worker that has taken it from the channel, in the order of the pushes. -/
  order : accepted t = (received t).map (·.2) ++ x.pool.waiting
  hands : (received t).Perm (ran t ++ x.pool.working)
  ids : ∀ v ∈ received t, v.1 < n
  /-- A push is answered by whether the channel is still open, and a refused job is never run. -/
  answered : ∀ job accepted y, Step x (.pushed job accepted) y → (accepted = true ↔ ¬ IsEnded t)
  refused : (pushed t).Nodup → ∀ job ∈ refused t, job ∉ (received t).map (·.2) ∧ job ∉ places t x
  /-- Until the channel is ended every worker takes jobs, and a job that faults costs the pool none at any time. -/
  staffed : ¬ IsEnded t → x.staff = List.range n
  takes : ∀ w ∈ x.staff, w ∉ x.pool.working.map (·.1) →
    ∀ job rest, x.pool.waiting = job :: rest → ∃ y, Step x (.received w job) y
  kept : ∀ w job faulted y, Step x (.completed w job faulted) y →
    y.staff = x.staff ∧ w ∈ y.staff ∧ w ∉ y.pool.working.map (·.1)
  /-- The call that has ended the channel returns when all is done, but for the job in which it was made. -/
  outside : ∀ y, Step x (.returned .outside) y → (accepted t).Perm ((ran t).map (·.2))
  inside : ∀ w y, Step x (.returned (.worker w)) y → 2 ≤ n →
    ∃ job, x.pool.working = [(w, job)] ∧ (accepted t).Perm (job :: (ran t).map (·.2))

/-! ## The jobs -/

theorem Books.placed (h : Books n t x.pool) : (accepted t).Perm (places t x) := by
  calc accepted t
    _ = (received t).map (·.2) ++ x.pool.waiting := h.order
    _ |>.Perm ((ran t ++ x.pool.working).map (·.2) ++ x.pool.waiting) := (h.held.map _).append_right _
    _ |>.Perm (x.pool.waiting ++ (ran t ++ x.pool.working).map (·.2)) := List.perm_append_comm
    _ = x.pool.waiting ++ ((ran t).map (·.2) ++ x.running) := by rw [List.map_append, running]
    _ |>.Perm (x.pool.waiting ++ (x.running ++ (ran t).map (·.2))) := List.perm_append_comm.append_left _
    _ = places t x := (List.append_assoc ..).symm

theorem pushed_perm (t : List (Event β)) : (pushed t).Perm (accepted t ++ refused t) := by
  induction t with
  | nil => exact .nil
  | cons e t ih =>
    cases e with
    | pushed job b =>
      cases b with
      | true => exact ih.cons job
      | false => exact (ih.cons job).trans List.perm_middle.symm
    | _ => exact ih

theorem Books.once (h : Books n t x.pool) (hd : (pushed t).Nodup) : (places t x ++ refused t).Nodup :=
  ((pushed_perm t).trans (h.placed.append_right _)).nodup_iff.1 hd

theorem Books.received_subset (h : Books n t x.pool) : (received t).map (·.2) ⊆ places t x := by
  intro job hj
  refine h.placed.subset ?_
  rw [h.order]
  exact List.mem_append_left _ hj

/-! ## The workers -/

theorem answered_iff (hb : Books n t x.pool) (hn : 0 < n) {job : β} {b : Bool}
    (hs : Step x (.pushed job b) y) : b = true ↔ ¬ IsEnded t := by
  rw [← hb.accepting]
  cases hs
  have hsize : x.pool.size ≠ 0 := by
    rw [hb.size]
    exact Nat.ne_of_gt hn
  by_cases ha : x.pool.accepting = true <;> simp [WorkerPool.push, ha, hsize]

theorem staff_eq_range (hi : x.InOrder) (hb : Books n t x.pool) (he : ¬ IsEnded t) :
    x.staff = List.range n := by
  have hgone : x.gone = [] := by
    by_contra hg
    have ha := hb.accepting.2 he
    rw [(hi.drained hg).1] at ha
    cases ha
  rw [staff, hb.size, hgone]
  exact List.filter_eq_self.2 fun w _ => decide_eq_true List.not_mem_nil

theorem exists_received {w : Nat} (hw : w ∈ x.staff) (hf : w ∉ x.pool.working.map (·.1)) {job : β}
    {rest : List β} (hr : x.pool.waiting = job :: rest) : ∃ y, Step x (.received w job) y := by
  obtain ⟨hlt, hg⟩ := List.mem_filter.1 hw
  exact ⟨_, .receive (of_decide_eq_true hg)
    (WorkerPool.receive_eq_some_iff.2 ⟨⟨List.mem_range.1 hlt, hf⟩, rest, hr, rfl⟩)⟩

theorem kept_of_completed (hi : x.InOrder) {w : Nat} {job : β} {faulted : Bool}
    (hs : Step x (.completed w job faulted) y) :
    y.staff = x.staff ∧ w ∈ y.staff ∧ w ∉ y.pool.working.map (·.1) := by
  cases hs with
  | complete _ hw _ =>
    refine ⟨rfl, List.mem_filter.2 ⟨List.mem_range.2 (hi.ids _ hw), decide_eq_true fun hg => ?_⟩, ?_⟩
    · exact hi.resting w hg (List.mem_map_of_mem hw)
    · intro hm
      obtain ⟨v, hv, hvw⟩ := List.mem_map.1 hm
      exact of_decide_eq_true (List.mem_filter.1 hv).2 hvw

/-! ## The return of a call of stop -/

/-- When all the workers are joined, whoever still runs a job runs the call. -/
theorem caller_of_working (hi : x.InOrder) {c : Stopper} (hh : x.halt = some (c, .joining [])) :
    ∀ v ∈ x.pool.working, c = .worker v.1 := by
  intro v hv
  obtain hm | hc | hg := hi.joined c _ hh v.1 (hi.ids v hv)
  · exact absurd hm List.not_mem_nil
  · exact hc
  · exact absurd (List.mem_map_of_mem hv) (hi.resting _ hg)

theorem waiting_of_joined (hi : x.InOrder) {c : Stopper} (hh : x.halt = some (c, .joining [])) {w : Nat}
    (hw : w < x.pool.size) (hc : c ≠ .worker w) : x.pool.waiting = [] := by
  obtain hm | hm | hg := hi.joined c _ hh w hw
  · exact absurd hm List.not_mem_nil
  · exact absurd hm hc
  · exact (hi.drained (List.ne_nil_of_mem hg)).2

theorem done_of_outside (hi : x.InOrder) (hb : Books n t x.pool) (hn : 0 < n)
    (hh : x.halt = some (.outside, .joining [])) : (accepted t).Perm ((ran t).map (·.2)) := by
  have hwait := waiting_of_joined hi hh (hb.size.symm ▸ hn) (by simp)
  have hwork : x.pool.working = [] :=
    List.eq_nil_iff_forall_not_mem.2 fun v hv => nomatch caller_of_working hi hh v hv
  have hp := hb.placed
  rwa [places, running, hwait, hwork] at hp

theorem done_of_inside (hi : x.InOrder) (hb : Books n t x.pool) (hn : 2 ≤ n) {w : Nat}
    (hh : x.halt = some (.worker w, .joining [])) :
    ∃ job, x.pool.working = [(w, job)] ∧ (accepted t).Perm (job :: (ran t).map (·.2)) := by
  -- One of the first two workers is another.
  have hwait : x.pool.waiting = [] := by
    have hsize : 2 ≤ x.pool.size := hb.size.symm ▸ hn
    by_cases hw : w = 0
    · exact waiting_of_joined hi hh (w := 1) (by omega) (by simp [hw])
    · exact waiting_of_joined hi hh (w := 0) (by omega) (by simp [hw])
  have hown : ∀ v ∈ x.pool.working, v.1 = w := fun v hv => by
    simpa [eq_comm] using caller_of_working hi hh v hv
  have hbusy := hi.busy w ⟨_, hh, by simp⟩
  have hsingle := hi.single
  obtain ⟨job, hwork⟩ : ∃ job, x.pool.working = [(w, job)] := by
    match hl : x.pool.working with
    | [] => simp [hl] at hbusy
    | [v] =>
      obtain rfl : v.1 = w := hown v (hl ▸ List.mem_singleton_self v)
      exact ⟨v.2, rfl⟩
    | u :: v :: rest =>
      have hu : u.1 = w := hown u (by simp [hl])
      have hv : v.1 = w := hown v (by simp [hl])
      simp [hl, hu, hv] at hsingle
  refine ⟨job, hwork, ?_⟩
  have hp := hb.placed
  rwa [places, running, hwait, hwork] at hp

/-! ## The theorem -/

/-- In every run of a pool with a worker every accepted job is in one place, and none is lost. -/
theorem exactlyOnce (hn : 0 < n) (hr : Run Step (start n) t x) : ExactlyOnce n t x := by
  obtain ⟨hi, hb⟩ := books_of_run hr
  exact {
    placed := hb.placed
    once := fun hd => (hb.once hd).of_append_left
    order := hb.order
    hands := hb.held
    ids := hb.ids
    answered := fun _ _ _ hs => answered_iff hb hn hs
    refused := fun hd job hj => by
      have hnot : job ∉ places t x := fun hp => (List.nodup_append.1 (hb.once hd)).2.2 job hp job hj rfl
      exact ⟨fun hm => hnot (hb.received_subset hm), hnot⟩
    staffed := staff_eq_range hi hb
    takes := fun _ hw hf _ _ hr => exists_received hw hf hr
    kept := fun _ _ _ _ hs => kept_of_completed hi hs
    outside := fun _ hs => by cases hs with | finish hh => exact done_of_outside hi hb hn hh
    inside := fun _ _ hs h2 => by cases hs with | finish hh => exact done_of_inside hi hb h2 hh }

/-- Two workers and three jobs: the first job stops its pool, the second faults, and a push comes too late. -/
def stoppedFromWithin : List (Event Nat) :=
  [.pushed 0 true, .pushed 1 true, .pushed 2 true, .received 0 0, .received 1 1, .completed 1 1 true,
    .ended (.worker 0), .pushed 3 false, .received 1 2, .advanced, .completed 1 2 false, .left 1, .advanced,
    .advanced]

theorem exactlyOnce_stoppedFromWithin :
    0 < 2 ∧ ∃ x, Run Step (start 2) stoppedFromWithin x ∧ (∃ y, Step x (.returned (.worker 0)) y) ∧
      ExactlyOnce 2 stoppedFromWithin x := by
  have hbusy : Run Step (start 2)
      [.pushed 0 true, .pushed 1 true, .pushed 2 true, .received 0 0, .received 1 1]
      { pool := { size := 2, waiting := [2], working := [(1, 1), (0, 0)] } } :=
    .cons (.push 0) <| .cons (.push 1) <| .cons (.push 2) <| .cons (.receive (by decide) rfl) <|
      .cons (.receive (by decide) rfl) .nil
  have hended : Run Step { pool := { size := 2, waiting := [2], working := [(1, 1), (0, 0)] } }
      [.completed 1 1 true, .ended (.worker 0), .pushed 3 false, .received 1 2]
      { pool := { size := 2, accepting := false, working := [(1, 2), (0, 0)] },
        halt := some (.worker 0, .hangingUp) } :=
    .cons (.complete true (by decide) fun ⟨_, h, _⟩ => nomatch h) <|
      .cons (.halt ⟨by decide, fun ⟨_, h, _⟩ => nomatch h⟩ rfl) <| .cons (.push 3) <|
      .cons (.receive (by decide) rfl) .nil
  have hjoined : Run Step
      { pool := { size := 2, accepting := false, working := [(1, 2), (0, 0)] },
        halt := some (.worker 0, .hangingUp) }
      [.advanced, .completed 1 2 false, .left 1, .advanced, .advanced]
      { pool := { size := 2, accepting := false, working := [(0, 0)] }, gone := [1],
        halt := some (.worker 0, .joining []) } :=
    .cons (.hangUp rfl) <| .cons (.complete false (by decide) fun ⟨_, h, _⟩ => nomatch h) <|
      .cons (.leave (by decide) (by decide) ⟨_, _, rfl, by decide⟩ ⟨rfl, rfl, by decide⟩) <|
      .cons (.join rfl (.inl rfl)) <| .cons (.join rfl (.inr (by decide))) .nil
  have hr : Run Step (start 2) stoppedFromWithin _ := (hbusy.append hended).append hjoined
  exact ⟨by decide, _, hr, ⟨_, .finish rfl⟩, exactlyOnce (by decide) hr⟩

end LteUe.Crew
