import LteUe.Layers.Observed
import LteUe.Proofs.Stack.Operations

/-!
# Every question is answered by its own task

A caller that is told anything is told one thing: the value to which its own task was run, that its
question was given up, since its task faulted or was dropped unrun, or that the stack does not run, since
that was so when it came or the dispatcher was closed when its push was decided. Once a shutdown has
returned, nobody waits for an answer that cannot come (`queries_answered`).
-/

namespace LteUe.Queries

open Function

variable {L κ : Type} {x y : Queries L κ} {e : Event} {t : List Event} {i p q : Nat} {u v : Task}

/-! ## Answers -/

/-- What a caller is told once its task has met its fate; nothing before. -/
def answerOf : List Fate → Option (Except StackError Reply)
  | [] => none
  | .ran (.ok v) :: _ => some (.ok v)
  | .ran (.error _) :: _ | .dropped :: _ => some (.error .queryAborted)

theorem answerOf_append {l : List Fate} {r : Except StackError Reply} (h : answerOf l = some r)
    (m : List Fate) : answerOf (l ++ m) = some r := by
  match l with
  | [] => cases h
  | .ran (.ok _) :: _ => exact h
  | .ran (.error _) :: _ => exact h
  | .dropped :: _ => exact h

theorem answerOf_eq_ok_iff {f : Fate} {v : Reply} :
    answerOf [f] = some (.ok v) ↔ f = .ran (.ok v) := by
  rcases f with (_ | _) | _ <;> simp [answerOf]

theorem answerOf_eq_aborted_iff {f : Fate} :
    answerOf [f] = some (.error .queryAborted) ↔ (∃ e, f = .ran (.error e)) ∨ f = .dropped := by
  rcases f with (_ | _) | _ <;> simp [answerOf]

theorem answerOf_ne_notRunning (f : Fate) : answerOf [f] ≠ some (.error .notRunning) := by
  rcases f with (_ | _) | _ <;> simp [answerOf]

theorem exists_answerOf (f : Fate) : ∃ r, answerOf [f] = some r := by
  rcases f with (_ | _) | _ <;> exact ⟨_, rfl⟩

theorem Accounts.answer?_eq (h : Accounts t x) (hi : i < x.shared.slots.size) :
    x.shared.answer? i = answerOf (fatesUnder i (ended t)) := by
  have hc := h.count i
  rw [if_pos hi] at hc
  rw [Shared.answer?_eq (h.slot i hi)]
  match hf : fatesUnder i (ended t) with
  | [] => rfl
  | [.ran (.ok _)] => rfl
  | [.ran (.error _)] => rfl
  | [.dropped] => rfl
  | _ :: _ :: _ =>
    rw [hf, List.length_cons, List.length_cons] at hc
    omega

/-! ## Callers -/

theorem Event.accepted?_of_acceptedBy? (h : e.acceptedBy? p = some u) : e.accepted? = some u := by
  unfold acceptedBy? at h
  split at h
  · split at h
    · exact h
    · cases h
  · cases h

theorem Event.caller_eq (h : e.acceptedBy? p = some u) (h' : e.acceptedBy? q = some v) : p = q := by
  unfold acceptedBy? at h
  split at h
  · split at h
    · rename_i hp
      by_cases hq : p = q
      · exact hq
      · simp [acceptedBy?, hp, hq] at h'
    · cases h
  · cases h

theorem Event.exists_acceptedBy? (h : e.accepted? = some u) (hu : u.ticket = some i) :
    ∃ p, e.acceptedBy? p = some u := by
  unfold accepted? at h
  split at h
  · rename_i q c j
    exact ⟨q, by simpa [acceptedBy?] using h⟩
  · cases h
    cases hu
  · cases h

theorem mem_accepted_of_acceptedBy (h : u ∈ acceptedBy p t) : u ∈ accepted t := by
  obtain ⟨e, he, hu⟩ := List.mem_filterMap.1 h
  exact List.mem_filterMap.2 ⟨e, he, Event.accepted?_of_acceptedBy? hu⟩

theorem exists_acceptedBy (h : u ∈ accepted t) (hu : u.ticket = some i) : ∃ p, u ∈ acceptedBy p t := by
  obtain ⟨e, he, hu'⟩ := List.mem_filterMap.1 h
  obtain ⟨p, hp⟩ := Event.exists_acceptedBy? hu' hu
  exact ⟨p, List.mem_filterMap.2 ⟨e, he, hp⟩⟩

/-- The moves of caller `p`. -/
inductive Moved (x : Queries L κ) (p : Nat) : Event → Caller → Caller → Prop
  | stay {e : Event} {c : Caller} : e.acceptedBy? p = none → e.returned? p = none → Moved x p e c c
  | enter {c : Command} : Moved x p (.entered p c .running) .idle (.asking c)
  | deny {c : Command} {s : LifecycleState} : s ≠ .running → Moved x p (.entered p c s) .idle .done
  | accept {c : Command} {i : Nat} : Moved x p (.pushed p c (.accepted i)) (.asking c) (.waiting i)
  | refuse {c : Command} : Moved x p (.pushed p c (.refused .notRunning)) (.asking c) .done
  | answer {i : Nat} {r : Except StackError Reply} :
      x.shared.answer? i = some r → Moved x p (.answered p r) (.waiting i) .done

/-- The caller that an event is about. -/
def Event.caller? : Event → Option Nat
  | entered p _ _ | pushed p _ _ | answered p _ => some p
  | _ => none

theorem Event.silent_of_ne (he : e.caller? = some q) (hp : p ≠ q) :
    e.acceptedBy? p = none ∧ e.returned? p = none := by
  cases e with
  | entered r c s =>
    cases he
    simp [acceptedBy?, returned?, Ne.symm hp]
  | pushed r c v =>
    cases he
    cases v <;> simp [acceptedBy?, returned?, Ne.symm hp]
  | answered r a =>
    cases he
    simp [acceptedBy?, returned?, Ne.symm hp]
  | _ => cases he

theorem moved_update {c c' : Caller} (he : e.caller? = some q) (hq : x.callers q = c)
    (hm : Moved x q e c c') (p : Nat) : Moved x p e (x.callers p) (update x.callers q c' p) := by
  by_cases hp : p = q
  · subst hp
    rw [hq, update_self]
    exact hm
  · obtain ⟨ha, hr⟩ := Event.silent_of_ne he hp
    rw [update_of_ne hp]
    exact .stay ha hr

theorem Step.moved (h : Step x e y) (p : Nat) : Moved x p e (x.callers p) (y.callers p) := by
  cases h with
  | enter q c hq hs =>
    rw [hs]
    exact moved_update rfl hq .enter p
  | deny q c hq hs => exact moved_update rfl hq (.deny hs) p
  | accept hq _ => exact moved_update rfl hq .accept p
  | refuse hq hr =>
    obtain ⟨rfl, -⟩ := Shared.pose_eq_refused_iff.1 hr
    exact moved_update rfl hq .refuse p
  | park => exact .stay rfl rfl
  | answer hq ha => exact moved_update rfl hq (.answer ha) p
  | post | work | begin | run | start | spawn | fail | closeFailed | shutdownUnused | shutdown |
    queueTeardown | teardownRejected | join | close | finish | stoppedBefore => exact .stay rfl rfl

/-- What the events tell of caller `p`, wherever it is. -/
def Fits (t : List Event) (p : Nat) : Caller → Prop
  | .idle => acceptedBy p t = [] ∧ returnedTo p t = []
  | .asking c => .entered p c .running ∈ t ∧ acceptedBy p t = [] ∧ returnedTo p t = []
  | .waiting i =>
    ∃ c, .entered p c .running ∈ t ∧ acceptedBy p t = [⟨c, some i⟩] ∧ returnedTo p t = []
  | .done =>
    acceptedBy p t = [] ∧ returnedTo p t = [.error .notRunning] ∨
      ∃ c i r, .entered p c .running ∈ t ∧ acceptedBy p t = [⟨c, some i⟩] ∧
        returnedTo p t = [r] ∧ answerOf (fatesUnder i (ended t)) = some r

theorem Fits.stay {c : Caller} (h : Fits t p c) (ha : e.acceptedBy? p = none)
    (hr : e.returned? p = none) : Fits (t ++ [e]) p c := by
  have ha : acceptedBy p (t ++ [e]) = acceptedBy p t := by
    rw [acceptedBy_snoc, ha]
    exact List.append_nil _
  have hr : returnedTo p (t ++ [e]) = returnedTo p t := by
    rw [returnedTo_snoc, hr]
    exact List.append_nil _
  cases c with
  | idle => exact ⟨ha.trans h.1, hr.trans h.2⟩
  | asking c => exact ⟨List.mem_append_left _ h.1, ha.trans h.2.1, hr.trans h.2.2⟩
  | waiting i =>
    obtain ⟨c, hc, ha', hr'⟩ := h
    exact ⟨c, List.mem_append_left _ hc, ha.trans ha', hr.trans hr'⟩
  | done =>
    rcases h with ⟨ha', hr'⟩ | ⟨c, i, r, hc, ha', hr', hf⟩
    · exact .inl ⟨ha.trans ha', hr.trans hr'⟩
    · refine .inr ⟨c, i, r, List.mem_append_left _ hc, ha.trans ha', hr.trans hr', ?_⟩
      rw [ended_snoc, fatesUnder_append]
      exact answerOf_append hf _

theorem Fits.step (h : Fits t p (x.callers p)) (hx : Accounts t x) (hs : Step x e y) :
    Fits (t ++ [e]) p (y.callers p) := by
  -- of the whole step only what it does to this caller matters
  have hm := hs.moved p
  generalize x.callers p = c at h hm
  generalize y.callers p = c' at hm
  cases hm with
  | stay ha hr => exact h.stay ha hr
  | enter =>
    refine ⟨List.mem_append_right _ (List.mem_singleton_self _), ?_, ?_⟩
    · rw [acceptedBy_snoc, h.1]
      rfl
    · rw [returnedTo_snoc, h.2]
      simp [Event.returned?]
  | deny hn =>
    refine .inl ⟨?_, ?_⟩
    · rw [acceptedBy_snoc, h.1]
      rfl
    · rw [returnedTo_snoc, h.2]
      simp [Event.returned?, hn]
  | @accept c i =>
    refine ⟨c, List.mem_append_left _ h.1, ?_, ?_⟩
    · rw [acceptedBy_snoc, h.2.1]
      simp [Event.acceptedBy?]
    · rw [returnedTo_snoc, h.2.2]
      rfl
  | refuse =>
    refine .inl ⟨?_, ?_⟩
    · rw [acceptedBy_snoc, h.2.1]
      rfl
    · rw [returnedTo_snoc, h.2.2]
      simp [Event.returned?]
  | @answer i r ha =>
    obtain ⟨c, hc, hac, hr⟩ := h
    have hu : (⟨c, some i⟩ : Task) ∈ accepted t :=
      mem_accepted_of_acceptedBy (p := p) (hac ▸ List.mem_singleton_self _)
    rw [hx.answer?_eq (hx.lt_size hu rfl)] at ha
    refine .inr ⟨c, i, r, List.mem_append_left _ hc, ?_, ?_, ?_⟩
    · rw [acceptedBy_snoc, hac]
      rfl
    · rw [returnedTo_snoc, hr]
      simp [Event.returned?]
    · rw [ended_snoc, fatesUnder_append]
      exact answerOf_append ha _

theorem fits {c : StackConfig} (h : Run Step (start c) t x) (p : Nat) : Fits t p (x.callers p) := by
  induction h with
  | nil => exact ⟨rfl, rfl⟩
  | snoc hl hs ih => exact ih.step (accounts hl) hs

theorem caller_eq {c : StackConfig} (h : Run Step (start c) t x) (hu : u ∈ acceptedBy p t)
    (hv : v ∈ acceptedBy q t) (hi : u.ticket = some i) (hi' : v.ticket = some i) : p = q := by
  induction h with
  | nil => cases hu
  | @snoc l y z e hl hs ih =>
    have ha := (accounts hl).step hs
    have hn : ((accepted l).filterMap (·.ticket) ++ e.accepted?.toList.filterMap (·.ticket)).Nodup := by
      rw [← List.filterMap_append, ← accepted_snoc, ha.tickets]
      exact List.nodup_range
    have hne : ∀ {a b : Task} {p : Nat}, a ∈ accepted l → a.ticket = some i →
        b ∈ (e.acceptedBy? p).toList → b.ticket = some i → False := by
      intro a b p hal hai hb hbi
      have hbe := Event.accepted?_of_acceptedBy? (Option.mem_toList.1 hb)
      have h₁ : i ∈ (accepted l).filterMap (·.ticket) := List.mem_filterMap.2 ⟨a, hal, hai⟩
      have h₂ : i ∈ e.accepted?.toList.filterMap (·.ticket) :=
        List.mem_filterMap.2 ⟨b, Option.mem_toList.2 hbe, hbi⟩
      exact (List.nodup_append.1 hn).2.2 i h₁ i h₂ rfl
    rw [acceptedBy_snoc, List.mem_append] at hu hv
    rcases hu with hu | hu
    · rcases hv with hv | hv
      · exact ih hu hv
      · exact (hne (mem_accepted_of_acceptedBy hu) hi hv hi').elim
    · rcases hv with hv | hv
      · exact (hne (mem_accepted_of_acceptedBy hv) hi' hu hi).elim
      · exact Event.caller_eq (Option.mem_toList.1 hu) (Option.mem_toList.1 hv)

theorem Fits.task {c : Caller} (h : Fits t p c) :
    acceptedBy p t = [] ∨
      ∃ c i, .entered p c .running ∈ t ∧ acceptedBy p t = [⟨c, some i⟩] := by
  cases c with
  | idle => exact .inl h.1
  | asking c => exact .inl h.2.1
  | waiting i =>
    obtain ⟨c, hc, ha, -⟩ := h
    exact .inr ⟨c, i, hc, ha⟩
  | done =>
    rcases h with ⟨ha, -⟩ | ⟨c, i, r, hc, ha, -⟩
    · exact .inl ha
    · exact .inr ⟨c, i, hc, ha⟩

theorem Fits.length_returnedTo_le {c : Caller} (h : Fits t p c) : (returnedTo p t).length ≤ 1 := by
  cases c with
  | idle => simp [h.2]
  | asking c => simp [h.2.2]
  | waiting i =>
    obtain ⟨c, -, -, hr⟩ := h
    simp [hr]
  | done =>
    rcases h with ⟨-, hr⟩ | ⟨c, i, r, -, -, hr, -⟩
    · simp [hr]
    · simp [hr]

/-! ## Fates -/

theorem fatesOf_eq (h : Accounts t x) (hp : acceptedBy p t = [u]) (hu : u.ticket = some i) :
    fatesOf p t = fatesUnder i (ended t) := by
  refine List.filterMap_congr fun ⟨v, f⟩ hv => ?_
  have hua : u ∈ accepted t :=
    mem_accepted_of_acceptedBy (p := p) (hp ▸ List.mem_singleton_self u)
  by_cases hvi : v.ticket = some i
  · obtain rfl := h.eq_of_ticket (h.mem_accepted hv) hua hvi hu
    rw [if_pos hvi, if_pos (hp ▸ List.mem_singleton_self v)]
  · refine (if_neg fun hvu => hvi ?_).trans (if_neg hvi).symm
    rw [hp, List.mem_singleton] at hvu
    rw [← hu, ← hvu]

theorem fatesOf_eq_nil (hp : acceptedBy p t = []) : fatesOf p t = [] := by
  refine List.filterMap_eq_nil_iff.2 fun e _ => if_neg ?_
  rw [hp]
  exact List.not_mem_nil

theorem Accounts.length_fatesUnder_le (h : Accounts t x) (i : Nat) :
    (fatesUnder i (ended t)).length ≤ 1 := by
  have := h.count i
  split at this <;> omega

/-- What a caller has been told is decided by the one fate of its task, if its task was accepted. -/
theorem Fits.told (h : Fits t p (x.callers p)) (hx : Accounts t x) {r : Except StackError Reply}
    (hr : r ∈ returnedTo p t) :
    acceptedBy p t = [] ∧ r = .error .notRunning ∨
      ∃ u f, acceptedBy p t = [u] ∧ fatesOf p t = [f] ∧ answerOf [f] = some r := by
  cases hc : x.callers p with
  | idle =>
    rw [hc] at h
    simp [h.2] at hr
  | asking c =>
    rw [hc] at h
    simp [h.2.2] at hr
  | waiting i =>
    rw [hc] at h
    obtain ⟨c, -, -, hn⟩ := h
    simp [hn] at hr
  | done =>
    rw [hc] at h
    rcases h with ⟨ha, hn⟩ | ⟨c, i, r', -, ha, hn, hf⟩
    · rw [hn, List.mem_singleton] at hr
      exact .inl ⟨ha, hr⟩
    · rw [hn, List.mem_singleton] at hr
      subst hr
      have hfate := fatesOf_eq hx ha rfl
      have hle := hx.length_fatesUnder_le i
      match hm : fatesUnder i (ended t) with
      | [] =>
        rw [hm] at hf
        cases hf
      | [f] => exact .inr ⟨_, f, ha, by rw [hfate, hm], by rw [← hm, hf]⟩
      | _ :: _ :: _ => simp [hm] at hle

/-- Where no task waits or is being run, every ticket's task has met its fate. -/
theorem Accounts.exists_fate (h : Accounts t x) (ht : x.tasks = [])
    (hi : i < x.shared.slots.size) : ∃ f, fatesUnder i (ended t) = [f] := by
  have hc := h.count i
  rw [ht, if_pos hi, List.countP_nil, Nat.zero_add] at hc
  exact List.length_eq_one_iff.1 hc

/-! ## Tasks that are run -/

theorem run_sublist (t : List Event) : (run t).Sublist ((ended t).map (·.1)) := by
  induction t with
  | nil => exact .slnil
  | cons e t ih =>
    have hc : ended (e :: t) = e.ended ++ ended t := rfl
    rw [hc, List.map_append]
    cases e with
    | ran u r => exact ih.cons_cons u
    | closed l => exact ih.trans (List.sublist_append_right ..)
    | _ => exact ih

theorem Accounts.mem_accepted_of_begun (h : Accounts t x) (hu : u ∈ Queries.begun t) :
    u ∈ accepted t := by
  rw [h.begun, List.mem_append] at hu
  rcases hu with hu | hu
  · exact h.conserved.mem_iff.1 (List.mem_append_right _ ((run_sublist t).subset hu))
  · exact h.conserved.mem_iff.1 (List.mem_append_left _ (List.mem_append_right _ hu))

theorem Accounts.count_begun_le (h : Accounts t x) (i : Nat) :
    (Queries.begun t).countP (fun u => u.ticket = some i) ≤ 1 := by
  have hc := h.count i
  have hr := (run_sublist t).countP_le (p := fun u => u.ticket = some i)
  have ht : x.task.toList.countP (fun u => u.ticket = some i) ≤
      x.tasks.countP (fun u => u.ticket = some i) :=
    (List.sublist_append_right ..).countP_le
  rw [length_fatesUnder] at hc
  rw [h.begun, List.countP_append]
  split at hc <;> omega

/-! ## The theorem -/

/-- Caller `p` is denied by the event `e` in the state `x`: it comes while the stack does not run, or
makes an attempt to push while the dispatcher is closed. -/
def Denied (x : Queries L κ) (p : Nat) (e : Event) : Prop :=
  (∃ c s, e = .entered p c s) ∧ x.state ≠ .running ∨
    (∃ c v, e = .pushed p c v) ∧ x.shared.dispatcher.closed = true

theorem Step.returned_eq_notRunning_iff (h : Step x e y) (hx : Ordered x) (p : Nat) :
    e.returned? p = some (.error .notRunning) ↔ Denied x p e := by
  cases h with
  | enter q c _ hs => simp [Event.returned?, Denied, hs]
  | deny q c _ hs => simp [Event.returned?, Denied, hs]
  | accept _ ha =>
    obtain ⟨-, d, ho, -⟩ := Shared.pose_eq_asked_iff.1 ha
    have hc := (Dispatcher.offer_eq_accepted_iff.1 ho).1
    simp [Event.returned?, Denied, hc]
  | refuse _ hr =>
    obtain ⟨rfl, f, ho⟩ := Shared.pose_eq_refused_iff.1 hr
    have hk : QueueKind.ue.index < x.shared.dispatcher.queues.length := by
      rw [hx.queues]
      decide
    have hc := Shared.closed_of_rejected hk ho
    simp [Event.returned?, Denied, hc]
  | park _ hp =>
    have hc := (Dispatcher.offer_eq_parked_iff.1 (Shared.pose_eq_parked_iff.1 hp)).1
    simp [Event.returned?, Denied, hc]
  | @answer q i r _ ha =>
    have hr : r ≠ .error .notRunning := by
      rintro rfl
      exact x.shared.answer?_ne_notRunning i ha
    simp [Event.returned?, Denied, hr]
  | post | work | begin | run | start | spawn | fail | closeFailed | shutdownUnused | shutdown |
    queueTeardown | teardownRejected | join | close | finish | stoppedBefore =>
    simp [Event.returned?, Denied]

/-- What the events `t` of a run that ends in `x` say of the questions put in it. -/
structure Answered (c : StackConfig) (t : List Event) (x : Queries L κ) : Prop where
  /-- A caller puts one task, is told one thing, and its task meets one fate. -/
  once (p : Nat) :
    (acceptedBy p t).length ≤ 1 ∧ (returnedTo p t).length ≤ 1 ∧ (fatesOf p t).length ≤ 1
  /-- A caller is told the value to which its own task was run, and no other. -/
  ok {p : Nat} {r : Except StackError Reply} (v : Reply) :
    r ∈ returnedTo p t → (r = .ok v ↔ fatesOf p t = [.ran (.ok v)])
  /-- Its question is given up if its task was accepted, and faulted or was dropped unrun. -/
  aborted {p : Nat} {r : Except StackError Reply} : r ∈ returnedTo p t →
    (r = .error .queryAborted ↔ (∃ f, fatesOf p t = [.ran (.error f)]) ∨ fatesOf p t = [.dropped])
  /-- The stack does not run if that was so when the caller came, or if the dispatcher was closed when
  its push was decided, whether or not it has waited for room before. -/
  notRunning (l : List Event) (e : Event) (m : List Event) (y z : Queries L κ) (p : Nat) :
    t = l ++ e :: m → Run Step (start c) l y → Step y e z →
      (e.returned? p = some (.error .notRunning) ↔ Denied y p e)
  /-- The task of a caller who was told so has not been accepted. -/
  refused (p : Nat) : .error .notRunning ∈ returnedTo p t → acceptedBy p t = []
  /-- A task that answers somebody is run once at most, and for one caller, who asked for it. -/
  own (u : Task) (i : Nat) : u ∈ begun t → u.ticket = some i →
    (begun t).countP (fun v => v.ticket = some i) = 1 ∧
      ∃ p, acceptedBy p t = [u] ∧ .entered p u.command .running ∈ t ∧
        .error .notRunning ∉ returnedTo p t ∧ ∀ q, u ∈ acceptedBy q t → q = p
  /-- Once a shutdown has returned, no slot without an answer has a writer, and every caller who waits
  finds the end of its wait. -/
  settled : .stopped ∈ t →
    (∀ (i : Nat) (s : ResultSlot Reply), x.shared.slots[i]? = some s → s.value = none →
      s.writers = 0) ∧
      ∀ p i, x.callers p = .waiting i → ∃ r, x.shared.answer? i = some r

/-- A task that answers somebody is taken once, and the one who asked for it has not been denied. -/
theorem exists_caller {c : StackConfig} (h : Run Step (start c) t x) (hu : u ∈ begun t)
    (hi : u.ticket = some i) :
    ∃ p, acceptedBy p t = [u] ∧ .entered p u.command .running ∈ t ∧
      .error .notRunning ∉ returnedTo p t ∧ ∀ q, u ∈ acceptedBy q t → q = p := by
  obtain ⟨p, hp⟩ := exists_acceptedBy ((accounts h).mem_accepted_of_begun hu) hi
  refine ⟨p, ?_⟩
  rcases (fits h p).task with ha | ⟨c, j, hc, ha⟩
  · rw [ha] at hp
    cases hp
  · rw [ha, List.mem_singleton] at hp
    subst hp
    refine ⟨ha, hc, ?_, ?_⟩
    · intro hr
      rcases (fits h p).told (accounts h) hr with ⟨hn, -⟩ | ⟨u, f, -, -, hr⟩
      · rw [hn] at ha
        cases ha
      · exact answerOf_ne_notRunning f hr
    · intro q hq
      exact caller_eq h hq (ha ▸ List.mem_singleton_self _) hi hi

theorem Accounts.count_begun_eq (h : Accounts t x) (hu : u ∈ Queries.begun t)
    (hi : u.ticket = some i) : (Queries.begun t).countP (fun v => v.ticket = some i) = 1 := by
  have hpos : 0 < (Queries.begun t).countP (fun v => v.ticket = some i) :=
    List.countP_pos_iff.2 ⟨u, hu, by simpa using hi⟩
  have hle := h.count_begun_le i
  omega

/-- Where no task waits or is being run, a slot without an answer has no writer. -/
theorem Accounts.writers_eq_zero (h : Accounts t x) (ht : x.tasks = []) {s : ResultSlot Reply}
    (hs : x.shared.slots[i]? = some s) (hv : s.value = none) : s.writers = 0 := by
  have hi : i < x.shared.slots.size := (Array.getElem?_eq_some_iff.1 hs).1
  obtain ⟨f, hf⟩ := h.exists_fate ht hi
  rw [h.slot i hi, hf] at hs
  obtain rfl := Option.some.inj hs
  rcases f with (_ | _) | _
  · rfl
  · cases hv
  · rfl

theorem Fits.exists_answer (h : Fits t p (.waiting i)) (hx : Accounts t x) (ht : x.tasks = []) :
    ∃ r, x.shared.answer? i = some r := by
  obtain ⟨c, -, ha, -⟩ := h
  have hu : (⟨c, some i⟩ : Task) ∈ accepted t :=
    mem_accepted_of_acceptedBy (p := p) (ha ▸ List.mem_singleton_self _)
  have hi := hx.lt_size hu rfl
  obtain ⟨f, hf⟩ := hx.exists_fate ht hi
  rw [hx.answer?_eq hi, hf]
  exact exists_answerOf f

theorem answered {c : StackConfig} (h : Run Step (start c) t x) : Answered c t x where
  once p := by
    refine ⟨?_, (fits h p).length_returnedTo_le, ?_⟩
    · rcases (fits h p).task with ha | ⟨c, i, -, ha⟩
      · simp [ha]
      · simp [ha]
    · rcases (fits h p).task with ha | ⟨c, i, -, ha⟩
      · simp [fatesOf_eq_nil ha]
      · rw [fatesOf_eq (accounts h) ha rfl]
        exact (accounts h).length_fatesUnder_le i
  ok {p r} v hr := by
    rcases (fits h p).told (accounts h) hr with ⟨ha, rfl⟩ | ⟨u, f, -, hf, hr⟩
    · simp [fatesOf_eq_nil ha]
    · rw [hf, List.singleton_inj, ← answerOf_eq_ok_iff, hr, Option.some_inj]
  aborted {p r} hr := by
    rcases (fits h p).told (accounts h) hr with ⟨ha, rfl⟩ | ⟨u, f, -, hf, hr⟩
    · simp [fatesOf_eq_nil ha]
    · simp only [hf, List.singleton_inj]
      rw [← answerOf_eq_aborted_iff, hr, Option.some_inj]
  notRunning l e m y z p _ hl hs := hs.returned_eq_notRunning_iff (ordered hl) p
  refused p hp := by
    rcases (fits h p).told (accounts h) hp with ⟨ha, -⟩ | ⟨u, f, -, -, hr⟩
    · exact ha
    · exact (answerOf_ne_notRunning f hr).elim
  own u i hu hi := ⟨(accounts h).count_begun_eq hu hi, exists_caller h hu hi⟩
  settled ht := by
    have hn := (ordered h).tasks_of_closed (closed_of_stopped h ht)
    refine ⟨fun i s hs hv => (accounts h).writers_eq_zero hn hs hv, fun p i hp => ?_⟩
    have hf := fits h p
    rw [hp] at hf
    exact hf.exists_answer (accounts h) hn

/-- The operations of a stack with layers `L` are made of the steps of its threads. -/
structure Operates (L : Type) {κ : Type} [Layers L κ] : Prop where
  /-- A question that waits for its answer has found the stack running, and was pushed. -/
  asked {x : Queries L κ} {p i : Nat} {c : Command} {s : Shared κ} :
    x.callers p = .idle → x.shared.ask c = .asked i s →
      Run Step x [.entered p c .running, .pushed p c (.accepted i)]
        { x with shared := s, callers := update x.callers p (.waiting i) }
  /-- A question that is refused has been denied. -/
  refused {x : Queries L κ} {p : Nat} {c : Command} {e : StackError} :
    x.callers p = .idle → x.shared.ask c = .refused e →
      ∃ t, Run Step x t { x with callers := update x.callers p .done } ∧ returnedTo p t = [.error e]
  /-- A turn of the executor takes a task, and ends it with the result that the task comes to. -/
  turn {x : Queries L κ} {e e' : Executor L κ} {s : Shared κ} :
    x.task = none → x.executor = some e → e.turn x.shared = some (e', s) →
      ∃ u e₁ s₁, e.begin x.shared = some (u, e₁, s₁) ∧
        Run Step x [.began u, .ran u (outcome (Work.perform u.command) (e₁, s₁)).1]
          { x with shared := s, executor := some e' }
  /-- A stack is brought up. -/
  init {x : Queries L κ} {layers : L} {radio : Radio} {sinks : Sinks} {s : Stack L κ} {u : Unit} :
    x.lifecycle = .idle → x.state = .uninitialized →
      Stack.init layers radio sinks x.toStack = .ok (.ok u) s →
        Run Step x [.worked, .worked] { x with toStack := s }
  /-- A stack is shut down, whatever waits in it and whatever its layers do, unless the queue of
  lifecycle tasks is full and stays so. -/
  shutdown {x : Queries L κ} : Ordered x → x.lifecycle = .idle → x.task = none →
    (x.state = .running → x.toStack.beginShutdown.queueTeardown ≠ none ∨
      x.toStack.beginShutdown.runWaiting.queueTeardown ≠ none) →
        ∃ t, .stopped ∈ t ∧ Run Step x t { x with toStack := x.toStack.shutdown }

theorem operates [Layers L κ] : Operates L where
  asked := run_asked
  refused := run_refused
  turn := run_turn
  init := run_init
  shutdown := run_shutdown

/-- In every run of callers, other producers, the executor, and those who start and shut down the stack,
with tasks that do anything and come to any result, every caller that is told anything is told what
became of its own task, or that it was denied; and after a shutdown no caller waits for an answer that
cannot come. -/
theorem queries_answered [Layers L κ] {c : StackConfig} {t : List Event} {x : Queries L κ}
    (h : Run Step (start c) t x) : Answered c t x ∧ Operates L := ⟨answered h, operates⟩

/-- The queues of a stack, with some tasks in those of lifecycle tasks and of questions. -/
def waiting (control ue : List Task) (cursor : Nat) : Dispatcher Task where
  id := 0
  queues := [⟨"control", 4, control⟩, ⟨"ue", 512, ue⟩, ⟨"sync", 512, []⟩, ⟨"gw", 512, []⟩,
    ⟨"mac", 512, []⟩, ⟨"background", 512, []⟩]
  cursor := cursor

/-- A stack of the default configuration whose executor has no task. -/
def between (s : LifecycleState) (l : Lifecycle) (e : Option (Executor ObservedLayers Callback))
    (d : Dispatcher Task) (slots : Array (ResultSlot Reply)) (callers : Nat → Caller) :
    Queries ObservedLayers Callback where
  shared := { state := s, config := {}, dispatcher := d, slots := slots, pool := .ofSize 2 }
  executor := e
  lifecycle := l
  callers := callers

/-- One caller is answered; the task of another is dropped by a shutdown; a third has found the stack
running, but comes to push its task when the dispatcher is closed; and a fourth comes too late. -/
theorem queries_answered_around_shutdown :
    let ask : Command := .ask 7 none
    let t : List Event := [.worked, .worked, .entered 0 ask .running, .pushed 0 ask (.accepted 0),
      .entered 1 ask .running, .entered 2 ask .running, .began ⟨ask, some 0⟩,
      .ran ⟨ask, some 0⟩ (.ok (.number 7)), .answered 0 (.ok (.number 7)),
      .pushed 1 ask (.accepted 1), .worked, .posted .teardown, .began ⟨.teardown, none⟩,
      .ran ⟨.teardown, none⟩ (.ok .done), .worked, .closed [⟨ask, some 1⟩],
      .pushed 2 ask (.refused .notRunning), .stopped, .entered 3 ask .stopped,
      .answered 1 (.error .queryAborted)]
    ∃ x : Queries ObservedLayers Callback, Run Step (start {}) t x ∧ Answered {} t x := by
  intro ask t
  have h : ∃ x : Queries ObservedLayers Callback, Run Step (start {}) t x := by
    let e : Executor ObservedLayers Callback := .ofLayers { plan := {} } {}
    let e' : Executor ObservedLayers Callback := { e with tasksExecuted := 1 }
    let callers := update (update (update (update (fun _ => Caller.idle) 0 (.asking ask)) 0
      (.waiting 0)) 1 (.asking ask)) 2 (.asking ask)
    let callers' := update (update callers 0 .done) 1 (.waiting 1)
    let slots : Array (ResultSlot Reply) := #[⟨some (.number 7), 0, true⟩, ⟨none, 1, true⟩]
    let d := waiting [⟨.teardown, none⟩] [⟨ask, some 1⟩] 2
    let d' := waiting [] [⟨ask, some 1⟩] 1
    have hd : d.tryPop = some (⟨.teardown, none⟩, d') :=
      Dispatcher.tryPop_eq_some_iff.2
        ⟨rfl, Dispatcher.popInTurn_eq_some_iff.2 ⟨0, by decide, rfl, rfl⟩⟩
    have hb : e'.begin (between .stopping .joining (some e') d slots callers').shared =
        some (⟨.teardown, none⟩, e', (between .stopping .joining none d' slots callers').shared) :=
      Executor.begin_eq_some_iff.2 ⟨d', hd, rfl, rfl⟩
    -- Up to the second question.
    refine exists_run_cons (.start rfl rfl ⟨rfl, rfl, rfl⟩) <| exists_run_cons (.spawn e rfl) <|
      exists_run_cons (.enter 0 ask rfl rfl) <| exists_run_cons (.accept rfl rfl) <|
      exists_run_cons (.enter 1 ask rfl rfl) <| exists_run_cons (.enter 2 ask rfl rfl) ?_
    show ∃ x, Run Step (between .running .idle (some e) (waiting [] [⟨ask, some 0⟩] 0)
      #[⟨none, 1, true⟩] callers) _ x
    -- The first answer, and the beginning of the shutdown.
    refine exists_run_cons (.begin rfl rfl rfl rfl) <|
      exists_run_cons (.run (e := e) rfl rfl ⟨rfl, rfl, rfl⟩) <|
      exists_run_cons (.answer rfl rfl) <| exists_run_cons (.accept rfl rfl) <|
      exists_run_cons (.shutdown rfl (.inl rfl)) <| exists_run_cons (.queueTeardown rfl rfl) ?_
    show ∃ x, Run Step (between .stopping .joining (some e') d slots callers') _ x
    -- The end of the executor.
    refine exists_run_cons (.begin rfl rfl rfl hb) <|
      exists_run_cons (.run (e := { e with running := false }) rfl rfl ⟨rfl, rfl, rfl⟩) <|
      exists_run_cons (.join rfl rfl fun _ h => .inl (Option.some.inj h ▸ rfl)) ?_
    show ∃ x, Run Step (between .stopping .closing none d' slots callers') _ x
    refine exists_run_cons (.close rfl) <| exists_run_cons (.refuse rfl rfl) <|
      exists_run_cons (.finish rfl ⟨rfl, rfl, rfl⟩) <| exists_run_cons (.deny 3 ask rfl nofun) <|
      exists_run_cons (.answer rfl rfl) ⟨_, .nil⟩
  obtain ⟨x, h⟩ := h
  exact ⟨x, h, (queries_answered h).1⟩

end LteUe.Queries
