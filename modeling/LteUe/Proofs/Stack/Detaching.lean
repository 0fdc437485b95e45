import LteUe.Proofs.Stack.Transcripts
import LteUe.Stack.Session

/-!
# Whoever detaches

Detaching takes a while, in which the executor runs and others use the stack. So one who detaches is looked at
as it goes through a run of the stack: each of its operations takes some steps, its own and those of others,
and a poll that is answered is a question that was put and answered in these steps (`Detacher.Drives`). A
session is such a one (`Session.drives_detacher`). A graceful detach that succeeds ends with a poll that has
found nothing (`Detacher.exists_last_poll`).
-/

namespace LteUe

open Function

variable {L κ σ : Type}

/-- What has happened to a stack, and what has come of it. -/
structure Moment (L κ : Type) where
  past : List (Transcript.Event κ)
  now : Queries L κ

/-- A graceful detach that polls at most `n` times. -/
def Detacher.gracefulIn (d : Detacher σ) (n : Nat) (c : DetachConfig) (s : σ) : Bool × σ :=
  let (_, s) := d.ask true s
  let (start, s) := d.readClock s
  let (sent, s) := d.awaitSent c (start + c.timeout) n s
  (sent.getD false, s)

-- As long as the number of polls is a term that computes, Lean would compute the polls.
theorem Detacher.graceful_eq (d : Detacher σ) (c : DetachConfig) (s : σ) :
    d.graceful c s = d.gracefulIn (mostPolls c) c s := rfl

theorem Detacher.awaitSent_of_gracefulIn {d : Detacher σ} {n : Nat} {c : DetachConfig} {s s' : σ}
    (h : d.gracefulIn n c s = (true, s')) :
    ∃ deadline, d.awaitSent c deadline n (d.readClock (d.ask true s).2).2 = (some true, s') := by
  refine ⟨(d.readClock (d.ask true s).2).1 + c.timeout, ?_⟩
  unfold gracefulIn at h
  dsimp only at h
  generalize d.awaitSent c ((d.readClock (d.ask true s).2).1 + c.timeout) n
    (d.readClock (d.ask true s).2).2 = r at h ⊢
  obtain ⟨_ | sent, s₁⟩ := r
  · cases h
  · obtain ⟨rfl, rfl⟩ := Prod.mk.inj h
    rfl

section Drives

variable [Layers L κ] {l₀ : L}

/-- A stack gets from one moment to another. -/
def Moment.Leads (l₀ : L) (h h' : Moment L κ) (m : List (Transcript.Event κ)) : Prop :=
  h'.past = h.past ++ m ∧ Run (Transcript.Step l₀) h.now m h'.now

theorem Moment.Leads.refl (h : Moment L κ) : h.Leads l₀ h [] := ⟨(List.append_nil _).symm, .nil⟩

theorem Moment.Leads.trans {h h' h'' : Moment L κ} {m m' : List (Transcript.Event κ)} (hm : h.Leads l₀ h' m)
    (hm' : h'.Leads l₀ h'' m') : h.Leads l₀ h'' (m ++ m') :=
  ⟨by rw [hm'.1, hm.1, List.append_assoc], hm.2.append hm'.2⟩

/-- One who detaches goes through a run of the stack. `At` tells where it is. -/
structure Detacher.Drives (d : Detacher σ) (l₀ : L) (At : σ → Moment L κ → Prop) : Prop where
  request {s : σ} {h : Moment L κ} (switchOff : Bool) :
    At s h → ∃ h' m, h.Leads l₀ h' m ∧ At (d.request switchOff s).2 h'
  /-- A poll that is answered is a question that was put and answered. -/
  poll {s : σ} {h : Moment L κ} : At s h → ∃ h' m, h.Leads l₀ h' m ∧ At (d.poll s).2 h' ∧
    ∀ b, (d.poll s).1 = .ok b → ∃ p, Transcript.Asks p (.hasData Lcid.srb1) (.ok (.flag b)) m
  readClock {s : σ} {h : Moment L κ} : At s h → ∃ h' m, h.Leads l₀ h' m ∧ At (d.readClock s).2 h'
  sleep {s : σ} {h : Moment L κ} (span : Span) : At s h → ∃ h' m, h.Leads l₀ h' m ∧ At (d.sleep span s) h'
  report {s : σ} {h : Moment L κ} (e : Log.Event) : At s h → ∃ h' m, h.Leads l₀ h' m ∧ At (d.report e s) h'

namespace Detacher

variable {d : Detacher σ} {At : σ → Moment L κ → Prop} {s s' : σ} {h : Moment L κ} {c : DetachConfig}

theorem Drives.ask (hd : d.Drives l₀ At) (hs : At s h) (switchOff : Bool) :
    ∃ h' m, h.Leads l₀ h' m ∧ At (d.ask switchOff s).2 h' := by
  obtain ⟨h₁, m, hm, h₁s⟩ := hd.request switchOff hs
  unfold Detacher.ask
  split
  · rename_i hr
    rw [hr] at h₁s
    exact ⟨h₁, m, hm, h₁s⟩
  · rename_i hr
    rw [hr] at h₁s
    obtain ⟨h₂, m', hm', h₂s⟩ := hd.report _ h₁s
    exact ⟨h₂, _, hm.trans hm', h₂s⟩

theorem Drives.awaitSent (hd : d.Drives l₀ At) (hs : At s h) {deadline : Span} {n : Nat}
    (ha : d.awaitSent c deadline n s = (some true, s')) :
    ∃ s₁ h₁ m, h.Leads l₀ h₁ m ∧ At s₁ h₁ ∧ d.poll s₁ = (.ok false, s') := by
  induction n generalizing s h with
  | zero => cases ha
  | succ n ih =>
    obtain ⟨h₁, m₁, hm₁, h₁s, -⟩ := hd.poll hs
    unfold Detacher.awaitSent at ha
    split at ha
    · cases ha
    · rename_i hp
      cases ha
      exact ⟨s, h, [], .refl h, hs, hp⟩
    · rename_i s₁ hp
      rw [hp] at h₁s
      obtain ⟨h₂, m₂, hm₂, h₂s⟩ := hd.readClock h₁s
      dsimp only at ha
      split at ha
      · cases ha
      · obtain ⟨h₃, m₃, hm₃, h₃s⟩ := hd.sleep (min c.pollInterval (deadline - (d.readClock s₁).1)) h₂s
        obtain ⟨s₄, h₄, m₄, hm₄, h₄s, hp₄⟩ := ih h₃s ha
        exact ⟨s₄, h₄, _, ((hm₁.trans hm₂).trans hm₃).trans hm₄, h₄s, hp₄⟩

/-- A graceful detach that succeeds ends with a poll that finds nothing. -/
theorem Drives.exists_last_poll (hd : d.Drives l₀ At) (hs : At s h) (ht : d.detach c true s = (true, s')) :
    ∃ s₁ h₁ m, h.Leads l₀ h₁ m ∧ At s₁ h₁ ∧ d.poll s₁ = (.ok false, s') := by
  obtain ⟨h₁, m₁, hm₁, h₁s⟩ := hd.ask hs true
  obtain ⟨h₂, m₂, hm₂, h₂s⟩ := hd.readClock h₁s
  rw [detach, if_pos rfl, graceful_eq] at ht
  obtain ⟨deadline, ha⟩ := awaitSent_of_gracefulIn ht
  obtain ⟨s₃, h₃, m₃, hm₃, h₃s, hp⟩ := hd.awaitSent h₂s ha
  exact ⟨s₃, h₃, _, (hm₁.trans hm₂).trans hm₃, h₃s, hp⟩

end Detacher

/-! ## Sessions -/

namespace Session

open Transcript

variable {s : Session L κ} {x : Queries L κ} {h : Moment L κ}

/-- A session goes through a run of its stack, and can still put questions in it. -/
structure At (s : Session L κ) (h : Moment L κ) : Prop where
  stack : h.now.toStack = s.stack
  task : h.now.task = s.held
  idle : ∃ n, ∀ p, n ≤ p → h.now.callers p = .idle

theorem exists_run_work (n : Nat) (hs : x.toStack = s.stack) (ht : x.task = s.held) :
    (s.work n).held = s.held ∧ ∃ t, Run (Transcript.Step l₀) x t { x with toStack := (s.work n).stack } := by
  induction n generalizing s x with
  | zero => exact ⟨rfl, [], by rw [work, ← hs]; exact .nil⟩
  | succ n ih =>
    rw [work]
    have hfree : ∃ t, Run (Transcript.Step l₀) x t
        { x with toStack := (if s.isFree then s.onStack (·.runWaiting) else s).stack } := by
      split
      · rename_i hf
        have hn : x.task = none := by
          rw [ht, ← Option.isNone_iff_eq_none]
          exact (Bool.and_eq_true_iff.1 hf).2
        have hr : ∃ t, Run (Transcript.Step l₀) x t { x with toStack := x.toStack.runWaiting } :=
          run_runWaiting hn
        rw [hs] at hr
        exact hr
      · exact ⟨[], by rw [← hs]; exact .nil⟩
    have hheld : (if s.isFree then s.onStack (·.runWaiting) else s).held = s.held := by
      split <;> rfl
    generalize (if s.isFree then s.onStack (·.runWaiting) else s) = s₁ at hfree hheld ⊢
    obtain ⟨t, hr⟩ := hfree
    dsimp only
    split
    · rename_i r shared hj
      obtain ⟨t', hr'⟩ : ∃ t', Run (Transcript.Step l₀) { x with toStack := s₁.stack } t' _ := run_runJob hj
      obtain ⟨hheld', t'', hr''⟩ := ih (s := s₁.onShared fun _ => shared)
        (x := { x with toStack := { s₁.stack with shared := shared } }) rfl (ht.trans hheld.symm)
      exact ⟨hheld'.trans hheld, _, (hr.append hr').append hr''⟩
    · exact ⟨hheld, t, hr⟩

theorem exists_run_quiesce (hs : x.toStack = s.stack) (ht : x.task = s.held) :
    s.quiesce.held = s.held ∧ ∃ t, Run (Transcript.Step l₀) x t { x with toStack := s.quiesce.stack } := by
  rw [quiesce]
  exact exists_run_work _ hs ht

/-- A question that is taken is one of a caller who has not asked before. It waits while the session works until
nothing is left to be done. -/
theorem At.exists_run_asked (hs : At s h) {c : Command} {i : Nat} {shared : Shared κ}
    (ha : s.shared.ask c = .asked i shared) :
    ∃ n m, (∀ p, n < p → h.now.callers p = .idle) ∧ .pushed n c (.accepted i) ∈ queries m ∧
      (s.onShared fun _ => shared).quiesce.held = s.held ∧
      Run (Transcript.Step l₀) h.now m { h.now with
        toStack := (s.onShared fun _ => shared).quiesce.stack
        callers := update h.now.callers n (.waiting i) } := by
  obtain ⟨n, hn⟩ := hs.idle
  have hx : h.now.shared = s.shared := congrArg Stack.shared hs.stack
  have h₁ : Run (Transcript.Step l₀) h.now _ _ :=
    run_of_callers (Queries.run_asked (hn n (Nat.le_refl n)) (hx ▸ ha)) (by simp [Queries.Event.caller?])
  have hstack : { h.now.toStack with shared := shared } = (s.onShared fun _ => shared).stack := by
    rw [hs.stack]
    rfl
  obtain ⟨hheld, m, hm⟩ : _ ∧ ∃ m, Run (Transcript.Step l₀)
      { h.now with shared := shared, callers := update h.now.callers n (.waiting i) } m _ :=
    exists_run_quiesce hstack hs.task
  refine ⟨n, _, fun p hp => hn p (Nat.le_of_lt hp), ?_, hheld, h₁.append hm⟩
  rw [queries_append, queries_map]
  simp

/-- Putting a question takes some steps, and an answer is one to this question. -/
theorem At.question (hs : At s h) (c : Command) : ∃ h' m, h.Leads l₀ h' m ∧ At (s.question c).2 h' ∧
    ∀ v, (s.question c).1 = .ok v → ∃ p, Asks p c (.ok v) m := by
  unfold Session.question
  cases ha : s.shared.ask c with
  | refused e => exact ⟨h, [], .refl h, hs, nofun⟩
  | parked => exact ⟨h, [], .refl h, hs, nofun⟩
  | asked i shared =>
    dsimp only
    obtain ⟨n, m, hn, hpushed, hheld, (hm : Run (Transcript.Step l₀) _ _ _)⟩ := hs.exists_run_asked ha
    generalize (s.onShared fun _ => shared).quiesce = s' at hheld hm ⊢
    have hfresh : ∀ (o : Caller) p, n + 1 ≤ p → update h.now.callers n o p = .idle := fun o p hp => by
      rw [update_of_ne (by omega)]
      exact hn p hp
    cases hr : s'.shared.answer? i with
    | none => exact ⟨⟨_, _⟩, m, ⟨rfl, hm⟩, ⟨rfl, hs.task.trans hheld.symm, n + 1, hfresh _⟩, nofun⟩
    | some r =>
      have ha : Queries.Step
          { h.now with toStack := s'.stack, callers := update h.now.callers n (.waiting i) }
          (.answered n r) _ :=
        .answer (update_self ..) hr
      rw [update_idem] at ha
      refine ⟨⟨_, _⟩, _, ⟨rfl, hm.snoc (.of_caller ha nofun)⟩,
        ⟨rfl, hs.task.trans hheld.symm, n + 1, hfresh _⟩, ?_⟩
      intro v hv
      obtain rfl : r = .ok v := hv
      refine ⟨n, ⟨i, ?_⟩, ?_⟩
      · rw [queries_append]
        exact List.mem_append_left _ hpushed
      · rw [queries_append]
        exact List.mem_append_right _ (List.mem_singleton_self _)

theorem At.beside (hs : At s h) {shared : Shared κ} (hb : s.shared.Beside shared) :
    ∃ h' m, h.Leads l₀ h' m ∧ At (s.onShared fun _ => shared) h' := by
  have hx : h.now.shared = s.shared := congrArg Stack.shared hs.stack
  have hr : Run (Transcript.Step l₀) h.now _ { h.now with shared := shared } :=
    run_beside (by rw [hx]; exact hb)
  refine ⟨⟨_, _⟩, _, ⟨rfl, hr⟩, ?_, hs.task, hs.idle⟩
  show { h.now.toStack with shared := shared } = _
  rw [hs.stack]
  rfl

theorem flag_of_flagOf {r : Except StackError Reply} {b : Bool} (h : flagOf r = .ok b) :
    r = .ok (.flag b) := by
  unfold flagOf at h
  split at h
  · cases h
    rfl
  · cases h
  · cases h

theorem drives_detacher : (detacher : Detacher (Session L κ)).Drives l₀ At where
  request switchOff hs := by
    obtain ⟨h', m, hm, hs', -⟩ := hs.question (.detach switchOff)
    exact ⟨h', m, hm, hs'⟩
  poll hs := by
    obtain ⟨h', m, hm, hs', hv⟩ := hs.question (.hasData Lcid.srb1)
    exact ⟨h', m, hm, hs', fun b hb => hv _ (flag_of_flagOf hb)⟩
  readClock hs := hs.beside ⟨rfl, rfl, rfl⟩
  sleep span hs := hs.beside ⟨rfl, rfl, rfl⟩
  report e hs := hs.beside ⟨rfl, rfl, rfl⟩

end Session

end Drives

end LteUe
