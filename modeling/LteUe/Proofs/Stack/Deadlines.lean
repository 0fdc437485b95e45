import LteUe.Proofs.Stack.Detaching
import Mathlib.Algebra.Order.Floor.Div

/-!
# How long a graceful detach takes

With a timeout of `t` and a pause of `i` between polls, a graceful detach is over after `⌈t / i⌉ + 1` polls at
most, whatever the stack answers, as long as the clock does not go back and no sleep is too short
(`Detacher.ends_in_time`). It asks once, before the first poll, and gives up for two reasons only: a poll that is
not answered, or a deadline that has come. The limit on the number of polls, without which the loop would not be a
total function, is never what ends it.
-/

namespace LteUe.Detacher

variable {σ : Type} {d : Detacher σ} {c : DetachConfig}

/-! ## What is done in the course of a detach -/

/-- What one who detaches does, and what it is told. -/
inductive Act where
  | requested (switchOff : Bool) (answer : Except StackError Bool)
  | polled (answer : Except StackError Bool)
  | read (now : Span)
  | slept (span : Span)
  | reported (e : Log.Event)
deriving DecidableEq

namespace Act

def isRequest : Act → Bool
  | requested .. => true
  | _ => false

/-- What a poll is told. -/
def poll? : Act → Option (Except StackError Bool)
  | polled r => some r
  | _ => none

end Act

/-- One who detaches and keeps a record of what it does. -/
def recorded (d : Detacher σ) : Detacher (σ × List Act) where
  request switchOff x := let (r, s) := d.request switchOff x.1; (r, s, x.2 ++ [.requested switchOff r])
  poll x := let (r, s) := d.poll x.1; (r, s, x.2 ++ [.polled r])
  readClock x := let (now, s) := d.readClock x.1; (now, s, x.2 ++ [.read now])
  sleep span x := (d.sleep span x.1, x.2 ++ [.slept span])
  report e x := (d.report e x.1, x.2 ++ [.reported e])

/-- How a wait ends. -/
inductive Ending where
  | sent
  | failed (e : StackError)
  /-- A poll finds something, and the deadline has come. -/
  | late (now : Span)

namespace Ending

def acts (c : DetachConfig) : Ending → List Act
  | sent => [.polled (.ok false)]
  | failed e => [.polled (.error e), .reported (pollFailed e)]
  | late now => [.polled (.ok true), .read now, .reported (timeUp c)]

/-- Whether all has been sent. -/
def answer : Ending → Bool
  | sent => true
  | failed _ | late _ => false

/-- What the last poll is told. -/
def poll : Ending → Except StackError Bool
  | sent => .ok false
  | failed e => .error e
  | late _ => .ok true

/-- Only a deadline that has come makes an end. -/
def Fits (deadline : Span) : Ending → Prop
  | sent | failed _ => True
  | late now => deadline ≤ now

end Ending

/-- A poll that finds something before the deadline, and the sleep after it. -/
def pause (c : DetachConfig) (deadline now : Span) : List Act :=
  [.polled (.ok true), .read now, .slept (min c.pollInterval (deadline - now))]

/-- The course of a graceful detach: a request, the reading from which the deadline is reckoned, some polls with a
sleep after each, and an end. -/
structure Course (c : DetachConfig) where
  answer : Except StackError Bool
  start : Span
  /-- The readings before the sleeps. -/
  pauses : List Span
  ending : Ending
  early : ∀ now ∈ pauses, now < start + c.timeout
  fits : ending.Fits (start + c.timeout)

namespace Course

/-- A request that is not answered is reported, and makes no other difference. -/
def reports : Except StackError Bool → List Act
  | .ok _ => []
  | .error e => [.reported (requestFailed e)]

def deadline (r : Course c) : Span := r.start + c.timeout

/-- All that is done. -/
def acts (r : Course c) : List Act :=
  .requested true r.answer :: reports r.answer ++
    .read r.start :: (r.pauses.flatMap (pause c r.deadline) ++ r.ending.acts c)

end Course

/-- The clock of `d` does not go back, and no sleep is shorter than it should be. -/
structure KeepsTime (d : Detacher σ) (time : σ → Span) : Prop where
  request (switchOff : Bool) (s : σ) : time s ≤ time (d.request switchOff s).2
  poll (s : σ) : time s ≤ time (d.poll s).2
  report (e : Log.Event) (s : σ) : time s ≤ time (d.report e s)
  le_readClock (s : σ) : time s ≤ (d.readClock s).1
  readClock_le (s : σ) : (d.readClock s).1 ≤ time (d.readClock s).2
  sleep (span : Span) (s : σ) : time s + span ≤ time (d.sleep span s)

/-! ## Forgetting the record -/

variable {deadline : Span} (s : σ) (l : List Act)

theorem recorded_request (switchOff : Bool) : d.recorded.request switchOff (s, l) =
    ((d.request switchOff s).1, (d.request switchOff s).2, l ++ [.requested switchOff (d.request switchOff s).1]) :=
  rfl

theorem recorded_poll :
    d.recorded.poll (s, l) = ((d.poll s).1, (d.poll s).2, l ++ [.polled (d.poll s).1]) := rfl

theorem recorded_readClock :
    d.recorded.readClock (s, l) = ((d.readClock s).1, (d.readClock s).2, l ++ [.read (d.readClock s).1]) := rfl

theorem recorded_sleep (span : Span) : d.recorded.sleep span (s, l) = (d.sleep span s, l ++ [.slept span]) := rfl

theorem recorded_report (e : Log.Event) : d.recorded.report e (s, l) = (d.report e s, l ++ [.reported e]) := rfl

theorem forget_ask (switchOff : Bool) :
    d.ask switchOff s = ((d.recorded.ask switchOff (s, l)).1, (d.recorded.ask switchOff (s, l)).2.1) := by
  unfold ask
  rw [recorded_request]
  rcases d.request switchOff s with ⟨_ | _, s⟩ <;> rfl

theorem forget_awaitSent (n : Nat) : d.awaitSent c deadline n s =
    ((d.recorded.awaitSent c deadline n (s, l)).1, (d.recorded.awaitSent c deadline n (s, l)).2.1) := by
  induction n generalizing s l with
  | zero => rfl
  | succ n ih =>
    rcases hp : d.poll s with ⟨_ | _ | _, s₁⟩
    · simp [awaitSent, recorded_poll, recorded_report, hp]
    · simp [awaitSent, recorded_poll, hp]
    · by_cases h : deadline ≤ (d.readClock s₁).1
      · simp [awaitSent, recorded_poll, recorded_readClock, recorded_report, hp, h]
      · simp [awaitSent, recorded_poll, recorded_readClock, recorded_sleep, hp, h, ← ih]

theorem forget_gracefulIn (n : Nat) : d.gracefulIn n c s =
    ((d.recorded.gracefulIn n c (s, l)).1, (d.recorded.gracefulIn n c (s, l)).2.1) := by
  unfold gracefulIn
  rw [forget_ask s l]
  obtain ⟨_, s', l'⟩ := d.recorded.ask true (s, l)
  exact congrArg (fun r => (r.1.getD false, r.2)) (forget_awaitSent _ (l' ++ [.read (d.readClock s').1]) n)

/-! ## The loop -/

/-- One round of the loop: it ends, or there is a pause before the next. -/
theorem awaitSent_cases (d : Detacher σ) (c : DetachConfig) (deadline : Span) (s : σ) :
    (∃ (e : Ending) (s' : σ), e.Fits deadline ∧ ∀ n l,
      d.recorded.awaitSent c deadline (n + 1) (s, l) = (some e.answer, s', l ++ e.acts c)) ∨
    ∃ now s', d.readClock (d.poll s).2 = (now, s') ∧ now < deadline ∧ ∀ n l,
      d.recorded.awaitSent c deadline (n + 1) (s, l) = d.recorded.awaitSent c deadline n
        (d.sleep (min c.pollInterval (deadline - now)) s', l ++ pause c deadline now) := by
  rcases hp : d.poll s with ⟨e | _ | _, s₁⟩
  · refine .inl ⟨.failed e, d.report (pollFailed e) s₁, trivial, fun n l => ?_⟩
    simp [awaitSent, recorded, hp, Ending.answer, Ending.acts]
  · refine .inl ⟨.sent, s₁, trivial, fun n l => ?_⟩
    simp [awaitSent, recorded, hp, Ending.answer, Ending.acts]
  · rcases hr : d.readClock s₁ with ⟨now, s₂⟩
    by_cases hnow : deadline ≤ now
    · refine .inl ⟨.late now, d.report (timeUp c) s₂, hnow, fun n l => ?_⟩
      simp [awaitSent, recorded, hp, hr, hnow, Ending.answer, Ending.acts]
    · refine .inr ⟨now, s₂, rfl, Nat.lt_of_not_le hnow, fun n l => ?_⟩
      simp [awaitSent, recorded, hp, hr, hnow, pause]

/-- A sleep brings the deadline nearer by one interval, or it has come. -/
theorem KeepsTime.nearer {time : σ → Span} (hd : d.KeepsTime time) {s s' : σ} {now : Span} {n : Nat}
    (hr : d.readClock (d.poll s).2 = (now, s'))
    (hn : deadline.nanos ≤ (time s).nanos + (n + 1) * c.pollInterval.nanos) :
    deadline.nanos ≤ (time (d.sleep (min c.pollInterval (deadline - now)) s')).nanos +
      n * c.pollInterval.nanos := by
  have hpoll := hd.poll s
  have hread := hd.le_readClock (d.poll s).2
  have hread' := hd.readClock_le (d.poll s).2
  have hsleep := hd.sleep (min c.pollInterval (deadline - now)) s'
  rw [hr] at hread hread'
  simp only [Span.le_iff, Span.nanos_add, Span.nanos_min, Span.nanos_sub] at hpoll hread hread' hsleep
  rw [Nat.succ_mul] at hn
  omega

/-- With the deadline at most `n` intervals away there are at most `n` pauses, and the limit on the number of
polls does not matter as long as it is greater. -/
theorem exists_wait {time : σ → Span} (hd : d.KeepsTime time) {n : Nat} {s : σ}
    (hn : deadline.nanos ≤ (time s).nanos + n * c.pollInterval.nanos) (l : List Act) :
    ∃ (pauses : List Span) (e : Ending) (s' : σ), pauses.length ≤ n ∧ (∀ now ∈ pauses, now < deadline) ∧
      e.Fits deadline ∧ ∀ k, n < k → d.recorded.awaitSent c deadline k (s, l) =
        (some e.answer, s', l ++ (pauses.flatMap (pause c deadline) ++ e.acts c)) := by
  induction n generalizing s l with
  | zero =>
    obtain ⟨e, s', he, h⟩ | ⟨now, s', hr, hnow, -⟩ := awaitSent_cases d c deadline s
    · refine ⟨[], e, s', Nat.le_refl 0, by simp, he, fun k hk => ?_⟩
      obtain ⟨k, rfl⟩ := Nat.exists_eq_add_one.2 hk
      exact h k l
    · -- The clock cannot have gone back behind a deadline that has come.
      have hpoll := hd.poll s
      have hread := hd.le_readClock (d.poll s).2
      rw [hr] at hread
      simp only [Span.le_iff, Span.lt_iff] at hpoll hread hnow
      omega
  | succ n ih =>
    obtain ⟨e, s', he, h⟩ | ⟨now, s', hr, hnow, h⟩ := awaitSent_cases d c deadline s
    · refine ⟨[], e, s', Nat.zero_le _, by simp, he, fun k hk => ?_⟩
      obtain ⟨k, rfl⟩ := Nat.exists_eq_add_one.2 (Nat.lt_of_le_of_lt (Nat.zero_le _) hk)
      exact h k l
    · obtain ⟨pauses, e, s'', hlen, hearly, he, h'⟩ := ih (hd.nearer hr hn) (l ++ pause c deadline now)
      refine ⟨now :: pauses, e, s'', by simpa using hlen, by simpa [hnow] using hearly, he, fun k hk => ?_⟩
      obtain ⟨k, rfl⟩ := Nat.exists_eq_add_one.2 (Nat.lt_of_le_of_lt (Nat.zero_le _) hk)
      rw [h, h' k (by omega)]
      simp

/-! ## The bound -/

/-- As many intervals as make up the timeout. -/
def mostPauses (c : DetachConfig) : Nat := c.timeoutMillis ⌈/⌉ c.pollIntervalMillis

theorem mostPolls_eq (hc : 0 < c.pollIntervalMillis) : mostPolls c = mostPauses c + 1 := by
  have h : (1000000 * c.timeoutMillis) ⌈/⌉ (1000000 * c.pollIntervalMillis) = mostPauses c := by
    refine eq_of_forall_ge_iff fun n => ?_
    rw [mostPauses, ceilDiv_le_iff_le_mul (by omega), ceilDiv_le_iff_le_mul hc, Nat.mul_assoc]
    omega
  rw [mostPolls, ← h, Nat.ceilDiv_eq_add_pred_div, Nat.mul_comm 1000000, Nat.mul_comm 1000000]
  rfl

theorem timeout_le (hc : 0 < c.pollIntervalMillis) :
    c.timeout.nanos ≤ mostPauses c * c.pollInterval.nanos := by
  have h : c.timeoutMillis ≤ c.pollIntervalMillis * mostPauses c :=
    (ceilDiv_le_iff_le_mul hc).1 (Nat.le_refl _)
  have h := Nat.mul_le_mul_right 1000000 h
  show c.timeoutMillis * 1000000 ≤ mostPauses c * (c.pollIntervalMillis * 1000000)
  rw [← Nat.mul_assoc, Nat.mul_comm (mostPauses c)]
  exact h

theorem intervals_of_check {c : StackConfig} (hc : c.check = .ok ()) :
    0 < c.detach.pollIntervalMillis ∧ c.detach.pollIntervalMillis ≤ c.detach.timeoutMillis := by
  unfold StackConfig.check at hc
  split_ifs at hc
  omega

/-! ## What a course amounts to -/

namespace Course

/-- What is said of a course and its answer. -/
structure InTime (r : Course c) : Prop where
  /-- There is one request, of a detach with a switch-off, and it comes first. -/
  asks : ∃ rest, r.acts = .requested true r.answer :: rest ∧ ∀ a ∈ rest, a.isRequest = false
  /-- The polls, whatever the request was told: all but the last have found something. -/
  polls : r.acts.filterMap Act.poll? = List.replicate r.pauses.length (.ok true) ++ [r.ending.poll]
  polls_le : (r.acts.filterMap Act.poll?).length ≤ mostPauses c + 1
  /-- All has been sent exactly if a poll has found nothing. -/
  sent : r.ending.answer = true ↔ .polled (.ok false) ∈ r.acts
  /-- Not all has been sent exactly if a poll was not answered, or has found something, and after it the clock
  says that the deadline has come. -/
  unsent : r.ending.answer = false ↔ (∃ e, .polled (.error e) ∈ r.acts) ∨
    ∃ now, [.polled (.ok true), .read now] <:+: r.acts ∧ r.deadline ≤ now
  /-- What is left until the deadline is reckoned only before the deadline. -/
  sleeps : ∀ span, .slept span ∈ r.acts → ∃ now, [.polled (.ok true), .read now, .slept span] <:+: r.acts ∧
    now < r.deadline ∧ span = min c.pollInterval (r.deadline - now)

variable (r : Course c)

theorem filterMap_poll?_reports (x : Except StackError Bool) : (reports x).filterMap Act.poll? = [] := by
  cases x <;> rfl

theorem filterMap_poll?_acts (e : Ending) : (e.acts c).filterMap Act.poll? = [e.poll] := by
  cases e <;> rfl

theorem polls_eq : r.acts.filterMap Act.poll? = List.replicate r.pauses.length (.ok true) ++ [r.ending.poll] := by
  have h (l : List Span) : (l.flatMap (pause c r.deadline)).filterMap Act.poll? =
      List.replicate l.length (.ok true) := by
    induction l with
    | nil => rfl
    | cons now l ih => simp [pause, List.filterMap_cons, Act.poll?, ih, List.replicate_succ]
  simp [acts, List.filterMap_cons, Act.poll?, filterMap_poll?_reports, filterMap_poll?_acts, h]

theorem mem_poll {x : Except StackError Bool} :
    .polled x ∈ r.acts ↔ x = r.ending.poll ∨ x = .ok true ∧ r.pauses ≠ [] := by
  have h : .polled x ∈ r.acts ↔ x ∈ r.acts.filterMap Act.poll? := by
    rw [List.mem_filterMap]
    constructor
    · exact fun h => ⟨_, h, rfl⟩
    · rintro ⟨a, ha, hx⟩
      cases a <;> simp [Act.poll?] at hx
      exact hx ▸ ha
  rw [h, polls_eq]
  simp [List.mem_replicate]
  grind

theorem isRequest_of_mem {a : Act}
    (ha : a ∈ reports r.answer ++ .read r.start :: (r.pauses.flatMap (pause c r.deadline) ++ r.ending.acts c)) :
    a.isRequest = false := by
  have h₁ : ∀ x : Except StackError Bool, ∀ a ∈ reports x, a.isRequest = false := by
    intro x
    cases x <;> simp [reports, Act.isRequest]
  have h₂ : ∀ now, ∀ a ∈ pause c r.deadline now, a.isRequest = false := by simp [pause, Act.isRequest]
  have h₃ : ∀ e : Ending, ∀ a ∈ e.acts c, a.isRequest = false := by
    intro e
    cases e <;> simp [Ending.acts, Act.isRequest]
  simp only [List.mem_append, List.mem_cons, List.mem_flatMap] at ha
  obtain ha | rfl | ⟨now, -, ha⟩ | ha := ha
  · exact h₁ _ a ha
  · rfl
  · exact h₂ now a ha
  · exact h₃ _ a ha

theorem infix_of_mem_pauses {now : Span} (h : now ∈ r.pauses) : pause c r.deadline now <:+: r.acts := by
  obtain ⟨l, m, hl⟩ := List.append_of_mem h
  refine ⟨.requested true r.answer :: reports r.answer ++ .read r.start :: l.flatMap (pause c r.deadline),
    m.flatMap (pause c r.deadline) ++ r.ending.acts c, ?_⟩
  rw [acts, hl]
  simp

theorem suffix_acts : r.ending.acts c <:+ r.acts :=
  ⟨.requested true r.answer :: reports r.answer ++ .read r.start :: r.pauses.flatMap (pause c r.deadline), by
    simp [acts]⟩

theorem mem_read {now : Span} (h : .read now ∈ r.acts) :
    now = r.start ∨ now ∈ r.pauses ∨ r.ending = .late now := by
  have h₁ : .read now ∉ reports r.answer := by cases r.answer <;> simp [reports]
  have h₃ : ∀ e : Ending, .read now ∈ e.acts c → e = .late now := by
    intro e
    cases e <;> simp [Ending.acts, eq_comm]
  simp only [acts, List.cons_append, List.mem_append, List.mem_cons, List.mem_flatMap, reduceCtorEq, false_or, h₁,
    Act.read.injEq] at h
  obtain h | ⟨x, hx, h⟩ | h := h
  · exact .inl h
  · obtain rfl : now = x := by simpa [pause] using h
    exact .inr (.inl hx)
  · exact .inr (.inr (h₃ _ h))

theorem mem_slept {span : Span} (h : .slept span ∈ r.acts) :
    ∃ now ∈ r.pauses, span = min c.pollInterval (r.deadline - now) := by
  have h₁ : .slept span ∉ reports r.answer := by cases r.answer <;> simp [reports]
  have h₃ : ∀ e : Ending, .slept span ∉ e.acts c := by
    intro e
    cases e <;> simp [Ending.acts]
  simpa [acts, h₁, h₃, pause] using h

theorem inTime (hc : 0 < c.timeout.nanos) (hp : r.pauses.length ≤ mostPauses c) : r.InTime where
  asks := ⟨_, rfl, fun a => r.isRequest_of_mem⟩
  polls := r.polls_eq
  polls_le := by
    rw [polls_eq]
    simpa using hp
  sent := by
    rw [mem_poll]
    cases r.ending <;> simp [Ending.answer, Ending.poll]
  unsent := by
    constructor
    · intro h
      cases he : r.ending with
      | sent => simp [he, Ending.answer] at h
      | failed e => exact .inl ⟨e, r.mem_poll.2 (.inl (by rw [he]; rfl))⟩
      | late now =>
        have hs := r.suffix_acts
        have hf := r.fits
        rw [he] at hs hf
        exact .inr ⟨now, .trans ⟨[], [.reported (timeUp c)], rfl⟩ hs.isInfix, hf⟩
    · rintro (⟨e, h⟩ | ⟨now, h, hnow⟩)
      · obtain h | ⟨h, -⟩ := r.mem_poll.1 h
        · cases he : r.ending <;> simp [he, Ending.poll] at h
          rfl
        · cases h
      · have hread : .read now ∈ r.acts := h.subset (by simp)
        obtain rfl | hn | he := r.mem_read hread
        -- The deadline lies behind the reading from which it is reckoned.
        · simp only [Span.le_iff, deadline, Span.nanos_add] at hnow
          omega
        · have := r.early now hn
          simp only [Span.lt_iff, Span.le_iff, deadline] at this hnow
          omega
        · rw [he]
          rfl
  sleeps := by
    intro span h
    obtain ⟨now, hn, rfl⟩ := r.mem_slept h
    exact ⟨now, r.infix_of_mem_pauses hn, r.early now hn, rfl⟩

end Course

/-! ## The theorem -/

theorem exists_ask (s : σ) : ∃ s', d.recorded.ask true (s, []) =
    (((d.request true s).1.toOption.getD false), s', .requested true (d.request true s).1 ::
      Course.reports (d.request true s).1) := by
  unfold ask
  rw [recorded_request]
  rcases d.request true s with ⟨e | b, s'⟩
  · exact ⟨_, rfl⟩
  · exact ⟨_, rfl⟩

/-- Every graceful detach with an accepted configuration, by one whose clock does not go back, runs a course that
ends in time, and would run the same course with any greater limit on the number of polls. -/
theorem ends_in_time {k : StackConfig} (hk : k.check = .ok ()) {time : σ → Span} (hd : d.KeepsTime time) (s : σ) :
    ∃ (r : Course k.detach) (s' : σ), r.InTime ∧
      d.recorded.detach k.detach true (s, []) = (r.ending.answer, s', r.acts) ∧
      d.detach k.detach true s = (r.ending.answer, s') ∧
      ∀ n, mostPolls k.detach ≤ n → d.gracefulIn n k.detach s = (r.ending.answer, s') := by
  obtain ⟨hpos, hle⟩ := intervals_of_check hk
  generalize k.detach = c at hpos hle
  obtain ⟨s₁, hask⟩ := exists_ask (d := d) s
  rcases hr : d.readClock s₁ with ⟨start, s₂⟩
  have hnear : (start + c.timeout).nanos ≤ (time s₂).nanos + mostPauses c * c.pollInterval.nanos := by
    have h := hd.readClock_le s₁
    rw [hr] at h
    exact Nat.add_le_add h (timeout_le hpos)
  obtain ⟨pauses, e, s', hlen, hearly, hfits, hloop⟩ := exists_wait hd hnear
    (.requested true (d.request true s).1 :: Course.reports (d.request true s).1 ++ [.read start])
  let r : Course c := ⟨(d.request true s).1, start, pauses, e, hearly, hfits⟩
  have hrec : ∀ n, mostPolls c ≤ n → d.recorded.gracefulIn n c (s, []) = (e.answer, s', r.acts) := by
    intro n hn
    rw [mostPolls_eq hpos] at hn
    simp only [gracefulIn, hask, recorded_readClock, hr, hloop n hn, Option.getD_some]
    rw [Course.acts]
    simp [r, Course.deadline]
  have hforget : ∀ n, mostPolls c ≤ n → d.gracefulIn n c s = (e.answer, s') := by
    intro n hn
    rw [forget_gracefulIn s [], hrec n hn]
  have htimeout : 0 < c.timeout.nanos := by
    show 0 < c.timeoutMillis * 1000000
    omega
  refine ⟨r, s', r.inTime htimeout hlen, ?_, ?_, hforget⟩
  · rw [detach, if_pos rfl, graceful_eq]
    exact hrec _ (Nat.le_refl _)
  · rw [detach, if_pos rfl, graceful_eq]
    exact hforget _ (Nat.le_refl _)

/-- One whose clock moves in its sleep only, and whose polls always find something. -/
def stuckDetacher : Detacher Span where
  request _ s := (.error .notRunning, s)
  poll s := (.ok true, s)
  readClock s := (s, s)
  sleep span s := s + span
  report _ s := s

theorem keepsTime_stuckDetacher : stuckDetacher.KeepsTime id where
  request _ s := Nat.le_refl s.nanos
  poll s := Nat.le_refl s.nanos
  report _ s := Nat.le_refl s.nanos
  le_readClock s := Nat.le_refl s.nanos
  readClock_le s := Nat.le_refl s.nanos
  sleep span s := Nat.le_refl (s + span).nanos

/-- With 5 ms and 2 ms the last of the three sleeps is cut short, and the fourth poll is the last. -/
theorem ends_in_time_when_stuck :
    let k : StackConfig := { detach := ⟨5, 2⟩ }
    k.check = .ok () ∧ stuckDetacher.KeepsTime id ∧ ∃ (r : Course k.detach) (s' : Span), r.InTime ∧
      stuckDetacher.recorded.detach k.detach true (.zero, []) = (r.ending.answer, s', r.acts) ∧
      r.ending.answer = false ∧ (r.acts.filterMap Act.poll?).length = mostPauses k.detach + 1 ∧
      .slept (.ofMillis 1) ∈ r.acts := by
  intro k
  have hk : k.check = .ok () := rfl
  obtain ⟨r, s', hr, h, -⟩ := ends_in_time hk keepsTime_stuckDetacher .zero
  refine ⟨hk, keepsTime_stuckDetacher, r, s', hr, h, ?_⟩
  have hrun : stuckDetacher.recorded.detach k.detach true (.zero, []) =
      (false, .ofMillis 5, [.requested true (.error .notRunning), .reported (requestFailed .notRunning),
        .read .zero, .polled (.ok true), .read .zero, .slept (.ofMillis 2), .polled (.ok true),
        .read (.ofMillis 2), .slept (.ofMillis 2), .polled (.ok true), .read (.ofMillis 4),
        .slept (.ofMillis 1), .polled (.ok true), .read (.ofMillis 5), .reported (timeUp k.detach)]) := by
    rw [detach, if_pos rfl, graceful_eq, mostPolls]
    decide +kernel
  rw [h] at hrun
  obtain ⟨ha, -, hacts⟩ : r.ending.answer = _ ∧ s' = _ ∧ r.acts = _ := by simpa using hrun
  rw [ha, hacts]
  refine ⟨rfl, ?_, by simp⟩
  simp [List.filterMap_cons, Act.poll?, mostPauses, k, Nat.ceilDiv_eq_add_pred_div]

end LteUe.Detacher
