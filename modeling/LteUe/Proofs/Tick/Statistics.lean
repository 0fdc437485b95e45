import LteUe.Tick.Profiler
import LteUe.Proofs.Outcome
import Mathlib.Data.List.DropRight
import Mathlib.Data.List.MinMax
import Mathlib.Algebra.Order.BigOperators.Group.List
import Mathlib.Algebra.Order.Ring.Nat
import Mathlib.Algebra.Group.Action.Defs

/-!
# Tick statistics

The figures of a profiler are those of the durations recorded since its last period ended
(`TickProfiler.current`), but for the count of late batches, which is that of all durations. At the end of a
period the figures are answered once (`TickProfiler.summaries`). All this holds however durations come to be
recorded, as long as none of the sums is out of range (`TickProfiler.figures_of_acts`).
-/

namespace LteUe

namespace TickProfiler

/-! ## One duration -/

/-- The profiler with one more duration in the period. -/
def measured (p : TickProfiler) (d total : Span) : TickProfiler :=
  { p with
    batches := p.batches + 1
    total := total
    longest := max p.longest d
    late := if p.threshold < d then p.late + 1 else p.late }

theorem record_eq (d : Span) (p : TickProfiler) : record d p =
    (match p.total.add? d with
    | some total =>
      if p.period ≤ p.batches + 1 then
        .ok (some (p.measured d total).stats) (p.measured d total).startPeriod
      else .ok none (p.measured d total)
    | none => .error .spanOverflow { p with batches := p.batches + 1 }) := by
  rw [record, modify_bind, get_bind]
  dsimp only
  cases p.total.add? d with
  | none => rfl
  | some total =>
    dsimp only
    rw [modify_bind, get_bind]
    show (ite (p.period ≤ p.batches + 1) _ _ : EStateM Fault TickProfiler _) (p.measured d total) = _
    split <;> rfl

end TickProfiler

/-! ## Figures of a list of durations -/

/-- The sum of some durations, in nanoseconds. -/
def Span.sumNanos (l : List Span) : Nat := (l.map (·.nanos)).sum

/-- The greatest of some durations, in nanoseconds. -/
def Span.maxNanos (l : List Span) : Nat := (l.map (·.nanos)).foldr max 0

open LteUe.Span

theorem sumNanos_append (l m : List Span) : sumNanos (l ++ m) = sumNanos l + sumNanos m := by
  rw [sumNanos, List.map_append, List.sum_append]
  rfl

theorem maxNanos_concat (l : List Span) (d : Span) : maxNanos (l ++ [d]) = max (maxNanos l) d.nanos := by
  rw [maxNanos, List.map_append, List.foldr_append]
  show List.foldr max (max d.nanos 0) _ = _
  rw [max_comm, List.foldr_assoc]
  rfl

theorem sumNanos_le (l : List Span) : sumNanos l ≤ l.length * maxNanos l := by
  have h := (l.map (·.nanos)).sum_le_card_nsmul (maxNanos l) fun x hx => List.le_max_of_le' 0 hx le_rfl
  rwa [List.length_map, smul_eq_mul] at h

/-- The figures of some durations, when so many have been late since the start. -/
def TickStats.ofDurations (l : List Span) (late : Nat) : TickStats where
  batches := l.length
  meanMicros := if l.length = 0 then 0 else sumNanos l / (1000 * l.length) % UInt64.size
  maxMicros := maxNanos l / 1000 % UInt64.size
  lateBatches := late

/-- The mean is at most the maximum, if the latter can be written down. -/
theorem TickStats.mean_le_max (l : List Span) (late : Nat) (h : maxNanos l / 1000 < UInt64.size) :
    (ofDurations l late).meanMicros ≤ (ofDurations l late).maxMicros := by
  show (if l.length = 0 then 0 else sumNanos l / (1000 * l.length) % UInt64.size) ≤
    maxNanos l / 1000 % UInt64.size
  split
  · exact Nat.zero_le _
  · rename_i hl
    have hle : sumNanos l / (1000 * l.length) ≤ maxNanos l / 1000 := by
      calc sumNanos l / (1000 * l.length)
          ≤ l.length * maxNanos l / (1000 * l.length) := Nat.div_le_div_right (sumNanos_le l)
        _ = l.length * maxNanos l / (l.length * 1000) := by rw [Nat.mul_comm 1000]
        _ = maxNanos l / 1000 := Nat.mul_div_mul_left _ _ (Nat.pos_of_ne_zero hl)
    rw [Nat.mod_eq_of_lt h]
    exact (Nat.mod_le _ _).trans hle

namespace TickProfiler

theorem stats_eq {q : TickProfiler} {l : List Span} (hb : q.batches = l.length)
    (ht : q.total.nanos = sumNanos l) (hm : q.longest.nanos = maxNanos l) :
    q.stats = .ofDurations l q.late := by
  rw [stats, micros, micros, hb, ht, hm, Nat.div_div_eq_div_mul]
  rfl

/-! ## Periods -/

variable {p : Nat} {limit : Span} {l m : List Span} {d : Span} {q q' : TickProfiler}

/-- The durations of the current period, when periods are of `p` batches. -/
def current (p : Nat) (l : List Span) : List Span := l.rtake (l.length % p)

/-- The durations of the period with this number, as far as there are any. -/
def ofPeriodAt (p : Nat) (l : List Span) (k : Nat) : List Span := (l.drop (k * p)).take p

/-- The figures answered at the ends of the periods. -/
def summaries (p : Nat) (limit : Span) (l : List Span) : List TickStats :=
  (List.range (l.length / p)).map fun k =>
    .ofDurations (ofPeriodAt p l k) ((l.take ((k + 1) * p)).countP (limit < ·))

theorem current_eq_drop (p : Nat) (l : List Span) : current p l = l.drop (l.length / p * p) := by
  rw [current, List.rtake]
  congr 1
  have := Nat.div_add_mod' l.length p
  omega

theorem length_current (p : Nat) (l : List Span) : (current p l).length = l.length % p := by
  rw [current_eq_drop, List.length_drop]
  have := Nat.div_add_mod' l.length p
  omega

theorem current_concat (h : l.length % p + 1 < p) (d : Span) : current p (l ++ [d]) = current p l ++ [d] := by
  have hmod : (l ++ [d]).length % p = l.length % p + 1 := by
    rw [List.length_append, List.length_singleton, ← Nat.mod_add_mod, Nat.mod_eq_of_lt h]
  rw [current, hmod, List.rtake_concat_succ, current]

theorem current_concat_of_last (h : l.length % p + 1 = p) (d : Span) : current p (l ++ [d]) = [] := by
  have hmod : (l ++ [d]).length % p = 0 := by
    rw [List.length_append, List.length_singleton, ← Nat.mod_add_mod, h, Nat.mod_self]
  rw [current, hmod, List.rtake_zero]

/-- The period in which the next duration falls begins with the current one. -/
theorem ofPeriodAt_append (hp : 0 < p) (l m : List Span) (d : Span) :
    ofPeriodAt p (l ++ d :: m) (l.length / p) = current p l ++ d :: m.take (p - (l.length % p + 1)) := by
  have hlt := Nat.mod_lt l.length hp
  rw [ofPeriodAt, List.drop_append_of_le_length (Nat.div_mul_le_self _ _), ← current_eq_drop, List.take_append,
    length_current, List.take_of_length_le (by rw [length_current]; exact hlt.le),
    show p - l.length % p = p - (l.length % p + 1) + 1 by omega, List.take_succ_cons]

theorem ofPeriodAt_of_lt {k : Nat} (hk : k < l.length / p) (m : List Span) :
    ofPeriodAt p (l ++ m) k = ofPeriodAt p l k := by
  have hle : k * p + p ≤ l.length := by
    rw [← Nat.succ_mul]
    exact (Nat.mul_le_mul_right p hk).trans (Nat.div_mul_le_self _ _)
  rw [ofPeriodAt, List.drop_append_of_le_length (by omega), List.take_append_of_le_length, ofPeriodAt]
  rw [List.length_drop]
  omega

theorem summaries_of_le {n : Nat} (hn : n ≤ l.length / p) (m : List Span) :
    ((List.range n).map fun k =>
      TickStats.ofDurations (ofPeriodAt p (l ++ m) k) (((l ++ m).take ((k + 1) * p)).countP (limit < ·))) =
    (List.range n).map fun k =>
      TickStats.ofDurations (ofPeriodAt p l k) ((l.take ((k + 1) * p)).countP (limit < ·)) := by
  apply List.map_congr_left
  intro k hk
  have hk : k < l.length / p := (List.mem_range.1 hk).trans_le hn
  rw [ofPeriodAt_of_lt hk, List.take_append_of_le_length]
  exact (Nat.mul_le_mul_right p hk).trans (Nat.div_mul_le_self _ _)

theorem summaries_concat (h : l.length % p + 1 < p) (d : Span) :
    summaries p limit (l ++ [d]) = summaries p limit l := by
  have hdiv : (l ++ [d]).length / p = l.length / p := by
    rw [List.length_append, List.length_singleton, Nat.succ_div_of_not_dvd]
    rw [Nat.dvd_iff_mod_eq_zero, ← Nat.mod_add_mod, Nat.mod_eq_of_lt h]
    exact Nat.succ_ne_zero _
  rw [summaries, hdiv, summaries_of_le le_rfl, summaries]

theorem summaries_concat_of_last (hp : 0 < p) (h : l.length % p + 1 = p) (d : Span) :
    summaries p limit (l ++ [d]) =
      summaries p limit l ++ [.ofDurations (current p l ++ [d]) ((l ++ [d]).countP (limit < ·))] := by
  have hdiv : (l ++ [d]).length / p = l.length / p + 1 := by
    rw [List.length_append, List.length_singleton, Nat.succ_div_of_dvd]
    rw [Nat.dvd_iff_mod_eq_zero, ← Nat.mod_add_mod, h, Nat.mod_self]
  have hlen : (l ++ [d]).length ≤ (l.length / p + 1) * p := by
    rw [List.length_append, List.length_singleton, Nat.succ_mul]
    have := Nat.div_add_mod' l.length p
    omega
  rw [summaries, hdiv, List.range_succ, List.map_append, summaries_of_le le_rfl, ← summaries, List.map_singleton,
    ofPeriodAt_append hp, List.take_nil, List.take_of_length_le hlen]

/-! ## What is done to a profiler -/

/-- What is done to a profiler: a duration is added, or a measurement is begun or ended. -/
inductive Act where
  | record (elapsed : Span)
  | start (now : Span)
  | stop (now : Span)

/-- The answer holds the figures of the period that the act ends. -/
def Act.perform : Act → EStateM Fault TickProfiler (Option TickStats)
  | record elapsed => TickProfiler.record elapsed
  | start now => do
    modify (TickProfiler.start now)
    return none
  | stop now => do
    return (← TickProfiler.stop now).bind (·.2)

/-- The duration that an act records, if the measurement in progress began at `started`. -/
def Act.duration? (started : Option Span) : Act → Option Span
  | record elapsed => some elapsed
  | start _ => none
  | stop now => started.map (now - ·)

/-- When the measurement began that is in progress after an act. -/
def Act.begun (started : Option Span) : Act → Option Span
  | record _ => started
  | start now => some now
  | stop _ => none

/-- The durations that acts record, one after the other. -/
def recorded : Option Span → List Act → List Span
  | _, [] => []
  | started, a :: acts => (a.duration? started).toList ++ recorded (a.begun started) acts

/-- What a profiler knows of the durations recorded. -/
structure Tally (p : Nat) (limit : Span) (l : List Span) (q : TickProfiler) : Prop where
  period : q.period = p
  threshold : q.threshold = limit
  batches : q.batches = l.length % p
  total : q.total.nanos = sumNanos (current p l)
  longest : q.longest.nanos = maxNanos (current p l)
  late : q.late = l.countP (limit < ·)

theorem tally_ofPeriod (period : Nat) (limit : Span) :
    Tally (max period 1) limit [] (ofPeriod period limit) where
  period := rfl
  threshold := rfl
  batches := (Nat.zero_mod _).symm
  total := by simp [current, ofPeriod, sumNanos]
  longest := by simp [current, ofPeriod, maxNanos]
  late := rfl

theorem Tally.started (h : Tally p limit l q) (s : Option Span) :
    Tally p limit l { q with started := s } :=
  ⟨h.period, h.threshold, h.batches, h.total, h.longest, h.late⟩

theorem Tally.record (hp : 0 < p) (h : Tally p limit l q)
    (hd : (⟨sumNanos (current p l ++ [d])⟩ : Span).InRange) :
    ∃ answer q', TickProfiler.record d q = .ok answer q' ∧ Tally p limit (l ++ [d]) q' ∧
      q'.started = q.started ∧
      summaries p limit (l ++ [d]) = summaries p limit l ++ answer.toList := by
  have hsum : (q.total + d).nanos = sumNanos (current p l ++ [d]) := by
    rw [nanos_add, h.total, sumNanos_append]
    rfl
  have hadd : q.total.add? d = some (q.total + d) := add?_eq_some_iff.2 ⟨by
    have : q.total + d = ⟨sumNanos (current p l ++ [d])⟩ := by rw [← hsum]
    rwa [this], rfl⟩
  have hlong : (max q.longest d).nanos = maxNanos (current p l ++ [d]) := by
    rw [nanos_max, h.longest, maxNanos_concat]
  have hlate : (if q.threshold < d then q.late + 1 else q.late) = (l ++ [d]).countP (limit < ·) := by
    rw [h.threshold, h.late, List.countP_append, List.countP_singleton]
    by_cases hdt : limit < d <;> simp [hdt]
  have hlt := Nat.mod_lt l.length hp
  rw [record_eq, hadd]
  dsimp only
  rw [h.period, h.batches]
  -- the duration ends its period, or it does not
  by_cases hlast : p ≤ l.length % p + 1
  · have heq : l.length % p + 1 = p := by omega
    have hstats : (q.measured d (q.total + d)).stats =
        .ofDurations (current p l ++ [d]) ((l ++ [d]).countP (limit < ·)) := by
      rw [← hlate]
      refine stats_eq ?_ hsum hlong
      rw [List.length_append, length_current]
      exact congrArg (· + 1) h.batches
    rw [if_pos hlast, summaries_concat_of_last hp heq, hstats]
    refine ⟨_, _, rfl, ⟨h.period, h.threshold, ?_, ?_, ?_, hlate⟩, rfl, rfl⟩
    · rw [← length_current, current_concat_of_last heq]
      rfl
    · rw [current_concat_of_last heq]
      rfl
    · rw [current_concat_of_last heq]
      rfl
  · have hnext : l.length % p + 1 < p := by omega
    rw [if_neg hlast, summaries_concat hnext]
    refine ⟨_, _, rfl, ⟨h.period, h.threshold, ?_, ?_, ?_, hlate⟩, rfl, by simp⟩
    · rw [← length_current, current_concat hnext, List.length_append, length_current]
      exact congrArg (· + 1) h.batches
    · rw [current_concat hnext]
      exact hsum
    · rw [current_concat hnext]
      exact hlong

theorem Tally.perform (hp : 0 < p) (h : Tally p limit l q) (a : Act)
    (hd : ∀ d, a.duration? q.started = some d → (⟨sumNanos (current p l ++ [d])⟩ : Span).InRange) :
    ∃ answer q', a.perform q = .ok answer q' ∧ q'.started = a.begun q.started ∧
      Tally p limit (l ++ (a.duration? q.started).toList) q' ∧
      summaries p limit (l ++ (a.duration? q.started).toList) = summaries p limit l ++ answer.toList := by
  cases a with
  | record elapsed =>
    obtain ⟨answer, q', hrec, ht, hs, hsum⟩ := h.record hp (hd elapsed rfl)
    exact ⟨answer, q', hrec, hs, ht, hsum⟩
  | start now =>
    simp only [Act.duration?, Option.toList_none, List.append_nil]
    exact ⟨none, q.start now, rfl, rfl, h.started _, (List.append_nil _).symm⟩
  | stop now =>
    cases hb : q.started with
    | none =>
      have hstop : (Act.stop now).perform q = .ok none q :=
        bind_eq_ok_iff.2 ⟨none, q, by rw [stop, get_bind, hb]; rfl, rfl⟩
      simp only [Act.duration?, Option.map_none, Option.toList_none, List.append_nil]
      exact ⟨none, q, hstop, hb, h, (List.append_nil _).symm⟩
    | some begun =>
      rw [hb] at hd
      obtain ⟨answer, q', hrec, ht, hs, hsum⟩ := (h.started none).record hp (hd (now - begun) rfl)
      have hstop : (Act.stop now).perform q = .ok answer q' := by
        refine bind_eq_ok_iff.2 ⟨some (now - begun, answer), q', ?_, rfl⟩
        rw [stop, get_bind, hb]
        dsimp only
        rw [modify_bind]
        exact bind_eq_ok_iff.2 ⟨answer, q', hrec, rfl⟩
      exact ⟨answer, q', hstop, hs, ht, hsum⟩

theorem inRange_of_le {a b : Nat} (h : a ≤ b) (hb : (⟨b⟩ : Span).InRange) : (⟨a⟩ : Span).InRange :=
  (Nat.div_le_div_right h).trans_lt hb

/-- However durations come to be recorded, they are tallied, and a period that ends is answered. -/
theorem Tally.mapM_perform (hp : 0 < p) (acts : List Act) (h : Tally p limit l q)
    (hr : ∀ k, (⟨sumNanos (ofPeriodAt p (l ++ recorded q.started acts) k)⟩ : Span).InRange) :
    ∃ answers q', acts.mapM Act.perform q = .ok answers q' ∧
      Tally p limit (l ++ recorded q.started acts) q' ∧
      summaries p limit (l ++ recorded q.started acts) = summaries p limit l ++ answers.reduceOption := by
  induction acts generalizing l q with
  | nil =>
    rw [recorded, List.append_nil]
    exact ⟨[], q, rfl, h, (List.append_nil _).symm⟩
  | cons a acts ih =>
    have hd : ∀ d, a.duration? q.started = some d → (⟨sumNanos (current p l ++ [d])⟩ : Span).InRange := by
      intro d hd
      have hk := hr (l.length / p)
      rw [recorded, hd, Option.toList_some, List.singleton_append, ofPeriodAt_append hp,
        ← List.singleton_append, ← List.append_assoc, sumNanos_append] at hk
      exact inRange_of_le (Nat.le_add_right _ _) hk
    obtain ⟨answer, q₁, ha, hs, ht, hsum⟩ := h.perform hp a hd
    have hrec : l ++ recorded q.started (a :: acts) =
        l ++ (a.duration? q.started).toList ++ recorded q₁.started acts := by
      rw [recorded, hs, List.append_assoc]
    rw [hrec] at hr ⊢
    obtain ⟨answers, q', hacts, ht', hsum'⟩ := ih ht hr
    refine ⟨answer :: answers, q', ?_, ht', ?_⟩
    · rw [List.mapM_cons]
      exact bind_eq_ok_iff.2 ⟨answer, q₁, ha, bind_eq_ok_iff.2 ⟨answers, q', hacts, rfl⟩⟩
    · rw [hsum', hsum, List.append_assoc]
      cases answer <;> rfl

/-! ## The figures -/

/-- The quotient of two numbers, if there is one. -/
def quotient? (a b : Nat) : Option Nat := if b = 0 then none else some (a / b)

/-- The figures of the current period, if they can be had without dividing by zero. -/
def stats? (q : TickProfiler) : Option TickStats := do
  let mean ← if q.batches = 0 then some 0 else quotient? q.total.micros q.batches
  let longest ← quotient? q.longest.nanos 1000
  return {
    batches := q.batches
    meanMicros := mean % UInt64.size
    maxMicros := longest % UInt64.size
    lateBatches := q.late }

theorem stats?_eq (q : TickProfiler) : q.stats? = some q.stats := by
  rw [stats?, stats]
  by_cases hb : q.batches = 0
  · rw [if_pos hb, if_pos hb]
    rfl
  · rw [if_neg hb, if_neg hb, quotient?, if_neg hb]
    rfl

/-- What is known of a profiler that has recorded the durations `l`, in periods of `p` batches, and of the
figures it has answered. -/
structure Figures (p : Nat) (limit : Span) (l : List Span) (answered : List TickStats) (q : TickProfiler) :
    Prop where
  /-- The batches of the current period are counted. -/
  batches : q.batches = l.length % p
  /-- Their durations are summed up exactly. -/
  total : q.total.nanos = ((l.rtake (l.length % p)).map (·.nanos)).sum
  /-- The longest of them is known exactly. -/
  longest : q.longest.nanos = ((l.rtake (l.length % p)).map (·.nanos)).foldr max 0
  /-- All durations above the threshold are counted. -/
  late : q.late = l.countP (limit < ·)
  /-- The counts are reported as they are. -/
  counts : q.stats.batches = q.batches ∧ q.stats.lateBatches = q.late
  /-- The mean is rounded down once. -/
  mean : q.stats.meanMicros = if q.batches = 0 then 0 else q.total.nanos / (1000 * q.batches) % 2 ^ 64
  /-- So is the maximum. -/
  longestMicros : q.stats.maxMicros = q.longest.nanos / 1000 % 2 ^ 64
  /-- The mean is at most the maximum, if the latter can be written down. -/
  ordered : q.longest.nanos / 1000 < 2 ^ 64 → q.stats.meanMicros ≤ q.stats.maxMicros
  /-- Each period that has ended was answered once, with the figures of its own durations. -/
  ended : answered = (List.range (l.length / p)).map fun k =>
    .ofDurations ((l.drop (k * p)).take p) ((l.take ((k + 1) * p)).countP (limit < ·))

theorem Tally.stats (h : Tally p limit l q) : q.stats = .ofDurations (current p l) q.late :=
  stats_eq (by rw [h.batches, length_current]) h.total h.longest

theorem Tally.figures (h : Tally p limit l q) : Figures p limit l (summaries p limit l) q where
  batches := h.batches
  total := h.total
  longest := h.longest
  late := h.late
  counts := ⟨rfl, rfl⟩
  mean := by
    rw [TickProfiler.stats, micros, Nat.div_div_eq_div_mul]
    rfl
  longestMicros := rfl
  ordered := by
    rw [h.longest, h.stats]
    exact TickStats.mean_le_max _ _
  ended := rfl

/-- If no sum of a period is out of range every duration is recorded, and the figures are exact. They are had
without dividing by zero at any time. -/
theorem figures_of_acts (period : Nat) (limit : Span) (acts : List Act)
    (hr : ∀ k, (⟨sumNanos (ofPeriodAt (max period 1) (recorded none acts) k)⟩ : Span).InRange) :
    (∃ answers q, acts.mapM Act.perform (ofPeriod period limit) = .ok answers q ∧
      Figures (max period 1) limit (recorded none acts) answers.reduceOption q) ∧
      ∀ q : TickProfiler, q.stats? = some q.stats := by
  obtain ⟨answers, q, hacts, ht, hsum⟩ :=
    (tally_ofPeriod period limit).mapM_perform (Nat.le_max_right _ _) acts hr
  have hempty : summaries (max period 1) limit [] = [] := by
    rw [summaries, List.length_nil, Nat.zero_div]
    rfl
  refine ⟨⟨answers, q, hacts, ?_⟩, stats?_eq⟩
  rw [← List.nil_append answers.reduceOption, ← hempty]
  exact hsum ▸ ht.figures

/-- Three durations in periods of two batches: one measured between two added. -/
theorem figures_of_acts_in_pairs :
    let acts := [.record (ofMillis 1), .start ⟨10⟩, .stop ⟨8001009⟩, .stop ⟨9000000⟩, .record (ofMillis 3)]
    recorded none acts = [ofMillis 1, ⟨8000999⟩, ofMillis 3] ∧
      (∀ k, (⟨sumNanos (ofPeriodAt (max 2 1) (recorded none acts) k)⟩ : Span).InRange) ∧
      (∃ answers q, acts.mapM Act.perform (ofPeriod 2 (ofMillis 5)) = .ok answers q ∧
        Figures (max 2 1) (ofMillis 5) (recorded none acts) answers.reduceOption q) ∧
      ∀ q : TickProfiler, q.stats? = some q.stats := by
  intro acts
  have hr : ∀ k, (⟨sumNanos (ofPeriodAt (max 2 1) (recorded none acts) k)⟩ : Span).InRange := by
    intro k
    have hsub : (ofPeriodAt (max 2 1) (recorded none acts) k).Sublist (recorded none acts) :=
      (List.take_sublist _ _).trans (List.drop_sublist _ _)
    refine inRange_of_le ((hsub.map (·.nanos)).sum_le_sum fun _ _ => Nat.zero_le _) ?_
    decide
  exact ⟨rfl, hr, figures_of_acts 2 (ofMillis 5) acts hr⟩

end TickProfiler

end LteUe
