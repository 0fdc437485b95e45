import LteUe.Proofs.Runs
import LteUe.Proofs.Sim.Gaps
import LteUe.Proofs.Sim.Transmission

/-!
# Reports out of sequence

The reports of the clock cover ids that follow one another, so that a gap can only lie between two reports. It is
reported if and only if the later one has not come as many ticks after the earlier one as it says, modulo the wrap.
Reports that cover no tick do not count in this (`SimLayers.sequenceChecked`).
-/

namespace LteUe.SimLayers

open Work

/-- A report that has been processed. -/
structure TickReport where
  tti : UInt32
  jump : UInt32
  /-- The ids for which medium access control has been called. -/
  ids : List UInt32
  gaps : List Log.Event

/-- What happens in one step. -/
inductive Happening where
  | report (r : TickReport)
  | aside

/-- The gaps logged in the meantime. -/
def gapsSince (w w' : World) : List Log.Event := (w'.log.toList.drop w.log.size).filter isGap

/-- The steps. Besides reports that come to their end there are other tasks and other calls of the layers, and
whatever leaves the layers and the count of ticks alone. -/
inductive Reporting : State → Happening → State → Prop
  | report {s t : State} (tti jump : UInt32) : runTti tti jump s = .ok () t →
      Reporting s (.report ⟨tti, jump, ticked (Work.callsOf (.tick tti jump) s), gapsSince s.2.world t.2.world⟩) t
  | task {s : State} {c : Command} : c.report? = none → Reporting s .aside (outcome (perform c) s).2
  | call {s : State} {c : Call Callback} : (∀ tti, c ≠ .macTick tti) →
      Reporting s .aside (outcome (hook c.hook) s).2
  | beside {s t : State} : t.1.layers = s.1.layers → t.1.ticksProcessed = s.1.ticksProcessed →
      Reporting s .aside t

/-- The report that is processed. -/
def Happening.report? : Happening → Option TickReport
  | report r => some r
  | aside => none

/-- The reports of a history. -/
def reports (t : List Happening) : List TickReport := t.filterMap (·.report?)

/-- The latest report that covers a tick. -/
def latest (t : List Happening) : Option TickReport := ((reports t).filter (·.jump ≠ 0)).getLast?

/-- The ticks that the reports cover. -/
def covered (t : List Happening) : Nat := ((reports t).map (·.jump.toNat)).sum

/-- What is true of simulated layers and their executor after any history. -/
structure SequenceChecked (t : List Happening) (s : State) : Prop where
  /-- A report logs one gap at most. -/
  once : ∀ u r v, t = u ++ .report r :: v → r.gaps.length ≤ 1
  /-- It logs a gap if it covers a tick, there has been such a report before, and it has not come as many ticks
  after that as it says. -/
  warned : ∀ u r v, t = u ++ .report r :: v → (r.gaps ≠ [] ↔
    r.jump ≠ 0 ∧ ∃ p, latest u = some p ∧ ¬ r.tti.toNat ≡ p.tti.toNat + r.jump.toNat [MOD 10240])
  /-- The gap lies between the id after that report and the first one that is covered. -/
  told : ∀ u r v, t = u ++ .report r :: v → ∀ e ∈ r.gaps, ∃ p, latest u = some p ∧
    e = gap (Tti.sub r.tti (r.jump - 1)) ((p.tti % Tti.wrap + 1) % Tti.wrap)
  /-- Medium access control sees as many ids as the report covers, which follow one another and end with the
  one reported. -/
  ids : ∀ r ∈ reports t, r.ids.length = r.jump.toNat ∧ (∀ id ∈ r.ids, id.toNat < 10240) ∧
    r.ids.IsChain (fun a b => b.toNat = (a.toNat + 1) % 10240) ∧
    (r.jump ≠ 0 → r.ids.getLast? = some (r.tti % Tti.wrap))
  /-- All these ids are counted. -/
  rxPackets : (Layers.metrics s.1.layers).mac.rxPackets = covered t
  ticksProcessed : s.1.ticksProcessed = covered t
  /-- Medium access control does not fault. -/
  goesOn : ¬ s.1.layers.Stuck
  /-- While no timer runs and nothing is measured, any further reports are processed. -/
  processed : Idle s → ∀ rs : List (UInt32 × UInt32), ∃ u s', Run Reporting s u s' ∧
    (reports u).map (fun r => (r.tti, r.jump)) = rs

variable {s s' : State} {t u v : List Happening} {a : Happening} {r : TickReport} {tti jump : UInt32}

/-! ## Histories -/

theorem reports_snoc : reports (t ++ [a]) = reports t ++ a.report?.toList := filterMap_snoc ..

theorem covered_snoc : covered (t ++ [a]) = covered t + (a.report?.elim 0 fun r => r.jump.toNat) := by
  rw [covered, reports_snoc, List.map_append, List.sum_append]
  cases a <;> simp [Happening.report?, covered]

theorem latest_snoc : latest (t ++ [.report r]) = if r.jump = 0 then latest t else some r := by
  rw [latest, reports_snoc, List.filter_append]
  by_cases hr : r.jump = 0 <;> simp [Happening.report?, hr, latest]

theorem latest_snoc_aside : latest (t ++ [.aside]) = latest t := by
  rw [latest, reports_snoc, Happening.report?, Option.toList_none, List.append_nil, latest]

/-- What medium access control and the executor know of a history. -/
structure Sequenced (t : List Happening) (s : State) : Prop where
  lastTti : s.1.layers.lastTti = (latest t).map fun r => r.tti % Tti.wrap
  ticks : s.1.layers.ticks = covered t
  processed : s.1.ticksProcessed = covered t

theorem Sequenced.reduced (h : Sequenced t s) : Reduced s.1.layers := by
  intro tti htti
  rw [h.lastTti, Option.map_eq_some_iff] at htti
  obtain ⟨p, -, rfl⟩ := htti
  exact (UInt32.toNat_mod p.tti Tti.wrap).trans_lt (Nat.mod_lt _ (by decide))

/-! ## What does not concern medium access control -/

theorem ticks_after_of_ne (l : SimLayers) {c : Call Callback} (h : ∀ tti, c ≠ .macTick tti) :
    (l.after c).ticks = l.ticks := by
  cases c with
  | macTick tti => exact absurd rfl (h tti)
  | nasBatch =>
    rw [after, batch]
    split
    · split <;> rfl
    · split <;> rfl
    · rfl
    · rfl
  | attach | detach =>
    rw [after]
    split <;> rfl
  | captureBegun layer => cases layer <;> rfl
  | _ => rfl

theorem spared_replay (l : SimLayers) {cs : List (Call Callback)} (h : ∀ tti, .macTick tti ∉ cs) :
    (cs.foldl after l).lastTti = l.lastTti ∧ (cs.foldl after l).ticks = l.ticks := by
  induction cs generalizing l with
  | nil => exact ⟨rfl, rfl⟩
  | cons c cs ih =>
    have hc : ∀ tti, c ≠ .macTick tti := fun tti hc => h tti (hc ▸ List.mem_cons_self)
    obtain ⟨h₁, h₂⟩ := ih (l.after c) fun tti htti => h tti (List.mem_cons_of_mem _ htti)
    exact ⟨h₁.trans (persists_after_of_ne l hc).2, h₂.trans (ticks_after_of_ne l hc)⟩

theorem not_mem_callsOf {c : Command} (hc : c.report? = none) (tti : UInt32) :
    (.macTick tti : Call Callback) ∉ Work.callsOf c s := by
  intro hmem
  cases of_mem_callsOf hmem with
  | tick => cases hc

theorem Sequenced.aside (h : Sequenced t s) (hlast : s'.1.layers.lastTti = s.1.layers.lastTti)
    (hticks : s'.1.layers.ticks = s.1.layers.ticks) (hp : s'.1.ticksProcessed = s.1.ticksProcessed) :
    Sequenced (t ++ [.aside]) s' := by
  have hcovered : covered (t ++ [.aside]) = covered t := covered_snoc
  refine ⟨?_, ?_, ?_⟩
  · rw [hlast, h.lastTti, latest_snoc_aside]
  · rw [hticks, h.ticks, hcovered]
  · rw [hp, h.processed, hcovered]

/-! ## Reports -/

theorem gapsSince_of_logs {w w' : World} {l : List Log.Event} (h : w.Logs w' l) : gapsSince w w' = l := by
  obtain ⟨events, he, rfl⟩ := h
  rw [gapsSince, he, List.drop_left' Array.length_toList]

theorem ticked_of_runTti (h : runTti tti jump s = .ok () s') :
    ticked (Work.callsOf (.tick tti jump) s) = Tti.subTicks tti jump := by
  rw [runTti_eq] at h
  obtain ⟨_, v, hv, -⟩ := bind_eq_ok_iff.1 h
  obtain ⟨ticks, hcalls, -, hids⟩ := callsOf_tick_of_ok hv
  rw [hcalls, ticked_append, hids]
  exact List.append_nil _

theorem processed_runTti (h : runTti tti jump s = .ok () s') :
    s'.1.ticksProcessed = s.1.ticksProcessed + jump.toNat := by
  have hb := (booked_runTti tti jump s).quiet.ticks
  rw [runTti_eq] at h
  obtain ⟨_, v, hv, -⟩ := bind_eq_ok_iff.1 h
  rw [← runTti_eq] at h
  rw [outcome, outcome, h, hv] at hb
  exact hb.trans (processed_batch hv).1

theorem Sequenced.report (h : Sequenced t s) (hr : runTti tti jump s = .ok () s') (ids : List UInt32)
    (gaps : List Log.Event) : Sequenced (t ++ [.report ⟨tti, jump, ids, gaps⟩]) s' := by
  have hp := passes_runTti h.reduced hr
  have hcovered : covered (t ++ [.report ⟨tti, jump, ids, gaps⟩]) = covered t + jump.toNat := covered_snoc
  refine ⟨?_, ?_, ?_⟩
  · have hlast := hp.lastTti
    rw [latest_snoc]
    by_cases hj : jump = 0
    · subst hj
      exact hlast.trans h.lastTti
    · rw [Tti.getLast?_subTicks hj] at hlast
      rw [if_neg hj]
      exact hlast
  · rw [hcovered, ← h.ticks, ← Tti.length_subTicks tti jump]
    exact hp.ticks
  · rw [hcovered, ← h.processed, processed_runTti hr]

theorem Sequenced.step (h : Sequenced t s) (hs : Reporting s a s') : Sequenced (t ++ [a]) s' := by
  cases hs with
  | report tti jump hr => exact h.report hr _ _
  | @task c hc =>
    have hl := layers_perform knownBy_after c s
    obtain ⟨hlast, hticks⟩ := spared_replay s.1.layers (not_mem_callsOf (s := s) hc)
    exact h.aside (by rw [hl, hlast]) (by rw [hl, hticks]) (still_perform hc s).ticks
  | @call c hc =>
    have hl : (outcome (hook c.hook) s).2.1.layers = s.1.layers.after c :=
      moves_layers_hook (R := fun l l' => l' = l.after c) (fun y => knownBy_after c y.1 y.2) s
    exact h.aside (by rw [hl, (persists_after_of_ne _ hc).2]) (by rw [hl, ticks_after_of_ne _ hc])
      (still_hook c.hook s).ticks
  | beside hl hp => exact h.aside (by rw [hl]) (by rw [hl]) hp

theorem sequenced_run (h : Sequenced [] s) (hr : Run Reporting s t s') : Sequenced t s' := by
  induction hr with
  | nil => exact h
  | snoc _ hs ih => exact ih.step hs

theorem ids_of_report (hs : Reporting s (.report r) s') : r.ids = Tti.subTicks r.tti r.jump := by
  cases hs with
  | report tti jump hr => exact ticked_of_runTti hr

/-- The id that begins a report fails to follow the latest one if the report has come too early or too late. -/
theorem gapAt_latest (p : TickReport) (hj : jump ≠ 0) :
    gapAt (some (p.tti % Tti.wrap)) (Tti.subTick tti jump 0) =
      if tti.toNat ≡ p.tti.toNat + jump.toNat [MOD 10240] then []
      else [gap (Tti.sub tti (jump - 1)) ((p.tti % Tti.wrap + 1) % Tti.wrap)] := by
  have hlt : (p.tti % Tti.wrap).toNat + 1 < UInt32.size := by
    have hmod : (p.tti % Tti.wrap).toNat = p.tti.toNat % 10240 := UInt32.toNat_mod ..
    show _ < 2 ^ 32
    omega
  have hnext : Tti.next? (p.tti % Tti.wrap) = some ((p.tti % Tti.wrap + 1) % Tti.wrap) := if_pos hlt
  have hiff := Tti.next?_eq_some_subTick_iff tti p.tti hj
  rw [hnext, Option.some_inj] at hiff
  have hfirst : Tti.subTick tti jump 0 = Tti.sub tti (jump - 1) := by simp [Tti.subTick]
  rw [gapAt, Option.bind_some, hnext]
  dsimp only
  rw [← hfirst]
  exact if_congr (eq_comm.trans hiff) rfl rfl

/-- What a report logs that comes after a history. -/
def gapsAfter (t : List Happening) (r : TickReport) : List Log.Event :=
  if r.jump = 0 then []
  else
    (latest t).elim [] fun p =>
      if r.tti.toNat ≡ p.tti.toNat + r.jump.toNat [MOD 10240] then []
      else [gap (Tti.sub r.tti (r.jump - 1)) ((p.tti % Tti.wrap + 1) % Tti.wrap)]

theorem length_gapsAfter_le (t : List Happening) (r : TickReport) : (gapsAfter t r).length ≤ 1 := by
  rw [gapsAfter]
  split
  · exact Nat.zero_le _
  · cases latest t with
    | none => exact Nat.zero_le _
    | some p =>
      dsimp only [Option.elim_some]
      split
      · exact Nat.zero_le _
      · exact Nat.le_refl _

theorem gapsAfter_ne_nil_iff : gapsAfter t r ≠ [] ↔
    r.jump ≠ 0 ∧ ∃ p, latest t = some p ∧ ¬ r.tti.toNat ≡ p.tti.toNat + r.jump.toNat [MOD 10240] := by
  rw [gapsAfter]
  by_cases hj : r.jump = 0
  · simp [hj]
  · cases latest t with
    | none => simp
    | some p => simp [hj]

theorem mem_gapsAfter {e : Log.Event} (he : e ∈ gapsAfter t r) : ∃ p, latest t = some p ∧
    e = gap (Tti.sub r.tti (r.jump - 1)) ((p.tti % Tti.wrap + 1) % Tti.wrap) := by
  rw [gapsAfter] at he
  split at he
  · cases he
  · cases hl : latest t with
    | none =>
      rw [hl] at he
      cases he
    | some p =>
      rw [hl, Option.elim_some] at he
      split at he
      · cases he
      · exact ⟨p, rfl, List.mem_singleton.1 he⟩

theorem Sequenced.gaps_eq (h : Sequenced t s) (hs : Reporting s (.report r) s') :
    r.gaps = gapsAfter t r := by
  cases hs with
  | report tti jump hr =>
    have hp := passes_runTti h.reduced hr
    have hgaps : gapsSince s.2.world s'.2.world = gaps s.1.layers.lastTti (Tti.subTicks tti jump) :=
      gapsSince_of_logs hp.log
    rw [gaps_of_isChain (Tti.isChain_subTicks tti jump) fun _ hid => Tti.lt_wrap_of_mem_subTicks hid] at hgaps
    refine hgaps.trans ?_
    rw [gapsAfter, h.lastTti]
    by_cases hj : jump = 0
    · subst hj
      rfl
    · rw [Tti.head?_subTicks hj, Option.elim_some, if_neg hj]
      cases latest t with
      | none => rfl
      | some p => exact gapAt_latest p hj

/-- Where a history has a report, the layers and the executor knew of the history before. -/
theorem exists_of_report (h : Sequenced [] s) (hr : Run Reporting s (u ++ .report r :: v) s') :
    ∃ x x', Sequenced u x ∧ Reporting x (.report r) x' := by
  obtain ⟨x, hu, hr⟩ := run_append_iff.1 hr
  obtain ⟨x', hs, -⟩ := run_cons_iff.1 hr
  exact ⟨x, x', sequenced_run h hu, hs⟩

/-! ## Histories -/

theorem Idle.exists_run (h : Idle s) (hs : Reduced s.1.layers) (rs : List (UInt32 × UInt32)) :
    ∃ t s', Run Reporting s t s' ∧ (reports t).map (fun r => (r.tti, r.jump)) = rs := by
  induction rs generalizing s with
  | nil => exact ⟨[], s, .nil, rfl⟩
  | cons r rs ih =>
    obtain ⟨x, hr, hi⟩ := h.exists_runTti hs r.1 r.2
    have hx : Reduced x.1.layers :=
      hs.passes (passes_runTti hs hr) fun _ hid => Tti.lt_wrap_of_mem_subTicks hid
    obtain ⟨t, s', ht, hrs⟩ := ih hi hx
    exact ⟨_, s', .cons (.report r.1 r.2 hr) ht, congrArg (r :: ·) hrs⟩

variable {settings : SimSettings} {config : StackConfig} {shared : Shared Callback}

theorem sequenced_start : Sequenced [] (.ofLayers (.ofSettings settings) config, shared) := ⟨rfl, rfl, rfl⟩

theorem sequenceChecked (hr : Run Reporting (.ofLayers (.ofSettings settings) config, shared) t s) :
    SequenceChecked t s := by
  have h := sequenced_run sequenced_start hr
  have hgaps : ∀ u r v, t = u ++ .report r :: v → r.gaps = gapsAfter u r := by
    rintro u r v rfl
    obtain ⟨x, x', hx, hs⟩ := exists_of_report sequenced_start hr
    exact hx.gaps_eq hs
  exact {
    once := fun u r v ht => by
      rw [hgaps u r v ht]
      exact length_gapsAfter_le u r
    warned := fun u r v ht => by
      rw [hgaps u r v ht]
      exact gapsAfter_ne_nil_iff
    told := fun u r v ht e he => by
      rw [hgaps u r v ht] at he
      exact mem_gapsAfter he
    ids := fun r hr' => by
      obtain ⟨a, ha, har⟩ := List.mem_filterMap.1 hr'
      obtain rfl : a = .report r := by
        cases a with
        | report r' => exact congrArg _ (Option.some.inj har)
        | aside => cases har
      obtain ⟨x, x', hs⟩ := hr.exists_step ha
      rw [ids_of_report hs]
      exact ⟨Tti.length_subTicks .., fun _ => Tti.lt_wrap_of_mem_subTicks, Tti.isChain_subTicks ..,
        Tti.getLast?_subTicks⟩
    rxPackets := h.ticks
    ticksProcessed := h.processed
    goesOn := h.reduced.not_stuck
    processed := fun hi rs => hi.exists_run h.reduced rs }

/-- Two reports follow one another, one covers no tick, and the last one comes two ticks late. -/
theorem sequenceChecked_with_gap : ∃ (t : List Happening) (s : State),
    Run Reporting (.ofLayers (.ofSettings {}) {}, .ofConfig {}) t s ∧
      (reports t).map (fun r => (r.tti, r.jump)) = [(10239, 2), (1, 2), (5, 0), (20485, 3)] ∧
      SequenceChecked t s := by
  have hidle : Idle (.ofLayers (.ofSettings {}) {}, .ofConfig {}) := by
    refine ⟨fun i slot hslot => ?_, rfl, rfl, rfl⟩
    have hmem := Array.mem_of_getElem? hslot
    rw [Executor.ofLayers, TimerTable.ofCapacity] at hmem
    obtain ⟨-, rfl⟩ := Array.mem_replicate.1 hmem
    decide
  obtain ⟨t, s, hr, hrs⟩ := hidle.exists_run sequenced_start.reduced
    [(10239, 2), (1, 2), (5, 0), (20485, 3)]
  exact ⟨t, s, hr, hrs, sequenceChecked hr⟩

end LteUe.SimLayers
