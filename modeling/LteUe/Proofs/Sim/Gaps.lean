import LteUe.Proofs.Executor.Counting
import LteUe.Proofs.Sim.Capturing

/-!
# Gaps between ticks

Medium access control expects each tick to follow the one before, and reports a gap otherwise. Nothing else that
the executor does in the course of a report looks like that in the log. So a report of the clock logs the gaps that
the ids it covers make with each other and with the last one (`SimLayers.passes_runTti`). A report cannot end early
but by a timer or a measurement (`SimLayers.Idle.exists_runTti`).
-/

namespace LteUe

/-! ## Gaps in the log -/

namespace SimLayers

/-- Whether an event reports a gap. -/
def isGap (e : Log.Event) : Bool := e.target == .mac && e.message == "sub-tick out of sequence"

/-- The gaps that ticks report, one after the other. -/
def gaps : Option UInt32 → List UInt32 → List Log.Event
  | _, [] => []
  | last, tti :: ttis => gapAt last tti ++ gaps (some tti) ttis

theorem gaps_append (last : Option UInt32) (l m : List UInt32) :
    gaps last (l ++ m) = gaps last l ++ gaps (l.getLast?.or last) m := by
  induction l generalizing last with
  | nil => rfl
  | cons tti l ih =>
    rw [List.cons_append, gaps, gaps, ih, List.append_assoc, List.getLast?_cons, Option.or_some, Option.some_or]

/-- Ticks that follow one another report a gap only before the first of them. -/
theorem gaps_of_isChain {l : List UInt32} (h : l.IsChain fun a b => b.toNat = (a.toNat + 1) % 10240)
    (hl : ∀ tti ∈ l, tti.toNat < 10240) (last : Option UInt32) :
    gaps last l = l.head?.elim [] (gapAt last) := by
  induction l generalizing last with
  | nil => rfl
  | cons a l ih =>
    rw [List.isChain_cons] at h
    rw [List.forall_mem_cons] at hl
    rw [gaps, ih h.2 hl.2]
    cases l with
    | nil => exact List.append_nil _
    | cons b l =>
      obtain ⟨c, hc, hnat⟩ := Tti.next?_of_lt hl.1
      have hcb : b = c := UInt32.toNat_inj.1 ((h.1 b rfl).trans hnat.symm)
      have hnone : gapAt (some a) b = [] := by
        rw [gapAt, Option.bind_some, hc]
        exact if_pos hcb
      show gapAt last a ++ gapAt (some a) b = gapAt last a
      rw [hnone, List.append_nil]

end SimLayers

open SimLayers

/-- Events have been reported, among them these gaps. -/
def World.Logs (w w' : World) (gaps : List Log.Event) : Prop :=
  ∃ events, w'.log.toList = w.log.toList ++ events ∧ events.filter isGap = gaps

namespace World

variable {w w' w'' : World} {l m : List Log.Event}

theorem logs_of_eq (h : w'.log = w.log) : w.Logs w' [] := ⟨[], by rw [h, List.append_nil], rfl⟩

theorem Logs.trans (h : w.Logs w' l) (h' : w'.Logs w'' m) : w.Logs w'' (l ++ m) := by
  obtain ⟨es, he, rfl⟩ := h
  obtain ⟨es', he', rfl⟩ := h'
  exact ⟨es ++ es', by rw [he', he, List.append_assoc], List.filter_append ..⟩

theorem logs_report (w : World) (e : Log.Event) : w.Logs (w.report e) ([e].filter isGap) :=
  ⟨[e], by rw [report, Array.toList_push], rfl⟩

theorem logs_report_of_ne (w : World) {e : Log.Event} (h : e.target ≠ .mac) : w.Logs (w.report e) [] := by
  have := w.logs_report e
  rwa [List.filter_cons_of_neg (by simp [isGap, h])] at this

theorem logs_reportAll (w : World) {es : List Log.Event} (h : ∀ e ∈ es, e.target ≠ .mac) :
    w.Logs (w.reportAll es) [] := by
  induction es generalizing w with
  | nil => exact logs_of_eq rfl
  | cons e es ih =>
    rw [List.forall_mem_cons] at h
    exact (w.logs_report_of_ne h.1).trans (ih _ h.2)

theorem logs_close (sink : Sink) (w : World) : w.Logs (CaptureSink.close sink w).2 [] := by
  cases sink with
  | observed s => exact logs_of_eq rfl
  | file s =>
    have hlog : ∀ files, w.Logs { w with files := files } [] := fun _ => logs_of_eq rfl
    refine (hlog _).trans (logs_reportAll _ ?_)
    unfold FileSink.close
    cases s.writer with
    | none => simp
    | some b =>
      dsimp only
      split
      · simp
      · simp [FileSink.cannotFlush]

theorem logs_write (c : Capture Sink) (pdu : Bytes) (w : World) : w.Logs (c.write pdu w).2 [] := by
  have hsink : w.Logs (CaptureSink.write c.sink pdu w).2.2 [] := by
    cases c.sink with
    | file s => exact logs_of_eq rfl
    | observed s =>
      obtain ⟨name, fails, room⟩ := s
      cases room with
      | none => exact logs_of_eq rfl
      | some n => cases n <;> exact logs_of_eq rfl
  unfold Capture.write
  split
  · generalize CaptureSink.write c.sink pdu w = r at hsink ⊢
    obtain ⟨r, sink, w'⟩ := r
    cases r with
    | ok _ => exact hsink
    | error e => exact (hsink.trans (logs_report_of_ne _ (by simp [Capture.writeFailed]))).trans (logs_close _ _)
  · exact logs_of_eq rfl

end World

namespace Surroundings

variable {κ : Type}

theorem logs_capture (r : Surroundings κ) (layer : CapturedLayer) (pdu : Bytes) :
    r.world.Logs (r.capture layer pdu).world [] := by
  unfold capture Captures.write
  cases r.captures.get layer with
  | none => exact World.logs_of_eq rfl
  | some c => exact World.logs_write c pdu r.world

theorem logs_captureAll (r : Surroundings κ) (pdus : List Bytes) :
    r.world.Logs (r.captureAll pdus).world [] := by
  induction pdus generalizing r with
  | nil => exact World.logs_of_eq rfl
  | cons pdu pdus ih => exact (r.logs_capture .mac pdu).trans (ih _)

end Surroundings

/-! ## Hooks -/

namespace SimLayers

variable {l : SimLayers} {r : Surroundings Callback} {y y' z : SimLayers × Surroundings Callback}
  {ids ids' : List UInt32}

/-- Medium access control has been called for these ids, and has reported the gaps between them. -/
structure Passes (ids : List UInt32) (y y' : SimLayers × Surroundings Callback) : Prop where
  lastTti : y'.1.lastTti = ids.getLast?.or y.1.lastTti
  ticks : y'.1.ticks = y.1.ticks + ids.length
  log : y.2.world.Logs y'.2.world (gaps y.1.lastTti ids)

theorem Passes.trans (h : Passes ids y y') (h' : Passes ids' y' z) : Passes (ids ++ ids') y z where
  lastTti := by rw [h'.lastTti, h.lastTti, List.getLast?_append, Option.or_assoc]
  ticks := by rw [h'.ticks, h.ticks, List.length_append, Nat.add_assoc]
  log := by
    rw [gaps_append, ← h.lastTti]
    exact h.log.trans h'.log

theorem passes_nil (hl : y'.1 = y.1) (hw : y.2.world.Logs y'.2.world []) : Passes [] y y' where
  lastTti := by rw [hl]; rfl
  ticks := by rw [hl]; rfl
  log := hw

theorem scenic_passes : Work.Scenic (Passes []) where
  refl _ := passes_nil rfl (World.logs_of_eq rfl)
  trans h h' := h.trans h'
  framed _ _ _ h := ⟨h.lastTti, h.ticks, h.log⟩

theorem passes_fire (c : Callback) : Moves (Passes []) (Layers.fire c : Act Callback) := by
  have hc := scenic_passes.toComposes
  refine hc.bind (fun _ => hc.refl _) fun _ => c.moves_run hc ?_ ?_ _
  · exact fun text y => passes_nil rfl (World.logs_of_eq rfl)
  · rintro ticks c ⟨l, r⟩
    refine passes_nil rfl ?_
    show r.world.Logs (r.defer ticks c).2.world []
    unfold Surroundings.defer
    split
    · exact World.logs_report_of_ne _ (by simp [Surroundings.tooLate])
    · exact World.logs_of_eq rfl

theorem passes_nasBatch : Moves (Passes []) nasBatch := by
  have hc := scenic_passes.toComposes
  refine hc.bind (fun _ => hc.refl _) fun l => ?_
  cases l.emm with
  | registeredInitiated =>
    refine .ite (hc.bind (fun _ => ⟨rfl, rfl, World.logs_of_eq rfl⟩) fun _ => .ite ?_ (hc.pure ())) (hc.pure ())
    exact hc.bind (fun _ => passes_nil rfl (World.logs_report_of_ne _ (by simp))) fun _ _ =>
      ⟨rfl, rfl, World.logs_of_eq rfl⟩
  | deregisteredInitiated => exact .ite (hc.pure ()) fun _ => ⟨rfl, rfl, World.logs_of_eq rfl⟩
  | deregistered | registered => exact hc.pure ()

theorem logs_gapAt (last : Option UInt32) (tti : UInt32) (r : Surroundings Callback) :
    r.world.Logs ((gapAt last tti).foldl .report r).world (gapAt last tti) := by
  unfold gapAt
  split
  · split
    · exact World.logs_of_eq rfl
    · exact World.logs_report _ _
  · exact World.logs_of_eq rfl

theorem deferred_captureAll (r : Surroundings Callback) (pdus : List Bytes) :
    (r.captureAll pdus).deferred = r.deferred := by
  induction pdus generalizing r with
  | nil => rfl
  | cons pdu pdus ih => exact ih (r.capture .mac pdu)

theorem deferred_reports (events : List Log.Event) (r : Surroundings Callback) :
    (events.foldl .report r).deferred = r.deferred := by
  induction events generalizing r with
  | nil => rfl
  | cons e events ih => exact ih (r.report e)

theorem passes_macTick (tti : UInt32) (h : ¬ l.Stuck) : ∃ r', macTick tti (l, r) = .ok () (l.tick tti, r') ∧
    r'.deferred = r.deferred ∧ Passes [tti] (l, r) (l.tick tti, r') := by
  refine ⟨_, macTick_eq tti h, ?_, ?_⟩
  · rw [deferred_captureAll, deferred_reports]
  · have hlog := (logs_gapAt l.lastTti tti r).trans
      (Surroundings.logs_captureAll _ (if l.macCaptured then l.due else []))
    rw [List.append_nil] at hlog
    rw [tick, if_neg h]
    exact ⟨rfl, rfl, by rw [gaps, gaps, List.append_nil]; exact hlog⟩

/-! ## Reports -/

open Work

/-- The executor of simulated layers, and what it shares with other threads. -/
abbrev State := Executor SimLayers Callback × Shared Callback

variable {s t : State} {tti jump : UInt32} {u : Unit}

/-- The last id has been reduced, so that it has a successor. -/
def Reduced (l : SimLayers) : Prop := ∀ tti, l.lastTti = some tti → tti.toNat < 10240

theorem Reduced.not_stuck (h : Reduced l) : ¬ l.Stuck := by
  cases hl : l.lastTti with
  | none => simp [Stuck, hl]
  | some tti =>
    obtain ⟨next, hn, -⟩ := Tti.next?_of_lt (h tti hl)
    simp [Stuck, hl, hn]

theorem Reduced.passes (h : Reduced y.1) (hp : Passes ids y y') (hids : ∀ id ∈ ids, id.toNat < 10240) :
    Reduced y'.1 := by
  intro tti htti
  rw [hp.lastTti, Option.or_eq_some_iff] at htti
  obtain hlast | ⟨-, hlast⟩ := htti
  · exact hids tti (List.mem_of_getLast? hlast)
  · exact h tti hlast

theorem passes_startMeasuring :
    Moves (fun s t : State => Passes [] (scene s) (scene t)) startMeasuring := by
  refine moves_modify ?_
  rintro ⟨e, s⟩
  dsimp only
  split
  · exact passes_nil rfl (World.logs_of_eq rfl)
  · exact scenic_passes.refl _

theorem passes_stopMeasuring :
    Moves (fun s t : State => Passes [] (scene s) (scene t)) stopMeasuring := by
  rintro ⟨e, s⟩
  unfold outcome stopMeasuring
  dsimp only
  cases TickProfiler.stop s.world.readClock.1 e.profiler with
  | error f p => exact passes_nil rfl (World.logs_of_eq rfl)
  | ok ended p =>
    dsimp only
    cases ended.bind Prod.snd with
    | none => exact passes_nil rfl (World.logs_of_eq rfl)
    | some t =>
      have hclock : s.world.Logs s.world.readClock.2 [] := World.logs_of_eq rfl
      refine passes_nil rfl (hclock.trans ?_)
      exact World.logs_report_of_ne _ (by simp [statistics])

theorem passes_checkDuration (tti jump : UInt32) (elapsed : Option Span) :
    Moves (fun s t : State => Passes [] (scene s) (scene t)) (checkDuration tti jump elapsed) := by
  refine moves_modify ?_
  rintro ⟨e, s⟩
  dsimp only
  split
  · -- A tick that took too long is reported by medium access control as well.
    exact passes_nil rfl (World.logs_report s.world (longTick tti jump))
  · exact scenic_passes.refl _

theorem passes_checkBacklog :
    Moves (fun s t : State => Passes [] (scene s) (scene t)) checkBacklog := by
  refine moves_modify ?_
  rintro ⟨e, s⟩
  dsimp only
  split
  · exact passes_nil rfl (World.logs_report_of_ne _ (by simp [slowProcessing]))
  · exact scenic_passes.refl _

theorem passes_subTick (hs : Reduced s.1.layers) (h : subTick tti s = .ok u t) :
    Passes [tti] (scene s) (scene t) := by
  rw [subTick_eq] at h
  obtain ⟨_, v, hv, h⟩ := bind_eq_ok_iff.1 h
  obtain ⟨l, r, hmac, rfl⟩ := hook_eq_ok_iff.1 hv
  obtain ⟨r', hmac', -, hp⟩ := passes_macTick (r := s.2.toSurroundings) tti hs.not_stuck
  obtain ⟨rfl, rfl⟩ : s.1.layers.tick tti = l ∧ r' = r := by
    have := hmac'.symm.trans hmac
    simpa using this
  have hmac : Passes [tti] (scene s) (scene ({ s.1 with layers := s.1.layers.tick tti }, adopt s.2 r')) :=
    ⟨hp.lastTti, hp.ticks, hp.log⟩
  exact hmac.trans ((scenic_passes.tickTimers passes_fire).of_ok h)

theorem passes_subTicks (hs : Reduced s.1.layers) (hids : ∀ id ∈ ids, id.toNat < 10240)
    (h : ids.forM subTick s = .ok u t) : Passes ids (scene s) (scene t) := by
  induction ids generalizing s with
  | nil =>
    cases h
    exact scenic_passes.refl _
  | cons tti ids ih =>
    rw [List.forall_mem_cons] at hids
    obtain ⟨_, v, hv, h⟩ := bind_eq_ok_iff.1 h
    have hp := passes_subTick hs hv
    exact hp.trans (ih (hs.passes hp (List.forall_mem_singleton.2 hids.1)) hids.2 h)

theorem composes_passes : Composes fun s t : State => Passes [] (scene s) (scene t) :=
  ⟨fun _ => scenic_passes.refl _, scenic_passes.trans⟩

theorem passes_finish (tti jump : UInt32) : Moves (fun s t : State => Passes [] (scene s) (scene t)) (do
    hook Layers.rrcBatch
    hook Layers.nasBatch
    let elapsed ← stopMeasuring
    checkDuration tti jump elapsed
    checkBacklog) := by
  have hc := composes_passes
  exact hc.bind (scenic_passes.hook (scenic_passes.pure ())) fun _ =>
    hc.bind (scenic_passes.hook passes_nasBatch) fun _ => hc.bind passes_stopMeasuring fun elapsed =>
    hc.bind (passes_checkDuration tti jump elapsed) fun _ => passes_checkBacklog

/-- A report calls medium access control for the ids that it covers. -/
theorem passes_runTti (hs : Reduced s.1.layers) (h : runTti tti jump s = .ok u t) :
    Passes (Tti.subTicks tti jump) (scene s) (scene t) := by
  unfold runTti at h
  obtain ⟨_, s₁, h₁, h⟩ := bind_eq_ok_iff.1 h
  obtain ⟨_, s₂, h₂, h⟩ := bind_eq_ok_iff.1 h
  cases h₂
  obtain ⟨_, s₃, h₃, h⟩ := bind_eq_ok_iff.1 h
  have hbefore : Passes [] (scene s) (scene s₁) := passes_startMeasuring.of_ok h₁
  have hids : Passes (Tti.subTicks tti jump) (scene s₁) (scene s₃) :=
    passes_subTicks (s := ({ s₁.1 with currentTti := some (tti % Tti.wrap) }, s₁.2))
      (hs.passes hbefore (by simp)) (fun _ hid => Tti.lt_wrap_of_mem_subTicks hid) h₃
  have htrans := (hbefore.trans hids).trans ((passes_finish tti jump).of_ok h)
  rwa [List.append_nil] at htrans

/-! ## Reports that come to their end -/

/-- No timer runs and none is about to, and batches are not measured. -/
structure Idle (s : State) : Prop where
  timers : ∀ (i : Nat) (slot : TimerSlot Callback), s.1.timers.slots[i]? = some slot → ¬ slot.IsRunning
  deferred : s.2.deferred = []
  measured : s.2.config.tick.timeStats = false
  started : s.1.profiler.started = none

theorem Idle.exists_stepTimers (h : Idle s) : ∃ n t, stepTimers s = .ok n t ∧ Idle t := by
  obtain ⟨e, s⟩ := s
  have hdue : ∀ i, e.timers.dueAt i = none := by
    intro i
    rw [TimerTable.dueAt, Option.bind_eq_none_iff]
    intro slot hslot
    exact if_neg fun hd => h.timers i slot hslot hd.1
  unfold stepTimers
  dsimp only
  cases hs : TimerTable.stepAll (Layers.fire : Callback → Act Callback) (e.timers, e.layers, s.toSurroundings) with
  | error f z =>
    obtain ⟨i, kept, hcut⟩ := TimerTable.stepAll_error hs
    obtain ⟨slot, -, -, hslot, hd, -⟩ := hcut.fault
    exact absurd hd.1 (h.timers i slot hslot)
  | ok n z =>
    obtain ⟨timers, layers, r⟩ := z
    obtain ⟨⟨kept, hstep⟩, -⟩ := TimerTable.stepAll_ok hs
    have hfired := hstep.fired
    rw [List.filterMap_eq_nil_iff.2 fun i _ => hdue i] at hfired
    obtain ⟨-, hcontext⟩ := pure_eq_ok_iff.1 hfired
    obtain ⟨rfl, rfl⟩ := Prod.mk.inj hcontext
    refine ⟨_, _, rfl, ?_, h.deferred, h.measured, h.started⟩
    intro i slot hslot
    rw [hstep.slots, Option.map_eq_some_iff] at hslot
    obtain ⟨slot', hslot', rfl⟩ := hslot
    have hnot := h.timers i slot' hslot'
    rwa [TimerSlot.advance, if_neg fun hd : slot'.IsDue => hnot hd.1, if_neg hnot]

theorem armDeferred_of_nil {e : Executor SimLayers Callback} {s : Shared Callback} (h : s.deferred = []) :
    armDeferred (e, s) = .ok () (e, s) := by
  obtain ⟨⟨state, radio, pool, deferred, captures, world⟩, config, dispatcher, dropped, slots⟩ := s
  obtain rfl : deferred = [] := h
  rfl

theorem Idle.exists_subTick (h : Idle s) (hs : Reduced s.1.layers) (tti : UInt32) :
    ∃ t, subTick tti s = .ok () t ∧ Idle t := by
  obtain ⟨r, hmac, hdef, -⟩ := passes_macTick (r := s.2.toSurroundings) tti hs.not_stuck
  have hhook : hook (Layers.macTick tti) s =
      .ok () ({ s.1 with layers := s.1.layers.tick tti }, adopt s.2 r) :=
    hook_eq_ok_iff.2 ⟨_, _, hmac, rfl⟩
  have hidle : Idle ({ s.1 with layers := s.1.layers.tick tti }, adopt s.2 r) :=
    ⟨h.timers, hdef.trans h.deferred, h.measured, h.started⟩
  obtain ⟨n, t, ht, hi⟩ := hidle.exists_stepTimers
  refine ⟨_, ?_, (⟨hi.timers, hi.deferred, hi.measured, hi.started⟩ :
    Idle ({ t.1 with ticksProcessed := t.1.ticksProcessed + 1 }, t.2))⟩
  exact bind_eq_ok_iff.2 ⟨(), _, hhook,
    bind_eq_ok_iff.2 ⟨(), _, armDeferred_of_nil hidle.deferred, bind_eq_ok_iff.2 ⟨n, t, ht, rfl⟩⟩⟩

theorem Idle.exists_subTicks (h : Idle s) (hs : Reduced s.1.layers) (hids : ∀ id ∈ ids, id.toNat < 10240) :
    ∃ t, ids.forM subTick s = .ok () t ∧ Idle t := by
  induction ids generalizing s with
  | nil => exact ⟨s, rfl, h⟩
  | cons tti ids ih =>
    rw [List.forall_mem_cons] at hids
    obtain ⟨v, hv, hi⟩ := h.exists_subTick hs tti
    obtain ⟨t, ht, hi⟩ := ih hi (hs.passes (passes_subTick hs hv) (List.forall_mem_singleton.2 hids.1)) hids.2
    exact ⟨t, bind_eq_ok_iff.2 ⟨(), v, hv, ht⟩, hi⟩

theorem exists_nasBatch (l : SimLayers) (r : Surroundings Callback) :
    ∃ l' r', nasBatch (l, r) = .ok () (l', r') ∧ r'.deferred = r.deferred := by
  obtain ⟨settings, ⟨queues, octets, packets, connected⟩, _, _, _, _, _, _, emm, ticks, _, _⟩ := l
  rw [nasBatch, layers_bind]
  cases emm with
  | deregistered | registered => exact ⟨_, _, rfl, rfl⟩
  | registeredInitiated =>
    cases connected with
    | false => exact ⟨_, _, rfl, rfl⟩
    | true =>
      dsimp only [if_pos]
      by_cases hd : settings.attachDelayTicks ≤ ticks + 1
      · simp only [if_pos hd]
        exact ⟨_, _, rfl, rfl⟩
      · simp only [if_neg hd]
        exact ⟨_, _, rfl, rfl⟩
  | deregisteredInitiated =>
    dsimp only
    split <;> exact ⟨_, _, rfl, rfl⟩

theorem Idle.exists_stopMeasuring (h : Idle s) : ∃ t, stopMeasuring s = .ok none t ∧ Idle t := by
  obtain ⟨e, s⟩ := s
  have hstop : TickProfiler.stop s.world.readClock.1 e.profiler = .ok none e.profiler := by
    rw [TickProfiler.stop, get_bind, h.started]
    rfl
  unfold stopMeasuring
  dsimp only
  rw [hstop]
  exact ⟨_, rfl, h.timers, h.deferred, h.measured, h.started⟩

theorem Idle.exists_checkBacklog (h : Idle s) : ∃ t, checkBacklog s = .ok () t ∧ Idle t := by
  refine ⟨_, rfl, ?_⟩
  dsimp only
  split
  · exact ⟨h.timers, h.deferred, h.measured, h.started⟩
  · exact h

theorem Idle.exists_runTti (h : Idle s) (hs : Reduced s.1.layers) (tti jump : UInt32) :
    ∃ t, runTti tti jump s = .ok () t ∧ Idle t := by
  have hstart : startMeasuring s = .ok () s := by
    show EStateM.Result.ok () (if s.2.config.tick.timeStats = true then _ else s) = _
    rw [if_neg (by simp [h.measured])]
  have hbegun : Idle ({ s.1 with currentTti := some (tti % Tti.wrap) }, s.2) :=
    ⟨h.timers, h.deferred, h.measured, h.started⟩
  obtain ⟨v, hv, hi⟩ := hbegun.exists_subTicks hs fun _ (hid : _ ∈ Tti.subTicks tti jump) =>
    Tti.lt_wrap_of_mem_subTicks hid
  obtain ⟨l, r, hnas, hdef⟩ := exists_nasBatch v.1.layers v.2.toSurroundings
  have hbatch : Idle ({ v.1 with layers := l }, adopt v.2 r) :=
    ⟨hi.timers, hdef.trans hi.deferred, hi.measured, hi.started⟩
  obtain ⟨w, hw, hi⟩ := hbatch.exists_stopMeasuring
  obtain ⟨t, ht, hi⟩ := hi.exists_checkBacklog
  refine ⟨t, ?_, hi⟩
  refine bind_eq_ok_iff.2 ⟨(), s, hstart, bind_eq_ok_iff.2 ⟨(), _, rfl, bind_eq_ok_iff.2 ⟨(), v, hv, ?_⟩⟩⟩
  refine bind_eq_ok_iff.2 ⟨(), v, rfl, bind_eq_ok_iff.2 ⟨(), _, hook_eq_ok_iff.2 ⟨l, r, hnas, rfl⟩, ?_⟩⟩
  exact bind_eq_ok_iff.2 ⟨none, w, hw, bind_eq_ok_iff.2 ⟨(), w, rfl, ht⟩⟩

end SimLayers

end LteUe
