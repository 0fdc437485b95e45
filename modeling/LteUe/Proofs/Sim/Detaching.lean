import LteUe.Proofs.Sim.Ledger
import LteUe.Proofs.Stack.Detaching

/-!
# A detach reaches the network before it is done

With simulated layers a detach that is under way ends by a switch-off, which puts a packet of its own on
the channel of signalling, or in a batch, when all that has been put there has been sent. And whoever
detaches gracefully and is told that it is done has asked for the channel at a time when all that had been
put there had been sent (`SimLayers.detach_reaches_network`).
-/

namespace LteUe.SimLayers

open Function Transcript

variable {settings : SimSettings} {l₀ : SimLayers} {c : StackConfig} {t : List (Event Callback)}
  {x : Queries SimLayers Callback}

/-- All packets put on the channel of signalling by these calls have been sent by them. -/
def Drained (l₀ : SimLayers) (cs : List (Call Callback)) : Prop :=
  onChannel Lcid.srb1 (l₀.put cs) = onChannel Lcid.srb1 (l₀.sent cs)

/-- Of what one who detaches does from `h` on, the last poll ends in `s'`, and has come upon a moment at which
all signalling had been sent. -/
def EndsDrained {σ : Type} (l₀ : SimLayers) (d : Detacher σ) (At : σ → Moment SimLayers Callback → Prop)
    (h : Moment SimLayers Callback) (s' : σ) : Prop :=
  ∃ s₁ h₁ h₂ h₃ m₁ m₂ m₃, h.Leads l₀ h₁ m₁ ∧ At s₁ h₁ ∧ d.poll s₁ = (.ok false, s') ∧
    h₁.Leads l₀ h₂ m₂ ∧ Drained l₀ (calls h₂.past) ∧ h₂.Leads l₀ h₃ m₃ ∧ At s' h₃ ∧
      onChannel Lcid.srb1 (l₀.put (calls h₁.past)) <+: onChannel Lcid.srb1 (l₀.sent (calls h₃.past))

/-- What holds of detaching after the events `t` that have led to `x`. -/
structure Detaching (l₀ : SimLayers) (t : List (Event Callback)) (x : Queries SimLayers Callback) : Prop where
  /-- The layers of the executor are those brought up, after all the calls that they have got. -/
  layers (e : Executor SimLayers Callback) : x.executor = some e → e.layers = l₀.replay (calls t)
  /-- Each call has made of them what its hook makes of them. -/
  hooks (a : Call Callback) (l : SimLayers) (r : Surroundings Callback) :
    (outcome a.hook (l, r)).2.1 = l.after a
  /-- A tick with a connection sends what is granted of the bearers. -/
  transmitted (l : SimLayers) (tti : UInt32) : ¬ l.Stuck → l.bearers.connected = true →
    (l.sends (.macTick tti)).map (·.2) = (l.bearers.transmit l.settings.grantPerTick).1
  /-- What has been put on a channel has been sent, in order, or waits there. -/
  order (lcid : Lcid) : onChannel lcid (l₀.put (calls t)) =
    onChannel lcid (l₀.sent (calls t)) ++ (l₀.replay (calls t)).bearers.waiting lcid
  /-- As many packets have been sent as are counted. -/
  counted : (l₀.replay (calls t)).bearers.sentPackets = (l₀.sent (calls t)).length
  /-- A detach that is under way ends by a call that puts a packet of its own on the channel of signalling, or
  in a batch when all that has ever been put there has been sent. -/
  left (cs : List (Call Callback)) (a : Call Callback) (ds : List (Call Callback)) : calls t = cs ++ a :: ds →
    (l₀.replay cs).emm = .deregisteredInitiated → (l₀.replay (cs ++ [a])).emm ≠ .deregisteredInitiated →
      (l₀.replay (cs ++ [a])).emm = .deregistered ∧
        (a = .detach true ∧ (l₀.replay cs).puts a = [(Lcid.srb1, detachRequest)] ∨
          a = .nasBatch ∧ Drained l₀ cs)
  /-- Whoever detaches gracefully from now on, and is told that it is done, has made its last poll when all
  signalling had been sent. -/
  graceful {σ : Type} (d : Detacher σ) (At : σ → Moment SimLayers Callback → Prop) (g : DetachConfig)
    (s s' : σ) : d.Drives l₀ At → At s ⟨t, x⟩ → d.detach g true s = (true, s') →
      EndsDrained l₀ d At ⟨t, x⟩ s'
  /-- A session detaches in this way. -/
  session : (Session.detacher : Detacher (Session SimLayers Callback)).Drives l₀ Session.At

theorem BroughtUp.conserved (h₀ : BroughtUp settings l₀) (cs : List (Call Callback)) (lcid : Lcid) :
    onChannel lcid (l₀.put cs) = onChannel lcid (l₀.sent cs) ++ (l₀.replay cs).bearers.waiting lcid := by
  have hb : l₀.bearers = {} := h₀.unmoved.2.1
  have ha : Bearers.Ascends l₀.bearers.queues := by
    rw [hb]
    exact .nil
  have hc := SimLayers.conserved ha cs lcid
  rw [hb] at hc
  exact hc

theorem BroughtUp.drained_iff (h₀ : BroughtUp settings l₀) (cs : List (Call Callback)) :
    Drained l₀ cs ↔ (l₀.replay cs).bearers.waiting Lcid.srb1 = [] := by
  rw [Drained, h₀.conserved, List.append_right_eq_self]

theorem put_prefix (l : SimLayers) (cs ds : List (Call Callback)) (lcid : Lcid) :
    onChannel lcid (l.put cs) <+: onChannel lcid (l.put (cs ++ ds)) := by
  rw [put, along_append, onChannel_append]
  exact List.prefix_append ..

theorem sent_prefix (l : SimLayers) (cs ds : List (Call Callback)) (lcid : Lcid) :
    onChannel lcid (l.sent cs) <+: onChannel lcid (l.sent (cs ++ ds)) := by
  rw [sent, along_append, onChannel_append]
  exact List.prefix_append ..

/-- If whoever asks whether signalling waits is told that none does, it has all been sent meanwhile. -/
theorem exists_drained (h₀ : BroughtUp settings l₀) {h h' : Moment SimLayers Callback}
    (hr : Run (Transcript.Step l₀) (Queries.start c) h.past h.now) {m : List (Event Callback)}
    (hm : h.Leads l₀ h' m) {p : Nat} (ha : Asks p (.hasData Lcid.srb1) (.ok (.flag false)) m) :
    ∃ h₁ m₁ m₂, h.Leads l₀ h₁ m₁ ∧ Drained l₀ (calls h₁.past) ∧ h₁.Leads l₀ h' m₂ := by
  obtain ⟨m₁, m₂, y, e, seen, rfl, h₁, h₂, he, hv⟩ := exists_moment_of_asks hr hm.2 ha
  refine ⟨⟨h.past ++ m₁, y⟩, m₁, m₂, ⟨rfl, h₁⟩, ?_, ?_, h₂⟩
  · have hl : e.layers = l₀.replay (calls (h.past ++ m₁)) := layers_eq knownBy_after (hr.append h₁) he
    have hw : (outcome (Work.perform (.hasData Lcid.srb1)) (e, seen)).1 =
        .ok (.flag (e.layers.bearers.hasData Lcid.srb1)) := rfl
    rw [hw, Except.ok.injEq, Reply.flag.injEq, Bearers.hasData] at hv
    rw [h₀.drained_iff, ← hl]
    simpa using hv
  · rw [hm.1, List.append_assoc]

/-- A graceful detach that succeeds has come upon a moment at which all signalling had been sent. -/
theorem endsDrained (h₀ : BroughtUp settings l₀) (h : Run (Transcript.Step l₀) (Queries.start c) t x)
    {σ : Type} {d : Detacher σ} {At : σ → Moment SimLayers Callback → Prop} {g : DetachConfig} {s s' : σ}
    (hd : d.Drives l₀ At) (hs : At s ⟨t, x⟩) (ht : d.detach g true s = (true, s')) :
    EndsDrained l₀ d At ⟨t, x⟩ s' := by
  obtain ⟨s₁, h₁, m₁, hm₁, h₁s, hp⟩ := hd.exists_last_poll hs ht
  obtain ⟨h₃, m, hm, h₃s, hb⟩ := hd.poll h₁s
  rw [hp] at h₃s hb
  obtain ⟨p, ha⟩ := hb false rfl
  have hr : Run (Transcript.Step l₀) (Queries.start c) h₁.past h₁.now := by
    rw [hm₁.1]
    exact h.append hm₁.2
  obtain ⟨h₂, m₂, m₃, hm₂, hdrained, hm₃⟩ := exists_drained h₀ hr hm ha
  refine ⟨s₁, h₁, h₂, h₃, m₁, m₂, m₃, hm₁, h₁s, hp, hm₂, hdrained, hm₃, h₃s, ?_⟩
  have hput : onChannel Lcid.srb1 (l₀.put (calls h₁.past)) <+:
      onChannel Lcid.srb1 (l₀.put (calls h₂.past)) := by
    rw [hm₂.1, calls_append]
    exact put_prefix ..
  have hsent : onChannel Lcid.srb1 (l₀.sent (calls h₂.past)) <+:
      onChannel Lcid.srb1 (l₀.sent (calls h₃.past)) := by
    rw [hm₃.1, calls_append]
    exact sent_prefix ..
  exact hput.trans (hdrained ▸ hsent)

/-- In every run of a stack with simulated layers, a detach reaches the network before it is done, whatever is
granted, whatever else is put on the bearers, and however the connection comes and goes. -/
theorem detach_reaches_network (h₀ : BroughtUp settings l₀)
    (h : Run (Transcript.Step l₀) (Queries.start c) t x) : Detaching l₀ t x where
  layers e he := layers_eq knownBy_after h he
  hooks := knownBy_after
  transmitted l tti hs hc := by
    have hn : ¬ (l.Stuck ∨ l.bearers.connected = false) := by simp [hs, hc]
    rw [sends, if_neg hn, ← Bearers.take_fst]
    rfl
  order := h₀.conserved (calls t)
  counted := by
    have hb : l₀.bearers = {} := h₀.unmoved.2.1
    have hc := sentPackets_replay l₀ (calls t)
    rw [hb] at hc
    exact hc.trans (Nat.zero_add _)
  left cs a ds _ hl hn := by
    have hsnoc : l₀.replay (cs ++ [a]) = (l₀.replay cs).after a := List.foldl_concat ..
    rw [hsnoc] at hn ⊢
    rw [h₀.drained_iff]
    exact emm_after hl hn
  graceful d At g s s' hd hs ht := endsDrained h₀ h hd hs ht
  session := Session.drives_detacher

/-! ## A detach that is done -/

/-- What the threads of a running stack share. -/
def sharing (d : Dispatcher Task) (slots : Array (ResultSlot Reply)) : Shared Callback where
  state := .running
  config := {}
  dispatcher := d
  slots := slots
  pool := .ofSize 2

/-- A stack whose executor has no task. -/
def resting (e : Executor SimLayers Callback) (s : Shared Callback) (callers : Nat → Caller) :
    Queries SimLayers Callback where
  shared := s
  executor := some e
  callers := callers

theorem run_taken {e : Executor SimLayers Callback} {s s' : Shared Callback} {callers : Nat → Caller}
    {u : Task} {r : Except Fault Reply} {cs : List (Call Callback)} (hr : e.running = true)
    (hb : e.begin s = some (u, e, s')) (hp : (outcome (Work.perform u.command) (e, s')).1 = r)
    (hc : Work.callsOf u.command (e, s') = cs)
    (h : Run (Transcript.Step l₀) (resting (e.run u s').1 (Executor.conclude u r e s').2 callers) t x) :
    Run (Transcript.Step l₀) (resting e s callers) ((.began u, []) :: (.ran u r, cs) :: t) x :=
  .cons (step_began rfl rfl hr hb) (.cons (hp ▸ hc ▸ .run rfl rfl ⟨rfl, rfl, rfl⟩) (hp ▸ h))

/-- Layers that have been brought up, in some state. -/
def upWith (emm : EmmState) (bearers : Bearers) : SimLayers :=
  { settings := {}, nasHandle := true, rrcHandle := true, emm := emm, bearers := bearers }

/-- An executor that has run `n` tasks. -/
def executorAfter (n : Nat) (l : SimLayers) : Executor SimLayers Callback :=
  { Executor.ofLayers l {} with tasksExecuted := n }

/-- A stack comes up, the terminal begins to attach, and there is a connection. -/
def attaching : List (Event Callback) :=
  [(.worked, []), (.worked, []), (.posted .attach, []), (.began ⟨.attach, none⟩, []),
    (.ran ⟨.attach, none⟩ (.ok .done), [.attach .standard]), (.posted (.selectDone true), []),
    (.began ⟨.selectDone true, none⟩, []), (.ran ⟨.selectDone true, none⟩ (.ok .done), [.selectDone true])]

/-- The terminal is switched off. -/
def requesting : List (Event Callback) :=
  [(.entered 0 (.detach true) .running, []), (.pushed 0 (.detach true) (.accepted 0), []),
    (.began ⟨.detach true, some 0⟩, []), (.ran ⟨.detach true, some 0⟩ (.ok (.flag true)), [.detach true]),
    (.answered 0 (.ok (.flag true)), [])]

/-- A tick, and then a poll. -/
def polling : List (Event Callback) :=
  [(.posted (.tick 1 1), []), (.began ⟨.tick 1 1, none⟩, []),
    (.ran ⟨.tick 1 1, none⟩ (.ok .done), [.macTick 1, .rrcBatch, .nasBatch]),
    (.entered 1 (.hasData Lcid.srb1) .running, []), (.pushed 1 (.hasData Lcid.srb1) (.accepted 1), []),
    (.began ⟨.hasData Lcid.srb1, some 1⟩, []),
    (.ran ⟨.hasData Lcid.srb1, some 1⟩ (.ok (.flag false)), [.hasData Lcid.srb1]),
    (.answered 1 (.ok (.flag false)), [])]

/-- The stack after `attaching`. -/
def attached : Queries SimLayers Callback :=
  resting (executorAfter 2 (upWith .registeredInitiated { connected := true }))
    (sharing (Queries.waiting [] [] 0) #[]) fun _ => .idle

/-- The layers after `requesting`. -/
def switchedOff : SimLayers :=
  upWith .deregistered { connected := true, queues := [(Lcid.srb1, [detachRequest])] }

/-- The stack after `requesting`. -/
def requested : Queries SimLayers Callback :=
  resting (executorAfter 3 switchedOff) (sharing (Queries.waiting [] [] 2) #[⟨some (.flag true), 0, true⟩])
    (update (update (update (fun _ => .idle) 0 (.asking (.detach true))) 0 (.waiting 0)) 0 .done)

theorem run_attaching :
    Run (Transcript.Step (upWith .deregistered {})) (Queries.start {}) attaching attached := by
  have hup : Queries.Step (Queries.start {}) .worked
      { (Queries.start {} : Queries SimLayers Callback) with
        shared := { (Queries.start {} : Queries SimLayers Callback).shared with state := .running }
        lifecycle := .starting } := .start rfl rfl ⟨rfl, rfl, rfl⟩
  refine .cons (step_aside hup rfl rfl) <|
    .cons (.spawn (e := executorAfter 0 (upWith .deregistered {})) rfl rfl) <|
    .cons (step_aside (.post (k := .control) rfl) rfl rfl) ?_
  show Run _ (resting _ (sharing (Queries.waiting [⟨.attach, none⟩] [] 0) #[]) _) _ _
  refine run_taken rfl rfl rfl rfl ?_
  show Run _ (resting (executorAfter 1 (upWith .registeredInitiated {}))
    (sharing (Queries.waiting [] [] 1) #[]) _) _ _
  refine .cons (step_aside (.post (k := .background) rfl) rfl rfl) ?_
  -- After the last queue it is the turn of the first.
  refine run_taken rfl
    (congrArg (fun n => some (_, _, sharing (Queries.waiting [] [] n) #[])) (Nat.mod_self 6)) rfl rfl ?_
  exact .nil

theorem run_requesting : Run (Transcript.Step (upWith .deregistered {})) attached requesting requested := by
  refine .cons (.of_caller (.enter 0 _ rfl rfl) nofun) <| .cons (.of_caller (.accept rfl rfl) nofun) ?_
  show Run _ (resting _ (sharing (Queries.waiting [] [⟨.detach true, some 0⟩] 0) #[⟨none, 1, true⟩]) _) _ _
  refine run_taken rfl rfl rfl rfl ?_
  exact run_singleton_iff.2 (.of_caller (.answer (i := 0) rfl rfl) nofun)

/-- What is shared while the tick of `polling` goes on. -/
def ticking : Shared Callback := sharing (Queries.waiting [] [] 3) #[⟨some (.flag true), 0, true⟩]

theorem tick_done :
    (outcome (Work.perform (.tick 1 1)) (executorAfter 3 switchedOff, ticking)).1 = .ok .done := rfl

theorem callsOf_tick :
    Work.callsOf (.tick 1 1) (executorAfter 3 switchedOff, ticking) =
      [.macTick 1, .rrcBatch, .nasBatch] := rfl

theorem exists_run_polling :
    ∃ x, Run (Transcript.Step (upWith .deregistered {})) requested polling x := by
  have hsent : ((executorAfter 3 switchedOff).run ⟨.tick 1 1, none⟩ ticking).1.layers.bearers.hasData
      Lcid.srb1 = false := by
    rw [Work.layers_run knownBy_after, callsOf_tick]
    rfl
  have hr : ((executorAfter 3 switchedOff).run ⟨.tick 1 1, none⟩ ticking).1.running = true :=
    Executor.running_run ..
  refine exists_run_cons (step_aside (.post (k := .sync) rfl) rfl rfl) <|
    Exists.imp (fun _ => run_taken rfl rfl tick_done callsOf_tick) ?_
  show ∃ x, Run _ (resting ((executorAfter 3 switchedOff).run ⟨.tick 1 1, none⟩ ticking).1 ticking _) _ x
  generalize ((executorAfter 3 switchedOff).run ⟨.tick 1 1, none⟩ ticking).1 = e at hsent hr ⊢
  refine exists_run_cons (.of_caller (.enter 1 _ rfl rfl) nofun) <|
    exists_run_cons (.of_caller (.accept rfl rfl) nofun) ?_
  let slots : Array (ResultSlot Reply) := #[⟨some (.flag true), 0, true⟩, ⟨none, 1, true⟩]
  let poll : Task := ⟨.hasData Lcid.srb1, some 1⟩
  show ∃ x, Run _ (resting e (sharing (Queries.waiting [] [poll] 3) slots) _) _ x
  have hd : (Queries.waiting [] [poll] 3).tryPop = some (poll, Queries.waiting [] [] 2) :=
    Dispatcher.tryPop_eq_some_iff.2 ⟨rfl, Dispatcher.popInTurn_eq_some_iff.2 ⟨1, by decide, rfl, rfl⟩⟩
  have hb : e.begin (sharing (Queries.waiting [] [poll] 3) slots) =
      some (poll, e, sharing (Queries.waiting [] [] 2) slots) :=
    Executor.begin_eq_some_iff.2 ⟨_, hd, rfl, rfl⟩
  have hp : (outcome (Work.perform poll.command) (e, sharing (Queries.waiting [] [] 2) slots)).1 =
      .ok (.flag (e.layers.bearers.hasData Lcid.srb1)) := rfl
  rw [hsent] at hp
  refine Exists.imp (fun _ => run_taken hr hb hp rfl) ?_
  exact exists_run_cons (.of_caller (.answer (i := 1) rfl rfl) nofun) ⟨_, .nil⟩

/-- A detacher of three states: before the request, before the poll, and at the end. -/
def briefDetacher : Detacher Nat where
  request _ s := if s = 0 then (.ok true, 1) else (.error .notRunning, s)
  poll s := if s = 1 then (.ok false, 2) else (.error .notRunning, s)
  readClock s := (.zero, s)
  sleep _ s := s
  report _ s := s

/-- Where the detacher is in a run that ends in `x`. -/
def Course (x : Queries SimLayers Callback) : Nat → Moment SimLayers Callback → Prop
  | 0, h => h = ⟨attaching, attached⟩
  | 1, h => h = ⟨attaching ++ requesting, requested⟩
  | 2, h => h = ⟨attaching ++ requesting ++ polling, x⟩
  | _, _ => False

theorem drives_briefDetacher (h : Run (Transcript.Step (upWith .deregistered {})) requested polling x) :
    briefDetacher.Drives (upWith .deregistered {}) (Course x) where
  request {s h} _ hs := by
    obtain rfl | hn := eq_or_ne s 0
    · obtain rfl : h = _ := hs
      exact ⟨⟨_, requested⟩, requesting, ⟨rfl, run_requesting⟩, rfl⟩
    · exact ⟨h, [], .refl h, by simpa [briefDetacher, hn] using hs⟩
  poll {s h} hs := by
    obtain rfl | hn := eq_or_ne s 1
    · obtain rfl : h = _ := hs
      refine ⟨⟨_, x⟩, polling, ⟨rfl, ‹_›⟩, rfl, ?_⟩
      rintro b ⟨⟩
      exact ⟨1, ⟨1, by simp [queries, polling]⟩, by simp [queries, polling]⟩
    · refine ⟨h, [], .refl h, by simpa [briefDetacher, hn] using hs, ?_⟩
      simp [briefDetacher, hn]
  readClock hs := ⟨_, [], .refl _, hs⟩
  sleep _ hs := ⟨_, [], .refl _, hs⟩
  report _ hs := ⟨_, [], .refl _, hs⟩

/-- The packet of a terminal that is switched off is sent in the next tick, and then a poll finds nothing. -/
theorem detach_reaches_network_when_sent :
    onChannel Lcid.srb1 ((upWith .deregistered {}).sent (calls (attaching ++ requesting ++ polling))) =
        [detachRequest] ∧
      Detaching (upWith .deregistered {}) attaching attached ∧ ∃ x,
        EndsDrained (upWith .deregistered {}) briefDetacher (Course x) ⟨attaching, attached⟩ 2 := by
  have h₀ : BroughtUp {} (upWith .deregistered {}) :=
    ⟨SimSettings.radio {}, {}, {}, .ofConfig {}, _, _, rfl, rfl⟩
  have hd := detach_reaches_network h₀ run_attaching
  obtain ⟨x, h⟩ := exists_run_polling
  have ht : briefDetacher.detach {} true 0 = (true, 2) := by
    rw [Detacher.detach, if_pos rfl, Detacher.graceful_eq, Detacher.mostPolls]
    rfl
  exact ⟨by decide, hd, x, hd.graceful briefDetacher (Course x) {} 0 2 (drives_briefDetacher h) rfl ht⟩

end LteUe.SimLayers
