import LteUe.Proofs.Runs
import LteUe.Proofs.Sim.Capturing
import LteUe.Proofs.Sim.Ledger
import LteUe.Proofs.Tti

/-!
# What the simulated layers send

The hooks of the simulated layers are called in any order, one at a time, a capture may be attached to medium
access control, and around them the surroundings may change as they like, but that nothing else writes to that
capture. Then no packet is lost, doubled or passed by one of a higher channel, and the counts and the capture
tell what has been sent (`transmits`).
-/

namespace LteUe.SimLayers

open Bearers

/-- What happens in one step. -/
inductive Event where
  | called (c : Call Callback)
  /-- An open capture is attached to medium access control. -/
  | attached (cap : Capture Sink)
  | aside

/-- The layers in their surroundings. -/
abbrev Scene := SimLayers × Surroundings Callback

/-- The steps. The executor may close the capture of medium access control. -/
inductive Move : Scene → Event → Scene → Prop
  | call {y : Scene} (c : Call Callback) : Move y (.called c) (outcome c.hook y).2
  | attach {l : SimLayers} {r : Surroundings Callback} {cap : Capture Sink} : cap.isOpen = true →
      Move (l, r) (.attached cap) (outcome (Call.hook (.captureBegun .mac))
        (l, { r with captures := r.captures.set .mac (some cap) })).2
  | aside {l : SimLayers} {r r' : Surroundings Callback} :
      (∀ cap, r'.captures.mac = some cap → cap.isOpen = true → r.captures.mac = some cap) →
        Move (l, r) .aside (l, r')

/-- The call that is made of the layers in the course of an event. -/
def Event.call? : Event → Option (Call Callback)
  | called c => some c
  | attached _ => some (.captureBegun .mac)
  | aside => none

/-- The calls of a history. -/
def made (t : List Event) : List (Call Callback) := t.filterMap (·.call?)

/-- The packets put on the bearers, each with its channel. -/
def pushed (s : SimSettings) (t : List Event) : List (Lcid × Bytes) := (ofSettings s).put (made t)

/-- The packets sent, each with its channel. -/
def transmitted (s : SimSettings) (t : List Event) : List (Lcid × Bytes) := (ofSettings s).sent (made t)

/-- What is true of the layers of a network with these settings, and their surroundings, after any history. -/
structure Transmits (s : SimSettings) (t : List Event) (l : SimLayers) (r : Surroundings Callback) : Prop where
  /-- What has been put on a channel has been sent from it, in this order, or waits then. -/
  conserved : ∀ lcid,
    onChannel lcid (pushed s t) = onChannel lcid (transmitted s t) ++ l.bearers.waiting lcid
  hasData : ∀ lcid, (Layers.hasData lcid : Act Bool) (l, r) = .ok (decide (l.bearers.waiting lcid ≠ [])) (l, r)
  /-- A tick faults, and does nothing, if the word of the one before was the last one. The ids of ticks are far
  from that. -/
  stuck : ∀ tti, l.Stuck → (Layers.macTick tti : Act Unit) (l, r) = .error .wordOverflow (l, r)
  unstuck : (∀ tti, .called (.macTick tti) ∈ t → tti < Tti.wrap) → ¬ l.Stuck
  /-- All other ticks send the first packets of all the queues, one after the other in the order of the channels,
  as many as are granted, and write these to the capture, if there is one. -/
  ascends : Ascends l.bearers.queues
  tick : ∀ tti, ¬ l.Stuck → ∃ events : List Log.Event,
    (Layers.macTick tti : Act Unit) (l, r) = .ok () (l.tick tti, (events.foldl .report r).captureAll
      (if l.macCaptured then (l.sends (.macTick tti)).map (·.2) else []))
  connected : ∀ tti, ¬ l.Stuck → l.bearers.connected = true →
    l.sends (.macTick tti) = (line l.bearers.queues).take s.grantPerTick ∧
      line (l.tick tti).bearers.queues = (line l.bearers.queues).drop s.grantPerTick
  priority : ∀ tti, ∀ p ∈ l.sends (.macTick tti), ∀ lcid < p.1, (l.tick tti).bearers.waiting lcid = []
  disconnected : ∀ tti, l.bearers.connected = false →
    l.sends (.macTick tti) = [] ∧ (l.tick tti).bearers = l.bearers
  /-- What the layers tell. -/
  packets : (Layers.metrics l).mac.txPackets = (transmitted s t).length
  octets : (Layers.metrics l).rlc.uplinkBytes = ((transmitted s t).map (·.2)).flatten.length
  /-- The capture that is open has taken what has been sent since it was attached. -/
  captured : ∀ u v cap cap', t = u ++ .attached cap :: v → (∀ other, .attached other ∉ v) →
    r.captures.mac = some cap' → cap'.isOpen = true →
      ∃ since, transmitted s t = transmitted s u ++ since ∧ Took cap (since.map (·.2)) cap'

variable {s : SimSettings} {r r' : Surroundings Callback} {t u v : List Event} {e : Event} {y y' : Scene}
  {l : SimLayers}

/-! ## The layers -/

theorem layers_move (h : Move y e y') : y'.1 = y.1.replay e.call?.toList := by
  cases h with
  | call c => exact knownBy_after c y.1 y.2
  | attach _ => exact knownBy_after (.captureBegun .mac) _ _
  | aside _ => rfl

theorem made_snoc : made (t ++ [e]) = made t ++ e.call?.toList := filterMap_snoc ..

theorem layers_run (h : Run Move y t y') : y'.1 = y.1.replay (made t) := by
  induction h with
  | nil => rfl
  | snoc _ hs ih => rw [layers_move hs, ih, made_snoc, replay, replay, replay, List.foldl_append]

theorem ascends_ofSettings (s : SimSettings) : Ascends (ofSettings s).bearers.queues := List.Pairwise.nil

/-- What a call leaves as it is. -/
structure Persists (l l' : SimLayers) : Prop where
  settings : l'.settings = l.settings
  captured : l.macCaptured = true → l'.macCaptured = true

theorem persists_tick (l : SimLayers) (tti : UInt32) : Persists l (l.tick tti) := by
  unfold tick
  split
  · exact ⟨rfl, id⟩
  · exact ⟨rfl, id⟩

theorem persists_after_of_ne (l : SimLayers) {c : Call Callback} (h : ∀ tti, c ≠ .macTick tti) :
    Persists l (l.after c) ∧ (l.after c).lastTti = l.lastTti := by
  cases c with
  | macTick tti => exact absurd rfl (h tti)
  | nasBatch =>
    rw [after, batch]
    split
    · split <;> exact ⟨⟨rfl, id⟩, rfl⟩
    · split <;> exact ⟨⟨rfl, id⟩, rfl⟩
    · exact ⟨⟨rfl, id⟩, rfl⟩
    · exact ⟨⟨rfl, id⟩, rfl⟩
  | attach | detach =>
    rw [after]
    split <;> exact ⟨⟨rfl, id⟩, rfl⟩
  | captureBegun layer =>
    cases layer with
    | mac => exact ⟨⟨rfl, fun _ => rfl⟩, rfl⟩
    | nas => exact ⟨⟨rfl, id⟩, rfl⟩
  | _ => exact ⟨⟨rfl, id⟩, rfl⟩

theorem persists_after (l : SimLayers) (c : Call Callback) : Persists l (l.after c) := by
  by_cases hc : ∃ tti, c = .macTick tti
  · obtain ⟨tti, rfl⟩ := hc
    exact persists_tick l tti
  · exact (persists_after_of_ne l fun tti h => hc ⟨tti, h⟩).1

theorem settings_replay (l : SimLayers) (cs : List (Call Callback)) : (l.replay cs).settings = l.settings := by
  induction cs generalizing l with
  | nil => rfl
  | cons c cs ih => exact (ih (l.after c)).trans (persists_after l c).settings

/-! ## Ticks -/

theorem map_sends (tti : UInt32) (h : ¬ l.Stuck) : (l.sends (.macTick tti)).map (·.2) = l.due := by
  rw [sends, due]
  by_cases hc : l.bearers.connected = true
  · rw [if_neg (by simp [h, hc]), if_pos hc]
    exact (take_fst ..).symm
  · rw [if_pos (by simp [hc]), if_neg hc]
    rfl

theorem sends_of_connected (tti : UInt32) (h : ¬ l.Stuck) (hc : l.bearers.connected = true) :
    l.sends (.macTick tti) = (line l.bearers.queues).take l.settings.grantPerTick := by
  rw [sends, if_neg (by simp [h, hc])]

theorem line_tick (tti : UInt32) (h : ¬ l.Stuck) (hc : l.bearers.connected = true) :
    line (l.tick tti).bearers.queues = (line l.bearers.queues).drop l.settings.grantPerTick := by
  rw [tick, if_neg h, if_pos hc, transmit]
  exact line_take ..

theorem bearers_tick_of_disconnected (tti : UInt32) (hc : l.bearers.connected = false) :
    (l.tick tti).bearers = l.bearers := by
  unfold tick
  split
  · rfl
  · exact if_neg (by simp [hc])

theorem waiting_tick_of_lt (h : Ascends l.bearers.queues) {tti : UInt32} {p : Lcid × Bytes}
    (hp : p ∈ l.sends (.macTick tti)) {lcid : Lcid} (hlt : lcid < p.1) :
    (l.tick tti).bearers.waiting lcid = [] := by
  by_cases hs : l.Stuck ∨ l.bearers.connected = false
  · rw [sends, if_pos hs] at hp
    cases hp
  · obtain ⟨hs, hc⟩ := not_or.1 hs
    have hc : l.bearers.connected = true := by simpa using hc
    have hafter : Ascends (l.tick tti).bearers.queues := (trades l (.macTick tti)).ascends h
    rw [waiting_eq hafter, line_tick tti hs hc]
    rw [sends_of_connected tti hs hc] at hp
    exact h.onChannel_drop hp hlt

theorem not_stuck (cs : List (Call Callback)) (h : ∀ tti, .macTick tti ∈ cs → tti < Tti.wrap)
    (hl : ∀ tti, l.lastTti = some tti → tti < Tti.wrap) : ¬ (l.replay cs).Stuck := by
  induction cs generalizing l with
  | nil =>
    show ¬ l.Stuck
    cases ht : l.lastTti with
    | none => simp [Stuck, ht]
    | some tti =>
      have hlt := UInt32.lt_iff_toNat_lt.1 (hl tti ht)
      have hw : Tti.wrap.toNat = 10240 := rfl
      have hn : (Tti.next? tti).isNone = false := by
        rw [Tti.next?, if_pos]
        · rfl
        · show tti.toNat + 1 < 2 ^ 32
          omega
      simp [Stuck, ht, hn]
  | cons c cs ih =>
    refine ih (fun tti htti => h tti (List.mem_cons_of_mem _ htti)) fun tti htti => ?_
    by_cases hc : ∃ tti', c = .macTick tti'
    · obtain ⟨tti', rfl⟩ := hc
      rw [after, tick] at htti
      split at htti
      · exact hl tti htti
      · cases htti
        exact h tti List.mem_cons_self
    · rw [(persists_after_of_ne l fun tti' h' => hc ⟨tti', h'⟩).2] at htti
      exact hl tti htti

theorem called_mem_of_made {tti : UInt32} (h : .macTick tti ∈ made t) : .called (.macTick tti) ∈ t := by
  obtain ⟨e, he, hc⟩ := List.mem_filterMap.1 h
  cases e with
  | called c =>
    cases hc
    exact he
  | _ => cases hc

/-! ## The capture -/

/-- Since `cap` was attached, medium access control has had a capture. If that is still open, it has taken the
packets sent since. -/
structure Captured (cap : Capture Sink) (since : List Bytes) (y : Scene) : Prop where
  captured : y.1.macCaptured = true
  took : ∀ cap', y.2.captures.mac = some cap' → cap'.isOpen = true → Took cap since cap'

theorem captures_reports (events : List Log.Event) (r : Surroundings Callback) :
    (events.foldl .report r).captures = r.captures := by
  induction events generalizing r with
  | nil => rfl
  | cons e events ih => exact ih (r.report e)

theorem Captured.tick {cap : Capture Sink} {since : List Bytes} (h : Captured cap since (l, r)) (tti : UInt32) :
    Captured cap (since ++ (l.sends (.macTick tti)).map (·.2)) (outcome (macTick tti) (l, r)).2 := by
  by_cases hs : l.Stuck
  · rw [sends, if_pos (.inl hs), List.map_nil, List.append_nil, outcome, macTick_eq_error tti hs]
    exact h
  · obtain ⟨events, hr⟩ := macTick_eq_ok (r := r) tti hs
    rw [map_sends tti hs, outcome, hr, if_pos h.captured]
    refine ⟨(persists_tick l tti).captured h.captured, fun cap' hcap ho => ?_⟩
    obtain ⟨cap₁, h₁, ho₁, ht⟩ := Surroundings.took_captureAll hcap ho
    rw [captures_reports] at h₁
    exact (h.took cap₁ h₁ ho₁).append ht

theorem Captured.move {cap : Capture Sink} {since : List Bytes} (h : Captured cap since y)
    (hs : Move y e y') (he : ∀ other, e ≠ .attached other) :
    Captured cap (since ++ (y.1.sent e.call?.toList).map (·.2)) y' := by
  obtain ⟨l, r⟩ := y
  cases hs with
  | attach _ => exact absurd rfl (he _)
  | aside hr =>
    rw [Event.call?, Option.toList_none, sent, along, List.map_nil, List.append_nil]
    exact ⟨h.captured, fun cap' hc ho => h.took cap' (hr cap' hc ho) ho⟩
  | call c =>
    have hsent : l.sent [c] = l.sends c := List.append_nil _
    rw [Event.call?, Option.toList_some, hsent]
    by_cases hc : ∃ tti, c = .macTick tti
    · obtain ⟨tti, rfl⟩ := hc
      exact h.tick tti
    · have hne : ∀ tti, c ≠ .macTick tti := fun tti h' => hc ⟨tti, h'⟩
      have hnil : l.sends c = [] := by
        cases c with
        | macTick tti => exact absurd rfl (hne tti)
        | _ => rfl
      rw [hnil, List.map_nil, List.append_nil]
      refine ⟨?_, fun cap' hcap ho => h.took cap' ?_ ho⟩
      · rw [knownBy_after c l r]
        exact (persists_after l c).captured h.captured
      · rw [← steady_hook hne (l, r)]
        exact hcap

theorem captured_run {cap : Capture Sink} (h : Captured cap [] y) (hr : Run Move y v y')
    (hv : ∀ other, .attached other ∉ v) : Captured cap ((y.1.sent (made v)).map (·.2)) y' := by
  induction hr with
  | nil => exact h
  | @snoc v y' _ e hv' hs ih =>
    have hx := ih fun other ho => hv other (List.mem_append_left _ ho)
    have hx := hx.move hs fun other ho => hv other (ho ▸ List.mem_append_right _ (List.mem_singleton_self _))
    rw [made_snoc, sent, along_append, List.map_append, ← layers_run hv']
    exact hx

/-- The capture that is open has taken what has been sent since it was attached. -/
theorem took_since {cap cap' : Capture Sink}
    (h : Run Move (ofSettings s, r) (u ++ .attached cap :: v) y) (hv : ∀ other, .attached other ∉ v)
    (hcap : y.2.captures.mac = some cap') (ho : cap'.isOpen = true) :
    ∃ since, transmitted s (u ++ .attached cap :: v) = transmitted s u ++ since ∧
      Took cap (since.map (·.2)) cap' := by
  obtain ⟨x, hu, h⟩ := run_append_iff.1 h
  obtain ⟨x', ha, hv'⟩ := run_cons_iff.1 h
  have hstart : Captured cap [] x' := by
    cases ha with
    | attach _ =>
      refine ⟨rfl, fun cap₁ h₁ _ => ?_⟩
      cases h₁
      exact .nil
  have hx' : x'.1 = ((ofSettings s).replay (made u)).replay [.captureBegun .mac] := by
    rw [layers_move ha, layers_run hu]
    rfl
  have hmade : made (u ++ .attached cap :: v) = made u ++ ([.captureBegun .mac] ++ made v) :=
    List.filterMap_append
  refine ⟨x'.1.sent (made v), ?_, (captured_run hstart hv' hv).took cap' hcap ho⟩
  rw [transmitted, transmitted, hmade, sent, along_append, along_append, hx']
  rfl

/-! ## Histories -/

theorem transmits (hr : Run Move (ofSettings s, r) t (l, r')) : Transmits s t l r' := by
  have hl : l = (ofSettings s).replay (made t) := layers_run hr
  have hset : l.settings = s := hl ▸ settings_replay _ _
  have hasc : Ascends l.bearers.queues := hl ▸ ascends_replay (ascends_ofSettings s) _
  exact {
    conserved := fun lcid => by
      rw [hl]
      exact conserved (ascends_ofSettings s) (made t) lcid
    hasData := fun lcid => by
      show EStateM.Result.ok (l.bearers.hasData lcid) (l, r') = _
      rw [hasData]
      cases l.bearers.waiting lcid <;> rfl
    stuck := fun tti hs => macTick_eq_error tti hs
    unstuck := fun h => by
      rw [hl]
      exact not_stuck _ (fun tti htti => h tti (called_mem_of_made htti)) (by simp [ofSettings])
    ascends := hasc
    tick := fun tti hs => by
      rw [map_sends tti hs]
      exact macTick_eq_ok tti hs
    connected := fun tti hs hc => by
      rw [← hset]
      exact ⟨sends_of_connected tti hs hc, line_tick tti hs hc⟩
    priority := fun tti p hp lcid hlt => waiting_tick_of_lt hasc hp hlt
    disconnected := fun tti hc => ⟨if_pos (.inr hc), bearers_tick_of_disconnected tti hc⟩
    packets := by
      show l.bearers.sentPackets = _
      rw [hl, sentPackets_replay]
      exact Nat.zero_add _
    octets := by
      show l.bearers.sentBytes = _
      rw [hl, sentBytes_replay]
      exact Nat.zero_add _
    captured := fun u v cap cap' ht hv hcap ho => by
      subst ht
      exact took_since hr hv hcap ho }

/-- Packets are put on two channels, a capture is attached, and with a connection two ticks are granted a packet
each. -/
def twoTicks : List Event :=
  [.called (.writeSdu 3 [7] false), .called (.writeSdu 1 [8, 9] false),
    .attached { layer := "MAC", sink := .observed { name := "mac" } }, .called (.selectDone true),
    .called (.macTick 1), .called (.macTick 2)]

theorem transmits_in_twoTicks : transmitted {} twoTicks = [(1, [8, 9]), (3, [7])] ∧
    ∃ l r, Run Move (ofSettings {}, .alone) twoTicks (l, r) ∧ Transmits {} twoTicks l r := by
  have hr : ∃ y, Run Move (ofSettings {}, .alone) twoTicks y :=
    exists_run_cons (.call _) <| exists_run_cons (.call _) <| exists_run_cons (.attach rfl) <|
      exists_run_cons (.call _) <| exists_run_cons (.call _) <| exists_run_cons (.call _) ⟨_, .nil⟩
  obtain ⟨⟨l, r⟩, hr⟩ := hr
  exact ⟨by decide, l, r, hr, transmits hr⟩

end LteUe.SimLayers
