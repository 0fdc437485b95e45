import LteUe.Proofs.Sim.Calls

/-!
# The ledger of the bearers

All that waits on the bearers is one line, channel after channel (`Bearers.line`): a tick with a connection
takes the front of it. So of each channel, what has been put there is what has been sent from there, in order,
and then what waits (`SimLayers.conserved`).
-/

namespace LteUe

/-- The packets of a channel, among packets of any. -/
def onChannel (lcid : Lcid) (l : List (Lcid × Bytes)) : List Bytes :=
  l.filterMap fun p => if p.1 = lcid then some p.2 else none

theorem onChannel_append (lcid : Lcid) (l m : List (Lcid × Bytes)) :
    onChannel lcid (l ++ m) = onChannel lcid l ++ onChannel lcid m := List.filterMap_append

theorem onChannel_singleton (lcid c : Lcid) (pdu : Bytes) :
    onChannel lcid [(c, pdu)] = if c = lcid then [pdu] else [] := by
  by_cases h : c = lcid <;> simp [onChannel, h]

theorem onChannel_map (lcid c : Lcid) (pdus : List Bytes) :
    onChannel lcid (pdus.map (c, ·)) = if c = lcid then pdus else [] := by
  unfold onChannel
  rw [List.filterMap_map]
  by_cases h : c = lcid
  · simp [h]
  · simp [h]

namespace Bearers

/-- All that waits, in the order in which it is sent. -/
def line (q : List (Lcid × List Bytes)) : List (Lcid × Bytes) := q.flatMap fun p => p.2.map (p.1, ·)

/-- The channels ascend. -/
def Ascends (q : List (Lcid × List Bytes)) : Prop := (q.map (·.1)).Pairwise (· < ·)

variable {lcid c : Lcid} {pdu : Bytes} {pdus : List Bytes} {q : List (Lcid × List Bytes)}

theorem line_cons : line ((c, pdus) :: q) = pdus.map (c, ·) ++ line q := List.flatMap_cons

theorem Ascends.tail (h : Ascends ((c, pdus) :: q)) : Ascends q := (List.pairwise_cons.1 h).2

theorem onChannel_line_eq_nil (h : ∀ d ∈ q.map (·.1), d ≠ lcid) : onChannel lcid (line q) = [] := by
  refine List.filterMap_eq_nil_iff.2 fun p hp => if_neg ?_
  obtain ⟨⟨d, pdus⟩, hd, hp⟩ := List.mem_flatMap.1 hp
  obtain ⟨pdu, -, rfl⟩ := List.mem_map.1 hp
  exact h d (List.mem_map_of_mem hd)

theorem Ascends.onChannel_line_eq_nil (h : Ascends ((c, pdus) :: q)) (hc : lcid ≤ c) :
    onChannel lcid (line q) = [] :=
  Bearers.onChannel_line_eq_nil fun d hd => (Nat.lt_of_le_of_lt hc ((List.pairwise_cons.1 h).1 d hd)).ne'

theorem Ascends.onChannel_line_of_lt (h : Ascends ((c, pdus) :: q)) (hc : lcid < c) :
    onChannel lcid (line ((c, pdus) :: q)) = [] := by
  rw [line_cons, onChannel_append, onChannel_map, if_neg hc.ne', h.onChannel_line_eq_nil (Nat.le_of_lt hc)]
  rfl

theorem Ascends.line (h : Ascends q) : (Bearers.line q).Pairwise fun p p' => p.1 ≤ p'.1 := by
  induction q with
  | nil => exact List.Pairwise.nil
  | cons p q ih =>
    obtain ⟨c, pdus⟩ := p
    rw [line_cons, List.pairwise_append]
    refine ⟨?_, ih h.tail, ?_⟩
    · rw [List.pairwise_map]
      exact List.pairwise_of_forall fun _ _ => Nat.le_refl c
    · intro p hp p' hp'
      obtain ⟨pdu, -, rfl⟩ := List.mem_map.1 hp
      obtain ⟨⟨d, pdus'⟩, hd, hp'⟩ := List.mem_flatMap.1 hp'
      obtain ⟨pdu', -, rfl⟩ := List.mem_map.1 hp'
      exact Nat.le_of_lt ((List.pairwise_cons.1 h).1 d (List.mem_map_of_mem hd))

theorem waiting_eq {b : Bearers} (h : Ascends b.queues) :
    b.waiting lcid = onChannel lcid (line b.queues) := by
  unfold waiting
  generalize b.queues = q at h
  induction q with
  | nil => rfl
  | cons p q ih =>
    obtain ⟨c, pdus⟩ := p
    rw [line_cons, onChannel_append, onChannel_map, List.lookup_cons]
    by_cases hc : lcid = c
    · subst hc
      rw [if_pos rfl, h.onChannel_line_eq_nil (Nat.le_refl _)]
      simp
    · rw [if_neg (Ne.symm hc), ← ih h.tail, beq_false_of_ne hc]
      rfl

/-! ## Packets that are added -/

theorem mem_enqueue {d : Lcid} : d ∈ (enqueue c pdu q).map (·.1) ↔ d = c ∨ d ∈ q.map (·.1) := by
  induction q with
  | nil => simp [enqueue]
  | cons p q ih =>
    obtain ⟨e, pdus⟩ := p
    unfold enqueue
    split
    · rename_i hce
      simp [hce]
    · split
      · simp
      · simp only [List.map_cons, List.mem_cons, ih]
        exact or_left_comm

theorem Ascends.enqueue (h : Ascends q) : Ascends (enqueue c pdu q) := by
  induction q with
  | nil => exact List.pairwise_singleton _ _
  | cons p q ih =>
    obtain ⟨d, pdus⟩ := p
    have hd := (List.pairwise_cons.1 h).1
    unfold Bearers.enqueue
    split
    · exact h
    · split
      · rename_i hlt
        refine List.pairwise_cons.2 ⟨fun e he => ?_, h⟩
        obtain rfl | he := List.mem_cons.1 he
        · exact hlt
        · exact hlt.trans (hd e he)
      · rename_i hne hle
        refine List.pairwise_cons.2 ⟨fun e he => ?_, ih h.tail⟩
        obtain rfl | he := mem_enqueue.1 he
        · exact Nat.lt_of_le_of_ne (Nat.le_of_not_lt hle) (Ne.symm hne)
        · exact hd e he

theorem onChannel_enqueue (h : Ascends q) :
    onChannel lcid (line (enqueue c pdu q)) = onChannel lcid (line q) ++ onChannel lcid [(c, pdu)] := by
  induction q with
  | nil => rfl
  | cons p q ih =>
    obtain ⟨d, pdus⟩ := p
    unfold enqueue
    split
    · rename_i hcd
      subst hcd
      rw [line_cons, line_cons, List.map_append, onChannel_append, onChannel_append, onChannel_append,
        List.append_assoc, List.append_assoc]
      by_cases hc : lcid = c
      · rw [h.onChannel_line_eq_nil (Nat.le_of_eq hc)]
        simp
      · rw [List.map_singleton, onChannel_singleton, if_neg (Ne.symm hc)]
        simp
    · split
      · rename_i hlt
        rw [line_cons, onChannel_append, List.map_singleton]
        by_cases hc : lcid = c
        · rw [h.onChannel_line_of_lt (hc ▸ hlt)]
          simp
        · rw [onChannel_singleton, if_neg (Ne.symm hc)]
          simp
      · rw [line_cons, line_cons, onChannel_append, onChannel_append, ih h.tail, List.append_assoc]

/-! ## Packets that are sent -/

theorem map_fst_take (n : Nat) (q : List (Lcid × List Bytes)) : (take n q).2.map (·.1) = q.map (·.1) := by
  induction q generalizing n with
  | nil => rfl
  | cons p q ih =>
    obtain ⟨c, pdus⟩ := p
    exact congrArg (c :: ·) (ih _)

theorem Ascends.take (h : Ascends q) (n : Nat) : Ascends (take n q).2 := by
  unfold Ascends
  rwa [map_fst_take]

theorem take_fst (n : Nat) (q : List (Lcid × List Bytes)) : (take n q).1 = ((line q).take n).map (·.2) := by
  induction q generalizing n with
  | nil => simp [take, line]
  | cons p q ih =>
    obtain ⟨c, pdus⟩ := p
    rw [line_cons, List.take_append, List.map_append, List.length_map, ← ih, ← List.map_take, List.map_map]
    simp [take, Function.comp_def]

theorem line_take (n : Nat) (q : List (Lcid × List Bytes)) : line (take n q).2 = (line q).drop n := by
  induction q generalizing n with
  | nil => simp [take, line]
  | cons p q ih =>
    obtain ⟨c, pdus⟩ := p
    rw [line_cons, List.drop_append, List.length_map, ← ih, ← List.map_drop]
    rfl

theorem Ascends.onChannel_drop (h : Ascends q) {n : Nat} {p : Lcid × Bytes} (hp : p ∈ (Bearers.line q).take n)
    (hc : lcid < p.1) : onChannel lcid ((Bearers.line q).drop n) = [] := by
  have hsorted := h.line
  rw [← List.take_append_drop n (Bearers.line q), List.pairwise_append] at hsorted
  refine List.filterMap_eq_nil_iff.2 fun p' hp' => if_neg ?_
  have hle := hsorted.2.2 p hp p' hp'
  intro heq
  rw [heq] at hle
  exact Nat.not_lt_of_le hle hc

end Bearers

namespace SimLayers

open Bearers

/-- The layers after some calls. -/
def replay (l : SimLayers) (cs : List (Call Callback)) : SimLayers := cs.foldl after l

/-- What a call puts on the bearers. -/
def puts (l : SimLayers) : Call Callback → List (Lcid × Bytes)
  | .writeSdu lcid sdu _ => [(lcid, sdu)]
  | .detach _ => if l.emm = .deregistered then [] else [(Lcid.srb1, detachRequest)]
  | _ => []

/-- What a call sends. -/
def sends (l : SimLayers) : Call Callback → List (Lcid × Bytes)
  | .macTick _ =>
    if l.Stuck ∨ l.bearers.connected = false then [] else (line l.bearers.queues).take l.settings.grantPerTick
  | _ => []

/-- What calls put or send, one after the other. -/
def along (f : SimLayers → Call Callback → List (Lcid × Bytes)) (l : SimLayers) :
    List (Call Callback) → List (Lcid × Bytes)
  | [] => []
  | c :: cs => f l c ++ along f (l.after c) cs

/-- What calls put on the bearers. -/
def put : SimLayers → List (Call Callback) → List (Lcid × Bytes) := along puts

/-- What calls send. -/
def sent : SimLayers → List (Call Callback) → List (Lcid × Bytes) := along sends

variable {l : SimLayers} {c : Call Callback} {lcid : Lcid}

theorem along_append (f : SimLayers → Call Callback → List (Lcid × Bytes)) (l : SimLayers)
    (cs ds : List (Call Callback)) : along f l (cs ++ ds) = along f l cs ++ along f (l.replay cs) ds := by
  induction cs generalizing l with
  | nil => rfl
  | cons c cs ih => rw [List.cons_append, along, ih, along, List.append_assoc]; rfl

/-- What a call does to the bearers: it adds a packet, or sends the front of the line, or leaves the packets
alone. -/
inductive Trades (l : SimLayers) (c : Call Callback) : Prop
  | add (lcid : Lcid) (pdu : Bytes) :
      l.puts c = [(lcid, pdu)] → l.sends c = [] → (l.after c).bearers = l.bearers.push lcid pdu → Trades l c
  | send (n : Nat) :
      l.puts c = [] → l.sends c = (line l.bearers.queues).take n →
        (l.after c).bearers = (l.bearers.transmit n).2 → Trades l c
  | leave (connected : Bool) :
      l.puts c = [] → l.sends c = [] → (l.after c).bearers = { l.bearers with connected := connected } →
        Trades l c

theorem trades_macTick (l : SimLayers) (tti : UInt32) : Trades l (.macTick tti) := by
  by_cases hs : l.Stuck
  · refine .leave l.bearers.connected rfl (if_pos (.inl hs)) ?_
    rw [after, tick, if_pos hs]
  · cases hc : l.bearers.connected with
    | true =>
      refine .send l.settings.grantPerTick rfl (if_neg (by simp [hs, hc])) ?_
      rw [after, tick, if_neg hs]
      exact if_pos hc
    | false =>
      refine .leave l.bearers.connected rfl (if_pos (.inr hc)) ?_
      rw [after, tick, if_neg hs]
      exact if_neg (by simp [hc])

theorem bearers_batch (l : SimLayers) : l.batch.bearers = l.bearers := by
  unfold batch
  split
  · split <;> rfl
  · split <;> rfl
  · rfl
  · rfl

theorem trades (l : SimLayers) (c : Call Callback) : Trades l c := by
  cases c with
  | macTick tti => exact trades_macTick l tti
  | writeSdu lcid sdu blocking => exact .add lcid sdu rfl rfl rfl
  | detach switchOff =>
    by_cases he : l.emm = .deregistered
    · refine .leave l.bearers.connected (if_pos he) rfl ?_
      rw [after, if_pos he]
    · refine .add Lcid.srb1 detachRequest (if_neg he) rfl ?_
      rw [after, if_neg he]
  | attach cause =>
    refine .leave l.bearers.connected rfl rfl ?_
    rw [after]
    split <;> rfl
  | nasBatch => exact .leave l.bearers.connected rfl rfl l.bearers_batch
  | captureBegun layer => cases layer <;> exact .leave l.bearers.connected rfl rfl rfl
  | selectDone selected => exact .leave selected rfl rfl rfl
  | rrcStop => exact .leave false rfl rfl rfl
  | _ => exact .leave l.bearers.connected rfl rfl rfl

theorem Trades.ascends (h : Trades l c) (hl : Ascends l.bearers.queues) :
    Ascends (l.after c).bearers.queues := by
  cases h with
  | add lcid pdu _ _ hb =>
    rw [hb]
    exact hl.enqueue
  | send n _ _ hb =>
    rw [hb]
    exact hl.take n
  | leave connected _ _ hb =>
    rw [hb]
    exact hl

/-- A call adds on each channel what it puts, and takes what it sends. -/
theorem Trades.conserved (h : Trades l c) (hl : Ascends l.bearers.queues) (lcid : Lcid) :
    onChannel lcid (line l.bearers.queues) ++ onChannel lcid (l.puts c) =
      onChannel lcid (l.sends c) ++ onChannel lcid (line (l.after c).bearers.queues) := by
  cases h with
  | add d pdu hp hs hb =>
    rw [hp, hs, hb]
    exact (onChannel_enqueue hl).symm
  | send n hp hs hb =>
    have hq : line (l.after c).bearers.queues = (line l.bearers.queues).drop n := by
      rw [hb]
      exact line_take n _
    rw [hp, hs, hq, ← onChannel_append, ← onChannel_append, List.take_append_drop, List.append_nil]
  | leave connected hp hs hb =>
    rw [hp, hs, hb]
    exact List.append_nil _

theorem Trades.sentPackets (h : Trades l c) :
    (l.after c).bearers.sentPackets = l.bearers.sentPackets + (l.sends c).length := by
  cases h with
  | add d pdu _ hs hb =>
    rw [hs, hb]
    rfl
  | send n _ hs hb =>
    rw [hs, hb]
    show _ + (take n l.bearers.queues).1.length = _
    rw [take_fst, List.length_map]
  | leave connected _ hs hb =>
    rw [hs, hb]
    rfl

theorem Trades.sentBytes (h : Trades l c) :
    (l.after c).bearers.sentBytes = l.bearers.sentBytes + ((l.sends c).map (·.2)).flatten.length := by
  cases h with
  | add d pdu _ hs hb =>
    rw [hs, hb]
    rfl
  | send n _ hs hb =>
    rw [hs, hb]
    show _ + (take n l.bearers.queues).1.flatten.length = _
    rw [take_fst]
  | leave connected _ hs hb =>
    rw [hs, hb]
    rfl

theorem ascends_replay (hl : Ascends l.bearers.queues) (cs : List (Call Callback)) :
    Ascends (l.replay cs).bearers.queues := by
  induction cs generalizing l with
  | nil => exact hl
  | cons c cs ih => exact ih ((trades l c).ascends hl)

/-- What waits on a channel and what is put there is sent, in order, or waits then. -/
theorem conserved (hl : Ascends l.bearers.queues) (cs : List (Call Callback)) (lcid : Lcid) :
    l.bearers.waiting lcid ++ onChannel lcid (l.put cs) =
      onChannel lcid (l.sent cs) ++ (l.replay cs).bearers.waiting lcid := by
  rw [waiting_eq hl, waiting_eq (ascends_replay hl cs)]
  induction cs generalizing l with
  | nil => exact List.append_nil _
  | cons c cs ih =>
    have hc := (trades l c).conserved hl lcid
    have hcs := ih ((trades l c).ascends hl)
    rw [put, along, onChannel_append, ← List.append_assoc, hc, List.append_assoc]
    rw [put] at hcs
    rw [hcs, sent, along, onChannel_append, List.append_assoc]
    rfl

/-- The count of the packets sent is that of the packets that calls have sent. -/
theorem sentPackets_replay (l : SimLayers) (cs : List (Call Callback)) :
    (l.replay cs).bearers.sentPackets = l.bearers.sentPackets + (l.sent cs).length := by
  induction cs generalizing l with
  | nil => rfl
  | cons c cs ih =>
    have hcs := ih (l.after c)
    rw [(trades l c).sentPackets, Nat.add_assoc, ← List.length_append] at hcs
    exact hcs

theorem sentBytes_replay (l : SimLayers) (cs : List (Call Callback)) :
    (l.replay cs).bearers.sentBytes = l.bearers.sentBytes + ((l.sent cs).map (·.2)).flatten.length := by
  induction cs generalizing l with
  | nil => rfl
  | cons c cs ih =>
    have hcs := ih (l.after c)
    rw [(trades l c).sentBytes, Nat.add_assoc, ← List.length_append, ← List.flatten_append,
      ← List.map_append] at hcs
    exact hcs

/-! ## Detaching -/

/-- A detach under way ends by a switch-off, which puts a packet of its own on the channel of signalling,
or in a batch, if nothing waits there. -/
theorem emm_after (hl : l.emm = .deregisteredInitiated) (hc : (l.after c).emm ≠ .deregisteredInitiated) :
    (l.after c).emm = .deregistered ∧
      (c = .detach true ∧ l.puts c = [(Lcid.srb1, detachRequest)] ∨
        c = .nasBatch ∧ l.bearers.waiting Lcid.srb1 = []) := by
  have hne : l.emm ≠ .deregistered := by rw [hl]; nofun
  cases c with
  | detach switchOff =>
    rw [after, if_neg hne] at hc ⊢
    cases switchOff with
    | true => exact ⟨rfl, .inl ⟨rfl, if_neg hne⟩⟩
    | false => exact absurd rfl hc
  | nasBatch =>
    rw [after, batch, hl] at hc ⊢
    dsimp only at hc ⊢
    split
    · rename_i hd
      rw [if_pos hd] at hc
      exact absurd hl hc
    · rename_i hd
      exact ⟨rfl, .inr ⟨rfl, by simpa [hasData] using hd⟩⟩
  | attach cause =>
    rw [after, if_neg hne] at hc
    exact absurd hl hc
  | macTick tti =>
    rw [after, tick] at hc
    split at hc
    · exact absurd hl hc
    · exact absurd hl hc
  | captureBegun layer => cases layer <;> exact absurd hl hc
  | _ => exact absurd hl hc

end SimLayers

end LteUe
