import LteUe.Bridge.ResultSlot
import LteUe.Proofs.Runs
import Mathlib.Data.Finset.Card

/-!
# Handing over a result

A slot and its writers hold the ends of a channel with room for one value: each writer has an end through which a
value can come, the slot has the end at which it is taken, and until it is used up also one through which a value
can come. Every operation on an end is one step, so a put is two (the value goes in, or not, and the end goes) and a
wait is three (the slot's own end goes, the channel gives its answer, and the other end goes). In every order of
these steps (`Handoff.Step`) the value handed over is the first one put, and a reader without one has been left by
all writers or has run out of time (`Handoff.handed_over`).
-/

namespace LteUe

variable {α : Type}

namespace ResultSlot

/-- A value goes in, if there is room and a reader. Its writer is not used up yet. -/
def send (s : ResultSlot α) (a : α) : Bool × ResultSlot α :=
  if s.reading && s.value.isNone then (true, { s with value := some a }) else (false, s)

theorem put_eq (s : ResultSlot α) (a : α) : s.put a = ((s.send a).1, (s.send a).2.dropWriter) := by
  unfold put send
  split <;> rfl

/-- The slot once the reader has taken what it holds. -/
def taken (s : ResultSlot α) : ResultSlot α := { s with value := none }

end ResultSlot

/-- Where a reader is. -/
inductive Reader (α : Type) where
  /-- The slot has not been used up, so writers can still be made. -/
  | holding
  /-- It waits, perhaps for a limited time. -/
  | waiting (timed : Bool)
  /-- It has got its answer, and its end is still there. -/
  | leaving (r : Except SlotError α)
  /-- The slot is being dropped. -/
  | dropping
  | gone

/-- The reader has not taken a value, and its end has not gone. -/
def Reader.IsOpen : Reader α → Prop
  | holding | waiting _ | dropping | leaving (.error _) => True
  | leaving (.ok _) | gone => False

/-- A slot, its reader, and its writers, which are told apart by numbers. -/
structure Handoff (α : Type) where
  slot : ResultSlot α := .empty
  /-- Whether the slot has its own end through which a value could come. -/
  ownEnd : Bool := true
  reader : Reader α := .holding
  /-- The writers made so far. -/
  made : Finset Nat := ∅
  /-- Those whose ends are there. -/
  live : Finset Nat := ∅
  /-- Those that have put. -/
  spent : Finset Nat := ∅

namespace Handoff

/-- What the reader sees of the slot: an end of its own counts as a writer. -/
def channel (x : Handoff α) : ResultSlot α := if x.ownEnd then x.slot.addWriter else x.slot

/-- What happens in one step. -/
inductive Event (α : Type) where
  | made (w : Nat)
  /-- Writer `w` puts `a`, and is told whether it went in. -/
  | put (w : Nat) (a : α) (ok : Bool)
  /-- A put is over, and its writer is used up. -/
  | used (w : Nat)
  | dropped (w : Nat)
  | began (timed : Bool)
  | decided (r : Except SlotError α)
  | returned (r : Except SlotError α)
  /-- The drop of the slot begins. -/
  | discarded
  /-- The drop of the slot is over. -/
  | hungUp

/-- The steps of the reader and the writers. -/
inductive Step : Handoff α → Event α → Handoff α → Prop
  | make {x : Handoff α} {w : Nat} : x.reader = .holding → w ∉ x.made →
      Step x (.made w) { x with
        slot := x.slot.addWriter, made := insert w x.made, live := insert w x.live }
  | send {x : Handoff α} {w : Nat} (a : α) : w ∈ x.live → w ∉ x.spent →
      Step x (.put w a (x.slot.send a).1) { x with slot := (x.slot.send a).2, spent := insert w x.spent }
  | use {x : Handoff α} {w : Nat} : w ∈ x.live → w ∈ x.spent →
      Step x (.used w) { x with slot := x.slot.dropWriter, live := x.live.erase w }
  | drop {x : Handoff α} {w : Nat} : w ∈ x.live → w ∉ x.spent →
      Step x (.dropped w) { x with slot := x.slot.dropWriter, live := x.live.erase w }
  | wait {x : Handoff α} (timed : Bool) : x.reader = .holding →
      Step x (.began timed) { x with ownEnd := false, reader := .waiting timed }
  | receive {x : Handoff α} {timed : Bool} {r : Except SlotError α} :
      x.reader = .waiting timed → x.channel.wait = .over r →
        Step x (.decided r) { x with slot := x.slot.taken, reader := .leaving r }
  | expire {x : Handoff α} : x.reader = .waiting true →
      Step x (.decided x.channel.waitTimeout)
        { x with slot := x.slot.taken, reader := .leaving x.channel.waitTimeout }
  | leave {x : Handoff α} {r : Except SlotError α} : x.reader = .leaving r →
      Step x (.returned r) { x with slot := x.slot.dropReader, reader := .gone }
  | discard {x : Handoff α} : x.reader = .holding →
      Step x .discarded { x with ownEnd := false, reader := .dropping }
  | hangUp {x : Handoff α} : x.reader = .dropping →
      Step x .hungUp { x with slot := x.slot.dropReader, reader := .gone }

/-! ## Histories -/

/-- What an event says of a put. -/
def Event.put? : Event α → Option (Nat × α × Bool)
  | put w a ok => some (w, a, ok)
  | _ => none

/-- The puts, in their order, each with its writer, its value and its answer. -/
def puts (t : List (Event α)) : List (Nat × α × Bool) := t.filterMap Event.put?

/-- A put has gone in. -/
def Filled (t : List (Event α)) : Prop := ∃ w a, (w, a, true) ∈ puts t

/-- The end of writer `w` has gone, by a put or without one. -/
def Left (t : List (Event α)) (w : Nat) : Prop := .used w ∈ t ∨ .dropped w ∈ t

/-- Every writer has gone. -/
def Deserted (t : List (Event α)) : Prop := ∀ w, .made w ∈ t → Left t w

/-- Of the puts of `t` only the first has gone in, and its value is what is there; there is none if there has been
no put. -/
def Keeps (t : List (Event α)) (value : Option α) : Prop :=
  value = none ∧ puts t = [] ∨
    ∃ w a rest, value = some a ∧ puts t = (w, a, true) :: rest ∧ ∀ p ∈ rest, p.2.2 = false

variable {x y : Handoff α} {t l : List (Event α)} {e : Event α} {a : α} {v : Option α}

theorem puts_snoc (t : List (Event α)) (e : Event α) : puts (t ++ [e]) = puts t ++ e.put?.toList :=
  filterMap_snoc ..

theorem Keeps.filled_iff (h : Keeps t v) : Filled t ↔ v ≠ none := by
  obtain ⟨rfl, h⟩ | ⟨w, a, rest, rfl, h, -⟩ := h
  · simp [Filled, h]
  · simp only [ne_eq, reduceCtorEq, not_false_eq_true, iff_true]
    exact ⟨w, a, by simp [h]⟩

theorem Keeps.mem_iff (h : Keeps t v) : (∃ w, (w, a, true) ∈ puts t) ↔ v = some a := by
  obtain ⟨rfl, h⟩ | ⟨w, b, rest, rfl, h, hr⟩ := h
  · simp [h]
  · rw [h, Option.some.injEq]
    constructor
    · rintro ⟨w', hw'⟩
      obtain hw' | hw' := List.mem_cons.1 hw'
      · exact (congrArg (·.2.1) hw').symm
      · cases hr _ hw'
    · rintro rfl
      exact ⟨w, List.mem_cons_self ..⟩

theorem Keeps.quiet (h : Keeps t v) (he : e.put? = none) : Keeps (t ++ [e]) v := by
  unfold Keeps
  rw [puts_snoc, he, Option.toList_none, List.append_nil]
  exact h

theorem Keeps.send {s : ResultSlot α} (h : Keeps t s.value) (hr : s.reading = true) (w : Nat) (a : α) :
    Keeps (t ++ [.put w a (s.send a).1]) (s.send a).2.value := by
  unfold Keeps ResultSlot.send
  rw [puts_snoc]
  obtain ⟨hv, h⟩ | ⟨w', b, rest, hv, h, hrest⟩ := h
  · exact .inr ⟨w, a, [], by simp [hr, hv, h, Event.put?]⟩
  · refine .inr ⟨w', b, rest ++ [(w, a, false)], ?_⟩
    simp [hr, hv, h, Event.put?]
    grind

/-! ## Writers -/

/-- Who has an end, and that the slot counts them. -/
structure Peopled (t : List (Event α)) (x : Handoff α) : Prop where
  writers : x.slot.writers = x.live.card
  mem_made (w : Nat) : w ∈ x.made ↔ .made w ∈ t
  mem_live (w : Nat) : w ∈ x.live ↔ .made w ∈ t ∧ ¬ Left t w
  made_of_left (w : Nat) : Left t w → .made w ∈ t

theorem left_snoc (w : Nat) : Left (t ++ [e]) w ↔ Left t w ∨ e = .used w ∨ e = .dropped w := by
  simp only [Left, List.mem_append, List.mem_singleton, eq_comm (b := e)]
  tauto

/-- Events that are not about the ends of writers. -/
def Event.IsAside : Event α → Prop
  | made _ | used _ | dropped _ => False
  | _ => True

theorem Peopled.aside (h : Peopled t x) (he : e.IsAside) (hw : y.slot.writers = x.slot.writers)
    (hm : y.made = x.made) (hl : y.live = x.live) : Peopled (t ++ [e]) y := by
  have hmade (w : Nat) : .made w ∈ t ++ [e] ↔ .made w ∈ t := by
    rw [List.mem_append, List.mem_singleton, or_iff_left]
    rintro rfl
    exact he
  have hleft (w : Nat) : Left (t ++ [e]) w ↔ Left t w := by
    rw [left_snoc, or_iff_left]
    rintro (rfl | rfl) <;> exact he
  constructor
  · rw [hw, hl, h.writers]
  · intro w
    rw [hm, hmade, h.mem_made]
  · intro w
    rw [hl, hmade, hleft, h.mem_live]
  · intro w hw
    exact (hmade w).2 (h.made_of_left w ((hleft w).1 hw))

theorem Peopled.leave (h : Peopled t x) {w : Nat} (hw : w ∈ x.live) (he : e = .used w ∨ e = .dropped w) :
    Peopled (t ++ [e]) { x with slot := x.slot.dropWriter, live := x.live.erase w } := by
  have hmade (v : Nat) : .made v ∈ t ++ [e] ↔ .made v ∈ t := by
    obtain rfl | rfl := he <;> simp
  have hleft (v : Nat) : Left (t ++ [e]) v ↔ Left t v ∨ v = w := by
    rw [left_snoc]
    obtain rfl | rfl := he <;> simp [eq_comm]
  constructor
  · show x.slot.writers - 1 = (x.live.erase w).card
    rw [Finset.card_erase_of_mem hw, h.writers]
  · intro v
    rw [hmade]
    exact h.mem_made v
  · intro v
    rw [Finset.mem_erase, hmade, hleft, h.mem_live]
    tauto
  · intro v hv
    rw [hmade]
    obtain hv | rfl := (hleft v).1 hv
    · exact h.made_of_left v hv
    · exact ((h.mem_live v).1 hw).1

theorem Peopled.make (h : Peopled t x) {w : Nat} (hw : w ∉ x.made) :
    Peopled (t ++ [.made w])
      { x with slot := x.slot.addWriter, made := insert w x.made, live := insert w x.live } := by
  have hnew : .made w ∉ t := fun hm => hw ((h.mem_made w).2 hm)
  have hmade (v : Nat) : .made v ∈ t ++ [.made w] ↔ v = w ∨ .made v ∈ t := by
    simp [or_comm]
  have hleft (v : Nat) : Left (t ++ [.made w]) v ↔ Left t v := by
    simp [left_snoc]
  constructor
  · show x.slot.writers + 1 = (insert w x.live).card
    rw [Finset.card_insert_of_notMem fun hl => hnew ((h.mem_live w).1 hl).1, h.writers]
  · intro v
    rw [Finset.mem_insert, hmade, h.mem_made]
  · intro v
    rw [Finset.mem_insert, hmade, hleft, h.mem_live]
    constructor
    · rintro (rfl | ⟨hv, hn⟩)
      · exact ⟨.inl rfl, fun hl => hnew (h.made_of_left v hl)⟩
      · exact ⟨.inr hv, hn⟩
    · tauto
  · intro v hv
    exact (hmade v).2 (.inr (h.made_of_left v ((hleft v).1 hv)))

theorem Peopled.step (h : Peopled t x) (hs : Step x e y) : Peopled (t ++ [e]) y := by
  cases hs with
  | make _ hw => exact h.make hw
  | send a _ _ =>
    refine h.aside trivial ?_ rfl rfl
    show (x.slot.send a).2.writers = x.slot.writers
    unfold ResultSlot.send
    split <;> rfl
  | use hw _ => exact h.leave hw (.inl rfl)
  | drop hw _ => exact h.leave hw (.inr rfl)
  | wait | receive | expire | leave | discard | hangUp => exact h.aside trivial rfl rfl rfl

theorem Peopled.deserted_iff (h : Peopled t x) : Deserted t ↔ x.slot.writers = 0 := by
  rw [h.writers, Finset.card_eq_zero, Finset.eq_empty_iff_forall_notMem]
  simp only [h.mem_live, not_and, not_not]
  rfl

theorem peopled (h : Run Step ({} : Handoff α) t x) : Peopled t x := by
  induction h with
  | nil => exact ⟨rfl, by simp, by simp, by simp [Left]⟩
  | snoc _ hs ih => exact ih.step hs

/-! ## The reader -/

theorem wait_eq_over_iff {s : ResultSlot α} {r : Except SlotError α} :
    s.wait = .over r ↔ (∃ a, s.value = some a ∧ r = .ok a) ∨
      s.value = none ∧ s.writers = 0 ∧ r = .error .abandoned := by
  unfold ResultSlot.wait
  cases s.value with
  | some a => simp [eq_comm]
  | none => by_cases hw : s.writers = 0 <;> simp [hw, eq_comm]

theorem waitTimeout_eq (s : ResultSlot α) : (∃ a, s.value = some a ∧ s.waitTimeout = .ok a) ∨
    s.value = none ∧ s.writers = 0 ∧ s.waitTimeout = .error .abandoned ∨
      s.value = none ∧ s.writers ≠ 0 ∧ s.waitTimeout = .error .timeout := by
  unfold ResultSlot.waitTimeout ResultSlot.wait
  cases s.value with
  | some a => simp
  | none => by_cases hw : s.writers = 0 <;> simp [hw]

/-- What a slot has to answer a reader that waits, perhaps for a limited time. -/
inductive Verdict (s : ResultSlot α) (timed : Bool) : Except SlotError α → Prop
  | value {a : α} : s.value = some a → Verdict s timed (.ok a)
  | abandoned : s.value = none → s.writers = 0 → Verdict s timed (.error .abandoned)
  | timeout : s.value = none → s.writers ≠ 0 → timed = true → Verdict s timed (.error .timeout)

/-- What the reader has done so far. -/
def Reads (t : List (Event α)) : Reader α → Prop
  | .holding | .dropping => True
  | .waiting timed => .began timed ∈ t
  | .leaving r => .decided r ∈ t
  | .gone => .hungUp ∈ t ∨ ∃ r, .returned r ∈ t

theorem Reads.snoc {r : Reader α} (h : Reads t r) : Reads (t ++ [e]) r := by
  cases r <;> simp only [Reads, List.mem_append] at h ⊢
  · exact .inl h
  · exact .inl h
  · exact h.imp .inl fun ⟨r, h⟩ => ⟨r, .inl h⟩

/-- How the slot goes with the reader, and what the slot holds. -/
structure Sound (t : List (Event α)) (x : Handoff α) : Prop where
  ownEnd : x.ownEnd = true → x.reader = .holding
  reading : x.slot.reading = false ↔ x.reader = .gone
  keeps : x.reader.IsOpen → Keeps t x.slot.value
  reads : Reads t x.reader

theorem Sound.channel_eq (h : Sound t x) {timed : Bool} (hr : x.reader = .waiting timed) : x.channel = x.slot := by
  have ho : x.ownEnd = false := by
    rw [← Bool.not_eq_true]
    intro ho
    cases hr.symm.trans (h.ownEnd ho)
  simp [channel, ho]

theorem Sound.decided (h : Sound t x) {r : Except SlotError α} (hs : Step x (.decided r) y) :
    ∃ timed, x.reader = .waiting timed ∧ Verdict x.slot timed r ∧
      y = { x with slot := x.slot.taken, reader := .leaving r } := by
  generalize he : Event.decided r = e at hs
  cases hs with
  | @receive timed r' hr hw =>
    cases he
    rw [h.channel_eq hr] at hw
    refine ⟨timed, hr, ?_, rfl⟩
    obtain ⟨a, hv, rfl⟩ | ⟨hv, hn, rfl⟩ := wait_eq_over_iff.1 hw
    · exact .value hv
    · exact .abandoned hv hn
  | expire hr =>
    cases he
    rw [h.channel_eq hr]
    refine ⟨true, hr, ?_, rfl⟩
    obtain ⟨a, hv, hw⟩ | ⟨hv, hw, hw'⟩ | ⟨hv, hw, hw'⟩ := waitTimeout_eq x.slot
    · rw [hw]
      exact .value hv
    · rw [hw']
      exact .abandoned hv hw
    · rw [hw']
      exact .timeout hv hw rfl
  | _ => cases he

theorem Sound.aside (h : Sound t x) (he : e.put? = none) (ho : y.ownEnd = x.ownEnd) (hr : y.reader = x.reader)
    (hv : y.slot.value = x.slot.value) (hg : y.slot.reading = x.slot.reading) : Sound (t ++ [e]) y := by
  constructor
  · rw [ho, hr]
    exact h.ownEnd
  · rw [hg, hr]
    exact h.reading
  · rw [hr, hv]
    exact fun hopen => (h.keeps hopen).quiet he
  · rw [hr]
    exact h.reads.snoc

theorem Sound.send (h : Sound t x) (w : Nat) (a : α) :
    Sound (t ++ [.put w a (x.slot.send a).1]) { x with slot := (x.slot.send a).2, spent := insert w x.spent } := by
  have hreading : (x.slot.send a).2.reading = x.slot.reading := by
    unfold ResultSlot.send
    split <;> rfl
  refine ⟨h.ownEnd, ?_, ?_, h.reads.snoc⟩
  · rw [← h.reading, ← hreading]
  · intro hopen
    refine (h.keeps hopen).send ?_ w a
    rw [← Bool.not_eq_false, h.reading]
    intro hg
    rw [hg] at hopen
    exact hopen

theorem Sound.decide (h : Sound t x) {timed : Bool} {r : Except SlotError α} (hr : x.reader = .waiting timed)
    (hv : Verdict x.slot timed r) :
    Sound (t ++ [.decided r]) { x with slot := x.slot.taken, reader := .leaving r } := by
  have hk : Keeps t x.slot.value := h.keeps (by rw [hr]; trivial)
  refine ⟨fun ho => ?_, ?_, fun hopen => ?_, by simp [Reads]⟩
  · cases hr.symm.trans (h.ownEnd ho)
  · show x.slot.reading = false ↔ _
    rw [h.reading, hr]
    simp
  · -- A reader that has got no value has seen none.
    cases hv with
    | value => exact hopen.elim
    | abandoned hn | timeout hn =>
      rw [hn] at hk
      exact hk.quiet rfl

theorem Sound.step (h : Sound t x) (hs : Step x e y) : Sound (t ++ [e]) y := by
  cases hs with
  | make | use | drop => exact h.aside rfl rfl rfl rfl rfl
  | send a _ _ => exact h.send _ a
  | wait timed hr =>
    refine ⟨nofun, ?_, fun _ => (h.keeps (by rw [hr]; trivial)).quiet rfl, by simp [Reads]⟩
    rw [h.reading, hr]
    simp
  | receive hr hw =>
    obtain ⟨_, hr', hv, -⟩ := h.decided (.receive hr hw)
    exact h.decide hr' hv
  | expire hr =>
    obtain ⟨_, hr', hv, -⟩ := h.decided (.expire hr)
    exact h.decide hr' hv
  | leave hr =>
    refine ⟨fun ho => ?_, by simp [ResultSlot.dropReader], nofun, .inr ⟨_, List.mem_concat_self⟩⟩
    cases hr.symm.trans (h.ownEnd ho)
  | discard hr =>
    refine ⟨nofun, ?_, fun _ => (h.keeps (by rw [hr]; trivial)).quiet rfl, trivial⟩
    rw [h.reading, hr]
    simp
  | hangUp hr =>
    refine ⟨fun ho => ?_, by simp [ResultSlot.dropReader], nofun, .inl (by simp)⟩
    cases hr.symm.trans (h.ownEnd ho)

theorem sound (h : Run Step ({} : Handoff α) t x) : Sound t x := by
  induction h with
  | nil => exact ⟨fun _ => rfl, by simp [ResultSlot.empty], fun _ => .inl ⟨rfl, rfl⟩, trivial⟩
  | snoc _ hs ih => exact ih.step hs

/-! ## The theorem -/

/-- The reader takes a value, or its end goes. -/
def Event.EndsReading : Event α → Prop
  | decided (.ok _) | returned _ | hungUp => True
  | _ => False

/-- A wait or a drop of the slot is over. -/
def Event.UsesUp : Event α → Prop
  | returned _ | hungUp => True
  | _ => False

/-- What is promised of a run `t` that ends in `x`. -/
structure HandedOver (t : List (Event α)) (x : Handoff α) : Prop where
  /-- Until the reader takes a value or is gone, the first put goes in and no other does. -/
  first : ∀ l m, t = l ++ m → (∀ e ∈ l, ¬ e.EndsReading) →
    puts l = [] ∨ ∃ w a rest, puts l = (w, a, true) :: rest ∧ ∀ p ∈ rest, p.2.2 = false
  /-- The reader gets a value exactly if it has been put, whether writers are left or not. -/
  value : ∀ l r m, t = l ++ .decided r :: m → ∀ a, r = .ok a ↔ ∃ w, (w, a, true) ∈ puts l
  /-- It is told that it has been left exactly if all writers have gone, and no put went in. -/
  abandoned : ∀ l r m, t = l ++ .decided r :: m → (r = .error .abandoned ↔ Deserted l ∧ ¬ Filled l)
  /-- It runs out of time only in a wait with a limit, while a writer is left and no put has gone in. -/
  timeout : ∀ l r m, t = l ++ .decided r :: m → r = .error .timeout →
    .began true ∈ l ∧ ¬ Deserted l ∧ ¬ Filled l
  /-- A wait returns what the reader was told. -/
  returned : ∀ l r m, t = l ++ .returned r :: m → .decided r ∈ l
  /-- No put goes in once the slot is used up. -/
  refused : ∀ l e m, t = l ++ e :: m → e.UsesUp → ∀ p ∈ puts m, p.2.2 = false
  /-- When the reader looks, the slot's own end has gone. -/
  alone : ∀ timed, x.reader = .waiting timed → x.channel = x.slot
  /-- A wait can end unless it has no limit, a writer is left, and no put has gone in. -/
  ends : ∀ timed, x.reader = .waiting timed →
    ((∃ r y, Run Step x [.decided r, .returned r] y) ↔ Filled t ∨ Deserted t ∨ timed = true)

theorem Sound.isOpen (h : Sound t x) (ht : ∀ e ∈ t, ¬ e.EndsReading) : x.reader.IsOpen := by
  have hr := h.reads
  cases hx : x.reader with
  | holding | waiting | dropping => trivial
  | leaving r =>
    rw [hx] at hr
    cases r with
    | ok a => exact ht _ hr trivial
    | error => trivial
  | gone =>
    rw [hx] at hr
    obtain hr | ⟨r, hr⟩ := hr
    · exact ht _ hr trivial
    · exact ht _ hr trivial

theorem Step.gone (hs : Step x e y) (hr : x.reader = .gone) (hg : x.slot.reading = false) :
    y.reader = .gone ∧ y.slot.reading = false ∧ ∀ p, e.put? = some p → p.2.2 = false := by
  cases hs with
  | make hr' | wait _ hr' | receive hr' | expire hr' | leave hr' | discard hr' | hangUp hr' => simp [hr] at hr'
  | send a => simp [ResultSlot.send, Event.put?, hr, hg]
  | use | drop => exact ⟨hr, hg, nofun⟩

theorem refused_of_gone (h : Run Step x t y) (hr : x.reader = .gone) (hg : x.slot.reading = false) :
    (∀ p ∈ puts t, p.2.2 = false) ∧ y.reader = .gone ∧ y.slot.reading = false := by
  induction h with
  | nil => exact ⟨by simp [puts], hr, hg⟩
  | snoc _ hs ih =>
    obtain ⟨hp, hr, hg⟩ := ih
    obtain ⟨hr', hg', he⟩ := hs.gone hr hg
    refine ⟨fun p hm => ?_, hr', hg'⟩
    rw [puts_snoc, List.mem_append, Option.mem_toList] at hm
    exact hm.elim (hp p) (he p)

theorem Step.of_usesUp (hs : Step x e y) (he : e.UsesUp) : y.reader = .gone ∧ y.slot.reading = false := by
  cases hs with
  | leave | hangUp => exact ⟨rfl, rfl⟩
  | _ => exact he.elim

/-- The answer that a reader gets is one to what has been done so far. -/
theorem decided_of_run (h : Run Step ({} : Handoff α) t x) {r : Except SlotError α} (hs : Step x (.decided r) y) :
    ∃ timed, .began timed ∈ t ∧ Keeps t x.slot.value ∧ Verdict x.slot timed r := by
  have hx := sound h
  obtain ⟨timed, hr, hv, -⟩ := hx.decided hs
  have hb := hx.reads
  have hk := hx.keeps
  rw [hr] at hb hk
  exact ⟨timed, hb, hk trivial, hv⟩

theorem ends_iff (h : Run Step ({} : Handoff α) t x) {timed : Bool} (hr : x.reader = .waiting timed) :
    (∃ r y, Run Step x [.decided r, .returned r] y) ↔ Filled t ∨ Deserted t ∨ timed = true := by
  have hx := sound h
  have hk : Keeps t x.slot.value := hx.keeps (by rw [hr]; trivial)
  rw [hk.filled_iff, (peopled h).deserted_iff]
  constructor
  · rintro ⟨r, y, hrun⟩
    obtain ⟨z, hs, -⟩ := run_cons_iff.1 hrun
    obtain ⟨timed', hr', hv, -⟩ := hx.decided hs
    obtain rfl : timed = timed' := by simpa [hr] using hr'
    cases hv with
    | value hv => exact .inl (by simp [hv])
    | abandoned _ hw => exact .inr (.inl hw)
    | timeout _ _ ht => exact .inr (.inr ht)
  · intro hend
    have leave {r : Except SlotError α} {z : Handoff α} (hs : Step x (.decided r) z)
        (hz : z.reader = .leaving r) : ∃ r y, Run Step x [.decided r, .returned r] y :=
      ⟨r, _, .cons hs (run_singleton_iff.2 (.leave hz))⟩
    have hwait : x.slot.wait = x.channel.wait := by rw [hx.channel_eq hr]
    cases hv : x.slot.value with
    | some a => exact leave (.receive hr (hwait ▸ wait_eq_over_iff.2 (.inl ⟨a, hv, rfl⟩))) rfl
    | none =>
      obtain hf | hw | rfl := hend
      · exact absurd hv hf
      · exact leave (.receive hr (hwait ▸ wait_eq_over_iff.2 (.inr ⟨hv, hw, rfl⟩))) rfl
      · exact leave (.expire hr) rfl

/-- In every run of a slot with any number of writers, what a reader is told fits what the writers have done. -/
theorem handed_over (h : Run Step ({} : Handoff α) t x) : HandedOver t x where
  first := by
    rintro l m rfl hl
    obtain ⟨y, hy, -⟩ := run_append_iff.1 h
    obtain ⟨-, hp⟩ | ⟨w, a, rest, -, hp, hrest⟩ := (sound hy).keeps ((sound hy).isOpen hl)
    · exact .inl hp
    · exact .inr ⟨w, a, rest, hp, hrest⟩
  value := by
    rintro l r m rfl a
    obtain ⟨y, hy, hm⟩ := run_append_iff.1 h
    obtain ⟨z, hs, -⟩ := run_cons_iff.1 hm
    obtain ⟨timed, -, hk, hv⟩ := decided_of_run hy hs
    rw [hk.mem_iff]
    cases hv <;> simp [*]
  abandoned := by
    rintro l r m rfl
    obtain ⟨y, hy, hm⟩ := run_append_iff.1 h
    obtain ⟨z, hs, -⟩ := run_cons_iff.1 hm
    obtain ⟨timed, -, hk, hv⟩ := decided_of_run hy hs
    rw [hk.filled_iff, (peopled hy).deserted_iff]
    cases hv <;> simp [*]
  timeout := by
    rintro l r m rfl rfl
    obtain ⟨y, hy, hm⟩ := run_append_iff.1 h
    obtain ⟨z, hs, -⟩ := run_cons_iff.1 hm
    obtain ⟨timed, hb, hk, hv⟩ := decided_of_run hy hs
    rw [hk.filled_iff, (peopled hy).deserted_iff]
    cases hv with
    | timeout hn hw ht => exact ⟨ht ▸ hb, hw, by simp [hn]⟩
  returned := by
    rintro l r m rfl
    obtain ⟨y, hy, hm⟩ := run_append_iff.1 h
    obtain ⟨z, hs, -⟩ := run_cons_iff.1 hm
    have hr := (sound hy).reads
    cases hs with
    | leave hl =>
      rw [hl] at hr
      exact hr
  refused := by
    rintro l e m rfl he
    obtain ⟨y, hy, hm⟩ := run_append_iff.1 h
    obtain ⟨z, hs, hz⟩ := run_cons_iff.1 hm
    obtain ⟨hr, hg⟩ := hs.of_usesUp he
    exact (refused_of_gone hz hr hg).1
  alone _ hr := (sound h).channel_eq hr
  ends _ hr := ends_iff h hr

/-- Two writers put, one after the other, a third one is dropped, and only then the reader waits. A fourth writer puts
after the value has been taken and before the wait is over: its value goes in, and is lost. The fifth comes too
late. -/
theorem handed_over_after_the_writers :
    let t : List (Event Nat) := [.made 0, .made 1, .made 2, .put 1 7 true, .put 0 8 false, .used 1, .dropped 2,
      .used 0, .made 3, .made 4, .began false, .decided (.ok 7), .put 3 9 true, .returned (.ok 7), .used 3,
      .put 4 5 false, .used 4]
    ∃ x, Run Step {} t x ∧ HandedOver t x := by
  intro t
  have h : ∃ x, Run Step {} t x :=
    exists_run_cons (.make rfl (by decide)) <| exists_run_cons (.make rfl (by decide)) <|
      exists_run_cons (.make rfl (by decide)) <| exists_run_cons (.send 7 (by decide) (by decide)) <|
      exists_run_cons (.send 8 (by decide) (by decide)) <| exists_run_cons (.use (by decide) (by decide)) <|
      exists_run_cons (.drop (by decide) (by decide)) <| exists_run_cons (.use (by decide) (by decide)) <|
      exists_run_cons (.make rfl (by decide)) <| exists_run_cons (.make rfl (by decide)) <|
      exists_run_cons (.wait false rfl) <| exists_run_cons (.receive rfl rfl) <|
      exists_run_cons (.send 9 (by decide) (by decide)) <| exists_run_cons (.leave rfl) <|
      exists_run_cons (.use (by decide) (by decide)) <| exists_run_cons (.send 5 (by decide) (by decide)) <|
      exists_run_cons (.use (by decide) (by decide)) ⟨_, .nil⟩
  obtain ⟨x, h⟩ := h
  exact ⟨x, h, handed_over h⟩

end Handoff

end LteUe
