import LteUe.Capture.Basic
import LteUe.Proofs.Runs

/-!
# What the sink of a capture is asked

Whoever holds a handle to a capture may write to it, and whoever has opened it may close it, in any order, one at a
time. A sink that is watched keeps a list of what it has been asked. It is asked to take the packets, up to the
first one that it cannot take, or up to the first close, and then to close, once (`Capture.obeys`). A capture
knows nothing of being watched (`Capture.exists_run_watched`).
-/

namespace LteUe

/-- What a sink is asked, and whether it could. -/
inductive Asked where
  | start (path : String) (ok : Bool)
  | write (pdu : Bytes) (ok : Bool)
  | close
deriving DecidableEq

/-- A sink that is watched. -/
structure Watched (S : Type) where
  sink : S
  /-- What it has been asked, oldest first. -/
  asked : List Asked := []

variable {S : Type} [CaptureSink S]

instance : CaptureSink (Watched S) where
  start s path w :=
    let (r, sink, w) := CaptureSink.start s.sink path w
    (r, { sink := sink, asked := s.asked ++ [.start path r.isOk] }, w)
  write s pdu w :=
    let (r, sink, w) := CaptureSink.write s.sink pdu w
    (r, { sink := sink, asked := s.asked ++ [.write pdu r.isOk] }, w)
  close s w :=
    let (sink, w) := CaptureSink.close s.sink w
    ({ sink := sink, asked := s.asked ++ [.close] }, w)

theorem Watched.start_eq (s : Watched S) (path : String) (w : World) : CaptureSink.start s path w =
    let (r, sink, w) := CaptureSink.start s.sink path w
    (r, { sink := sink, asked := s.asked ++ [.start path r.isOk] }, w) := rfl

theorem Watched.write_eq (s : Watched S) (pdu : Bytes) (w : World) : CaptureSink.write s pdu w =
    let (r, sink, w) := CaptureSink.write s.sink pdu w
    (r, { sink := sink, asked := s.asked ++ [.write pdu r.isOk] }, w) := rfl

namespace Capture

/-- What is done with a capture. -/
inductive Event where
  | offered (pdu : Bytes)
  | closed
deriving DecidableEq

/-- The steps. The world may have changed in any way since the last one. -/
inductive Step : Capture S → Event → Capture S → Prop
  | write {c : Capture S} (pdu : Bytes) (w : World) : Step c (.offered pdu) (c.write pdu w).1
  | close {c : Capture S} (w : World) : Step c .closed (c.close w).1

/-- The packet that is offered. -/
def Event.pdu? : Event → Option Bytes
  | offered pdu => some pdu
  | closed => none

/-- The packets that are offered. -/
def offered (l : List Event) : List Bytes := l.filterMap (·.pdu?)

/-- What the sink is asked when the capture is closed: a packet that it cannot take may be the reason. -/
def farewell : Event → List Asked
  | .offered pdu => [.write pdu false, .close]
  | .closed => [.close]

/-- The capture when its sink is no longer watched. -/
def unwatched (c : Capture (Watched S)) : Capture S :=
  { layer := c.layer, sink := c.sink.sink, isOpen := c.isOpen }

/-- A capture with a sink that had been asked `asked` before, after what has been done with it. -/
structure Obeys (c : Capture (Watched S)) (l : List Event) (d : Capture (Watched S)) : Prop where
  /-- As long as it is open, nobody has closed it, and the sink has taken the packets, each once and in their
  order. -/
  taken : d.isOpen = true → .closed ∉ l ∧ d.sink.asked = c.sink.asked ++ (offered l).map (.write · true)
  /-- Once it is not, there is an event at which it was closed: the first close, or the offer of the first packet
  that the sink could not take. Until then it was open. -/
  ended : d.isOpen = false → ∃ u e v b, l = u ++ e :: v ∧ Run Step c u b ∧ b.isOpen = true ∧ .closed ∉ u ∧
    Step b e d ∧ d.sink.asked = c.sink.asked ++ (offered u).map (.write · true) ++ farewell e
  /-- From then on it stays as it is, and its sink is not asked for anything. -/
  stays : d.isOpen = false → ∀ m d', Run Step d m d' → d' = d

variable {c d b : Capture (Watched S)} {e : Event} {l m : List Event} {pdu : Bytes} {w : World}

/-! ## Single steps -/

omit [CaptureSink S] in
theorem offered_snoc (l : List Event) (e : Event) : offered (l ++ [e]) = offered l ++ e.pdu?.toList :=
  filterMap_snoc ..

theorem Step.eq_of_closed {c d : Capture S} (h : Step c e d) (hc : c.isOpen = false) : d = c := by
  cases h with
  | write pdu w => rw [Capture.write, if_neg (by simp [hc])]
  | close w => rw [Capture.close, if_neg (by simp [hc])]

theorem eq_of_closed {c d : Capture S} (h : Run Step c l d) (hc : c.isOpen = false) : d = c := by
  induction h with
  | nil => rfl
  | snoc _ hs ih => exact (hs.eq_of_closed (ih ▸ hc)).trans ih

theorem Step.of_open (h : Step c e d) (hc : c.isOpen = true) :
    (d.isOpen = true ∧ ∃ pdu, e = .offered pdu ∧ d.sink.asked = c.sink.asked ++ [.write pdu true]) ∨
      (d.isOpen = false ∧ d.sink.asked = c.sink.asked ++ farewell e) := by
  cases h with
  | close w =>
    rw [Capture.close, if_pos hc]
    exact .inr ⟨rfl, rfl⟩
  | write pdu w =>
    rw [Capture.write, if_pos hc, Watched.write_eq]
    dsimp only
    generalize CaptureSink.write c.sink.sink pdu w = r
    obtain ⟨r, sink, w'⟩ := r
    cases r with
    | ok _ => exact .inl ⟨hc, pdu, rfl, rfl⟩
    | error text =>
      refine .inr ⟨rfl, ?_⟩
      show (c.sink.asked ++ [.write pdu false]) ++ [.close] = _
      rw [List.append_assoc]
      rfl

/-! ## All that is done -/

theorem obeys (h : Run Step c l d) (hc : c.isOpen = true) : Obeys c l d := by
  induction h with
  | nil =>
    refine ⟨fun _ => ⟨List.not_mem_nil, (List.append_nil _).symm⟩, fun h => ?_, fun h => ?_⟩
    · rw [hc] at h
      cases h
    · rw [hc] at h
      cases h
  | @snoc l b d e hl hs ih =>
    have hstays : d.isOpen = false → ∀ m d', Run Step d m d' → d' = d := fun hd m d' hm => eq_of_closed hm hd
    cases hb : b.isOpen with
    | false =>
      obtain rfl := hs.eq_of_closed hb
      refine ⟨fun h => ?_, fun _ => ?_, hstays⟩
      · rw [hb] at h
        cases h
      · obtain ⟨u, e', v, b', rfl, hend⟩ := ih.ended hb
        exact ⟨u, e', v ++ [e], b', List.append_assoc .., hend⟩
    | true =>
      obtain ⟨hnot, hasked⟩ := ih.taken hb
      obtain ⟨hd, pdu, rfl, hpdu⟩ | ⟨hd, hpdu⟩ := hs.of_open hb
      · refine ⟨fun _ => ⟨by simp [hnot], ?_⟩, fun h => ?_, hstays⟩
        · rw [hpdu, hasked, offered_snoc, List.map_append, List.append_assoc]
          rfl
        · rw [hd] at h
          cases h
      · refine ⟨fun h => ?_, fun _ => ⟨l, e, [], b, rfl, hl, hb, hnot, hs, hasked ▸ hpdu⟩, hstays⟩
        rw [hd] at h
        cases h

/-- The sink of a closed capture has been closed once, after all else. -/
theorem Obeys.closed (h : Obeys c l d) (hd : d.isOpen = false) (hc : .close ∉ c.sink.asked) :
    d.sink.asked.count .close = 1 ∧ d.sink.asked.getLast? = some .close := by
  obtain ⟨u, e, v, b, -, -, -, -, -, hasked⟩ := h.ended hd
  have hu : (((offered u).map (Asked.write · true)).count .close) = 0 := by simp [List.count_eq_zero]
  rw [hasked, List.count_append, List.count_append, List.count_eq_zero.2 hc, hu]
  cases e <;> exact ⟨rfl, by simp [farewell, List.getLast?_append]⟩

/-! ## Captures that are not watched -/

theorem unwatched_write (c : Capture (Watched S)) (pdu : Bytes) (w : World) :
    (c.write pdu w).1.unwatched = (c.unwatched.write pdu w).1 := by
  obtain ⟨layer, ⟨sink, asked⟩, isOpen⟩ := c
  cases isOpen with
  | false => rfl
  | true =>
    rw [Capture.write, Capture.write, unwatched, unwatched, if_pos rfl, if_pos rfl, Watched.write_eq]
    dsimp only
    generalize CaptureSink.write sink pdu w = r
    obtain ⟨r, sink', w'⟩ := r
    cases r <;> rfl

theorem unwatched_close (c : Capture (Watched S)) (w : World) :
    (c.close w).1.unwatched = (c.unwatched.close w).1 := by
  obtain ⟨layer, ⟨sink, asked⟩, isOpen⟩ := c
  cases isOpen <;> rfl

/-- Whatever is done with a capture can be done while its sink is watched, and comes to the same. -/
theorem exists_run_watched {c' : Capture S} (h : Run Step c.unwatched l c') :
    ∃ d, Run Step c l d ∧ d.unwatched = c' := by
  induction h with
  | nil => exact ⟨c, .nil, rfl⟩
  | snoc _ hs ih =>
    obtain ⟨d, hd, rfl⟩ := ih
    cases hs with
    | write pdu w => exact ⟨_, hd.snoc (.write pdu w), d.unwatched_write pdu w⟩
    | close w => exact ⟨_, hd.snoc (.close w), d.unwatched_close w⟩

/-- What holds of every capture, whatever its sink is. -/
structure Protocol : Prop where
  /-- If it is open, it goes on as is described. -/
  obeys {S : Type} [CaptureSink S] {c d : Capture (Watched S)} {l : List Event} :
    Run Step c l d → c.isOpen = true → Obeys c l d
  /-- It knows nothing of being watched. -/
  watched {S : Type} [CaptureSink S] {c : Capture (Watched S)} {c' : Capture S} {l : List Event} :
    Run Step c.unwatched l c' → ∃ d, Run Step c l d ∧ d.unwatched = c'

theorem protocol : Protocol where
  obeys := obeys
  watched := exists_run_watched

end Capture

end LteUe
