import LteUe.Proofs.Outcome
import LteUe.Storage.BufferedFile

/-!
# What buffered writers leave in their files

A writer keeps in its buffer what it has not written out. So its file holds the octets that it was given up to some
place, and from there on whatever the file held before (`BufferedFile.Holds`). It writes at a place of its own, also
when the file has been emptied in the meantime: what it still has in its buffer then goes where it would have gone
(`BufferedFile.drop_eq`).
-/

namespace LteUe

/-! ## Ordinary files -/

/-- A file that keeps what is written to it. -/
structure Location.IsOrdinary (l : Location) : Prop where
  ne_null : l ≠ Location.nullDevice
  ne_full : l ≠ Location.fullDevice

namespace Files

variable {f : Files} {l l' : Location}

theorem get?_put_self (h : l.IsOrdinary) (f : Files) (b : Bytes) : (f.put l b).get? l = some b := by
  simp [put, get?, h.ne_null, h.ne_full]

theorem lookup_filter_of_ne (h : l' ≠ l) (m : List (Location × Bytes)) :
    (m.filter (·.1 ≠ l)).lookup l' = m.lookup l' := by
  induction m with
  | nil => rfl
  | cons e m ih =>
    by_cases he : e.1 = l
    · have hne : (l' == e.1) = false := by simpa [he] using h
      rw [List.filter_cons_of_neg (by simpa using he), ih, List.lookup_cons, hne]
    · rw [List.filter_cons_of_pos (by simpa using he), List.lookup_cons, List.lookup_cons, ih]

theorem get?_put_of_ne (h : l' ≠ l) (f : Files) (b : Bytes) : (f.put l b).get? l' = f.get? l' := by
  have hne : (l' == l) = false := by simpa using h
  unfold put get?
  split
  · rfl
  · split
    · rfl
    · rw [List.lookup_cons, hne]
      exact lookup_filter_of_ne h _

theorem files_of_create {g : Files} {path : String} (h : f.create path = .ok (l, g)) : g = f.put l [] := by
  unfold create at h
  cases hf : f.follow path with
  | error e => simp [hf, bind, Except.bind] at h
  | ok p =>
    simp only [hf, bind, Except.bind, pure, Except.pure] at h
    split at h
    · cases h
    · cases hc : p.1.child p.2 with
      | error e => simp [hc] at h
      | ok l' =>
        simp only [hc] at h
        split at h
        · cases h
        · cases h
          rfl

theorem writeAt_eq (h : l.IsOrdinary) (f : Files) (n : Nat) (b : Bytes) :
    let old := (f.get? l).getD []
    f.writeAt l n b =
      .ok (f.put l (old.take n ++ List.replicate (n - old.length) 0 ++ b ++ old.drop (n + b.length))) := by
  simp [writeAt, h.ne_full]

end Files

namespace BufferedFile

variable {x y z : BufferedFile × Files} {l : Location} {text stale : Bytes}

/-! ## Writing -/

/-- A writer has been given the octets `text`, for a file that held `stale`. -/
structure Holds (l : Location) (text stale : Bytes) (x : BufferedFile × Files) : Prop where
  ordinary : l.IsOrdinary
  location : x.1.location = l
  offset_le : x.1.offset ≤ text.length
  buffer : x.1.buffer = text.drop x.1.offset
  file : x.2.get? l = some (text.take x.1.offset ++ stale.drop x.1.offset)

theorem Holds.offset_eq (h : Holds l text stale x) (hb : x.1.buffer = []) : x.1.offset = text.length := by
  have := List.drop_eq_nil_iff.1 (h.buffer.symm.trans hb)
  have := h.offset_le
  omega

/-- Once all octets have been written out, the rest of what the file held is behind them. -/
theorem Holds.file_eq (h : Holds l text stale x) (hb : x.1.buffer = []) :
    x.2.get? l = some (text ++ stale.drop text.length) := by
  rw [h.file, h.offset_eq hb, List.take_length]

theorem writeOut_of_ok {f : Files} {b : Bytes} (h : x.2.writeAt x.1.location x.1.offset b = .ok f) :
    writeOut b x = .ok () ({ x.1 with offset := x.1.offset + b.length }, f) := by
  rw [writeOut, get_bind]
  simp only [h]
  rfl

/-- Octets go to the file behind what the writer has written out before. -/
theorem Holds.writeOut_eq (h : Holds l text stale x) (b : Bytes) :
    writeOut b x = .ok () ({ x.1 with offset := x.1.offset + b.length },
      x.2.put l (text.take x.1.offset ++ b ++ stale.drop (x.1.offset + b.length))) := by
  have hl : (text.take x.1.offset).length = x.1.offset := by
    have := h.offset_le
    simp
    omega
  have hw : x.2.writeAt x.1.location x.1.offset b =
      .ok (x.2.put l (text.take x.1.offset ++ b ++ stale.drop (x.1.offset + b.length))) := by
    have hn : x.1.offset - (text.take x.1.offset ++ stale.drop x.1.offset).length = 0 := by
      rw [List.length_append]
      omega
    rw [h.location, Files.writeAt_eq h.ordinary, h.file, Option.getD_some, hn, List.replicate_zero, List.append_nil,
      List.take_left' hl, List.drop_append, hl, List.drop_eq_nil_of_le (by omega), List.nil_append, List.drop_drop]
    congr 5
    omega
  exact writeOut_of_ok hw

theorem flush_of_nil (hb : x.1.buffer = []) : flush x = .ok () x := by
  rw [flush, get_bind]
  simp only [hb]
  rfl

theorem flush_of_ne_nil (hb : x.1.buffer ≠ []) (hw : writeOut x.1.buffer x = .ok () y) :
    flush x = .ok () ({ y.1 with buffer := [] }, y.2) := by
  have he : x.1.buffer.isEmpty = false := by simpa using hb
  rw [flush, get_bind]
  simp only [he]
  exact bind_eq_ok_iff.2 ⟨(), y, hw, rfl⟩

theorem Holds.flush (h : Holds l text stale x) :
    ∃ y, flush x = .ok () y ∧ Holds l text stale y ∧ y.1.buffer = [] := by
  by_cases hb : x.1.buffer = []
  · exact ⟨x, flush_of_nil hb, h, hb⟩
  · have hn : x.1.offset + x.1.buffer.length = text.length := by
      have := h.offset_le
      rw [h.buffer, List.length_drop]
      omega
    have hf : text.take x.1.offset ++ x.1.buffer = text := by rw [h.buffer, List.take_append_drop]
    have hw := h.writeOut_eq x.1.buffer
    rw [hn, hf] at hw
    refine ⟨_, flush_of_ne_nil hb hw, ⟨h.ordinary, h.location, Nat.le_refl _, ?_, ?_⟩, rfl⟩
    · exact List.drop_length.symm
    · rw [List.take_length]
      exact Files.get?_put_self h.ordinary ..

theorem Holds.append (h : Holds l text stale x) (b : Bytes) :
    ∃ y, append b x = .ok () y ∧ Holds l (text ++ b) stale y ∧ y.1.buffer = x.1.buffer ++ b := by
  have ho := h.offset_le
  refine ⟨({ x.1 with buffer := x.1.buffer ++ b }, x.2), rfl, ⟨h.ordinary, h.location, ?_, ?_, ?_⟩, rfl⟩
  · rw [List.length_append]
    exact Nat.le_add_right_of_le ho
  · rw [List.drop_append_of_le_length ho, ← h.buffer]
  · rw [List.take_append_of_le_length ho]
    exact h.file

theorem Holds.writeOut (h : Holds l text stale x) (hb : x.1.buffer = []) (b : Bytes) :
    ∃ y, writeOut b x = .ok () y ∧ Holds l (text ++ b) stale y := by
  have ho := h.offset_eq hb
  have hw := h.writeOut_eq b
  rw [ho, List.take_length, ← List.length_append] at hw
  refine ⟨_, hw, h.ordinary, h.location, Nat.le_refl _, ?_, ?_⟩
  · rw [List.drop_length]
    exact hb
  · rw [List.take_length]
    exact Files.get?_put_self h.ordinary ..

/-- After a piece that is smaller than the buffer something is left in the buffer. -/
theorem Holds.write (h : Holds l text stale x) (b : Bytes) :
    ∃ y, write b x = .ok () y ∧ Holds l (text ++ b) stale y ∧ (b ≠ [] → b.length < capacity → y.1.buffer ≠ []) := by
  obtain ⟨z, hx, hz, hb⟩ : ∃ z, (if capacity - x.1.buffer.length < b.length then BufferedFile.flush else pure ()) x =
      .ok () z ∧ Holds l text stale z ∧ (capacity ≤ b.length → z.1.buffer = []) := by
    split
    · obtain ⟨z, hx, hz, hb⟩ := h.flush
      exact ⟨z, hx, hz, fun _ => hb⟩
    · refine ⟨x, rfl, h, fun hc => List.eq_nil_of_length_eq_zero ?_⟩
      unfold capacity at *
      omega
  obtain ⟨y, hy, h, hne⟩ : ∃ y, (if capacity ≤ b.length then BufferedFile.writeOut b else BufferedFile.append b) z =
      .ok () y ∧ Holds l (text ++ b) stale y ∧ (b ≠ [] → b.length < capacity → y.1.buffer ≠ []) := by
    split
    · rename_i hc
      obtain ⟨y, hy, h⟩ := hz.writeOut (hb hc) b
      exact ⟨y, hy, h, fun _ hlt => absurd hc (Nat.not_le.2 hlt)⟩
    · obtain ⟨y, hy, h, hbuf⟩ := hz.append b
      exact ⟨y, hy, h, fun hne _ => by simp [hbuf, hne]⟩
  refine ⟨y, ?_, h, hne⟩
  rw [BufferedFile.write, get_bind]
  by_cases hr : capacity - x.1.buffer.length < b.length
  · rw [if_pos hr] at hx
    simp only [hr, ↓reduceIte]
    exact bind_eq_ok_iff.2 ⟨(), z, hx, hy⟩
  · rw [if_neg hr] at hx
    obtain ⟨-, rfl⟩ := pure_eq_ok_iff.1 hx
    simp only [hr, ↓reduceIte]
    exact hy

/-- The octets of texts one after the other. -/
def octets (pieces : List String) : Bytes := pieces.flatMap Bytes.ofText

/-- Texts are taken as a whole, and after a last one that is small something is left in the buffer. -/
theorem Holds.writeTexts (h : Holds l text stale x) (pieces : List String) :
    ∃ y, writeTexts pieces x = .ok () y ∧ Holds l (text ++ octets pieces) stale y ∧
      ∀ last, pieces.getLast? = some last → Bytes.ofText last ≠ [] → (Bytes.ofText last).length < capacity →
        y.1.buffer ≠ [] := by
  induction pieces generalizing x text with
  | nil => exact ⟨x, rfl, by simpa [octets] using h, by simp⟩
  | cons s pieces ih =>
    obtain ⟨z, hz, h, hs⟩ := h.write (Bytes.ofText s)
    obtain ⟨y, hy, h, hb⟩ := ih h
    refine ⟨y, bind_eq_ok_iff.2 ⟨(), z, hz, hy⟩, by simpa [octets] using h, fun last hlast => ?_⟩
    cases pieces with
    | nil =>
      obtain rfl : s = last := by simpa using hlast
      obtain rfl : z = y := by cases hy; rfl
      exact hs
    | cons => exact hb last (by simpa using hlast)

variable {w : BufferedFile} {f g : Files}

theorem holds_created {path : String} (h : f.create path = .ok (l, g)) (hl : l.IsOrdinary) :
    Holds l [] [] ({ location := l }, g) := by
  refine ⟨hl, rfl, Nat.le_refl _, rfl, ?_⟩
  rw [Files.files_of_create h, Files.get?_put_self hl]
  rfl

theorem Holds.congr (h : Holds l text stale (w, f)) (hg : g.get? l = f.get? l) : Holds l text stale (w, g) :=
  ⟨h.ordinary, h.location, h.offset_le, h.buffer, hg.trans h.file⟩

/-! ## Going away -/

theorem drop_eq (hw : w.location.IsOrdinary) (hb : w.buffer ≠ []) (f : Files) :
    let old := (f.get? w.location).getD []
    w.drop f = f.put w.location (old.take w.offset ++ List.replicate (w.offset - old.length) 0 ++ w.buffer ++
      old.drop (w.offset + w.buffer.length)) := by
  have h : flush (w, f) = _ := flush_of_ne_nil hb (writeOut_of_ok (Files.writeAt_eq hw f w.offset w.buffer))
  simp only [drop, h]

theorem get?_drop_of_ne (hw : w.location.IsOrdinary) (hl : l ≠ w.location) (f : Files) :
    (w.drop f).get? l = f.get? l := by
  by_cases hb : w.buffer = []
  · have h : flush (w, f) = _ := flush_of_nil hb
    simp only [drop, h]
  · rw [drop_eq hw hb, Files.get?_put_of_ne hl]

/-- A file is emptied and written again while an earlier writer `v` still has something in its buffer, and then `v` goes
away. As long as the file begins as it did before, what `v` writes out adds to its end and changes nothing else. -/
theorem Holds.drop {v : BufferedFile} {old : Bytes} (h : Holds l text [] (w, f)) (hv : v.location = l)
    (ho : v.offset ≤ old.length) (hbuf : v.buffer = old.drop v.offset) (hb : v.buffer ≠ []) (hp : text <+: old) :
    Holds l text (List.replicate v.offset 0 ++ v.buffer) (w, v.drop f) := by
  refine ⟨h.ordinary, h.location, h.offset_le, h.buffer, ?_⟩
  have hn : w.offset ≤ old.length := Nat.le_trans h.offset_le hp.length_le
  have hP : text.take w.offset = old.take w.offset := by
    obtain ⟨r, rfl⟩ := hp
    rw [List.take_append_of_le_length h.offset_le]
  have hf : f.get? l = some (old.take w.offset) := by simpa [hP] using h.file
  have hlen : (old.take w.offset).length = w.offset := by simp [hn]
  have hend : (old.take w.offset).drop (v.offset + v.buffer.length) = [] := by
    rw [List.drop_eq_nil_iff, hlen, hbuf, List.length_drop]
    omega
  rw [drop_eq (hv ▸ h.ordinary) hb, hv, Files.get?_put_self h.ordinary, hf, hP, Option.getD_some, hlen, hend,
    List.append_nil, Option.some.injEq, List.drop_append, List.length_replicate, List.drop_replicate]
  by_cases hk : w.offset ≤ v.offset
  · rw [List.take_of_length_le (by omega), Nat.sub_eq_zero_of_le hk, List.drop_zero, List.append_assoc]
  · -- the new text has been written out further than the old one, and both go on alike
    have hz : v.offset - w.offset = 0 := by omega
    have hd : v.offset + (w.offset - v.offset) = w.offset := by omega
    rw [hz, List.replicate_zero, List.append_nil, List.nil_append, hbuf, List.take_take, Nat.min_eq_left (by omega),
      List.take_append_drop, List.drop_drop, hd, List.take_append_drop]

end BufferedFile

end LteUe
