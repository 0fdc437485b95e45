import LteUe.Proofs.Capture.Script
import LteUe.Proofs.Runs

/-!
# What captures leave in their files

A capture is opened, takes packets and is closed, in any order and on any ordinary files (`Filing.Step`). When it is
closed, its file begins with a header, a line for each packet taken since it was opened, and a footer, and the packets
can be read back (`Filing.captures_filed`).

That is all there is in the file unless the capture was opened while it was open, and on the same file. Then the writer
that is given up writes out its buffer only after the file has been emptied. If it had been given more than the new one
gets, the rest of that stays behind the footer (`Filing.leftover_behind_footer`).
-/

namespace LteUe

open FileSink BufferedFile

/-- A sink and the files. -/
structure Filing where
  sink : FileSink
  files : Files

namespace Filing

/-- The sink is asked for something, and answers. -/
inductive Event where
  | opened (path : String) (l : Location) (answer : Except FileError Unit)
  | wrote (pdu : Bytes) (answer : Except FileError Unit)
  | closed (reports : List Log.Event)

/-- A new sink. -/
def start (layer : String) (f : Files) : Filing := ⟨{ layer := layer }, f⟩

/-- Names are those of ordinary files that can be made. -/
inductive Step : Filing → Event → Filing → Prop
  | «open» {x : Filing} {path : String} {l : Location} {f g : Files} {r : Except FileError Unit} {s : FileSink} :
      x.files.create path = .ok (l, g) → l.IsOrdinary → x.sink.open? path x.files = (r, s, f) →
        Step x (.opened path l r) ⟨s, f⟩
  | write {x : Filing} (pdu : Bytes) {f : Files} {r : Except FileError Unit} {s : FileSink} :
      x.sink.write? pdu x.files = (r, s, f) → Step x (.wrote pdu r) ⟨s, f⟩
  | close {x : Filing} {f : Files} {r : List Log.Event} {s : FileSink} :
      x.sink.close x.files = (s, f, r) → Step x (.closed r) ⟨s, f⟩

/-! ## Sessions -/

/-- From an opening on. -/
structure Session where
  location : Location
  pdus : List Bytes := []
  /-- The file that was still open then, and the packets that it had been given. -/
  replaced : Option (Location × List Bytes) := none

/-- The session after one more event. -/
def Session.next (s : Option Session) : Event → Option Session
  | .opened _ l _ => some { location := l, replaced := s.map fun s => (s.location, s.pdus) }
  | .wrote pdu _ => s.map fun s => { s with pdus := s.pdus ++ [pdu] }
  | .closed _ => none

/-- The session that is under way after some events. -/
def session? (t : List Event) : Option Session := t.foldl Session.next none

/-- What a session finds in its file once the writer that it replaces is gone: nothing, or what that writer had not
written out, in its old place. -/
inductive Session.Finds (layer : String) (s : Session) : Bytes → Prop
  | nothing : (∀ old, s.replaced ≠ some (s.location, old)) → Finds layer s []
  | rest {old : List Bytes} {n : Nat} : s.replaced = some (s.location, old) → n < (draft layer old).length →
      Finds layer s (List.replicate n 0 ++ (draft layer old).drop n)

/-- What the file of a session holds once it is closed. -/
structure Session.Filed (layer : String) (s : Session) (contents : Option Bytes) : Prop where
  /-- Behind the footer there is what has not been overwritten. -/
  begins : ∃ stale, s.Finds layer stale ∧
    contents = some (script layer s.pdus ++ stale.drop (script layer s.pdus).length)
  /-- There is nothing unless a longer capture was given up in the same file. -/
  nothing_else : contents = some (script layer s.pdus) ↔
    ∀ old, s.replaced = some (s.location, old) → (draft layer old).length ≤ (script layer s.pdus).length
  readable : contents.bind (readBack layer) = some s.pdus
  /-- No other packets make this file, whatever is found behind them. -/
  distinct : ∀ pdus rest, contents = some (script layer pdus ++ rest) → pdus = s.pdus

/-- What a step does that takes a sink from `x` to `y` when the session `s` is under way. -/
structure Lawful (layer : String) (s : Option Session) (x : Filing) (e : Event) (y : Filing) : Prop where
  opened : ∀ path l r, e = .opened path l r → r = .ok ()
  taken : ∀ pdu r, e = .wrote pdu r → s ≠ none → r = .ok ()
  /-- Nothing is taken before an opening or after a close. -/
  refused : ∀ pdu r, e = .wrote pdu r → s = none → r = .error .notOpen ∧ y = x
  closed : ∀ r, e = .closed r → r = []
  filed : ∀ r s', e = .closed r → s = some s' → s'.Filed layer (y.files.get? s'.location)

/-! ## What steps keep -/

/-- A sink whose session is `s`. -/
def Fits (layer : String) (s : Option Session) (x : Filing) : Prop :=
  x.sink.layer = layer ∧
    match s with
    | none => x.sink.writer = none
    | some s => ∃ w stale, x.sink.writer = some w ∧ s.Finds layer stale ∧ w.buffer ≠ [] ∧
        Holds s.location (draft layer s.pdus) stale (w, x.files)

variable {layer : String} {s : Option Session} {x y : Filing} {e : Event} {f : Files} {l : List Event}

theorem fits_start (layer : String) (f : Files) : Fits layer none (start layer f) := ⟨rfl, rfl⟩

/-- A sink that opens a file has written the header to it before it gives up the file it had. -/
theorem exists_open_eq {path : String} {l : Location} {g : Files} (h : x.files.create path = .ok (l, g))
    (hl : l.IsOrdinary) : ∃ w f, x.sink.open? path x.files =
      (.ok (), { x.sink with path := some path, writer := some w }, x.sink.drop f) ∧ w.buffer ≠ [] ∧
      Holds l (draft x.sink.layer []) [] (w, f) := by
  obtain ⟨⟨w, f⟩, hw, ht, hb⟩ := (holds_created h hl).writeTexts (header x.sink.layer)
  rw [octets_header] at ht
  refine ⟨w, f, ?_, hb " capture\n" rfl (by decide) (by decide), ht⟩
  unfold open?
  simp only [h, hw]

theorem Fits.open (h : Fits layer s x) {path : String} {l : Location} {g : Files}
    (hc : x.files.create path = .ok (l, g)) (hl : l.IsOrdinary) :
    ∃ sink f, x.sink.open? path x.files = (.ok (), sink, f) ∧
      Fits layer (Session.next s (.opened path l (.ok ()))) ⟨sink, f⟩ := by
  obtain ⟨w, f, he, hb, ht⟩ := exists_open_eq hc hl
  obtain ⟨rfl, h⟩ := h
  refine ⟨_, _, he, rfl, w, ?_⟩
  unfold FileSink.drop
  cases s with
  | none => exact ⟨[], rfl, .nothing (by simp), hb, by simpa [h] using ht⟩
  | some s =>
    obtain ⟨v, stale, hv, -, hvb, hvt⟩ := h
    rw [hv]
    by_cases hloc : s.location = l
    · subst hloc
      have hn : v.offset < (draft x.sink.layer s.pdus).length := by
        have hne := hvt.buffer ▸ hvb
        exact Nat.lt_of_not_le fun hle => hne (List.drop_eq_nil_of_le hle)
      have hd := ht.drop hvt.location hvt.offset_le hvt.buffer hvb ⟨_, (draft_eq ..).symm⟩
      rw [show v.buffer = _ from hvt.buffer] at hd
      exact ⟨_, rfl, .rest rfl hn, hb, hd⟩
    · have hg := get?_drop_of_ne (hvt.location ▸ hvt.ordinary) (fun h => hloc (hvt.location ▸ h.symm)) f
      exact ⟨[], rfl, .nothing (by simp [hloc]), hb, ht.congr hg⟩

theorem Fits.write {s : Session} (h : Fits layer (some s) x) (pdu : Bytes) :
    ∃ sink f, x.sink.write? pdu x.files = (.ok (), sink, f) ∧
      Fits layer (some { s with pdus := s.pdus ++ [pdu] }) ⟨sink, f⟩ := by
  obtain ⟨hl, w, stale, hw, hs, -, ht⟩ := h
  obtain ⟨⟨v, f⟩, hv, ht, hb⟩ := ht.writeTexts (line pdu)
  rw [octets_line, ← draft_snoc] at ht
  refine ⟨{ x.sink with writer := some v }, f, ?_, hl, v, stale, rfl, ?_, hb "\n" rfl (by decide) (by decide), ht⟩
  · unfold write?
    simp only [hw, hv]
  · cases hs with
    | nothing h => exact .nothing h
    | rest h hn => exact .rest h hn

theorem Fits.close {s : Session} (h : Fits layer (some s) x) :
    ∃ sink f, x.sink.close x.files = (sink, f, []) ∧ Fits layer none ⟨sink, f⟩ ∧ ∃ stale, s.Finds layer stale ∧
      f.get? s.location = some (script layer s.pdus ++ stale.drop (script layer s.pdus).length) := by
  obtain ⟨hl, w, stale, hw, hs, -, ht⟩ := h
  obtain ⟨u, hu, ht, -⟩ := ht.writeTexts footer
  obtain ⟨⟨v, f⟩, hv, ht, hb⟩ := ht.flush
  have hc : (do BufferedFile.writeTexts footer; BufferedFile.flush) (w, x.files) = .ok () (v, f) :=
    bind_eq_ok_iff.2 ⟨(), u, hu, hv⟩
  rw [octets_footer] at ht
  refine ⟨{ x.sink with writer := none }, f, ?_, ⟨hl, rfl⟩, stale, hs, ht.file_eq hb⟩
  unfold FileSink.close
  simp only [hw, hc]

/-! ## What sessions leave -/

theorem Session.filed {s : Session} {stale : Bytes} (h : s.Finds layer stale) :
    s.Filed layer (some (script layer s.pdus ++ stale.drop (script layer s.pdus).length)) where
  begins := ⟨stale, h, rfl⟩
  nothing_else := by
    rw [Option.some.injEq, List.append_right_eq_self, List.drop_eq_nil_iff]
    cases h with
    | nothing h => simp [h]
    | @rest old n h hn =>
      have hlen : (List.replicate n 0 ++ (draft layer old).drop n : Bytes).length = (draft layer old).length := by
        rw [List.length_append, List.length_replicate, List.length_drop]
        omega
      rw [hlen]
      constructor
      · intro hle old' h'
        obtain rfl : old = old' := by simpa using h.symm.trans h'
        exact hle
      · exact fun hle => hle old h
  readable := by
    rw [Option.bind_some]
    exact readBack_script layer s.pdus _
  distinct pdus rest hp := eq_of_script_eq (Option.some.inj hp).symm

theorem Step.lawful (h : Fits layer s x) (hs : Step x e y) :
    Lawful layer s x e y ∧ Fits layer (Session.next s e) y := by
  cases hs with
  | «open» hc hl he =>
    obtain ⟨sink, f, he', hf⟩ := h.open hc hl
    cases he.symm.trans he'
    exact ⟨⟨by rintro _ _ _ ⟨⟩; rfl, nofun, nofun, nofun, nofun⟩, hf⟩
  | write pdu he =>
    cases s with
    | none =>
      have he' : x.sink.write? pdu x.files = (.error .notOpen, x.sink, x.files) := by
        unfold write?
        rw [h.2]
      cases he.symm.trans he'
      refine ⟨⟨nofun, fun _ _ _ hne => absurd rfl hne, ?_, nofun, nofun⟩, h⟩
      rintro _ _ ⟨⟩ -
      exact ⟨rfl, rfl⟩
    | some s =>
      obtain ⟨sink, f, he', hf⟩ := h.write pdu
      cases he.symm.trans he'
      exact ⟨⟨nofun, by rintro _ _ ⟨⟩ -; rfl, nofun, nofun, nofun⟩, hf⟩
  | close he =>
    cases s with
    | none =>
      have he' : x.sink.close x.files = (x.sink, x.files, []) := by
        unfold FileSink.close
        rw [h.2]
      cases he.symm.trans he'
      exact ⟨⟨nofun, nofun, nofun, by rintro _ ⟨⟩; rfl, nofun⟩, h⟩
    | some s =>
      obtain ⟨sink, f, he', hf, stale, hs, hg⟩ := h.close
      cases he.symm.trans he'
      refine ⟨⟨nofun, nofun, nofun, by rintro _ ⟨⟩; rfl, ?_⟩, hf⟩
      rintro _ _ - ⟨⟩
      rw [hg]
      exact Session.filed hs

theorem fits_of_run (hr : Run Step (start layer f) l x) : Fits layer (session? l) x := by
  induction hr with
  | nil => exact fits_start layer f
  | snoc _ hs ih =>
    rw [session?, List.foldl_append]
    exact (hs.lawful ih).2

/-! ## Opening a file twice -/

/-- A file in the directory of the run. -/
def fileA : Location := ⟨false, ["a"]⟩

/-- The loop over the characters of the name is unrolled, since `decide` does not see through it. -/
theorem splitOn_a : "a".splitOn "/" = ["a"] := by
  unfold String.splitOn
  rw [if_neg (by decide)]
  unfold String.splitOnAux
  rw [if_neg (by decide), if_neg (by decide)]
  unfold String.splitOnAux
  rw [if_pos (by decide)]
  decide +kernel

theorem create_fileA (f : Files) : f.create "a" = .ok (fileA, f.put fileA []) := by
  have hroot : "a".startsWith "/" = false := by decide +kernel
  have hslash : Files.asksDirectory "a" = false := by decide +kernel
  have hfollow : f.follow "a" = .ok (⟨false, []⟩, "a") := by
    unfold Files.follow
    rw [splitOn_a, hroot]
    rfl
  unfold Files.create
  rw [hfollow, hslash]
  rfl

/-- A packet is written to a file, and the file is opened once more. -/
def reopened : List Event := [.opened "a" fileA (.ok ()), .wrote [1, 2, 3, 4] (.ok ()), .opened "a" fileA (.ok ())]

theorem run_reopened : ∃ x, Run Step (start "mac" {}) reopened x ∧
    Step x (.closed []) ⟨⟨"mac", some "a", none⟩, ⟨[(fileA, Bytes.ofText "# mac capture\n# closed\n4\n")]⟩⟩ := by
  have ha : fileA.IsOrdinary := ⟨by decide, by decide⟩
  let header : FileSink := ⟨"mac", some "a", some ⟨fileA, 0, Bytes.ofText "# mac capture\n"⟩⟩
  have h₁ : Step (start "mac" {}) (.opened "a" fileA (.ok ())) ⟨header, ⟨[(fileA, [])]⟩⟩ := by
    refine .open (create_fileA _) ha ?_
    rw [open?, create_fileA]
    rfl
  have h₂ : Step ⟨header, ⟨[(fileA, [])]⟩⟩ (.wrote [1, 2, 3, 4] (.ok ()))
      ⟨⟨"mac", some "a", some ⟨fileA, 0, Bytes.ofText "# mac capture\n4 01020304\n"⟩⟩, ⟨[(fileA, [])]⟩⟩ := by
    refine .write _ ?_
    rfl
  have h₃ : Step ⟨⟨"mac", some "a", some ⟨fileA, 0, Bytes.ofText "# mac capture\n4 01020304\n"⟩⟩, ⟨[(fileA, [])]⟩⟩
      (.opened "a" fileA (.ok ())) ⟨header, ⟨[(fileA, Bytes.ofText "# mac capture\n4 01020304\n")]⟩⟩ := by
    refine .open (create_fileA _) ha ?_
    rw [open?, create_fileA]
    rfl
  exact ⟨_, .cons h₁ (.cons h₂ (.cons h₃ .nil)), .close rfl⟩

/-! ## The theorem -/

/-- What the next step does after any run. -/
theorem captures_filed (hr : Run Step (start layer f) l x) (hs : Step x e y) : Lawful layer (session? l) x e y :=
  (hs.lawful (fits_of_run hr)).1

theorem captures_filed_when_reopened : ∃ x y, Run Step (start "mac" {}) reopened x ∧ Step x (.closed []) y ∧
    Lawful "mac" (session? reopened) x (.closed []) y := by
  obtain ⟨x, hr, hs⟩ := run_reopened
  exact ⟨x, _, hr, hs, captures_filed hr hs⟩

/-- It is not the case that a file holds what was written since it was opened and nothing else. -/
theorem leftover_behind_footer : ∃ s x y, Run Step (start "mac" {}) reopened x ∧ Step x (.closed []) y ∧
    session? reopened = some s ∧ y.files.get? s.location ≠ some (script "mac" s.pdus) := by
  obtain ⟨x, hr, hs⟩ := run_reopened
  refine ⟨_, x, _, hr, hs, rfl, ?_⟩
  show some (Bytes.ofText "# mac capture\n# closed\n4\n") ≠ some (script "mac" [])
  decide

end Filing

end LteUe
