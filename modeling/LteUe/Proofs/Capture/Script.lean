import LteUe.Capture.FileSink
import LteUe.Proofs.Capture.Buffering

/-!
# The text of a capture

A capture is written as lines: a header, one line for each packet, a footer. The packets can be read
back from the octets of these lines, whatever follows the footer (`FileSink.readBack_script`), so
different packets never make the same file.
-/

namespace LteUe

/-! ## Plain characters -/

namespace Bytes

variable {c : Char} {l : List Char}

/-- The octet of a character that needs only one. -/
def octet (c : Char) : UInt8 := .ofNat c.toNat

/-- A character that has one octet, neither a blank nor a control character. -/
def IsPlain (c : Char) : Prop := 48 ≤ c.toNat ∧ c.toNat < 128

theorem ofText_append (s t : String) : ofText (s ++ t) = ofText s ++ ofText t := by
  simp [ofText, String.toList_append]

theorem ofText_ofList (h : ∀ c ∈ l, IsPlain c) : ofText (String.ofList l) = l.map octet := by
  rw [ofText, String.toList_ofList]
  induction l with
  | nil => rfl
  | cons c l ih =>
    have hc : c.val.toNat ≤ 127 := Nat.le_of_lt_succ (h c (by simp)).2
    rw [List.flatMap_cons, ih fun c hc => h c (List.mem_cons_of_mem _ hc), String.utf8EncodeChar, if_pos hc]
    rfl

theorem IsPlain.toNat_octet (h : IsPlain c) : (octet c).toNat = c.toNat := by
  have := h.2
  simp [octet]
  omega

theorem IsPlain.ne_octet (h : IsPlain c) {b : UInt8} (hb : b.toNat < 48) : octet c ≠ b := by
  rintro rfl
  rw [h.toNat_octet] at hb
  exact absurd h.1 (by omega)

theorem map_octet (h : ∀ c ∈ l, IsPlain c) : (l.map octet).map (fun b => Char.ofNat b.toNat) = l := by
  have hl : ∀ c ∈ l, ((fun b : UInt8 => Char.ofNat b.toNat) ∘ octet) c = id c := fun c hc => by
    simp [(h c hc).toNat_octet]
  rw [List.map_map, List.map_congr_left hl, List.map_id]

theorem isPlain_digitChar {n : Nat} (h : n < 16) : IsPlain (Nat.digitChar n) := by
  have : ∀ n : Fin 16, 48 ≤ (Nat.digitChar n).toNat ∧ (Nat.digitChar n).toNat < 128 := by decide
  exact this ⟨n, h⟩

theorem isPlain_of_mem_ofOctets {b : Bytes} (h : c ∈ b.flatMap Hex.ofOctet) : IsPlain c := by
  obtain ⟨o, -, hc⟩ := List.mem_flatMap.1 h
  have ho : o.toNat < 256 := o.toNat_lt
  simp only [Hex.ofOctet, List.mem_cons, List.not_mem_nil, or_false] at hc
  obtain rfl | rfl := hc
  · exact isPlain_digitChar (by omega)
  · exact isPlain_digitChar (by omega)

theorem isPlain_of_mem_toDigits {n : Nat} (h : c ∈ Nat.toDigits 10 n) : IsPlain c := by
  have hd := Nat.isDigit_of_mem_toDigits (by decide) (by decide) h
  simp only [Char.isDigit, Bool.and_eq_true, decide_eq_true_eq, ge_iff_le, UInt32.le_iff_toNat_le] at hd
  have h₁ : 48 ≤ c.toNat := hd.1
  have h₂ : c.toNat ≤ 57 := hd.2
  exact ⟨h₁, by omega⟩

end Bytes

namespace FileSink

open Bytes BufferedFile

variable {layer : String} {pdus : List Bytes} {pdu : Bytes}

/-! ## Lines -/

/-- Lines, each ended by a newline. -/
def ended (lines : List String) : Bytes := lines.flatMap fun s => ofText s ++ ofText "\n"

theorem ended_cons_append (s : String) (lines : List String) (b : Bytes) :
    ended (s :: lines) ++ b = ofText s ++ 10 :: (ended lines ++ b) := by
  have hn : ofText "\n" = [10] := by decide
  simp [ended, hn]

/-- What stands in the line of a packet. -/
def packetLine (pdu : Bytes) : String := s!"{pdu.length} {Hex.ofOctets pdu}"

/-- A capture that has not been closed. -/
def draft (layer : String) (pdus : List Bytes) : Bytes := ended (s!"# {layer} capture" :: pdus.map packetLine)

/-- A capture that has been closed. -/
def script (layer : String) (pdus : List Bytes) : Bytes := draft layer pdus ++ ended ["# closed"]

theorem octets_header (layer : String) : octets (header layer) = draft layer [] := by
  have h : ofText " capture\n" = ofText " capture" ++ ofText "\n" := by decide
  simp [octets, header, draft, ended, h, ofText_append, toString]

theorem octets_line (pdu : Bytes) : octets (line pdu) = ended [packetLine pdu] := by
  simp [octets, line, ended, packetLine, ofText_append, toString]

theorem octets_footer : octets footer = ended ["# closed"] := by decide

theorem draft_snoc (layer : String) (pdus : List Bytes) (pdu : Bytes) :
    draft layer (pdus ++ [pdu]) = draft layer pdus ++ ended [packetLine pdu] := by
  simp [draft, ended]

theorem draft_eq (layer : String) (pdus : List Bytes) :
    draft layer pdus = draft layer [] ++ ended (pdus.map packetLine) := by
  simp [draft, ended]

/-! ## Reading back -/

/-- Reads the line of a packet: the octets behind the first blank. -/
def readLine (b : Bytes) : Option Bytes :=
  Hex.octets? (((b.dropWhile (· ≠ 32)).drop 1).map fun b => Char.ofNat b.toNat)

/-- Reads lines up to the footer. -/
def readLines (b : Bytes) : Option (List Bytes) :=
  ((b.splitOn 10).takeWhile (· ≠ ofText "# closed")).mapM readLine

/-- Reads the packets of a capture. -/
def readBack (layer : String) (b : Bytes) : Option (List Bytes) := readLines (b.drop (draft layer []).length)

/-- The line of a packet: a number, a blank, and the octets in base sixteen. -/
theorem ofText_packetLine (pdu : Bytes) :
    ofText (packetLine pdu) =
      (Nat.toDigits 10 pdu.length).map octet ++ 32 :: (pdu.flatMap Hex.ofOctet).map octet := by
  have h₁ : ofText (toString pdu.length) = (Nat.toDigits 10 pdu.length).map octet :=
    ofText_ofList fun c => isPlain_of_mem_toDigits
  have h₂ : ofText (Hex.ofOctets pdu) = (pdu.flatMap Hex.ofOctet).map octet :=
    ofText_ofList fun c => isPlain_of_mem_ofOctets
  have hb : ofText " " = [32] := by decide
  rw [packetLine, ofText_append, ofText_append, h₁]
  show _ ++ ofText " " ++ ofText (Hex.ofOctets pdu) = _
  rw [hb, h₂, List.append_assoc, List.singleton_append]

theorem readLine_packetLine (pdu : Bytes) : readLine (ofText (packetLine pdu)) = some pdu := by
  have hd : ∀ b ∈ (Nat.toDigits 10 pdu.length).map octet, decide (b ≠ 32) = true := by
    intro b hb
    obtain ⟨c, hc, rfl⟩ := List.mem_map.1 hb
    exact decide_eq_true ((isPlain_of_mem_toDigits hc).ne_octet (by decide))
  rw [readLine, ofText_packetLine, List.dropWhile_append_of_pos hd, List.dropWhile_cons_of_neg (by decide),
    List.drop_one, List.tail_cons, map_octet fun c => isPlain_of_mem_ofOctets]
  exact Hex.octets?_flatMap_ofOctet pdu

theorem ofText_closed : ofText "# closed" = [35, 32, 99, 108, 111, 115, 101, 100] := by decide

theorem packetLine_ne_footer (pdu : Bytes) : ofText (packetLine pdu) ≠ ofText "# closed" := by
  rw [ofText_packetLine, ofText_closed]
  cases hd : Nat.toDigits 10 pdu.length with
  | nil => exact absurd hd Nat.toDigits_ne_nil
  | cons c r =>
    have hc : IsPlain c := isPlain_of_mem_toDigits (n := pdu.length) (by simp [hd])
    intro h
    exact hc.ne_octet (b := 35) (by decide) (List.cons.inj h).1

theorem ne_newline_of_mem {b : UInt8} (h : b ∈ ofText (packetLine pdu)) : (b == 10) = false := by
  rw [ofText_packetLine, List.mem_append, List.mem_cons, List.mem_map, List.mem_map] at h
  rw [beq_eq_false_iff_ne]
  obtain ⟨c, hc, rfl⟩ | rfl | ⟨c, hc, rfl⟩ := h
  · exact (isPlain_of_mem_toDigits hc).ne_octet (by decide)
  · decide
  · exact (isPlain_of_mem_ofOctets hc).ne_octet (by decide)

theorem readLines_packetLine (pdu b : Bytes) :
    readLines (ofText (packetLine pdu) ++ 10 :: b) = (readLines b).map (pdu :: ·) := by
  have hs : (ofText (packetLine pdu) ++ 10 :: b).splitOn 10 = ofText (packetLine pdu) :: b.splitOn 10 :=
    List.splitOnP_append_cons_of_forall_mem (fun _ => ne_newline_of_mem) 10 (by decide) b
  rw [readLines, hs, List.takeWhile_cons_of_pos (by simpa using packetLine_ne_footer pdu), List.mapM_cons,
    readLine_packetLine, readLines]
  cases ((b.splitOn 10).takeWhile (· ≠ ofText "# closed")).mapM readLine <;> rfl

theorem readLines_footer (b : Bytes) : readLines (ofText "# closed" ++ 10 :: b) = some [] := by
  have hs : (ofText "# closed" ++ 10 :: b).splitOn 10 = ofText "# closed" :: b.splitOn 10 :=
    List.splitOnP_append_cons_of_forall_mem (by simp [ofText_closed]) 10 (by decide) b
  rw [readLines, hs, List.takeWhile_cons_of_neg (by simp)]
  rfl

theorem readBack_script (layer : String) (pdus : List Bytes) (rest : Bytes) :
    readBack layer (script layer pdus ++ rest) = some pdus := by
  rw [readBack, script, draft_eq layer pdus, List.append_assoc, List.append_assoc, List.drop_left]
  induction pdus with
  | nil =>
    rw [List.map_nil, ended_cons_append]
    exact readLines_footer _
  | cons pdu pdus ih => rw [List.map_cons, ended_cons_append, readLines_packetLine, ih, Option.map_some]

theorem eq_of_script_eq {pdus' : List Bytes} {rest rest' : Bytes}
    (h : script layer pdus ++ rest = script layer pdus' ++ rest') : pdus = pdus' := by
  have hr := readBack_script layer pdus rest
  rw [h, readBack_script] at hr
  exact (Option.some.inj hr).symm

end FileSink

end LteUe
