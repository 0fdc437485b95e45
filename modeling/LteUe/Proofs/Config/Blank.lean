import LteUe.Text.Quoted
import LteUe.Yaml.Node
import Mathlib.Data.Option.Basic

/-!
# Texts of white space

Of all tokens only a plain scalar can begin with a character that Unicode calls white space. So a text that
holds nothing else is no document, an empty one, or one plain scalar, and never a mapping
(`Yaml.root_of_blank`).
-/

namespace LteUe.Yaml

variable {c c' : Cursor} {l l' : Lexer} {d : Char}

/-! ## What is left of a text -/

namespace Cursor

theorem rest_skip_subset (c : Cursor) (k : Nat) : (c.skip k).rest ⊆ c.rest := List.drop_subset k c.rest

theorem rest_skipBreak_subset (c : Cursor) : c.skipBreak.rest ⊆ c.rest := by
  unfold skipBreak
  split
  · rename_i h
    rw [h]
    simp
  · rename_i h
    split
    · rw [h]
      exact List.subset_cons_self ..
    · exact List.Subset.refl _
  · exact List.Subset.refl _

theorem rest_past_subset (c : Cursor) (gap : List Char) : (c.past gap).rest ⊆ c.rest := by
  induction c, gap using past.induct with
  | case1 c => exact List.Subset.refl _
  | case2 c rest ih =>
    exact List.Subset.trans ih c.rest_skipBreak_subset
  | case3 c d rest h ih =>
    rw [past]
    · apply List.Subset.trans ih
      split
      · exact c.rest_skipBreak_subset
      · exact c.rest_skip_subset 1
    · exact h

theorem plainRest_subset {inFlow ended : Bool} {indent n : Nat} {acc gap text : List Char}
    (h : plainRest inFlow indent n c acc gap = some (text, c', ended)) : c'.rest ⊆ c.rest := by
  induction n generalizing c acc gap with
  | zero => simp [plainRest] at h
  | succ n ih =>
    rw [plainRest] at h
    split at h
    · cases h
      exact List.Subset.refl _
    · obtain ⟨run, -, h⟩ := Option.bind_eq_some_iff.1 h
      have hg : (c.skip run.length).takeGap.2.rest ⊆ c.rest :=
        List.Subset.trans (rest_past_subset ..) (c.rest_skip_subset _)
      split at h
      · cases h
        exact List.Subset.refl _
      · dsimp only at h
        split at h
        · cases h
          exact hg
        · obtain ⟨-, -, h⟩ := Option.bind_eq_some_iff.1 h
          split at h
          · cases h
            exact hg
          · exact List.Subset.trans (ih h) hg

end Cursor

/-! ## Tokens -/

/-- Nothing but white space is left, and what has been read are plain scalars outside of all brackets. -/
structure Lexer.Bare (l : Lexer) : Prop where
  rest : ∀ d ∈ l.cursor.rest, Text.isBlank d = true
  tokens : ∀ t ∈ l.tokens, ∃ text, t = .scalar .plain text
  blocks : l.blocks = []
  outer : l.outer = []

theorem beq_eq_false_of_isBlank {e : Char} (hd : Text.isBlank d = true) (he : Text.isBlank e = false) :
    (d == e) = false := by
  rw [beq_eq_false_iff_ne]
  rintro rfl
  rw [hd] at he
  cases he

theorem Lexer.Bare.moved (h : l.Bare) (hc : c.rest ⊆ l.cursor.rest) (start : Option KeyStart) (b : Bool) :
    Lexer.Bare { l with cursor := c, start := start, keyAllowed := b } :=
  ⟨fun d hd => h.rest d (hc hd), h.tokens, h.blocks, h.outer⟩

theorem Lexer.Bare.seesMark_eq_false (h : l.Bare) (mark : Char) (hm : Text.isBlank mark = false) :
    l.cursor.seesMark mark = false := by
  refine Bool.eq_false_iff.2 fun hs => ?_
  simp only [Cursor.seesMark, Bool.and_eq_true, beq_iff_eq] at hs
  have hr : mark ∈ l.cursor.rest.take 3 := by simp [hs.1.2]
  rw [h.rest mark (List.mem_of_mem_take hr)] at hm
  cases hm

/-- A step from here, if it does not fail, ends with only plain scalars read. -/
def Lex.Leads {α : Type} (l : Lexer) (m : Lex α) : Prop := ∀ a l', m l = some (a, l') → l'.Bare

namespace Lex

variable {α β : Type} {m : Lex α} {f : α → Lex β} {n : Nat}

theorem leads_fail : Leads l (fail : Lex α) := by
  intro a l' h
  cases h

theorem leads_pure (h : l.Bare) (a : α) : Leads l (pure a) := by
  intro a' l' hl
  cases hl
  exact h

theorem leads_set (h : l'.Bare) : Leads l (set l' : Lex PUnit) := by
  intro a u hl
  cases hl
  exact h

theorem leads_modify {f : Lexer → Lexer} (h : (f l).Bare) : Leads l (modify f : Lex PUnit) := by
  intro a u hl
  cases hl
  exact h

theorem leads_get_bind {f : Lexer → Lex β} (h : Leads l (f l)) : Leads l (get >>= f) := h

theorem Leads.bind (hm : Leads l m) (hf : ∀ a l', l'.Bare → Leads l' (f a)) : Leads l (m >>= f) := by
  intro b u hu
  obtain ⟨⟨a, l'⟩, hl', hb⟩ := Option.bind_eq_some_iff.1 hu
  exact hf a l' (hm a l' hl') b u hb

theorem leads_skipToToken (h : l.Bare) : Leads l (skipToToken n) := by
  induction n generalizing l with
  | zero => exact leads_pure h ()
  | succ n ih =>
    apply leads_get_bind
    extract_lets c c₁ tabs c₂ c₃
    have hc₁ : c₁.rest ⊆ l.cursor.rest := by
      unfold c₁
      split
      · exact c.rest_skip_subset _
      · exact List.Subset.refl _
    have hc₂ : c₂.rest ⊆ l.cursor.rest := List.Subset.trans (c₁.rest_skip_subset _) hc₁
    have hc₃ : c₃.rest ⊆ l.cursor.rest := by
      unfold c₃
      split
      · exact List.Subset.trans (c₂.rest_skip_subset _) hc₂
      · exact hc₂
    split
    · apply Leads.bind (leads_set (h.moved (List.Subset.trans c₃.rest_skipBreak_subset hc₃) _ _))
      intro _ l' h'
      exact ih h'
    · exact leads_set (h.moved hc₃ _ _)

theorem leads_dropStale (h : l.Bare) : Leads l dropStale := by
  apply leads_get_bind
  rw [h.outer]
  split
  · rename_i houter
    cases houter
    exact leads_set ⟨h.rest, h.tokens, h.blocks, rfl⟩
  · exact leads_fail

theorem leads_closeBlocks (h : l.Bare) (column : Option Nat) : Leads l (closeBlocks column) := by
  apply leads_get_bind
  dsimp only
  rw [h.blocks]
  split
  · apply leads_set
    exact ⟨h.rest, by simpa using h.tokens, rfl, h.outer⟩
  · exact leads_pure h ()

theorem leads_dropStart (h : l.Bare) : Leads l dropStart := by
  have hr (b : Bool) : Leads l (require b) := by
    unfold require
    split
    · exact leads_pure h ()
    · exact leads_fail
  apply leads_get_bind
  apply (hr _).bind
  intro _ l' h
  apply leads_modify
  exact h.moved (List.Subset.refl _) _ _

theorem leads_noteStart (h : l.Bare) : Leads l noteStart := by
  apply leads_get_bind
  split
  · apply (leads_dropStart h).bind
    intro _ l' h
    apply leads_modify
    exact h.moved (List.Subset.refl _) _ _
  · exact leads_pure h ()

theorem leads_finish (h : l.Bare) : Leads l finish := by
  apply (leads_closeBlocks h none).bind
  intro _ l' h'
  exact leads_dropStart h'

theorem leads_plain (h : l.Bare) : Leads l plain := by
  apply (leads_noteStart h).bind
  intro _ l h
  apply leads_get_bind
  split
  · rename_i hp
    apply (leads_set (h.moved (Cursor.plainRest_subset hp) _ _)).bind
    intro _ l h
    apply leads_modify
    refine ⟨h.rest, ?_, h.blocks, h.outer⟩
    intro t ht
    obtain ht | rfl := Array.mem_push.1 ht
    · exact h.tokens t ht
    · exact ⟨_, rfl⟩
  · exact leads_fail

theorem leads_next (h : l.Bare) : Leads l next := by
  apply leads_get_bind
  dsimp only
  split
  · exact leads_fail
  · rename_i d hd
    have hb : Text.isBlank d = true := h.rest d (List.mem_of_getElem? hd)
    have hne (e : Char) (he : Text.isBlank e = false) : (d == e) = false := beq_eq_false_of_isBlank hb he
    -- No mark begins with a blank, so that a plain scalar is all that is left to begin here.
    simp only [h.seesMark_eq_false '-' rfl, h.seesMark_eq_false '.' rfl, hne '%' rfl, hne '[' rfl,
      hne '\x7b' rfl, hne ']' rfl, hne '\x7d' rfl, hne ',' rfl, hne '-' rfl, hne '?' rfl, hne ':' rfl, hne '*' rfl,
      hne '&' rfl, hne '!' rfl, hne '|' rfl, hne '>' rfl, hne '\'' rfl, hne '"' rfl, Bool.and_false,
      Bool.false_and, Bool.false_eq_true, if_false]
    split
    · exact leads_plain h
    · exact leads_fail

theorem leads_run (h : l.Bare) : Leads l (run n) := by
  induction n generalizing l with
  | zero => exact leads_fail
  | succ n ih =>
    apply leads_get_bind
    apply (leads_skipToToken h).bind
    intro _ l' h
    apply (leads_dropStale h).bind
    intro _ l' h
    apply leads_get_bind
    apply (leads_closeBlocks h _).bind
    intro _ l' h
    split
    · exact leads_finish h
    · apply (leads_next h).bind
      intro _ l' h
      exact ih h

end Lex

theorem scan_of_blank {text : String} {ts : List Token} (hb : Text.blank text = true)
    (h : Token.scan text = some ts) : ∀ t ∈ ts, ∃ s, t = .scalar .plain s := by
  obtain ⟨-, -, h⟩ := Option.bind_eq_some_iff.1 h
  obtain ⟨⟨_, l⟩, hl, h⟩ := Option.bind_eq_some_iff.1 h
  have hstart : Lexer.Bare { cursor := { rest := text.toList } } :=
    ⟨List.all_eq_true.1 hb, by simp, rfl, rfl⟩
  have hend := Lex.leads_run hstart _ _ hl
  cases h
  intro t ht
  exact hend.tokens t (Array.mem_toList_iff.1 ht)

/-! ## The document -/

theorem document_scalar (n : Nat) (text : String) :
    ∃ c, Compose.document (n + 1) { tokens := [.scalar .plain text] } = some ((), c) ∧
      c.events = #[.scalar none .plain text] :=
  ⟨_, rfl, rfl⟩

theorem document_scalars (n : Nat) (text text' : String) (ts : List Token) :
    Compose.document (n + 1) { tokens := .scalar .plain text :: .scalar .plain text' :: ts } = none := rfl

theorem ofTokens?_of_scalars {ts : List Token} {e : Events} (ht : ∀ t ∈ ts, ∃ s, t = .scalar .plain s)
    (h : Events.ofTokens? ts = some e) : e.events = #[] ∨ ∃ s, e.events = #[.scalar none .plain s] := by
  obtain ⟨⟨_, s⟩, hs, he⟩ := Option.bind_eq_some_iff.1 h
  cases he
  cases ts with
  | nil =>
    cases hs
    exact .inl rfl
  | cons t ts =>
    obtain ⟨text, rfl⟩ := ht _ List.mem_cons_self
    have hfuel : 8 * (Token.scalar .plain text :: ts).length + 8 = (8 * ts.length + 15) + 1 := by
      rw [List.length_cons]
      omega
    rw [hfuel] at hs
    cases ts with
    | nil =>
      obtain ⟨c, hc, he⟩ := document_scalar 15 text
      cases hs.symm.trans hc
      exact .inr ⟨text, he⟩
    | cons t ts =>
      obtain ⟨text', rfl⟩ := ht t (by simp)
      cases hs.symm.trans (document_scalars _ text text' ts)

theorem root_of_blank {text : String} {d : Document} (hb : Text.blank text = true)
    (h : Document.ofText? text = some d) : d.root = none ∨ ∃ s, d.root = some (.scalar none .plain s) := by
  obtain ⟨ts, hts, h⟩ := Option.bind_eq_some_iff.1 h
  obtain ⟨e, he, hd⟩ := Option.bind_eq_some_iff.1 h
  obtain hn | ⟨s, hs⟩ := ofTokens?_of_scalars (scan_of_blank hb hts) he
  · rw [Document.ofEvents?, hn] at hd
    cases hd
    exact .inl rfl
  · rw [Document.ofEvents?, hs] at hd
    cases hd
    exact .inr ⟨s, rfl⟩

end LteUe.Yaml
