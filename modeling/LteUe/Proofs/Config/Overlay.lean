import LteUe.Config.Document
import LteUe.Proofs.Config.Blank
import LteUe.Proofs.Config.Records
import LteUe.Report.Basic

/-!
# Configurations laid over the default

A field of a configuration has a section, a key and a kind of value (`StackConfig.fields`). Reading a document
is reading each field by itself (`StackConfig.overlay_eq`): what is given where it belongs if something is given
there, and otherwise the value of the default. So a document is malformed if it has a section of another name or
gives some field what it cannot hold, and otherwise it stands for one configuration, whatever else it holds and in
whatever order (`StackConfig.overlaid`).
-/

namespace LteUe.StackConfig

open Yaml

/-- What a field must be given. -/
inductive Kind where
  | flag
  /-- A whole number below a bound. -/
  | num (bound : Nat)
  | text

def Kind.read (d : Document) : Kind → Node → Option Report
  | flag, node => (d.bool? node).map .flag
  | num bound, node => (d.natBelow? bound node).map .num
  | text, node => (d.text? node).map .text

/-- A field of a configuration: where a document gives it, what it must be given, and what it holds. -/
structure Field where
  group : String
  key : String
  kind : Kind
  value : StackConfig → Report

def sizeFields : List Field := [
  ⟨"stack", "queue_capacity", .num UInt64.size, fun c => .num c.queueCapacity⟩,
  ⟨"stack", "background_workers", .num UInt64.size, fun c => .num c.backgroundWorkers⟩,
  ⟨"stack", "timer_capacity", .num UInt64.size, fun c => .num c.timerCapacity⟩]

def tickFields : List Field := [
  ⟨"tick", "time_stats", .flag, fun c => .flag c.tick.timeStats⟩,
  ⟨"tick", "warn_threshold_ms", .num UInt64.size, fun c => .num c.tick.warnThresholdMillis⟩,
  ⟨"tick", "sync_queue_warn_threshold", .num UInt64.size, fun c => .num c.tick.backlogThreshold⟩,
  ⟨"tick", "stat_period", .num UInt32.size, fun c => .num c.tick.statPeriod⟩]

def detachFields : List Field := [
  ⟨"detach", "timeout_ms", .num UInt64.size, fun c => .num c.detach.timeoutMillis⟩,
  ⟨"detach", "poll_interval_ms", .num UInt64.size, fun c => .num c.detach.pollIntervalMillis⟩]

def captureFields : List Field := [
  ⟨"pcap", "enable", .flag, fun c => .flag c.captures.macEnabled⟩,
  ⟨"pcap", "filename", .text, fun c => .text c.captures.macFile⟩,
  ⟨"pcap", "nas_enable", .flag, fun c => .flag c.captures.nasEnabled⟩,
  ⟨"pcap", "nas_filename", .text, fun c => .text c.captures.nasFile⟩]

def logFields : List Field := [
  ⟨"log", "stack_level", .text, fun c => .text c.log.stack⟩,
  ⟨"log", "pool_level", .text, fun c => .text c.log.pool⟩,
  ⟨"log", "mac_level", .text, fun c => .text c.log.mac⟩,
  ⟨"log", "rlc_level", .text, fun c => .text c.log.rlc⟩,
  ⟨"log", "pdcp_level", .text, fun c => .text c.log.pdcp⟩,
  ⟨"log", "rrc_level", .text, fun c => .text c.log.rrc⟩,
  ⟨"log", "nas_level", .text, fun c => .text c.log.nas⟩,
  ⟨"log", "usim_level", .text, fun c => .text c.log.usim⟩]

/-- All fields of a configuration. -/
def fields : List Field := sizeFields ++ (tickFields ++ (detachFields ++ (captureFields ++ logFields)))

/-- What all fields hold. -/
def values (c : StackConfig) : List Report := fields.map fun f => f.value c

theorem values_injective : Function.Injective values := by
  intro c c' h
  obtain ⟨_, _, _, ⟨⟩, ⟨⟩, ⟨⟩, ⟨⟩⟩ := c
  obtain ⟨_, _, _, ⟨⟩, ⟨⟩, ⟨⟩, ⟨⟩⟩ := c'
  simpa [values, fields, sizeFields, tickFields, detachFields, captureFields, logFields, and_assoc] using h

/-! ## Field by field -/

variable {d d' : Document} {node : Node} {l top : List (String × Node)} {c c' : StackConfig} {f : Field}

/-- What the field holds once this node is laid over its section. -/
def Field.entry (f : Field) (c : StackConfig) (d : Document) (node : Node) : Option Report := do
  let l ← d.fields? node
  field l f.key (f.kind.read d) (f.value c)

/-- What the field holds once these sections are laid over a configuration. -/
def Field.reading (f : Field) (c : StackConfig) (d : Document) (top : List (String × Node)) : Option Report :=
  field top f.group (f.entry c d) (f.value c)

theorem field_flag (l : List (String × Node)) (k : String) (b : Bool) :
    field l k (Kind.flag.read d) (.flag b) = (field l k d.bool? b).map .flag := (map_field ..).symm

theorem field_num (l : List (String × Node)) (k : String) (bound n : Nat) :
    field l k ((Kind.num bound).read d) (.num n) = (field l k (d.natBelow? bound) n).map .num := (map_field ..).symm

theorem field_text (l : List (String × Node)) (k s : String) :
    field l k (Kind.text.read d) (.text s) = (field l k d.text? s).map .text := (map_field ..).symm

theorem map_overlaySizes (c : StackConfig) (d : Document) (node : Node) :
    (c.overlaySizes d node).map (fun c' => sizeFields.map fun f => f.value c') =
      sizeFields.mapM fun f => f.entry c d node := by
  unfold overlaySizes Field.entry
  cases d.fields? node with
  | none => rfl
  | some l => simp [sizeFields, field_num, Document.u64?, Option.bind_map, Option.bind_assoc]

theorem map_overlayTick (c : StackConfig) (d : Document) (node : Node) :
    (c.tick.overlay d node).map (fun t => tickFields.map fun f => f.value { c with tick := t }) =
      tickFields.mapM fun f => f.entry c d node := by
  unfold TickConfig.overlay Field.entry
  cases d.fields? node with
  | none => rfl
  | some l =>
    simp [tickFields, field_flag, field_num, Document.u64?, Document.u32?, Option.bind_map, Option.bind_assoc]

theorem map_overlayDetach (c : StackConfig) (d : Document) (node : Node) :
    (c.detach.overlay d node).map (fun t => detachFields.map fun f => f.value { c with detach := t }) =
      detachFields.mapM fun f => f.entry c d node := by
  unfold DetachConfig.overlay Field.entry
  cases d.fields? node with
  | none => rfl
  | some l => simp [detachFields, field_num, Document.u64?, Option.bind_map, Option.bind_assoc]

theorem map_overlayCaptures (c : StackConfig) (d : Document) (node : Node) :
    (c.captures.overlay d node).map (fun t => captureFields.map fun f => f.value { c with captures := t }) =
      captureFields.mapM fun f => f.entry c d node := by
  unfold CaptureConfig.overlay Field.entry
  cases d.fields? node with
  | none => rfl
  | some l => simp [captureFields, field_flag, field_text, Option.bind_map, Option.bind_assoc]

theorem map_overlayLog (c : StackConfig) (d : Document) (node : Node) :
    (c.log.overlay d node).map (fun t => logFields.map fun f => f.value { c with log := t }) =
      logFields.mapM fun f => f.entry c d node := by
  unfold LogConfig.overlay Field.entry
  cases d.fields? node with
  | none => rfl
  | some l => simp [logFields, field_text, Option.bind_map, Option.bind_assoc]

theorem map_field_group (top : List (String × Node)) (g : String) {γ : Type} {fs : List Field}
    {read : Node → Option γ} {held : γ → List Report}
    (hr : ∀ node, (read node).map held = fs.mapM fun f => f.entry c d node) {a : γ}
    (ha : held a = fs.map fun f => f.value c) (hfs : fs ≠ []) (hg : ∀ f ∈ fs, f.group = g) :
    (field top g read a).map held = fs.mapM fun f => f.reading c d top := by
  rw [map_field, ha]
  simp only [hr]
  rw [mapM_field hfs]
  apply mapM_congr
  intro f hf
  rw [Field.reading, hg f hf]

theorem overlay_eq (h : d.record? sections = some top) (c : StackConfig) :
    (c.overlay d).map values = fields.mapM fun f => f.reading c d top := by
  have hs := map_field_group top "stack" (map_overlaySizes c d) rfl (by decide) (by decide)
  have ht := map_field_group top "tick" (map_overlayTick c d) rfl (by decide) (by decide)
  have hd := map_field_group top "detach" (map_overlayDetach c d) rfl (by decide) (by decide)
  have hp := map_field_group top "pcap" (map_overlayCaptures c d) rfl (by decide) (by decide)
  have hl := map_field_group top "log" (map_overlayLog c d) rfl (by decide) (by decide)
  simp only [fields, List.mapM_append, ← hs, ← ht, ← hd, ← hp, ← hl, overlay, h, Option.bind_eq_bind,
    Option.pure_def, Option.bind_some]
  clear hs ht hd hp hl
  -- The first section that cannot be read leaves neither side with a result.
  rcases field top "stack" (c.overlaySizes d) c with _ | sized
  · rfl
  rcases field top "tick" (c.tick.overlay d) c.tick with _ | tick
  · rfl
  rcases field top "detach" (c.detach.overlay d) c.detach with _ | detach
  · rfl
  rcases field top "pcap" (c.captures.overlay d) c.captures with _ | captures
  · rfl
  rcases field top "log" (c.log.overlay d) c.log with _ | log <;> rfl

theorem overlay_eq_some_iff (h : d.record? sections = some top) :
    c.overlay d = some c' ↔ ∀ f ∈ fields, f.reading c d top = some (f.value c') := by
  rw [← mapM_eq_some_map_iff, ← overlay_eq h]
  constructor
  · intro h
    rw [h]
    rfl
  · intro h
    obtain ⟨c'', hc, hv⟩ := Option.map_eq_some_iff.1 h
    rw [hc, values_injective hv]

/-! ## What a document gives -/

/-- The names of sections, each with its keys and what they are given. -/
abbrev Sections := List (String × List (String × Node))

/-- A field is given this node. -/
def Gives (S : Sections) (f : Field) (node : Node) : Prop :=
  ∃ keys, (f.group, keys) ∈ S ∧ (f.key, node) ∈ keys

/-- The text is a document that maps the names of sections to mappings of keys, none of them given twice. -/
structure Describes (text : String) (d : Document) (S : Sections) : Prop where
  parsed : Document.ofText? text = some d
  maps : ∃ root top, d.root = some root ∧ d.Maps root top ∧
    List.Forall₂ (fun x s => x.1 = s.1 ∧ d.Maps x.2 s.2) top S
  names : KeysOnce S
  keys : ∀ s ∈ S, KeysOnce s.2

/-- The document that gives these sections. -/
def document (S : Sections) : Document := { root := some (.ofRecord (S.map fun s => (s.1, .ofRecord s.2))) }

/-- Reading a document takes two parts: its events are read from the text, and the tree from them. -/
theorem ofText_of_events {text : String} {d : Document} (l : List Yaml.Event)
    (hl : ((Token.scan text).bind Events.ofTokens?).map (fun e => (e.events.toList, e.places)) = some (l, []))
    (hd : Document.ofEvents? { events := l.toArray } = some d) : Document.ofText? text = some d := by
  obtain ⟨⟨events, places⟩, he, hl⟩ := Option.map_eq_some_iff.1 hl
  cases hl
  obtain ⟨ts, hts, he⟩ := Option.bind_eq_some_iff.1 he
  rw [Document.ofText?, hts]
  simpa [he] using hd

theorem describes_document (text : String) (S : Sections) (hp : Document.ofText? text = some (document S))
    (hn : KeysOnce S) (hk : ∀ s ∈ S, KeysOnce s.2) : Describes text (document S) S where
  parsed := hp
  maps := by
    refine ⟨_, _, rfl, maps_ofRecord _ _, ?_⟩
    rw [List.forall₂_map_left_iff, List.forall₂_same]
    intro s _
    exact ⟨rfl, maps_ofRecord _ _⟩
  names := hn
  keys := hk

/-- All sections are known, and every field can hold what it is given. -/
def Fits (d : Document) (S : Sections) : Prop :=
  (∀ s ∈ S, s.1 ∈ sections) ∧ ∀ f ∈ fields, ∀ node, Gives S f node → ∃ v, f.kind.read d node = some v

/-- Every field holds what it is given, or what it holds by default. -/
structure Lays (d : Document) (S : Sections) (c : StackConfig) : Prop where
  given : ∀ f ∈ fields, ∀ node, Gives S f node → f.kind.read d node = some (f.value c)
  absent : ∀ f ∈ fields, (∀ node, ¬ Gives S f node) → f.value c = f.value {}

variable {S S' : Sections} {text text' : String}

section Reading

variable (hm : List.Forall₂ (fun x s => x.1 = s.1 ∧ d.Maps x.2 s.2) top S)

include hm

theorem map_fst_eq : top.map Prod.fst = S.map Prod.fst := by
  induction hm with
  | nil => rfl
  | cons hx _ ih => rw [List.map_cons, List.map_cons, hx.1, ih]

theorem record?_eq {root : Node} (hd : d.root = some root) (hr : d.Maps root top) :
    d.record? sections = if ∀ s ∈ S, s.1 ∈ sections then some top else none := by
  have hs : (top.all fun x => sections.contains x.1) = decide (∀ s ∈ S, s.1 ∈ sections) := by
    rw [Bool.eq_iff_iff, decide_eq_true_iff]
    simpa using congrArg (fun names => ∀ name ∈ names, name ∈ sections) (map_fst_eq hm)
  have hf : d.root.elim (some []) d.fields? = some top := by
    rw [hd, Option.elim_some, hr.fields?_eq]
  rw [Document.record?, hf]
  simp only [Option.bind_eq_bind, Option.bind_some, hs]
  split
  · rename_i h
    rw [decide_eq_true h]
    rfl
  · rename_i h
    rw [decide_eq_false h]
    rfl

theorem reading_of_gives (ht : KeysOnce top) (hk : ∀ s ∈ S, KeysOnce s.2) (hf : Gives S f node)
    (c : StackConfig) : f.reading c d top = f.kind.read d node := by
  obtain ⟨keys, hs, hx⟩ := hf
  obtain ⟨⟨g, l⟩, hl, hg, hd⟩ := exists_left_of_forall₂ hm hs
  obtain rfl : g = f.group := hg
  rw [Field.reading, field_of_mem ht hl, Field.entry, hd.fields?_eq]
  exact field_of_mem (hk _ hs) hx _ _

theorem reading_of_forall_not_gives (ht : KeysOnce top) (hf : ∀ node, ¬ Gives S f node)
    (c : StackConfig) : f.reading c d top = some (f.value c) := by
  -- The section may be there without the key, or not be there at all.
  by_cases hg : ∃ l, (f.group, l) ∈ top
  · obtain ⟨l, hl⟩ := hg
    obtain ⟨⟨g, keys⟩, hs, hg, hd⟩ := exists_right_of_forall₂ hm hl
    obtain rfl : f.group = g := hg
    rw [Field.reading, field_of_mem ht hl, Field.entry, hd.fields?_eq]
    apply field_of_forall_not_mem
    intro node hx
    exact hf node ⟨keys, hs, hx⟩
  · exact field_of_forall_not_mem (not_exists.1 hg) _ _

end Reading

theorem Describes.not_blank (h : Describes text d S) : Text.blank text ≠ true := by
  intro hb
  obtain ⟨root, top, hr, ⟨entries, he, -⟩, -⟩ := h.maps
  obtain hn | ⟨s, hs⟩ := root_of_blank hb h.parsed
  · cases hr.symm.trans hn
  · cases hr.symm.trans hs
    cases he

theorem Describes.ofText_eq (h : Describes text d S) : ofText text = ofDocument d := by
  rw [ofText, if_neg h.not_blank, h.parsed]

theorem Describes.exists_top (h : Describes text d S) :
    ∃ top, (d.record? sections = if ∀ s ∈ S, s.1 ∈ sections then some top else none) ∧
      ∀ f c, (∀ node, Gives S f node → Field.reading f c d top = f.kind.read d node) ∧
        ((∀ node, ¬ Gives S f node) → Field.reading f c d top = some (f.value c)) := by
  obtain ⟨root, top, hd, hr, hm⟩ := h.maps
  have ht : KeysOnce top := by
    rw [KeysOnce, map_fst_eq hm]
    exact h.names
  refine ⟨top, record?_eq hm hd hr, fun f c => ⟨?_, ?_⟩⟩
  · intro node hg
    exact reading_of_gives hm ht h.keys hg c
  · intro hg
    exact reading_of_forall_not_gives hm ht hg c

theorem Describes.overlay_eq_none (h : Describes text d S) (hs : ¬ ∀ s ∈ S, s.1 ∈ sections) :
    ({} : StackConfig).overlay d = none := by
  obtain ⟨top, hr, -⟩ := h.exists_top
  rw [overlay, hr, if_neg hs]
  rfl

theorem Describes.overlay_eq_some_iff (h : Describes text d S) :
    ({} : StackConfig).overlay d = some c ↔ (∀ s ∈ S, s.1 ∈ sections) ∧ Lays d S c := by
  by_cases hs : ∀ s ∈ S, s.1 ∈ sections
  · obtain ⟨top, hr, hv⟩ := h.exists_top
    rw [StackConfig.overlay_eq_some_iff (hr.trans (if_pos hs)), and_iff_right hs]
    constructor
    · intro hc
      constructor
      · intro f hf node hg
        rw [← (hv f {}).1 node hg, hc f hf]
      · intro f hf hg
        rw [← Option.some.injEq, ← hc f hf, (hv f {}).2 hg]
    · intro hc f hf
      by_cases hg : ∃ node, Gives S f node
      · obtain ⟨node, hg⟩ := hg
        rw [(hv f {}).1 node hg, hc.given f hf node hg]
      · rw [(hv f {}).2 (not_exists.1 hg), hc.absent f hf (not_exists.1 hg)]
  · rw [h.overlay_eq_none hs]
    exact iff_of_false nofun fun hc => hs hc.1

theorem Describes.exists_overlay_iff (h : Describes text d S) :
    (∃ c, ({} : StackConfig).overlay d = some c) ↔ Fits d S := by
  constructor
  · rintro ⟨c, hc⟩
    obtain ⟨hs, hc⟩ := h.overlay_eq_some_iff.1 hc
    exact ⟨hs, fun f hf node hg => ⟨f.value c, hc.given f hf node hg⟩⟩
  · rintro ⟨hs, hf⟩
    obtain ⟨top, hr, hv⟩ := h.exists_top
    have hr := overlay_eq (hr.trans (if_pos hs)) {}
    have hm : (fields.mapM fun f => f.reading {} d top) =
        some (fields.map fun f => (f.reading {} d top).getD .null) := by
      apply mapM_eq_some_map_iff.2
      intro f hf'
      by_cases hg : ∃ node, Gives S f node
      · obtain ⟨node, hg⟩ := hg
        obtain ⟨v, hr⟩ := hf f hf' node hg
        rw [(hv f {}).1 node hg, hr, Option.getD_some]
      · rw [(hv f {}).2 (not_exists.1 hg), Option.getD_some]
    obtain ⟨c, hc, -⟩ := Option.map_eq_some_iff.1 (hr.trans hm)
    exact ⟨c, hc⟩

/-! ## Documents that give the same -/

theorem Kind.read_eq (k : Kind) (d : Document) (node : Node) :
    k.read d node = (d.scalar? node).bind (k.read { root := none }) := by
  cases k
  all_goals
    simp only [Kind.read, Document.scalar?, Document.bool?, Document.natBelow?, Document.text?, Document.bareText?]
    rcases d.resolve node with _ | _ | _ | _ | _ <;> rfl

/-- The keys of a section that are fields. -/
def known (s : String × List (String × Node)) : List (String × Node) :=
  s.2.filter fun x => fields.any fun f => f.group == s.1 && f.key == x.1

/-- Two sections of one name, in which, in some order, the same fields are given the same scalars, or both no
scalar. -/
def SameSection (d d' : Document) (s s' : String × List (String × Node)) : Prop :=
  s.1 = s'.1 ∧ Rearranged (fun x x' => x.1 = x'.1 ∧ d.scalar? x.2 = d'.scalar? x'.2) (known s) (known s')

theorem mem_known_iff (hf : f ∈ fields) {keys : List (String × Node)} :
    (f.key, node) ∈ known (f.group, keys) ↔ (f.key, node) ∈ keys := by
  simp only [known, List.mem_filter, and_iff_left_iff_imp, List.any_eq_true]
  intro _
  exact ⟨f, hf, by simp⟩

theorem exists_gives (hS : Rearranged (SameSection d d') S S') (hf : f ∈ fields) (hg : Gives S f node) :
    ∃ node', Gives S' f node' ∧ f.kind.read d node = f.kind.read d' node' := by
  obtain ⟨keys, hs, hx⟩ := hg
  obtain ⟨⟨g, keys'⟩, hs', hg, hk⟩ := hS.exists_right hs
  obtain rfl : f.group = g := hg
  obtain ⟨⟨k, node'⟩, hx', hk, hn⟩ := hk.exists_right ((mem_known_iff hf).2 hx)
  obtain rfl : f.key = k := hk
  refine ⟨node', ⟨keys', hs', (mem_known_iff hf).1 hx'⟩, ?_⟩
  rw [Kind.read_eq, Kind.read_eq _ d', hn]

theorem SameSection.symm {s s' : String × List (String × Node)} (h : SameSection d d' s s') :
    SameSection d' d s' s :=
  ⟨h.1.symm, h.2.symm fun hx => ⟨hx.1.symm, hx.2.symm⟩⟩

theorem Fits.of_rearranged (h : Fits d S) (hS : Rearranged (SameSection d d') S S') : Fits d' S' := by
  have hS' := hS.symm SameSection.symm
  constructor
  · intro s' hs'
    obtain ⟨s, hs, hss, -⟩ := hS'.exists_right hs'
    exact hss ▸ h.1 s hs
  · intro f hf node' hg
    obtain ⟨node, hg, hr⟩ := exists_gives hS' hf hg
    exact hr ▸ h.2 f hf node hg

theorem Lays.of_rearranged (h : Lays d S c) (hS : Rearranged (SameSection d d') S S') : Lays d' S' c where
  given f hf node' hg := by
    obtain ⟨node, hg, hr⟩ := exists_gives (hS.symm SameSection.symm) hf hg
    exact hr ▸ h.given f hf node hg
  absent f hf hg := by
    apply h.absent f hf
    intro node hg'
    obtain ⟨node', hg', -⟩ := exists_gives hS hf hg'
    exact hg node' hg'

/-! ## Whole texts -/

theorem Describes.eq_of_lays (h : Describes text d S) (hs : ∀ s ∈ S, s.1 ∈ sections) (hc : Lays d S c)
    (hc' : Lays d S c') : c' = c := by
  have he := h.overlay_eq_some_iff.2 ⟨hs, hc'⟩
  rw [h.overlay_eq_some_iff.2 ⟨hs, hc⟩, Option.some.injEq] at he
  exact he.symm

theorem Describes.ofText_of_not_fits (h : Describes text d S) (hf : ¬ Fits d S) :
    ofText text = .error .malformed := by
  have hn : ({} : StackConfig).overlay d = none := by
    rw [Option.eq_none_iff_forall_ne_some]
    intro c hc
    exact hf (h.exists_overlay_iff.1 ⟨c, hc⟩)
  rw [h.ofText_eq, ofDocument, hn]

theorem Describes.ofText_of_lays (h : Describes text d S) (hs : ∀ s ∈ S, s.1 ∈ sections) (hc : Lays d S c) :
    ofText text = (c.check.mapError .invalid).map fun _ => c := by
  rw [h.ofText_eq, ofDocument, h.overlay_eq_some_iff.2 ⟨hs, hc⟩]
  dsimp only
  cases c.check <;> rfl

/-- What becomes of a text that describes these sections. -/
structure Overlaid (text : String) (d : Document) (S : Sections) : Prop where
  malformed : ¬ Fits d S → ofText text = .error .malformed
  configuration : Fits d S → ∃! c, Lays d S c
  accepted : Fits d S → ∀ c, Lays d S c → (ofText text = .ok c ↔ c.check = .ok ())
  rejected : Fits d S → ∀ c, Lays d S c → ∀ e, c.check = .error e → ofText text = .error (.invalid e)
  /-- Neither the order nor the keys that are no fields matter. -/
  rearranged : ∀ {text' d' S'}, Describes text' d' S' → Rearranged (SameSection d d') S S' →
    (∀ c, Lays d' S' c ↔ Lays d S c) ∧ ofText text' = ofText text

/-- A text that maps sections to keys is malformed, or it stands for the one configuration that holds what is
given and what the default holds beside it, and that is accepted if it passes the check. -/
theorem overlaid (h : Describes text d S) : Overlaid text d S where
  malformed hf := h.ofText_of_not_fits hf
  configuration hf := by
    obtain ⟨c, hc⟩ := h.exists_overlay_iff.2 hf
    obtain ⟨hs, hc⟩ := h.overlay_eq_some_iff.1 hc
    exact ⟨c, hc, fun c' => h.eq_of_lays hs hc⟩
  accepted hf c hc := by
    rw [h.ofText_of_lays hf.1 hc]
    cases c.check with
    | ok => simp [Except.mapError, Except.map]
    | error e => simp [Except.mapError, Except.map]
  rejected hf c hc e he := by
    rw [h.ofText_of_lays hf.1 hc, he]
    rfl
  rearranged {text' d' S'} h' hS := by
    have hS' := hS.symm SameSection.symm
    refine ⟨fun c => ⟨fun hc => hc.of_rearranged hS', fun hc => hc.of_rearranged hS⟩, ?_⟩
    by_cases hf : Fits d S
    · obtain ⟨c, hc⟩ := h.exists_overlay_iff.2 hf
      obtain ⟨hs, hc⟩ := h.overlay_eq_some_iff.1 hc
      rw [h.ofText_of_lays hs hc, h'.ofText_of_lays (hf.of_rearranged hS).1 (hc.of_rearranged hS)]
    · rw [h.ofText_of_not_fits hf, h'.ofText_of_not_fits fun hf' => hf (hf'.of_rearranged hS')]

/-- The same fields in another order, with a key beside them that is no field. -/
theorem overlaid_in_another_order :
    ∃ d S, Describes "tick:\n  stat_period: 7\ndetach:\n  colour: red\n  timeout_ms: 250\n" d S ∧
      Overlaid "tick:\n  stat_period: 7\ndetach:\n  colour: red\n  timeout_ms: 250\n" d S ∧
      ofText "detach:\n  timeout_ms: 250\ntick:\n  stat_period: 7\n" =
        .ok { tick := { statPeriod := 7 }, detach := { timeoutMillis := 250 } } := by
  have h := describes_document "tick:\n  stat_period: 7\ndetach:\n  colour: red\n  timeout_ms: 250\n"
    [("tick", [("stat_period", .scalar none .plain "7")]),
      ("detach", [("colour", .scalar none .plain "red"), ("timeout_ms", .scalar none .plain "250")])]
    (ofText_of_events [.mapping, .scalar none .plain "tick", .mapping,
      .scalar none .plain "stat_period", .scalar none .plain "7", .mappingEnd, .scalar none .plain "detach",
      .mapping, .scalar none .plain "colour", .scalar none .plain "red", .scalar none .plain "timeout_ms",
      .scalar none .plain "250", .mappingEnd, .mappingEnd] (by decide +kernel) rfl)
    (by decide) (by decide)
  have h' := describes_document "detach:\n  timeout_ms: 250\ntick:\n  stat_period: 7\n"
    [("detach", [("timeout_ms", .scalar none .plain "250")]),
      ("tick", [("stat_period", .scalar none .plain "7")])]
    (ofText_of_events [.mapping, .scalar none .plain "detach", .mapping, .scalar none .plain "timeout_ms",
      .scalar none .plain "250", .mappingEnd, .scalar none .plain "tick", .mapping,
      .scalar none .plain "stat_period", .scalar none .plain "7", .mappingEnd, .mappingEnd]
      (by decide +kernel) rfl)
    (by decide) (by decide)
  have hS := ((overlaid h).rearranged h' ⟨_, .swap _ _ _,
    .cons ⟨rfl, _, .refl _, .cons ⟨rfl, rfl⟩ .nil⟩ (.cons ⟨rfl, _, .refl _, .cons ⟨rfl, rfl⟩ .nil⟩ .nil)⟩).2
  exact ⟨_, _, h, overlaid h, hS.trans (by decide +kernel)⟩

end LteUe.StackConfig
