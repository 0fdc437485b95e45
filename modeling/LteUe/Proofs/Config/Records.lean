import LteUe.Proofs.Outcome
import LteUe.Yaml.Value
import Mathlib.Data.List.Forall2
import Mathlib.Data.List.Nodup
import Mathlib.Data.List.Perm.Basic

/-!
# Records in documents

A mapping whose keys are texts is a record (`Document.Maps`). If no key is given twice, a field is what its own
key is given, wherever that stands (`field_of_mem`, `field_of_forall_not_mem`). A record can be read field by
field, and it makes no difference whether that is done inside or outside of it (`mapM_field`).
-/

namespace LteUe

section Rearranged

variable {α β : Type} {R : α → β → Prop} {l : List α} {m : List β}

/-- The second list is the first one in another order, with a member that `R` relates to it for each member. -/
def Rearranged (R : α → β → Prop) (l : List α) (m : List β) : Prop := ∃ l', l.Perm l' ∧ List.Forall₂ R l' m

theorem exists_right_of_forall₂ (h : List.Forall₂ R l m) {a : α} (ha : a ∈ l) : ∃ b ∈ m, R a b := by
  induction h with
  | nil => simp at ha
  | @cons a' b' l m hr _ ih =>
    obtain rfl | ha := List.mem_cons.1 ha
    · exact ⟨b', List.mem_cons_self, hr⟩
    · obtain ⟨b, hb, hab⟩ := ih ha
      exact ⟨b, List.mem_cons_of_mem _ hb, hab⟩

theorem exists_left_of_forall₂ (h : List.Forall₂ R l m) {b : β} (hb : b ∈ m) : ∃ a ∈ l, R a b :=
  exists_right_of_forall₂ h.flip hb

theorem Rearranged.exists_right (h : Rearranged R l m) {a : α} (ha : a ∈ l) : ∃ b ∈ m, R a b := by
  obtain ⟨l', hp, h⟩ := h
  exact exists_right_of_forall₂ h (hp.mem_iff.1 ha)

theorem Rearranged.symm {T : β → α → Prop} (h : Rearranged R l m) (hT : ∀ {a b}, R a b → T b a) :
    Rearranged T m l := by
  obtain ⟨l', hp, h⟩ := h
  obtain ⟨m', h, hp⟩ := List.perm_comp_forall₂ hp h
  exact ⟨m', hp.symm, h.flip.imp fun _ _ => hT⟩

end Rearranged

/-- No key is given twice. -/
def KeysOnce {α : Type} (l : List (String × α)) : Prop := (l.map Prod.fst).Nodup

instance {α : Type} (l : List (String × α)) : Decidable (KeysOnce l) := inferInstanceAs (Decidable (List.Nodup _))

namespace Yaml

variable {α β ι : Type} {l : List (String × Node)} {k : String} {node : Node}

/-! ## Fields -/

theorem map_field (f : α → β) (l : List (String × Node)) (k : String) (read : Node → Option α) (a : α) :
    (field l k read a).map f = field l k (fun node => (read node).map f) (f a) := by
  unfold field
  split <;> rfl

theorem mapM_field {is : List ι} (hi : is ≠ []) (l : List (String × Node)) (k : String)
    (read : ι → Node → Option β) (b : ι → β) :
    field l k (fun node => is.mapM fun i => read i node) (is.map b) = is.mapM fun i => field l k (read i) (b i) := by
  unfold field
  split
  · exact (List.mapM_pure (m := Option) (l := is) (f := b)).symm
  · rfl
  · cases is with
    | nil => exact absurd rfl hi
    | cons i is => simp

theorem filter_key_of_forall_not_mem (hm : ∀ node, (k, node) ∉ l) : l.filter (·.1 == k) = [] := by
  apply List.filter_eq_nil_iff.2
  rintro ⟨k', node⟩ hx hk
  obtain rfl : k' = k := by simpa using hk
  exact hm node hx

theorem filter_key_of_mem (h : KeysOnce l) (hm : (k, node) ∈ l) : l.filter (·.1 == k) = [(k, node)] := by
  induction l with
  | nil => simp at hm
  | cons x l ih =>
    obtain ⟨hx, hl⟩ := List.nodup_cons.1 h
    obtain rfl | hm := List.mem_cons.1 hm
    · rw [List.filter_cons_of_pos (by simp), filter_key_of_forall_not_mem]
      intro node' hm
      exact hx (List.mem_map.2 ⟨_, hm, rfl⟩)
    · have hne : x.1 ≠ k := by
        rintro rfl
        exact hx (List.mem_map.2 ⟨_, hm, rfl⟩)
      rw [List.filter_cons_of_neg (by simpa using hne), ih hl hm]

theorem field_of_mem (h : KeysOnce l) (hm : (k, node) ∈ l) (read : Node → Option α) (a : α) :
    field l k read a = read node := by
  unfold field
  rw [filter_key_of_mem h hm]

theorem field_of_forall_not_mem (hm : ∀ node, (k, node) ∉ l) (read : Node → Option α) (a : α) :
    field l k read a = some a := by
  unfold field
  rw [filter_key_of_forall_not_mem hm]

/-- The scalar that a node is, if it is one. -/
def Document.scalar? (d : Document) (node : Node) : Option Node := do
  match ← d.resolve node with
  | .scalar tag style text => some (.scalar tag style text)
  | _ => none

/-! ## Records -/

/-- A node is a mapping, whose keys read as these names and have these values. -/
def Document.Maps (d : Document) (node : Node) (l : List (String × Node)) : Prop :=
  ∃ entries, d.resolve node = some (.mapping entries) ∧
    List.Forall₂ (fun entry x => d.text? entry.1 = some x.1 ∧ entry.2 = x.2) entries l

theorem Document.Maps.fields?_eq {d : Document} (h : d.Maps node l) : d.fields? node = some l := by
  obtain ⟨entries, hr, h⟩ := h
  rw [Document.fields?, hr]
  clear hr
  show List.mapM _ entries = some l
  induction h with
  | nil => rfl
  | @cons entry x entries l hx _ ih =>
    obtain ⟨key, value⟩ := entry
    rw [List.mapM_cons, ih]
    simp [hx.1, show value = x.2 from hx.2]

/-- The mapping that gives these keys, all of them plain. -/
def Node.ofRecord (l : List (String × Node)) : Node := .mapping (l.map fun x => (.scalar none .plain x.1, x.2))

theorem maps_ofRecord (d : Document) (l : List (String × Node)) : d.Maps (.ofRecord l) l := by
  refine ⟨_, rfl, ?_⟩
  rw [List.forall₂_map_left_iff, List.forall₂_same]
  intro x _
  exact ⟨rfl, rfl⟩

end Yaml

end LteUe
