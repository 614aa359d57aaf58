import Schemata.Proofs.Definition.Kept
import Schemata.Proofs.Number
import Schemata.Proofs.Yaml.Merge.Settled

/-!
# No merge key reaches a template

The names of types and fields, and those of entries of objects, are texts of keys. Expansion leaves
the plain merge key nowhere, and a key with any tag has no text: so the merge key is none of these
names, at any depth (`no_mergeKey_left`). Keys are not expanded themselves; one that holds
a mapping has no text either.
-/

namespace Schemata

open Yaml

namespace Data

/-- A name is that of an entry of an object, at any depth. -/
inductive HasKey (name : String) : Data → Prop where
  | here {entries : List (String × Data)} (h : name ∈ entries.map (·.1)) :
      HasKey name (.object entries)
  | entry {entries : List (String × Data)} {e : String × Data} (h : e ∈ entries)
      (below : HasKey name e.2) : HasKey name (.object entries)
  | item {items : List Data} {d : Data} (h : d ∈ items) (below : HasKey name d) :
      HasKey name (.list items)

variable {name : String}

theorem not_hasKey_list {items : List Data} (h : ∀ d ∈ items, ¬ HasKey name d) :
    ¬ HasKey name (.list items) := by
  rintro (_ | _ | ⟨member, below⟩)
  exact h _ member below

theorem not_hasKey_object {entries : List (String × Data)} (here : name ∉ entries.map (·.1))
    (h : ∀ e ∈ entries, ¬ HasKey name e.2) : ¬ HasKey name (.object entries) := by
  rintro (known | ⟨member, below⟩)
  · exact here known
  · exact h _ member below

end Data

/-! ## Texts of keys -/

theorem write_ne_mergeKey {form : Double.WrittenForm}
    (unnamed : mergeKey ∉ [form.nan, form.infinity, form.negInfinity]) (n : Number) :
    n.write form ≠ mergeKey :=
  Number.write_ne (by decide) unnamed n

theorem toString_ne_mergeKey (b : Bool) : toString b ≠ mergeKey := by
  cases b <;> decide

theorem tag_ne_mergeKey (tag : String) : "!" ++ tag ≠ mergeKey := by
  intro h
  have spelled := congrArg String.toList h
  rw [String.toList_append] at spelled
  cases spelled

/-- Of all keys only the plain merge key has the text of the merge key. -/
def SpellsMergeKey (text : Value → Option String) : Prop :=
  ∀ key, text key = some mergeKey → key = .string mergeKey

theorem Data.spellsMergeKey : SpellsMergeKey keyText := by
  intro key h
  unfold keyText nameOf at h
  cases key with
  | string s => cases h; rfl
  | bool b => exact absurd (Option.some.inj h) (toString_ne_mergeKey b)
  | number n =>
    simp only at h
    split at h
    · exact absurd (Option.some.inj h) (write_ne_mergeKey (by decide) n)
    · cases h
  | _ => cases h

theorem Definition.spellsMergeKey : SpellsMergeKey keyText := by
  intro key h
  unfold keyText fieldName at h
  cases key with
  | string s => cases h; rfl
  | bool b => exact absurd (Option.some.inj h) (toString_ne_mergeKey b)
  | number n => exact absurd (Option.some.inj h) (write_ne_mergeKey (by decide) n)
  | _ => cases h

section

variable {text : Value → Option String} {entries : List (Value × Value)}
  {pairs : List (String × Data)}

theorem StandFor.mergeKey_notMem (spelled : SpellsMergeKey text) (h : StandFor text entries pairs)
    (free : .string mergeKey ∉ entries.map (·.1)) : mergeKey ∉ pairs.map (·.1) := by
  induction h with
  | nil => exact nofun
  | cons first _ ih =>
    rw [List.map_cons, List.mem_cons, not_or] at free ⊢
    exact ⟨fun same => free.1 (spelled _ (same ▸ first.1)).symm, ih free.2⟩

/-- An object in which fields are put together has no names but theirs. -/
theorem not_hasKey_ofList {name : String} (here : name ∉ pairs.map (·.1))
    (h : ∀ e ∈ pairs, ¬ Data.HasKey name e.2) :
    ¬ Data.HasKey name (.object (Fields.ofList pairs)) := by
  refine Data.not_hasKey_object (fun known => here ?_) fun e he => h e (Fields.mem_of_mem_ofList he)
  obtain ⟨e, he, same⟩ := List.mem_map.mp known
  exact List.mem_map.mpr ⟨e, Fields.mem_of_mem_ofList he, same⟩

end

namespace Data

mutual

/-- A value without the plain merge key is seen without a merge key. -/
theorem not_hasKey_of_mergeFree : ∀ {v : Value} {d : Data}, v.MergeFree → ofValue v = .ok d →
    ¬ HasKey mergeKey d
  | .seq items, d, free, h => by
    obtain ⟨ds, hd, rfl⟩ := Outcome.map_eq_ok_iff.mp h
    exact not_hasKey_list (not_hasKey_items (Value.mergeFree_seq_iff.mp free) hd)
  | .map entries, d, free, h => by
    simp only [ofValue, Outcome.bind_eq_ok_iff, Outcome.pure_eq_ok_iff] at h
    obtain ⟨pairs, hp, rfl⟩ := h
    rw [Value.mergeFree_map_iff] at free
    have stand := standFor_of_ofEntries hp
    exact not_hasKey_ofList (stand.mergeKey_notMem spellsMergeKey free.1)
      (not_hasKey_entries free.2 stand)
  | .tagged tag v, d, free, h => by
    simp only [ofValue, Outcome.bind_eq_ok_iff, Outcome.pure_eq_ok_iff] at h
    obtain ⟨inner, hi, rfl⟩ := h
    have below := not_hasKey_of_mergeFree (Value.mergeFree_tagged_iff.mp free) hi
    refine not_hasKey_object (fun known => ?_) (by simpa using below)
    exact tag_ne_mergeKey tag (List.mem_singleton.mp known).symm
  | .null, d, _, h | .bool _, d, _, h | .string _, d, _, h => by
    cases h
    exact nofun
  | .number n, d, _, h => by
    cases h
    unfold ofNumber
    split <;> exact nofun

theorem not_hasKey_items : ∀ {items : List Value} {ds : List Data},
    (∀ v ∈ items, v.MergeFree) → ofItems items = .ok ds → ∀ d ∈ ds, ¬ HasKey mergeKey d
  | [], ds, _, h => by
    cases h
    exact nofun
  | v :: rest, ds, free, h => by
    rw [List.forall_mem_cons] at free
    simp only [ofItems, Outcome.bind_eq_ok_iff, Outcome.pure_eq_ok_iff] at h
    obtain ⟨d, hd, later, hl, rfl⟩ := h
    exact List.forall_mem_cons.mpr
      ⟨not_hasKey_of_mergeFree free.1 hd, not_hasKey_items free.2 hl⟩

theorem not_hasKey_entries {text : Value → Option String} :
    ∀ {entries : List (Value × Value)} {pairs : List (String × Data)},
      (∀ e ∈ entries, e.2.MergeFree) → StandFor text entries pairs →
        ∀ f ∈ pairs, ¬ HasKey mergeKey f.2
  | [], _, _, .nil => nofun
  | (_, v) :: rest, (_, d) :: pairs, free, .cons first later => by
    rw [List.forall_mem_cons] at free ⊢
    exact ⟨not_hasKey_of_mergeFree free.1 first.2, not_hasKey_entries free.2 later⟩

end

end Data

theorem Definition.mergeKey_notMem {v : Value} {d : Definition} (free : v.MergeFree)
    (h : ofValue v = .ok d) : mergeKey ∉ d.fieldNames ∧ ¬ Data.HasKey mergeKey d.data := by
  cases v with
  | map entries =>
    obtain ⟨fields, hf, rfl⟩ := Outcome.map_eq_ok_iff.mp h
    rw [Value.mergeFree_map_iff] at free
    have stand := standFor_of_fieldsOf hf
    have here := stand.mergeKey_notMem spellsMergeKey free.1
    exact ⟨here, not_hasKey_ofList here (Data.not_hasKey_entries free.2 stand)⟩
  | seq items =>
    obtain ⟨ds, hd, rfl⟩ := Outcome.map_eq_ok_iff.mp h
    have below := Data.not_hasKey_items (Value.mergeFree_seq_iff.mp free)
      (Outcome.mapError_eq_ok_iff.mp hd)
    exact ⟨nofun, Data.not_hasKey_list below⟩
  | _ =>
    obtain ⟨value, hv, rfl⟩ := Outcome.map_eq_ok_iff.mp h
    exact ⟨nofun, Data.not_hasKey_of_mergeFree free (Outcome.mapError_eq_ok_iff.mp hv)⟩

/-- **No merge key is left.** An expanded value has the plain merge key in no mapping that is
reached, so that a second expansion changes nothing; and in a file that decodes no type and no
field is named by it, nor any entry of the data that a template sees of a payload. -/
theorem no_mergeKey_left :
    (∀ v w : Value, v.expand = .ok w →
      (∀ entries, Value.Reaches w (.map entries) → .string mergeKey ∉ entries.map (·.1)) ∧
      w.expand = .ok w) ∧
    ∀ path octets c, decode path octets = .ok c →
      mergeKey ∉ c.names ∧
      ∀ t ∈ c.entries, mergeKey ∉ t.definition.fieldNames ∧
        ¬ Data.HasKey mergeKey t.definition.data := by
  refine ⟨fun v w h => ?expanded, fun path octets c h => ?decoded⟩
  case expanded =>
    have free : w.MergeFree := Value.mergeFree_of_expand h
    exact ⟨free, free.expand_eq⟩
  case decoded =>
    obtain ⟨entries, ⟨-, document, -, expanded⟩, declares⟩ := decode_eq_ok_iff.mp h
    have free := Value.mergeFree_map_iff.mp (Value.mergeFree_of_expand expanded)
    have keys := keys_of_declares declares
    refine ⟨fun known => free.1 ?_, ?_⟩
    · obtain ⟨t, ht, same⟩ := List.mem_map.mp known
      rw [keys]
      exact List.mem_map.mpr ⟨t, ht, by rw [same]⟩
    · intro t ht
      obtain ⟨e, he, declared⟩ := exists_entry_of_declares declares t ht
      exact Definition.mergeKey_notMem (free.2 e he) declared.payload

end Schemata
