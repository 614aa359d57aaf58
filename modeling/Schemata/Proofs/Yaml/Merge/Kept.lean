import Schemata.Proofs.Decode
import Schemata.Proofs.Yaml.Merge.Refusal
import Schemata.Proofs.Yaml.Read

/-!
# Which entries expansion consumes

Whether a mapping merges anything is asked of its keys as they are, and which of its entries it
merges of the keys without their tags. So an entry under a tagged merge key is kept in one mapping
and consumed in another, which has the plain merge key too (`Value.consumed_of_expand`). A file with
a key that no field can have is read in that way (`Value.not_keepsOthers_taggedMerge`).
-/

namespace Schemata.Yaml

/-! ## Values by key -/

namespace Entries

variable {entries others : List (Value × Value)}

theorem lookup_congr {k l : Value} (h : k.code = l.code) : lookup entries k = lookup entries l := by
  simp [lookup, Value.same, h]

theorem lookup_overriddenBy (entries others : List (Value × Value)) (key : Value) :
    lookup (overriddenBy entries others) key =
      (lookup entries key).map fun v => (lookup others key).getD v := by
  induction entries with
  | nil => rfl
  | cons e rest ih =>
    have step : overriddenBy (e :: rest) others =
        (e.1, (lookup others e.1).getD e.2) :: overriddenBy rest others := rfl
    rw [step, lookup_cons, lookup_cons, ih]
    by_cases h : e.1.code = key.code
    · rw [if_pos h, if_pos h, lookup_congr h, Option.map_some]
    · rw [if_neg h, if_neg h]

theorem lookup_without (entries others : List (Value × Value)) (key : Value) :
    lookup (without entries others) key =
      if contains others key then none else lookup entries key := by
  induction entries with
  | nil => simp [without, lookup]
  | cons e rest ih =>
    unfold without at ih ⊢
    by_cases h : e.1.code = key.code
    · have same : contains others e.1 = contains others key := by
        rw [Bool.eq_iff_iff, contains_iff, contains_iff, h]
      by_cases known : contains others key
      · simp [same, known, ih]
      · simp [same, known, lookup_cons, h]
    · by_cases known : contains others e.1
      · simp [known, ih, lookup_cons, h]
      · simp [known, ih, lookup_cons, h]

/-- Under each key stands the own value, or else what the sources give. -/
theorem lookup_resolved (plain : hasMergeKey entries) (key : Value) :
    lookup (resolved entries) key =
      (lookup (own entries) key).or (lookup (inherited entries) key) := by
  rw [resolved, if_pos plain, lookup_append, lookup_overriddenBy, lookup_without]
  cases found : lookup (inherited entries) key with
  | none =>
    have unknown : ¬ contains (inherited entries) key :=
      mt contains_iff.mp (lookup_eq_none_iff.mp found)
    rw [if_neg unknown, Option.or_none]
    rfl
  | some v =>
    cases lookup (own entries) key <;> rfl

variable {e : Value × Value}

/-- An entry is left as it is unless it is a merge entry and its mapping has the plain merge key. -/
theorem lookup_resolved_of_own (hd : Distinct entries) (he : e ∈ entries)
    (unmerged : hasMergeKey entries → ¬ isMerge e) :
    lookup (resolved entries) e.1 = some e.2 := by
  by_cases plain : hasMergeKey entries
  · have member : e ∈ own entries :=
      List.mem_filter.mpr ⟨he, by simpa using unmerged plain⟩
    have distinct : Distinct (own entries) := hd.filter _
    rw [lookup_resolved plain, lookup_of_mem distinct member, Option.some_or]
  · rw [resolved, if_neg plain, lookup_of_mem hd he]

/-- Under the key of a merge entry stands only what the sources give. -/
theorem lookup_resolved_of_isMerge (hd : Distinct entries) (plain : hasMergeKey entries)
    (he : e ∈ entries) (merged : isMerge e) :
    lookup (resolved entries) e.1 = lookup (inherited entries) e.1 := by
  have no_own : lookup (own entries) e.1 = none := by
    rw [lookup_eq_none_iff]
    intro known
    obtain ⟨f, hf, same⟩ := List.mem_map.mp known
    obtain ⟨hf, other⟩ := List.mem_filter.mp hf
    have here : f = e := List.inj_on_of_nodup_map hd hf he same
    rw [here, merged] at other
    cases other
  rw [lookup_resolved plain, no_own, Option.none_or]

end Entries

/-! ## Expansion -/

namespace Value

/-- An entry is kept: its own value, expanded, stands under its key. -/
def Kept (expanded : List (Value × Value)) (e : Value × Value) : Prop :=
  ∃ own, e.2.expand = .ok own ∧ Entries.lookup expanded e.1 = some own

/-- All entries are kept but the one under the plain merge key. -/
def KeepsOthers (entries expanded : List (Value × Value)) : Prop :=
  ∀ e ∈ entries, e.1 ≠ .string mergeKey → Kept expanded e

/-- The merge key stands both as it is and with a tag. -/
def MixesMergeKeys (entries : List (Value × Value)) : Prop :=
  .string mergeKey ∈ entries.map (·.1) ∧
    ∃ e ∈ entries, e.1.text? = some mergeKey ∧ e.1 ≠ .string mergeKey

variable {v w : Value} {entries : List (Value × Value)}

/-- **Which entries of a mapping expansion consumes.** Only the one under the plain merge key,
unless the mapping has a tagged one beside it. Then both are consumed, and under their keys stands
what the sources have there. An entry under any other key is always kept. -/
theorem consumed_of_expand (hv : v.WellFormed) (h : v.expand = .ok w)
    (hr : Reaches v (.map entries)) :
    ∃ expanded, (Value.map entries).expand = .ok (.map expanded) ∧
      (¬ MixesMergeKeys entries → KeepsOthers entries expanded) ∧
      (∀ e ∈ entries, e.1.text? ≠ some mergeKey → Kept expanded e) ∧
      (.string mergeKey ∈ entries.map (·.1) → ∀ e ∈ entries, e.1.text? = some mergeKey →
        Entries.lookup expanded e.1 =
          Entries.lookup (Entries.inherited (resolvedEntries entries)) e.1) := by
  obtain ⟨x, hx⟩ := exists_expand_of_reaches h hr
  obtain ⟨below, merged, he, hm, rfl⟩ := expand_map_eq_ok_iff.mp hx
  have hw : (Value.map entries).WellFormed := hv.of_reaches hr
  have keys := keys_of_expandEntries he
  have distinct : Entries.Distinct below := by
    rw [Entries.Distinct, Entries.codes_eq_of_keys keys]
    exact hw.1
  have plain : Entries.hasMergeKey below ↔ .string mergeKey ∈ entries.map (·.1) := by
    rw [Entries.hasMergeKey_iff, keys]
  have each := Outcome.exists_of_forall₂ (expandEntries_eq_ok_iff.mp he)
  have kept (e : Value × Value) (member : e ∈ entries)
      (unmerged : .string mergeKey ∈ entries.map (·.1) → e.1.text? ≠ some mergeKey) :
      Kept merged e := by
    obtain ⟨f, hf, key, expands⟩ := each e member
    refine ⟨f.2, expands, ?_⟩
    rw [Entries.merge_eq_resolved distinct hm, ← key]
    refine Entries.lookup_resolved_of_own distinct hf fun there => ?_
    simpa [Entries.isMerge, key] using unmerged (plain.mp there)
  refine ⟨merged, hx, ?others, ?apart, ?consumed⟩
  case others =>
    intro unmixed e member other
    exact kept e member fun there merge => unmixed ⟨there, e, member, merge, other⟩
  case apart =>
    intro e member other
    exact kept e member fun _ => other
  case consumed =>
    intro there e member merge
    obtain ⟨f, hf, key, -⟩ := each e member
    rw [← resolvedEntries_of_expand hw.2 he, Entries.merge_eq_resolved distinct hm, ← key]
    exact Entries.lookup_resolved_of_isMerge distinct (plain.mpr there) hf
      (by simpa [Entries.isMerge, key] using merge)

/-- An entry under the merge key with a tag. -/
def taggedEntry : Value × Value :=
  (.tagged "t" (.string "<<"), .map [(.string "b", .string "int")])

def taggedMerge : List (Value × Value) :=
  [(.string "<<", .map [(.string "a", .string "int")]), taggedEntry]

def taggedMerged : List (Value × Value) :=
  [(.string "a", .string "int"), (.string "b", .string "int")]

theorem expand_taggedMerge : (Value.map taggedMerge).expand = .ok (.map taggedMerged) := rfl

theorem consumed_of_expand_taggedMerge :
    (Value.map taggedMerge).WellFormed ∧
    (Value.map taggedMerge).expand = .ok (.map taggedMerged) ∧
    Reaches (.map taggedMerge) (.map taggedMerge) ∧
    ∃ expanded, (Value.map taggedMerge).expand = .ok (.map expanded) ∧
      (¬ MixesMergeKeys taggedMerge → KeepsOthers taggedMerge expanded) ∧
      (∀ e ∈ taggedMerge, e.1.text? ≠ some mergeKey → Kept expanded e) ∧
      (.string mergeKey ∈ taggedMerge.map (·.1) → ∀ e ∈ taggedMerge, e.1.text? = some mergeKey →
        Entries.lookup expanded e.1 =
          Entries.lookup (Entries.inherited (resolvedEntries taggedMerge)) e.1) := by
  have whole : (Value.map taggedMerge).WellFormed := by
    simp [taggedMerge, taggedEntry, WellFormed, WellFormedEntries, Entries.Distinct, code, codeText]
  exact ⟨whole, expand_taggedMerge, .refl _,
    consumed_of_expand whole expand_taggedMerge (.refl _)⟩

def taggedMergeFile : List UInt8 :=
  "T: \x7b<<: \x7ba: int\x7d, !t <<: \x7bb: int\x7d\x7d\n".toUTF8.toList

def taggedMergeType : TypeDefinition :=
  { name := "T", definition := .mapping [("a", .string "int"), ("b", .string "int")]
    source := "t.yaml" }

/-- **An entry is lost for its neighbour.** Alone it is kept under its key, and refused as a field;
beside the plain merge key it is merged, and the file decodes. -/
theorem not_keepsOthers_taggedMerge :
    Value.ofOctets taggedMergeFile = .ok (.map [(.string "T", .map taggedMerge)]) ∧
    (Value.map taggedMerge).expand = .ok (.map taggedMerged) ∧
    ¬ KeepsOthers taggedMerge taggedMerged ∧
    decode "t.yaml" taggedMergeFile = .ok { entries := [taggedMergeType] } ∧
    (Value.map [taggedEntry]).expand = .ok (.map [taggedEntry]) ∧
    KeepsOthers [taggedEntry] [taggedEntry] ∧
    Definition.ofValue (.map [taggedEntry]) = .error (.fieldName .tagged) := by
  have read : Value.ofOctets taggedMergeFile = .ok (.map [(.string "T", .map taggedMerge)]) :=
    Value.ofOctets_eq_ok (by decide +kernel)
  have decoded : decode "t.yaml" taggedMergeFile = .ok { entries := [taggedMergeType] } :=
    decode_eq_ok_iff.mpr ⟨_, ⟨by decide +kernel, _, read, rfl⟩, .cons ⟨rfl, rfl, rfl⟩ .nil⟩
  refine ⟨read, expand_taggedMerge, ?lost, decoded, rfl, ?kept, rfl⟩
  case lost =>
    intro kept
    have member : taggedEntry ∈ taggedMerge := by simp [taggedMerge]
    obtain ⟨own, -, there⟩ := kept _ member nofun
    cases there
  case kept =>
    rintro e (_ | ⟨_, ⟨⟩⟩) -
    exact ⟨_, rfl, rfl⟩

end Value

end Schemata.Yaml
