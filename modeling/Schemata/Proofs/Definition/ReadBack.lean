import Schemata.Data.Access
import Schemata.Proofs.Definition.Kept
import Schemata.Proofs.Definition.Refusal

/-!
# Payloads read back

Template data can be read as a document value again (`Data.toValue`). For a payload without tags
whose keys are strings that is the payload itself, but for the numbers that are not finite, which
templates see as null (`fields_readBack`). So such payloads reach a template whole, and different
ones are seen as different.
-/

namespace Schemata

open Yaml

/-! ## Plain values -/

namespace Yaml.Value

/-- A value without tags in which all keys are strings, and in no mapping, as in all that are read,
one of them twice. -/
structure Plain (v : Value) : Prop where
  wellFormed : v.WellFormed
  untagged : ∀ tag w, ¬ Reaches v (.tagged tag w)
  stringKeys : v.StringKeys

/-- All numbers in a value are finite. -/
def Finite (v : Value) : Prop := ∀ n, Reaches v (.number n) → n.isFinite

mutual

/-- The value with null in the place of each number that is not finite. -/
def nulled : Value → Value
  | .number n => if n.isFinite then .number n else .null
  | .seq items => .seq (nulledItems items)
  | .map entries => .map (nulledEntries entries)
  | .tagged tag v => .tagged tag v.nulled
  | v => v

def nulledItems : List Value → List Value
  | [] => []
  | v :: rest => v.nulled :: nulledItems rest

/-- Only the values of entries are changed. -/
def nulledEntries : List (Value × Value) → List (Value × Value)
  | [] => []
  | (k, v) :: rest => (k, v.nulled) :: nulledEntries rest

end

variable {v w : Value} {items : List Value} {entries : List (Value × Value)}

theorem Plain.of_reaches (h : v.Plain) (r : Reaches v w) : w.Plain where
  wellFormed := h.wellFormed.of_reaches r
  untagged tag u below := h.untagged tag u (r.trans below)
  stringKeys := h.stringKeys.of_reaches r

theorem Finite.of_reaches (h : v.Finite) (r : Reaches v w) : w.Finite :=
  fun n below => h n (r.trans below)

theorem plain_seq_iff : (seq items).Plain ↔ ∀ v ∈ items, v.Plain := by
  constructor
  · intro h v hv
    exact h.of_reaches (.item hv (.refl v))
  · intro h
    refine ⟨wellFormedItems_iff.mpr fun v hv => (h v hv).wellFormed, ?_,
      stringKeysItems_iff.mpr fun v hv => (h v hv).stringKeys⟩
    rintro tag w (_ | ⟨hv, below⟩)
    exact (h _ hv).untagged tag w below

theorem plain_map_iff :
    (map entries).Plain ↔
      Entries.Distinct entries ∧ ∀ e ∈ entries, (∃ s, e.1 = .string s) ∧ e.2.Plain := by
  constructor
  · intro h
    have strings := stringKeysEntries_iff.mp h.stringKeys
    exact ⟨h.wellFormed.1, fun e he => ⟨(strings e he).1, h.of_reaches (.entry he (.refl e.2))⟩⟩
  · rintro ⟨distinct, h⟩
    have wellFormed := wellFormedEntries_iff.mpr fun e he => (h e he).2.wellFormed
    have strings := stringKeysEntries_iff.mpr fun e he => ⟨(h e he).1, (h e he).2.stringKeys⟩
    refine ⟨⟨distinct, wellFormed⟩, ?_, strings⟩
    rintro tag w (_ | _ | _ | ⟨he, below⟩)
    exact (h _ he).2.untagged tag w below

/-- A value that holds nothing is plain. -/
theorem plain_of_parts_eq_nil (h : v.parts = []) : v.Plain := by
  cases v with
  | seq items =>
    cases h
    exact plain_seq_iff.mpr (List.forall_mem_nil _)
  | map entries =>
    rw [parts, List.map_eq_nil_iff] at h
    cases h
    exact plain_map_iff.mpr ⟨List.nodup_nil, List.forall_mem_nil _⟩
  | tagged tag v => cases h
  | _ =>
    refine ⟨trivial, ?_, trivial⟩
    rintro _ _ ⟨⟩

mutual

/-- Where all numbers are finite, nothing becomes null. -/
theorem nulled_of_finite : ∀ {v : Value}, v.Finite → v.nulled = v
  | .number n, h => by
    have finite : n.isFinite := h n (.refl _)
    rw [nulled, if_pos finite]
  | .seq items, h => by
    rw [nulled, nulledItems_of_finite fun v hv => h.of_reaches (.item hv (.refl v))]
  | .map entries, h => by
    rw [nulled, nulledEntries_of_finite fun e he => h.of_reaches (.entry he (.refl e.2))]
  | .tagged tag v, h => by
    rw [nulled, nulled_of_finite (h.of_reaches (.tagged (.refl v)))]
  | .null, _ | .bool _, _ | .string _, _ => rfl

theorem nulledItems_of_finite : ∀ {items : List Value},
    (∀ v ∈ items, v.Finite) → nulledItems items = items
  | [], _ => rfl
  | v :: rest, h => by
    rw [List.forall_mem_cons] at h
    rw [nulledItems, nulled_of_finite h.1, nulledItems_of_finite h.2]

theorem nulledEntries_of_finite : ∀ {entries : List (Value × Value)},
    (∀ e ∈ entries, e.2.Finite) → nulledEntries entries = entries
  | [], _ => rfl
  | (k, v) :: rest, h => by
    rw [List.forall_mem_cons] at h
    rw [nulledEntries, nulled_of_finite h.1, nulledEntries_of_finite h.2]

end

end Yaml.Value

/-! ## Data as values -/

namespace Data

mutual

/-- Template data read as a document value: objects are mappings, with the entries in order. -/
def toValue : Data → Value
  | .null => .null
  | .bool b => .bool b
  | .number n => .number n
  | .string s => .string s
  | .list items => .seq (toItems items)
  | .object entries => .map (toEntries entries)

def toItems : List Data → List Value
  | [] => []
  | d :: rest => d.toValue :: toItems rest

def toEntries : List (String × Data) → List (Value × Value)
  | [] => []
  | (name, d) :: rest => (.string name, d.toValue) :: toEntries rest

end

theorem toValue_ofNumber (n : Number) : (ofNumber n).toValue = (Value.number n).nulled := by
  unfold ofNumber Value.nulled
  split <;> rfl

mutual

/-- What is seen of a plain value is the value. -/
theorem readBack : ∀ {v : Value}, v.Plain → ∃ d, ofValue v = .ok d ∧ d.toValue = v.nulled
  | .seq items, h => by
    obtain ⟨ds, seen, same⟩ := readBackItems (Value.plain_seq_iff.mp h)
    refine ⟨.list ds, ?_, ?_⟩
    · rw [ofValue, seen]
      rfl
    · rw [toValue, Value.nulled, same]
  | .map entries, h => by
    obtain ⟨distinct, each⟩ := Value.plain_map_iff.mp h
    obtain ⟨pairs, seen, same⟩ := readBackEntries each
    have apart : (texts keyText entries).Nodup :=
      nodup_texts_of_strings (fun _ => rfl) distinct fun e he => (each e he).1
    rw [(standFor_of_ofEntries seen).texts_eq, nodup_map_some_iff] at apart
    refine ⟨.object pairs, ?_, ?_⟩
    · rw [ofValue, seen]
      exact congrArg (fun fields => Except.ok (Data.object fields)) (Fields.ofList_of_nodup apart)
    · rw [toValue, Value.nulled, same]
  | .tagged tag v, h => absurd (.refl _) (h.untagged tag v)
  | .number n, _ => ⟨ofNumber n, rfl, toValue_ofNumber n⟩
  | .null, _ => ⟨.null, rfl, rfl⟩
  | .bool b, _ => ⟨.bool b, rfl, rfl⟩
  | .string s, _ => ⟨.string s, rfl, rfl⟩

theorem readBackItems : ∀ {items : List Value}, (∀ v ∈ items, v.Plain) →
    ∃ ds, ofItems items = .ok ds ∧ toItems ds = Value.nulledItems items
  | [], _ => ⟨[], rfl, rfl⟩
  | v :: rest, h => by
    rw [List.forall_mem_cons] at h
    obtain ⟨d, seen, same⟩ := readBack h.1
    obtain ⟨ds, later, sameLater⟩ := readBackItems h.2
    refine ⟨d :: ds, ?_, ?_⟩
    · rw [ofItems, seen, later]
      rfl
    · rw [toItems, Value.nulledItems, same, sameLater]

theorem readBackEntries : ∀ {entries : List (Value × Value)},
    (∀ e ∈ entries, (∃ s, e.1 = .string s) ∧ e.2.Plain) →
    ∃ pairs, ofEntries entries = .ok pairs ∧ toEntries pairs = Value.nulledEntries entries
  | [], _ => ⟨[], rfl, rfl⟩
  | (k, v) :: rest, h => by
    rw [List.forall_mem_cons] at h
    obtain ⟨name, rfl⟩ := h.1.1
    obtain ⟨d, seen, same⟩ := readBack h.1.2
    obtain ⟨pairs, later, sameLater⟩ := readBackEntries h.2
    refine ⟨(name, d) :: pairs, ?_, ?_⟩
    · rw [ofEntries, nameOf, seen, later]
      rfl
    · rw [toEntries, Value.nulledEntries, same, sameLater]

end

end Data

/-! ## Payloads -/

namespace Definition

/-- Under string keys the names of fields are those of entries. -/
theorem fieldsOf_of_strings {entries : List (Value × Value)}
    (strings : ∀ e ∈ entries, ∃ s, e.1 = .string s) :
    fieldsOf entries = (Data.ofEntries entries).mapError .payload := by
  induction entries with
  | nil => rfl
  | cons e rest ih =>
    obtain ⟨k, v⟩ := e
    rw [List.forall_mem_cons] at strings
    obtain ⟨name, rfl⟩ := strings.1
    rw [fieldsOf, fieldName, payload, Data.ofEntries, Data.nameOf, ih strings.2]
    cases Data.ofValue v with
    | error fault => rfl
    | ok d => cases Data.ofEntries rest <;> rfl

/-- Where the own keys of a payload are strings, it is seen as the value that it is. -/
theorem data_ofValue {v : Value} {seen : Data}
    (strings : ∀ entries, v = .map entries → ∀ e ∈ entries, ∃ s, e.1 = .string s)
    (h : Data.ofValue v = .ok seen) : ∃ d, ofValue v = .ok d ∧ d.data = seen := by
  cases v with
  | map entries =>
    simp only [Data.ofValue, Outcome.bind_eq_ok_iff, Outcome.pure_eq_ok_iff] at h
    obtain ⟨pairs, hp, rfl⟩ := h
    refine ⟨.mapping pairs, ?_, rfl⟩
    rw [ofValue, fieldsOf_of_strings (strings entries rfl), hp]
    rfl
  | seq items =>
    obtain ⟨ds, hd, rfl⟩ := Outcome.map_eq_ok_iff.mp h
    refine ⟨.sequence ds, ?_, rfl⟩
    rw [ofValue, hd]
    rfl
  | _ =>
    refine ⟨.scalar seen, ?_, rfl⟩
    rw [ofValue, payload, h]
    · rfl
    all_goals rintro _ ⟨⟩

theorem readBack {v : Value} (h : v.Plain) :
    ∃ d, ofValue v = .ok d ∧ d.data.toValue = v.nulled := by
  obtain ⟨seen, hv, same⟩ := Data.readBack h
  have strings (entries : List (Value × Value)) (same : v = .map entries) :
      ∀ e ∈ entries, ∃ s, e.1 = .string s := by
    subst same
    exact fun e he => (Value.stringKeysEntries_iff.mp h.stringKeys e he).1
  obtain ⟨d, hd, rfl⟩ := data_ofValue strings hv
  exact ⟨d, hd, same⟩

end Definition

/-- **A plain payload reaches a template whole.** It is a definition, and the fields that a template
sees of it, read as a value, are the payload with null for each number that is not finite. So of two
plain payloads with finite numbers that differ in anything, different fields are seen. -/
theorem fields_readBack {v : Value} (plain : v.Plain) :
    ∃ d, Definition.ofValue v = .ok d ∧
      (∀ t : TypeDefinition, t.definition = d →
        ∃ fields, t.data.child? "fields" = some fields ∧ fields.toValue = v.nulled) ∧
      ∀ w e, w.Plain → Definition.ofValue w = .ok e → v.Finite → w.Finite → v ≠ w →
        ∀ t u : TypeDefinition, t.definition = d → u.definition = e →
          t.data.child? "fields" ≠ u.data.child? "fields" := by
  obtain ⟨d, seen, same⟩ := Definition.readBack plain
  refine ⟨d, seen, ?fields, ?apart⟩
  case fields =>
    rintro t rfl
    exact ⟨t.definition.data, rfl, same⟩
  case apart =>
    rintro w e plainW seenW finiteV finiteW different t u rfl rfl alike
    obtain ⟨e, seenE, sameE⟩ := Definition.readBack plainW
    cases seenW.symm.trans seenE
    have fields : t.definition.data = u.definition.data := Option.some.inj alike
    apply different
    calc v = v.nulled := (Value.nulled_of_finite finiteV).symm
      _ = t.definition.data.toValue := same.symm
      _ = u.definition.data.toValue := by rw [fields]
      _ = w.nulled := sameE
      _ = w := Value.nulled_of_finite finiteW

/-- A list with a number that is not finite, and a mapping whose keys are not in order. -/
def nestedPayload : Value :=
  .map [(.string "b", .seq [.number (.int 1), .number (.float ⟨0⟩), .number (.float Double.nan)]),
    (.string "a", .map [(.string "y", .bool true), (.string "x", .null)])]

theorem fields_readBack_nested :
    nestedPayload.Plain ∧
    ∃ d, Definition.ofValue nestedPayload = .ok d ∧
      (∀ t : TypeDefinition, t.definition = d →
        ∃ fields, t.data.child? "fields" = some fields ∧ fields.toValue = nestedPayload.nulled) ∧
      ∀ w e, w.Plain → Definition.ofValue w = .ok e → nestedPayload.Finite → w.Finite →
        nestedPayload ≠ w → ∀ t u : TypeDefinition, t.definition = d → u.definition = e →
          t.data.child? "fields" ≠ u.data.child? "fields" := by
  have leaf {v : Value} (h : v.parts = []) : v.Plain := Value.plain_of_parts_eq_nil h
  have numbers : (Value.seq [.number (.int 1), .number (.float ⟨0⟩),
      .number (.float Double.nan)]).Plain := by
    refine Value.plain_seq_iff.mpr ?_
    simp only [List.forall_mem_cons]
    exact ⟨leaf rfl, leaf rfl, leaf rfl, nofun⟩
  have unordered : (Value.map [(.string "y", .bool true), (.string "x", .null)]).Plain := by
    refine Value.plain_map_iff.mpr ⟨by decide, ?_⟩
    simp only [List.forall_mem_cons]
    exact ⟨⟨⟨_, rfl⟩, leaf rfl⟩, ⟨⟨_, rfl⟩, leaf rfl⟩, nofun⟩
  have plain : nestedPayload.Plain := by
    refine Value.plain_map_iff.mpr ⟨by decide, ?_⟩
    simp only [List.forall_mem_cons]
    exact ⟨⟨⟨_, rfl⟩, numbers⟩, ⟨⟨_, rfl⟩, unordered⟩, nofun⟩
  exact ⟨plain, fields_readBack plain⟩

end Schemata
