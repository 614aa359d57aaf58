import Schemata.Data.Access
import Schemata.Proofs.Decode
import Schemata.Proofs.Header
import Schemata.Proofs.Yaml.Read

/-!
# The kind of a type and the shape of its fields

A template sees the kind of a type under `kind` and its payload under `fields`. `KindTold` says that
the two agree. They do for a payload without a tag; one under a tag counts as a scalar, and is seen
as an object with one field that is named by the tag (`Hidden`).
-/

namespace Schemata

open Yaml

/-- The kind that a template sees is the shape of the fields that it sees. -/
structure KindTold (t : TypeDefinition) : Prop where
  mapping : t.data.child? "kind" = some (.string "mapping") ↔
    ∃ fields, t.data.child? "fields" = some (.object fields)
  sequence : t.data.child? "kind" = some (.string "sequence") ↔
    ∃ items, t.data.child? "fields" = some (.list items)
  scalar : t.data.child? "kind" = some (.string "scalar") ↔
    (∀ fields, t.data.child? "fields" ≠ some (.object fields)) ∧
      ∀ items, t.data.child? "fields" ≠ some (.list items)

/-- Data that is neither an object nor a list. -/
def Data.IsLeaf (d : Data) : Prop := (∀ fields, d ≠ .object fields) ∧ ∀ items, d ≠ .list items

section

variable {t : TypeDefinition} {path : String} {e : Value × Value}

theorem child?_kind (t : TypeDefinition) :
    t.data.child? "kind" = some (.string t.definition.kind) := rfl

theorem child?_fields (t : TypeDefinition) : t.data.child? "fields" = some t.definition.data := rfl

/-- Only a scalar can be told wrong. -/
theorem kindTold_iff : KindTold t ↔ ∀ value, t.definition = .scalar value → value.IsLeaf := by
  obtain ⟨name, definition, source⟩ := t
  constructor
  · intro told value scalar
    cases scalar
    have leaf := told.scalar.mp rfl
    rw [child?_fields] at leaf
    exact ⟨fun fields h => leaf.1 fields (congrArg some h),
      fun items h => leaf.2 items (congrArg some h)⟩
  · intro leaf
    suffices told : (definition.kind = "mapping" ↔ ∃ fields, definition.data = .object fields) ∧
        (definition.kind = "sequence" ↔ ∃ items, definition.data = .list items) ∧
        (definition.kind = "scalar" ↔ definition.data.IsLeaf) by
      obtain ⟨mapping, sequence, scalar⟩ := told
      refine ⟨?_, ?_, ?_⟩
      · simpa [child?_kind, child?_fields] using mapping
      · simpa [child?_kind, child?_fields] using sequence
      · simpa [child?_kind, child?_fields, Data.IsLeaf] using scalar
    cases definition with
    | mapping fields => simp [Definition.kind, Definition.data, Data.IsLeaf]
    | sequence items => simp [Definition.kind, Definition.data, Data.IsLeaf]
    | scalar value =>
      obtain ⟨noObject, noList⟩ := leaf value rfl
      simp [Definition.kind, Definition.data, Data.IsLeaf, noObject, noList]

/-- A payload under a tag is a scalar with one part, whatever the tag stands on. -/
theorem ofValue_tagged_eq_ok_iff {tag : String} {v : Value} {d : Definition} :
    Definition.ofValue (.tagged tag v) = .ok d ↔
      ∃ inner, Data.ofValue v = .ok inner ∧ d = .scalar (.object [("!" ++ tag, inner)]) := by
  simp only [Definition.ofValue, Definition.payload, Data.ofValue, Outcome.map_eq_ok_iff,
    Outcome.mapError_eq_ok_iff, Outcome.bind_eq_ok_iff, Outcome.pure_eq_ok_iff]
  constructor
  · rintro ⟨_, ⟨inner, seen, rfl⟩, rfl⟩
    exact ⟨inner, seen, rfl⟩
  · rintro ⟨inner, seen, rfl⟩
    exact ⟨_, ⟨inner, seen, rfl⟩, rfl⟩

/-- Only under a tag does a scalar have parts. -/
theorem isLeaf_iff {v : Value} {value : Data} (h : Definition.ofValue v = .ok (.scalar value)) :
    value.IsLeaf ↔ ∀ tag w, v ≠ .tagged tag w := by
  cases v with
  | map entries =>
    obtain ⟨fields, -, impossible⟩ := Outcome.map_eq_ok_iff.mp h
    cases impossible
  | seq items =>
    obtain ⟨ds, -, impossible⟩ := Outcome.map_eq_ok_iff.mp h
    cases impossible
  | tagged tag w =>
    obtain ⟨inner, -, same⟩ := ofValue_tagged_eq_ok_iff.mp h
    cases same
    constructor
    · intro leaf
      exact absurd rfl (leaf.1 _)
    · intro plain
      exact absurd rfl (plain tag w)
  | number n =>
    obtain ⟨d, same, seen⟩ := Outcome.map_eq_ok_iff.mp h
    cases seen
    cases Outcome.mapError_eq_ok_iff.mp same
    have leaf : (Data.ofNumber n).IsLeaf := by
      unfold Data.ofNumber
      split
      · exact ⟨nofun, nofun⟩
      · exact ⟨nofun, nofun⟩
    exact iff_of_true leaf nofun
  | _ =>
    cases h
    exact iff_of_true ⟨nofun, nofun⟩ nofun

/-- **The kind is the shape of the fields exactly if the payload has no tag.** -/
theorem Declares.kindTold_iff (h : Declares path e t) :
    KindTold t ↔ ∀ tag v, e.2 ≠ .tagged tag v := by
  rw [Schemata.kindTold_iff]
  constructor
  · intro leaf tag v tagged
    have payload := h.payload
    rw [tagged] at payload
    obtain ⟨inner, -, scalar⟩ := ofValue_tagged_eq_ok_iff.mp payload
    exact (leaf _ scalar).1 _ rfl
  · intro plain value scalar
    have payload := h.payload
    rw [scalar] at payload
    exact (isLeaf_iff payload).mpr plain

end

/-- A type that counts as a scalar although its fields are an object: a tag stands on its payload.
The built-in template makes a struct without fields of it. -/
structure Hidden (tag : String) (v : Value) (t : TypeDefinition) : Prop where
  kind : t.data.child? "kind" = some (.string "scalar")
  fields : ∃ inner, Data.ofValue v = .ok inner ∧
    t.data.child? "fields" = some (.object [("!" ++ tag, inner)])
  fits : t.definition.FitsHeader
  lines : ∀ types, Header.fieldLines types t.definition = []

theorem Declares.hidden {path tag : String} {e : Value × Value} {v : Value} {t : TypeDefinition}
    (h : Declares path e t) (tagged : e.2 = .tagged tag v) : Hidden tag v t := by
  obtain ⟨name, definition, source⟩ := t
  have payload := h.payload
  rw [tagged] at payload
  obtain ⟨inner, seen, rfl⟩ := ofValue_tagged_eq_ok_iff.mp payload
  exact ⟨rfl, ⟨inner, seen, rfl⟩, trivial, fun _ => rfl⟩

/-- **Which types of a file tell their kind.** Those whose payload has no tag; the others have their
fields hidden from a template that goes by the kind. -/
theorem kindTold_of_decode {path : String} {octets : List UInt8} {c : Catalog}
    (h : decode path octets = .ok c) :
    ∃ entries, ExpandsTo octets (.map entries) ∧
      List.Forall₂ (fun e t => Declares path e t ∧
        (KindTold t ↔ ∀ tag v, e.2 ≠ .tagged tag v) ∧
        ∀ tag v, e.2 = .tagged tag v → Hidden tag v t) entries c.entries := by
  obtain ⟨entries, expanded, declares⟩ := decode_eq_ok_iff.mp h
  refine ⟨entries, expanded, declares.imp fun e t ht => ?_⟩
  exact ⟨ht, ht.kindTold_iff, fun _ _ tagged => ht.hidden tagged⟩

/-- A mapping with one field, under a tag. -/
def taggedFile : List UInt8 := "T: !t \x7bx: int\x7d\n".toUTF8.toList

def taggedType : TypeDefinition :=
  { name := "T", definition := .scalar (.object [("!t", .object [("x", .string "int")])])
    source := "t.yaml" }

theorem decode_tagged : decode "t.yaml" taggedFile = .ok { entries := [taggedType] } := by
  have read : Value.ofOctets taggedFile =
      .ok (.map [(.string "T", .tagged "t" (.map [(.string "x", .string "int")]))]) :=
    Value.ofOctets_eq_ok (by decide +kernel)
  exact decode_eq_ok_iff.mpr ⟨_, ⟨by decide +kernel, _, read, rfl⟩, .cons ⟨rfl, rfl, rfl⟩ .nil⟩

theorem kindTold_of_decode_tagged :
    decode "t.yaml" taggedFile = .ok { entries := [taggedType] } ∧
    ∃ entries, ExpandsTo taggedFile (.map entries) ∧
      List.Forall₂ (fun e t => Declares "t.yaml" e t ∧
        (KindTold t ↔ ∀ tag v, e.2 ≠ .tagged tag v) ∧
        ∀ tag v, e.2 = .tagged tag v → Hidden tag v t) entries [taggedType] :=
  ⟨decode_tagged, kindTold_of_decode decode_tagged⟩

/-- **A type with a field counts as a scalar**, and its struct is empty. -/
theorem not_kindTold_tagged :
    decode "t.yaml" taggedFile = .ok { entries := [taggedType] } ∧
    taggedType.data.child? "kind" = some (.string "scalar") ∧
    taggedType.data.child? "fields" = some (.object [("!t", .object [("x", .string "int")])]) ∧
    ¬ KindTold taggedType ∧
    ∀ types, Header.struct types taggedType = "\nstruct T \x7b\n\x7d;\n" := by
  refine ⟨decode_tagged, rfl, rfl, ?_, fun types => rfl⟩
  intro told
  have leaf := told.scalar.mp rfl
  exact leaf.1 _ rfl

end Schemata
