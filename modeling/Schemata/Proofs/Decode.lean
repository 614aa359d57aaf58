import Schemata.Decode
import Schemata.Proofs.Yaml.Document
import Schemata.Proofs.Yaml.Merge

/-!
# Types of one file

A file comes to a value (`ExpandsTo`), and each entry of a mapping declares a type (`Declares`). The
types of a file that decodes have different names, and the file as their source
(`nodup_names_of_decode`, `source_of_decode`).
-/

namespace Schemata

open Yaml

/-- What a file comes to: it is not blank and holds one document, whose merge keys expand. -/
def ExpandsTo (octets : List UInt8) (v : Value) : Prop :=
  octets.all isAsciiBlank = false ∧
    ∃ document, Value.ofOctets octets = .ok document ∧ document.expand = .ok v

/-- The type that an entry declares: the key is its name, without a tag, and the payload its
definition. -/
structure Declares (path : String) (e : Value × Value) (t : TypeDefinition) : Prop where
  key : e.1 = .string t.name
  payload : Definition.ofValue e.2 = .ok t.definition
  source : t.source = path

section Stages

variable {octets : List UInt8}

/-- What a value is as the top level of a file. -/
def topLevel : Value → Except DecodeFault (List (Value × Value))
  | .map entries => .ok entries
  | .null => .error .empty
  | other => .error (.notAMapping other.kind)

theorem declarations_of_blank (h : octets.all isAsciiBlank = true) :
    declarations octets = .error .empty := by
  rw [declarations, h]
  rfl

theorem declarations_of_malformed {error : Error} (filled : octets.all isAsciiBlank = false)
    (h : Value.ofOctets octets = .error error) :
    declarations octets = .error (.malformed error) := by
  rw [declarations, filled, h]
  rfl

/-- A file that can be read goes on to have its merge keys expanded. -/
theorem declarations_of_read {document : Value} (filled : octets.all isAsciiBlank = false)
    (read : Value.ofOctets octets = .ok document) :
    declarations octets = (document.expand.mapError .mergeKey).bind topLevel := by
  rw [declarations, filled, read]
  rfl

theorem declarations_of_mergeKey {document : Value} {found : Kind}
    (filled : octets.all isAsciiBlank = false) (read : Value.ofOctets octets = .ok document)
    (h : document.expand = .error found) : declarations octets = .error (.mergeKey found) := by
  rw [declarations_of_read filled read, h]
  rfl

theorem declarations_of_expandsTo {v : Value} (h : ExpandsTo octets v) :
    declarations octets = topLevel v := by
  obtain ⟨filled, document, read, expanded⟩ := h
  rw [declarations_of_read filled read, expanded]
  rfl

/-- How far a file comes. -/
theorem stages (octets : List UInt8) :
    octets.all isAsciiBlank = true ∨
    octets.all isAsciiBlank = false ∧ (∃ error, Value.ofOctets octets = .error error) ∨
    octets.all isAsciiBlank = false ∧
      (∃ document found, Value.ofOctets octets = .ok document ∧ document.expand = .error found) ∨
    ∃ v, ExpandsTo octets v := by
  cases filled : octets.all isAsciiBlank with
  | true => exact .inl rfl
  | false =>
    cases read : Value.ofOctets octets with
    | error error => exact .inr (.inl ⟨rfl, error, rfl⟩)
    | ok document =>
      cases expanded : document.expand with
      | error found => exact .inr (.inr (.inl ⟨rfl, document, found, rfl, expanded⟩))
      | ok v => exact .inr (.inr (.inr ⟨v, filled, document, read, expanded⟩))

/-- A file has entries if it comes to a mapping. -/
theorem declarations_eq_ok_iff {entries : List (Value × Value)} :
    declarations octets = .ok entries ↔ ExpandsTo octets (.map entries) := by
  constructor
  · intro h
    rcases stages octets with blank | ⟨filled, error, malformed⟩ |
      ⟨filled, document, found, read, fails⟩ | ⟨v, expanded⟩
    · rw [declarations_of_blank blank] at h
      cases h
    · rw [declarations_of_malformed filled malformed] at h
      cases h
    · rw [declarations_of_mergeKey filled read fails] at h
      cases h
    · rw [declarations_of_expandsTo expanded] at h
      cases v with
      | map found =>
        cases h
        exact expanded
      | _ => cases h
  · intro expanded
    rw [declarations_of_expandsTo expanded]
    rfl

end Stages

/-- No mapping that a file comes to has a key twice, at any depth. -/
theorem wellFormed_of_expandsTo {octets : List UInt8} {v : Value} (h : ExpandsTo octets v) :
    v.WellFormed := by
  obtain ⟨-, document, hd, he⟩ := h
  have hv := Value.wellFormed_of_ofOctets hd
  exact Value.resolved_of_expand hv he ▸ hv.resolved

theorem distinct_of_expandsTo {octets : List UInt8} {entries : List (Value × Value)}
    (h : ExpandsTo octets (.map entries)) : Entries.Distinct entries := by
  have hw : (Value.map entries).WellFormed := wellFormed_of_expandsTo h
  exact hw.1

/-- Entries give types exactly if each of them declares one. -/
theorem typesOf_eq_ok_iff {path : String} {entries : List (Value × Value)}
    {types : List TypeDefinition} :
    typesOf path entries = .ok types ↔ List.Forall₂ (Declares path) entries types := by
  induction entries generalizing types with
  | nil =>
    rw [List.forall₂_nil_left_iff, typesOf, Except.ok.injEq]
    exact eq_comm
  | cons e rest ih =>
    obtain ⟨key, payload⟩ := e
    rw [List.forall₂_cons_left_iff]
    cases key with
    | string name =>
      simp only [typesOf, Outcome.bind_eq_ok_iff, Outcome.mapError_eq_ok_iff,
        Outcome.pure_eq_ok_iff]
      constructor
      · rintro ⟨definition, hd, later, hl, rfl⟩
        exact ⟨_, later, ⟨rfl, hd, rfl⟩, ih.mp hl, rfl⟩
      · rintro ⟨⟨name, definition, source⟩, later, ⟨hk, hp, hs⟩, hl, rfl⟩
        cases hk
        cases hs
        exact ⟨definition, hp, later, ih.mpr hl, rfl⟩
    | _ =>
      -- A key that is no string ends the run, and it declares nothing.
      constructor
      · intro h
        cases h
      · rintro ⟨t, later, h, -⟩
        cases h.key

/-- The types that entries declare are named by their keys. -/
theorem keys_of_declares {path : String} {entries : List (Value × Value)}
    {types : List TypeDefinition} (h : List.Forall₂ (Declares path) entries types) :
    entries.map (·.1) = types.map fun t => .string t.name := by
  induction h with
  | nil => rfl
  | cons first _ ih => rw [List.map_cons, List.map_cons, first.key, ih]

theorem exists_entry_of_declares {path : String} {entries : List (Value × Value)}
    {types : List TypeDefinition} (h : List.Forall₂ (Declares path) entries types) :
    ∀ t ∈ types, ∃ e ∈ entries, Declares path e t :=
  Outcome.exists_of_forall₂ (List.Forall₂.flip h)

/-- A file decodes if it comes to a mapping each of whose entries declares a type. -/
theorem decode_eq_ok_iff {path : String} {octets : List UInt8} {c : Catalog} :
    decode path octets = .ok c ↔
      ∃ entries, ExpandsTo octets (.map entries) ∧
        List.Forall₂ (Declares path) entries c.entries := by
  simp only [decode, Outcome.bind_eq_ok_iff, Outcome.mapError_eq_ok_iff, Outcome.pure_eq_ok_iff]
  constructor
  · rintro ⟨types, ht, rfl⟩
    obtain ⟨entries, he, ht⟩ := Outcome.bind_eq_ok_iff.mp ht
    exact ⟨entries, declarations_eq_ok_iff.mp he, typesOf_eq_ok_iff.mp ht⟩
  · rintro ⟨entries, he, ht⟩
    exact ⟨c.entries, Outcome.bind_eq_ok_iff.mpr
      ⟨entries, declarations_eq_ok_iff.mpr he, typesOf_eq_ok_iff.mpr ht⟩, rfl⟩

theorem source_of_decode {path : String} {octets : List UInt8} {c : Catalog}
    (h : decode path octets = .ok c) : ∀ t ∈ c.entries, t.source = path := by
  obtain ⟨entries, -, declares⟩ := decode_eq_ok_iff.mp h
  intro t ht
  obtain ⟨e, -, declared⟩ := exists_entry_of_declares declares t ht
  exact declared.source

/-- **No name is declared twice in one file.** -/
theorem nodup_names_of_decode {path : String} {octets : List UInt8} {c : Catalog}
    (h : decode path octets = .ok c) : c.names.Nodup := by
  obtain ⟨entries, he, declares⟩ := decode_eq_ok_iff.mp h
  have codes : Entries.codes entries = c.names.map fun name => (Value.string name).code := by
    have keys := congrArg (List.map Value.code) (keys_of_declares declares)
    simpa [Entries.codes, Catalog.names, List.map_map, Function.comp_def] using keys
  have distinct := distinct_of_expandsTo he
  rw [Entries.Distinct, codes] at distinct
  exact distinct.of_map _

end Schemata
