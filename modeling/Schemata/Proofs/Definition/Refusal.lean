import Schemata.Definition
import Schemata.Proofs.Outcome
import Schemata.Proofs.Yaml.Reach

/-!
# What a payload is refused for

Keys are all that a payload can be refused for, and there are two rules for them. One is for the
names of fields, the keys of a payload that is a mapping (`Definition.FieldKey`); the other is for
the keys of mappings inside a payload (`Data.EntryKey`), which leaves out the numbers that are not
finite. `Definition.ofValue_or_refused` says that a payload which keeps both is a definition, and
which key another one is refused for.
-/

namespace Schemata

open Yaml

/-! ## Inside a payload -/

namespace Data

/-- The keys that can name an entry of an object. -/
inductive EntryKey : Value → Prop where
  | string (s : String) : EntryKey (.string s)
  | bool (b : Bool) : EntryKey (.bool b)
  | number {n : Number} (finite : n.isFinite) : EntryKey (.number n)

/-- What the other keys are refused for. -/
inductive KeyRefused : Value → KeyFault → Prop where
  | notText {key : Value} (h : key.kind ∉ [.string, .bool, .number]) : KeyRefused key .notText
  | notFinite {n : Number} (h : ¬ n.isFinite) : KeyRefused (.number n) .notFinite

/-- Every key in a value can name an entry. -/
def Representable (v : Value) : Prop :=
  ∀ entries, v.Reaches (.map entries) → ∀ e ∈ entries, EntryKey e.1

/-- What the first key in a value that cannot name an entry is refused for. -/
def RefusedFor (v : Value) (fault : KeyFault) : Prop :=
  ∃ before key after, v.keys = before ++ key :: after ∧ (∀ k ∈ before, EntryKey k) ∧
    KeyRefused key fault

/-- What a key is refused for, if it is. -/
def keyFault? (key : Value) : Option KeyFault := Outcome.error? (nameOf key)

variable {v key : Value} {fault : KeyFault}

theorem keyFault?_number (n : Number) :
    keyFault? (.number n) = if n.isFinite then none else some .notFinite := by
  by_cases h : n.isFinite <;> simp [keyFault?, nameOf, h, Outcome.error?]

theorem keyFault?_eq_none_iff : keyFault? key = none ↔ EntryKey key := by
  constructor
  · intro h
    cases key with
    | string s => exact .string s
    | bool b => exact .bool b
    | number n => exact .number (by simpa [keyFault?_number] using h)
    | _ => cases h
  · rintro (s | b | finite)
    · rfl
    · rfl
    · rw [keyFault?_number, if_pos finite]

theorem keyFault?_eq_some_iff : keyFault? key = some fault ↔ KeyRefused key fault := by
  constructor
  · intro h
    cases key with
    | string s => cases h
    | bool b => cases h
    | number n =>
      rw [keyFault?_number] at h
      split at h
      · cases h
      · next infinite =>
        cases h
        exact .notFinite infinite
    | _ =>
      cases h
      exact .notText (by simp [Value.kind])
  · rintro (other | infinite)
    · cases key with
      | string s => simp [Value.kind] at other
      | bool b => simp [Value.kind] at other
      | number n => simp [Value.kind] at other
      | _ => rfl
    · rw [keyFault?_number, if_neg infinite]

mutual

/-- A value is refused for the first key, in document order, that can name no entry. -/
theorem error?_ofValue : ∀ v : Value, Outcome.error? (ofValue v) = v.keys.findSome? keyFault?
  | .seq items => by
    rw [ofValue, Outcome.error?_map]
    exact error?_ofItems items
  | .map entries => by
    rw [ofValue, Outcome.error?_bind_pure]
    exact error?_ofEntries entries
  | .tagged tag v => by
    rw [ofValue, Outcome.error?_bind_pure]
    exact error?_ofValue v
  | .null | .bool _ | .number _ | .string _ => rfl

theorem error?_ofItems : ∀ items : List Value,
    Outcome.error? (ofItems items) = (Value.keysOfItems items).findSome? keyFault?
  | [] => rfl
  | v :: rest => by
    have later (d : Data) : Outcome.error? (do return d :: (← ofItems rest)) =
        (Value.keysOfItems rest).findSome? keyFault? := by
      rw [Outcome.error?_bind_pure, error?_ofItems]
    rw [ofItems, Outcome.error?_bind fun d _ => later d, error?_ofValue, Value.keysOfItems,
      List.findSome?_append]

theorem error?_ofEntries : ∀ entries : List (Value × Value),
    Outcome.error? (ofEntries entries) = (Value.keysOfEntries entries).findSome? keyFault?
  | [] => rfl
  | (k, v) :: rest => by
    have later (name : String) (d : Data) :
        Outcome.error? (do return (name, d) :: (← ofEntries rest)) =
          (Value.keysOfEntries rest).findSome? keyFault? := by
      rw [Outcome.error?_bind_pure, error?_ofEntries]
    have value (name : String) :
        Outcome.error? (do let d ← ofValue v; return (name, d) :: (← ofEntries rest)) =
          (v.keys.findSome? keyFault?).or ((Value.keysOfEntries rest).findSome? keyFault?) := by
      rw [Outcome.error?_bind fun d _ => later name d, error?_ofValue]
    rw [ofEntries, Outcome.error?_bind fun name _ => value name, Value.keysOfEntries,
      ← List.singleton_append, List.findSome?_append, List.findSome?_singleton,
      List.findSome?_append, keyFault?]

end

theorem representable_iff : Representable v ↔ ∀ key ∈ v.keys, EntryKey key := by
  simp only [Representable, Value.mem_keys_iff]
  constructor
  · rintro h key ⟨source, reached, hk⟩
    obtain ⟨e, he, rfl⟩ := List.mem_map.mp hk
    exact h source reached e he
  · intro h entries reached e he
    exact h e.1 ⟨entries, reached, List.mem_map_of_mem he⟩

/-- The keys strictly inside a value can name entries exactly if its parts are representable. -/
theorem forall_parts_representable_iff :
    (∀ u ∈ v.parts, Representable u) ↔ ∀ inner, v.Inside inner → ∀ e ∈ inner, EntryKey e.1 := by
  constructor
  · rintro h inner ⟨u, hu, below⟩
    exact h u hu inner below
  · intro h u hu inner below
    exact h inner ⟨u, hu, below⟩

theorem representable_iff_of_ne (other : ∀ entries, v ≠ .map entries) :
    Representable v ↔ ∀ inner, v.Inside inner → ∀ e ∈ inner, EntryKey e.1 := by
  have reached (inner : List (Value × Value)) : v.Reaches (.map inner) ↔ v.Inside inner := by
    rw [Value.reaches_map_iff]
    exact or_iff_right (other inner)
  simp only [Representable, reached]

theorem error?_ofValue_eq_none_iff : Outcome.error? (ofValue v) = none ↔ Representable v := by
  rw [error?_ofValue, List.findSome?_eq_none_iff, representable_iff]
  simp only [keyFault?_eq_none_iff]

theorem ofValue_eq_error_iff : ofValue v = .error fault ↔ RefusedFor v fault := by
  rw [← Outcome.error?_eq_some_iff, error?_ofValue, List.findSome?_eq_some_iff]
  simp only [keyFault?_eq_none_iff, keyFault?_eq_some_iff, RefusedFor]
  exact exists_congr fun before => exists_congr fun key => exists_congr fun after =>
    and_congr_right fun _ => and_comm

end Data

/-! ## Fields -/

namespace Definition

/-- The keys that can name a field. -/
inductive FieldKey : Value → Prop where
  | string (s : String) : FieldKey (.string s)
  | number (n : Number) : FieldKey (.number n)
  | bool (b : Bool) : FieldKey (.bool b)

/-- What a field is refused for: its key before its payload. -/
inductive FieldRefused : Value × Value → DefinitionError → Prop where
  | fieldName {key payload : Value} (h : ¬ FieldKey key) :
      FieldRefused (key, payload) (.fieldName key.kind)
  | payload {key payload : Value} {fault : KeyFault} (named : FieldKey key)
      (h : Data.RefusedFor payload fault) : FieldRefused (key, payload) (.payload fault)

/-- What a payload is refused for: in a mapping, what the first field that is refused is refused
for. -/
inductive Refused : Value → DefinitionError → Prop where
  | field {before after : List (Value × Value)} {e : Value × Value} {error : DefinitionError}
      (fine : ∀ b ∈ before, FieldKey b.1 ∧ Data.Representable b.2) (h : FieldRefused e error) :
      Refused (.map (before ++ e :: after)) error
  | payload {v : Value} {fault : KeyFault} (other : ∀ entries, v ≠ .map entries)
      (h : Data.RefusedFor v fault) : Refused v (.payload fault)

variable {v key : Value} {e : Value × Value} {entries : List (Value × Value)}
  {error : DefinitionError}

theorem map_or_ne (v : Value) : (∃ entries, v = .map entries) ∨ ∀ entries, v ≠ .map entries := by
  rw [← not_exists]
  exact em _

/-- What a field is refused for, if it is. -/
def fieldFault? (e : Value × Value) : Option DefinitionError :=
  (Outcome.error? (fieldName e.1)).or (Outcome.error? (payload e.2))

theorem error?_fieldName_eq_none_iff :
    Outcome.error? (fieldName key) = none ↔ FieldKey key := by
  constructor
  · intro h
    cases key with
    | string s => exact .string s
    | number n => exact .number n
    | bool b => exact .bool b
    | _ => cases h
  · rintro (s | n | b) <;> rfl

theorem fieldName_of_not (h : ¬ FieldKey key) : fieldName key = .error (.fieldName key.kind) := by
  cases key with
  | string s => exact absurd (.string s) h
  | number n => exact absurd (.number n) h
  | bool b => exact absurd (.bool b) h
  | _ => rfl

theorem error?_payload (v : Value) :
    Outcome.error? (payload v) = (Outcome.error? (Data.ofValue v)).map .payload := by
  rw [payload, Outcome.error?_mapError]

theorem fieldFault?_eq_none_iff :
    fieldFault? e = none ↔ FieldKey e.1 ∧ Data.Representable e.2 := by
  rw [fieldFault?, Option.or_eq_none_iff, error?_fieldName_eq_none_iff, error?_payload,
    Option.map_eq_none_iff, Data.error?_ofValue_eq_none_iff]

theorem fieldFault?_eq_some_iff : fieldFault? e = some error ↔ FieldRefused e error := by
  obtain ⟨key, v⟩ := e
  by_cases named : FieldKey key
  · have text := error?_fieldName_eq_none_iff.mpr named
    rw [fieldFault?, text, Option.none_or, error?_payload, Option.map_eq_some_iff]
    constructor
    · rintro ⟨fault, h, rfl⟩
      exact .payload named (Data.ofValue_eq_error_iff.mp (Outcome.error?_eq_some_iff.mp h))
    · rintro (unnamed | ⟨-, h⟩)
      · exact absurd named unnamed
      · exact ⟨_, Outcome.error?_eq_some_iff.mpr (Data.ofValue_eq_error_iff.mpr h), rfl⟩
  · have refused : fieldFault? (key, v) = some (.fieldName key.kind) := by
      rw [fieldFault?, fieldName_of_not named]
      rfl
    rw [refused]
    constructor
    · rintro ⟨⟩
      exact .fieldName named
    · rintro (_ | ⟨named', -⟩)
      · rfl
      · exact absurd named' named

theorem error?_fieldsOf (entries : List (Value × Value)) :
    Outcome.error? (fieldsOf entries) = entries.findSome? fieldFault? := by
  induction entries with
  | nil => rfl
  | cons e rest ih =>
    obtain ⟨k, v⟩ := e
    have later (name : String) (d : Data) :
        Outcome.error? (do return (name, d) :: (← fieldsOf rest)) =
          rest.findSome? fieldFault? := by
      rw [Outcome.error?_bind_pure, ih]
    have value (name : String) :
        Outcome.error? (do let d ← payload v; return (name, d) :: (← fieldsOf rest)) =
          (Outcome.error? (payload v)).or (rest.findSome? fieldFault?) :=
      Outcome.error?_bind fun d _ => later name d
    rw [fieldsOf, Outcome.error?_bind fun name _ => value name, ← Option.or_assoc,
      ← List.singleton_append, List.findSome?_append, List.findSome?_singleton, fieldFault?]

theorem error?_ofValue_map (entries : List (Value × Value)) :
    Outcome.error? (ofValue (.map entries)) = entries.findSome? fieldFault? := by
  rw [ofValue, Outcome.error?_map, error?_fieldsOf]

theorem error?_ofValue_of_ne (other : ∀ entries, v ≠ .map entries) :
    Outcome.error? (ofValue v) = (Outcome.error? (Data.ofValue v)).map .payload := by
  cases v with
  | map entries => exact absurd rfl (other entries)
  | seq items =>
    rw [ofValue, Outcome.error?_map, Outcome.error?_mapError, Data.ofValue, Outcome.error?_map]
  | _ => rw [ofValue, Outcome.error?_map, error?_payload] <;> rintro _ ⟨⟩

theorem ofValue_map_eq_error_iff :
    ofValue (.map entries) = .error error ↔ ∃ before e after, entries = before ++ e :: after ∧
      FieldRefused e error ∧ ∀ b ∈ before, FieldKey b.1 ∧ Data.Representable b.2 := by
  rw [← Outcome.error?_eq_some_iff, error?_ofValue_map, List.findSome?_eq_some_iff]
  simp only [fieldFault?_eq_some_iff, fieldFault?_eq_none_iff]

theorem ofValue_eq_error_iff : ofValue v = .error error ↔ Refused v error := by
  rcases map_or_ne v with ⟨entries, rfl⟩ | other
  · rw [ofValue_map_eq_error_iff]
    constructor
    · rintro ⟨before, e, after, rfl, refused, fine⟩
      exact .field fine refused
    · rintro (⟨fine, refused⟩ | ⟨other, -⟩)
      · exact ⟨_, _, _, rfl, refused, fine⟩
      · exact absurd rfl (other entries)
  · rw [← Outcome.error?_eq_some_iff, error?_ofValue_of_ne other, Option.map_eq_some_iff]
    simp only [Outcome.error?_eq_some_iff, Data.ofValue_eq_error_iff]
    constructor
    · rintro ⟨fault, refused, rfl⟩
      exact .payload other refused
    · rintro (_ | ⟨-, refused⟩)
      · exact absurd rfl (other _)
      · exact ⟨_, refused, rfl⟩

theorem exists_ofValue_map_iff :
    (∃ d, ofValue (.map entries) = .ok d) ↔
      ∀ e ∈ entries, FieldKey e.1 ∧ Data.Representable e.2 := by
  rw [← Outcome.error?_eq_none_iff, error?_ofValue_map, List.findSome?_eq_none_iff]
  simp only [fieldFault?_eq_none_iff]

theorem exists_ofValue_iff_of_ne (other : ∀ entries, v ≠ .map entries) :
    (∃ d, ofValue v = .ok d) ↔ Data.Representable v := by
  rw [← Outcome.error?_eq_none_iff, error?_ofValue_of_ne other, Option.map_eq_none_iff,
    Data.error?_ofValue_eq_none_iff]

/-- **A payload is a definition, or refused for its first wrong key.** It is a definition exactly if
its own keys, where it is a mapping, can name fields, and the keys of all mappings inside it can
name entries. Otherwise the fields of a mapping are looked at in order, the key of each before its
payload, and the keys inside a payload in document order. -/
theorem ofValue_or_refused (v : Value) :
    ((∃ d, ofValue v = .ok d) ↔
      (∀ entries, v = .map entries → ∀ e ∈ entries, FieldKey e.1) ∧
      ∀ inner, v.Inside inner → ∀ e ∈ inner, Data.EntryKey e.1) ∧
    ∀ error, ofValue v = .error error ↔ Refused v error := by
  refine ⟨?accepted, fun error => ofValue_eq_error_iff⟩
  rcases map_or_ne v with ⟨entries, rfl⟩ | other
  · have below : (∀ e ∈ entries, Data.Representable e.2) ↔
        ∀ u ∈ (Value.map entries).parts, Data.Representable u :=
      List.forall_mem_map.symm
    rw [exists_ofValue_map_iff, ← Data.forall_parts_representable_iff, ← below]
    constructor
    · intro h
      refine ⟨?_, fun e he => (h e he).2⟩
      rintro _ ⟨⟩ e he
      exact (h e he).1
    · rintro ⟨named, representable⟩ e he
      exact ⟨named entries rfl e he, representable e he⟩
  · rw [exists_ofValue_iff_of_ne other, Data.representable_iff_of_ne other]
    constructor
    · intro h
      exact ⟨fun entries same => absurd same (other entries), h⟩
    · rintro ⟨-, h⟩
      exact h

/-- A key inside the payload of a field is found before the key of a later field, and after its
own. -/
example :
    ofValue (.map [(.string "a", .map [(.null, .null)]), (.null, .null)]) =
      .error (.payload .notText) ∧
    ofValue (.map [(.null, .map [(.null, .null)])]) = .error (.fieldName .null) :=
  ⟨rfl, rfl⟩

end Definition

end Schemata
