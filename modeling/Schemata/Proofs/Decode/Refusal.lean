import Schemata.Proofs.Decode

/-!
# What a file is refused for

A file goes through stages: its octets are looked at, read, expanded, and then its entries declare
types one after the other. `Refused` says what is found first, and `decode_whole_or_refused` that
decoding answers it, or else all types of the file.
-/

namespace Schemata

open Yaml

/-! ## Entries -/

/-- Whether an entry declares a type, in whatever file. -/
def DeclaresType (e : Value × Value) : Prop :=
  ∃ name definition, e.1 = .string name ∧ Definition.ofValue e.2 = .ok definition

/-- What an entry is refused for: the key before the payload. -/
inductive EntryRefused : Value × Value → DecodeFault → Prop where
  | nameNotString {key payload : Value} (h : ∀ name, key ≠ .string name) :
      EntryRefused (key, payload) (.nameNotString key)
  | definition {name : String} {payload : Value} {error : DefinitionError}
      (h : Definition.ofValue payload = .error error) :
      EntryRefused (.string name, payload) (.definition name error)

/-- What the first of the entries that declares no type is refused for. -/
def FirstRefused (entries : List (Value × Value)) (fault : DecodeFault) : Prop :=
  ∃ before e after, entries = before ++ e :: after ∧ (∀ b ∈ before, DeclaresType b) ∧
    EntryRefused e fault

section Entries

variable {path : String} {e : Value × Value} {rest entries : List (Value × Value)}
  {fault : DecodeFault}

theorem declaresType_iff : DeclaresType e ↔ ∃ t, Declares path e t := by
  constructor
  · rintro ⟨name, definition, hk, hp⟩
    exact ⟨{ name, definition, source := path }, hk, hp, rfl⟩
  · rintro ⟨t, hk, hp, -⟩
    exact ⟨t.name, t.definition, hk, hp⟩

theorem not_declaresType_of_entryRefused (h : EntryRefused e fault) : ¬ DeclaresType e := by
  rintro ⟨name, definition, hk, hp⟩
  cases h with
  | nameNotString other => exact other name hk
  | definition failed =>
    rw [failed] at hp
    cases hp

/-- The entries declare types one by one exactly if each declares one. -/
theorem exists_declares_iff :
    (∃ types, List.Forall₂ (Declares path) entries types) ↔ ∀ e ∈ entries, DeclaresType e := by
  induction entries with
  | nil => exact ⟨fun _ => nofun, fun _ => ⟨[], .nil⟩⟩
  | cons e rest ih =>
    rw [List.forall_mem_cons, ← ih, @declaresType_iff path]
    constructor
    · rintro ⟨types, h⟩
      obtain ⟨t, later, ht, hl, -⟩ := List.forall₂_cons_left_iff.mp h
      exact ⟨⟨t, ht⟩, later, hl⟩
    · rintro ⟨⟨t, ht⟩, later, hl⟩
      exact ⟨t :: later, .cons ht hl⟩

theorem firstRefused_cons :
    FirstRefused (e :: rest) fault ↔
      EntryRefused e fault ∨ DeclaresType e ∧ FirstRefused rest fault := by
  constructor
  · rintro ⟨before, b, after, split, declare, refused⟩
    cases before with
    | nil =>
      cases split
      exact .inl refused
    | cons a before =>
      cases split
      rw [List.forall_mem_cons] at declare
      exact .inr ⟨declare.1, before, b, after, rfl, declare.2, refused⟩
  · rintro (refused | ⟨declared, before, b, after, rfl, declare, refused⟩)
    · exact ⟨[], e, rest, rfl, nofun, refused⟩
    · exact ⟨e :: before, b, after, rfl, List.forall_mem_cons.mpr ⟨declared, declare⟩, refused⟩

/-- The run over the entries ends with the fault of the first that declares no type. -/
theorem typesOf_eq_error_iff :
    typesOf path entries = .error fault ↔ FirstRefused entries fault := by
  induction entries with
  | nil =>
    constructor
    · intro h
      cases h
    · rintro ⟨before, e, after, split, -⟩
      simp at split
  | cons e rest ih =>
    rw [firstRefused_cons, ← ih]
    obtain ⟨key, payload⟩ := e
    cases key with
    | string name =>
      cases hp : Definition.ofValue payload with
      | error error =>
        have answer : typesOf path ((.string name, payload) :: rest) =
            .error (.definition name error) := by
          rw [typesOf, hp]
          rfl
        rw [answer]
        constructor
        · rintro ⟨⟩
          exact .inl (.definition hp)
        · rintro (refused | ⟨⟨_, definition, -, declared⟩, -⟩)
          · cases refused with
            | nameNotString other => exact absurd rfl (other name)
            | definition failed =>
              rw [hp] at failed
              cases failed
              rfl
          · rw [hp] at declared
            cases declared
      | ok definition =>
        have declared : DeclaresType (.string name, payload) := ⟨name, definition, rfl, hp⟩
        have later : typesOf path ((.string name, payload) :: rest) =
            (typesOf path rest).map ({ name, definition, source := path } :: ·) := by
          rw [typesOf, hp]
          cases typesOf path rest <;> rfl
        rw [later]
        constructor
        · intro h
          refine .inr ⟨declared, ?_⟩
          cases hr : typesOf path rest with
          | ok types => simp [hr, Except.map] at h
          | error found => simpa [hr, Except.map] using h
        · rintro (refused | ⟨-, h⟩)
          · exact absurd declared (not_declaresType_of_entryRefused refused)
          · rw [h]
            rfl
    | _ =>
      constructor
      · rintro ⟨⟩
        refine .inl (.nameNotString ?_)
        rintro _ ⟨⟩
      · rintro (refused | ⟨⟨_, _, declared, -⟩, -⟩)
        · cases refused
          rfl
        · cases declared

end Entries

/-! ## Stages -/

/-- What a file is refused for: blank octets, then what is wrong with the text, with its merge keys,
with the value that it comes to, and in the end with its entries. -/
inductive Refused (octets : List UInt8) : DecodeFault → Prop where
  | blank (h : octets.all isAsciiBlank = true) : Refused octets .empty
  | malformed {error : Error} (filled : octets.all isAsciiBlank = false)
      (h : Value.ofOctets octets = .error error) : Refused octets (.malformed error)
  | mergeKey {document : Value} {found : Kind} (filled : octets.all isAsciiBlank = false)
      (read : Value.ofOctets octets = .ok document) (h : document.expand = .error found) :
      Refused octets (.mergeKey found)
  | null (h : ExpandsTo octets .null) : Refused octets .empty
  | notAMapping {v : Value} (h : ExpandsTo octets v) (notNull : v ≠ .null)
      (notMap : ∀ entries, v ≠ .map entries) : Refused octets (.notAMapping v.kind)
  | entry {entries : List (Value × Value)} {fault : DecodeFault}
      (h : ExpandsTo octets (.map entries)) (first : FirstRefused entries fault) :
      Refused octets fault

section Stages

variable {path : String} {octets : List UInt8} {fault : DecodeFault}

/-- What stops a file is what it is refused for. -/
theorem types_eq_error_iff :
    (declarations octets).bind (typesOf path) = .error fault ↔ Refused octets fault := by
  constructor
  · intro h
    rcases stages octets with blank | ⟨filled, error, malformed⟩ |
      ⟨filled, document, found, read, fails⟩ | ⟨v, expanded⟩
    · rw [declarations_of_blank blank] at h
      cases h
      exact .blank blank
    · rw [declarations_of_malformed filled malformed] at h
      cases h
      exact .malformed filled malformed
    · rw [declarations_of_mergeKey filled read fails] at h
      cases h
      exact .mergeKey filled read fails
    · rw [declarations_of_expandsTo expanded] at h
      cases v with
      | map entries => exact .entry expanded (typesOf_eq_error_iff.mp h)
      | null =>
        cases h
        exact .null expanded
      | _ =>
        cases h
        exact .notAMapping expanded nofun nofun
  · intro h
    cases h with
    | blank blank => rw [declarations_of_blank blank]; rfl
    | malformed filled malformed => rw [declarations_of_malformed filled malformed]; rfl
    | mergeKey filled read fails => rw [declarations_of_mergeKey filled read fails]; rfl
    | null expanded => rw [declarations_of_expandsTo expanded]; rfl
    | @notAMapping v expanded notNull notMap =>
      rw [declarations_of_expandsTo expanded]
      cases v with
      | map entries => exact absurd rfl (notMap entries)
      | null => exact absurd rfl notNull
      | _ => rfl
    | entry expanded first =>
      rw [declarations_of_expandsTo expanded]
      exact typesOf_eq_error_iff.mpr first

theorem decode_eq_error_iff {error : DecodeError} :
    decode path octets = .error error ↔ error.path = path ∧ Refused octets error.fault := by
  rw [← @types_eq_error_iff path, decode]
  obtain ⟨file, fault⟩ := error
  cases (declarations octets).bind (typesOf path) with
  | ok types => simp [Except.mapError, bind, Except.bind, pure, Except.pure]
  | error found => simp [Except.mapError, bind, Except.bind, eq_comm]

end Stages

/-- **A file is decoded whole, or refused for the first thing that is wrong with it.** It decodes
exactly if it comes to a mapping in which each entry declares a type. The catalog then has one type
for each key, in the order of the mapping. -/
theorem decode_whole_or_refused (path : String) (octets : List UInt8) :
    ((∃ c, decode path octets = .ok c) ↔
      ∃ entries, ExpandsTo octets (.map entries) ∧ ∀ e ∈ entries, DeclaresType e) ∧
    (∀ c, decode path octets = .ok c ↔
      ∃ entries, ExpandsTo octets (.map entries) ∧ Entries.Distinct entries ∧
        List.Forall₂ (Declares path) entries c.entries) ∧
    ∀ error, decode path octets = .error error ↔
      error.path = path ∧ Refused octets error.fault := by
  refine ⟨⟨?decodes, ?whole⟩, fun c => ⟨?types, ?catalog⟩, fun error => decode_eq_error_iff⟩
  case decodes =>
    rintro ⟨c, h⟩
    obtain ⟨entries, expanded, declares⟩ := decode_eq_ok_iff.mp h
    exact ⟨entries, expanded, exists_declares_iff.mp ⟨c.entries, declares⟩⟩
  case whole =>
    rintro ⟨entries, expanded, each⟩
    obtain ⟨types, declares⟩ := exists_declares_iff.mpr each
    exact ⟨{ entries := types }, decode_eq_ok_iff.mpr ⟨entries, expanded, declares⟩⟩
  case types =>
    intro h
    obtain ⟨entries, expanded, declares⟩ := decode_eq_ok_iff.mp h
    exact ⟨entries, expanded, distinct_of_expandsTo expanded, declares⟩
  case catalog =>
    rintro ⟨entries, expanded, -, declares⟩
    exact decode_eq_ok_iff.mpr ⟨entries, expanded, declares⟩

/-- What is wrong with a merged entry is found before what is wrong with an earlier own one. -/
example :
    (Value.map [(.number (.int 1), .null), (.string "<<", .map [(.bool true, .null)])]).expand =
      .ok (.map [(.bool true, .null), (.number (.int 1), .null)]) ∧
    typesOf "a.yaml" [(.bool true, .null), (.number (.int 1), .null)] =
      .error (.nameNotString (.bool true)) :=
  ⟨rfl, rfl⟩

end Schemata
