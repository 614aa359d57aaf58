import Schemata.Proofs.Definition.Kept
import Schemata.Proofs.Definition.Refusal
import Schemata.Proofs.Number.Forms

/-!
# Names at two levels

The keys of a payload become the names of fields, and the keys of the mappings inside it the names
of entries. Each level has a rule of its own (`Definition.fieldName`, `Data.nameOf`), so that a
mapping may get other names where it stands one level deeper. `names_agree_iff` says which mappings
keep theirs: those without a number among their keys that is not finite, or that is written with a
positive exponent.
-/

namespace Schemata

open Yaml

variable {entries : List (Value × Value)} {key : Value} {names : List String}
  {pairs : List (String × Data)}

/-- As a payload, the mapping has fields of these names. -/
def NamesFields (entries : List (Value × Value)) (names : List String) : Prop :=
  ∃ d, Definition.ofValue (.map entries) = .ok d ∧ d.fieldNames = names

/-- Inside a payload, the mapping has entries of these names, before those with one name become
one. -/
def NamesEntries (entries : List (Value × Value)) (names : List String) : Prop :=
  ∃ pairs, Data.ofEntries entries = .ok pairs ∧ pairs.map (·.1) = names

/-- Keys that are spelled in the same way at both levels: all but numbers that are not finite, and
doubles from `10 ^ 16` on. -/
def SpelledAlike (key : Value) : Prop :=
  ∀ n, key = .number n → n.isFinite ∧ ∀ d, n = .float d → d.shortest.value < 10 ^ 16

/-! ## Single keys -/

theorem Data.EntryKey.fieldKey (h : EntryKey key) : Definition.FieldKey key := by
  cases h with
  | string s => exact .string s
  | bool b => exact .bool b
  | number _ => exact .number _

theorem Data.exists_keyText_iff : (∃ name, keyText key = some name) ↔ EntryKey key := by
  simp only [keyText, Outcome.toOption_eq_some_iff]
  rw [← Outcome.error?_eq_none_iff]
  exact keyFault?_eq_none_iff

/-- A key has the same text at both levels if it is spelled alike or names nothing at all. -/
theorem keyText_eq_iff :
    Definition.keyText key = Data.keyText key ↔ Definition.FieldKey key → SpelledAlike key := by
  cases key with
  | number n =>
    have field : Definition.FieldKey (.number n) := .number n
    have spelled : SpelledAlike (.number n) ↔
        n.isFinite ∧ ∀ d, n = .float d → d.shortest.value < 10 ^ 16 := by
      constructor
      · exact fun h => h n rfl
      · rintro h _ ⟨⟩
        exact h
    have text : Definition.keyText (.number n) = some (n.write .document) := rfl
    rw [imp_iff_right field, spelled, text]
    by_cases finite : n.isFinite
    · have inner : Data.keyText (.number n) = some (n.write .data) := by
        rw [Data.keyText, Data.nameOf, if_pos finite]
        rfl
      rw [inner, Option.some_inj, Number.write_document_eq_data_iff finite]
      exact (and_iff_right finite).symm
    · have inner : Data.keyText (.number n) = none := by
        rw [Data.keyText, Data.nameOf, if_neg finite]
        rfl
      rw [inner]
      exact iff_of_false (Option.some_ne_none _) fun h => finite h.1
  | string s =>
    refine iff_of_true rfl fun _ n isNumber => ?_
    cases isNumber
  | bool b =>
    refine iff_of_true rfl fun _ n isNumber => ?_
    cases isNumber
  | _ =>
    refine iff_of_true rfl fun named => ?_
    cases named

/-! ## Names of mappings -/

theorem Data.ofEntries_eq_ok_iff :
    ofEntries entries = .ok pairs ↔ StandFor keyText entries pairs := by
  refine ⟨standFor_of_ofEntries, fun h => ?_⟩
  induction h with
  | nil => rfl
  | cons first _ ih =>
    have name := Outcome.toOption_eq_some_iff.mp first.1
    rw [ofEntries, name, first.2, ih]
    rfl

theorem Definition.fieldsOf_eq_ok_iff :
    fieldsOf entries = .ok pairs ↔ StandFor keyText entries pairs := by
  refine ⟨standFor_of_fieldsOf, fun h => ?_⟩
  induction h with
  | nil => rfl
  | cons first _ ih =>
    have name := Outcome.toOption_eq_some_iff.mp first.1
    rw [fieldsOf, name, payload, first.2, ih]
    rfl

theorem Data.exists_ofValue_iff {v : Value} : (∃ d, ofValue v = .ok d) ↔ Representable v := by
  rw [← Outcome.error?_eq_none_iff, error?_ofValue_eq_none_iff]

/-- There is an entry for each one of a mapping if all its keys have texts, which are the names, and
all its values are template data. -/
theorem exists_standFor_iff {text : Value → Option String} :
    (∃ pairs, StandFor text entries pairs ∧ pairs.map (·.1) = names) ↔
      (∀ e ∈ entries, Data.Representable e.2) ∧ texts text entries = names.map some := by
  simp only [← Data.exists_ofValue_iff]
  constructor
  · rintro ⟨pairs, stand, rfl⟩
    refine ⟨fun e he => ?_, by rw [stand.texts_eq, List.map_map]; rfl⟩
    obtain ⟨f, -, -, hd⟩ := Outcome.exists_of_forall₂ stand e he
    exact ⟨f.2, hd⟩
  · rintro ⟨each, spelled⟩
    induction entries generalizing names with
    | nil =>
      cases names with
      | nil => exact ⟨[], .nil, rfl⟩
      | cons => cases spelled
    | cons e rest ih =>
      obtain ⟨⟨d, hd⟩, later⟩ := List.forall_mem_cons.mp each
      cases names with
      | nil => cases spelled
      | cons name names =>
        obtain ⟨first, spelled⟩ := List.cons.inj spelled
        obtain ⟨pairs, stand, rfl⟩ := ih later spelled
        exact ⟨(name, d) :: pairs, .cons ⟨first, hd⟩ stand, rfl⟩

theorem exists_text_of_mem {text : Value → Option String}
    (h : texts text entries = names.map some) : ∀ e ∈ entries, ∃ name, text e.1 = some name := by
  intro e he
  have mem : text e.1 ∈ names.map some := h ▸ List.mem_map_of_mem he
  obtain ⟨name, -, same⟩ := List.mem_map.mp mem
  exact ⟨name, same.symm⟩

theorem namesFields_iff :
    NamesFields entries names ↔ (∀ e ∈ entries, Data.Representable e.2) ∧
      texts Definition.keyText entries = names.map some := by
  rw [← exists_standFor_iff]
  constructor
  · rintro ⟨d, hd, rfl⟩
    obtain ⟨pairs, hp, rfl⟩ := Outcome.map_eq_ok_iff.mp hd
    exact ⟨pairs, Definition.fieldsOf_eq_ok_iff.mp hp, rfl⟩
  · rintro ⟨pairs, stand, rfl⟩
    exact ⟨.mapping pairs, Outcome.map_eq_ok_iff.mpr
      ⟨pairs, Definition.fieldsOf_eq_ok_iff.mpr stand, rfl⟩, rfl⟩

theorem namesEntries_iff :
    NamesEntries entries names ↔ (∀ e ∈ entries, Data.Representable e.2) ∧
      texts Data.keyText entries = names.map some := by
  rw [← exists_standFor_iff]
  simp only [NamesEntries, Data.ofEntries_eq_ok_iff]

theorem forall_of_namesFields (h : NamesFields entries names) :
    ∀ e ∈ entries, Definition.FieldKey e.1 ∧ Data.Representable e.2 := by
  obtain ⟨d, hd, -⟩ := h
  exact Definition.exists_ofValue_map_iff.mp ⟨d, hd⟩

theorem forall_of_namesEntries (h : NamesEntries entries names) :
    ∀ e ∈ entries, Definition.FieldKey e.1 ∧ Data.Representable e.2 := by
  obtain ⟨each, spelled⟩ := namesEntries_iff.mp h
  intro e he
  have named := Data.exists_keyText_iff.mp (exists_text_of_mem spelled e he)
  exact ⟨named.fieldKey, each e he⟩

/-- The payload of a single field that is a mapping. -/
theorem ofValue_inner (field : String) (entries : List (Value × Value)) :
    Definition.ofValue (.map [(.string field, .map entries)]) =
      (fun pairs => .mapping [(field, .object (Fields.ofList pairs))]) <$>
        (Data.ofEntries entries).mapError .payload := by
  have inner : Definition.payload (.map entries) =
      (fun pairs => .object (Fields.ofList pairs)) <$>
        (Data.ofEntries entries).mapError .payload := by
    rw [Definition.payload, Data.ofValue]
    cases Data.ofEntries entries <;> rfl
  rw [Definition.ofValue, Definition.fieldsOf, inner]
  cases Data.ofEntries entries <;> rfl

/-- **Which mappings have the same names at both levels.** One that is refused for a key or a value
is refused at both; of the others, those in which all keys are spelled alike. -/
theorem names_agree_iff (entries : List (Value × Value)) :
    (∀ field, Definition.ofValue (.map [(.string field, .map entries)]) =
      (fun pairs => .mapping [(field, .object (Fields.ofList pairs))]) <$>
        (Data.ofEntries entries).mapError .payload) ∧
    ((∀ names, NamesFields entries names ↔ NamesEntries entries names) ↔
      (∃ e ∈ entries, ¬ Definition.FieldKey e.1 ∨ ¬ Data.Representable e.2) ∨
        ∀ e ∈ entries, SpelledAlike e.1) := by
  refine ⟨fun field => ofValue_inner field entries, ?_⟩
  by_cases fine : ∀ e ∈ entries, Definition.FieldKey e.1 ∧ Data.Representable e.2
  · obtain ⟨d, hd⟩ := Definition.exists_ofValue_map_iff.mpr fine
    obtain ⟨each, spelled⟩ := namesFields_iff.mp ⟨d, hd, rfl⟩
    have agree : (∀ names, NamesFields entries names ↔ NamesEntries entries names) ↔
        texts Definition.keyText entries = texts Data.keyText entries := by
      simp only [namesFields_iff, namesEntries_iff]
      constructor
      · intro h
        rw [spelled, ((h d.fieldNames).mp ⟨each, spelled⟩).2]
      · intro same names
        rw [same]
    have noFault : ¬ ∃ e ∈ entries, ¬ Definition.FieldKey e.1 ∨ ¬ Data.Representable e.2 := by
      rintro ⟨e, he, named | representable⟩
      · exact named (fine e he).1
      · exact representable (fine e he).2
    rw [agree, or_iff_right noFault, texts, texts, List.map_inj_left]
    refine forall₂_congr fun e he => ?_
    rw [keyText_eq_iff, imp_iff_right (fine e he).1]
  · refine iff_of_true (fun names => ?_) (.inl ?_)
    · exact iff_of_false (fun h => fine (forall_of_namesFields h))
        fun h => fine (forall_of_namesEntries h)
    · simp only [not_forall, not_and_or] at fine
      obtain ⟨e, he, fault⟩ := fine
      exact ⟨e, he, fault⟩

/-! ## A mapping with other names -/

/-- The double nearest to `10 ^ 100`. -/
def googol : Number := .float ⟨0x54B249AD2594C37D⟩

def scaled : List (Value × Value) := [(.number googol, .string "int")]

def infinite : List (Value × Value) := [(.number (.float Double.infinity), .string "int")]

theorem fieldText_googol : Definition.keyText (.number googol) = some "1e100" := by
  have written : googol.write .document = "1e100" := by decide +kernel
  exact congrArg some written

theorem entryText_googol : Data.keyText (.number googol) = some "1e+100" := by
  have finite : googol.isFinite := by decide
  have written : googol.write .data = "1e+100" := by decide +kernel
  rw [Data.keyText, Data.nameOf, if_pos finite, written]
  rfl

theorem ofEntries_scaled : Data.ofEntries scaled = .ok [("1e+100", .string "int")] :=
  Data.ofEntries_eq_ok_iff.mpr (.cons ⟨entryText_googol, rfl⟩ .nil)

/-- The mapping stands at both levels. -/
def scaledFile : List UInt8 := "T: {1e100: int, inner: {1e100: int}}\n".toUTF8.toList

def scaledType : TypeDefinition :=
  { name := "T"
    definition := .mapping
      [("1e100", .string "int"), ("inner", .object [("1e+100", .string "int")])]
    source := "t.yaml" }

theorem decode_scaled : decode "t.yaml" scaledFile = .ok { entries := [scaledType] } := by
  have read : Value.ofOctets scaledFile = .ok (.map [(.string "T",
      .map (scaled ++ [(.string "inner", .map scaled)]))]) :=
    Value.ofOctets_eq_ok (by decide +kernel)
  have inner : Data.ofValue (.map scaled) = .ok (.object [("1e+100", .string "int")]) := by
    rw [Data.ofValue, ofEntries_scaled]
    rfl
  have fields : Definition.fieldsOf (scaled ++ [(.string "inner", .map scaled)]) =
      .ok [("1e100", .string "int"), ("inner", .object [("1e+100", .string "int")])] :=
    Definition.fieldsOf_eq_ok_iff.mpr
      (.cons ⟨fieldText_googol, rfl⟩ (.cons ⟨rfl, inner⟩ .nil))
  have payload : Definition.ofValue (.map (scaled ++ [(.string "inner", .map scaled)])) =
      .ok scaledType.definition := by
    rw [Definition.ofValue, fields]
    rfl
  have expanded : ExpandsTo scaledFile (.map [(.string "T",
      .map (scaled ++ [(.string "inner", .map scaled)]))]) :=
    ⟨by decide +kernel, _, read, rfl⟩
  exact decode_eq_ok_iff.mpr ⟨_, expanded, .cons ⟨rfl, payload, rfl⟩ .nil⟩

/-- **A field is named otherwise one level deeper**: the field `1e100` of a type is `1e+100` in a
field of the type. And a mapping with an infinite key has a field of that name, but cannot stand one
level deeper at all. -/
theorem not_names_agree :
    decode "t.yaml" scaledFile = .ok { entries := [scaledType] } ∧
    NamesFields scaled ["1e100"] ∧ NamesEntries scaled ["1e+100"] ∧
    ¬ (∀ names, NamesFields scaled names ↔ NamesEntries scaled names) ∧
    NamesFields infinite [".inf"] ∧ Data.ofEntries infinite = .error .notFinite := by
  have field : NamesFields scaled ["1e100"] := by
    rw [namesFields_iff]
    refine ⟨List.forall_mem_singleton.mpr (Data.exists_ofValue_iff.mp ⟨_, rfl⟩), ?_⟩
    exact congrArg (fun text => [text]) fieldText_googol
  have entry : NamesEntries scaled ["1e+100"] := ⟨_, ofEntries_scaled, rfl⟩
  refine ⟨decode_scaled, field, entry, fun agree => ?_, ⟨_, rfl, rfl⟩, rfl⟩
  obtain ⟨pairs, seen, names⟩ := (agree ["1e100"]).mp field
  cases ofEntries_scaled.symm.trans seen
  exact absurd names (by decide)

end Schemata
