import Schemata.Proofs.Decode
import Schemata.Proofs.Fields
import Schemata.Proofs.Yaml.Read

/-!
# Which entries of a payload are kept

A mapping becomes an object whose names are the texts of its keys, and keys that differ can have the
same text: the number `1` and the string `'1'` do. `Definition.Keeps` says that the data a template
sees has all entries of a payload, at every depth and in the same order. That is so exactly where no
mapping has two keys with one text (`Definition.keeps_iff`), and always where all keys are strings
(`Definition.textsApart_of_stringKeys`).
-/

namespace Schemata

open Yaml

/-! ## Keys as texts -/

/-- The text of a key inside a payload, if it has one. -/
def Data.keyText (key : Value) : Option String := (Data.nameOf key).toOption

/-- The text of a key as the name of a field, if it has one. -/
def Definition.keyText (key : Value) : Option String := (Definition.fieldName key).toOption

/-- The texts of the keys, in order. -/
def texts (text : Value → Option String) (entries : List (Value × Value)) : List (Option String) :=
  entries.map fun e => text e.1

/-- An object has one entry for each entry of a mapping, in the same order and under the text of its
key. -/
structure NamesEach (text : Value → Option String) (entries : List (Value × Value))
    (fields : List (String × Data)) : Prop where
  texts : texts text entries = fields.map fun f => some f.1
  nodup : (fields.map (·.1)).Nodup

namespace Data

mutual

/-- The data has all entries of the mappings in a value. -/
def Keeps : Value → Data → Prop
  | .seq items, d => ∃ ds, d = .list ds ∧ KeepsItems items ds
  | .map entries, d =>
    ∃ fields, d = .object fields ∧ NamesEach keyText entries fields ∧ KeepsEntries entries fields
  | .tagged tag v, d => ∃ inner, d = .object [("!" ++ tag, inner)] ∧ Keeps v inner
  | _, _ => True

def KeepsItems : List Value → List Data → Prop
  | [], [] => True
  | v :: rest, d :: ds => Keeps v d ∧ KeepsItems rest ds
  | _, _ => False

/-- The data of each entry has all entries of the mappings in its value. -/
def KeepsEntries : List (Value × Value) → List (String × Data) → Prop
  | [], [] => True
  | (_, v) :: rest, (_, d) :: fields => Keeps v d ∧ KeepsEntries rest fields
  | _, _ => False

end

mutual

/-- In no mapping in a value do two keys have the same text. -/
def TextsApart : Value → Prop
  | .seq items => TextsApartItems items
  | .map entries => (texts keyText entries).Nodup ∧ TextsApartEntries entries
  | .tagged _ v => TextsApart v
  | _ => True

def TextsApartItems : List Value → Prop
  | [] => True
  | v :: rest => TextsApart v ∧ TextsApartItems rest

def TextsApartEntries : List (Value × Value) → Prop
  | [] => True
  | (_, v) :: rest => TextsApart v ∧ TextsApartEntries rest

end

end Data

namespace Definition

/-- The data has all entries of a payload; its own keys are the names of fields. -/
def Keeps : Value → Data → Prop
  | .map entries, d =>
    ∃ fields, d = .object fields ∧ NamesEach keyText entries fields ∧
      Data.KeepsEntries entries fields
  | v, d => Data.Keeps v d

def TextsApart : Value → Prop
  | .map entries => (texts keyText entries).Nodup ∧ Data.TextsApartEntries entries
  | v => Data.TextsApart v

end Definition

/-! ## From values to data -/

section

variable {entries : List (Value × Value)} {fields pairs : List (String × Data)}

/-- Fields stand for entries, before those with the same name become one. -/
def StandFor (text : Value → Option String) (entries : List (Value × Value))
    (pairs : List (String × Data)) : Prop :=
  List.Forall₂ (fun e f => text e.1 = some f.1 ∧ Data.ofValue e.2 = .ok f.2) entries pairs

theorem StandFor.texts_eq {text : Value → Option String} (h : StandFor text entries pairs) :
    texts text entries = pairs.map fun f => some f.1 := by
  induction h with
  | nil => rfl
  | cons first _ ih =>
    rw [texts, List.map_cons, List.map_cons, first.1]
    exact congrArg _ ih

theorem Data.standFor_of_ofEntries (h : ofEntries entries = .ok pairs) :
    StandFor keyText entries pairs := by
  induction entries generalizing pairs with
  | nil =>
    cases h
    exact .nil
  | cons e rest ih =>
    obtain ⟨k, v⟩ := e
    simp only [ofEntries, Outcome.bind_eq_ok_iff, Outcome.pure_eq_ok_iff] at h
    obtain ⟨name, hn, d, hd, later, hl, rfl⟩ := h
    have text : keyText k = some name := by rw [keyText, hn]; rfl
    exact .cons ⟨text, hd⟩ (ih hl)

theorem Definition.standFor_of_fieldsOf (h : fieldsOf entries = .ok pairs) :
    StandFor keyText entries pairs := by
  induction entries generalizing pairs with
  | nil =>
    cases h
    exact .nil
  | cons e rest ih =>
    obtain ⟨k, v⟩ := e
    simp only [fieldsOf, payload, Outcome.bind_eq_ok_iff, Outcome.mapError_eq_ok_iff,
      Outcome.pure_eq_ok_iff] at h
    obtain ⟨name, hn, d, hd, later, hl, rfl⟩ := h
    have text : keyText k = some name := by rw [keyText, hn]; rfl
    exact .cons ⟨text, hd⟩ (ih hl)

theorem nodup_map_some_iff : (fields.map fun f => some f.1).Nodup ↔ (fields.map (·.1)).Nodup := by
  have twice : (fields.map fun f => some f.1) = (fields.map (·.1)).map some := by
    rw [List.map_map]
    rfl
  rw [twice]
  exact List.nodup_map_iff fun _ _ => Option.some.inj

/-- Nothing of a mapping is lost exactly if the texts of its keys are different and nothing is lost
below. -/
theorem StandFor.keeps_iff {text : Value → Option String} (h : StandFor text entries pairs)
    (below : Data.KeepsEntries entries pairs ↔ Data.TextsApartEntries entries) :
    (∃ fields, Data.object (Fields.ofList pairs) = .object fields ∧
      NamesEach text entries fields ∧ Data.KeepsEntries entries fields) ↔
    (texts text entries).Nodup ∧ Data.TextsApartEntries entries := by
  have placed (apart : (texts text entries).Nodup) : Fields.ofList pairs = pairs := by
    rw [h.texts_eq, nodup_map_some_iff] at apart
    exact Fields.ofList_of_nodup apart
  constructor
  · rintro ⟨fields, same, each, kept⟩
    cases same
    have apart : (texts text entries).Nodup := by
      rw [each.texts, nodup_map_some_iff]
      exact each.nodup
    rw [placed apart] at kept
    exact ⟨apart, below.mp kept⟩
  · rintro ⟨apart, apartBelow⟩
    refine ⟨pairs, by rw [placed apart], ⟨h.texts_eq, ?_⟩, below.mpr apartBelow⟩
    rw [h.texts_eq, nodup_map_some_iff] at apart
    exact apart

end

namespace Data

mutual

/-- What is seen of a value has all entries exactly if the texts of its keys are apart. -/
theorem keeps_iff : ∀ {v : Value} {d : Data}, ofValue v = .ok d → (Keeps v d ↔ TextsApart v)
  | .seq items, d, h => by
    obtain ⟨ds, hd, rfl⟩ := Outcome.map_eq_ok_iff.mp h
    rw [TextsApart, ← keepsItems_iff hd, Keeps]
    constructor
    · rintro ⟨_, ⟨⟩, kept⟩
      exact kept
    · intro kept
      exact ⟨ds, rfl, kept⟩
  | .map entries, d, h => by
    simp only [ofValue, Outcome.bind_eq_ok_iff, Outcome.pure_eq_ok_iff] at h
    obtain ⟨pairs, hp, rfl⟩ := h
    have stand := standFor_of_ofEntries hp
    rw [TextsApart, Keeps]
    exact stand.keeps_iff (keepsEntries_iff stand)
  | .tagged tag v, d, h => by
    simp only [ofValue, Outcome.bind_eq_ok_iff, Outcome.pure_eq_ok_iff] at h
    obtain ⟨inner, hi, rfl⟩ := h
    rw [TextsApart, ← keeps_iff hi, Keeps]
    constructor
    · rintro ⟨_, same, kept⟩
      cases same
      exact kept
    · intro kept
      exact ⟨inner, rfl, kept⟩
  | .null, _, _ | .bool _, _, _ | .number _, _, _ | .string _, _, _ => by
    simp [Keeps, TextsApart]

theorem keepsItems_iff : ∀ {items : List Value} {ds : List Data}, ofItems items = .ok ds →
    (KeepsItems items ds ↔ TextsApartItems items)
  | [], ds, h => by
    cases h
    simp [KeepsItems, TextsApartItems]
  | v :: rest, ds, h => by
    simp only [ofItems, Outcome.bind_eq_ok_iff, Outcome.pure_eq_ok_iff] at h
    obtain ⟨d, hd, later, hl, rfl⟩ := h
    rw [KeepsItems, TextsApartItems, keeps_iff hd, keepsItems_iff hl]

theorem keepsEntries_iff {text : Value → Option String} :
    ∀ {entries : List (Value × Value)} {pairs : List (String × Data)},
      StandFor text entries pairs → (KeepsEntries entries pairs ↔ TextsApartEntries entries)
  | [], _, .nil => by simp [KeepsEntries, TextsApartEntries]
  | (_, v) :: rest, (_, d) :: pairs, .cons first later => by
    rw [KeepsEntries, TextsApartEntries, keeps_iff first.2, keepsEntries_iff later]

end

/-- Different strings have different texts. -/
theorem nodup_texts_of_strings {text : Value → Option String} {entries : List (Value × Value)}
    (spelled : ∀ s, text (.string s) = some s) (distinct : Entries.Distinct entries)
    (strings : ∀ e ∈ entries, ∃ s, e.1 = .string s) : (texts text entries).Nodup := by
  have codes : Entries.codes entries =
      (texts text entries).map fun t => (Value.string (t.getD "")).code := by
    rw [Entries.codes, texts, List.map_map]
    refine List.map_congr_left fun e he => ?_
    obtain ⟨s, hs⟩ := strings e he
    rw [Function.comp_apply, hs, spelled]
    rfl
  rw [Entries.Distinct, codes] at distinct
  exact distinct.of_map _

mutual

theorem textsApart_of_stringKeys : ∀ {v : Value}, v.WellFormed → v.StringKeys → TextsApart v
  | .seq items, hw, hs => by
    have hw : Value.WellFormedItems items := hw
    exact textsApartItems_of_stringKeys hw hs
  | .map entries, hw, hs => by
    have strings := fun e he => (Value.stringKeysEntries_iff.mp hs e he).1
    exact ⟨nodup_texts_of_strings (fun _ => rfl) hw.1 strings,
      textsApartEntries_of_stringKeys hw.2 hs⟩
  | .tagged tag v, hw, hs => by
    show TextsApart v
    have hw : v.WellFormed := hw
    exact textsApart_of_stringKeys hw hs
  | .null, _, _ | .bool _, _, _ | .number _, _, _ | .string _, _, _ => trivial

theorem textsApartItems_of_stringKeys : ∀ {items : List Value},
    Value.WellFormedItems items → Value.StringKeysItems items → TextsApartItems items
  | [], _, _ => trivial
  | v :: rest, hw, hs => by
    have first : TextsApart v := textsApart_of_stringKeys hw.1 hs.1
    exact ⟨first, textsApartItems_of_stringKeys hw.2 hs.2⟩

theorem textsApartEntries_of_stringKeys : ∀ {entries : List (Value × Value)},
    Value.WellFormedEntries entries → Value.StringKeysEntries entries →
      TextsApartEntries entries
  | [], _, _ => trivial
  | (k, v) :: rest, hw, hs => by
    have first : TextsApart v := textsApart_of_stringKeys hw.1 hs.2.1
    exact ⟨first, textsApartEntries_of_stringKeys hw.2 hs.2.2⟩

end

end Data

namespace Definition

/-- **Nothing of a payload is lost exactly if in none of its mappings two keys have one text.** -/
theorem keeps_iff {v : Value} {d : Definition} (h : ofValue v = .ok d) :
    Keeps v d.data ↔ TextsApart v := by
  cases v with
  | map entries =>
    obtain ⟨fields, hf, rfl⟩ := Outcome.map_eq_ok_iff.mp h
    have stand := standFor_of_fieldsOf hf
    exact stand.keeps_iff (Data.keepsEntries_iff stand)
  | seq items =>
    obtain ⟨ds, hd, rfl⟩ := Outcome.map_eq_ok_iff.mp h
    have whole : Data.ofValue (.seq items) = .ok (.list ds) := by
      rw [Data.ofValue, Outcome.mapError_eq_ok_iff.mp hd]
      rfl
    exact Data.keeps_iff whole
  | _ =>
    obtain ⟨value, hv, rfl⟩ := Outcome.map_eq_ok_iff.mp h
    exact Data.keeps_iff (Outcome.mapError_eq_ok_iff.mp hv)

/-- The fields of a mapping have different names exactly if the texts of its keys are different. -/
theorem nodup_fieldNames_iff {entries : List (Value × Value)} {d : Definition}
    (h : ofValue (.map entries) = .ok d) :
    d.fieldNames.Nodup ↔ (texts keyText entries).Nodup := by
  obtain ⟨fields, hf, rfl⟩ := Outcome.map_eq_ok_iff.mp h
  rw [(standFor_of_fieldsOf hf).texts_eq, nodup_map_some_iff]
  rfl

theorem textsApart_of_stringKeys {v : Value} (hw : v.WellFormed) (hs : v.StringKeys) :
    TextsApart v := by
  cases v with
  | map entries =>
    have strings := fun e he => (Value.stringKeysEntries_iff.mp hs e he).1
    exact ⟨Data.nodup_texts_of_strings (fun _ => rfl) hw.1 strings,
      Data.textsApartEntries_of_stringKeys hw.2 hs⟩
  | _ => exact Data.textsApart_of_stringKeys hw hs

end Definition

/-! ## Files -/

/-- **Which entries of a file reach a template.** All entries of a payload do exactly if none of its
mappings has two keys with one text, and so they do where all keys are strings. -/
theorem kept_of_decode {path : String} {octets : List UInt8} {c : Catalog}
    (h : decode path octets = .ok c) :
    ∃ entries, ExpandsTo octets (.map entries) ∧
      List.Forall₂ (fun e t => Declares path e t ∧
        (Definition.Keeps e.2 t.definition.data ↔ Definition.TextsApart e.2) ∧
        (∀ fields, e.2 = .map fields →
          (t.definition.fieldNames.Nodup ↔ (texts Definition.keyText fields).Nodup)) ∧
        (e.2.StringKeys → Definition.Keeps e.2 t.definition.data)) entries c.entries := by
  obtain ⟨entries, expanded, declares⟩ := decode_eq_ok_iff.mp h
  have whole : (Value.map entries).WellFormed := wellFormed_of_expandsTo expanded
  have each : ∀ e ∈ entries, e.2.WellFormed := Value.wellFormedEntries_iff.mp whole.2
  refine ⟨entries, expanded, ?_⟩
  refine ((List.forall₂_and_left _ _).mpr ⟨each, declares⟩).imp fun e t ⟨hw, ht⟩ => ?_
  have kept := Definition.keeps_iff ht.payload
  refine ⟨ht, kept, ?names, ?strings⟩
  case names =>
    intro fields hf
    have payload := ht.payload
    rw [hf] at payload
    exact Definition.nodup_fieldNames_iff payload
  case strings =>
    intro hs
    exact kept.mpr (Definition.textsApart_of_stringKeys hw hs)

/-- A field under a number and one under the string with the same text. -/
def clashing : Value :=
  .map [(.number (.int 1), .string "int"), (.string "1", .string "float")]

def clashingFile : List UInt8 := "T: \x7b1: int, '1': float\x7d\n".toUTF8.toList

/-- The type of the file, with both of its fields. -/
def clashingType : TypeDefinition :=
  { name := "T", definition := .mapping [("1", .string "int"), ("1", .string "float")]
    source := "t.yaml" }

theorem expandsTo_clashing : ExpandsTo clashingFile (.map [(.string "T", clashing)]) := by
  have read : Value.ofOctets clashingFile = .ok (.map [(.string "T", clashing)]) :=
    Value.ofOctets_eq_ok (by decide +kernel)
  exact ⟨by decide +kernel, _, read, rfl⟩

theorem decode_clashing : decode "t.yaml" clashingFile = .ok { entries := [clashingType] } :=
  decode_eq_ok_iff.mpr ⟨_, expandsTo_clashing, .cons ⟨rfl, rfl, rfl⟩ .nil⟩

theorem kept_of_decode_clashing :
    decode "t.yaml" clashingFile = .ok { entries := [clashingType] } ∧
    ∃ entries, ExpandsTo clashingFile (.map entries) ∧
      List.Forall₂ (fun e t => Declares "t.yaml" e t ∧
        (Definition.Keeps e.2 t.definition.data ↔ Definition.TextsApart e.2) ∧
        (∀ fields, e.2 = .map fields →
          (t.definition.fieldNames.Nodup ↔ (texts Definition.keyText fields).Nodup)) ∧
        (e.2.StringKeys → Definition.Keeps e.2 t.definition.data)) entries [clashingType] :=
  ⟨decode_clashing, kept_of_decode decode_clashing⟩

/-- **A field is lost**: of the two only the later one reaches a template. -/
theorem not_keeps_clashing :
    decode "t.yaml" clashingFile = .ok { entries := [clashingType] } ∧
    ExpandsTo clashingFile (.map [(.string "T", clashing)]) ∧
    ¬ clashingType.definition.fieldNames.Nodup ∧
    clashingType.definition.data = .object [("1", .string "float")] ∧
    ¬ Definition.Keeps clashing clashingType.definition.data := by
  have seen : clashingType.definition.data = .object [("1", .string "float")] := rfl
  refine ⟨decode_clashing, expandsTo_clashing, by decide, seen, ?_⟩
  rintro ⟨fields, same, each, -⟩
  rw [seen] at same
  cases same
  -- Two texts on one side, one name on the other.
  cases each.texts

end Schemata
