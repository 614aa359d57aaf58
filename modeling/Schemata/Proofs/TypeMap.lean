import Mathlib.Data.Finset.Card
import Mathlib.Data.List.Find
import Schemata.Proofs.Header
import Schemata.Proofs.Keyed
import Schemata.Proofs.Toml.Document
import Schemata.TypeMap.File

/-!
# Type maps in layers

A type map file is laid over the map for fixed-width types. `Layers m base own` says what the map
`m` that comes of it answers: the entry of the file if it has one, else that of the base, else the
name itself. The answer is not looked up again, even if it is a name of the map. The file tells each
name once (`nodup_of_tells`), so the order in which its entries are put in place does not matter.
-/

namespace Schemata.TypeMap

open Toml Template

/-! ## Tables of target spellings -/

/-- The names that a table has entries for. -/
def tokens (entries : List (String × String)) : List String := entries.map (·.1)

variable {entries own other : List (String × String)} {base m : TypeMap} {token : String}

theorem lookup_eq_find? (entries : List (String × String)) (token : String) :
    entries.lookup token = (entries.find? (·.1 = token)).map (·.2) := by
  induction entries with
  | nil => rfl
  | cons e rest ih =>
    obtain ⟨name, target⟩ := e
    by_cases h : name = token
    · simp [h]
    · have passed : (token == name) = false := beq_false_of_ne (Ne.symm h)
      simp [List.lookup_cons, passed, h, ih]

/-- A table without repetitions can be looked up in any order. -/
theorem lookup_perm (same : own.Perm other) (h : (tokens own).Nodup) (token : String) :
    own.lookup token = other.lookup token := by
  have single : {e ∈ own | decide (e.1 = token)}.Subsingleton := by
    rintro e ⟨he, isToken⟩ e' ⟨he', isToken'⟩
    have names : e.1 = e'.1 := (of_decide_eq_true isToken).trans (of_decide_eq_true isToken').symm
    exact List.inj_on_of_nodup_map h he he' names
  rw [lookup_eq_find?, lookup_eq_find?, List.find?_eq_find?_of_perm same single]

theorem insertEntry_eq_put (entries : List (String × String)) (token target : String) :
    insertEntry entries token target = Keyed.put (·.1) (token, target) entries := by
  induction entries with
  | nil => rfl
  | cons e rest ih =>
    rw [insertEntry, Keyed.put, ih]
    exact if_congr beq_iff_eq rfl rfl

theorem entries_overlay (m : TypeMap) (own : List (String × String)) :
    (m.overlay own).entries = Keyed.putAll (·.1) m.entries own := by
  simp only [overlay, Keyed.putAll, insertEntry_eq_put]

/-- Under each name the last entry counts. -/
theorem get?_overlay (m : TypeMap) (own : List (String × String)) (token : String) :
    (m.overlay own).get? token = (own.reverse.lookup token).or (m.get? token) := by
  induction own using List.reverseRecOn with
  | nil => rfl
  | append_singleton own e ih =>
    obtain ⟨name, target⟩ := e
    have last : (m.overlay (own ++ [(name, target)])).get? token =
        if token = name then some target else (m.overlay own).get? token := by
      rw [TypeMap.get?, overlay, List.foldl_concat]
      exact lookup_insertEntry _ name target token
    rw [last, ih, List.reverse_concat]
    by_cases h : token = name
    · simp [h]
    · have passed : (token == name) = false := beq_false_of_ne h
      simp [List.lookup_cons, passed, h]

theorem size_overlay (own : List (String × String)) (h : (tokens m.entries).Nodup) :
    (m.overlay own).size = ((tokens m.entries).toFinset ∪ (tokens own).toFinset).card := by
  have names : tokens (m.overlay own).entries = (tokens m.entries ++ tokens own).eraseDups := by
    rw [entries_overlay]
    exact Keyed.map_key_putAll own h
  calc (m.overlay own).size
      = (tokens (m.overlay own).entries).length := (List.length_map _).symm
    _ = (tokens m.entries ++ tokens own).eraseDups.toFinset.card := by
        rw [names, List.toFinset_card_of_nodup (Keyed.nodup_eraseDups _)]
    _ = ((tokens m.entries).toFinset ∪ (tokens own).toFinset).card := by
        congr 1
        ext token
        simp

theorem nodup_fixedWidth : (tokens fixedWidth.entries).Nodup := by decide

/-! ## Layers -/

/-- The target spelling of a name by entries laid over those of a base. -/
def layered? (base : TypeMap) (own : List (String × String)) (token : String) : Option String :=
  (own.lookup token).or (base.get? token)

/-- What a map answers that has come of entries laid over those of a base. -/
structure Layers (m base : TypeMap) (own : List (String × String)) : Prop where
  get? : ∀ token, m.get? token = layered? base own token
  resolve : ∀ token, m.resolve token = (layered? base own token).getD token
  /-- The filter of any renderer with the map. -/
  cType : ∀ disk source r, Renderer.ofSource disk source m = .ok r →
    ∃ filter, Filter.named? r.types "c_type" = some filter ∧ ∀ token args,
      filter (.string token) args = .ok (.string ((layered? base own token).getD token))
  size : m.size = ((tokens base.entries).toFinset ∪ (tokens own).toFinset).card

theorem types_ofSource {disk : Disk} {source : TemplateSource} {r : Renderer}
    (h : Renderer.ofSource disk source m = .ok r) : r.types = m := by
  obtain ⟨text, -, h⟩ := Outcome.bind_eq_ok_iff.mp h
  obtain ⟨template, -, ⟨⟩⟩ := Outcome.bind_eq_ok_iff.mp h
  rfl

theorem layers_overlay (hb : (tokens base.entries).Nodup) (ho : (tokens own).Nodup)
    (same : own.Perm other) (name description : Option String) :
    Layers { base.overlay other with name, description } base own := by
  have get? (token : String) : TypeMap.get? { base.overlay other with name, description } token =
      layered? base own token := by
    have reordered : own.Perm other.reverse := same.trans other.reverse_perm.symm
    rw [layered?, lookup_perm reordered ho]
    exact get?_overlay base other token
  have resolve (token : String) :
      TypeMap.resolve { base.overlay other with name, description } token =
        (layered? base own token).getD token := by
    rw [TypeMap.resolve, get?]
  refine { get?, resolve, cType := fun disk source r built => ?_, size := ?_ }
  · refine ⟨Filter.onText "c_type" r.types.resolve, rfl, fun token args => ?_⟩
    rw [types_ofSource built, Filter.onText, resolve]
  · have names : (tokens own).toFinset = (tokens other).toFinset :=
      List.toFinset_eq_of_perm _ _ (same.map _)
    rw [names]
    exact size_overlay other hb

/-! ## What a document tells -/

/-- A table with nothing but texts in it spells these entries. -/
def Spells (entries : Entries) (own : List (String × String)) : Prop :=
  List.Forall₂ (fun e o => e.1.text = o.1 ∧ ∃ span, e.2 = .string span o.2) entries own

/-- The entries that the item under `types` tells, if there is one. A date or a time counts as a
table of one entry. -/
inductive Tells : Option Item → List (String × String) → Prop
  | nothing : Tells none []
  | inline {span : Option Span} {entries : Entries} {own : List (String × String)} :
      Spells entries own → Tells (some (.inline span entries)) own
  | table {span : Option Span} {origin : Origin} {entries : Entries}
      {own : List (String × String)} :
      Spells entries own → Tells (some (.table span origin entries)) own
  | moment {span : Span} {s : String} : Tells (some (.moment span s)) [(momentKey, s)]

theorem tokens_of_spells {entries : Entries} (h : Spells entries own) :
    tokens own = entries.names := by
  induction h with
  | nil => rfl
  | cons first _ ih => exact congrArg₂ List.cons first.1.symm ih

/-- An item that has no key twice tells no name twice. -/
theorem nodup_of_tells {item? : Option Item} (h : Tells item? own)
    (tidy : ∀ item ∈ item?, item.Tidy) : (tokens own).Nodup := by
  cases h with
  | nothing => exact List.nodup_nil
  | inline spelled =>
    rw [tokens_of_spells spelled]
    exact (Item.tidy_inline_iff.mp (tidy _ rfl)).distinct
  | table spelled =>
    rw [tokens_of_spells spelled]
    exact (Item.tidy_table_iff.mp (tidy _ rfl)).distinct
  | moment => exact List.nodup_singleton _

theorem text_eq_ok_iff {span : Span} {item : Item} {s : String} :
    text span item = .ok s ↔ ∃ own, item = .string own s := by
  cases item <;> simp [text, refuse]

theorem spells_of_mapM {entries : Entries}
    (h : (entries.mapM fun (k, item) => do return (k.text, ← text k.span item)) = .ok own) :
    Spells entries own := by
  induction entries generalizing own with
  | nil =>
    cases h
    exact .nil
  | cons e rest ih =>
    rw [List.mapM_cons] at h
    obtain ⟨first, entry, later⟩ := Outcome.bind_eq_ok_iff.mp h
    obtain ⟨s, isText, ⟨⟩⟩ := Outcome.bind_eq_ok_iff.mp entry
    obtain ⟨more, told, ⟨⟩⟩ := Outcome.bind_eq_ok_iff.mp later
    exact .cons ⟨rfl, text_eq_ok_iff.mp isText⟩ (ih told)

theorem tells_of_targets {key : Key} {item : Item} (h : targets key item = .ok own) :
    Tells (some item) own := by
  cases item with
  | inline => exact .inline (spells_of_mapM h)
  | table => exact .table (spells_of_mapM h)
  | moment =>
    cases h
    exact .moment
  | _ => cases h

/-- Where no key is given twice, what counts is what the one item under `types` tells. -/
theorem tells_of_contents {doc : Entries} {told told' : Metadata} {types : List (String × String)}
    (distinct : doc.names.Nodup) (h : contents doc (told, types) = .ok (told', own)) :
    (∀ item, doc.get? "types" = some item → Tells (some item) own) ∧
      (doc.get? "types" = none → own = types) := by
  induction doc generalizing told types with
  | nil =>
    cases h
    refine ⟨fun item found => ?_, fun _ => rfl⟩
    cases found
  | cons e rest ih =>
    obtain ⟨key, item⟩ := e
    obtain ⟨new, distinct⟩ := List.nodup_cons.mp distinct
    have passed (ne : key.text ≠ "types") :
        Entries.get? ((key, item) :: rest) "types" = Entries.get? rest "types" := by
      simp [Entries.get?, ne]
    unfold contents at h
    split at h
    · next isMetadata =>
      obtain ⟨told, -, h⟩ := Outcome.bind_eq_ok_iff.mp h
      have ne : key.text ≠ "types" := by
        rw [eq_of_beq isMetadata]
        decide
      rw [passed ne]
      exact ih distinct h
    · split at h
      · next isTypes =>
        obtain ⟨types, told, h⟩ := Outcome.bind_eq_ok_iff.mp h
        have same : key.text = "types" := eq_of_beq isTypes
        have found : Entries.get? ((key, item) :: rest) "types" = some item := by
          simp [Entries.get?, same]
        have later : Entries.get? rest "types" = none := Entries.get?_eq_none_iff.mpr (same ▸ new)
        obtain rfl : own = types := (ih distinct h).2 later
        rw [found]
        constructor
        · rintro _ ⟨⟩
          exact tells_of_targets told
        · intro absent
          cases absent
      · next isOther =>
        rw [passed fun same => isOther (beq_iff_eq.mpr same)]
        exact ih distinct h

theorem tells_of_ofText {source : String} (h : ofText source = .ok m) :
    ∃ doc own, Toml.read source = .ok doc ∧ Tells (doc.get? "types") own ∧
      (tokens own).Nodup ∧
      m = { fixedWidth.overlay own with name := m.name, description := m.description } := by
  obtain ⟨doc, read, h⟩ := Outcome.bind_eq_ok_iff.mp (Outcome.mapError_eq_ok_iff.mp h)
  obtain ⟨⟨⟨name, description⟩, own⟩, told, ⟨⟩⟩ := Outcome.bind_eq_ok_iff.mp h
  have tidy := read_tidy read
  obtain ⟨given, absent⟩ := tells_of_contents tidy.distinct told
  have tells : Tells (doc.get? "types") own := by
    cases found : doc.get? "types" with
    | none =>
      rw [absent found]
      exact .nothing
    | some item => exact given item found
  exact ⟨doc, own, read, tells, nodup_of_tells tells fun _ => tidy.of_get?, rfl⟩

/-- **A type map file is laid over the map for fixed-width types.** Every entry of its table counts,
and it does not matter in which order they are put in place. -/
theorem ofText_layers {source : String} (h : ofText source = .ok m) :
    ∃ doc own, Toml.read source = .ok doc ∧ Tells (doc.get? "types") own ∧ (tokens own).Nodup ∧
      Layers m fixedWidth own ∧
      m = { fixedWidth.overlay own with name := m.name, description := m.description } ∧
      ∀ order, own.Perm order →
        Layers { fixedWidth.overlay order with name := m.name, description := m.description }
          fixedWidth own := by
  obtain ⟨doc, own, read, tells, nodup, made⟩ := tells_of_ofText h
  have layers (order : List (String × String)) (same : own.Perm order) :
      Layers { fixedWidth.overlay order with name := m.name, description := m.description }
        fixedWidth own :=
    layers_overlay nodup_fixedWidth nodup same m.name m.description
  exact ⟨doc, own, read, tells, nodup, made ▸ layers own (.refl own), made, layers⟩

/-- The target of `int` is a name of the map itself. -/
def chainedText : String := "[types]\nint = \"uint8\"\nTimestamp = \"u64\"\n"

def chained : TypeMap :=
  { fixedWidth.overlay [("int", "uint8"), ("Timestamp", "u64")] with
    name := none, description := none }

theorem ofText_layers_chained :
    ofText chainedText = .ok chained ∧
    (∃ doc own, Toml.read chainedText = .ok doc ∧ Tells (doc.get? "types") own ∧
      Layers chained fixedWidth own) ∧
    chained.resolve "int" = "uint8" ∧ chained.resolve "uint8" = "uint8_t" ∧
    chained.resolve "Timestamp" = "u64" ∧ chained.resolve "Point" = "Point" ∧ chained.size = 18 ∧
    ∃ r filter, Renderer.ofSource (fun _ => .error .notFound) .builtIn chained = .ok r ∧
      Filter.named? r.types "c_type" = some filter ∧
      filter (.string "int") [] = .ok (.string "uint8") := by
  have read : ofText chainedText = .ok chained :=
    Outcome.toOption_eq_some_iff.mp (by decide +kernel)
  obtain ⟨doc, own, document, tells, -, layers, -⟩ := ofText_layers read
  have built := Renderer.ofSource_builtIn (fun _ => .error .notFound) chained
  obtain ⟨filter, known, answers⟩ := layers.cType _ _ _ built
  have int : chained.resolve "int" = "uint8" := by decide
  refine ⟨read, ⟨doc, own, document, tells, layers⟩, int, by decide, by decide, by decide,
    by decide, _, filter, built, known, ?_⟩
  rw [answers, ← layers.resolve, int]

end Schemata.TypeMap
