import Mathlib.Data.List.Nodup
import Schemata.Yaml.Merge

/-!
# Keys of mappings

Keys are told apart by their codes. `Entries.Distinct` says that no key occurs twice, and
`Value.WellFormed` that it occurs twice in no mapping that is reached through items, tags and the
values of mappings. Keys themselves are not looked into.
-/

namespace Schemata.Yaml

namespace Value

theorem same_iff {a b : Value} : a.same b ↔ a.code = b.code := by
  simp [same]

theorem codeText_inj {s t : String} : codeText s = codeText t ↔ s = t := by
  constructor
  · intro h
    simp only [codeText, List.cons.injEq] at h
    have inj : Function.Injective Char.toNat := fun a b hab => Char.toNat_inj.mp hab
    exact String.toList_injective (List.map_injective_iff.mpr inj h.2)
  · rintro rfl; rfl

/-- Only a string has the code of a string. -/
theorem code_eq_string_iff {v : Value} {s : String} : v.code = (string s).code ↔ v = .string s := by
  cases v with
  | string t => simp [code, codeText_inj]
  | number n => cases n <;> simp [code]
  | _ => simp [code]

theorem same_string_iff {v : Value} {s : String} : v.same (.string s) ↔ v = .string s := by
  rw [same_iff, code_eq_string_iff]

end Value

namespace Entries

/-- The codes of the keys, in order. -/
def codes (entries : List (Value × Value)) : List (List Nat) := entries.map (·.1.code)

/-- No key occurs twice. -/
def Distinct (entries : List (Value × Value)) : Prop := (codes entries).Nodup

instance (entries : List (Value × Value)) : Decidable (Distinct entries) :=
  inferInstanceAs (Decidable (codes entries).Nodup)

@[simp] theorem codes_nil : codes [] = [] := rfl

@[simp] theorem codes_cons (e : Value × Value) (rest : List (Value × Value)) :
    codes (e :: rest) = e.1.code :: codes rest := rfl

@[simp] theorem codes_append (xs ys : List (Value × Value)) :
    codes (xs ++ ys) = codes xs ++ codes ys := by
  simp [codes]

theorem codes_eq_of_keys {xs ys : List (Value × Value)} (h : xs.map (·.1) = ys.map (·.1)) :
    codes xs = codes ys := by
  have hc : ∀ zs : List (Value × Value), codes zs = (zs.map (·.1)).map Value.code := by
    simp [codes]
  rw [hc, hc, h]

theorem codes_filter_sublist (p : Value × Value → Bool) (entries : List (Value × Value)) :
    (codes (entries.filter p)).Sublist (codes entries) :=
  List.filter_sublist.map _

theorem Distinct.filter {entries : List (Value × Value)} (h : Distinct entries)
    (p : Value × Value → Bool) : Distinct (entries.filter p) :=
  h.sublist (codes_filter_sublist p entries)

theorem contains_iff {entries : List (Value × Value)} {key : Value} :
    contains entries key ↔ key.code ∈ codes entries := by
  simp [contains, codes, Value.same_iff]

/-- A plain string is there only as itself. -/
theorem contains_string_iff {entries : List (Value × Value)} {s : String} :
    contains entries (.string s) ↔ .string s ∈ entries.map (·.1) := by
  simp [contains, Value.same_string_iff]

theorem key?_eq_none_iff {entries : List (Value × Value)} {key : Value} :
    key? entries key = none ↔ key.code ∉ codes entries := by
  simp [key?, codes, Value.same_iff]

theorem lookup_cons (e : Value × Value) (rest : List (Value × Value)) (key : Value) :
    lookup (e :: rest) key = if e.1.code = key.code then some e.2 else lookup rest key := by
  by_cases h : e.1.code = key.code <;> simp [lookup, Value.same, h]

theorem lookup_append (xs ys : List (Value × Value)) (key : Value) :
    lookup (xs ++ ys) key = (lookup xs key).or (lookup ys key) := by
  simp [lookup, List.find?_append, Option.map_or]

theorem lookup_eq_none_iff {entries : List (Value × Value)} {key : Value} :
    lookup entries key = none ↔ key.code ∉ codes entries := by
  simp [lookup, codes, Value.same_iff]

/-- Where no key occurs twice, an entry is found under its key. -/
theorem lookup_of_mem {entries : List (Value × Value)} (hd : Distinct entries)
    {e : Value × Value} (he : e ∈ entries) : lookup entries e.1 = some e.2 := by
  induction entries with
  | nil => cases he
  | cons first rest ih =>
    simp only [Distinct, codes_cons, List.nodup_cons] at hd
    rw [lookup_cons]
    rcases List.mem_cons.mp he with rfl | later
    · exact if_pos rfl
    · have apart : first.1.code ≠ e.1.code := fun same =>
        hd.1 (same ▸ List.mem_map.mpr ⟨e, later, rfl⟩)
      rw [if_neg apart, ih hd.2 later]

end Entries

/-! ## Well-formed values -/

namespace Value

mutual

/-- No mapping that is reached has a key twice. -/
def WellFormed : Value → Prop
  | .seq items => WellFormedItems items
  | .tagged _ v => v.WellFormed
  | .map entries => Entries.Distinct entries ∧ WellFormedEntries entries
  | _ => True

def WellFormedItems : List Value → Prop
  | [] => True
  | v :: rest => v.WellFormed ∧ WellFormedItems rest

/-- The values of entries are well-formed. -/
def WellFormedEntries : List (Value × Value) → Prop
  | [] => True
  | (_, v) :: rest => v.WellFormed ∧ WellFormedEntries rest

end

mutual

/-- The keys of all mappings that are reached are strings, without tags. -/
def StringKeys : Value → Prop
  | .seq items => StringKeysItems items
  | .tagged _ v => v.StringKeys
  | .map entries => StringKeysEntries entries
  | _ => True

def StringKeysItems : List Value → Prop
  | [] => True
  | v :: rest => v.StringKeys ∧ StringKeysItems rest

def StringKeysEntries : List (Value × Value) → Prop
  | [] => True
  | (k, v) :: rest => (∃ s, k = .string s) ∧ v.StringKeys ∧ StringKeysEntries rest

end

theorem stringKeysItems_iff {items : List Value} :
    StringKeysItems items ↔ ∀ v ∈ items, v.StringKeys := by
  induction items with
  | nil => simp [StringKeysItems]
  | cons v rest ih => simp [StringKeysItems, ih]

theorem stringKeysEntries_iff {entries : List (Value × Value)} :
    StringKeysEntries entries ↔ ∀ e ∈ entries, (∃ s, e.1 = .string s) ∧ e.2.StringKeys := by
  induction entries with
  | nil => simp [StringKeysEntries]
  | cons e rest ih =>
    obtain ⟨k, v⟩ := e
    rw [StringKeysEntries, ih, List.forall_mem_cons, and_assoc]

theorem wellFormedItems_iff {items : List Value} :
    WellFormedItems items ↔ ∀ v ∈ items, v.WellFormed := by
  induction items with
  | nil => simp [WellFormedItems]
  | cons v rest ih => simp [WellFormedItems, ih]

theorem wellFormedEntries_iff {entries : List (Value × Value)} :
    WellFormedEntries entries ↔ ∀ e ∈ entries, e.2.WellFormed := by
  induction entries with
  | nil => simp [WellFormedEntries]
  | cons e rest ih => obtain ⟨k, v⟩ := e; simp [WellFormedEntries, ih]

end Value

end Schemata.Yaml
