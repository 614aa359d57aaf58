import Schemata.Proofs.Keyed
import Schemata.Proofs.Outcome
import Schemata.Proofs.Yaml.Reach

/-!
# What merge keys stand for

`Value.resolved` says what a value is once its merge keys are resolved, without any order of work:
a mapping with the plain merge key consists of the entries of its sources, each at its first
appearance, and then of its own entries under other keys; its own values win.
`Value.expand_eq_resolved` is that expansion computes it.
-/

namespace Schemata.Yaml

/-! ## The resolved value -/

/-- The entries of a mapping. -/
def Value.entries? : Value → Option (List (Value × Value))
  | .map entries => some entries
  | _ => none

namespace Entries

/-- Whether the merge key is among the keys, without a tag. -/
def hasMergeKey (entries : List (Value × Value)) : Bool :=
  entries.any fun e => match e.1 with
    | .string s => s == mergeKey
    | _ => false

/-- The mappings that a value under a merge key names. -/
def named : Value → List (List (Value × Value))
  | .map source => [source]
  | .seq items => items.filterMap Value.entries?
  | _ => []

/-- The mappings that the merge entries name, in order. -/
def sources (entries : List (Value × Value)) : List (List (Value × Value)) :=
  (entries.filter isMerge).flatMap fun e => named e.2

/-- The entries that are not merge entries. -/
def own (entries : List (Value × Value)) : List (Value × Value) := entries.filter (!isMerge ·)

/-- The first entry under each key. -/
def firsts (entries : List (Value × Value)) : List (Value × Value) :=
  entries.eraseDupsBy fun e f => e.1.same f.1

/-- The entries that the sources give: under each key that of the earliest source that has it. -/
def inherited (entries : List (Value × Value)) : List (Value × Value) :=
  firsts (sources entries).flatten

/-- The entries with the values that others give to their keys. -/
def overriddenBy (entries others : List (Value × Value)) : List (Value × Value) :=
  entries.map fun e => (e.1, (lookup others e.1).getD e.2)

/-- The entries under keys that others do not have. -/
def without (entries others : List (Value × Value)) : List (Value × Value) :=
  entries.filter fun e => !contains others e.1

/-- In a mapping with the merge key: the inherited entries, with the own value where there is one,
and then the own entries under keys that no source has. -/
def resolved (entries : List (Value × Value)) : List (Value × Value) :=
  if hasMergeKey entries then
    overriddenBy (inherited entries) (own entries) ++ without (own entries) (inherited entries)
  else entries

end Entries

namespace Value

mutual

/-- The value with its merge keys resolved, below before above. -/
def resolved : Value → Value
  | .seq items => .seq (resolvedItems items)
  | .tagged tag v => .tagged tag v.resolved
  | .map entries => .map (Entries.resolved (resolvedEntries entries))
  | v => v

def resolvedItems : List Value → List Value
  | [] => []
  | v :: rest => v.resolved :: resolvedItems rest

/-- Keys are left as they are. -/
def resolvedEntries : List (Value × Value) → List (Value × Value)
  | [] => []
  | (k, v) :: rest => (k, v.resolved) :: resolvedEntries rest

end

end Value

namespace Entries

theorem hasMergeKey_eq_contains (entries : List (Value × Value)) :
    hasMergeKey entries = contains entries (.string mergeKey) := by
  rw [Bool.eq_iff_iff, contains_string_iff]
  simp only [hasMergeKey, List.any_eq_true, List.mem_map]
  constructor
  · rintro ⟨⟨k, v⟩, hmem, hk⟩
    cases k <;> simp at hk
    subst hk
    exact ⟨_, hmem, rfl⟩
  · rintro ⟨⟨k, v⟩, hmem, rfl⟩
    exact ⟨_, hmem, by simp⟩

theorem hasMergeKey_iff {entries : List (Value × Value)} :
    hasMergeKey entries ↔ .string mergeKey ∈ entries.map (·.1) := by
  rw [hasMergeKey_eq_contains, contains_string_iff]

/-! ## First entries -/

/-- Keys are told apart by their codes. -/
def keyCode (e : Value × Value) : List Nat := e.1.code

theorem firsts_eq (xs : List (Value × Value)) : firsts xs = Keyed.firsts keyCode xs := by
  unfold firsts Keyed.firsts
  congr 1
  funext e f
  rw [Bool.eq_iff_iff, Value.same_iff, decide_eq_true_iff]
  rfl

theorem firsts_concat (xs : List (Value × Value)) (e : Value × Value) :
    firsts (xs ++ [e]) = if contains (firsts xs) e.1 then firsts xs else firsts xs ++ [e] := by
  have known : contains (Keyed.firsts keyCode xs) e.1 ↔
      keyCode e ∈ (Keyed.firsts keyCode xs).map keyCode := contains_iff
  rw [firsts_eq, firsts_eq, Keyed.firsts_concat]
  by_cases h : contains (Keyed.firsts keyCode xs) e.1
  · rw [if_pos h, if_pos (known.mp h)]
  · rw [if_neg h, if_neg (mt known.mpr h)]

theorem distinct_firsts (xs : List (Value × Value)) : Distinct (firsts xs) := by
  rw [firsts_eq]
  exact Keyed.nodup_firsts xs

/-- Adding what is missing goes on with the first entries. -/
theorem addMissing_firsts (xs source : List (Value × Value)) :
    addMissing (firsts xs) source = firsts (xs ++ source) := by
  induction source generalizing xs with
  | nil => simp [addMissing]
  | cons e source ih =>
    have h := ih (xs ++ [e])
    rw [firsts_concat, List.append_assoc, List.singleton_append] at h
    rw [← h]
    rfl

theorem addSources_firsts {xs m : List (Value × Value)} {items : List Value}
    (h : addSources (firsts xs) items = .ok m) :
    m = firsts (xs ++ (items.filterMap Value.entries?).flatten) := by
  induction items generalizing xs with
  | nil => simpa [addSources] using h.symm
  | cons v items ih =>
    cases v with
    | map source =>
      rw [addSources, addMissing_firsts] at h
      simpa [Value.entries?, List.append_assoc] using ih h
    | _ => cases h

theorem addMerged_firsts {xs m : List (Value × Value)} {v : Value}
    (h : addMerged (firsts xs) v = .ok m) : m = firsts (xs ++ (named v).flatten) := by
  cases v with
  | map source =>
    rw [addMerged, addMissing_firsts] at h
    simpa [named] using h.symm
  | seq items => exact addSources_firsts h
  | _ => cases h

theorem mergedOf_firsts {xs m entries : List (Value × Value)}
    (h : mergedOf (firsts xs) entries = .ok m) : m = firsts (xs ++ (sources entries).flatten) := by
  induction entries generalizing xs with
  | nil => simpa [mergedOf, sources] using h.symm
  | cons e entries ih =>
    unfold mergedOf at h
    split at h
    · next he =>
      obtain ⟨acc, hacc, h⟩ := Outcome.bind_eq_ok_iff.mp h
      rw [addMerged_firsts hacc] at h
      simpa [sources, he, List.append_assoc] using ih h
    · next he => simpa [sources, he] using ih h

/-- What the merge entries name, taken together. -/
theorem mergedOf_eq_inherited {m entries : List (Value × Value)}
    (h : mergedOf [] entries = .ok m) : m = inherited entries := by
  have h : mergedOf (firsts []) entries = .ok m := h
  simpa [inherited] using mergedOf_firsts h

/-! ## Own entries -/

theorem insert_of_not_contains {entries : List (Value × Value)} {k v : Value}
    (h : ¬ contains entries k) : insert entries k v = entries ++ [(k, v)] := by
  induction entries with
  | nil => rfl
  | cons e entries ih =>
    simp only [contains, List.any_cons, Bool.or_eq_true, not_or] at h
    simp only [insert, h.1, Bool.false_eq_true, ↓reduceIte, List.cons_append]
    rw [ih h.2]

/-- The entries with the value of one key set. -/
def withValue (entries : List (Value × Value)) (k v : Value) : List (Value × Value) :=
  entries.map fun e => (e.1, if e.1.same k then v else e.2)

@[simp] theorem codes_withValue (entries : List (Value × Value)) (k v : Value) :
    codes (withValue entries k v) = codes entries := by
  simp [codes, withValue]

@[simp] theorem codes_overriddenBy (entries others : List (Value × Value)) :
    codes (overriddenBy entries others) = codes entries := by
  simp [codes, overriddenBy]

theorem withValue_of_not_contains {entries : List (Value × Value)} {k v : Value}
    (h : ¬ contains entries k) : withValue entries k v = entries := by
  simp only [contains, List.any_eq_true, not_exists, not_and] at h
  conv_rhs => rw [← List.map_id entries]
  exact List.map_congr_left fun e he => by simp [h e he]

theorem insert_of_contains {entries : List (Value × Value)} {k v : Value} (hd : Distinct entries)
    (h : contains entries k) : insert entries k v = withValue entries k v := by
  induction entries with
  | nil => simp [contains] at h
  | cons e entries ih =>
    simp only [Distinct, codes_cons, List.nodup_cons] at hd
    by_cases he : e.1.same k
    · have rest : ¬ contains entries k := by
        rw [contains_iff, ← Value.same_iff.mp he]
        exact hd.1
      have same := withValue_of_not_contains (v := v) rest
      simp only [withValue] at same
      simp [insert, withValue, he, same]
    · have rest : contains entries k := by
        simpa [contains, he] using h
      have tail := ih hd.2 rest
      simp only [withValue] at tail
      simp [insert, withValue, he, tail]

/-- Setting the value of a key before the others changes nothing if they have another one for it,
and counts if they have none. -/
theorem overriddenBy_withValue {entries others : List (Value × Value)} {k v : Value}
    (h : k.code ∉ codes others) :
    overriddenBy (withValue entries k v) others = overriddenBy entries ((k, v) :: others) := by
  simp only [overriddenBy, withValue, List.map_map]
  refine List.map_congr_left fun e _ => ?_
  by_cases he : e.1.code = k.code
  · have none_left : lookup others e.1 = none := lookup_eq_none_iff.mpr (he ▸ h)
    simp [lookup_cons, Value.same_iff.mpr he, he, none_left]
  · have apart : ¬ e.1.same k := fun s => he (Value.same_iff.mp s)
    simp [lookup_cons, apart, Ne.symm he]

theorem without_withValue (entries others : List (Value × Value)) (k v : Value) :
    without entries (withValue others k v) = without entries others := by
  refine List.filter_congr fun e _ => ?_
  congr 1
  rw [Bool.eq_iff_iff, contains_iff, contains_iff, codes_withValue]

/-- Entries inserted one by one override those that are there and add the others. -/
theorem foldl_insert {entries own : List (Value × Value)} (hd : Distinct entries)
    (ho : Distinct own) :
    own.foldl (fun acc e => insert acc e.1 e.2) entries =
      overriddenBy entries own ++ without own entries := by
  induction own generalizing entries with
  | nil =>
    have plain : overriddenBy entries [] = entries := by simp [overriddenBy, lookup]
    simp [without, plain]
  | cons e own ih =>
    obtain ⟨k, v⟩ := e
    simp only [Distinct, codes_cons, List.nodup_cons] at ho
    obtain ⟨fresh, ho⟩ := ho
    rw [List.foldl_cons]
    by_cases h : contains entries k
    · have hd' : Distinct (withValue entries k v) := by rwa [Distinct, codes_withValue]
      rw [insert_of_contains hd h, ih hd' ho, overriddenBy_withValue fresh, without_withValue]
      simp [without, h]
    · have apart : ∀ e ∈ entries, e.1.code ≠ k.code := fun e he hk =>
        h (contains_iff.mpr (List.mem_map.mpr ⟨e, he, hk⟩))
      have hd' : Distinct (entries ++ [(k, v)]) := by
        rw [Distinct, codes_append, List.nodup_append']
        exact ⟨hd, by simp, by simpa [contains_iff] using h⟩
      have front : overriddenBy entries ((k, v) :: own) = overriddenBy entries own :=
        List.map_congr_left fun e he => by simp [lookup_cons, (apart e he).symm]
      have last : overriddenBy [(k, v)] own = [(k, v)] := by
        simp [overriddenBy, lookup_eq_none_iff.mpr fresh]
      have rest : without own (entries ++ [(k, v)]) = without own entries := by
        refine List.filter_congr fun e he => ?_
        have : ¬ k.same e.1 := fun s =>
          fresh (List.mem_map.mpr ⟨e, he, (Value.same_iff.mp s).symm⟩)
        simp [contains, this]
      have split : overriddenBy (entries ++ [(k, v)]) own =
          overriddenBy entries own ++ overriddenBy [(k, v)] own := by simp [overriddenBy]
      rw [insert_of_not_contains h, ih hd' ho, split, last, front, rest]
      simp [without, h]

theorem distinct_resolved {entries : List (Value × Value)} (hd : Distinct entries) :
    Distinct (resolved entries) := by
  unfold resolved
  split
  · rw [Distinct, codes_append, codes_overriddenBy, List.nodup_append']
    refine ⟨distinct_firsts _, (hd.filter _).filter _, fun c hc hw => ?_⟩
    obtain ⟨e, he, rfl⟩ := List.mem_map.mp hw
    have absent := (List.mem_filter.mp he).2
    simp [contains_iff.mpr hc] at absent
  · exact hd

/-- A resolved mapping holds values of the mapping and of its sources only. -/
theorem value_of_mem_resolved {entries : List (Value × Value)} {e : Value × Value}
    (h : e ∈ resolved entries) :
    (∃ f ∈ entries, f.2 = e.2) ∨ ∃ source ∈ sources entries, ∃ f ∈ source, f.2 = e.2 := by
  unfold resolved at h
  split at h
  · rcases List.mem_append.mp h with h | h
    · obtain ⟨f, hf, rfl⟩ := List.mem_map.mp h
      cases ho : lookup (own entries) f.1 with
      | none =>
        rw [inherited, firsts_eq] at hf
        obtain ⟨source, hs, hf⟩ := List.mem_flatten.mp (Keyed.mem_of_mem_firsts hf)
        exact .inr ⟨source, hs, f, hf, by simp⟩
      | some v =>
        obtain ⟨g, hg, rfl⟩ := Option.map_eq_some_iff.mp ho
        exact .inl ⟨g, List.mem_of_mem_filter (List.mem_of_find?_eq_some hg), by simp⟩
    · exact .inl ⟨e, List.mem_of_mem_filter (List.mem_of_mem_filter h), rfl⟩
  · exact .inl ⟨e, h, rfl⟩

/-- The sources of a mapping are reached in its values. -/
theorem reaches_of_mem_sources {entries source : List (Value × Value)}
    (hs : source ∈ sources entries) : ∃ e ∈ entries, Value.Reaches e.2 (.map source) := by
  obtain ⟨⟨k, v⟩, he, hs⟩ := List.mem_flatMap.mp hs
  refine ⟨(k, v), List.mem_of_mem_filter he, ?_⟩
  cases v with
  | map entries =>
    rw [List.mem_singleton.mp hs]
    exact .refl _
  | seq items =>
    obtain ⟨v, hmem, hv⟩ := List.mem_filterMap.mp hs
    cases v with
    | map entries =>
      cases hv
      exact .item hmem (.refl _)
    | _ => cases hv
  | _ => cases hs

theorem wellFormed_of_mem_sources {entries source : List (Value × Value)}
    (hv : ∀ e ∈ entries, e.2.WellFormed) (hs : source ∈ sources entries) :
    ∀ e ∈ source, e.2.WellFormed := by
  obtain ⟨e, he, reached⟩ := reaches_of_mem_sources hs
  have whole : (Value.map source).WellFormed := (hv e he).of_reaches reached
  exact Value.wellFormedEntries_iff.mp whole.2

theorem wellFormed_resolved {entries : List (Value × Value)}
    (h : (Value.map entries).WellFormed) : (Value.map (resolved entries)).WellFormed := by
  refine ⟨distinct_resolved h.1, Value.wellFormedEntries_iff.mpr fun e he => ?_⟩
  have hv := Value.wellFormedEntries_iff.mp h.2
  rcases value_of_mem_resolved he with ⟨f, hf, same⟩ | ⟨source, hs, f, hf, same⟩
  · exact same ▸ hv f hf
  · exact same ▸ wellFormed_of_mem_sources hv hs f hf

theorem eq_of_merge {entries merged : List (Value × Value)} (h : merge entries = .ok merged) :
    merged = if hasMergeKey entries then
      (own entries).foldl (fun acc e => insert acc e.1 e.2) (inherited entries) else entries := by
  unfold merge at h
  rw [hasMergeKey_eq_contains]
  split at h
  · next hk =>
    obtain ⟨m, hm, h⟩ := Outcome.bind_eq_ok_iff.mp h
    rw [if_pos hk, ← Outcome.pure_eq_ok_iff.mp h, mergedOf_eq_inherited hm]
    rfl
  · next hk => rw [if_neg hk, Outcome.pure_eq_ok_iff.mp h]

/-- Merging a mapping resolves its merge key. -/
theorem merge_eq_resolved {entries merged : List (Value × Value)} (hd : Distinct entries)
    (h : merge entries = .ok merged) : merged = resolved entries := by
  rw [eq_of_merge h, resolved]
  exact if_congr Iff.rfl (foldl_insert (distinct_firsts _) (hd.filter _)) rfl

theorem merge_of_not_hasMergeKey {entries : List (Value × Value)} (h : ¬ hasMergeKey entries) :
    merge entries = .ok entries := by
  rw [hasMergeKey_eq_contains] at h
  rw [merge, if_neg h]
  rfl

end Entries

/-! ## Expansion -/

namespace Value

/-- Items are expanded one by one. -/
theorem expandItems_eq_ok_iff {items out : List Value} :
    expandItems items = .ok out ↔ List.Forall₂ (fun v w => v.expand = .ok w) items out := by
  induction items generalizing out with
  | nil =>
    rw [List.forall₂_nil_left_iff, expandItems, Except.ok.injEq]
    exact eq_comm
  | cons v rest ih =>
    simp only [expandItems, Outcome.bind_eq_ok_iff, Outcome.pure_eq_ok_iff,
      List.forall₂_cons_left_iff, ih]
    constructor
    · rintro ⟨w, hw, later, hl, rfl⟩
      exact ⟨w, later, hw, hl, rfl⟩
    · rintro ⟨w, later, hw, hl, rfl⟩
      exact ⟨w, hw, later, hl, rfl⟩

/-- The values of entries are expanded one by one, under their keys. -/
theorem expandEntries_eq_ok_iff {entries out : List (Value × Value)} :
    expandEntries entries = .ok out ↔
      List.Forall₂ (fun e f => f.1 = e.1 ∧ e.2.expand = .ok f.2) entries out := by
  induction entries generalizing out with
  | nil =>
    rw [List.forall₂_nil_left_iff, expandEntries, Except.ok.injEq]
    exact eq_comm
  | cons e rest ih =>
    obtain ⟨k, v⟩ := e
    simp only [expandEntries, Outcome.bind_eq_ok_iff, Outcome.pure_eq_ok_iff,
      List.forall₂_cons_left_iff, ih]
    constructor
    · rintro ⟨w, hw, later, hl, rfl⟩
      exact ⟨(k, w), later, ⟨rfl, hw⟩, hl, rfl⟩
    · rintro ⟨⟨_, w⟩, later, ⟨rfl, hw⟩, hl, rfl⟩
      exact ⟨w, hw, later, hl, rfl⟩

theorem keys_of_expandEntries {entries out : List (Value × Value)}
    (h : expandEntries entries = .ok out) : out.map (·.1) = entries.map (·.1) := by
  have each := expandEntries_eq_ok_iff.mp h
  clear h
  induction each with
  | nil => rfl
  | cons first _ ih => rw [List.map_cons, List.map_cons, first.1, ih]

/-- A mapping is expanded below its keys, and then merged. -/
theorem expand_map_eq_ok_iff {entries : List (Value × Value)} {w : Value} :
    (Value.map entries).expand = .ok w ↔
      ∃ expanded merged, expandEntries entries = .ok expanded ∧
        Entries.merge expanded = .ok merged ∧ w = .map merged := by
  simp only [expand, Outcome.bind_eq_ok_iff, Outcome.pure_eq_ok_iff, eq_comm (a := w),
    exists_and_left]

@[simp] theorem keys_resolvedEntries (entries : List (Value × Value)) :
    (resolvedEntries entries).map (·.1) = entries.map (·.1) := by
  induction entries with
  | nil => rfl
  | cons e rest ih => obtain ⟨k, v⟩ := e; simp [resolvedEntries, ih]

theorem distinct_resolvedEntries {entries : List (Value × Value)} (h : Entries.Distinct entries) :
    Entries.Distinct (resolvedEntries entries) := by
  rw [Entries.Distinct, Entries.codes_eq_of_keys (keys_resolvedEntries entries)]
  exact h

mutual

theorem WellFormed.resolved : ∀ {v : Value}, v.WellFormed → v.resolved.WellFormed
  | .seq _, h => WellFormedItems.resolved h
  | .tagged _ v, h => WellFormed.resolved (v := v) h
  | .map _, h =>
    Entries.wellFormed_resolved ⟨distinct_resolvedEntries h.1, WellFormedEntries.resolved h.2⟩
  | .null, _ | .bool _, _ | .number _, _ | .string _, _ => trivial

theorem WellFormedItems.resolved : ∀ {items : List Value}, WellFormedItems items →
    WellFormedItems (resolvedItems items)
  | [], _ => trivial
  | _ :: _, h => ⟨h.1.resolved, WellFormedItems.resolved h.2⟩

theorem WellFormedEntries.resolved : ∀ {entries : List (Value × Value)},
    WellFormedEntries entries → WellFormedEntries (resolvedEntries entries)
  | [], _ => trivial
  | _ :: _, h => ⟨h.1.resolved, WellFormedEntries.resolved h.2⟩

end

mutual

theorem resolved_of_expand : ∀ {v w : Value}, v.WellFormed → v.expand = .ok w → w = v.resolved
  | .seq items, w, hv, h => by
    obtain ⟨items', hi, rfl⟩ := Outcome.map_eq_ok_iff.mp (by simpa only [expand] using h)
    rw [resolved, resolvedItems_of_expand hv hi]
  | .tagged tag v, w, hv, h => by
    obtain ⟨v', hi, rfl⟩ := Outcome.map_eq_ok_iff.mp (by simpa only [expand] using h)
    rw [resolved, resolved_of_expand (v := v) hv hi]
  | .map entries, w, hv, h => by
    simp only [expand, Outcome.bind_eq_ok_iff, Outcome.pure_eq_ok_iff] at h
    obtain ⟨expanded, he, merged, hm, rfl⟩ := h
    rw [resolvedEntries_of_expand hv.2 he] at hm
    rw [resolved, Entries.merge_eq_resolved (distinct_resolvedEntries hv.1) hm]
  | .null, w, _, h | .bool _, w, _, h | .number _, w, _, h | .string _, w, _, h => by
    cases h
    rfl

theorem resolvedItems_of_expand : ∀ {items out : List Value}, WellFormedItems items →
    expandItems items = .ok out → out = resolvedItems items
  | [], out, _, h => by
    cases h
    rfl
  | v :: rest, out, hv, h => by
    simp only [expandItems, Outcome.bind_eq_ok_iff, Outcome.pure_eq_ok_iff] at h
    obtain ⟨v', hv', rest', hr, rfl⟩ := h
    rw [resolvedItems, resolved_of_expand hv.1 hv', resolvedItems_of_expand hv.2 hr]

theorem resolvedEntries_of_expand : ∀ {entries out : List (Value × Value)},
    WellFormedEntries entries → expandEntries entries = .ok out → out = resolvedEntries entries
  | [], out, _, h => by
    cases h
    rfl
  | (k, v) :: rest, out, hv, h => by
    simp only [expandEntries, Outcome.bind_eq_ok_iff, Outcome.pure_eq_ok_iff] at h
    obtain ⟨v', hv', rest', hr, rfl⟩ := h
    rw [resolvedEntries, resolved_of_expand hv.1 hv', resolvedEntries_of_expand hv.2 hr]

end

/-- **Expansion resolves the merge keys** at every depth, and no key of the result occurs twice. -/
theorem expand_eq_resolved {v w : Value} (hv : v.WellFormed) (h : v.expand = .ok w) :
    w = v.resolved ∧ w.WellFormed := by
  have hw := resolved_of_expand hv h
  exact ⟨hw, hw ▸ hv.resolved⟩

/-- A mapping with an own `x`, a tagged merge key, and a list of sources of which one merges. -/
def nestedMerge : Value :=
  .map [(.string "x", .string "double"),
    (.tagged "t" (.string "<<"), .map [(.string "z", .string "bool")]),
    (.string "<<", .seq [
      .map [(.string "<<", .map [(.string "y", .string "int")]), (.string "x", .string "int")],
      .map [(.string "y", .string "float")]])]

theorem expand_eq_resolved_nestedMerge :
    nestedMerge.WellFormed ∧
      nestedMerge.expand = .ok (.map [(.string "z", .string "bool"), (.string "y", .string "int"),
        (.string "x", .string "double")]) ∧
      .map [(.string "z", .string "bool"), (.string "y", .string "int"),
        (.string "x", .string "double")] = nestedMerge.resolved := by
  have hv : nestedMerge.WellFormed := by
    simp [nestedMerge, WellFormed, WellFormedItems, WellFormedEntries, Entries.Distinct,
      code, codeText]
  have h : nestedMerge.expand = .ok (.map [(.string "z", .string "bool"),
      (.string "y", .string "int"), (.string "x", .string "double")]) := by rfl
  exact ⟨hv, h, (expand_eq_resolved hv h).1⟩

end Value

end Schemata.Yaml
