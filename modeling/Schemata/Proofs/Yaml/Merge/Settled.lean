import Schemata.Proofs.Yaml.Merge

/-!
# What expansion leaves

After expansion no mapping that is reached has the plain merge key (`Value.mergeFree_of_expand`):
the entries of a mapping are its own ones under other keys and those of its sources, which are
expanded before it. A value without that key is left as it is (`Value.MergeFree.expand_eq`), and so
a second expansion changes nothing.
-/

namespace Schemata.Yaml

namespace Value

/-- No mapping that is reached has the plain merge key. -/
def MergeFree (v : Value) : Prop :=
  ∀ entries, Reaches v (.map entries) → .string mergeKey ∉ entries.map (·.1)

variable {v w : Value} {items : List Value} {entries : List (Value × Value)} {tag : String}

theorem MergeFree.of_reaches (h : MergeFree v) (r : Reaches v w) : MergeFree w :=
  fun entries below => h entries (r.trans below)

theorem mergeFree_seq_iff : MergeFree (.seq items) ↔ ∀ v ∈ items, MergeFree v := by
  simp only [MergeFree, reaches_seq_map_iff]
  constructor
  · intro h v hv entries below
    exact h entries ⟨v, hv, below⟩
  · rintro h entries ⟨v, hv, below⟩
    exact h v hv entries below

theorem mergeFree_tagged_iff : MergeFree (.tagged tag v) ↔ MergeFree v := by
  simp only [MergeFree, reaches_tagged_map_iff]

theorem mergeFree_map_iff :
    MergeFree (.map entries) ↔
      .string mergeKey ∉ entries.map (·.1) ∧ ∀ e ∈ entries, MergeFree e.2 := by
  simp only [MergeFree, reaches_map_map_iff]
  constructor
  · intro h
    exact ⟨h entries (.inl rfl), fun e he source below => h source (.inr ⟨e, he, below⟩)⟩
  · rintro ⟨here, below⟩ source (rfl | ⟨e, he, reached⟩)
    · exact here
    · exact below e he source reached

end Value

/-! ## Merging -/

namespace Entries

variable {entries merged : List (Value × Value)} {P Q : Value → Prop}

/-- What holds of all keys and values still does when an entry is put among them. -/
theorem forall_insert {k v : Value} (h : ∀ e ∈ entries, P e.1 ∧ Q e.2) (hk : P k) (hv : Q v) :
    ∀ e ∈ insert entries k v, P e.1 ∧ Q e.2 := by
  induction entries with
  | nil => simpa [insert] using ⟨hk, hv⟩
  | cons first rest ih =>
    rw [List.forall_mem_cons] at h
    unfold insert
    split
    · exact List.forall_mem_cons.mpr ⟨⟨h.1.1, hv⟩, h.2⟩
    · exact List.forall_mem_cons.mpr ⟨h.1, ih h.2⟩

theorem forall_foldl_insert {own : List (Value × Value)} (h : ∀ e ∈ entries, P e.1 ∧ Q e.2)
    (ho : ∀ e ∈ own, P e.1 ∧ Q e.2) :
    ∀ e ∈ own.foldl (fun acc e => insert acc e.1 e.2) entries, P e.1 ∧ Q e.2 := by
  induction own generalizing entries with
  | nil => exact h
  | cons first rest ih =>
    rw [List.forall_mem_cons] at ho
    exact ih (forall_insert h ho.1.1 ho.1.2) ho.2

/-- A merged mapping has no keys and values but its own, without the merge entries, and those of its
sources. -/
theorem forall_merge (h : merge entries = .ok merged) (plain : hasMergeKey entries)
    (ho : ∀ e ∈ own entries, P e.1 ∧ Q e.2)
    (hs : ∀ source ∈ sources entries, ∀ e ∈ source, P e.1 ∧ Q e.2) :
    ∀ e ∈ merged, P e.1 ∧ Q e.2 := by
  rw [eq_of_merge h, if_pos plain]
  refine forall_foldl_insert (fun e he => ?_) ho
  rw [inherited, firsts_eq] at he
  obtain ⟨source, member, he⟩ := List.mem_flatten.mp (Keyed.mem_of_mem_firsts he)
  exact hs source member e he

/-- Where no value has the plain merge key, the merged mapping has it neither in a value nor among
its keys. -/
theorem mergeFree_of_merge (h : merge entries = .ok merged)
    (below : ∀ e ∈ entries, e.2.MergeFree) : (Value.map merged).MergeFree := by
  rw [Value.mergeFree_map_iff]
  by_cases plain : hasMergeKey entries
  · have each : ∀ e ∈ merged, e.1 ≠ .string mergeKey ∧ e.2.MergeFree := by
      refine forall_merge (P := (· ≠ .string mergeKey)) (Q := Value.MergeFree) h plain
        (fun e he => ?own) fun source hs => ?source
      case own =>
        obtain ⟨member, other⟩ := List.mem_filter.mp he
        refine ⟨fun same => ?_, below e member⟩
        simp [isMerge, same, Value.text?, Value.untagged] at other
      case source =>
        obtain ⟨e, he, reached⟩ := reaches_of_mem_sources hs
        have free := Value.mergeFree_map_iff.mp ((below e he).of_reaches reached)
        exact fun f hf => ⟨fun same => free.1 (List.mem_map.mpr ⟨f, hf, same⟩), free.2 f hf⟩
    refine ⟨fun known => ?_, fun e he => (each e he).2⟩
    obtain ⟨e, he, same⟩ := List.mem_map.mp known
    exact (each e he).1 same
  · rw [merge_of_not_hasMergeKey plain] at h
    cases h
    exact ⟨mt hasMergeKey_iff.mpr plain, below⟩

end Entries

/-! ## Expansion -/

namespace Value

mutual

/-- An expanded value has the plain merge key nowhere. -/
theorem mergeFree_of_expand : ∀ {v w : Value}, v.expand = .ok w → MergeFree w
  | .seq items, w, h => by
    obtain ⟨out, hi, rfl⟩ := Outcome.map_eq_ok_iff.mp (by simpa only [expand] using h)
    exact mergeFree_seq_iff.mpr (mergeFree_of_expandItems hi)
  | .tagged tag v, w, h => by
    obtain ⟨out, hv, rfl⟩ := Outcome.map_eq_ok_iff.mp (by simpa only [expand] using h)
    exact mergeFree_tagged_iff.mpr (mergeFree_of_expand hv)
  | .map entries, w, h => by
    obtain ⟨expanded, merged, he, hm, rfl⟩ := expand_map_eq_ok_iff.mp h
    exact Entries.mergeFree_of_merge hm (mergeFree_of_expandEntries he)
  | .null, w, h | .bool _, w, h | .number _, w, h | .string _, w, h => by
    cases h
    exact nofun

theorem mergeFree_of_expandItems : ∀ {items out : List Value},
    expandItems items = .ok out → ∀ w ∈ out, MergeFree w
  | [], out, h => by
    cases h
    exact nofun
  | v :: rest, out, h => by
    simp only [expandItems, Outcome.bind_eq_ok_iff, Outcome.pure_eq_ok_iff] at h
    obtain ⟨w, hw, later, hl, rfl⟩ := h
    exact List.forall_mem_cons.mpr ⟨mergeFree_of_expand hw, mergeFree_of_expandItems hl⟩

theorem mergeFree_of_expandEntries : ∀ {entries out : List (Value × Value)},
    expandEntries entries = .ok out → ∀ e ∈ out, MergeFree e.2
  | [], out, h => by
    cases h
    exact nofun
  | (k, v) :: rest, out, h => by
    simp only [expandEntries, Outcome.bind_eq_ok_iff, Outcome.pure_eq_ok_iff] at h
    obtain ⟨w, hw, later, hl, rfl⟩ := h
    exact List.forall_mem_cons.mpr ⟨mergeFree_of_expand hw, mergeFree_of_expandEntries hl⟩

end

mutual

/-- Where there is nothing to merge, expansion changes nothing. -/
theorem MergeFree.expand_eq : ∀ {v : Value}, MergeFree v → v.expand = .ok v
  | .seq items, h => by
    rw [expand, expandItems_of_mergeFree (mergeFree_seq_iff.mp h)]
    rfl
  | .tagged tag v, h => by
    rw [expand, MergeFree.expand_eq (mergeFree_tagged_iff.mp h)]
    rfl
  | .map entries, h => by
    rw [mergeFree_map_iff] at h
    have plain : ¬ Entries.hasMergeKey entries := mt Entries.hasMergeKey_iff.mp h.1
    exact expand_map_eq_ok_iff.mpr ⟨entries, entries, expandEntries_of_mergeFree h.2,
      Entries.merge_of_not_hasMergeKey plain, rfl⟩
  | .null, _ | .bool _, _ | .number _, _ | .string _, _ => rfl

theorem expandItems_of_mergeFree : ∀ {items : List Value},
    (∀ v ∈ items, MergeFree v) → expandItems items = .ok items
  | [], _ => rfl
  | v :: rest, h => by
    rw [List.forall_mem_cons] at h
    rw [expandItems, MergeFree.expand_eq h.1, expandItems_of_mergeFree h.2]
    rfl

theorem expandEntries_of_mergeFree : ∀ {entries : List (Value × Value)},
    (∀ e ∈ entries, MergeFree e.2) → expandEntries entries = .ok entries
  | [], _ => rfl
  | (k, v) :: rest, h => by
    rw [List.forall_mem_cons] at h
    rw [expandEntries, MergeFree.expand_eq h.1, expandEntries_of_mergeFree h.2]
    rfl

end

end Value

end Schemata.Yaml
