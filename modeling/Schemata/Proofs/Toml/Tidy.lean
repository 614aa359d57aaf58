import Mathlib.Data.List.Nodup
import Schemata.Proofs.Outcome
import Schemata.Proofs.Toml.Reader
import Schemata.Toml.Problem

/-!
# Tidy tables

A table is tidy if it has each of its keys once, and so have all tables in it. Putting an item into
a table keeps it tidy: a key that is there already is refused, entered or replaced. So the values
that readers give are tidy (`Reader.gives_value`).
-/

namespace Schemata.Toml

/-- The names of the keys of a table. -/
def Entries.names (entries : Entries) : List String := List.map (·.1.text) entries

/-- No table in an item has a key twice. -/
inductive Item.Tidy : Item → Prop
  | string {span : Span} {text : String} : Tidy (.string span text)
  | integer {span : Span} {value : Int} : Tidy (.integer span value)
  | float {span : Span} {value : Double} : Tidy (.float span value)
  | boolean {span : Span} {value : Bool} : Tidy (.boolean span value)
  | moment {span : Span} {text : String} : Tidy (.moment span text)
  | array {span : Span} {items : List Item} : (∀ item ∈ items, Tidy item) → Tidy (.array span items)
  | inline {span : Option Span} {entries : Entries} :
      entries.names.Nodup → (∀ e ∈ entries, Tidy e.2) → Tidy (.inline span entries)
  | table {span : Option Span} {origin : Origin} {entries : Entries} :
      entries.names.Nodup → (∀ e ∈ entries, Tidy e.2) → Tidy (.table span origin entries)
  | tables {elements : List Item} : (∀ item ∈ elements, Tidy item) → Tidy (.tables elements)

/-- No table in the entries has a key twice, nor have the entries themselves. -/
structure Entries.Tidy (entries : Entries) : Prop where
  distinct : entries.names.Nodup
  each : ∀ e ∈ entries, e.2.Tidy

variable {entries out : Entries} {name : String} {key : Key} {item : Item}

namespace Item

theorem tidy_inline_iff {span : Option Span} : (inline span entries).Tidy ↔ entries.Tidy := by
  constructor
  · intro h
    cases h with
    | inline distinct each => exact ⟨distinct, each⟩
  · exact fun h => .inline h.distinct h.each

theorem tidy_table_iff {span : Option Span} {origin : Origin} :
    (table span origin entries).Tidy ↔ entries.Tidy := by
  constructor
  · intro h
    cases h with
    | table distinct each => exact ⟨distinct, each⟩
  · exact fun h => .table h.distinct h.each

theorem tidy_tables_iff {elements : List Item} :
    (tables elements).Tidy ↔ ∀ item ∈ elements, item.Tidy := by
  constructor
  · intro h
    cases h with
    | tables each => exact each
  · exact .tables

theorem tidy_tables_concat {elements : List Item} (h : ∀ item ∈ elements, item.Tidy)
    (hi : item.Tidy) : (tables (elements ++ [item])).Tidy := by
  rw [tidy_tables_iff, List.forall_mem_append, List.forall_mem_singleton]
  exact ⟨h, hi⟩

end Item

/-! ## Entries -/

namespace Entries

@[simp] theorem names_cons (e : Key × Item) (rest : Entries) :
    names (e :: rest) = e.1.text :: names rest := rfl

@[simp] theorem names_concat : names (entries ++ [(key, item)]) = entries.names ++ [key.text] :=
  List.map_append

theorem get?_eq_none_iff : entries.get? name = none ↔ name ∉ entries.names := by
  simp [get?, names]

theorem nodup_names_concat (h : entries.names.Nodup) (new : key.text ∉ entries.names) :
    (entries.names ++ [key.text]).Nodup := by
  rw [List.nodup_append', List.disjoint_singleton]
  exact ⟨h, List.nodup_singleton _, new⟩

theorem names_set : (entries.set key item).names =
    if key.text ∈ entries.names then entries.names else entries.names ++ [key.text] := by
  induction entries with
  | nil => rfl
  | cons e rest ih =>
    by_cases same : e.1.text = key.text
    · simp [set, same]
    · have passed : set key item (e :: rest) = e :: set key item rest := by simp [set, same]
      rw [passed, names_cons, ih, names_cons]
      by_cases known : key.text ∈ names rest
      · rw [if_pos known, if_pos (List.mem_cons_of_mem _ known)]
      · rw [if_neg known, if_neg (List.not_mem_cons_of_ne_of_not_mem (Ne.symm same) known)]
        rfl

theorem item_of_mem_set {e : Key × Item} (h : e ∈ entries.set key item) :
    e.2 = item ∨ e ∈ entries := by
  induction entries with
  | nil => exact .inl (congrArg Prod.snd (List.mem_singleton.mp h))
  | cons first rest ih =>
    unfold set at h
    split at h
    · rcases List.mem_cons.mp h with rfl | later
      · exact .inl rfl
      · exact .inr (List.mem_cons_of_mem first later)
    · rcases List.mem_cons.mp h with rfl | later
      · exact .inr List.mem_cons_self
      · exact (ih later).imp_right (List.mem_cons_of_mem first)

namespace Tidy

theorem nil : Tidy [] := ⟨List.nodup_nil, nofun⟩

theorem of_get? (h : entries.Tidy) (found : entries.get? name = some item) : item.Tidy := by
  obtain ⟨e, first, rfl⟩ := Option.map_eq_some_iff.mp found
  exact h.each e (List.mem_of_find?_eq_some first)

theorem concat (h : entries.Tidy) (absent : entries.get? key.text = none) (hi : item.Tidy) :
    Tidy (entries ++ [(key, item)]) where
  distinct := by
    rw [names_concat]
    exact nodup_names_concat h.distinct (get?_eq_none_iff.mp absent)
  each := by
    rw [List.forall_mem_append, List.forall_mem_singleton]
    exact ⟨h.each, hi⟩

theorem set (h : entries.Tidy) (hi : item.Tidy) : Tidy (entries.set key item) where
  distinct := by
    rw [names_set]
    split
    · exact h.distinct
    · next new => exact nodup_names_concat h.distinct new
  each e he := by
    rcases item_of_mem_set he with rfl | old
    · exact hi
    · exact h.each e old

theorem erase (h : entries.Tidy) (name : String) : Tidy (entries.erase name) where
  distinct := h.distinct.sublist (List.filter_sublist.map _)
  each e he := h.each e (List.mem_of_mem_filter he)

end Tidy

end Entries

/-! ## Values -/

/-- The key of a path leads to a table that such keys made, or to a new one. -/
theorem exists_of_putInline_cons {before : List String} {k : Key} {path : List Key}
    (put : putInline key item before (k :: path) entries = .ok out) :
    ∃ under inner : Entries, (under = [] ∨ entries.get? k.text = some (.inline none under)) ∧
      putInline key item (k.text :: before) path under = .ok inner ∧
      out = entries.set k (.inline none inner) := by
  unfold putInline at put
  split at put
  · obtain ⟨_, ⟨⟩, put⟩ := Outcome.bind_eq_ok_iff.mp put
    obtain ⟨inner, within, ⟨⟩⟩ := Outcome.bind_eq_ok_iff.mp put
    exact ⟨[], inner, .inl rfl, within, rfl⟩
  · next under found =>
    obtain ⟨_, ⟨⟩, put⟩ := Outcome.bind_eq_ok_iff.mp put
    obtain ⟨inner, within, ⟨⟩⟩ := Outcome.bind_eq_ok_iff.mp put
    exact ⟨under, inner, .inr found, within, rfl⟩
  · cases put
  · cases put

theorem putInline_tidy (hi : item.Tidy) {before : List String} {path : List Key}
    (h : entries.Tidy) (put : putInline key item before path entries = .ok out) : out.Tidy := by
  induction path generalizing before entries out with
  | nil =>
    unfold putInline at put
    split at put
    · cases put
    · next absent =>
      cases put
      exact h.concat absent hi
  | cons k path ih =>
    obtain ⟨under, inner, entered, within, rfl⟩ := exists_of_putInline_cons put
    have tidyUnder : under.Tidy := by
      rcases entered with rfl | found
      · exact .nil
      · exact Item.tidy_inline_iff.mp (h.of_get? found)
    exact h.set (Item.tidy_inline_iff.mpr (ih tidyUnder within))

theorem inlineEntries_tidy {pairs : List (List Key × Key × Item)} (hp : ∀ x ∈ pairs, x.2.2.Tidy)
    (h : entries.Tidy) (made : inlineEntries pairs entries = .ok out) : out.Tidy := by
  induction pairs generalizing entries with
  | nil =>
    cases made
    exact h
  | cons pair rest ih =>
    obtain ⟨first, later⟩ := List.forall_mem_cons.mp hp
    obtain ⟨more, put, made⟩ := Outcome.bind_eq_ok_iff.mp made
    exact ih later (putInline_tidy first h put) made

namespace Reader

open Item (tidy_inline_iff)

variable {r : Reader Item}

theorem gives_array (h : Gives Item.Tidy r) :
    Gives (fun items => ∀ i ∈ items, i.Tidy) (array r) := by
  have element : Gives Item.Tidy (do filling; let item ← r; filling; return item) :=
    .after fun _ => .bind h fun _ hi => .after fun _ => .pure hi
  have elements : Gives (fun items => ∀ i ∈ items, i.Tidy) (settle do
      if (← next?) == some ']' then return []
      let items ← separated (do filling; let item ← r; filling; return item) (lit ",")
      if !items.isEmpty then discard (maybe (lit ","))
      filling
      return items) := by
    refine .settle (.after fun c => ?_)
    split
    · exact .pure nofun
    · refine .bind (.separated element _) fun items his => ?_
      split
      · exact .after fun _ => .after fun _ => .pure his
      · exact .after fun _ => .pure his
  exact .after fun _ => .bind elements fun _ his => .after fun _ => .pure his

theorem gives_inlineTable (h : Gives Item.Tidy r) : Gives Entries.Tidy (inlineTable r) := by
  refine .after fun _ => .bind (P := Entries.Tidy) (.settle ?_) fun _ he => .after fun _ => .pure he
  refine .checked (P := fun pairs => ∀ x ∈ pairs, x.2.2.Tidy)
    (.bind (.separated ?pair _) fun _ hp => .after fun _ => .pure hp) ?made
  case pair =>
    refine .after fun _ => .settle (.after fun _ => .after fun _ => .bind h fun _ hi => ?_)
    exact .after fun _ => .pure hi
  case made =>
    intro pairs entries hp made
    exact inlineEntries_tidy hp .nil (Outcome.mapError_eq_ok_iff.mp made)

/-- Whatever stretch spells it, what is made is tidy. -/
def MakesTidy (make : Span → Item) : Prop := ∀ span, (make span).Tidy

theorem gives_as {α : Type} {P : α → Prop} {r : Reader α} {make : Span → α → Item}
    (hr : Gives P r) (tidy : ∀ span a, P a → (make span a).Tidy) :
    Gives MakesTidy ((fun a span => make span a) <$> r) :=
  .map hr fun a ha span => tidy span a ha

theorem gives_nested (inner? : Option (Reader Item)) (f : Reader Item → Reader (Span → Item)) :
    (∀ inner ∈ inner?, Gives MakesTidy (f inner)) →
      Gives MakesTidy (match inner? with
        | none => settle (refuseFor .tooDeep)
        | some inner => f inner) := by
  intro hf
  cases inner? with
  | none => exact .settle (.refuseFor _)
  | some inner => exact hf inner rfl

theorem gives_valueAround {inner? : Option (Reader Item)}
    (h : ∀ inner ∈ inner?, Gives Item.Tidy inner) : Gives Item.Tidy (valueAround inner?) := by
  have moment : Gives MakesTidy ((fun a span => Item.moment span a) <$> moment) :=
    gives_as .anything fun _ _ _ => .moment
  have integer : Gives MakesTidy ((fun a span => Item.integer span a) <$> integer) :=
    gives_as .anything fun _ _ _ => .integer
  have float {r : Reader Double} : Gives MakesTidy ((fun a span => Item.float span a) <$> r) :=
    gives_as .anything fun _ _ _ => .float
  have boolean {b : Bool} : Gives MakesTidy ((fun a span => Item.boolean span a) <$> boolean b) :=
    gives_as .anything fun _ _ _ => .boolean
  have orString {r : Reader (Span → Item)} (hr : Gives MakesTidy r) :
      Gives MakesTidy (orString r) :=
    .wanting _ (.wanting _ (.named _ hr))
  unfold valueAround
  refine .bind (.spanned (P := MakesTidy) (.after fun c? => ?_)) fun x hx => .pure (hx x.2)
  cases c? with
  | none => exact .refuse
  | some c =>
    refine .ite (gives_as .anything fun _ _ _ => .string) ?_
    refine .ite (gives_nested _ _ fun inner hi =>
      gives_as (gives_array (h inner hi)) fun _ _ his => .array his) ?_
    refine .ite (gives_nested _ _ fun inner hi =>
      gives_as (gives_inlineTable (h inner hi)) fun _ _ he => Item.tidy_inline_iff.mpr he) ?_
    refine .ite (.orElse moment (.orElse float integer)) ?_
    refine .ite (.wanting _ integer) ?_
    refine .ite (.wanting _ float) ?_
    refine .ite (orString boolean) ?_
    refine .ite (orString boolean) ?_
    refine .ite (orString float) ?_
    refine .ite (orString float) ?_
    exact orString .refuse

theorem gives_valueWithin (depth : Nat) : Gives Item.Tidy (valueWithin depth) := by
  induction depth with
  | zero => exact gives_valueAround nofun
  | succ depth ih =>
    refine gives_valueAround ?_
    rintro _ ⟨⟩
    exact ih

theorem gives_value : Gives Item.Tidy value := gives_valueWithin maxDepth

end Reader

end Schemata.Toml
