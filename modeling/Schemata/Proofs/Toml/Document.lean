import Schemata.Proofs.Toml.Tidy

/-!
# Documents are tidy

No table of a document has a key twice (`read_tidy`). A header and a key with dots lead into tables
at any depth; what is changed at the end of the path is set back at every table on the way
(`alterAt_keepsTidy`). The draft of a document is tidy after every line, and so is the root that it
leaves.
-/

namespace Schemata.Toml

open Item (tidy_table_iff tidy_tables_iff tidy_tables_concat)

section AlterAt

variable {β : Type} {Q : β → Prop} {change : Origin → Entries → Except Cause (Entries × β)}

/-- Tables stay tidy in a change, and its answer has a property. -/
def KeepsTidy (Q : β → Prop) (change : Origin → Entries → Except Cause (Entries × β)) : Prop :=
  ∀ ⦃origin entries out b⦄, entries.Tidy → change origin entries = .ok (out, b) → out.Tidy ∧ Q b

theorem alterAt_keepsTidy (hc : KeepsTidy Q change) (isDotted : Bool) (before : List String)
    (path : List Key) :
    KeepsTidy Q fun origin => alterAt isDotted change before origin path := by
  induction path generalizing before with
  | nil => exact hc
  | cons k path ih =>
    intro origin entries out b h altered
    -- whichever table the key leads to, what becomes of it is put back under the key
    have within (span : Option Span) (origin : Origin) {inner : Entries} (make : Item → Item)
        (hi : inner.Tidy) (tidy : ∀ item, item.Tidy → (make item).Tidy)
        (altered : (do
          let (item, b) ← (do
            let (inner, b) ← alterAt isDotted change (k.text :: before) origin path inner
            return (Item.table span origin inner, b))
          return (entries.set k (make item), b)) = Except.ok (out, b)) : out.Tidy ∧ Q b := by
      obtain ⟨⟨item, _⟩, entered, ⟨⟩⟩ := Outcome.bind_eq_ok_iff.mp altered
      obtain ⟨⟨inner, _⟩, entered, ⟨⟩⟩ := Outcome.bind_eq_ok_iff.mp entered
      have kept := ih _ hi entered
      exact ⟨h.set (tidy _ (tidy_table_iff.mpr kept.1)), kept.2⟩
    beta_reduce at altered
    unfold alterAt at altered
    split at altered
    · exact within _ _ id .nil (fun _ hi => hi) altered
    · next found =>
      have inner := tidy_table_iff.mp (h.of_get? found)
      split at altered
      · cases altered
      · exact within _ _ id inner (fun _ hi => hi) altered
    · next elements found =>
      have tidy := tidy_tables_iff.mp (h.of_get? found)
      split at altered
      · next last =>
        have inner := tidy_table_iff.mp (tidy _ (List.mem_of_getLast? last))
        have others : ∀ item ∈ elements.dropLast, item.Tidy := fun item hi =>
          tidy item (List.dropLast_subset _ hi)
        exact within _ _ (fun item => .tables (elements.dropLast ++ [item])) inner
          (fun _ => tidy_tables_concat others) altered
      · cases altered
    · cases altered

end AlterAt

/-! ## Drafts -/

/-- A draft in which no table has a key twice. -/
structure Draft.Tidy (d : Draft) : Prop where
  root : d.root.Tidy
  entries : d.entries.Tidy

namespace Draft.Tidy

variable {d next : Draft}

theorem close (h : d.Tidy) (closed : d.close = .ok next) : next.Tidy := by
  unfold Draft.close at closed
  split at closed
  · cases closed
    exact ⟨h.entries, .nil⟩
  · next last _ =>
    obtain ⟨⟨root, _⟩, altered, ⟨⟩⟩ := Outcome.bind_eq_ok_iff.mp closed
    have table : (Item.table d.span .header d.entries).Tidy := tidy_table_iff.mpr h.entries
    have kept := alterAt_keepsTidy (Q := fun _ => True) ?change _ _ _ h.root altered
    · exact ⟨kept.1, .nil⟩
    case change =>
      intro _ entries out _ he changed
      beta_reduce at changed
      split at changed
      · next found =>
        cases changed
        have elements := tidy_tables_iff.mp (he.of_get? found)
        exact ⟨he.set (tidy_tables_concat elements table), trivial⟩
      · cases changed
        exact ⟨he.set (tidy_tables_iff.mpr (List.forall_mem_singleton.mpr table)), trivial⟩
      · cases changed
      · cases changed
        exact ⟨he.set table, trivial⟩

theorem openTable {path : List Key} {last : Key} {span : Span} (h : d.Tidy)
    (opened : d.openTable path last span = .ok next) : next.Tidy := by
  obtain ⟨shut, closed, opened⟩ := Outcome.bind_eq_ok_iff.mp opened
  obtain ⟨⟨root, entries⟩, altered, ⟨⟩⟩ := Outcome.bind_eq_ok_iff.mp opened
  have kept := alterAt_keepsTidy (Q := Entries.Tidy) ?change _ _ _ (h.close closed).root altered
  · exact ⟨kept.1, kept.2⟩
  case change =>
    intro _ entries out inner he changed
    beta_reduce at changed
    split at changed
    · cases changed
      exact ⟨he, .nil⟩
    · next found =>
      cases changed
      exact ⟨he.erase _, tidy_table_iff.mp (he.of_get? found)⟩
    · cases changed

theorem openElement {path : List Key} {last : Key} {span : Span} (h : d.Tidy)
    (opened : d.openElement path last span = .ok next) : next.Tidy := by
  obtain ⟨shut, closed, opened⟩ := Outcome.bind_eq_ok_iff.mp opened
  obtain ⟨⟨root, _⟩, altered, ⟨⟩⟩ := Outcome.bind_eq_ok_iff.mp opened
  have kept := alterAt_keepsTidy (Q := fun _ => True) ?change _ _ _ (h.close closed).root altered
  · exact ⟨kept.1, .nil⟩
  case change =>
    intro _ entries out _ he changed
    beta_reduce at changed
    split at changed
    · cases changed
      exact ⟨he.set (tidy_tables_iff.mpr nofun), trivial⟩
    · cases changed
      exact ⟨he, trivial⟩
    · cases changed

theorem put {path : List Key} {last : Key} {item : Item} (h : d.Tidy) (hi : item.Tidy)
    (put : d.put path last item = .ok next) : next.Tidy := by
  obtain ⟨⟨entries, _⟩, altered, ⟨⟩⟩ := Outcome.bind_eq_ok_iff.mp put
  have kept := alterAt_keepsTidy (Q := fun _ => True) ?change _ _ _ h.entries altered
  · exact ⟨h.root, kept.1⟩
  case change =>
    intro _ entries out _ he changed
    beta_reduce at changed
    split at changed
    · cases changed
    · split at changed
      · cases changed
      · next absent =>
        cases changed
        exact ⟨he.concat absent hi, trivial⟩

end Draft.Tidy

/-! ## Lines -/

namespace Reader

variable {d : Draft}

theorem gives_pairLine (h : d.Tidy) : Gives Draft.Tidy (pairLine d) := by
  refine .checked (P := fun x => x.2.2.Tidy) (.after fun _ => .settle ?_) fun _ _ hi made =>
    h.put hi (Outcome.mapError_eq_ok_iff.mp made)
  exact .after fun _ => .after fun _ => .bind gives_value fun _ hi => .after fun _ => .pure hi

theorem gives_headerLine {left right : String}
    {step : List Key → Key → Span → Except Cause Draft}
    (hs : ∀ path last span next, step path last span = .ok next → next.Tidy) :
    Gives Draft.Tidy (headerLine left right step) :=
  .checked .anything fun _ _ _ made => hs _ _ _ _ (Outcome.mapError_eq_ok_iff.mp made)

theorem gives_tableLine (h : d.Tidy) : Gives Draft.Tidy (tableLine d) := by
  refine .named _ (.after fun _ => .ite ?_ ?_)
  · exact gives_headerLine fun _ _ _ _ => h.openElement
  · exact gives_headerLine fun _ _ _ _ => h.openTable

theorem gives_line (h : d.Tidy) : Gives Draft.Tidy (line d) := by
  have read {r : Reader Draft} (hr : Gives Draft.Tidy r) :
      Gives Draft.Tidy (do let d ← r; blanks; return d) :=
    .bind hr fun _ hd => .after fun _ => .pure hd
  refine .after fun c? => ?_
  split
  · exact read .refuse
  · exact .after fun _ => read (.pure h)
  · exact read (.settle (gives_tableLine h))
  · exact .after fun _ => read (.pure h)
  · exact .after fun _ => read (.pure h)
  · exact read (.settle (gives_pairLine h))

/-- What one line keeps, all lines keep. -/
theorem gives_lines (n : Nat) (h : d.Tidy) : Gives Draft.Tidy (lines n d) := by
  induction n generalizing d with
  | zero => exact .pure h
  | succ n ih =>
    refine .bind (.maybe (gives_line h)) fun next? hn => ?_
    cases next? with
    | none => exact .pure h
    | some next => exact ih (hn next rfl)

theorem gives_document : Gives Entries.Tidy document := by
  have start : Draft.Tidy {} := ⟨.nil, .nil⟩
  refine .after fun _ => .after fun _ => .bind (fun p => gives_lines _ start p) fun d hd =>
    .after fun _ => ?_
  intro p entries next read
  beta_reduce at read
  split at read
  · next closed =>
    cases read
    exact (hd.close closed).root
  · cases read

end Reader

/-- **No table of a document has a key twice.** -/
theorem read_tidy {source : String} {entries : Entries} (h : read source = .ok entries) :
    entries.Tidy := by
  unfold read at h
  split at h
  · next given =>
    cases h
    exact Reader.gives_document _ _ _ given
  · cases h

end Schemata.Toml
