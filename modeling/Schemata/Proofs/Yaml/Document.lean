import Schemata.Proofs.Outcome
import Schemata.Proofs.Yaml.Key
import Schemata.Yaml.Document

/-!
# Documents are well-formed

A key that is there already is refused while its mapping is built, so in the value of a document
no mapping has a key twice (`Value.wellFormed_of_ofOctets`).
-/

namespace Schemata.Yaml

theorem wellFormed_of_resolvePlain {text : String} {v : Value} (h : resolvePlain text = .ok v) :
    v.WellFormed := by
  unfold resolvePlain at h
  simp only at h
  split at h
  · cases h; trivial
  · split at h
    · cases h; trivial
    · split at h
      · cases h; trivial
      · cases h
      · split at h <;> (cases h; trivial)

theorem wellFormed_of_resolveStandard {tag : TagText} {text : String} {v : Value}
    (h : resolveStandard tag text = some (.ok v)) : v.WellFormed := by
  unfold resolveStandard at h
  simp only at h
  split at h
  · cases hb : bool? text <;> simp [hb] at h
    subst h; trivial
  · split at h
    · split at h <;> simp at h
      subst h; trivial
    · split at h
      · cases hf : float? text.toList <;> simp [hf] at h
        subst h; trivial
      · split at h
        · split at h <;> simp at h
          subst h; trivial
        · cases h

theorem wellFormed_of_resolveScalar {tag : Option TagText} {text : String} {style : ScalarStyle}
    {v : Value} (h : resolveScalar tag text style = .ok v) : v.WellFormed := by
  have spelled {v : Value}
      (h : (if style == .plain then resolvePlain text else .ok (.string text)) = .ok v) :
      v.WellFormed := by
    split at h
    · exact wellFormed_of_resolvePlain h
    · cases h; trivial
  unfold resolveScalar at h
  simp only at h
  split at h
  · exact spelled h
  · split at h
    · next hr => exact wellFormed_of_resolveStandard (hr.trans (congrArg some h))
    · split at h
      · exact spelled h
      · cases h; trivial

namespace Document

/-- What is built within the bound is well-formed. -/
structure BuildsWellFormed (d : Document) (fuel : Nat) : Prop where
  value {path : List Step} {depth : Nat} {tagged : Bool} {p q : Progress} {v : Value}
    (h : d.build fuel path depth tagged p = .ok (v, q)) : v.WellFormed
  underTag {path : List Step} {depth : Nat} {name : String} {p q : Progress} {v : Value}
    (h : d.buildTagged fuel path depth name p = .ok (v, q)) : v.WellFormed
  items {path : List Step} {depth index : Nat} {p q : Progress} {items : List Value}
    (h : d.buildItems fuel path depth index p = .ok (items, q)) : (Value.seq items).WellFormed
  entries {path : List Step} {depth : Nat} {since : Mark} {before after : List (Value × Value)}
    {p q : Progress} (hb : (Value.map before).WellFormed)
    (h : d.buildEntries fuel path depth since before p = .ok (after, q)) :
    (Value.map after).WellFormed

/-- An entry under a new key leaves a mapping well-formed. -/
theorem wellFormed_concat {entries : List (Value × Value)} {key v : Value}
    (hb : (Value.map entries).WellFormed) (hk : Entries.key? entries key = none)
    (hv : v.WellFormed) : (Value.map (entries ++ [(key, v)])).WellFormed := by
  refine ⟨?_, Value.wellFormedEntries_iff.mpr fun e he => ?_⟩
  · rw [Entries.Distinct, Entries.codes_append, List.nodup_append']
    exact ⟨hb.1, by simp, by simpa using Entries.key?_eq_none_iff.mp hk⟩
  · rcases List.mem_append.mp he with he | he
    · exact Value.wellFormedEntries_iff.mp hb.2 e he
    · rw [List.mem_singleton.mp he]
      exact hv

theorem buildsWellFormed (d : Document) (fuel : Nat) : d.BuildsWellFormed fuel := by
  induction fuel with
  | zero => constructor <;> intros <;> simp_all [build, buildTagged, buildItems, buildEntries]
  | succ fuel ih =>
    refine ⟨?value, ?underTag, ?items, ?entries⟩
    case value =>
      intro path depth tagged p q v h
      simp only [build, Outcome.bind_eq_ok_iff] at h
      obtain ⟨⟨piece, mark⟩, -, h⟩ := h
      -- A local tag hands the piece over to `buildTagged`, whatever the piece is.
      cases piece with
      | «alias» anchor =>
        simp only [Outcome.bind_eq_ok_iff, Outcome.pure_eq_ok_iff] at h
        obtain ⟨r, -, ⟨w, s⟩, hw, h⟩ := h
        cases h
        exact ih.value hw
      | scalar tag text style =>
        simp only at h
        split at h
        · exact ih.underTag h
        · split at h
          · next hv => cases h; exact wellFormed_of_resolveScalar hv
          · cases h
      | seqStart tag =>
        simp only at h
        split at h
        · exact ih.underTag h
        · split at h
          · cases h
          · simp only [Outcome.bind_eq_ok_iff, Outcome.pure_eq_ok_iff] at h
            obtain ⟨⟨items, r⟩, hi, h⟩ := h
            cases h
            exact ih.items hi
      | mapStart tag =>
        simp only at h
        split at h
        · exact ih.underTag h
        · split at h
          · cases h
          · simp only [Outcome.bind_eq_ok_iff, Outcome.pure_eq_ok_iff] at h
            obtain ⟨⟨entries, r⟩, he, h⟩ := h
            cases h
            have none_yet : (Value.map []).WellFormed := ⟨List.nodup_nil, trivial⟩
            exact ih.entries none_yet he
      | seqEnd => cases h
      | mapEnd => cases h
    case underTag =>
      intro path depth name p q v h
      simp only [buildTagged, Outcome.bind_eq_ok_iff, Outcome.pure_eq_ok_iff] at h
      obtain ⟨⟨w, r⟩, hw, h⟩ := h
      cases h
      have hw : w.WellFormed := ih.value hw
      exact hw
    case items =>
      intro path depth index p q items h
      simp only [buildItems, Outcome.bind_eq_ok_iff] at h
      obtain ⟨piece, -, h⟩ := h
      split at h
      · cases h
        trivial
      · simp only [Outcome.bind_eq_ok_iff, Outcome.pure_eq_ok_iff] at h
        obtain ⟨⟨v, r⟩, hv, ⟨rest, s⟩, hr, h⟩ := h
        cases h
        have hv : v.WellFormed := ih.value hv
        exact ⟨hv, ih.items hr⟩
    case entries =>
      intro path depth since before after p q hb h
      simp only [buildEntries, Outcome.bind_eq_ok_iff] at h
      obtain ⟨piece, -, h⟩ := h
      split at h
      · cases h
        exact hb
      · simp only [Outcome.bind_eq_ok_iff] at h
        obtain ⟨⟨key, r⟩, -, h⟩ := h
        split at h
        · cases h
        · next hk =>
          simp only [Outcome.bind_eq_ok_iff] at h
          obtain ⟨⟨v, s⟩, hv, h⟩ := h
          have hv : v.WellFormed := ih.value hv
          exact ih.entries (wellFormed_concat hb hk hv) h

theorem wellFormed_value {d : Document} {v : Value} (h : d.value = .ok v) : v.WellFormed := by
  unfold value at h
  split at h
  · cases h
    trivial
  · simp only [Outcome.bind_eq_ok_iff] at h
    obtain ⟨⟨w, q⟩, hw, h⟩ := h
    split at h
    · cases h
    · cases h
      exact (d.buildsWellFormed _).value hw

end Document

/-- A file with a repeated key has no value: what is read is well-formed. -/
theorem Value.wellFormed_of_ofOctets {octets : List UInt8} {v : Value}
    (h : Value.ofOctets octets = .ok v) : v.WellFormed := by
  simp only [Value.ofOctets, Outcome.bind_eq_ok_iff] at h
  obtain ⟨chars, -, w, hw, h⟩ := h
  split at h
  · cases h
  · cases h
    exact Document.wellFormed_value hw

end Schemata.Yaml
