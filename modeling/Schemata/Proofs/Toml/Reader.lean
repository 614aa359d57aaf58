import Schemata.Toml.Reader

/-!
# What readers give

`Gives P r` says that whatever the reader `r` reads, wherever it begins, has the property `P`.
There is a rule for each way to put readers together. Nothing is said about what is refused.
-/

namespace Schemata.Toml.Reader

variable {α β : Type} {P Q : α → Prop} {R : β → Prop} {r s : Reader α}

/-- Whatever is read has a property. -/
def Gives (P : α → Prop) (r : Reader α) : Prop := ∀ p a next, r p = .done a next → P a

namespace Gives

theorem pure {a : α} (h : P a) : Gives P (pure a) := by
  rintro p _ _ ⟨⟩
  exact h

theorem refuse : Gives P refuse := nofun

theorem refuseFor (cause : Cause) : Gives P (refuseFor cause) := nofun

theorem bind {f : α → Reader β} (hr : Gives P r) (hf : ∀ a, P a → Gives R (f a)) :
    Gives R (r >>= f) := by
  intro p b next h
  cases first : r p with
  | refused settled fault place =>
    rw [show (r >>= f) p = .refused settled fault place by simp [Bind.bind, first]] at h
    cases h
  | done a after =>
    rw [show (r >>= f) p = f a after by simp [Bind.bind, first]] at h
    exact hf a (hr p a after first) after b next h

theorem anything : Gives (fun _ => True) r := fun _ _ _ _ => trivial

/-- `bind` where nothing is known of what is read first. -/
theorem after {f : α → Reader β} (hf : ∀ a, Gives R (f a)) : Gives R (r >>= f) :=
  bind anything fun a _ => hf a

theorem map {f : α → β} (hr : Gives P r) (hf : ∀ a, P a → R (f a)) : Gives R (f <$> r) :=
  bind hr fun a ha => pure (hf a ha)

/-! ## Refusals are handed on -/

theorem settle (hr : Gives P r) : Gives P (settle r) := by
  intro p a next h
  unfold Reader.settle at h
  split at h
  · next read =>
    cases h
    exact hr _ _ _ read
  · cases h

theorem named (rule : Rule) (hr : Gives P r) : Gives P (named rule r) := by
  intro p a next h
  unfold Reader.named at h
  split at h
  · cases h
  · exact hr _ _ _ h

theorem wanting (wanted : Wanted) (hr : Gives P r) : Gives P (wanting wanted r) := by
  intro p a next h
  unfold Reader.wanting at h
  split at h
  · cases h
  · exact hr _ _ _ h

/-! ## Alternatives -/

theorem ite {c : Prop} [Decidable c] (hr : Gives P r) (hs : Gives P s) :
    Gives P (if c then r else s) := by
  split
  · exact hr
  · exact hs

theorem orElse (hr : Gives P r) (hs : Gives P s) : Gives P (orElse r s) := by
  intro p a next h
  unfold Reader.orElse at h
  split at h
  · exact hs _ _ _ h
  · exact hr _ _ _ h

theorem maybe (hr : Gives P r) : Gives (fun found => ∀ a ∈ found, P a) (maybe r) := by
  intro p found next h
  unfold Reader.maybe at h
  split at h
  · next read =>
    cases h
    rintro _ ⟨⟩
    exact hr _ _ _ read
  · cases h
    exact nofun
  · cases h

/-! ## More about what is read -/

theorem spanned (hr : Gives P r) : Gives (fun x => P x.1) (spanned r) := by
  intro p x next h
  unfold Reader.spanned at h
  split at h
  · next read =>
    cases h
    exact hr _ _ _ read
  · cases h

theorem checked {check : α → Except Fault β} (hr : Gives P r)
    (hc : ∀ a b, P a → check a = .ok b → R b) : Gives R (checked r check) := by
  intro p b next h
  unfold Reader.checked checkedAs at h
  split at h
  · next read =>
    split at h
    · next made =>
      cases h
      exact hc _ _ (hr _ _ _ read) made
    · cases h
  · cases h

/-! ## Repetition -/

theorem upTo (hr : Gives P r) (n : Nat) : Gives (fun as => ∀ a ∈ as, P a) (upTo r n) := by
  induction n with
  | zero => exact pure nofun
  | succ n ih =>
    refine bind (maybe hr) fun found hfound => ?_
    cases found with
    | none => exact pure nofun
    | some a => exact bind ih fun as has => pure (List.forall_mem_cons.mpr ⟨hfound a rfl, has⟩)

theorem many (hr : Gives P r) : Gives (fun as => ∀ a ∈ as, P a) (many r) :=
  fun p => upTo hr p.rest.length p

theorem separated1 (hr : Gives P r) (separator : Reader Unit) :
    Gives (fun as => ∀ a ∈ as, P a) (separated1 r separator) :=
  bind hr fun _ ha => bind (many (after fun _ => hr)) fun _ has =>
    pure (List.forall_mem_cons.mpr ⟨ha, has⟩)

theorem separated (hr : Gives P r) (separator : Reader Unit) :
    Gives (fun as => ∀ a ∈ as, P a) (separated r separator) := by
  refine bind (maybe (separated1 hr separator)) fun found hfound => pure ?_
  cases found with
  | none => exact nofun
  | some as => exact hfound as rfl

end Gives

end Schemata.Toml.Reader
