import Mathlib.Data.List.Induction
import Mathlib.Data.List.Nodup

/-!
# Lists by key

Lists whose elements are found by a key. `firsts` keeps of the elements with one key the first,
and `put` gives an element the place of the first one with its key, or else the last place. A list
that is put together by `put` has its keys in order of first appearance and under each the last
element that was put (`map_key_putAll`, `find?_putAll`). What is put may itself have been put
together before (`putAll_putAll`).
-/

namespace Schemata.Keyed

variable {α κ : Type} [DecidableEq κ] {key : α → κ}

/-! ## First appearances -/

/-- The first element under each key. -/
def firsts (key : α → κ) (xs : List α) : List α := xs.eraseDupsBy fun a b => decide (key a = key b)

@[simp] theorem firsts_nil : firsts key [] = [] := rfl

theorem firsts_cons (a : α) (xs : List α) :
    firsts key (a :: xs) = a :: firsts key (xs.filter fun b => key b ≠ key a) := by
  unfold firsts
  rw [List.eraseDupsBy_cons]
  congr 2
  exact List.filter_congr fun b _ => by simp

/-- One more element at the end counts if its key is new. -/
theorem firsts_concat (xs : List α) (a : α) :
    firsts key (xs ++ [a]) =
      if key a ∈ (firsts key xs).map key then firsts key xs else firsts key xs ++ [a] := by
  match xs with
  | [] => simp [firsts_cons]
  | x :: xs =>
    have shorter := List.length_filter_le (fun b => decide (key b ≠ key x)) xs
    rw [List.cons_append, firsts_cons, firsts_cons, List.filter_append]
    by_cases h : key a = key x
    · simp [h]
    · have last : List.filter (fun b => decide (key b ≠ key x)) [a] = [a] := by simp [h]
      rw [last, firsts_concat (xs.filter fun b => key b ≠ key x) a]
      simp only [List.map_cons, List.mem_cons, h, false_or]
      split <;> rfl
termination_by xs.length
decreasing_by simp only [List.length_cons]; omega

theorem nodup_firsts (xs : List α) : ((firsts key xs).map key).Nodup := by
  induction xs using List.reverseRecOn with
  | nil => simp
  | append_singleton xs a ih =>
    rw [firsts_concat]
    split
    · exact ih
    · next h =>
      rw [List.map_append, List.nodup_append']
      exact ⟨ih, List.nodup_singleton _, by simpa using h⟩

theorem mem_of_mem_firsts {xs : List α} {a : α} (h : a ∈ firsts key xs) : a ∈ xs := by
  induction xs using List.reverseRecOn with
  | nil => exact h
  | append_singleton xs b ih =>
    rw [firsts_concat] at h
    split at h
    · exact List.mem_append_left _ (ih h)
    · rcases List.mem_append.mp h with h | h
      · exact List.mem_append_left _ (ih h)
      · exact List.mem_append_right _ h

/-- The keys of the first elements are the keys without repetition. -/
theorem map_firsts (xs : List α) : (firsts key xs).map key = (xs.map key).eraseDups := by
  match xs with
  | [] => rfl
  | x :: xs =>
    have shorter := List.length_filter_le (fun b => decide (key b ≠ key x)) xs
    rw [firsts_cons, List.map_cons, List.map_cons, List.eraseDups_cons,
      map_firsts (xs.filter fun b => key b ≠ key x), List.filter_map]
    congr 3
    exact List.filter_congr fun b _ => by rw [Bool.eq_iff_iff]; simp
termination_by xs.length
decreasing_by simp only [List.length_cons]; omega

theorem nodup_eraseDups (ks : List κ) : ks.eraseDups.Nodup := by
  have h : ((firsts id ks).map id).Nodup := nodup_firsts ks
  rwa [map_firsts, List.map_id] at h

/-- A list without repetitions is its own list of first appearances. -/
theorem eraseDups_of_nodup {ks : List κ} (h : ks.Nodup) : ks.eraseDups = ks := by
  induction ks with
  | nil => rfl
  | cons k ks ih =>
    rw [List.nodup_cons] at h
    have fresh : ks.filter (fun b => !b == k) = ks :=
      List.filter_eq_self.mpr fun b hb => by
        have : b ≠ k := fun e => h.1 (e ▸ hb)
        simpa using this
    rw [List.eraseDups_cons, fresh, ih h.2]

/-! ## Putting elements in place -/

/-- Puts an element in the place of the first one with its key, or else at the end. -/
def put (key : α → κ) (a : α) : List α → List α
  | [] => [a]
  | b :: rest => if key b = key a then a :: rest else b :: put key a rest

/-- Puts elements one after the other. -/
def putAll (key : α → κ) (xs as : List α) : List α := as.foldl (fun acc a => put key a acc) xs

theorem putAll_append (xs as bs : List α) :
    putAll key xs (as ++ bs) = putAll key (putAll key xs as) bs :=
  List.foldl_append

theorem put_of_notMem {a : α} {xs : List α} (h : key a ∉ xs.map key) :
    put key a xs = xs ++ [a] := by
  induction xs with
  | nil => rfl
  | cons x xs ih =>
    rw [List.map_cons, List.mem_cons, not_or] at h
    rw [put, if_neg (Ne.symm h.1), ih h.2, List.cons_append]

/-- Elements with new and different keys are put at the end. -/
theorem putAll_of_nodup {xs as : List α} (h : ((xs ++ as).map key).Nodup) :
    putAll key xs as = xs ++ as := by
  induction as generalizing xs with
  | nil => simp [putAll]
  | cons a as ih =>
    have new : key a ∉ xs.map key := by
      intro known
      rw [List.map_append, List.nodup_append'] at h
      exact h.2.2 known (by simp)
    have rest : ((xs ++ [a] ++ as).map key).Nodup := by
      simpa using h
    have step : putAll key xs (a :: as) = putAll key (put key a xs) as := rfl
    rw [step, put_of_notMem new, ih rest, List.append_assoc, List.singleton_append]

theorem map_key_put (a : α) (xs : List α) :
    (put key a xs).map key = if key a ∈ xs.map key then xs.map key else xs.map key ++ [key a] := by
  induction xs with
  | nil => simp [put]
  | cons x xs ih =>
    by_cases h : key x = key a
    · simp [put, h]
    · by_cases hm : key a ∈ xs.map key <;> simp_all [put, Ne.symm h]

theorem find?_put (a : α) (xs : List α) (k : κ) :
    (put key a xs).find? (key · = k) = if key a = k then some a else xs.find? (key · = k) := by
  induction xs with
  | nil => by_cases h : key a = k <;> simp [put, h]
  | cons x xs ih =>
    by_cases hx : key x = key a
    · by_cases h : key a = k <;> simp [put, hx, h]
    · by_cases h : key x = k
      · have ha : key a ≠ k := fun e => hx (h.trans e.symm)
        simp [put, h, ha, ha.symm]
      · simp [put, hx, h, ih]

theorem mem_of_mem_put {a b : α} {xs : List α} (h : b ∈ put key a xs) : b = a ∨ b ∈ xs := by
  induction xs with
  | nil => exact .inl (List.mem_singleton.mp h)
  | cons x xs ih =>
    unfold put at h
    split at h
    · exact (List.mem_cons.mp h).imp_right (List.mem_cons_of_mem x)
    · rcases List.mem_cons.mp h with rfl | h
      · exact .inr List.mem_cons_self
      · exact (ih h).imp_right (List.mem_cons_of_mem x)

theorem mem_of_mem_putAll {a : α} {xs as : List α} (h : a ∈ putAll key xs as) :
    a ∈ xs ∨ a ∈ as := by
  induction as generalizing xs with
  | nil => exact .inl h
  | cons b as ih =>
    rcases ih h with h | h
    · exact (mem_of_mem_put h).elim (fun same => .inr (same ▸ List.mem_cons_self)) .inl
    · exact .inr (List.mem_cons_of_mem b h)

theorem eraseDups_concat (ks : List κ) (k : κ) :
    (ks ++ [k]).eraseDups = if k ∈ ks then ks.eraseDups else ks.eraseDups ++ [k] := by
  have h : (firsts id (ks ++ [k])).map id = _ := congrArg (List.map id) (firsts_concat ks k)
  by_cases hk : k ∈ ks <;> simpa [map_firsts, hk] using h

/-- The keys come in order of first appearance. -/
theorem map_key_putAll {xs : List α} (as : List α) (h : (xs.map key).Nodup) :
    (putAll key xs as).map key = (xs.map key ++ as.map key).eraseDups := by
  induction as using List.reverseRecOn with
  | nil => simp [putAll, eraseDups_of_nodup h]
  | append_singleton as a ih =>
    have step : putAll key xs (as ++ [a]) = put key a (putAll key xs as) := by simp [putAll]
    rw [step, map_key_put, ih, List.map_append, List.map_singleton, ← List.append_assoc,
      eraseDups_concat]
    simp only [List.mem_eraseDups]

theorem map_key_putAll_nil (as : List α) :
    (putAll key [] as).map key = (as.map key).eraseDups :=
  map_key_putAll as List.nodup_nil

/-- Under each key the last element counts. -/
theorem find?_putAll (xs as : List α) (k : κ) :
    (putAll key xs as).find? (key · = k) =
      (as.reverse.find? (key · = k)).or (xs.find? (key · = k)) := by
  induction as using List.reverseRecOn with
  | nil => simp [putAll]
  | append_singleton as a ih =>
    have step : putAll key xs (as ++ [a]) = put key a (putAll key xs as) := by simp [putAll]
    rw [step, find?_put, ih, List.reverse_append]
    by_cases h : key a = k <;> simp [h]

/-- A list with different keys is found again by its keys. -/
theorem filterMap_find? {xs : List α} (h : (xs.map key).Nodup) :
    (xs.map key).filterMap (fun k => xs.find? (key · = k)) = xs := by
  induction xs with
  | nil => rfl
  | cons x xs ih =>
    rw [List.map_cons, List.nodup_cons] at h
    have later : (xs.map key).filterMap (fun k => (x :: xs).find? (key · = k)) =
        (xs.map key).filterMap (fun k => xs.find? (key · = k)) := by
      refine List.filterMap_congr fun k hk => ?_
      have ne : key x ≠ k := fun e => h.1 (e ▸ hk)
      simp [ne]
    rw [List.map_cons, List.filterMap_cons_some (b := x) (by simp), later, ih h.2]

/-- Put together from nothing, a list has the last element under each key, in order of first
appearance of the keys. -/
theorem putAll_nil (as : List α) :
    putAll key [] as =
      (as.map key).eraseDups.filterMap fun k => as.reverse.find? (key · = k) := by
  have nodup : ((putAll key [] as).map key).Nodup := by
    rw [map_key_putAll_nil]
    exact nodup_eraseDups _
  calc putAll key [] as
      = ((putAll key [] as).map key).filterMap fun k => (putAll key [] as).find? (key · = k) :=
        (filterMap_find? nodup).symm
    _ = (as.map key).eraseDups.filterMap fun k => as.reverse.find? (key · = k) := by
        simp only [map_key_putAll_nil, find?_putAll, List.find?_nil, Option.or_none]

/-! ## Putting what was put together -/

/-- Of elements with one key the later one stays. -/
theorem put_put_of_eq {a b : α} (same : key a = key b) (xs : List α) :
    put key a (put key b xs) = put key a xs := by
  induction xs with
  | nil => simp [put, same]
  | cons x xs ih =>
    by_cases h : key x = key b
    · have ha : key x = key a := h.trans same.symm
      simp [put, h, same]
    · have ha : key x ≠ key a := fun e => h (e.trans same)
      simp [put, h, ha, ih]

/-- It does not matter which of two different keys is served first if the place of one of them is
settled. -/
theorem put_comm {a b : α} (different : key a ≠ key b) {xs : List α} (known : key a ∈ xs.map key) :
    put key a (put key b xs) = put key b (put key a xs) := by
  induction xs with
  | nil => cases known
  | cons x xs ih =>
    by_cases ha : key x = key a
    · simp [put, ha, different]
    · by_cases hb : key x = key b
      · simp [put, hb, different.symm]
      · have later : key a ∈ xs.map key := by
          rcases List.mem_cons.mp known with h | h
          · exact absurd h.symm ha
          · exact h
        simp [put, ha, hb, ih later]

theorem mem_map_key_put {a : α} {k : κ} {xs : List α} :
    k ∈ (put key a xs).map key ↔ k ∈ xs.map key ∨ k = key a := by
  rw [map_key_put]
  split
  · next known => exact ⟨.inl, fun h => h.elim id fun same => same ▸ known⟩
  · rw [List.mem_append, List.mem_singleton]

theorem put_putAll {a : α} {xs as : List α} (known : key a ∈ xs.map key)
    (absent : key a ∉ as.map key) :
    put key a (putAll key xs as) = putAll key (put key a xs) as := by
  induction as generalizing xs with
  | nil => rfl
  | cons b as ih =>
    rw [List.map_cons, List.mem_cons, not_or] at absent
    calc put key a (putAll key xs (b :: as))
        = put key a (putAll key (put key b xs) as) := rfl
      _ = putAll key (put key a (put key b xs)) as := ih (mem_map_key_put.mpr (.inl known)) absent.2
      _ = putAll key (put key b (put key a xs)) as := by rw [put_comm absent.1 known]
      _ = putAll key (put key a xs) (b :: as) := rfl

/-- An element can be put among elements with different keys before these are put, or after. -/
theorem putAll_put (a : α) (xs : List α) {bs : List α} (h : (bs.map key).Nodup) :
    putAll key xs (put key a bs) = put key a (putAll key xs bs) := by
  induction bs generalizing xs with
  | nil => rfl
  | cons b bs ih =>
    rw [List.map_cons, List.nodup_cons] at h
    by_cases same : key b = key a
    · have known : key a ∈ (put key b xs).map key := mem_map_key_put.mpr (.inr same.symm)
      have absent : key a ∉ bs.map key := same ▸ h.1
      calc putAll key xs (put key a (b :: bs))
          = putAll key (put key a xs) bs := by rw [put, if_pos same]; rfl
        _ = putAll key (put key a (put key b xs)) bs := by rw [put_put_of_eq same.symm]
        _ = put key a (putAll key (put key b xs) bs) := (put_putAll known absent).symm
        _ = put key a (putAll key xs (b :: bs)) := rfl
    · calc putAll key xs (put key a (b :: bs))
          = putAll key (put key b xs) (put key a bs) := by rw [put, if_neg same]; rfl
        _ = put key a (putAll key (put key b xs) bs) := ih (put key b xs) h.2
        _ = put key a (putAll key xs (b :: bs)) := rfl

theorem nodup_map_key_put {xs : List α} (a : α) (h : (xs.map key).Nodup) :
    ((put key a xs).map key).Nodup := by
  rw [map_key_put]
  split
  · exact h
  · next absent =>
    rw [List.nodup_append']
    exact ⟨h, List.nodup_singleton _, by simpa using absent⟩

/-- Lists can be put together in either order of grouping. -/
theorem putAll_putAll (xs : List α) {bs : List α} (cs : List α) (h : (bs.map key).Nodup) :
    putAll key xs (putAll key bs cs) = putAll key (putAll key xs bs) cs := by
  induction cs generalizing bs with
  | nil => rfl
  | cons c cs ih =>
    calc putAll key xs (putAll key bs (c :: cs))
        = putAll key xs (putAll key (put key c bs) cs) := rfl
      _ = putAll key (putAll key xs (put key c bs)) cs := ih (nodup_map_key_put c h)
      _ = putAll key (put key c (putAll key xs bs)) cs := by rw [putAll_put c xs h]
      _ = putAll key (putAll key xs bs) (c :: cs) := rfl

end Schemata.Keyed
