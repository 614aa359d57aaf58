import Schemata.Yaml.Document

/-!
# Reading given texts

Bool-valued equality of document values, written for kernel evaluation. `Value.ofOctets_eq_ok` turns
the check that a text reads as a value into the equation.
-/

namespace Schemata.Yaml.Value

mutual

def identical : Value → Value → Bool
  | .null, .null => true
  | .bool a, .bool b => a == b
  | .number m, .number n => m == n
  | .string s, .string t => s == t
  | .seq xs, .seq ys => identicalItems xs ys
  | .map es, .map fs => identicalEntries es fs
  | .tagged s v, .tagged t w => s == t && v.identical w
  | _, _ => false

def identicalItems : List Value → List Value → Bool
  | [], [] => true
  | v :: vs, w :: ws => v.identical w && identicalItems vs ws
  | _, _ => false

def identicalEntries : List (Value × Value) → List (Value × Value) → Bool
  | [], [] => true
  | (k, v) :: es, (l, w) :: fs => k.identical l && v.identical w && identicalEntries es fs
  | _, _ => false

end

mutual

theorem eq_of_identical : ∀ {v w : Value}, v.identical w → v = w := by
  intro v w h
  cases v <;> cases w <;> simp only [identical, Bool.and_eq_true, beq_iff_eq, reduceCtorEq] at h
  case null.null => rfl
  case bool.bool => rw [h]
  case number.number => rw [h]
  case string.string => rw [h]
  case seq.seq => rw [eq_of_identicalItems h]
  case map.map => rw [eq_of_identicalEntries h]
  case tagged.tagged => rw [h.1, eq_of_identical h.2]

theorem eq_of_identicalItems : ∀ {vs ws : List Value}, identicalItems vs ws → vs = ws
  | [], [], _ => rfl
  | v :: vs, w :: ws, h => by
    simp only [identicalItems, Bool.and_eq_true] at h
    rw [eq_of_identical h.1, eq_of_identicalItems h.2]
  | [], _ :: _, h => by simp [identicalItems] at h
  | _ :: _, [], h => by simp [identicalItems] at h

theorem eq_of_identicalEntries : ∀ {es fs : List (Value × Value)},
    identicalEntries es fs → es = fs
  | [], [], _ => rfl
  | (k, v) :: es, (l, w) :: fs, h => by
    simp only [identicalEntries, Bool.and_eq_true] at h
    rw [eq_of_identical h.1.1, eq_of_identical h.1.2, eq_of_identicalEntries h.2]
  | [], _ :: _, h => by simp [identicalEntries] at h
  | _ :: _, [], h => by simp [identicalEntries] at h

end

/-- Whether octets read as a value. -/
def reads (octets : List UInt8) (v : Value) : Bool :=
  match ofOctets octets with
  | .ok w => w.identical v
  | .error _ => false

theorem ofOctets_eq_ok {octets : List UInt8} {v : Value} (h : reads octets v) :
    ofOctets octets = .ok v := by
  unfold reads at h
  split at h
  · next w hw => rw [hw, eq_of_identical h]
  · cases h

end Schemata.Yaml.Value
