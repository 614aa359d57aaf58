import Schemata.Data
import Schemata.Proofs.Keyed

/-!
# Fields by name

The entries of an object are a list by key, and `Fields.ofList` puts them in place one by one. It
gives back a list in which no name occurs twice (`ofList_of_nodup`).
-/

namespace Schemata.Fields

theorem insert_eq_put (fields : Fields) (name : String) (d : Data) :
    fields.insert name d = Keyed.put (·.1) (name, d) fields := by
  induction fields with
  | nil => rfl
  | cons field rest ih =>
    rw [insert, Keyed.put, ih]
    exact if_congr beq_iff_eq rfl rfl

theorem ofList_eq_putAll (fields : List (String × Data)) :
    ofList fields = Keyed.putAll (·.1) [] fields := by
  simp only [ofList, Keyed.putAll, insert_eq_put]

theorem ofList_of_nodup {fields : List (String × Data)} (h : (fields.map (·.1)).Nodup) :
    ofList fields = fields := by
  rw [ofList_eq_putAll]
  exact Keyed.putAll_of_nodup h

theorem mem_of_mem_ofList {fields : List (String × Data)} {field : String × Data}
    (h : field ∈ ofList fields) : field ∈ fields := by
  rw [ofList_eq_putAll] at h
  exact (Keyed.mem_of_mem_putAll h).resolve_left nofun

end Schemata.Fields
