import FederatedAccess.Json.Record
import FederatedAccess.Proofs.Catalog
import FederatedAccess.Proofs.Results

/-!
# Written parts of a record read back

Sequences are read back when their items are (`items?_ofJson`), and dictionaries when their values
are (`dictionary?_ofJson`).
-/

namespace FederatedAccess.Json.Draft

variable {α : Type} {room : Nat} {reader : Draft → Option α} {write : α → Json}

theorem ofItems_eq_map (items : List Json) : ofItems items = items.map ofJson := by
  induction items with
  | nil => rfl
  | cons v rest ih => rw [ofItems, ih, List.map_cons]

theorem ofMembers_eq_map (members : List (String × Json)) :
    ofMembers members = members.map fun m => (some m.1, ofJson m.2) := by
  induction members with
  | nil => rfl
  | cons m rest ih => rw [ofMembers, ih, List.map_cons]

/-! ## Sequences -/

theorem items?_array_eq_some_iff {items : List Draft} {xs : List α} :
    items? room reader (array items) = some xs ↔
      0 < room ∧ List.Forall₂ (fun item a => reader item = some a) items xs := by
  rw [items?]
  split
  · rename_i h
    simp [h]
  · rename_i h
    rw [mapM_eq_some_iff, and_iff_right (Nat.pos_of_ne_zero h)]

/-- Items are read back when each of them is. -/
theorem items?_ofJson {xs : List α} (hroom : 0 < room)
    (h : ∀ a ∈ xs, reader (ofJson (write a)) = some a) :
    items? room reader (ofJson (.array (xs.map write))) = some xs := by
  rw [ofJson, ofItems_eq_map, List.map_map, items?_array_eq_some_iff, List.forall₂_map_left_iff,
    List.forall₂_same]
  exact ⟨hroom, h⟩

/-! ## Dictionaries -/

/-- A dictionary is read back when each of its values is. -/
theorem dictionary?_ofJson (hroom : 0 < room) (h : ∀ a, reader (ofJson (write a)) = some a)
    (dictionary : Dictionary α) :
    dictionary? room reader (ofJson (.object (dictionary.mapValues write).toList)) =
      some dictionary := by
  have hmembers : ofMembers (dictionary.mapValues write).toList =
      dictionary.toList.map fun entry => (some entry.1, ofJson (write entry.2)) := by
    rw [ofMembers_eq_map, Dictionary.mapValues, List.map_map]
    rfl
  have hentries : (ofMembers (dictionary.mapValues write).toList).mapM (fun member => do
      let name ← member.1
      let value ← reader member.2
      some (name, value)) = some dictionary.toList := by
    rw [hmembers, mapM_eq_some_iff, List.forall₂_map_left_iff, List.forall₂_same]
    intro entry _
    rw [h entry.2]
    rfl
  rw [ofJson, dictionary?, if_neg (Nat.ne_of_gt hroom), hentries]
  exact congrArg some dictionary.ofList_toList

end FederatedAccess.Json.Draft
