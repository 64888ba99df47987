import FederatedAccess.Json.Tagged
import FederatedAccess.Proofs.Json.Record
import FederatedAccess.Proofs.Json.Value

/-!
# Trees within the limits

What fits into some levels has parts that fit into one level less (`FitsIn.part`), and whatever a
record or a tagged form hands out is such a part. A written value fits when it is not deeper
(`fitsIn_ofJson`).
-/

namespace FederatedAccess.Json.Draft

variable {room : Nat} {draft found rest inner : Draft} {items : List Draft}
  {members : List (Option String × Draft)} {names : List String} {tag : String}

/-- The tree is a value with at most `room` open levels. -/
def FitsIn (room : Nat) (draft : Draft) : Prop :=
  (draft.value? room).isSome = true

/-- The items of an array, or the values of an object's members. -/
def parts : Draft → List Draft
  | array items => items
  | object members => members.map Prod.snd
  | _ => []

/-! ## Levels -/

theorem values?_isSome_iff :
    (values? room items).isSome = true ↔ ∀ item ∈ items, item.FitsIn room := by
  induction items with
  | nil => simp [values?]
  | cons item rest ih =>
    rw [values?, List.forall_mem_cons, ← ih, FitsIn]
    cases item.value? room with
    | none => simp
    | some v => cases values? room rest <;> simp

theorem memberValues?_isSome_iff {values : List (String × Json)} :
    (memberValues? room members values).isSome = true ↔
      ∀ member ∈ members, member.1.isSome = true ∧ member.2.FitsIn room := by
  induction members generalizing values with
  | nil => simp [memberValues?]
  | cons member rest ih =>
    obtain ⟨name, item⟩ := member
    rw [memberValues?, List.forall_mem_cons, FitsIn]
    cases name with
    | none => simp
    | some name =>
      cases item.value? room with
      | none => simp
      | some v => simpa using ih

/-- **Parts.** What fits has parts that fit into one level less. -/
theorem FitsIn.part (h : draft.FitsIn room) (hinner : inner ∈ draft.parts) :
    0 < room ∧ inner.FitsIn (room - 1) := by
  cases draft with
  | array items =>
    cases room with
    | zero => simp [FitsIn, value?] at h
    | succ room =>
      rw [FitsIn, value?, Option.isSome_map] at h
      exact ⟨Nat.succ_pos room, values?_isSome_iff.1 h inner hinner⟩
  | object members =>
    cases room with
    | zero => simp [FitsIn, value?] at h
    | succ room =>
      obtain ⟨member, hmember, rfl⟩ := List.mem_map.1 hinner
      rw [FitsIn, value?, Option.isSome_map] at h
      exact ⟨Nat.succ_pos room, (memberValues?_isSome_iff.1 h member hmember).2⟩
  | null | bool | integer | real | string | beyond => cases hinner

/-- **Written values** fit when they are not deeper. -/
theorem fitsIn_ofJson {v : Json} (h : v.depth ≤ room) : (ofJson v).FitsIn room := by
  induction room generalizing v with
  | zero =>
    cases v with
    | array items => exact absurd h (Nat.not_succ_le_zero _)
    | object members => exact absurd h (Nat.not_succ_le_zero _)
    | null | bool | integer | real | string => simp [ofJson, FitsIn, value?]
  | succ room ih =>
    cases v with
    | array items =>
      have hitems := depthItems_le_iff.1 (Nat.le_of_succ_le_succ h)
      rw [ofJson, FitsIn, value?, Option.isSome_map, values?_isSome_iff, ofItems_eq_map]
      intro item hitem
      obtain ⟨v, hv, rfl⟩ := List.mem_map.1 hitem
      exact ih (hitems v hv)
    | object members =>
      have hmembers := depthMembers_le_iff.1 (Nat.le_of_succ_le_succ h)
      rw [ofJson, FitsIn, value?, Option.isSome_map, memberValues?_isSome_iff, ofMembers_eq_map]
      intro member hmember
      obtain ⟨m, hm, rfl⟩ := List.mem_map.1 hmember
      exact ⟨rfl, ih (hmembers m hm)⟩
    | null | bool | integer | real | string => simp [ofJson, FitsIn, value?]

/-! ## What is handed out -/

/-- Tag and rest of a tagged form are parts of it. -/
theorem parts_of_tagged? (h : draft.tagged? tag = some (found, rest)) :
    found ∈ draft.parts ∧ rest.parts ⊆ draft.parts := by
  cases draft with
  | array items =>
    cases items with
    | nil => cases h
    | cons first more =>
      cases h
      exact ⟨List.mem_cons_self, List.subset_cons_self _ _⟩
  | object members =>
    rw [tagged?] at h
    split at h
    · rename_i member heq
      cases h
      have hmem : member ∈ members.filter fun m => m.1 == some tag := by
        rw [heq]
        exact List.mem_singleton_self member
      refine ⟨List.mem_map_of_mem (List.mem_of_mem_filter hmem), ?_⟩
      exact List.map_subset _ List.filter_sublist.subset
    · cases h
  | null | bool | integer | real | string | beyond => cases h

/-- The members of a record are parts of it. -/
theorem mem_parts_of_record? {strict : Bool} {found : List (Option Draft)}
    (h : draft.record? names strict room = some found) (hinner : some inner ∈ found) :
    inner ∈ draft.parts := by
  cases draft with
  | array items =>
    rw [record?] at h
    split at h
    · cases h
    · cases h
      obtain ⟨i, -, hi⟩ := List.mem_map.1 hinner
      exact List.mem_of_getElem? hi
  | object members =>
    rw [record?] at h
    split at h
    · cases h
    · unfold declared? at h
      simp only at h
      split at h
      · cases h
      · split at h
        · cases h
        · split at h
          · cases h
          · cases h
            obtain ⟨name, -, hname⟩ := List.mem_map.1 hinner
            obtain ⟨member, hfind, rfl⟩ := Option.map_eq_some_iff.1 hname
            exact List.mem_map_of_mem (List.mem_of_find?_eq_some hfind)
  | null | bool | integer | real | string | beyond => cases h

/-- What is read from items is read from parts. -/
theorem exists_part_of_items? {α : Type} {reader : Draft → Option α} {xs : List α} {a : α}
    (h : items? room reader draft = some xs) (ha : a ∈ xs) :
    ∃ item ∈ draft.parts, reader item = some a := by
  cases draft with
  | array items =>
    rw [items?] at h
    split at h
    · cases h
    · exact exists_mem_of_mapM h ha
  | null | bool | integer | real | string | beyond | object => cases h

end FederatedAccess.Json.Draft
