import FederatedAccess.Proofs.Json.Draft

/-!
# Written values read back

The tree of a value gives the value again when its objects list their members in the order of the
names and it does not nest too deeply (`value?_ofJson`). Together with the tree that its text has,
this is the way back from the text (`parse?_text`).
-/

namespace FederatedAccess.Json

mutual
/-- Whether all objects in a value list their members in strict order of the names. -/
def isOrdered : Json → Bool
  | array items => allOrdered items
  | object members =>
    decide (members.Pairwise fun a b => a.1 < b.1) && allOrderedMembers members
  | _ => true

/-- Whether all objects in a sequence of values list their members in order. -/
def allOrdered : List Json → Bool
  | [] => true
  | v :: rest => isOrdered v && allOrdered rest

/-- Whether all objects in a sequence of members list their members in order. -/
def allOrderedMembers : List (String × Json) → Bool
  | [] => true
  | (_, v) :: rest => isOrdered v && allOrderedMembers rest
end

mutual
/-- The levels of arrays and objects in a value. -/
def depth : Json → Nat
  | array items => depthItems items + 1
  | object members => depthMembers members + 1
  | _ => 0

/-- The most levels in a sequence of values. -/
def depthItems : List Json → Nat
  | [] => 0
  | v :: rest => max (depth v) (depthItems rest)

/-- The most levels in a sequence of members. -/
def depthMembers : List (String × Json) → Nat
  | [] => 0
  | (_, v) :: rest => max (depth v) (depthMembers rest)
end

/-! ## Items and members one by one -/

theorem allIntegral_iff {items : List Json} :
    allIntegral items = true ↔ ∀ v ∈ items, v.isIntegral = true := by
  induction items with
  | nil => simp [allIntegral]
  | cons v rest ih => rw [allIntegral, Bool.and_eq_true_iff, ih, List.forall_mem_cons]

theorem allIntegralMembers_iff {members : List (String × Json)} :
    allIntegralMembers members = true ↔ ∀ m ∈ members, m.2.isIntegral = true := by
  induction members with
  | nil => simp [allIntegralMembers]
  | cons m rest ih => rw [allIntegralMembers, Bool.and_eq_true_iff, ih, List.forall_mem_cons]

theorem allOrderedMembers_iff {members : List (String × Json)} :
    allOrderedMembers members = true ↔ ∀ m ∈ members, m.2.isOrdered = true := by
  induction members with
  | nil => simp [allOrderedMembers]
  | cons m rest ih => rw [allOrderedMembers, Bool.and_eq_true_iff, ih, List.forall_mem_cons]

theorem depthItems_le_iff {items : List Json} {n : Nat} :
    depthItems items ≤ n ↔ ∀ v ∈ items, v.depth ≤ n := by
  induction items with
  | nil => simp [depthItems]
  | cons v rest ih => rw [depthItems, Nat.max_le, ih, List.forall_mem_cons]

theorem depthMembers_le_iff {members : List (String × Json)} {n : Nat} :
    depthMembers members ≤ n ↔ ∀ m ∈ members, m.2.depth ≤ n := by
  induction members with
  | nil => simp [depthMembers]
  | cons m rest ih => rw [depthMembers, Nat.max_le, ih, List.forall_mem_cons]

namespace Draft

/-- A member whose name is beyond all others is put at the end. -/
theorem insertMember_last {name : String} {value : Json} {found : List (String × Json)}
    (h : ∀ m ∈ found, m.1 < name) : insertMember name value found = found ++ [(name, value)] := by
  induction found with
  | nil => rfl
  | cons m rest ih =>
    obtain ⟨k, v⟩ := m
    obtain ⟨hm, hrest⟩ := List.forall_mem_cons.1 h
    have hbefore : ¬ name < k := String.lt_asymm hm
    have hother : name ≠ k := fun e => String.lt_irrefl k (e ▸ hm)
    rw [insertMember, if_neg hbefore, if_neg hother, ih hrest, List.cons_append]

mutual

/-- **Values.** A value is what its tree stands for. -/
theorem value?_ofJson : ∀ (v : Json) (room : Nat), v.isOrdered = true → v.depth ≤ room →
    (ofJson v).value? room = some v
  | .null, _, _, _ => by rw [ofJson, value?]
  | .bool _, _, _, _ => by rw [ofJson, value?]
  | .integer _, _, _, _ => by rw [ofJson, value?]
  | .real _, _, _, _ => by rw [ofJson, value?]
  | .string _, _, _, _ => by rw [ofJson, value?]
  | .array items, 0, _, hdepth => absurd hdepth (Nat.not_succ_le_zero _)
  | .array items, room + 1, h, hdepth => by
    rw [ofJson, value?, values?_ofItems items room h (Nat.le_of_succ_le_succ hdepth)]
    rfl
  | .object members, 0, _, hdepth => absurd hdepth (Nat.not_succ_le_zero _)
  | .object members, room + 1, h, hdepth => by
    obtain ⟨hsorted, hmembers⟩ := Bool.and_eq_true_iff.1 h
    rw [ofJson, value?, memberValues?_ofMembers members room [] hmembers
      (Nat.le_of_succ_le_succ hdepth) (of_decide_eq_true hsorted)]
    rfl

theorem values?_ofItems : ∀ (items : List Json) (room : Nat), allOrdered items = true →
    depthItems items ≤ room → values? room (ofItems items) = some items
  | [], _, _, _ => by rw [ofItems, values?]
  | v :: rest, room, h, hdepth => by
    obtain ⟨hv, hrest⟩ := Bool.and_eq_true_iff.1 h
    obtain ⟨hdv, hdrest⟩ := Nat.max_le.1 hdepth
    rw [ofItems, values?, value?_ofJson v room hv hdv, values?_ofItems rest room hrest hdrest]
    rfl

/-- Members in order are added one after the other. -/
theorem memberValues?_ofMembers : ∀ (members : List (String × Json)) (room : Nat)
    (found : List (String × Json)), allOrderedMembers members = true →
    depthMembers members ≤ room → (found ++ members).Pairwise (fun a b => a.1 < b.1) →
    memberValues? room (ofMembers members) found = some (found ++ members)
  | [], _, found, _, _, _ => by rw [ofMembers, memberValues?, List.append_nil]
  | (k, v) :: rest, room, found, h, hdepth, hsorted => by
    obtain ⟨hv, hrest⟩ := Bool.and_eq_true_iff.1 h
    obtain ⟨hdv, hdrest⟩ := Nat.max_le.1 hdepth
    have hlast : ∀ m ∈ found, m.1 < k := fun m hm =>
      (List.pairwise_append.1 hsorted).2.2 m hm (k, v) List.mem_cons_self
    have hshift : found ++ (k, v) :: rest = (found ++ [(k, v)]) ++ rest := by simp
    rw [hshift] at hsorted ⊢
    rw [ofMembers, memberValues?, value?_ofJson v room hv hdv,
      ← memberValues?_ofMembers rest room _ hrest hdrest hsorted, ← insertMember_last hlast]
    rfl

end

end Draft

/-- **The way back.** The text of a value is read as this value when its numbers are integers, its
objects are in order and it is within the limits. -/
theorem parse?_text {v : Json} (hintegral : v.isIntegral = true) (hordered : v.isOrdered = true)
    (hdepth : v.depth ≤ Draft.deepest) : parse? (Utf8.encode v.text) = some v := by
  rw [parse?, Draft.read_text hintegral]
  exact Draft.value?_ofJson v _ hordered hdepth

end FederatedAccess.Json
