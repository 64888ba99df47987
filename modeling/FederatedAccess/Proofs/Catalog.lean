import FederatedAccess.Catalog
import Mathlib.Data.List.Sort

/-!
# Catalogs as finite maps and sets

What is in a catalog after it was changed, and what is found under a key. The order of the entries
never shows here: every statement is about membership, and later modules go through membership
alone.

A new entry drives out the old one with its key. Where the key tells all entries apart, as the text
of a token does, nothing is ever driven out and a catalog is a plain set.
-/

namespace FederatedAccess

universe u v

namespace Catalog

variable {α : Type u} {key : α → String} {catalog s t : Catalog key} {a b : α} {k : String}

/-! ## Membership -/

instance : HasSubset (Catalog key) := ⟨fun s t => ∀ a, a ∈ s → a ∈ t⟩

def Nonempty (catalog : Catalog key) : Prop :=
  ∃ a, a ∈ catalog

theorem not_nonempty_iff : ¬ catalog.Nonempty ↔ ∀ a, a ∉ catalog := by
  rw [Nonempty, not_exists]

theorem Nonempty.mono (hsub : s ⊆ t) (h : s.Nonempty) : t.Nonempty := by
  obtain ⟨a, ha⟩ := h
  exact ⟨a, hsub a ha⟩

@[simp] theorem not_mem_empty (a : α) : a ∉ (empty : Catalog key) :=
  List.not_mem_nil

@[simp] theorem mem_filter {p : α → Bool} :
    a ∈ catalog.filter p ↔ a ∈ catalog ∧ p a = true :=
  List.mem_filter

theorem isEmpty_iff : catalog.isEmpty = true ↔ ∀ a, a ∉ catalog := by
  rw [isEmpty, List.isEmpty_iff, List.eq_nil_iff_forall_not_mem]
  rfl

theorem isEmpty_eq_false_iff : catalog.isEmpty = false ↔ catalog.Nonempty := by
  rw [← Bool.not_eq_true, isEmpty_iff, Nonempty]
  simp

theorem mem_insertList_iff {xs : List α} (h : xs.Pairwise fun a b => key a < key b) :
    b ∈ insertList key a xs ↔ b = a ∨ (b ∈ xs ∧ key b ≠ key a) := by
  induction xs with
  | nil => simp [insertList]
  | cons c rest ih =>
    obtain ⟨hc, hrest⟩ := List.pairwise_cons.1 h
    simp only [insertList]
    split
    · rename_i hlt
      -- all of the list lies beyond `a`, so nothing is driven out
      have hne : ∀ d ∈ c :: rest, key d ≠ key a := by
        intro d hd e
        rcases List.mem_cons.1 hd with rfl | hd
        · exact String.lt_irrefl _ (e ▸ hlt)
        · exact String.lt_irrefl _ (e ▸ String.lt_trans hlt (hc d hd))
      rw [List.mem_cons]
      constructor
      · rintro (rfl | hb)
        · exact Or.inl rfl
        · exact Or.inr ⟨hb, hne b hb⟩
      · rintro (rfl | ⟨hb, -⟩)
        · exact Or.inl rfl
        · exact Or.inr hb
    · split
      · rename_i heq
        have hne : ∀ d ∈ rest, key d ≠ key a := fun d hd e =>
          String.lt_irrefl _ (heq ▸ e ▸ hc d hd)
        simp only [List.mem_cons]
        constructor
        · rintro (rfl | hb)
          · exact Or.inl rfl
          · exact Or.inr ⟨Or.inr hb, hne b hb⟩
        · rintro (rfl | ⟨rfl | hb, hk⟩)
          · exact Or.inl rfl
          · exact absurd heq.symm hk
          · exact Or.inr hb
      · rename_i hne
        rw [List.mem_cons, List.mem_cons, ih hrest]
        constructor
        · rintro (rfl | rfl | ⟨hb, hk⟩)
          · exact Or.inr ⟨Or.inl rfl, Ne.symm hne⟩
          · exact Or.inl rfl
          · exact Or.inr ⟨Or.inr hb, hk⟩
        · rintro (rfl | ⟨rfl | hb, hk⟩)
          · exact Or.inr (Or.inl rfl)
          · exact Or.inl rfl
          · exact Or.inr (Or.inr ⟨hb, hk⟩)

/-- A catalog with a new entry holds this entry and all others under other keys. -/
theorem mem_insert : b ∈ catalog.insert a ↔ b = a ∨ (b ∈ catalog ∧ key b ≠ key a) :=
  mem_insertList_iff catalog.sorted

/-- Catalogs with the same entries are equal, since both are in order. -/
theorem ext_mem (h : ∀ a, a ∈ s ↔ a ∈ t) : s = t := by
  have : Std.Asymm fun a b : α => key a < key b := ⟨fun _ _ => String.lt_asymm⟩
  exact ext (s.sorted.eq_of_mem_iff t.sorted h)

/-! ## Looking up -/

theorem find?_eq_some_iff : catalog.find? k = some a ↔ a ∈ catalog ∧ key a = k := by
  constructor
  · intro h
    exact ⟨List.mem_of_find?_eq_some h, by simpa using List.find?_some h⟩
  · rintro ⟨ha, rfl⟩
    exact find?_of_mem ha

theorem contains_iff : catalog.contains k = true ↔ ∃ a ∈ catalog, key a = k := by
  rw [contains, List.any_eq_true]
  simp only [beq_iff_eq]
  rfl

/-! ## Many entries -/

/-- Entries under different keys all get into a catalog to which they are added, and drive out
those that had these keys before. -/
theorem mem_foldl_insert_iff {xs : List α} (h : (xs.map key).Nodup) :
    a ∈ xs.foldl (fun catalog b => catalog.insert b) catalog ↔
      a ∈ xs ∨ (a ∈ catalog ∧ key a ∉ xs.map key) := by
  induction xs generalizing catalog with
  | nil => simp
  | cons b rest ih =>
    rw [List.map_cons, List.nodup_cons] at h
    rw [List.foldl_cons, ih h.2, mem_insert, List.mem_cons, List.map_cons, List.mem_cons]
    constructor
    · rintro (hr | ⟨rfl | ⟨hc, hne⟩, hfresh⟩)
      · exact Or.inl (Or.inr hr)
      · exact Or.inl (Or.inl rfl)
      · exact Or.inr ⟨hc, not_or.2 ⟨hne, hfresh⟩⟩
    · rintro ((rfl | hr) | ⟨hc, hfresh⟩)
      · exact Or.inr ⟨Or.inl rfl, h.1⟩
      · exact Or.inl hr
      · exact Or.inr ⟨Or.inr ⟨hc, fun e => hfresh (Or.inl e)⟩, fun e => hfresh (Or.inr e)⟩

/-- Nothing is driven out when the keys are new. -/
theorem mem_foldl_insert {xs : List α} (h : (xs.map key).Nodup)
    (hcatalog : ∀ c ∈ catalog, key c ∉ xs.map key) :
    a ∈ xs.foldl (fun catalog b => catalog.insert b) catalog ↔ a ∈ catalog ∨ a ∈ xs := by
  rw [mem_foldl_insert_iff h, or_comm, and_iff_left_of_imp (hcatalog a)]

theorem mem_ofList_of_nodup {xs : List α} (h : (xs.map key).Nodup) :
    a ∈ (ofList xs : Catalog key) ↔ a ∈ xs := by
  rw [ofList, mem_foldl_insert h (fun c hc => absurd hc (not_mem_empty c))]
  simp

theorem nodup_keys (catalog : Catalog key) : (catalog.toList.map key).Nodup := by
  refine List.pairwise_map.2 (catalog.sorted.imp ?_)
  intro a b hlt he
  exact String.lt_irrefl _ (he ▸ hlt)

/-- The entries of a catalog make it up. -/
theorem ofList_toList (catalog : Catalog key) : ofList catalog.toList = catalog :=
  ext_mem fun _ => mem_ofList_of_nodup (nodup_keys catalog)

/-! ## Sets

Where the key tells all entries apart, adding drives out nothing. -/

theorem mem_foldl_insert_of_injective (hkey : ∀ a b : α, key a = key b → a = b) {xs : List α}
    {catalog : Catalog key} :
    a ∈ xs.foldl (fun catalog b => catalog.insert b) catalog ↔ a ∈ catalog ∨ a ∈ xs := by
  induction xs generalizing catalog with
  | nil => simp
  | cons b rest ih =>
    rw [List.foldl_cons, ih, mem_insert, List.mem_cons]
    constructor
    · rintro ((rfl | ⟨hc, -⟩) | hr)
      · exact Or.inr (Or.inl rfl)
      · exact Or.inl hc
      · exact Or.inr (Or.inr hr)
    · rintro (hc | rfl | hr)
      · by_cases he : key a = key b
        · exact Or.inl (Or.inl (hkey a b he))
        · exact Or.inl (Or.inr ⟨hc, he⟩)
      · exact Or.inl (Or.inl rfl)
      · exact Or.inr hr

theorem mem_ofList (hkey : ∀ a b : α, key a = key b → a = b) {xs : List α} :
    a ∈ (ofList xs : Catalog key) ↔ a ∈ xs := by
  rw [ofList, mem_foldl_insert_of_injective hkey]
  simp

theorem mem_union (hkey : ∀ a b : α, key a = key b → a = b) :
    a ∈ s.union t ↔ a ∈ s ∨ a ∈ t :=
  mem_foldl_insert_of_injective hkey

theorem toList_firstWith (p : α → Bool) (catalog : Catalog key) :
    (catalog.firstWith p).toList = (catalog.toList.find? p).toList := rfl

theorem mem_firstWith_iff {p : α → Bool} :
    a ∈ catalog.firstWith p ↔ catalog.toList.find? p = some a := by
  show a ∈ (catalog.firstWith p).toList ↔ _
  rw [toList_firstWith, Option.mem_toList]

/-- Something is first with a property exactly when something has it. -/
theorem nonempty_firstWith_iff {p : α → Bool} {catalog : Catalog key} :
    (catalog.firstWith p).Nonempty ↔ ∃ a ∈ catalog, p a = true := by
  simp only [Nonempty, mem_firstWith_iff, ← Option.isSome_iff_exists]
  rw [List.find?_isSome]
  rfl

/-- Of a single entry the first with a property is this entry exactly when it has the property. -/
theorem firstWith_singleton_eq_iff {p : α → Bool} :
    (ofList [a] : Catalog key).firstWith p = ofList [a] ↔ p a = true := by
  rw [Catalog.ext_iff, toList_firstWith]
  show ([a].find? p).toList = [a] ↔ _
  by_cases h : p a <;> simp [h]

theorem of_mem_firstWith {p : α → Bool} {catalog : Catalog key} (h : a ∈ catalog.firstWith p) :
    a ∈ catalog ∧ p a = true := by
  have hfind := mem_firstWith_iff.1 h
  exact ⟨List.mem_of_find?_eq_some hfind, List.find?_some hfind⟩

/-- If anything has the property, the first with it is the one with the least key. -/
theorem firstWith_cases (p : α → Bool) (catalog : Catalog key) :
    (∀ a ∈ catalog, p a = false) ∧ catalog.firstWith p = empty ∨
      ∃ a ∈ catalog, p a = true ∧ (∀ b ∈ catalog, p b = true → key a ≤ key b) ∧
        catalog.firstWith p = ofList [a] := by
  cases hfind : catalog.toList.find? p with
  | none =>
    refine Or.inl ⟨fun a ha => ?_, ext (by rw [toList_firstWith, hfind]; rfl)⟩
    exact Bool.eq_false_iff.2 (List.find?_eq_none.1 hfind a ha)
  | some a =>
    obtain ⟨hp, front, back, hlist, hfront⟩ := List.find?_eq_some_iff_append.1 hfind
    refine Or.inr ⟨a, List.mem_of_find?_eq_some hfind, hp, fun b hb hpb => ?_,
      ext (by rw [toList_firstWith, hfind]; rfl)⟩
    have hsorted := catalog.sorted
    rw [hlist] at hsorted
    have hmem : b ∈ front ++ a :: back := hlist ▸ hb
    rcases List.mem_append.1 hmem with hb | hb
    · exact absurd (hfront b hb) (by simp [hpb])
    · rcases List.mem_cons.1 hb with rfl | hb
      · exact String.le_refl _
      · have hback := (List.pairwise_cons.1 (List.pairwise_append.1 hsorted).2.1).1
        exact Std.le_of_lt (hback b hb)

theorem Nonempty.firstWith_mono {p : α → Bool} (hsub : s ⊆ t) (h : (s.firstWith p).Nonempty) :
    (t.firstWith p).Nonempty := by
  obtain ⟨a, ha, hp⟩ := nonempty_firstWith_iff.1 h
  exact nonempty_firstWith_iff.2 ⟨a, hsub a ha, hp⟩

end Catalog

/-! ## Dictionaries -/

namespace Dictionary

variable {α : Type u} {dictionary : Dictionary α} {name : String} {value : α}

def single (name : String) (value : α) : Dictionary α :=
  Dictionary.put Catalog.empty name value

theorem get?_eq_some_iff : dictionary.get? name = some value ↔ (name, value) ∈ dictionary := by
  constructor
  · intro h
    obtain ⟨⟨found, value'⟩, hfind, rfl⟩ := Option.map_eq_some_iff.1 h
    obtain ⟨hmem, rfl⟩ := Catalog.find?_eq_some_iff.1 hfind
    exact hmem
  · exact get?_of_mem

theorem get?_single_iff {other : String} {found : α} :
    (single name value).get? other = some found ↔ other = name ∧ found = value := by
  rw [get?_eq_some_iff, single, put, Catalog.mem_insert]
  simp [Prod.ext_iff]

/-- Looking up after a value was put under a name. -/
theorem get?_put {other : String} :
    (dictionary.put name value).get? other =
      if other = name then some value else dictionary.get? other := by
  refine Option.ext fun found => ?_
  rw [get?_eq_some_iff, put, Catalog.mem_insert]
  split
  · rename_i h
    simp [Prod.ext_iff, h, eq_comm]
  · rename_i h
    rw [get?_eq_some_iff]
    simp [Prod.ext_iff, h]

theorem get?_put_self : (dictionary.put name value).get? name = some value := by
  rw [get?_put, if_pos rfl]

/-- Looking up after the value of a name was removed. -/
theorem get?_erase {other : String} :
    Dictionary.get? (dictionary.erase name) other =
      if other = name then none else dictionary.get? other := by
  refine Option.ext fun found => ?_
  rw [get?_eq_some_iff, Catalog.erase, Catalog.mem_filter]
  split
  · rename_i h
    simp [h]
  · rename_i h
    rw [get?_eq_some_iff]
    simp [h]

/-- Looking up after every value was changed. -/
theorem get?_mapValues {β : Type v} {f : α → β} :
    (dictionary.mapValues f).get? name = (dictionary.get? name).map f := by
  refine Option.ext fun found => ?_
  rw [get?_eq_some_iff, Option.map_eq_some_iff]
  constructor
  · intro hmem
    obtain ⟨⟨name', value⟩, hentry, heq⟩ := List.mem_map.1 hmem
    obtain ⟨rfl, rfl⟩ := Prod.ext_iff.1 heq
    exact ⟨value, get?_eq_some_iff.2 hentry, rfl⟩
  · rintro ⟨value, hvalue, rfl⟩
    exact List.mem_map.2 ⟨(name, value), get?_eq_some_iff.1 hvalue, rfl⟩

end Dictionary

end FederatedAccess
