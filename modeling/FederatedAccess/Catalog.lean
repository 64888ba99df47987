/-!
# Catalogs

A catalog holds entries in increasing order of a text key, at most one for each key. Dictionaries
(entries are pairs) and sets of tokens (the key is the token's text) are catalogs. Two catalogs are
equal when they hold the same entries, since order and number of occurrences are settled.
-/

namespace FederatedAccess

universe u v

/-- Entries in strictly increasing order of `key`. -/
structure Catalog {α : Type u} (key : α → String) where
  /-- The entries. -/
  toList : List α
  /-- Keys increase strictly. -/
  sorted : toList.Pairwise fun a b => key a < key b := by exact .nil

namespace Catalog

variable {α : Type u} {key : α → String}

instance : Membership α (Catalog key) := ⟨fun catalog a => a ∈ catalog.toList⟩

@[ext] theorem ext {a b : Catalog key} (h : a.toList = b.toList) : a = b := by
  cases a; cases b; simp_all

/-- The catalog without entries. -/
def empty : Catalog key where
  toList := []

instance : EmptyCollection (Catalog key) := ⟨empty⟩

/-- Whether there is no entry. -/
def isEmpty (catalog : Catalog key) : Bool :=
  catalog.toList.isEmpty

def size (catalog : Catalog key) : Nat :=
  catalog.toList.length

def find? (catalog : Catalog key) (k : String) : Option α :=
  catalog.toList.find? fun a => key a == k

/-- Whether there is an entry with a given key. -/
def contains (catalog : Catalog key) (k : String) : Bool :=
  catalog.toList.any fun a => key a == k

/-- Puts `a` in its place; an entry with the same key gives way. -/
def insertList (key : α → String) (a : α) : List α → List α
  | [] => [a]
  | b :: rest =>
    if key a < key b then a :: b :: rest
    else if key a = key b then a :: rest
    else b :: insertList key a rest

theorem mem_insertList {key : α → String} {a b : α} {xs : List α}
    (h : b ∈ insertList key a xs) : b = a ∨ b ∈ xs := by
  induction xs with
  | nil => simpa [insertList] using h
  | cons c rest ih =>
    simp only [insertList] at h
    split at h
    · simpa using h
    · split at h
      · rcases List.mem_cons.1 h with h | h
        · exact .inl h
        · exact .inr (List.mem_cons_of_mem _ h)
      · rcases List.mem_cons.1 h with h | h
        · exact .inr (h ▸ List.mem_cons_self)
        · exact (ih h).imp_right (List.mem_cons_of_mem _)

theorem sorted_insertList {a : α} {xs : List α} (h : xs.Pairwise fun a b => key a < key b) :
    (insertList key a xs).Pairwise fun a b => key a < key b := by
  induction xs with
  | nil => simp [insertList]
  | cons c rest ih =>
    obtain ⟨hc, hr⟩ := List.pairwise_cons.1 h
    simp only [insertList]
    split
    · rename_i hlt
      refine List.pairwise_cons.2 ⟨fun b hb => ?_, h⟩
      rcases List.mem_cons.1 hb with rfl | hb
      · exact hlt
      · exact String.lt_trans hlt (hc b hb)
    · split
      · rename_i heq
        exact List.pairwise_cons.2 ⟨fun b hb => heq ▸ hc b hb, hr⟩
      · rename_i hlt hne
        refine List.pairwise_cons.2 ⟨fun b hb => ?_, ih hr⟩
        rcases mem_insertList hb with rfl | hb
        · exact (Std.lt_trichotomy (key c) (key b)).elim id fun h =>
            h.elim (fun h => absurd h.symm hne) fun h => absurd h hlt
        · exact hc b hb

/-- The catalog with `a`; an entry with the same key gives way. -/
def insert (a : α) (catalog : Catalog key) : Catalog key where
  toList := insertList key a catalog.toList
  sorted := sorted_insertList catalog.sorted

def filter (p : α → Bool) (catalog : Catalog key) : Catalog key where
  toList := catalog.toList.filter p
  sorted := catalog.sorted.filter _

/-- The catalog without the entry of a key. -/
def erase (k : String) (catalog : Catalog key) : Catalog key :=
  catalog.filter fun a => key a != k

/-- The catalog of a list of entries; of two with one key the later stays. -/
def ofList (entries : List α) : Catalog key :=
  entries.foldl (fun catalog a => catalog.insert a) empty

/-- The entries of both; for a common key that of `b` stays. -/
def union (a b : Catalog key) : Catalog key :=
  b.toList.foldl (fun catalog x => catalog.insert x) a

/-- The first entry that satisfies a test, alone. -/
def firstWith (p : α → Bool) (catalog : Catalog key) : Catalog key where
  toList := (catalog.toList.find? p).toList
  sorted := by cases catalog.toList.find? p <;> simp

theorem find?_eq_of_mem {xs : List α} {a : α} (h : xs.Pairwise fun a b => key a < key b)
    (ha : a ∈ xs) : xs.find? (fun b => key b == key a) = some a := by
  induction xs with
  | nil => simp at ha
  | cons b rest ih =>
    obtain ⟨hb, hrest⟩ := List.pairwise_cons.1 h
    rcases List.mem_cons.1 ha with rfl | ha
    · simp
    · have hne : key b ≠ key a := fun e => String.lt_irrefl _ (e ▸ hb a ha)
      simpa [hne] using ih hrest ha

/-- An entry is found under its key. -/
theorem find?_of_mem {catalog : Catalog key} {a : α} (h : a ∈ catalog) :
    catalog.find? (key a) = some a :=
  find?_eq_of_mem catalog.sorted h

instance [DecidableEq α] : DecidableEq (Catalog key) := fun a b =>
  if h : a.toList = b.toList then isTrue (ext h) else isFalse fun e => h (e ▸ rfl)

end Catalog

/-- Values by name. -/
abbrev Dictionary (α : Type u) := Catalog (Prod.fst : String × α → String)

namespace Dictionary

variable {α : Type u}

def get? (dictionary : Dictionary α) (name : String) : Option α :=
  (dictionary.find? name).map Prod.snd

theorem get?_of_mem {dictionary : Dictionary α} {name : String} {value : α}
    (h : (name, value) ∈ dictionary) : dictionary.get? name = some value := by
  have hfind : dictionary.find? name = some (name, value) := Catalog.find?_of_mem h
  rw [get?, hfind]
  rfl

/-- The dictionary with a value for a name. -/
def put (dictionary : Dictionary α) (name : String) (value : α) : Dictionary α :=
  dictionary.insert (name, value)

/-- The names in order. -/
def names (dictionary : Dictionary α) : List String :=
  dictionary.toList.map Prod.fst

def mapValues {β : Type v} (f : α → β) (dictionary : Dictionary α) : Dictionary β where
  toList := dictionary.toList.map fun entry => (entry.1, f entry.2)
  sorted := List.pairwise_map.2 dictionary.sorted

end Dictionary

end FederatedAccess
