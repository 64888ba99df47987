import FederatedAccess.Proofs.Json.Draft
import FederatedAccess.Proofs.Json.Record
import FederatedAccess.Proofs.Json.Value

/-!
# Fields of a record in transport

A record is described by its fields: under which name each is sent, in which form, and what it is
when it is left out. If a reader goes by these fields (`IsRecord`), what is sent is read back, also
when fields that hold their defaults are left out (`IsRecord.read_thinned`), and every field comes
from the member with its own name (`IsRecord.reads_named`).
-/

namespace FederatedAccess.Json.Draft

/-! ## Forms and fields -/

/-- A form in which values are sent. -/
structure Form (β : Type) where
  write : β → Json
  read? : Draft → Option β
  /-- What may be sent for a value: what is written, or what is left of it without defaults. -/
  Sends : β → Json → Prop := fun b sent => sent = write b
  sends_write : ∀ b, Sends b (write b)
  read_sent : ∀ b sent, Sends b sent → read? (ofJson sent) = some b
  integral_sent : ∀ b sent, Sends b sent → sent.isIntegral = true

/-- A field of a record. -/
structure RecordField (α : Type) where
  name : String
  {Value : Type}
  get : α → Value
  form : Form Value
  /-- The value of a field that is left out, if it may be. -/
  default? : Option Value := none

variable {α : Type} {fields : List (RecordField α)} {a : α} {members : List (String × Json)}
  {room : Nat} {read? : Draft → Option α}

/-- The field is read from a member, or from its absence. -/
def RecordField.Reads (f : RecordField α) (a : α) : Option Draft → Prop
  | none => f.default? = some (f.get a)
  | some draft => f.form.read? draft = some (f.get a)

/-- Readers ask for a member that must be there, or know what it is when it is absent. -/
theorem RecordField.reads_iff {f : RecordField α} {member : Option Draft} :
    f.Reads a member ↔
      (match f.default? with
        | none => required f.form.read? member
        | some default => defaulted default f.form.read? member) = some (f.get a) := by
  cases hdefault : f.default? with
  | none => cases member <;> simp [Reads, hdefault, required]
  | some default => cases member <;> simp [Reads, hdefault, defaulted]

/-- A record is read field by field. -/
def IsRecord (fields : List (RecordField α)) (room : Nat) (read? : Draft → Option α) : Prop :=
  ∀ draft a, read? draft = some a ↔
    ∃ found, draft.record? (fields.map RecordField.name) false room = some found ∧
      List.Forall₂ (fun f member => f.Reads a member) fields found

theorem IsRecord.of_found {build : List (Option Draft) → Option α}
    (h : ∀ found a, build found = some a ↔ List.Forall₂ (fun f member => f.Reads a member) fields
      found) :
    IsRecord fields room fun draft =>
      (draft.record? (fields.map RecordField.name) false room).bind build := by
  intro draft a
  rw [Option.bind_eq_some_iff]
  exact exists_congr fun found => and_congr_right fun _ => h found a

/-- The members of a record in which some fields that hold their defaults are left out. -/
inductive Thinned (a : α) : List (RecordField α) → List (String × Json) → Prop
  | nil : Thinned a [] []
  | keep {f fields members sent} : f.form.Sends (f.get a) sent → Thinned a fields members →
      Thinned a (f :: fields) ((f.name, sent) :: members)
  | leave {f fields members} : f.default? = some (f.get a) → Thinned a fields members →
      Thinned a (f :: fields) members

/-- All fields of a record as they are written. -/
def written (fields : List (RecordField α)) (a : α) : List (String × Json) :=
  fields.map fun f => (f.name, f.form.write (f.get a))

theorem thinned_written (fields : List (RecordField α)) (a : α) :
    Thinned a fields (written fields a) := by
  induction fields with
  | nil => exact .nil
  | cons f rest ih => exact .keep (f.form.sends_write _) ih

theorem Thinned.integral (h : Thinned a fields members) :
    (Json.object members).isIntegral = true := by
  refine Json.allIntegralMembers_iff.2 ?_
  induction h with
  | nil => exact List.forall_mem_nil _
  | keep hsent _ ih => exact List.forall_mem_cons.2 ⟨Form.integral_sent _ _ _ hsent, ih⟩
  | leave _ _ ih => exact ih

theorem Thinned.names_sublist (h : Thinned a fields members) :
    (members.map Prod.fst).Sublist (fields.map RecordField.name) := by
  induction h with
  | nil => exact .slnil
  | keep _ _ ih => exact ih.cons_cons _
  | leave _ _ ih => exact ih.cons _

/-! ## Members by name -/

/-- The member of an object with a name. -/
def member? (members : List (Option String × Draft)) (name : String) : Option Draft :=
  (members.find? fun m => m.1 == some name).map Prod.snd

theorem member?_cons_self {name : String} {value : Draft} {rest : List (Option String × Draft)} :
    member? ((some name, value) :: rest) name = some value := by
  simp [member?]

theorem member?_cons_of_ne {name other : String} {value : Draft}
    {rest : List (Option String × Draft)} (h : other ≠ name) :
    member? ((some other, value) :: rest) name = member? rest name := by
  simp [member?, h]

theorem member?_ofMembers_eq_none {name : String} (h : name ∉ members.map Prod.fst) :
    member? (ofMembers members) name = none := by
  induction members with
  | nil => rfl
  | cons m rest ih =>
    rw [List.map_cons, List.mem_cons, not_or] at h
    rw [ofMembers, member?_cons_of_ne (Ne.symm h.1), ih h.2]

/-- An object makes up a record when all its names are Unicode and no declared name comes twice. Its
members are taken by their names. -/
theorem record?_object_iff {xs : List (Option String × Draft)} {names : List String}
    {found : List (Option Draft)} :
    (object xs).record? names false room = some found ↔
      0 < room ∧ (∀ m ∈ xs, m.1 ≠ none) ∧
        (∀ name ∈ names, (xs.map Prod.fst).count (some name) ≤ 1) ∧
        names.map (member? xs) = found := by
  have hnames : ((xs.map Prod.fst).any Option.isNone = true) ↔ ¬ ∀ m ∈ xs, m.1 ≠ none := by
    simp
  have htwice : ((names.any fun name => decide (1 < (xs.map Prod.fst).count (some name))) = true) ↔
      ¬ ∀ name ∈ names, (xs.map Prod.fst).count (some name) ≤ 1 := by
    simp
  rw [record?]
  by_cases hroom : room = 0
  · rw [if_pos hroom]
    exact iff_of_false nofun fun h => absurd h.1 (by omega)
  · rw [if_neg hroom, and_iff_right (Nat.pos_of_ne_zero hroom)]
    simp only [declared?, Bool.false_and, Bool.false_eq_true, if_false, hnames, htwice]
    by_cases hall : ∀ m ∈ xs, m.1 ≠ none
    · rw [if_neg (not_not_intro hall), and_iff_right hall]
      by_cases honce : ∀ name ∈ names, (xs.map Prod.fst).count (some name) ≤ 1
      · rw [if_neg (not_not_intro honce), and_iff_right honce]
        exact Option.some_inj
      · rw [if_pos honce]
        exact iff_of_false nofun fun h => honce h.1
    · rw [if_pos hall]
      exact iff_of_false nofun fun h => hall h.1

/-- An array with no more items than the record has fields makes it up by their places. -/
theorem record?_array_iff {items : List Draft} {names : List String} {found : List (Option Draft)} :
    (array items).record? names false room = some found ↔
      0 < room ∧ items.length ≤ names.length ∧
        (List.range names.length).map (fun i => items[i]?) = found := by
  rw [record?]
  by_cases h : room = 0 ∨ names.length < items.length
  · rw [if_pos h]
    exact iff_of_false nofun fun hfits => by omega
  · rw [if_neg h, Option.some_inj]
    exact ⟨fun hfound => ⟨by omega, by omega, hfound⟩, fun hfits => hfits.2.2⟩

/-- Members with different names make up a record of any names. -/
theorem record?_ofJson {names : List String} (hroom : 0 < room)
    (hnodup : (members.map Prod.fst).Nodup) :
    (ofJson (.object members)).record? names false room =
      some (names.map (member? (ofMembers members))) := by
  have hkeys : (ofMembers members).map Prod.fst = (members.map Prod.fst).map some := by
    rw [ofMembers_eq_map, List.map_map, List.map_map]
    rfl
  have hsome : ((members.map Prod.fst).map some).any Option.isNone = false := by
    simp
  have honce : (names.any fun name =>
      decide (1 < ((members.map Prod.fst).map some).count (some name))) = false := by
    refine Bool.eq_false_iff.2 fun h => ?_
    obtain ⟨name, -, hcount⟩ := List.any_eq_true.1 h
    have hle := List.nodup_iff_count_le_one.1 (hnodup.map (Option.some_injective _)) (some name)
    exact absurd (of_decide_eq_true hcount) (Nat.not_lt.2 hle)
  rw [ofJson, record?, if_neg (Nat.ne_of_gt hroom)]
  simp only [declared?, hkeys, hsome, honce, Bool.false_and, Bool.false_eq_true, if_false]
  rfl

/-! ## There and back -/

/-- **Fields.** Whatever is left out, each field is read from what was sent. -/
theorem Thinned.reads (h : Thinned a fields members)
    (hnames : (fields.map RecordField.name).Nodup) :
    ∀ f ∈ fields, f.Reads a (member? (ofMembers members) f.name) := by
  induction h with
  | nil => exact List.forall_mem_nil _
  | @keep f fields members sent hsent hrest ih =>
    obtain ⟨hfresh, hnames⟩ := List.nodup_cons.1 hnames
    refine List.forall_mem_cons.2 ⟨?_, fun g hg => ?_⟩
    · rw [ofMembers, member?_cons_self]
      exact f.form.read_sent _ _ hsent
    · have hother : f.name ≠ g.name := fun e => hfresh (e ▸ List.mem_map_of_mem hg)
      rw [ofMembers, member?_cons_of_ne hother]
      exact ih hnames g hg
  | @leave f fields members hdefault hrest ih =>
    obtain ⟨hfresh, hnames⟩ := List.nodup_cons.1 hnames
    refine List.forall_mem_cons.2 ⟨?_, ih hnames⟩
    -- no other field has the name, so nothing stands under it
    rw [member?_ofMembers_eq_none fun hmem => hfresh (hrest.names_sublist.subset hmem)]
    exact hdefault

/-- **There and back.** What is sent is read, with or without the fields that hold their
defaults. -/
theorem IsRecord.read_thinned (record : IsRecord fields room read?)
    (hnames : (fields.map RecordField.name).Nodup) (hroom : 0 < room)
    (h : Thinned a fields members) :
    read? (ofJson (.object members)) = some a := by
  refine (record _ a).2 ⟨_, record?_ofJson hroom (hnames.sublist h.names_sublist), ?_⟩
  rw [List.map_map, List.forall₂_map_right_iff, List.forall₂_same]
  exact h.reads hnames

/-- **Names.** Each field of what is read from an object comes from the member with its name. -/
theorem IsRecord.reads_named (record : IsRecord fields room read?)
    {xs : List (Option String × Draft)} (h : read? (object xs) = some a) :
    ∀ f ∈ fields, f.Reads a (member? xs f.name) := by
  obtain ⟨found, hfound, hfields⟩ := (record _ a).1 h
  rw [← (record?_object_iff.1 hfound).2.2.2, List.map_map, List.forall₂_map_right_iff, List.forall₂_same] at hfields
  exact hfields

/-- **Places.** From an array, each field comes from its own place. -/
theorem IsRecord.reads_placed (record : IsRecord fields room read?) {xs : List Draft}
    (h : read? (array xs) = some a) :
    ∀ (i : Nat) (f : RecordField α), fields[i]? = some f → f.Reads a xs[i]? := by
  obtain ⟨found, hfound, hfields⟩ := (record _ a).1 h
  obtain ⟨-, -, rfl⟩ := record?_array_iff.1 hfound
  intro i f hf
  obtain ⟨hi, rfl⟩ := List.getElem?_eq_some_iff.1 hf
  have hplace := hfields.get hi (by simpa using hi)
  simpa using hplace

/-! ## Records in transport -/

/-- Values go through a JSON text, in which they are described by their fields. -/
structure Travels (fields : List (RecordField α)) (toJson : α → Json) (read? : Draft → Option α) :
    Prop where
  /-- The fields make up a value. -/
  ext : ∀ a b : α, (∀ f ∈ fields, f.get a = f.get b) → a = b
  /-- Each field is written under its name. -/
  toJson_eq : ∀ a, toJson a = .object (written fields a)
  /-- What is written is read back. -/
  read_written : ∀ a, (readText (toJson a).text).bind read? = some a
  /-- So is what is left when fields that hold their defaults are left out. -/
  read_thinned : ∀ a members, Thinned a fields members →
    (readText (Json.object members).text).bind read? = some a
  /-- No field is read from the member of another. -/
  reads_named : ∀ xs a, read? (object xs) = some a →
    ∀ f ∈ fields, f.Reads a (member? xs f.name)
  /-- Nor from the place of another. -/
  reads_placed : ∀ xs a, read? (array xs) = some a →
    ∀ (i : Nat) (f : RecordField α), fields[i]? = some f → f.Reads a xs[i]?

theorem IsRecord.travels {toJson : α → Json} (record : IsRecord fields room read?)
    (hnames : (fields.map RecordField.name).Nodup) (hroom : 0 < room)
    (ext : ∀ a b : α, (∀ f ∈ fields, f.get a = f.get b) → a = b)
    (toJson_eq : ∀ a, toJson a = .object (written fields a)) : Travels fields toJson read? := by
  have hthinned : ∀ a members, Thinned a fields members →
      (readText (Json.object members).text).bind read? = some a := by
    intro a members h
    rw [readText, read_text h.integral, Option.bind_some, record.read_thinned hnames hroom h]
  refine ⟨ext, toJson_eq, fun a => ?_, hthinned, fun _ _ => record.reads_named,
    fun _ _ => record.reads_placed⟩
  rw [toJson_eq]
  exact hthinned a _ (thinned_written fields a)

end FederatedAccess.Json.Draft
