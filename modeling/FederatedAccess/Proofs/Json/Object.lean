import FederatedAccess.Json.Record
import FederatedAccess.Proofs.Catalog

/-!
# Objects as dictionaries

Reading an object puts its members in the order of the names, and the last member of a name drives
out the others. So the members of an object that was read are a dictionary (`parse?_object_iff`).
-/

namespace FederatedAccess.Json

namespace Draft

/-- The member stands for the entry. -/
def IsEntry (room : Nat) (member : Option String × Draft) (entry : String × Json) : Prop :=
  member.1 = some entry.1 ∧ member.2.value? room = some entry.2

theorem insertMember_eq_insertList (name : String) (value : Json) (found : List (String × Json)) :
    insertMember name value found = Catalog.insertList Prod.fst (name, value) found := by
  induction found with
  | nil => rfl
  | cons m rest ih => rw [insertMember, Catalog.insertList, ih]

/-- Members are entered one after the other. -/
theorem memberValues?_iff {room : Nat} {members : List (Option String × Draft)}
    {found : Dictionary Json} {result : List (String × Json)} :
    memberValues? room members found.toList = some result ↔
      ∃ entries, List.Forall₂ (IsEntry room) members entries ∧
        result = (entries.foldl (fun catalog entry => catalog.insert entry) found).toList := by
  induction members generalizing found with
  | nil =>
    rw [memberValues?]
    simp [eq_comm]
  | cons m rest ih =>
    obtain ⟨key, draft⟩ := m
    have hstep : ∀ name value, insertMember name value found.toList =
        (found.insert (name, value)).toList := fun name value =>
      insertMember_eq_insertList name value found.toList
    rw [memberValues?]
    constructor
    · intro h
      obtain ⟨name, hname, h⟩ := Option.bind_eq_some_iff.1 h
      obtain ⟨value, hvalue, h⟩ := Option.bind_eq_some_iff.1 h
      rw [hstep, ih] at h
      obtain ⟨entries, hentries, hresult⟩ := h
      exact ⟨(name, value) :: entries, .cons ⟨hname, hvalue⟩ hentries, hresult⟩
    · rintro ⟨entries, hentries, hresult⟩
      cases hentries with
      | @cons _ entry _ entries hentry hentries =>
        obtain ⟨rfl, hvalue⟩ := hentry
        refine Option.bind_eq_some_iff.2 ⟨entry.1, rfl, Option.bind_eq_some_iff.2 ⟨entry.2, hvalue, ?_⟩⟩
        rw [hstep, ih]
        exact ⟨entries, hentries, hresult⟩

/-- **Objects.** An object is a value when all its members are entries; its value is the dictionary
of these, in which the last entry of a name counts. -/
theorem value?_object_iff {room : Nat} {members : List (Option String × Draft)} {value : Json} :
    (object members).value? (room + 1) = some value ↔
      ∃ entries, List.Forall₂ (IsEntry room) members entries ∧
        value = .object (Catalog.ofList entries : Dictionary Json).toList := by
  have hempty : ∀ result, memberValues? room members [] = some result ↔
      ∃ entries, List.Forall₂ (IsEntry room) members entries ∧
        result = (Catalog.ofList entries : Dictionary Json).toList :=
    fun _ => @memberValues?_iff room members Catalog.empty _
  rw [value?, Option.map_eq_some_iff]
  constructor
  · rintro ⟨found, hfound, rfl⟩
    obtain ⟨entries, hentries, rfl⟩ := (hempty found).1 hfound
    exact ⟨entries, hentries, rfl⟩
  · rintro ⟨entries, hentries, rfl⟩
    exact ⟨_, (hempty _).2 ⟨entries, hentries, rfl⟩, rfl⟩

end Draft

/-- **Objects.** What is read as an object is a dictionary of what its members stand for. -/
theorem parse?_object_iff {input : List UInt8} {members : List (String × Json)} :
    parse? input = some (.object members) ↔
      ∃ drafts entries, Draft.read input = some (.object drafts) ∧
        List.Forall₂ (Draft.IsEntry 126) drafts entries ∧
        members = (Catalog.ofList entries : Dictionary Json).toList := by
  rw [parse?]
  constructor
  · intro h
    obtain ⟨draft, hread, hvalue⟩ := Option.bind_eq_some_iff.1 h
    cases draft with
    | object drafts =>
      obtain ⟨entries, hentries, hmembers⟩ := Draft.value?_object_iff.1 hvalue
      exact ⟨drafts, entries, hread, hentries, Json.object.inj hmembers⟩
    | array items =>
      obtain ⟨found, -, hfound⟩ := Option.map_eq_some_iff.1 hvalue
      cases hfound
    | _ => cases hvalue
  · rintro ⟨drafts, entries, hread, hentries, rfl⟩
    rw [hread]
    exact Draft.value?_object_iff.2 ⟨entries, hentries, rfl⟩

end FederatedAccess.Json
