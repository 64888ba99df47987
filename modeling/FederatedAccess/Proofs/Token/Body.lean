import FederatedAccess.Proofs.Catalog
import FederatedAccess.Proofs.Json.Number
import FederatedAccess.Proofs.Results
import FederatedAccess.Token.Claims

/-!
# The body of a token and its claims

Claims are written as one object and sorted out again when the object is read. Nothing is lost on
the way as long as the other members of the claims keep to names of their own (`KeepsNames`): not
those of registered claims, and none that start like an attribute's (`ofBody_toBody`).
-/

namespace FederatedAccess

/-! ## The reserved start of a name -/

/-- What is left of a name is what the start was put in front of. -/
theorem withoutPrefix?_eq_some_iff {name rest : String} :
    withoutPrefix? name = some rest ↔ name = attributePrefix ++ rest := by
  unfold withoutPrefix?
  constructor
  · intro h
    split at h
    · rename_i hstart
      obtain ⟨chars, hchars⟩ := List.isPrefixOf_iff_prefix.1 hstart
      rw [← hchars, List.drop_left] at h
      rw [← Option.some.inj h]
      apply String.toList_inj.1
      rw [← hchars, String.toList_append, String.toList_ofList]
    · cases h
  · rintro rfl
    rw [String.toList_append, if_pos (List.isPrefixOf_iff_prefix.2 (List.prefix_append _ _)),
      List.drop_left, String.ofList_toList]

theorem withoutPrefix?_append (name : String) :
    withoutPrefix? (attributePrefix ++ name) = some name :=
  withoutPrefix?_eq_some_iff.2 rfl

theorem append_attributePrefix_injective {a b : String}
    (h : attributePrefix ++ a = attributePrefix ++ b) : a = b := by
  have hb := withoutPrefix?_append b
  rw [← h, withoutPrefix?_append] at hb
  exact Option.some.inj hb

namespace Claims

variable {claims : Claims} {members : List (String × Json)}

/-! ## Sorting out -/

/-- The attribute that a member is, if it is one. -/
def attributeOf? (member : String × Json) : Option (String × String) :=
  match withoutPrefix? member.1, member.2 with
  | some name, .string value => some (name, value)
  | _, _ => none

theorem attributeOf?_eq_some_iff {member : String × Json} {name value : String} :
    attributeOf? member = some (name, value) ↔ member = (attributePrefix ++ name, .string value) := by
  obtain ⟨k, j⟩ := member
  rw [Prod.mk.injEq, ← withoutPrefix?_eq_some_iff]
  unfold attributeOf?
  cases withoutPrefix? k <;> cases j <;> simp

def place (found : Dictionary String × Dictionary Json) (member : String × Json) :
    Except MalformedToken (Dictionary String × Dictionary Json) :=
  match withoutPrefix? member.1 with
  | none => .ok (found.1, found.2.put member.1 member.2)
  | some name =>
    match member.2 with
    | .string value => .ok (found.1.put name value, found.2)
    | _ => .error (.invalidClaim member.1 "attribute values must be strings")

theorem split_eq_foldlM : split members = members.foldlM place (Catalog.empty, Catalog.empty) :=
  rfl

/-- Members of which no attribute has another value than a text are placed one by one. -/
theorem foldlM_place (hstrings : ∀ m ∈ members, withoutPrefix? m.1 = none ∨ ∃ s, m.2 = .string s)
    (found : Dictionary String × Dictionary Json) :
    members.foldlM place found =
      .ok ((members.filterMap attributeOf?).foldl (fun catalog a => catalog.insert a) found.1,
        (members.filter fun m => (withoutPrefix? m.1).isNone).foldl
          (fun catalog a => catalog.insert a) found.2) := by
  induction members generalizing found with
  | nil => rfl
  | cons m rest ih =>
    obtain ⟨hm, hrest⟩ := List.forall_mem_cons.1 hstrings
    rw [List.foldlM_cons]
    cases hname : withoutPrefix? m.1 with
    | none =>
      have hattribute : attributeOf? m = none := by simp [attributeOf?, hname]
      have hplace : place found m = .ok (found.1, found.2.put m.1 m.2) := by simp [place, hname]
      rw [hplace, List.filterMap_cons, hattribute, List.filter_cons, hname]
      exact ih hrest _
    | some name =>
      obtain ⟨s, hs⟩ : ∃ s, m.2 = .string s := hm.resolve_left (by simp [hname])
      have hattribute : attributeOf? m = some (name, s) := by simp [attributeOf?, hname, hs]
      have hplace : place found m = .ok (found.1.put name s, found.2) := by simp [place, hname, hs]
      rw [hplace, List.filterMap_cons, hattribute, List.filter_cons, hname]
      exact ih hrest _

theorem nodup_attributeNames (body : Dictionary Json) :
    ((body.toList.filterMap attributeOf?).map Prod.fst).Nodup := by
  refine List.pairwise_map.2 (body.sorted.filterMap _ ?_)
  rintro a a' hlt ⟨name, value⟩ h ⟨name', value'⟩ h' rfl
  rw [attributeOf?_eq_some_iff.1 h, attributeOf?_eq_some_iff.1 h'] at hlt
  exact String.lt_irrefl _ hlt

theorem mem_attributesOf {body : Dictionary Json} {name value : String} :
    (name, value) ∈ (Catalog.ofList (body.toList.filterMap attributeOf?) : Dictionary String) ↔
      (attributePrefix ++ name, Json.string value) ∈ body := by
  rw [Catalog.mem_ofList_of_nodup (nodup_attributeNames body), List.mem_filterMap]
  constructor
  · rintro ⟨m, hm, h⟩
    rw [attributeOf?_eq_some_iff] at h
    exact h ▸ hm
  · exact fun h => ⟨_, h, attributeOf?_eq_some_iff.2 rfl⟩

theorem mem_othersOf {body : Dictionary Json} {m : String × Json} :
    m ∈ (Catalog.ofList (body.toList.filter fun m => (withoutPrefix? m.1).isNone) :
        Dictionary Json) ↔ m ∈ body ∧ withoutPrefix? m.1 = none := by
  have hnames : ((body.toList.filter fun m => (withoutPrefix? m.1).isNone).map Prod.fst).Nodup :=
    (List.filter_sublist.map _).nodup body.nodup_keys
  rw [Catalog.mem_ofList_of_nodup hnames, List.mem_filter, Option.isNone_iff_eq_none]
  rfl

/-- **Sorting out.** Attributes and other members of a body are those that it has under prefixed and
under other names. -/
theorem split_eq_ok {body : Dictionary Json} {attributes : Dictionary String}
    {others : Dictionary Json}
    (hstrings : ∀ m ∈ body, withoutPrefix? m.1 = none ∨ ∃ s, m.2 = .string s)
    (hattributes : ∀ name value, (name, value) ∈ attributes ↔
      (attributePrefix ++ name, Json.string value) ∈ body)
    (hothers : ∀ m, m ∈ others ↔ m ∈ body ∧ withoutPrefix? m.1 = none) :
    split body.toList = .ok (attributes, others) := by
  have hfirst : (Catalog.ofList (body.toList.filterMap attributeOf?) : Dictionary String) =
      attributes := Catalog.ext_mem fun entry =>
    mem_attributesOf.trans (hattributes entry.1 entry.2).symm
  have hsecond : (Catalog.ofList (body.toList.filter fun m => (withoutPrefix? m.1).isNone) :
      Dictionary Json) = others := Catalog.ext_mem fun m => mem_othersOf.trans (hothers m).symm
  rw [split_eq_foldlM, foldlM_place hstrings, ← hfirst, ← hsecond]
  rfl

/-! ## The written body -/

/-- The other members of the claims have names of their own. -/
def KeepsNames (claims : Claims) : Prop :=
  ∀ m ∈ claims.extra, m.1 ∉ registered ∧ withoutPrefix? m.1 = none

/-- The body without attributes. -/
def registeredBody (claims : Claims) : Dictionary Json :=
  let body := claims.extra.put "iss" (.string claims.issuer)
  let body := body.put "sub" (.string claims.subject)
  let body := body.put "exp" (.integer (.ofInt64 claims.expiration))
  let body := putSome body "iat" (claims.issuedAt.map fun s => .integer (.ofInt64 s))
  let body := putSome body "jti" (claims.tokenId.map .string)
  let body := body.put "ipk" (.string claims.issuerKey)
  let body := putSome body "spk" (claims.subjectKey.map .string)
  body.put "ttyp" (.string claims.tokenType.name)

theorem get?_putSome {body : Dictionary Json} {name other : String} {value : Option Json} :
    (putSome body name value).get? other =
      if other = name then value.or (body.get? other) else body.get? other := by
  cases value with
  | none => simp [putSome]
  | some v => simp [putSome, Dictionary.get?_put]

theorem registeredBody_get?_other {name : String} (h : name ∉ registered) :
    claims.registeredBody.get? name = claims.extra.get? name := by
  simp only [registered, List.mem_cons, List.not_mem_nil, or_false, not_or] at h
  simp [registeredBody, get?_putSome, Dictionary.get?_put, h]

/-- No registered claim has a name that starts like an attribute's. -/
theorem withoutPrefix?_registered : ∀ name ∈ registered, withoutPrefix? name = none := by
  decide

theorem not_contains_registered_iff {name : String} :
    (!registered.contains name) = true ↔ name ∉ registered := by
  simp

section Names

variable (keeps : claims.KeepsNames)

include keeps

theorem extra_get?_registered {name : String} (h : name ∈ registered) :
    claims.extra.get? name = none := by
  refine Option.eq_none_iff_forall_ne_some.2 fun value hvalue => ?_
  exact (keeps _ (Dictionary.get?_eq_some_iff.1 hvalue)).1 h

/-- What the body has under the names of registered claims. -/
theorem registeredBody_get? :
    claims.registeredBody.get? "iss" = some (.string claims.issuer) ∧
    claims.registeredBody.get? "sub" = some (.string claims.subject) ∧
    claims.registeredBody.get? "exp" = some (.integer (.ofInt64 claims.expiration)) ∧
    claims.registeredBody.get? "iat" = claims.issuedAt.map (fun s => .integer (.ofInt64 s)) ∧
    claims.registeredBody.get? "jti" = claims.tokenId.map .string ∧
    claims.registeredBody.get? "ipk" = some (.string claims.issuerKey) ∧
    claims.registeredBody.get? "spk" = claims.subjectKey.map .string ∧
    claims.registeredBody.get? "ttyp" = some (.string claims.tokenType.name) := by
  have hissued : claims.extra.get? "iat" = none := extra_get?_registered keeps (by decide)
  have htokenId : claims.extra.get? "jti" = none := extra_get?_registered keeps (by decide)
  have hsubjectKey : claims.extra.get? "spk" = none := extra_get?_registered keeps (by decide)
  simp [registeredBody, get?_putSome, Dictionary.get?_put, hissued, htokenId, hsubjectKey]

theorem mem_registeredBody_unprefixed {m : String × Json} (h : m ∈ claims.registeredBody) :
    withoutPrefix? m.1 = none := by
  obtain ⟨name, value⟩ := m
  by_cases hname : name ∈ registered
  · exact withoutPrefix?_registered name hname
  · rw [← Dictionary.get?_eq_some_iff, registeredBody_get?_other hname,
      Dictionary.get?_eq_some_iff] at h
    exact (keeps _ h).2

/-- A registered claim is written as a text or as an integer. -/
theorem mem_registeredBody_value {m : String × Json} (h : m ∈ claims.registeredBody) :
    m ∈ claims.extra ∨ (∃ s, m.2 = .string s) ∨ ∃ i, m.2 = .integer i := by
  obtain ⟨name, value⟩ := m
  rw [← Dictionary.get?_eq_some_iff] at h
  by_cases hname : name ∈ registered
  · obtain ⟨hissuer, hsubject, hexpiration, hissued, htokenId, hissuerKey, hsubjectKey, htype⟩ :=
      registeredBody_get? keeps
    right
    simp only [registered, List.mem_cons, List.not_mem_nil, or_false] at hname
    rcases hname with rfl | rfl | rfl | rfl | rfl | rfl | rfl | rfl
    · exact Or.inl ⟨_, Option.some.inj (h.symm.trans hissuer)⟩
    · exact Or.inl ⟨_, Option.some.inj (h.symm.trans hsubject)⟩
    · exact Or.inr ⟨_, Option.some.inj (h.symm.trans hexpiration)⟩
    · obtain ⟨s, -, hs⟩ := Option.map_eq_some_iff.1 (hissued.symm.trans h)
      exact Or.inr ⟨_, hs.symm⟩
    · obtain ⟨s, -, hs⟩ := Option.map_eq_some_iff.1 (htokenId.symm.trans h)
      exact Or.inl ⟨_, hs.symm⟩
    · exact Or.inl ⟨_, Option.some.inj (h.symm.trans hissuerKey)⟩
    · obtain ⟨s, -, hs⟩ := Option.map_eq_some_iff.1 (hsubjectKey.symm.trans h)
      exact Or.inl ⟨_, hs.symm⟩
    · exact Or.inl ⟨_, Option.some.inj (h.symm.trans htype)⟩
  · rw [registeredBody_get?_other hname, Dictionary.get?_eq_some_iff] at h
    exact Or.inl h

/-- **The body.** It holds the registered claims and the other members, and the attributes under
prefixed names. -/
theorem mem_toBody {m : String × Json} :
    m ∈ claims.toBody ↔ m ∈ claims.registeredBody ∨
      ∃ name value, (name, value) ∈ claims.attributes ∧
        m = (attributePrefix ++ name, .string value) := by
  have hbody : claims.toBody = (claims.attributes.toList.map fun entry =>
      (attributePrefix ++ entry.1, Json.string entry.2)).foldl
        (fun catalog a => catalog.insert a) claims.registeredBody := by
    rw [List.foldl_map]
    rfl
  have hnodup : ((claims.attributes.toList.map fun entry =>
      (attributePrefix ++ entry.1, Json.string entry.2)).map Prod.fst).Nodup := by
    rw [List.map_map]
    refine List.pairwise_map.2 (claims.attributes.sorted.imp fun hlt he => ?_)
    exact String.lt_irrefl _ (append_attributePrefix_injective he ▸ hlt)
  have hfresh : ∀ c ∈ claims.registeredBody, c.1 ∉ (claims.attributes.toList.map fun entry =>
      (attributePrefix ++ entry.1, Json.string entry.2)).map Prod.fst := by
    intro c hc hmem
    rw [List.map_map] at hmem
    obtain ⟨entry, -, hentry⟩ := List.mem_map.1 hmem
    have hplain := mem_registeredBody_unprefixed keeps hc
    rw [← hentry, Function.comp, withoutPrefix?_append] at hplain
    cases hplain
  rw [hbody, Catalog.mem_foldl_insert hnodup hfresh, List.mem_map]
  refine or_congr_right ⟨?_, ?_⟩
  · rintro ⟨⟨name, value⟩, hmem, rfl⟩
    exact ⟨name, value, hmem, rfl⟩
  · rintro ⟨name, value, hmem, rfl⟩
    exact ⟨(name, value), hmem, rfl⟩

/-- What holds of texts, of integers and of the other members holds of all values in the body. -/
theorem forall_mem_toBody {p : Json → Prop} (hstring : ∀ s, p (.string s))
    (hinteger : ∀ i, p (.integer i)) (hextra : ∀ m ∈ claims.extra, p m.2) :
    ∀ m ∈ claims.toBody, p m.2 := by
  intro m hm
  rcases (mem_toBody keeps).1 hm with hm | ⟨name, value, -, rfl⟩
  · rcases mem_registeredBody_value keeps hm with hm | ⟨s, hs⟩ | ⟨i, hi⟩
    · exact hextra m hm
    · exact hs ▸ hstring s
    · exact hi ▸ hinteger i
  · exact hstring value

theorem split_toBody : split claims.toBody.toList = .ok (claims.attributes, claims.registeredBody) := by
  refine split_eq_ok (fun m hm => ?_) (fun name value => ?_) fun m => ?_
  · rcases (mem_toBody keeps).1 hm with hm | ⟨name, value, -, rfl⟩
    · exact Or.inl (mem_registeredBody_unprefixed keeps hm)
    · exact Or.inr ⟨value, rfl⟩
  · rw [mem_toBody keeps]
    constructor
    · exact fun h => Or.inr ⟨name, value, h, rfl⟩
    · rintro (h | ⟨name', value', h, he⟩)
      · have hplain := mem_registeredBody_unprefixed keeps h
        rw [withoutPrefix?_append] at hplain
        cases hplain
      · obtain ⟨hname, hvalue⟩ := Prod.mk.inj he
        rwa [append_attributePrefix_injective hname, Json.string.inj hvalue]
  · rw [mem_toBody keeps]
    constructor
    · exact fun h => ⟨Or.inl h, mem_registeredBody_unprefixed keeps h⟩
    · rintro ⟨h | ⟨name, value, -, rfl⟩, hplain⟩
      · exact h
      · rw [withoutPrefix?_append] at hplain
        cases hplain

/-- What is left of the body without the registered claims. -/
theorem filter_registeredBody :
    claims.registeredBody.filter (fun entry => !registered.contains entry.1) = claims.extra := by
  refine Catalog.ext_mem fun entry => ?_
  obtain ⟨name, value⟩ := entry
  rw [Catalog.mem_filter, not_contains_registered_iff, ← Dictionary.get?_eq_some_iff, ← Dictionary.get?_eq_some_iff]
  constructor
  · rintro ⟨h, hname⟩
    rwa [registeredBody_get?_other hname] at h
  · intro h
    have hname := (keeps _ (Dictionary.get?_eq_some_iff.1 h)).1
    exact ⟨(registeredBody_get?_other hname).trans h, hname⟩

end Names

/-! ## Single claims -/

theorem text?_of_get? {others : Dictionary Json} {claim : String} (value : Option String)
    (h : others.get? claim = value.map .string) : text? others claim = .ok value := by
  unfold text?
  rw [h]
  cases value <;> rfl

theorem seconds?_of_get? {others : Dictionary Json} {claim : String} (value : Option Int64)
    (h : others.get? claim = value.map fun s => .integer (.ofInt64 s)) :
    seconds? others claim = .ok value := by
  unfold seconds?
  rw [h]
  cases value with
  | none => rfl
  | some s => simp [Json.Integer.int64?_ofInt64]

theorem ofClaim_name (t : TokenType) : TokenType.ofClaim t.name = .ok t := by
  cases t <;> rfl

/-- **Bodies read back.** The claims of a written body are those that were written. -/
theorem ofBody_toBody (keeps : claims.KeepsNames) : ofBody claims.toBody.toList = .ok claims := by
  obtain ⟨hissuer, hsubject, hexpiration, hissued, htokenId, hissuerKey, hsubjectKey, htype⟩ :=
    registeredBody_get? keeps
  rw [ofBody, split_toBody keeps]
  simp only [bind, Except.bind, pure, Except.pure, present,
    text?_of_get? (some claims.issuer) hissuer,
    text?_of_get? (some claims.subject) hsubject,
    seconds?_of_get? (some claims.expiration) hexpiration,
    text?_of_get? (some claims.issuerKey) hissuerKey,
    text?_of_get? (some claims.tokenType.name) htype, ofClaim_name,
    seconds?_of_get? _ hissued, text?_of_get? _ htokenId, text?_of_get? _ hsubjectKey,
    filter_registeredBody keeps]

end Claims

end FederatedAccess
