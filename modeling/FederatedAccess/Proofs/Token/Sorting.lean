import FederatedAccess.Proofs.Token.Body

/-!
# The claims of any body

A body need not have been written from claims. Whatever object it is, it is sorted into the claims
that it tells (`ofBody_ok_iff`), and it tells claims exactly when every registered name that must be
there has a value of its kind and every attribute is a text (`exists_sortedFrom_iff`).
-/

namespace FederatedAccess

theorem TokenType.ofClaim_ok_iff {text : String} {t : TokenType} :
    ofClaim text = .ok t ↔ text = t.name := by
  constructor
  · intro h
    unfold ofClaim ofName? at h
    split at h
    · rename_i found hfound
      cases h
      have hname : t.name = text := by simpa using List.find?_some hfound
      exact hname.symm
    · cases h
  · rintro rfl
    exact Claims.ofClaim_name t

namespace Claims

variable {body others : Dictionary Json} {claims : Claims} {claim : String}

/-! ## Single claims -/

/-- The whole seconds that a value stands for: it is an integer, or a text that writes one. -/
inductive Denotes : Json → Int64 → Prop
  | integer {i : Json.Integer} {t : Int64} : i.val = t.toInt → Denotes (.integer i) t
  | text {s : String} {t : Int64} : Numeral.Writes s.toList t.toInt → Denotes (.string s) t

def IsText (value : Json) (s : String) : Prop :=
  value = .string s

/-- What is found under a name tells `a`; to tell nothing, it is absent or `null`. -/
def Tells {α : Type} (meaning : Json → α → Prop) (found : Option Json) : Option α → Prop
  | some a => ∃ value, found = some value ∧ meaning value a
  | none => found = none ∨ found = some .null

theorem text?_ok_iff {value : Option String} :
    text? others claim = .ok value ↔ Tells IsText (others.get? claim) value := by
  unfold text?
  cases others.get? claim with
  | none => cases value <;> simp [Tells]
  | some found => cases found <;> cases value <;> simp [Tells, IsText]

def denoted? : Json → Option Int64
  | .integer i => i.int64?
  | .string s => Numeral.int64? s.toList
  | _ => none

theorem denotes_iff {value : Json} {t : Int64} : Denotes value t ↔ denoted? value = some t := by
  constructor
  · rintro (h | h)
    · exact Json.Integer.int64?_eq_some_iff.2 h
    · exact Numeral.int64?_eq_some_iff.2 h
  · intro h
    cases value with
    | integer i => exact .integer (Json.Integer.int64?_eq_some_iff.1 h)
    | string s => exact .text (Numeral.int64?_eq_some_iff.1 h)
    | _ => cases h

theorem seconds?_ok_iff {value : Option Int64} :
    seconds? others claim = .ok value ↔ Tells Denotes (others.get? claim) value := by
  unfold seconds?
  cases others.get? claim with
  | none => cases value <;> simp [Tells]
  | some found =>
    cases found with
    | integer i =>
      cases hread : i.int64? <;> cases value <;> simp [Tells, denotes_iff, denoted?, hread]
    | string s =>
      cases hread : Numeral.int64? s.toList <;> cases value <;>
        simp [Tells, denotes_iff, denoted?, hread]
    | _ => cases value <;> simp [Tells, denotes_iff, denoted?]

theorem present_ok_iff {α : Type} {found : Option α} {a : α} :
    present claim found = .ok a ↔ found = some a := by
  cases found <;> simp [present]

/-! ## Sorting out any members -/

theorem strings_of_foldlM_place {members : List (String × Json)}
    {found result : Dictionary String × Dictionary Json}
    (h : members.foldlM place found = .ok result) :
    ∀ m ∈ members, withoutPrefix? m.1 = none ∨ ∃ s, m.2 = .string s := by
  induction members generalizing found with
  | nil => exact List.forall_mem_nil _
  | cons m rest ih =>
    rw [List.foldlM_cons, except_bind_ok_iff] at h
    obtain ⟨next, hplace, hrest⟩ := h
    refine List.forall_mem_cons.2 ⟨?_, ih hrest⟩
    unfold place at hplace
    split at hplace
    · rename_i hname
      exact Or.inl hname
    · split at hplace
      · rename_i value hvalue
        exact Or.inr ⟨value, hvalue⟩
      · cases hplace

/-- **Sorting out.** A body is taken apart exactly when every member under a prefixed name is a text,
and then these members are the attributes. -/
theorem split_ok_iff {attributes : Dictionary String} :
    split body.toList = .ok (attributes, others) ↔
      (∀ m ∈ body, withoutPrefix? m.1 = none ∨ ∃ s, m.2 = .string s) ∧
      (∀ name value, (name, value) ∈ attributes ↔
        (attributePrefix ++ name, Json.string value) ∈ body) ∧
      ∀ m, m ∈ others ↔ m ∈ body ∧ withoutPrefix? m.1 = none := by
  constructor
  · intro h
    have hstrings := strings_of_foldlM_place (split_eq_foldlM.symm.trans h)
    have hfound := split_eq_ok hstrings (fun _ _ => mem_attributesOf) fun _ => mem_othersOf
    rw [h] at hfound
    obtain ⟨rfl, rfl⟩ := Prod.mk.inj (Except.ok.inj hfound)
    exact ⟨hstrings, fun _ _ => mem_attributesOf, fun _ => mem_othersOf⟩
  · rintro ⟨hstrings, hattributes, hothers⟩
    exact split_eq_ok hstrings hattributes hothers

/-! ## Whole bodies -/

/-- The claims are what the body tells. -/
structure SortedFrom (body : Dictionary Json) (claims : Claims) : Prop where
  issuer : body.get? "iss" = some (.string claims.issuer)
  subject : body.get? "sub" = some (.string claims.subject)
  expiration : Tells Denotes (body.get? "exp") (some claims.expiration)
  issuedAt : Tells Denotes (body.get? "iat") claims.issuedAt
  tokenId : Tells IsText (body.get? "jti") claims.tokenId
  issuerKey : body.get? "ipk" = some (.string claims.issuerKey)
  subjectKey : Tells IsText (body.get? "spk") claims.subjectKey
  tokenType : body.get? "ttyp" = some (.string claims.tokenType.name)
  /-- Under prefixed names stand texts only, and these are the attributes. -/
  texts : ∀ name value, (attributePrefix ++ name, value) ∈ body → ∃ s, value = .string s
  attributes : ∀ name s, (name, s) ∈ claims.attributes ↔
    (attributePrefix ++ name, Json.string s) ∈ body
  /-- All that has neither a registered name nor a prefixed one is kept as it is. -/
  extra : ∀ name value, (name, value) ∈ claims.extra ↔
    (name, value) ∈ body ∧ name ∉ registered ∧ ∀ rest, name ≠ attributePrefix ++ rest

theorem withoutPrefix?_eq_none_iff {name : String} :
    withoutPrefix? name = none ↔ ∀ rest, name ≠ attributePrefix ++ rest := by
  rw [Option.eq_none_iff_forall_ne_some]
  exact forall_congr' fun rest => not_congr withoutPrefix?_eq_some_iff

theorem texts_iff :
    (∀ m ∈ body, withoutPrefix? m.1 = none ∨ ∃ s, m.2 = .string s) ↔
      ∀ name value, (attributePrefix ++ name, value) ∈ body → ∃ s, value = .string s := by
  constructor
  · intro h name value hmem
    refine (h _ hmem).resolve_left ?_
    rw [withoutPrefix?_append]
    exact Option.some_ne_none name
  · rintro h ⟨name, value⟩ hmem
    cases hname : withoutPrefix? name with
    | none => exact Or.inl rfl
    | some rest =>
      obtain rfl := withoutPrefix?_eq_some_iff.1 hname
      exact Or.inr (h rest value hmem)

/-- Registered claims are found among the members without prefix. -/
theorem get?_others (hothers : ∀ m, m ∈ others ↔ m ∈ body ∧ withoutPrefix? m.1 = none)
    {name : String} (hname : name ∈ registered) : others.get? name = body.get? name := by
  refine Option.ext fun value => ?_
  rw [Dictionary.get?_eq_some_iff, Dictionary.get?_eq_some_iff, hothers]
  exact and_iff_left (withoutPrefix?_registered name hname)

theorem tells_text_some_iff {found : Option Json} {s : String} :
    Tells IsText found (some s) ↔ found = some (.string s) := by
  simp [Tells, IsText]

theorem mem_filter_others (hothers : ∀ m, m ∈ others ↔ m ∈ body ∧ withoutPrefix? m.1 = none)
    {name : String} {value : Json} :
    (name, value) ∈ others.filter (fun entry => !registered.contains entry.1) ↔
      (name, value) ∈ body ∧ name ∉ registered ∧ ∀ rest, name ≠ attributePrefix ++ rest := by
  rw [Catalog.mem_filter, hothers, not_contains_registered_iff, withoutPrefix?_eq_none_iff,
    and_assoc, and_comm (a := name ∉ registered)]

/-- **Bodies.** A body is sorted into the claims that it tells, and into no others. -/
theorem ofBody_ok_iff : ofBody body.toList = .ok claims ↔ SortedFrom body claims := by
  -- the steps one by one, each by what it makes of the members that are no attributes
  simp only [ofBody, except_bind_ok_iff, text?_ok_iff, seconds?_ok_iff, present_ok_iff,
    TokenType.ofClaim_ok_iff, except_pure_ok_iff, Prod.exists, split_ok_iff]
  constructor
  · rintro ⟨attributes, others, ⟨htexts, hattributes, hothers⟩, _, hissuer, issuer, rfl, _, hsubject,
      subject, rfl, _, hexpiration, expiration, rfl, _, hissuerKey, issuerKey, rfl, _, htype, _, rfl,
      tokenType, rfl, issuedAt, hissued, tokenId, htokenId, subjectKey, hsubjectKey, rfl⟩
    have hget : ∀ name ∈ registered, others.get? name = body.get? name := fun _ => get?_others hothers
    rw [hget _ (by decide)] at hissuer hsubject hexpiration hissuerKey htype
    rw [hget _ (by decide)] at hissued htokenId hsubjectKey
    exact {
      issuer := tells_text_some_iff.1 hissuer
      subject := tells_text_some_iff.1 hsubject
      expiration := hexpiration
      issuedAt := hissued
      tokenId := htokenId
      issuerKey := tells_text_some_iff.1 hissuerKey
      subjectKey := hsubjectKey
      tokenType := tells_text_some_iff.1 htype
      texts := texts_iff.1 htexts
      attributes := hattributes
      extra := fun name value => mem_filter_others hothers }
  · intro h
    let others : Dictionary Json :=
      Catalog.ofList (body.toList.filter fun m => (withoutPrefix? m.1).isNone)
    have hothers : ∀ m, m ∈ others ↔ m ∈ body ∧ withoutPrefix? m.1 = none := fun _ => mem_othersOf
    have hget : ∀ name ∈ registered, others.get? name = body.get? name := fun _ => get?_others hothers
    have hextra : others.filter (fun entry => !registered.contains entry.1) = claims.extra :=
      Catalog.ext_mem fun entry =>
        (mem_filter_others hothers).trans (h.extra entry.1 entry.2).symm
    refine ⟨claims.attributes, others, ⟨texts_iff.2 h.texts, h.attributes, hothers⟩,
      _, ?_, claims.issuer, rfl, _, ?_, claims.subject, rfl, _, ?_, claims.expiration, rfl,
      _, ?_, claims.issuerKey, rfl, _, ?_, _, rfl, claims.tokenType, rfl,
      claims.issuedAt, ?_, claims.tokenId, ?_, claims.subjectKey, ?_, ?_⟩
    · rw [hget "iss" (by decide), tells_text_some_iff, h.issuer]
    · rw [hget "sub" (by decide), tells_text_some_iff, h.subject]
    · rw [hget "exp" (by decide)]
      exact h.expiration
    · rw [hget "ipk" (by decide), tells_text_some_iff, h.issuerKey]
    · rw [hget "ttyp" (by decide), tells_text_some_iff, h.tokenType]
    · rw [hget "iat" (by decide)]
      exact h.issuedAt
    · rw [hget "jti" (by decide)]
      exact h.tokenId
    · rw [hget "spk" (by decide)]
      exact h.subjectKey
    · rw [hextra]

/-! ## Which bodies tell claims -/

/-- All registered claims that a token must have are there, each in its form; those that may be
absent have their form or are `null`; and attributes are texts. -/
structure WellFormed (body : Dictionary Json) : Prop where
  issuer : ∃ s, body.get? "iss" = some (.string s)
  subject : ∃ s, body.get? "sub" = some (.string s)
  issuerKey : ∃ s, body.get? "ipk" = some (.string s)
  tokenType : ∃ name ∈ ["HOME", "FOREIGN", "GUEST", "NULL"], body.get? "ttyp" = some (.string name)
  expiration : ∃ value t, body.get? "exp" = some value ∧ Denotes value t
  issuedAt : body.get? "iat" = none ∨ body.get? "iat" = some .null ∨
    ∃ value t, body.get? "iat" = some value ∧ Denotes value t
  tokenId : body.get? "jti" = none ∨ body.get? "jti" = some .null ∨
    ∃ s, body.get? "jti" = some (.string s)
  subjectKey : body.get? "spk" = none ∨ body.get? "spk" = some .null ∨
    ∃ s, body.get? "spk" = some (.string s)
  texts : ∀ name value, (attributePrefix ++ name, value) ∈ body → ∃ s, value = .string s

theorem exists_tells_iff {α : Type} {meaning : Json → α → Prop} {found : Option Json} :
    (∃ a, Tells meaning found a) ↔
      found = none ∨ found = some .null ∨ ∃ value a, found = some value ∧ meaning value a := by
  constructor
  · rintro ⟨_ | a, h⟩
    · exact h.imp_right Or.inl
    · obtain ⟨value, hvalue, ha⟩ := h
      exact Or.inr (Or.inr ⟨value, a, hvalue, ha⟩)
  · rintro (h | h | ⟨value, a, hvalue, ha⟩)
    · exact ⟨none, Or.inl h⟩
    · exact ⟨none, Or.inr h⟩
    · exact ⟨some a, value, hvalue, ha⟩

theorem exists_tells_text_iff {found : Option Json} :
    (∃ s, Tells IsText found s) ↔
      found = none ∨ found = some .null ∨ ∃ s, found = some (.string s) := by
  rw [exists_tells_iff]
  simp [IsText]

theorem SortedFrom.wellFormed (h : SortedFrom body claims) : WellFormed body where
  issuer := ⟨_, h.issuer⟩
  subject := ⟨_, h.subject⟩
  issuerKey := ⟨_, h.issuerKey⟩
  tokenType := ⟨_, by cases claims.tokenType <;> simp [TokenType.name], h.tokenType⟩
  expiration := by
    obtain ⟨value, hvalue, hdenotes⟩ := h.expiration
    exact ⟨value, _, hvalue, hdenotes⟩
  issuedAt := exists_tells_iff.1 ⟨_, h.issuedAt⟩
  tokenId := exists_tells_text_iff.1 ⟨_, h.tokenId⟩
  subjectKey := exists_tells_text_iff.1 ⟨_, h.subjectKey⟩
  texts := h.texts

/-- **Well-formed bodies.** They are those that tell claims. -/
theorem exists_sortedFrom_iff : (∃ claims, SortedFrom body claims) ↔ WellFormed body := by
  constructor
  · rintro ⟨claims, h⟩
    exact h.wellFormed
  · intro h
    obtain ⟨issuer, hissuer⟩ := h.issuer
    obtain ⟨subject, hsubject⟩ := h.subject
    obtain ⟨issuerKey, hissuerKey⟩ := h.issuerKey
    obtain ⟨name, hname, htype⟩ := h.tokenType
    obtain ⟨tokenType, rfl⟩ : ∃ t : TokenType, name = t.name := by
      simp only [List.mem_cons, List.not_mem_nil, or_false] at hname
      rcases hname with rfl | rfl | rfl | rfl
      · exact ⟨.home, rfl⟩
      · exact ⟨.foreign, rfl⟩
      · exact ⟨.guest, rfl⟩
      · exact ⟨.null, rfl⟩
    obtain ⟨value, expiration, hvalue, hexpiration⟩ := h.expiration
    obtain ⟨issuedAt, hissued⟩ := exists_tells_iff.2 h.issuedAt
    obtain ⟨tokenId, htokenId⟩ := exists_tells_text_iff.2 h.tokenId
    obtain ⟨subjectKey, hsubjectKey⟩ := exists_tells_text_iff.2 h.subjectKey
    let others : Dictionary Json :=
      Catalog.ofList (body.toList.filter fun m => (withoutPrefix? m.1).isNone)
    exact ⟨{
      issuer, subject, expiration, issuedAt, tokenId, issuerKey, subjectKey, tokenType
      attributes := Catalog.ofList (body.toList.filterMap attributeOf?)
      extra := others.filter fun entry => !registered.contains entry.1 }, {
      issuer := hissuer
      subject := hsubject
      expiration := ⟨value, hvalue, hexpiration⟩
      issuedAt := hissued
      tokenId := htokenId
      issuerKey := hissuerKey
      subjectKey := hsubjectKey
      tokenType := htype
      texts := h.texts
      attributes := fun _ _ => mem_attributesOf
      extra := fun _ _ => mem_filter_others fun _ => mem_othersOf }⟩

end Claims

end FederatedAccess
