import FederatedAccess.Proofs.Rule.Positive
import FederatedAccess.Proofs.Token.Accepted

/-!
# Names with and without the reserved start

An attribute is looked up by its name, with the reserved start of names in a token body or without
it. So rules and policies may spell the names of attributes either way (`Rule.Respelled.metWith_eq`,
`Policy.satisfiedBy_renamed`). One key of a policy does not name an attribute although it looks like
one: it asks for the subject of a token, and nothing but the subject claim of the token's body
answers (`Policy.carries_subject_iff`).

A policy that asks for claims is satisfied by the least token that has them all, hence by some token
as long as there is one that has them.
-/

namespace FederatedAccess

/-! ## Names -/

/-- The name gets the reserved start if it does not have it, or is left as it is. -/
inductive Respelling : String → String → Prop
  | same (name : String) : Respelling name name
  | prefixed {name : String} : (∀ rest, name ≠ attributePrefix ++ rest) →
      Respelling name (attributePrefix ++ name)

/-- **Either spelling.** An attribute is found with the reserved start and without it. -/
theorem Respelling.attribute?_eq {name other : String} (h : Respelling name other) (token : Token) :
    token.attribute? other = token.attribute? name := by
  cases h with
  | same => rfl
  | prefixed hplain =>
    unfold Token.attribute? Claims.attribute?
    rw [withoutPrefix?_append, Claims.withoutPrefix?_eq_none_iff.2 hplain, Option.getD_some,
      Option.getD_none]

/-- The name under which a token's body has an attribute: always with the reserved start. -/
def bodyName (name : String) : String :=
  if attributePrefix.toList.isPrefixOf name.toList then name else attributePrefix ++ name

theorem bodyName_eq (name : String) :
    bodyName name = attributePrefix ++ (withoutPrefix? name).getD name := by
  cases h : withoutPrefix? name with
  | none =>
    have hplain : ¬ attributePrefix.toList.isPrefixOf name.toList := by
      intro hstart
      rw [withoutPrefix?, if_pos hstart] at h
      cases h
    rw [bodyName, if_neg hplain, Option.getD_none]
  | some rest =>
    obtain rfl := withoutPrefix?_eq_some_iff.1 h
    have hstart : attributePrefix.toList.isPrefixOf (attributePrefix ++ rest).toList := by
      rw [String.toList_append]
      exact List.isPrefixOf_iff_prefix.2 (List.prefix_append _ _)
    rw [bodyName, if_pos hstart, Option.getD_some]

/-! ## Rules -/

namespace Rule

/-- One rule becomes the other when some names of attributes get the reserved start, in any leaves
of the tree. -/
inductive Respelled : Rule → Rule → Prop
  | boolean {name other : String} (operator : BooleanOperator) : Respelling name other →
      Respelled (boolean name operator) (boolean other operator)
  | numeric {name other : String} (expected : Decimal) (operator : NumericOperator) :
      Respelling name other →
      Respelled (numeric name expected operator) (numeric other expected operator)
  | text {name other : String} (expected : String) (operator : TextOperator) :
      Respelling name other → Respelled (text name expected operator) (text other expected operator)
  | composite {rules others : List Rule} (operator : CompositeOperator) :
      List.Forall₂ Respelled rules others →
      Respelled (composite rules operator) (composite others operator)

variable {name other : String} {rule rule' : Rule}

theorem carrying_respelling (h : Respelling name other) (suitable : String → Bool)
    (tokens : TokenSet) : carrying other suitable tokens = carrying name suitable tokens := by
  simp only [carrying, h.attribute?_eq]

theorem matching_respelling [Pattern.SizeLimit] (kept : Patterns) (h : Respelling name other)
    (expected : String) (tokens : TokenSet) :
    matching kept other expected tokens = matching kept name expected tokens := by
  unfold matching
  split
  · exact carrying_respelling h _ tokens
  · rfl

/-- **Respelled rules.** They are met by the same tokens. -/
theorem Respelled.metWith_eq [Pattern.SizeLimit] (kept : Patterns) (tokens : TokenSet)
    (h : Respelled rule rule') :
    rule'.metWith kept tokens = rule.metWith kept tokens := by
  induction rule using Rule.induction generalizing rule' with
  | boolean name operator =>
    obtain ⟨_, hname⟩ := h
    exact carrying_respelling hname _ tokens
  | numeric name expected operator =>
    cases h with
    | numeric _ _ hname => exact carrying_respelling hname _ tokens
  | text name expected operator =>
    cases h with
    | text _ _ hname =>
      cases operator with
      | compare relation caseless => exact carrying_respelling hname _ tokens
      | pattern => exact matching_respelling kept hname expected tokens
  | composite rules operator ih =>
    cases h with
    | @composite _ others _ hrules =>
      have heach : metEach kept tokens others = metEach kept tokens rules := by
        induction hrules with
        | nil => rfl
        | cons hfirst _ ihrest =>
          rw [metEach, metEach, ih _ List.mem_cons_self hfirst,
            ihrest fun rule hrule => ih rule (List.mem_cons_of_mem _ hrule)]
      rw [metWith, metWith, heach]

end Rule

/-! ## Policies -/

/-- The values under new names. -/
def Dictionary.renamed {α : Type} (rename : String → String) (dictionary : Dictionary α) :
    Dictionary α :=
  Catalog.ofList (dictionary.toList.map fun entry => (rename entry.1, entry.2))

theorem Dictionary.mem_renamed {α : Type} {rename : String → String} {dictionary : Dictionary α}
    (hdistinct : (dictionary.names.map rename).Nodup) {entry : String × α} :
    entry ∈ dictionary.renamed rename ↔
      ∃ name value, (name, value) ∈ dictionary ∧ (rename name, value) = entry := by
  have hkeys : (dictionary.toList.map fun entry => (rename entry.1, entry.2)).map Prod.fst =
      dictionary.names.map rename := by
    rw [names, List.map_map, List.map_map]
    rfl
  rw [renamed, Catalog.mem_ofList_of_nodup (hkeys ▸ hdistinct), List.mem_map, Prod.exists]
  rfl

namespace Token

/-- The object in the second segment of the token's text has these members. -/
def HasBody (token : Token) (members : Dictionary Json) : Prop :=
  ∃ header body signature, DecodedToken.HasSegments token.text header body signature ∧
    Json.parse? body = some (.object members.toList)

variable {token : Token} {members : Dictionary Json} {name value : String}

theorem exists_hasBody (token : Token) : ∃ members, token.HasBody members := by
  obtain ⟨h, b, s, header, body, members, htext, hheader, -, hbody, hmembers, hsigned, -, -⟩ :=
    DecodedToken.ofText_ok_iff.1 token.decoded_eq
  exact ⟨members, header, body, _, ⟨h, b, s, htext, hheader, hbody, hsigned⟩, hmembers⟩

/-- A token has one body, which tells its claims. -/
theorem HasBody.sortedFrom (hbody : token.HasBody members) :
    Claims.SortedFrom members token.claims := by
  obtain ⟨_, octets, _, ⟨h, b, s, htext, hh, hb, hs⟩, hread⟩ := hbody
  obtain ⟨h', b', s', _, octets', members', htext', hh', -, hb', hread', hs', hsorted, -⟩ :=
    DecodedToken.ofText_ok_iff.1 token.decoded_eq
  have hsplit := DecodedToken.splitDots_eq_three_iff.2
    ⟨htext, hh.dot_not_mem, hb.dot_not_mem, hs.dot_not_mem⟩
  have hsplit' := DecodedToken.splitDots_eq_three_iff.2
    ⟨htext', hh'.dot_not_mem, hb'.dot_not_mem, hs'.dot_not_mem⟩
  obtain ⟨-, rfl, -⟩ : h = h' ∧ b = b' ∧ s = s' := by simpa [hsplit] using hsplit'
  have hoctets : octets = octets' := by
    have hfirst : DecodedToken.octets .body b = .ok octets := DecodedToken.octets_ok_iff.2 hb
    rw [DecodedToken.octets_ok_iff.2 hb'] at hfirst
    exact (Except.ok.inj hfirst).symm
  rw [hoctets, hread', Option.some.injEq, Json.object.injEq] at hread
  rw [← Catalog.ext hread]
  exact hsorted

/-- The token's body has the text under the name. -/
def Says (token : Token) (name value : String) : Prop :=
  ∃ members, token.HasBody members ∧ members.get? name = some (.string value)

theorem says_subject_iff : token.Says "sub" value ↔ token.subject = value := by
  constructor
  · rintro ⟨members, hbody, hvalue⟩
    rw [hbody.sortedFrom.subject, Option.some.injEq, Json.string.injEq] at hvalue
    exact hvalue
  · rintro rfl
    obtain ⟨members, hbody⟩ := token.exists_hasBody
    exact ⟨members, hbody, hbody.sortedFrom.subject⟩

/-- An attribute stands in the body with the reserved start, however it is asked for. -/
theorem says_attribute_iff :
    token.Says (bodyName name) value ↔ token.attribute? name = some value := by
  rw [bodyName_eq, attribute?, Claims.attribute?, Dictionary.get?_eq_some_iff]
  constructor
  · rintro ⟨members, hbody, hvalue⟩
    exact (hbody.sortedFrom.attributes _ value).2 (Dictionary.get?_eq_some_iff.1 hvalue)
  · intro hmem
    obtain ⟨members, hbody⟩ := token.exists_hasBody
    exact ⟨members, hbody,
      Dictionary.get?_eq_some_iff.2 ((hbody.sortedFrom.attributes _ value).1 hmem)⟩

end Token

namespace Policy

variable {claims : Dictionary String} {tokens : TokenSet} {token : Token}
  {name other value : String}

/-- The token's body has all that the policy asks for. -/
structure Qualifies (claims : Dictionary String) (token : Token) : Prop where
  /-- Under the subject's key the policy asks for the subject claim. -/
  subject : ∀ value, (subjectClaimKey, value) ∈ claims → token.Says "sub" value
  /-- Under all other keys it asks for attributes. -/
  attributes : ∀ name value, (name, value) ∈ claims → name ≠ subjectClaimKey →
    token.Says (bodyName name) value

theorem carries_subject_iff :
    carries token subjectClaimKey value = true ↔ token.Says "sub" value := by
  rw [carries, if_pos rfl, decide_eq_true_eq, Token.says_subject_iff]

theorem carries_attribute_iff (h : name ≠ subjectClaimKey) :
    carries token name value = true ↔ token.Says (bodyName name) value := by
  rw [carries, if_neg h, decide_eq_true_eq, Token.says_attribute_iff]

theorem qualifies_iff :
    Qualifies claims token ↔
      (claims.toList.all fun claim => carries token claim.1 claim.2) = true := by
  rw [List.all_eq_true]
  constructor
  · rintro h ⟨name, value⟩ hclaim
    by_cases hname : name = subjectClaimKey
    · subst hname
      exact carries_subject_iff.2 (h.subject value hclaim)
    · exact (carries_attribute_iff hname).2 (h.attributes name value hclaim hname)
  · intro h
    exact {
      subject := fun value hclaim => carries_subject_iff.1 (h _ hclaim)
      attributes := fun name value hclaim hname => (carries_attribute_iff hname).1 (h _ hclaim) }

/-- The subject's key is spelled with the start alone; all other keys may be spelled either way. -/
theorem carries_respelling (h : Respelling name other) (hsub : name = "sub" → other = "sub") :
    carries token other value = carries token name value := by
  cases h with
  | same => rfl
  | prefixed hplain =>
    have hname : name ≠ subjectClaimKey := hplain "sub"
    have hother : attributePrefix ++ name ≠ subjectClaimKey := by
      intro heq
      obtain rfl := append_attributePrefix_injective heq
      exact absurd (hsub rfl) (by decide)
    rw [carries, carries, if_neg hother, if_neg hname, (Respelling.prefixed hplain).attribute?_eq]

/-- The result is the token with the least text among those that qualify, or empty if none does. -/
def FirstQualifying (claims : Dictionary String) (tokens result : TokenSet) : Prop :=
  (∀ token ∈ tokens, ¬ Qualifies claims token) ∧ result = Catalog.empty ∨
    ∃ token ∈ tokens, Qualifies claims token ∧
      (∀ other ∈ tokens, Qualifies claims other → token.text ≤ other.text) ∧
      result = Catalog.ofList [token]

section

variable [Pattern.SizeLimit]

/-- **Respelled keys.** They are satisfied by the same token, as long as they stay apart. -/
theorem satisfiedBy_renamed {respell : String → String}
    (hrespell : ∀ name ∈ claims.names, Respelling name (respell name))
    (hsub : respell "sub" = "sub") (hdistinct : (claims.names.map respell).Nodup)
    (tokens : TokenSet) :
    (singleToken (claims.renamed respell)).satisfiedBy tokens =
      (singleToken claims).satisfiedBy tokens := by
  have hsame : ∀ token name value, (name, value) ∈ claims →
      carries token (respell name) value = carries token name value := by
    intro token name value hclaim
    refine carries_respelling (hrespell name (List.mem_map_of_mem hclaim)) ?_
    rintro rfl
    exact hsub
  simp only [satisfiedBy]
  congr 1
  funext token
  rw [Bool.eq_iff_iff, List.all_eq_true, List.all_eq_true]
  constructor
  · rintro h ⟨name, value⟩ hclaim
    rw [← hsame token name value hclaim]
    exact h _ ((Dictionary.mem_renamed hdistinct).2 ⟨name, value, hclaim, rfl⟩)
  · intro h entry hentry
    obtain ⟨name, value, hclaim, rfl⟩ := (Dictionary.mem_renamed hdistinct).1 hentry
    rw [hsame token name value hclaim]
    exact h _ hclaim

theorem firstQualifying_satisfiedBy (claims : Dictionary String) (tokens : TokenSet) :
    FirstQualifying claims tokens ((singleToken claims).satisfiedBy tokens) := by
  have h := Catalog.firstWith_cases
    (fun token : Token => claims.toList.all fun claim => carries token claim.1 claim.2) tokens
  simp only [← Bool.not_eq_true, ← qualifies_iff] at h
  exact h

/-- **Subjects.** No token satisfies a policy that asks for a subject other than its own, whatever
attributes it has. -/
theorem subject_of_mem_satisfiedBy {subject : String}
    (hmem : token ∈ (singleToken claims).satisfiedBy tokens)
    (hclaim : (subjectClaimKey, value) ∈ claims) (hsubject : token.Says "sub" subject) :
    subject = value := by
  have hqualifies := qualifies_iff.2 (Catalog.of_mem_firstWith hmem).2
  have hasked := Token.says_subject_iff.1 (hqualifies.subject value hclaim)
  rw [← Token.says_subject_iff.1 hsubject, hasked]

/-- **The reserved start.** Rules and policies mean the same when names of attributes get the
reserved start that did not have it; only the key `sub` of a policy is left as it is, since with the
start it asks for the subject. A policy is satisfied by the least token that qualifies, and never by
a token of another subject than the one that is asked for. More tokens leave satisfied a policy that
one token satisfies. -/
theorem reserved_start_optional :
    (∀ (rule other : Rule) (tokens : TokenSet), rule.Respelled other →
      other.met tokens = rule.met tokens) ∧
    (∀ (claims : Dictionary String) (respell : String → String) (tokens : TokenSet),
      (∀ name ∈ claims.names, Respelling name (respell name)) → respell "sub" = "sub" →
      (claims.names.map respell).Nodup →
        (singleToken (claims.renamed respell)).satisfiedBy tokens =
          (singleToken claims).satisfiedBy tokens) ∧
    (∀ (claims : Dictionary String) (tokens : TokenSet),
      FirstQualifying claims tokens ((singleToken claims).satisfiedBy tokens)) ∧
    (∀ (claims : Dictionary String) (tokens : TokenSet) (token : Token) (asked subject : String),
      (subjectClaimKey, asked) ∈ claims → token.Says "sub" subject → subject ≠ asked →
        token ∉ (singleToken claims).satisfiedBy tokens) ∧
    ∀ fewer more : TokenSet, fewer ⊆ more →
      (∀ claims, ((singleToken claims).satisfiedBy fewer).Nonempty →
        ((singleToken claims).satisfiedBy more).Nonempty) ∧
      ∀ policy, ((federation policy).satisfiedBy fewer).Nonempty →
        ((federation policy).satisfiedBy more).Nonempty := by
  refine ⟨fun rule other tokens h => h.metWith_eq _ tokens, ?_, firstQualifying_satisfiedBy, ?_, ?_⟩
  · intro claims respell tokens hrespell hsub hdistinct
    exact satisfiedBy_renamed hrespell hsub hdistinct tokens
  · intro claims tokens token asked subject hclaim hsubject hother hmem
    exact hother (subject_of_mem_satisfiedBy hmem hclaim hsubject)
  · intro fewer more hsub
    exact ⟨fun claims => Catalog.Nonempty.firstWith_mono hsub,
      fun policy => Catalog.Nonempty.firstWith_mono hsub⟩

end

/-! ## A token that claims to be somebody else -/

attribute [local instance] Pattern.SizeLimit.unlimited

/-- A token of the subject `s` with `sub` among its attributes, so that its body has
`SYMBIOTE_sub`. -/
def impostor : Token := Token.bearer "sub" "admin"

/-- The impostor and a token that has an attribute without a name. -/
def impostorAndOther : TokenSet :=
  Catalog.ofList [impostor, Token.bearer "" "true"]

/-- Needs an attribute of the second token and one of the impostor. -/
def bothNeeded (name : String) : Rule :=
  .composite [.boolean name .isTrue, .text "SYMBIOTE_sub" "admin" (.compare .equals false)] .and

theorem respelling_nameless : Respelling "" "SYMBIOTE_" :=
  .prefixed (Claims.withoutPrefix?_eq_none_iff.1 (by decide))

theorem bothNeeded_respelled : (bothNeeded "").Respelled (bothNeeded "SYMBIOTE_") :=
  .composite .and (.cons (.boolean _ respelling_nameless) (.cons (.text _ _ (.same _)) .nil))

theorem impostor_qualifies : Qualifies (Dictionary.single "sub" "admin") impostor where
  subject := by
    intro value hclaim
    obtain ⟨hname, -⟩ := Dictionary.get?_single_iff.1 (Dictionary.get?_eq_some_iff.2 hclaim)
    exact absurd hname (by decide)
  attributes := by
    intro name value hclaim _
    obtain ⟨rfl, rfl⟩ := Dictionary.get?_single_iff.1 (Dictionary.get?_eq_some_iff.2 hclaim)
    exact Token.says_attribute_iff.2 (Token.attribute?_bearer_iff.2 ⟨by decide, rfl⟩)

/-- The impostor satisfies a policy that asks for its attribute, in whatever company, but none that
asks for the subject. -/
theorem impostor_turned_away :
    (bothNeeded "SYMBIOTE_").met impostorAndOther = (bothNeeded "").met impostorAndOther ∧
    (singleToken ((Dictionary.single "" "true").renamed fun name =>
        if name = "" then "SYMBIOTE_" else name)).satisfiedBy impostorAndOther =
      (singleToken (Dictionary.single "" "true")).satisfiedBy impostorAndOther ∧
    impostor ∉ (singleToken (Dictionary.single subjectClaimKey "admin")).satisfiedBy
      impostorAndOther ∧
    ((singleToken (Dictionary.single "sub" "admin")).satisfiedBy impostorAndOther).Nonempty := by
  obtain ⟨hrules, hpolicies, -, hsubjects, hmore⟩ := reserved_start_optional
  have hsub : (Catalog.ofList [impostor] : TokenSet) ⊆ impostorAndOther := by
    intro token hmem
    rw [Catalog.mem_ofList fun _ _ => Token.ext_text, List.mem_singleton] at hmem
    rw [hmem, impostorAndOther, Catalog.mem_ofList fun _ _ => Token.ext_text]
    exact List.mem_cons_self
  have hsubject : impostor.Says "sub" "s" := Token.says_subject_iff.2 rfl
  refine ⟨hrules _ _ _ bothNeeded_respelled, hpolicies _ _ _ ?_ (by decide) (by decide), ?_, ?_⟩
  · intro name hname
    obtain rfl : name = "" := List.mem_singleton.1 hname
    exact respelling_nameless
  · exact hsubjects _ _ _ "admin" "s" (Dictionary.get?_eq_some_iff.1 Dictionary.get?_put_self) hsubject
      (by decide)
  · refine (hmore _ _ hsub).1 _ (Catalog.nonempty_firstWith_iff.2 ?_)
    exact ⟨impostor, List.mem_cons_self, qualifies_iff.1 impostor_qualifies⟩

end Policy

end FederatedAccess
