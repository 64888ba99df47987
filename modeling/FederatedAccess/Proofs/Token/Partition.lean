import FederatedAccess.Proofs.Token.Accepted

/-!
# Nothing of a body is lost

Whatever object the body of a token is, each member goes to one place in the claims: a registered
name to its field, a prefixed one to the attributes, any other to the rest. Writing the claims gives
the members back, up to two liberties of the reader: a `null` for a claim that may be absent is
dropped, and seconds that were a text become the integer (`decoding_keeps_body`).
-/

namespace FederatedAccess

namespace Claims

variable {body : Dictionary Json} {claims : Claims} {name : String} {found : Option Json}

/-! ## One place for each member -/

/-- The claims have the member in one place, which its name settles: the field of a registered name,
the attribute behind the prefix, or the other members. -/
inductive HasPlace (claims : Claims) : String → Json → Prop
  | field {name : String} {value : Json} : name ∈ registered →
      (∀ rest, name ≠ attributePrefix ++ rest) → claims.extra.get? name = none →
      HasPlace claims name value
  | attribute {rest s : String} : attributePrefix ++ rest ∉ registered →
      claims.attributes.get? rest = some s → claims.extra.get? (attributePrefix ++ rest) = none →
      HasPlace claims (attributePrefix ++ rest) (.string s)
  | other {name : String} {value : Json} : name ∉ registered →
      (∀ rest, name ≠ attributePrefix ++ rest) → claims.extra.get? name = some value →
      HasPlace claims name value

theorem prefixed_not_registered (rest : String) : attributePrefix ++ rest ∉ registered := by
  intro h
  have hplain := withoutPrefix?_registered _ h
  rw [withoutPrefix?_append] at hplain
  cases hplain

/-- A name is prefixed, registered, or neither. -/
theorem name_cases (name : String) :
    (∃ rest, name = attributePrefix ++ rest) ∨
      (∀ rest, name ≠ attributePrefix ++ rest) ∧ (name ∈ registered ∨ name ∉ registered) := by
  by_cases hprefixed : ∃ rest, name = attributePrefix ++ rest
  · exact Or.inl hprefixed
  · exact Or.inr ⟨not_exists.1 hprefixed, Decidable.em _⟩

namespace SortedFrom

variable (h : SortedFrom body claims)

include h

theorem keepsNames : claims.KeepsNames := by
  rintro ⟨name, value⟩ hmem
  obtain ⟨-, hregistered, hplain⟩ := (h.extra name value).1 hmem
  exact ⟨hregistered, withoutPrefix?_eq_none_iff.2 hplain⟩

theorem attributes_get? (rest : String) :
    (claims.attributes.get? rest).map Json.string = body.get? (attributePrefix ++ rest) := by
  refine Option.ext fun value => ?_
  rw [Option.map_eq_some_iff]
  constructor
  · rintro ⟨s, hs, rfl⟩
    rw [Dictionary.get?_eq_some_iff] at hs ⊢
    exact (h.attributes rest s).1 hs
  · intro hvalue
    rw [Dictionary.get?_eq_some_iff] at hvalue
    obtain ⟨s, rfl⟩ := h.texts rest value hvalue
    exact ⟨s, Dictionary.get?_eq_some_iff.2 ((h.attributes rest s).2 hvalue), rfl⟩

theorem extra_get? (hregistered : name ∉ registered)
    (hplain : ∀ rest, name ≠ attributePrefix ++ rest) :
    claims.extra.get? name = body.get? name := by
  refine Option.ext fun value => ?_
  rw [Dictionary.get?_eq_some_iff, Dictionary.get?_eq_some_iff, h.extra]
  exact and_iff_left ⟨hregistered, hplain⟩

theorem extra_get?_prefixed (rest : String) :
    claims.extra.get? (attributePrefix ++ rest) = none := by
  refine Option.eq_none_iff_forall_ne_some.2 fun value hvalue => ?_
  obtain ⟨-, -, hplain⟩ := (h.extra _ value).1 (Dictionary.get?_eq_some_iff.1 hvalue)
  exact hplain rest rfl

/-- **Places.** Each member of the body has its place. -/
theorem hasPlace {value : Json} (hmem : (name, value) ∈ body) : HasPlace claims name value := by
  rcases name_cases name with ⟨rest, rfl⟩ | ⟨hplain, hregistered | hregistered⟩
  · obtain ⟨s, rfl⟩ := h.texts rest value hmem
    have hs : claims.attributes.get? rest = some s :=
      Dictionary.get?_eq_some_iff.2 ((h.attributes rest s).2 hmem)
    exact .attribute (prefixed_not_registered rest) hs (h.extra_get?_prefixed rest)
  · exact .field hregistered hplain (extra_get?_registered h.keepsNames hregistered)
  · have hvalue : claims.extra.get? name = some value := by
      rw [h.extra_get? hregistered hplain, Dictionary.get?_eq_some_iff]
      exact hmem
    exact .other hregistered hplain hvalue

end SortedFrom

/-! ## What is written back -/

/-- The claims that may be absent. -/
def optionalNames : List String := ["iat", "jti", "spk"]

/-- The claims that are whole seconds. -/
def secondsNames : List String := ["exp", "iat"]

/-- What stood under a name before, and what stands there after. -/
inductive Carried (name : String) : Option Json → Option Json → Prop
  /-- It is the same, unless one of the other cases applies. -/
  | same {found : Option Json} : (name ∈ optionalNames → found ≠ some .null) →
      (name ∈ secondsNames → ∀ s, found ≠ some (.string s)) → Carried name found found
  | dropped : name ∈ optionalNames → Carried name (some .null) none
  | seconds {s : String} {t : Int64} : name ∈ secondsNames → Numeral.Writes s.toList t.toInt →
      Carried name (some (.string s)) (some (.integer (.ofInt64 t)))

theorem Carried.of_not_registered (hname : name ∉ registered) : Carried name found found := by
  have hoptional : ∀ n ∈ optionalNames, n ∈ registered := by decide
  have hseconds : ∀ n ∈ secondsNames, n ∈ registered := by decide
  exact .same (fun h => absurd (hoptional name h) hname) fun h => absurd (hseconds name h) hname

theorem Carried.text {s : String} (hname : name ∉ secondsNames) (h : found = some (.string s)) :
    Carried name found (some (.string s)) := by
  subst h
  exact .same (fun _ => nofun) fun hseconds => absurd hseconds hname

theorem Carried.absent (hname : name ∈ optionalNames) (h : found = none ∨ found = some .null) :
    Carried name found none := by
  rcases h with rfl | rfl
  · exact .same (fun _ => nofun) fun _ _ => nofun
  · exact .dropped hname

theorem Carried.optionalText {value : Option String} (hname : name ∉ secondsNames)
    (hoptional : name ∈ optionalNames) (h : Tells IsText found value) :
    Carried name found (value.map .string) := by
  cases value with
  | none => exact .absent hoptional h
  | some s => exact .text hname (tells_text_some_iff.1 h)

theorem Carried.whole {t : Int64} (hname : name ∈ secondsNames) (h : Tells Denotes found (some t)) :
    Carried name found (some (.integer (.ofInt64 t))) := by
  obtain ⟨value, rfl, hinteger | htext⟩ := h
  · rename_i i
    obtain rfl : i = .ofInt64 t := by
      obtain ⟨val, fits⟩ := i
      obtain rfl : val = t.toInt := hinteger
      rfl
    exact .same (fun _ => nofun) fun _ _ => nofun
  · exact .seconds hname htext

theorem Carried.optionalWhole {value : Option Int64} (hname : name ∈ secondsNames)
    (hoptional : name ∈ optionalNames) (h : Tells Denotes found value) :
    Carried name found (value.map fun t => .integer (.ofInt64 t)) := by
  cases value with
  | none => exact .absent hoptional h
  | some t => exact .whole hname h

theorem toBody_get?_prefixed (keeps : claims.KeepsNames) (rest : String) :
    claims.toBody.get? (attributePrefix ++ rest) =
      (claims.attributes.get? rest).map Json.string := by
  refine Option.ext fun value => ?_
  rw [Dictionary.get?_eq_some_iff, mem_toBody keeps, Option.map_eq_some_iff]
  constructor
  · rintro (hmem | ⟨name, s, hmem, heq⟩)
    · have hplain := mem_registeredBody_unprefixed keeps hmem
      rw [withoutPrefix?_append] at hplain
      cases hplain
    · obtain ⟨hname, rfl⟩ := Prod.mk.inj heq
      obtain rfl := append_attributePrefix_injective hname
      exact ⟨s, Dictionary.get?_eq_some_iff.2 hmem, rfl⟩
  · rintro ⟨s, hs, rfl⟩
    exact Or.inr ⟨rest, s, Dictionary.get?_eq_some_iff.1 hs, rfl⟩

theorem toBody_get?_unprefixed (keeps : claims.KeepsNames)
    (hplain : ∀ rest, name ≠ attributePrefix ++ rest) :
    claims.toBody.get? name = claims.registeredBody.get? name := by
  refine Option.ext fun value => ?_
  rw [Dictionary.get?_eq_some_iff, Dictionary.get?_eq_some_iff, mem_toBody keeps]
  refine or_iff_left ?_
  rintro ⟨rest, s, -, heq⟩
  exact hplain rest (Prod.mk.inj heq).1

/-- **Written back.** Under every name stands what stood there, up to what the reader made of it. -/
theorem SortedFrom.carried (h : SortedFrom body claims) (name : String) :
    Carried name (body.get? name) (claims.toBody.get? name) := by
  rcases name_cases name with ⟨rest, rfl⟩ | ⟨hplain, hregistered | hregistered⟩
  · rw [toBody_get?_prefixed h.keepsNames, h.attributes_get?]
    exact .of_not_registered (prefixed_not_registered rest)
  · rw [toBody_get?_unprefixed h.keepsNames hplain]
    obtain ⟨hissuer, hsubject, hexpiration, hissued, htokenId, hissuerKey, hsubjectKey, htype⟩ :=
      registeredBody_get? h.keepsNames
    simp only [registered, List.mem_cons, List.not_mem_nil, or_false] at hregistered
    rcases hregistered with rfl | rfl | rfl | rfl | rfl | rfl | rfl | rfl
    · exact hissuer ▸ .text (by decide) h.issuer
    · exact hsubject ▸ .text (by decide) h.subject
    · exact hexpiration ▸ .whole (by decide) h.expiration
    · exact hissued ▸ .optionalWhole (by decide) (by decide) h.issuedAt
    · exact htokenId ▸ .optionalText (by decide) (by decide) h.tokenId
    · exact hissuerKey ▸ .text (by decide) h.issuerKey
    · exact hsubjectKey ▸ .optionalText (by decide) (by decide) h.subjectKey
    · exact htype ▸ .text (by decide) h.tokenType
  · rw [toBody_get?_unprefixed h.keepsNames hplain, registeredBody_get?_other hregistered,
      h.extra_get? hregistered hplain]
    exact .of_not_registered hregistered

end Claims

namespace DecodedToken

/-- **Nothing is lost.** When a text is taken apart, its second segment is an object of which every
member has one place in the claims, and the body written from the claims has under every name what
stood there before, apart from dropped nulls and from seconds that were given as texts. -/
theorem decoding_keeps_body {text : String} {decoded : DecodedToken}
    (h : ofText text = .ok decoded) :
    ∃ (header body signature : List UInt8) (members : Dictionary Json),
      HasSegments text header body signature ∧
      Json.parse? body = some (.object members.toList) ∧
      Claims.SortedFrom members decoded.claims ∧
      (∀ name value, (name, value) ∈ members → Claims.HasPlace decoded.claims name value) ∧
      ∀ name, Claims.Carried name (members.get? name) (decoded.claims.toBody.get? name) := by
  obtain ⟨h', b, s, header, body, members, htext, hheader, -, hbody, hmembers, hsigned, hclaims, -⟩ :=
    ofText_ok_iff.1 h
  exact ⟨header, body, decoded.signature, members, ⟨h', b, s, htext, hheader, hbody, hsigned⟩,
    hmembers, hclaims, fun _ _ => hclaims.hasPlace, hclaims.carried⟩

/-- A token whose body has a `null`, seconds as a text, and attributes whose names are empty or start
with the prefix once more. -/
def oddBodyText : String :=
  "eyJhbGciOiJFZERTQSJ9.eyJpYXQiOm51bGwsImV4cCI6IiswNSIsImlwayI6IiIsIlNZTUJJT1RFX1NZ" ++
    "TUJJT1RFX2EiOiJ4IiwiU1lNQklPVEVfIjoiaXNzIiwiaXNzIjoicCIsInN1YiI6ImciLCJhdWQiOm51" ++
    "bGwsInR0eXAiOiJHVUVTVCJ9."

/-- The body that is written from its claims. -/
def oddBodyWritten : String :=
  "\x7b\"SYMBIOTE_\":\"iss\",\"SYMBIOTE_SYMBIOTE_a\":\"x\",\"aud\":null,\"exp\":5," ++
    "\"ipk\":\"\",\"iss\":\"p\",\"sub\":\"g\",\"ttyp\":\"GUEST\"\x7d"

theorem odd_body_kept :
    ∃ decoded, ofText oddBodyText = .ok decoded ∧
      (Json.object decoded.claims.toBody.toList).text = oddBodyWritten ∧
      ∃ members : Dictionary Json,
        (∀ name value, (name, value) ∈ members → Claims.HasPlace decoded.claims name value) ∧
        ∀ name, Claims.Carried name (members.get? name) (decoded.claims.toBody.get? name) := by
  have hwritten : (ofText oddBodyText).map (fun d => (Json.object d.claims.toBody.toList).text) =
      .ok oddBodyWritten := by decide +kernel
  obtain ⟨decoded, hread, hbody⟩ := except_map_ok_iff.1 hwritten
  obtain ⟨-, -, -, members, -, -, -, hplaces, hcarried⟩ := decoding_keeps_body hread
  exact ⟨decoded, hread, hbody, members, hplaces, hcarried⟩

end DecodedToken

end FederatedAccess
