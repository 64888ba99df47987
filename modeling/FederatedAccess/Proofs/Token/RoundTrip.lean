import FederatedAccess.Proofs.Encoding.Base64
import FederatedAccess.Proofs.Json.Value
import FederatedAccess.Proofs.Key.Document
import FederatedAccess.Proofs.Token.Body
import FederatedAccess.Proofs.Token.Compact
import FederatedAccess.Token.Issuer

/-!
# Written tokens read back

A token is written in layers: claims as a body, the body as JSON text, the text as octets, the
octets as a segment, the segments between dots. Each layer has its way back; here they are put
together. It makes no difference which of the two writers is used, the plain one or the one that
signs.
-/

namespace FederatedAccess

/-! ## Segments -/

namespace DecodedToken

theorem splitDots_of_not_mem {part : List Char} (h : '.' ∉ part) : splitDots part = [part] := by
  induction part with
  | nil => rfl
  | cons c rest ih =>
    obtain ⟨hc, hrest⟩ : '.' ≠ c ∧ '.' ∉ rest := by simpa using h
    rw [splitDots, ih hrest]
    simp only [hc.symm, if_false]

/-- The first dot ends the first segment. -/
theorem splitDots_append {part : List Char} (h : '.' ∉ part) (rest : List Char) :
    splitDots (part ++ '.' :: rest) = part :: splitDots rest := by
  induction part with
  | nil =>
    obtain ⟨first, more, hrest, hcons⟩ := splitDots_cons '.' rest
    rw [List.nil_append, hcons, if_pos rfl, hrest]
  | cons c part ih =>
    obtain ⟨hc, hpart⟩ : '.' ≠ c ∧ '.' ∉ part := by simpa using h
    rw [List.cons_append, splitDots, ih hpart]
    simp only [hc.symm, if_false]

theorem octets_encodeUrl (segment : Segment) (input : List UInt8) :
    octets segment (Base64.encodeUrl input).toList = .ok input := by
  rw [octets, Base64.encodeUrl, String.toList_ofList,
    Base64.decodeChars_encodeChars Base64.urlSafe_faithful (Or.inr ⟨rfl, rfl⟩)]

/-- A written segment has neither dots nor blank characters. -/
theorem mem_encodeUrl {input : List UInt8} {c : Char} (h : c ∈ (Base64.encodeUrl input).toList) :
    Text.isBlank c = false ∧ c ≠ '.' := by
  rw [Base64.encodeUrl, String.toList_ofList] at h
  exact Base64.urlSafe_mem_encodeChars h

def compactText (header body signature : List UInt8) : String :=
  Base64.encodeUrl header ++ "." ++ Base64.encodeUrl body ++ "." ++ Base64.encodeUrl signature

theorem toList_compactText (header body signature : List UInt8) :
    (compactText header body signature).toList = (Base64.encodeUrl header).toList ++
      '.' :: ((Base64.encodeUrl body).toList ++ '.' :: (Base64.encodeUrl signature).toList) := by
  simp [compactText]

/-- Nothing blank stands in a compact text. -/
theorem not_blank_of_mem_compactText {header body signature : List UInt8} {c : Char}
    (hc : c ∈ (compactText header body signature).toList) : Text.isBlank c = false := by
  rw [toList_compactText] at hc
  simp only [List.mem_append, List.mem_cons] at hc
  rcases hc with hc | rfl | hc | rfl | hc
  · exact (mem_encodeUrl hc).1
  · decide
  · exact (mem_encodeUrl hc).1
  · decide
  · exact (mem_encodeUrl hc).1

/-- **Segments.** A text of three written segments is taken apart into them. -/
theorem ofText_compactText (header body signature : List UInt8) :
    ofText (compactText header body signature) =
      ofSegments (Base64.encodeUrl header).toList (Base64.encodeUrl body).toList
        (Base64.encodeUrl signature).toList := by
  have hfree : ∀ input : List UInt8, '.' ∉ (Base64.encodeUrl input).toList :=
    fun input hdot => (mem_encodeUrl hdot).2 rfl
  rw [ofText, Text.trimChars_eq_self fun c hc => not_blank_of_mem_compactText hc,
    toList_compactText, splitDots_append (hfree header),
    splitDots_append (hfree body), splitDots_of_not_mem (hfree signature)]

/-! ## Header and body -/

theorem readHeader_toJson (header : TokenHeader) :
    readHeader (Utf8.encode header.toJson.text) = .ok header := by
  obtain ⟨algorithm, kind⟩ := header
  cases kind with
  | none =>
    rw [readHeader, Json.Draft.read_text rfl]
    rfl
  | some kind =>
    rw [readHeader, Json.Draft.read_text rfl]
    rfl

theorem readHeader_issued :
    readHeader (Utf8.encode TokenIssuer.header.text) = .ok ⟨"EdDSA", some "JWT"⟩ := by
  rw [readHeader, Json.Draft.read_text rfl]
  rfl

end DecodedToken

/-- The other members of the claims come through a token: they keep to names of their own, their
numbers are integers, their objects are in order, and they leave room for the body's own level. -/
structure Claims.Transportable (claims : Claims) : Prop where
  /-- No member has the name of a registered claim or a name that starts like an attribute's. -/
  names : claims.KeepsNames
  /-- All numbers are integers. -/
  integral : ∀ m ∈ claims.extra, m.2.isIntegral = true
  /-- Objects list their members in the order of their names, each once. -/
  ordered : ∀ m ∈ claims.extra, m.2.isOrdered = true
  /-- Arrays and objects do not nest more deeply. -/
  shallow : ∀ m ∈ claims.extra, m.2.depth ≤ 126

namespace DecodedToken

variable {claims : Claims}

theorem readBody_toBody (transportable : claims.Transportable) :
    readBody (Utf8.encode (Json.object claims.toBody.toList).text) = .ok claims.toBody.toList := by
  have keeps := transportable.names
  have hintegral : (Json.object claims.toBody.toList).isIntegral = true :=
    Json.allIntegralMembers_iff.2 <|
      Claims.forall_mem_toBody (p := fun v => v.isIntegral = true) keeps (fun _ => rfl)
        (fun _ => rfl) transportable.integral
  have hordered : (Json.object claims.toBody.toList).isOrdered = true := by
    refine Bool.and_eq_true_iff.2 ⟨decide_eq_true claims.toBody.sorted, ?_⟩
    exact Json.allOrderedMembers_iff.2 <|
      Claims.forall_mem_toBody (p := fun v => v.isOrdered = true) keeps (fun _ => rfl)
        (fun _ => rfl) transportable.ordered
  have hdepth : (Json.object claims.toBody.toList).depth ≤ Json.Draft.deepest := by
    refine Nat.succ_le_succ (Json.depthMembers_le_iff.2 ?_)
    exact Claims.forall_mem_toBody (p := fun v => v.depth ≤ 126) keeps (fun _ => Nat.zero_le _)
      (fun _ => Nat.zero_le _) transportable.shallow
  rw [readBody, Json.parse?_text hintegral hordered hdepth]

end DecodedToken

/-! ## Tokens -/

/-- **Written tokens.** A token written from a header and from claims that come through is taken
apart into them, the text that is signed, and the signature. -/
theorem ofText_attachSignature {written : Json} {header : TokenHeader}
    (hheader : DecodedToken.readHeader (Utf8.encode written.text) = .ok header)
    {claims : Claims} (transportable : claims.Transportable) (signature : List UInt8) :
    DecodedToken.ofText
        (attachSignature (signingInput written (.object claims.toBody.toList)) signature) =
      .ok ⟨header, claims, signingInput written (.object claims.toBody.toList), signature⟩ := by
  have hinput : String.ofList ((segmentText written).toList ++
      '.' :: (segmentText (.object claims.toBody.toList)).toList) =
      signingInput written (.object claims.toBody.toList) := by
    apply String.toList_inj.1
    simp [signingInput]
  refine (DecodedToken.ofText_compactText _ _ signature).trans ?_
  rw [DecodedToken.ofSegments, DecodedToken.octets_encodeUrl, DecodedToken.octets_encodeUrl,
    DecodedToken.octets_encodeUrl]
  simp only [bind, Except.bind, pure, Except.pure, hheader,
    DecodedToken.readBody_toBody transportable, Claims.ofBody_toBody transportable.names]
  rw [← hinput]
  rfl

/-- A text is read as the token that stands between the blank characters at its ends. -/
theorem Token.parse_ok_iff {text : String} {token : Token} :
    parse text = .ok token ↔ Text.trim text = token.text := by
  constructor
  · intro hparse
    unfold parse at hparse
    split at hparse
    · cases hparse
      rfl
    · cases hparse
  · intro htrim
    have hdecoded : DecodedToken.ofText (Text.trim text) = .ok token.decoded := by
      rw [htrim, token.decoded_eq]
    unfold parse
    split
    · exact congrArg Except.ok (ext_text htrim)
    · rename_i e herror
      rw [hdecoded] at herror
      cases herror

/-- The text of a token is read as this token. -/
theorem Token.parse_text (token : Token) : parse token.text = .ok token :=
  parse_ok_iff.2 token.trimmed

/-- The token written from a header, from claims that come through, and from a signature. -/
def Token.written (header : TokenHeader) {claims : Claims} (transportable : claims.Transportable)
    (signature : List UInt8) : Token where
  text := attachSignature (encodeToken header claims) signature
  decoded := ⟨header, claims, encodeToken header claims, signature⟩
  decoded_eq := ofText_attachSignature (DecodedToken.readHeader_toJson header) transportable signature
  trimmed := Text.trim_eq_self fun _ hc => DecodedToken.not_blank_of_mem_compactText hc

/-- The token of claims that an issuer signs. -/
def TokenIssuer.signed (issuer : TokenIssuer) {claims : Claims}
    (transportable : claims.Transportable) : Token where
  text := issuer.signClaims claims
  decoded :=
    let input := signingInput header (.object claims.toBody.toList)
    ⟨⟨acceptedAlgorithm, some "JWT"⟩, claims, input, issuer.key.sign (Utf8.encode input)⟩
  decoded_eq := ofText_attachSignature DecodedToken.readHeader_issued transportable _
  trimmed := Text.trim_eq_self fun _ hc => DecodedToken.not_blank_of_mem_compactText hc

theorem TokenIssuer.signed_claims {issuer : TokenIssuer} {claims : Claims}
    (transportable : claims.Transportable) :
    (issuer.signed transportable).decoded.claims = claims := rfl

/-- **Tokens read back.** Whatever the header, the signature and the claims that come through, a
token written from them is taken apart into exactly these and the text that is signed. A token of
signed claims is taken apart into the same claims, under the header of issued tokens. -/
theorem tokens_read_back (claims : Claims) (transportable : claims.Transportable) :
    (∀ (header : TokenHeader) (signature : List UInt8),
      DecodedToken.ofText (attachSignature (encodeToken header claims) signature) =
        .ok ⟨header, claims, encodeToken header claims, signature⟩) ∧
    ∀ issuer : TokenIssuer, ∃ decoded, DecodedToken.ofText (issuer.signClaims claims) = .ok decoded ∧
      decoded.claims = claims ∧ decoded.header = ⟨"EdDSA", some "JWT"⟩ := by
  constructor
  · intro header signature
    exact ofText_attachSignature (DecodedToken.readHeader_toJson header) transportable signature
  · intro issuer
    exact ⟨_, ofText_attachSignature DecodedToken.readHeader_issued transportable _, rfl, rfl⟩

/-! ## Odd claims -/

/-- A value of the given number of levels. -/
def nested : Nat → Json
  | 0 => .string "\"\\\n\x00é😀"
  | levels + 1 => .array [nested levels]

/-- Claims at the limits: the ends of time, names and values that need escapes, the greatest
integers, as many levels as fit. -/
def oddClaims : Claims where
  issuer := ""
  subject := "SYMBIOTE_\t/\x7f"
  expiration := Int64.minValue
  issuedAt := some Int64.maxValue
  tokenId := none
  issuerKey := "."
  subjectKey := none
  tokenType := .null
  attributes := Catalog.ofList [("iss", "p"), ("SYMBIOTE_x", ""), ("", "true")]
  extra := Catalog.ofList [("aud", nested 126), ("", .integer ⟨0xFFFFFFFFFFFFFFFF, by decide⟩),
    ("symbiote_", .object [("a", .integer ⟨-0x8000000000000000, by decide⟩), ("é", .null)])]

theorem oddClaims_transportable : oddClaims.Transportable where
  names := by
    unfold Claims.KeepsNames
    show ∀ m ∈ oddClaims.extra.toList, _
    decide +kernel
  integral := by
    show ∀ m ∈ oddClaims.extra.toList, _
    decide +kernel
  ordered := by
    show ∀ m ∈ oddClaims.extra.toList, _
    decide +kernel
  shallow := by
    show ∀ m ∈ oddClaims.extra.toList, _
    decide +kernel

/-- They come through unsigned, and signed by anyone. -/
theorem oddClaims_read_back :
    oddClaims.Transportable ∧
    DecodedToken.ofText (attachSignature (encodeToken ⟨"none", none⟩ oddClaims) [0x00, 0xFF]) =
      .ok ⟨⟨"none", none⟩, oddClaims, encodeToken ⟨"none", none⟩ oddClaims, [0x00, 0xFF]⟩ ∧
    ∃ decoded, DecodedToken.ofText (TokenIssuer.signClaims ⟨"p", .uniform 7⟩ oddClaims) = .ok decoded ∧
      decoded.claims = oddClaims ∧ decoded.header = ⟨"EdDSA", some "JWT"⟩ := by
  obtain ⟨hplain, hsigned⟩ := tokens_read_back oddClaims oddClaims_transportable
  exact ⟨oddClaims_transportable, hplain ⟨"none", none⟩ [0x00, 0xFF], hsigned ⟨"p", .uniform 7⟩⟩

end FederatedAccess
