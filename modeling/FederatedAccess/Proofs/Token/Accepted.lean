import FederatedAccess.Proofs.Encoding.Canonical
import FederatedAccess.Proofs.Json.Field
import FederatedAccess.Proofs.Json.Object
import FederatedAccess.Proofs.Token.RoundTrip
import FederatedAccess.Proofs.Token.Sorting

/-!
# Which texts are tokens

A text is taken apart when it spells three sequences of octets between two dots, of which the first is
read as a header and the second as a well-formed body (`accepted_iff`). A header may be an object or,
unlike a body, an array (`array_header_accepted`).
-/

namespace FederatedAccess

open Json.Draft (member?)

namespace TokenHeader

/-! ## Headers -/

/-- An algorithm that is a text, and a kind that is a text, `null` or absent. -/
def IsForm (algorithm kind : Option Json.Draft) : Prop :=
  (∃ s, algorithm = some (.string s)) ∧
    (kind = none ∨ kind = some .null ∨ ∃ s, kind = some (.string s))

/-- The trees that are read as headers: objects that name the algorithm once and the kind no more
than once, whatever else they name, and arrays of one or two items. -/
inductive IsHeader : Json.Draft → Prop
  | object {members : List (Option String × Json.Draft)} :
      (∀ m ∈ members, m.1 ≠ none) →
      (members.map Prod.fst).count (some "alg") ≤ 1 →
      (members.map Prod.fst).count (some "typ") ≤ 1 →
      IsForm (member? members "alg") (member? members "typ") → IsHeader (.object members)
  | array {items : List Json.Draft} :
      items.length ≤ 2 → IsForm items[0]? items[1]? → IsHeader (.array items)

theorem isHeader_iff {draft : Json.Draft} :
    IsHeader draft ↔ ∃ algorithm kind,
      draft.record? ["alg", "typ"] false Json.Draft.deepest = some [algorithm, kind] ∧
        IsForm algorithm kind := by
  constructor
  · rintro (⟨hnames, halgorithm, hkind, hform⟩ | ⟨hshort, hform⟩)
    · refine ⟨_, _, Json.Draft.record?_object_iff.2 ⟨by decide, hnames, ?_, rfl⟩, hform⟩
      intro name hname
      simp only [List.mem_cons, List.not_mem_nil, or_false] at hname
      rcases hname with rfl | rfl
      · exact halgorithm
      · exact hkind
    · exact ⟨_, _, Json.Draft.record?_array_iff.2 ⟨by decide, hshort, rfl⟩, hform⟩
  · rintro ⟨algorithm, kind, hrecord, hform⟩
    cases draft with
    | object members =>
      obtain ⟨-, hnames, honce, hfound⟩ := Json.Draft.record?_object_iff.1 hrecord
      cases hfound
      exact .object hnames (honce "alg" (by simp)) (honce "typ" (by simp)) hform
    | array items =>
      obtain ⟨-, hshort, hfound⟩ := Json.Draft.record?_array_iff.1 hrecord
      cases hfound
      exact .array hshort hform
    | _ => cases hrecord

theorem required_text?_iff {member : Option Json.Draft} {s : String} :
    Json.Draft.required Json.Draft.text? member = some s ↔ member = some (.string s) := by
  cases member with
  | none => simp [Json.Draft.required]
  | some draft => cases draft <;> simp [Json.Draft.required, Json.Draft.text?]

theorem exists_optionalText?_iff {member : Option Json.Draft} :
    (∃ kind, Json.Draft.defaulted none Json.Draft.optionalText? member = some kind) ↔
      member = none ∨ member = some .null ∨ ∃ s, member = some (.string s) := by
  cases member with
  | none => simp [Json.Draft.defaulted]
  | some draft => cases draft <;> simp [Json.Draft.defaulted, Json.Draft.optionalText?]

/-- **Headers.** Exactly these trees are read as headers. -/
theorem exists_ofDraft?_iff {draft : Json.Draft} :
    (∃ header, ofDraft? Json.Draft.deepest draft = some header) ↔ IsHeader draft := by
  rw [isHeader_iff]
  constructor
  · rintro ⟨header, h⟩
    obtain ⟨found, hrecord, h⟩ := Option.bind_eq_some_iff.1 h
    split at h
    · rename_i algorithm kind
      obtain ⟨s, halgorithm, h⟩ := Option.bind_eq_some_iff.1 h
      obtain ⟨k, hkind, -⟩ := Option.bind_eq_some_iff.1 h
      exact ⟨algorithm, kind, hrecord, ⟨s, required_text?_iff.1 halgorithm⟩,
        exists_optionalText?_iff.1 ⟨k, hkind⟩⟩
    · cases h
  · rintro ⟨algorithm, kind, hrecord, ⟨s, halgorithm⟩, hkind⟩
    obtain ⟨k, hk⟩ := exists_optionalText?_iff.2 hkind
    refine ⟨⟨s, k⟩, ?_⟩
    rw [ofDraft?, hrecord]
    show (Json.Draft.required Json.Draft.text? algorithm).bind _ = _
    rw [required_text?_iff.2 halgorithm, Option.bind_some, hk]
    rfl

end TokenHeader

namespace DecodedToken

/-! ## Segments -/

/-- The characters are the digits of the octets, with or without their fill. -/
def Spells (chars : List Char) (octets : List UInt8) : Prop :=
  ∃ count, Base64.Fill.optional.Allows octets.length count ∧
    chars = Base64.encodeChars Base64.urlSafe [] octets ++ List.replicate count '='

theorem octets_ok_iff {segment : Segment} {chars : List Char} {found : List UInt8} :
    octets segment chars = .ok found ↔ Spells chars found := by
  rw [Spells, ← Base64.decodeChars_eq_some_iff Base64.urlSafe_faithful, octets]
  cases Base64.decodeChars Base64.urlSafe .optional chars <;> simp

theorem Spells.dot_not_mem {chars : List Char} {found : List UInt8} (h : Spells chars found) :
    '.' ∉ chars := by
  obtain ⟨count, -, rfl⟩ := h
  intro hdot
  rcases List.mem_append.1 hdot with hdot | hdot
  · exact (Base64.urlSafe_mem_encodeChars hdot).2 rfl
  · exact absurd (List.eq_of_mem_replicate hdot) (by decide)

/-- Three segments are found in the text that joins them. -/
theorem splitDots_eq_three_iff {chars header body signature : List Char} :
    splitDots chars = [header, body, signature] ↔
      chars = header ++ '.' :: (body ++ '.' :: signature) ∧
        '.' ∉ header ∧ '.' ∉ body ∧ '.' ∉ signature := by
  constructor
  · intro h
    obtain ⟨hjoin, hfree⟩ := splitDots_spec chars
    rw [h] at hjoin hfree
    refine ⟨?_, hfree _ (by simp), hfree _ (by simp), hfree _ (by simp)⟩
    rw [← hjoin]
    simp [List.intercalate_cons_cons, List.intercalate_singleton]
  · rintro ⟨rfl, hheader, hbody, hsignature⟩
    rw [splitDots_append hheader, splitDots_append hbody, splitDots_of_not_mem hsignature]

theorem readBody_ok_iff {input : List UInt8} {members : List (String × Json)} :
    readBody input = .ok members ↔ Json.parse? input = some (.object members) := by
  unfold readBody
  split
  · rename_i found hfound
    rw [hfound]
    simp
  · rename_i hother
    exact iff_of_false nofun fun h => hother _ h

theorem exists_readHeader_iff {input : List UInt8} :
    (∃ header, readHeader input = .ok header) ↔
      ∃ draft, Json.Draft.read input = some draft ∧ TokenHeader.IsHeader draft := by
  simp only [← TokenHeader.exists_ofDraft?_iff]
  unfold readHeader
  cases Json.Draft.read input with
  | none => simp
  | some draft => cases hread : TokenHeader.ofDraft? Json.Draft.deepest draft <;> simp [hread]

/-- **Texts.** What a text is taken apart into. -/
theorem ofText_ok_iff {text : String} {decoded : DecodedToken} :
    ofText text = .ok decoded ↔
      ∃ h b s header body, ∃ members : Dictionary Json,
        Text.trimChars text.toList = h ++ '.' :: (b ++ '.' :: s) ∧
        Spells h header ∧ readHeader header = .ok decoded.header ∧
        Spells b body ∧ Json.parse? body = some (.object members.toList) ∧
        Spells s decoded.signature ∧ Claims.SortedFrom members decoded.claims ∧
        decoded.signingInput = String.ofList (h ++ '.' :: b) := by
  constructor
  · intro h
    unfold ofText at h
    split at h
    · rename_i h' b s hsplit
      simp only [ofSegments, except_bind_ok_iff, octets_ok_iff, readBody_ok_iff] at h
      obtain ⟨header, hheader, head, hhead, body, hbody, members, hmembers, signed, hsigned, claims,
        hclaims, hresult⟩ := h
      cases hresult
      obtain ⟨_, entries, -, -, rfl⟩ := Json.parse?_object_iff.1 hmembers
      exact ⟨h', b, s, header, body, Catalog.ofList entries, (splitDots_eq_three_iff.1 hsplit).1,
        hheader, hhead, hbody, hmembers, hsigned, Claims.ofBody_ok_iff.1 hclaims, rfl⟩
    · cases h
  · rintro ⟨h, b, s, header, body, members, htext, hheader, hhead, hbody, hmembers, hsigned, hclaims,
      hinput⟩
    have hsplit := splitDots_eq_three_iff.2
      ⟨htext, hheader.dot_not_mem, hbody.dot_not_mem, hsigned.dot_not_mem⟩
    unfold ofText
    rw [hsplit]
    simp only [ofSegments, except_bind_ok_iff, octets_ok_iff, readBody_ok_iff]
    refine ⟨header, hheader, decoded.header, hhead, body, hbody, members.toList, hmembers,
      decoded.signature, hsigned, decoded.claims, Claims.ofBody_ok_iff.2 hclaims, ?_⟩
    rw [← hinput]
    rfl

/-! ## Acceptance -/

/-- Without blank characters around it, the text is three segments that spell these octets. -/
def HasSegments (text : String) (header body signature : List UInt8) : Prop :=
  ∃ h b s, Text.trimChars text.toList = h ++ '.' :: (b ++ '.' :: s) ∧
    Spells h header ∧ Spells b body ∧ Spells s signature

/-- The text has three segments, of which the first is read as a header and the second as an object
that tells claims. -/
def Acceptable (text : String) : Prop :=
  ∃ (header body signature : List UInt8) (draft : Json.Draft) (members : Dictionary Json),
    HasSegments text header body signature ∧
    Json.Draft.read header = some draft ∧ TokenHeader.IsHeader draft ∧
    Json.parse? body = some (.object members.toList) ∧ Claims.WellFormed members

/-- **Acceptance.** The acceptable texts are taken apart, and for all others there is an error. -/
theorem accepted_iff (text : String) :
    (Acceptable text → ∃ decoded, ofText text = .ok decoded) ∧
      (¬ Acceptable text → ∃ e, ofText text = .error e) := by
  constructor
  · rintro ⟨header, body, signature, draft, members, ⟨h, b, s, htext, hheader, hbody, hsigned⟩, hread,
      hdraft, hmembers, hformed⟩
    obtain ⟨head, hhead⟩ := exists_readHeader_iff.2 ⟨draft, hread, hdraft⟩
    obtain ⟨claims, hclaims⟩ := Claims.exists_sortedFrom_iff.2 hformed
    exact ⟨⟨head, claims, String.ofList (h ++ '.' :: b), signature⟩, ofText_ok_iff.2 ⟨h, b, s, header,
      body, members, htext, hheader, hhead, hbody, hmembers, hsigned, hclaims, rfl⟩⟩
  · intro hnot
    cases hresult : ofText text with
    | error e => exact ⟨e, rfl⟩
    | ok decoded =>
      obtain ⟨h, b, s, header, body, members, htext, hheader, hhead, hbody, hmembers, hsigned,
        hclaims, -⟩ := ofText_ok_iff.1 hresult
      obtain ⟨draft, hread, hdraft⟩ := exists_readHeader_iff.1 ⟨_, hhead⟩
      exact absurd ⟨header, body, decoded.signature, draft, members,
        ⟨h, b, s, htext, hheader, hbody, hsigned⟩, hread, hdraft, hmembers, hclaims.wellFormed⟩ hnot

/-! ## A header that is no object -/

/-- A token under the header `["EdDSA"]`. -/
def arrayHeaderText : String :=
  "WyJFZERTQSJd.eyJleHAiOjEsImlwayI6IiIsImlzcyI6InAiLCJzdWIiOiJnIiwidHR5cCI6IkdVRVNUIn0."

/-- It is taken apart although its header is an array. -/
theorem array_header_accepted :
    (∃ decoded, ofText arrayHeaderText = .ok decoded ∧ decoded.header = ⟨"EdDSA", none⟩) ∧
      ¬ ∃ header body signature members, HasSegments arrayHeaderText header body signature ∧
        Json.Draft.read header = some (.object members) := by
  constructor
  · have hheader : (ofText arrayHeaderText).map DecodedToken.header = .ok ⟨"EdDSA", none⟩ := by
      decide +kernel
    exact except_map_ok_iff.1 hheader
  · rintro ⟨header, body, signature, members, ⟨h, b, s, htext, hheader, hbody, hsigned⟩, hread⟩
    have hsplit := splitDots_eq_three_iff.2
      ⟨htext, hheader.dot_not_mem, hbody.dot_not_mem, hsigned.dot_not_mem⟩
    have hfirst : (splitDots (Text.trimChars arrayHeaderText.toList)).head? =
        some "WyJFZERTQSJd".toList := by decide +kernel
    rw [hsplit, List.head?_cons, Option.some.injEq] at hfirst
    have hoctets : octets .header "WyJFZERTQSJd".toList =
        .ok (Utf8.encode (Json.array [.string "EdDSA"]).text) := by decide +kernel
    rw [← hfirst, octets_ok_iff.2 hheader] at hoctets
    rw [Except.ok.inj hoctets, Json.Draft.read_text rfl] at hread
    cases hread

end DecodedToken

end FederatedAccess
