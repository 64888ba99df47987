import FederatedAccess.Proofs.Honest
import FederatedAccess.Proofs.Number.Numeral
import FederatedAccess.Proofs.Sha2

/-!
# What a proof is bound to

The holder of a token and a service sign hashes of texts. The text that is hashed for a token is
the token followed by the time, with nothing in between, and digits and the sign of a time may also
stand in a token. The two can still be told apart (`hashedText_injective`): the last dot of the
text comes before the signature segment, 64 octets take 86 digits whatever the fill behind them,
and the time has no fill character. For signatures of other lengths the texts are ambiguous.
-/

namespace FederatedAccess

/-- What a proof is signed for. -/
inductive Proof.Purpose
  /-- Possession of a token at a time. -/
  | possession (token : Token) (timestamp : Int64)
  /-- The identity of a service at a time. -/
  | service (timestamp : Int64)

namespace Proof.Purpose

/-- The text whose hash is signed. -/
def hashedText : Purpose → String
  | possession token timestamp => challengeText token.text timestamp
  | service timestamp => Numeral.ofInt timestamp.toInt

/-- The text that is signed. -/
def signedText : Purpose → String
  | possession token timestamp => challengeHash token.text timestamp
  | service timestamp => timestampHash timestamp

theorem signedText_eq (p : Purpose) : p.signedText = Sha2.hexOfText p.hashedText := by
  cases p <;> rfl

/-- The token, if there is one, has a signature of 64 octets, as every token that can be valid. -/
def HasFullSignature : Purpose → Prop
  | possession token _ => token.decoded.signature.length = 64
  | service _ => True

end Proof.Purpose

/-! ## The parts of a token's text -/

/-- The text of a token is what it signs, a dot, and the segment of its signature. -/
theorem Token.exists_segment (token : Token) :
    ∃ segment, token.text.toList = token.decoded.signingInput.toList ++ '.' :: segment ∧
      '.' ∉ segment ∧
      Base64.decodeChars Base64.urlSafe .optional segment = some token.decoded.signature := by
  have hself : token.SignedText token.decoded.signingInput token.decoded.signature :=
    Token.signedText_iff.2 ⟨rfl, rfl⟩
  obtain ⟨segment, htext, hfree, hdecode⟩ := hself
  refine ⟨segment.toList, ?_, hfree, hdecode⟩
  rw [htext]
  simp

/-- What a token signs has a dot in it, between header and body. -/
theorem Token.dot_mem_signingInput (token : Token) :
    '.' ∈ token.decoded.signingInput.toList := by
  have h := token.decoded_eq
  unfold DecodedToken.ofText at h
  split at h
  · obtain ⟨hinput, -⟩ := DecodedToken.ofSegments_parts h
    rw [hinput]
    simp
  · cases h

/-- Fill characters can be told from what stands behind them when this has none. -/
theorem replicate_append_inj {α : Type} {a : α} {m n : Nat} {xs ys : List α}
    (h : List.replicate m a ++ xs = List.replicate n a ++ ys) (hx : a ∉ xs) (hy : a ∉ ys) :
    m = n ∧ xs = ys := by
  induction m generalizing n with
  | zero =>
    cases n with
    | zero => exact ⟨rfl, h⟩
    | succ n =>
      have hmem : a ∈ xs := by
        rw [show xs = a :: (List.replicate n a ++ ys) from h]
        exact List.mem_cons_self
      exact absurd hmem hx
  | succ m ih =>
    cases n with
    | zero =>
      have hmem : a ∈ ys := by
        rw [show ys = a :: (List.replicate m a ++ xs) from h.symm]
        exact List.mem_cons_self
      exact absurd hmem hy
    | succ n =>
      obtain ⟨hmn, hxy⟩ := ih (List.cons.inj h).2
      exact ⟨congrArg Nat.succ hmn, hxy⟩

/-- Two segments of equally many octets can be told from what stands behind them when this has no
fill character. -/
theorem segment_append_inj {first second : List Char} {octets octets' : List UInt8}
    {xs ys : List Char}
    (hfirst : Base64.decodeChars Base64.urlSafe .optional first = some octets)
    (hsecond : Base64.decodeChars Base64.urlSafe .optional second = some octets')
    (hlength : octets.length = octets'.length) (h : first ++ xs = second ++ ys)
    (hx : '=' ∉ xs) (hy : '=' ∉ ys) : first = second ∧ xs = ys := by
  have hfill : Base64.urlSafe.value? '=' = none := by decide
  obtain ⟨digits, m, rfl, -, hdigits⟩ := Base64.decodeChars_eq_some hfill hfirst
  obtain ⟨digits', n, rfl, -, hdigits'⟩ := Base64.decodeChars_eq_some hfill hsecond
  have hsame : digits.length = digits'.length := by rw [hdigits, hdigits', hlength]
  rw [List.append_assoc, List.append_assoc] at h
  obtain ⟨rfl, hrest⟩ := List.append_inj h hsame
  obtain ⟨rfl, hxy⟩ := replicate_append_inj hrest hx hy
  exact ⟨rfl, hxy⟩

/-! ## Texts that are hashed -/

namespace Proof

theorem toList_challengeText (token : String) (timestamp : Int64) :
    (challengeText token timestamp).toList = token.toList ++ Numeral.intChars timestamp.toInt := by
  rw [challengeText, String.toList_append, Numeral.ofInt, String.toList_ofList]

/-- The text of a time has neither dots nor fill characters. -/
theorem not_mem_intChars {i : Int} {c : Char} (hc : c = '.' ∨ c = '=') :
    c ∉ Numeral.intChars i := by
  intro hmem
  have hdigits : ∀ d < 10, Numeral.digitChar d ≠ '.' ∧ Numeral.digitChar d ≠ '=' := by decide
  rcases Numeral.mem_intChars hmem with rfl | ⟨d, hd, rfl⟩
  · rcases hc with hc | hc <;> cases hc
  · rcases hc with hc | hc
    · exact (hdigits d hd).1 hc
    · exact (hdigits d hd).2 hc

/-- **Token and time.** For signatures of one length both can be told from the text that is hashed
for them. -/
theorem challengeText_injective {token token' : Token} {timestamp timestamp' : Int64}
    (hlength : token.decoded.signature.length = token'.decoded.signature.length)
    (h : challengeText token.text timestamp = challengeText token'.text timestamp') :
    token = token' ∧ timestamp = timestamp' := by
  obtain ⟨segment, htext, hfree, hdecode⟩ := token.exists_segment
  obtain ⟨segment', htext', hfree', hdecode'⟩ := token'.exists_segment
  have hchars := congrArg String.toList h
  rw [toList_challengeText, toList_challengeText, htext, htext', List.append_assoc,
    List.append_assoc, List.cons_append, List.cons_append] at hchars
  have hdots : ∀ {xs : List Char} (i : Int), '.' ∉ xs → '.' ∉ xs ++ Numeral.intChars i := by
    intro xs i hxs hmem
    rcases List.mem_append.1 hmem with hmem | hmem
    · exact hxs hmem
    · exact not_mem_intChars (Or.inl rfl) hmem
  -- the last dot comes right before the signature segment, since a time has none
  obtain ⟨hinput, hrest⟩ :=
    append_cons_inj_of_not_mem hchars (hdots _ hfree) (hdots _ hfree')
  obtain ⟨rfl, htime⟩ := segment_append_inj hdecode hdecode' hlength hrest
    (not_mem_intChars (Or.inr rfl)) (not_mem_intChars (Or.inr rfl))
  constructor
  · apply Token.ext_text
    apply String.toList_inj.1
    rw [htext, htext', hinput]
  · exact Int64.toInt_inj.1 (Numeral.intChars_injective htime)

/-- A token has a dot, and a time has none. -/
theorem challengeText_ne_ofInt (token : Token) (timestamp timestamp' : Int64) :
    challengeText token.text timestamp ≠ Numeral.ofInt timestamp'.toInt := by
  intro h
  obtain ⟨segment, htext, -, -⟩ := token.exists_segment
  have hchars := congrArg String.toList h
  rw [toList_challengeText, htext, Numeral.ofInt, String.toList_ofList] at hchars
  have hdot : '.' ∈ Numeral.intChars timestamp'.toInt := by
    rw [← hchars]
    simp
  exact not_mem_intChars (Or.inl rfl) hdot

namespace Purpose

/-- **Purposes.** Of tokens with full signatures, what a text is hashed for can be told from it. -/
theorem hashedText_injective {p q : Purpose} (hp : p.HasFullSignature) (hq : q.HasFullSignature)
    (h : p.hashedText = q.hashedText) : p = q := by
  cases p with
  | possession token timestamp =>
    cases q with
    | possession token' timestamp' =>
      have hlength : token.decoded.signature.length = token'.decoded.signature.length :=
        Eq.trans (hp : _ = 64) (hq : _ = 64).symm
      obtain ⟨rfl, rfl⟩ := challengeText_injective hlength h
      rfl
    | service timestamp' => exact absurd h (challengeText_ne_ofInt token timestamp timestamp')
  | service timestamp =>
    cases q with
    | possession token' timestamp' =>
      exact absurd h.symm (challengeText_ne_ofInt token' timestamp' timestamp)
    | service timestamp' =>
      have htime : timestamp = timestamp' := Int64.toInt_inj.1 (Numeral.ofInt_injective h)
      rw [htime]

/-- No token signs a text that is signed as a proof. -/
theorem signedText_ne_signingInput (p : Purpose) (token : Token) :
    p.signedText ≠ token.decoded.signingInput := by
  intro h
  have hdot := token.dot_mem_signingInput
  rw [← h, signedText_eq] at hdot
  exact Sha2.dot_not_mem_hexOfText _ hdot

end Purpose

/-- One signature that holds for two texts under a key. -/
def HoldsTwice (key : Ed25519.PublicKey) (signature : String) : Prop :=
  ∃ a b, a ≠ b ∧ key.verifiesText a signature = true ∧ key.verifiesText b signature = true

/-- **A proof is for one purpose.** Different purposes, that is another token, another time or a
service in place of a token, have different texts to hash. What is signed are the 64 digits of the
hash, never what a token signs. So one signature is a proof for two purposes only where SHA-256
collides or a signature holds for two texts. -/
theorem signed_for_one_purpose (p q : Purpose) (hp : p.HasFullSignature)
    (hq : q.HasFullSignature) :
    (p.hashedText = q.hashedText → p = q) ∧
    (p.signedText = q.signedText →
      p = q ∨ Sha2.Collide (Utf8.encode p.hashedText) (Utf8.encode q.hashedText)) ∧
    (∀ key signature, key.verifiesText p.signedText signature = true →
      key.verifiesText q.signedText signature = true →
        p = q ∨ Sha2.Collide (Utf8.encode p.hashedText) (Utf8.encode q.hashedText) ∨
          HoldsTwice key signature) ∧
    ∀ (r : Purpose) (token : Token), r.signedText.toList.length = 64 ∧
      (∀ c ∈ r.signedText.toList, ∃ v < 16, c = Hex.digit v) ∧
      r.signedText ≠ token.decoded.signingInput := by
  have hashed : p.hashedText = q.hashedText → p = q := Purpose.hashedText_injective hp hq
  have signed : p.signedText = q.signedText →
      p = q ∨ Sha2.Collide (Utf8.encode p.hashedText) (Utf8.encode q.hashedText) := by
    intro h
    rw [Purpose.signedText_eq, Purpose.signedText_eq] at h
    exact (Sha2.eq_or_collide h).imp_left hashed
  refine ⟨hashed, signed, ?_, ?_⟩
  · intro key signature hverifies hverifies'
    by_cases hsame : p.signedText = q.signedText
    · exact (signed hsame).imp_right Or.inl
    · exact Or.inr (Or.inr ⟨_, _, hsame, hverifies, hverifies'⟩)
  · intro r token
    refine ⟨?_, ?_, r.signedText_ne_signingInput token⟩
    · rw [Purpose.signedText_eq]
      exact Sha2.length_hexOfText _
    · intro c hc
      rw [Purpose.signedText_eq] at hc
      exact Sha2.mem_hexOfText hc

theorem heldClaims_transportable : Authenticator.heldClaims.Transportable :=
  Claims.transportable_of_extra rfl

/-- A token with a signature of 64 octets, which holds under no key. -/
def fullToken : Token :=
  .written ⟨acceptedAlgorithm, none⟩ heldClaims_transportable (List.replicate 64 0)

/-- The same token has different texts to hash at the first and at the eleventh millisecond. -/
theorem full_token_times_apart :
    (Purpose.possession fullToken 1).HasFullSignature ∧
      (Purpose.possession fullToken 11).HasFullSignature ∧
      (Purpose.possession fullToken 1).hashedText ≠ (Purpose.possession fullToken 11).hashedText ∧
      (Purpose.possession fullToken 11).signedText ≠ fullToken.decoded.signingInput := by
  have hfull : ∀ timestamp, (Purpose.possession fullToken timestamp).HasFullSignature :=
    fun _ => List.length_replicate
  obtain ⟨hashed, -, -, hdigits⟩ := signed_for_one_purpose (.possession fullToken 1)
    (.possession fullToken 11) (hfull 1) (hfull 11)
  refine ⟨hfull 1, hfull 11, ?_, (hdigits _ fullToken).2.2⟩
  intro h
  have htime : (1 : Int64) = 11 := (Purpose.possession.inj (hashed h)).2
  exact absurd htime (by decide)

-- a signature of no octets at the time 12345 and one of three octets at the time 5
example : challengeText "h.b." 12345 = challengeText "h.b.1234" 5 := by decide

end Proof

end FederatedAccess
