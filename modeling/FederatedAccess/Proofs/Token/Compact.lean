import FederatedAccess.Proofs.Results
import FederatedAccess.Token.Compact

/-!
# The text of a token

A compact token is its signing input, a dot and the signature segment. The last dot of the text
tells the two apart, so that the text alone settles what is signed and by which octets
(`Token.signedText_iff`).
-/

namespace FederatedAccess

namespace DecodedToken

/-! ## Segments -/

theorem splitDots_cons (c : Char) (rest : List Char) :
    ∃ part parts, splitDots rest = part :: parts ∧
      splitDots (c :: rest) = if c = '.' then [] :: part :: parts else (c :: part) :: parts := by
  have hne : splitDots rest ≠ [] := by
    cases rest with
    | nil => simp [splitDots]
    | cons d rest =>
      rw [splitDots]
      split
      · simp
      · split <;> simp
  obtain ⟨part, parts, h⟩ := List.exists_cons_of_ne_nil hne
  refine ⟨part, parts, h, ?_⟩
  rw [splitDots, h]

/-- Between the segments stand the dots, and nowhere else. -/
theorem splitDots_spec (chars : List Char) :
    ['.'].intercalate (splitDots chars) = chars ∧ ∀ part ∈ splitDots chars, '.' ∉ part := by
  induction chars with
  | nil => simp [splitDots, List.intercalate]
  | cons c rest ih =>
    obtain ⟨part, parts, hrest, hcons⟩ := splitDots_cons c rest
    obtain ⟨hjoin, hfree⟩ := ih
    rw [hrest] at hjoin hfree
    by_cases hc : c = '.'
    · rw [hcons, if_pos hc]
      constructor
      · rw [List.intercalate_cons_cons, hjoin, hc]
        rfl
      · intro p hp
        rcases List.mem_cons.1 hp with rfl | hp
        · simp
        · exact hfree p hp
    · rw [hcons, if_neg hc]
      constructor
      · cases parts with
        | nil => simpa [List.intercalate] using hjoin
        | cons q qs =>
          rw [List.intercalate_cons_cons] at hjoin ⊢
          rw [← hjoin]
          rfl
      · intro p hp
        rcases List.mem_cons.1 hp with rfl | hp
        · have := hfree part List.mem_cons_self
          simp [this, Ne.symm hc]
        · exact hfree p (List.mem_cons_of_mem _ hp)

/-- What taking apart three segments finds in them. -/
theorem ofSegments_parts {header body signature : List Char} {decoded : DecodedToken}
    (h : ofSegments header body signature = .ok decoded) :
    decoded.signingInput = String.ofList (header ++ '.' :: body) ∧
      octets .signature signature = .ok decoded.signature := by
  simp only [ofSegments, except_bind_ok_iff] at h
  obtain ⟨_, _, _, _, _, _, _, _, signed, hsigned, _, _, hresult⟩ := h
  obtain rfl := Except.ok.inj hresult
  exact ⟨rfl, hsigned⟩

/-- **Segments of a token.** A text that can be taken apart is its signing input, a dot and the
segment of its signature. -/
theorem ofText_text {text : String} {decoded : DecodedToken} (h : ofText text = .ok decoded)
    (htrim : Text.trim text = text) :
    ∃ segment : List Char, text.toList = decoded.signingInput.toList ++ '.' :: segment ∧
      '.' ∉ segment ∧ octets .signature segment = .ok decoded.signature := by
  have hchars : Text.trimChars text.toList = text.toList := by
    rw [← htrim, Text.trim, String.toList_ofList, Text.trimChars_trimChars]
  unfold ofText at h
  split at h
  · rename_i header body signature hsplit
    obtain ⟨hinput, hsigned⟩ := ofSegments_parts h
    obtain ⟨hjoin, hfree⟩ := splitDots_spec (Text.trimChars text.toList)
    rw [hsplit] at hjoin hfree
    refine ⟨signature, ?_, hfree signature (by simp), hsigned⟩
    rw [← hchars, ← hjoin, hinput]
    simp [List.intercalate_cons_cons, List.intercalate_singleton]
  · cases h

end DecodedToken

/-! ## What is signed -/

/-- The text of the token is `input`, a dot, and a segment that stands for `signature`. -/
def Token.SignedText (token : Token) (input : String) (signature : List UInt8) : Prop :=
  ∃ segment : String, token.text = input ++ "." ++ segment ∧ '.' ∉ segment.toList ∧
    Base64.decodeUrl? segment = some signature

/-- A list has one last occurrence of a member. -/
theorem append_cons_inj_of_not_mem {α : Type} {a : α} {xs xs' ys ys' : List α}
    (h : xs ++ a :: ys = xs' ++ a :: ys') (hy : a ∉ ys) (hy' : a ∉ ys') : xs = xs' ∧ ys = ys' := by
  rcases List.append_eq_append_iff.1 h with ⟨zs, rfl, hz⟩ | ⟨zs, rfl, hz⟩
  · cases zs with
    | nil => simpa using hz
    | cons z zs =>
      simp only [List.cons_append, List.cons.injEq] at hz
      exact absurd (hz.2 ▸ List.mem_append_right zs List.mem_cons_self) hy
  · cases zs with
    | nil => simpa using hz.symm
    | cons z zs =>
      simp only [List.cons_append, List.cons.injEq] at hz
      exact absurd (hz.2 ▸ List.mem_append_right zs List.mem_cons_self) hy'

/-- **What is signed.** The text of a token settles its signing input and the octets of its
signature, and they are those it was taken apart into. -/
theorem Token.signedText_iff {token : Token} {input : String} {signature : List UInt8} :
    token.SignedText input signature ↔
      input = token.decoded.signingInput ∧ signature = token.decoded.signature := by
  obtain ⟨segment, htext, hfree, hsigned⟩ :=
    DecodedToken.ofText_text token.decoded_eq token.trimmed
  have hdecode : Base64.decodeChars Base64.urlSafe .optional segment =
      some token.decoded.signature := by
    unfold DecodedToken.octets at hsigned
    split at hsigned
    · rename_i found hfound
      rw [hfound, Except.ok.inj hsigned]
    · cases hsigned
  constructor
  · rintro ⟨segment', htext', hfree', hdecode'⟩
    have hlists : input.toList ++ '.' :: segment'.toList =
        token.decoded.signingInput.toList ++ '.' :: segment := by
      rw [← htext, htext']
      simp
    obtain ⟨hinput, hsegment⟩ := append_cons_inj_of_not_mem hlists hfree' hfree
    refine ⟨String.toList_inj.1 hinput, ?_⟩
    rw [Base64.decodeUrl?, hsegment, hdecode] at hdecode'
    exact (Option.some.inj hdecode').symm
  · rintro ⟨rfl, rfl⟩
    refine ⟨String.ofList segment, ?_, ?_, ?_⟩
    · apply String.toList_inj.1
      rw [htext]
      simp
    · simpa using hfree
    · rw [Base64.decodeUrl?, String.toList_ofList, hdecode]

end FederatedAccess
