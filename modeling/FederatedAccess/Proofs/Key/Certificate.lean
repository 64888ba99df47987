import FederatedAccess.Key.Certificate
import FederatedAccess.Proofs.Encoding.Canonical
import FederatedAccess.Proofs.Key.Document

/-!
# Certificates of keys

The certificate made of a key holds this key and no other (`publicKey_ofPublicKey_iff`). The armour
around the wire form is read back line by line; nothing in the wire form can be taken for a line end
or for a boundary, since only digits and the fill stand there, and the wire form of a key fits into
the one line that is read.
-/

namespace FederatedAccess

/-! ## Documents -/

namespace Ed25519.PublicKey

variable {key : PublicKey} {octets : List UInt8}

theorem ofOctets?_eq_some_iff :
    ofOctets? octets = some key ↔ octets = key.octets ∧ (decompress key.octets).isSome = true := by
  unfold ofOctets?
  constructor
  · intro h
    split at h
    · rename_i hpoint
      cases h
      exact ⟨rfl, hpoint⟩
    · cases h
  · rintro ⟨rfl, hpoint⟩
    rw [dif_pos hpoint]

/-- **Documents.** A key is read from one document only. -/
theorem ofDocument?_eq_some_iff :
    ofDocument? octets = some key ↔
      octets = key.document ∧ (decompress key.octets).isSome = true := by
  constructor
  · intro h
    unfold ofDocument? at h
    split at h
    · rename_i hhead
      obtain ⟨rest, rfl⟩ := List.isPrefixOf_iff_prefix.1 hhead
      rw [List.drop_left, ofOctets?_eq_some_iff] at h
      exact ⟨by rw [document, h.1], h.2⟩
    · cases h
  · rintro ⟨rfl, hpoint⟩
    exact ofDocument?_document hpoint

theorem document_injective : Function.Injective document := by
  intro key other h
  exact PublicKey.ext (List.append_cancel_left h)

theorem toList_wire : key.wire.toList = Base64.encodeChars Base64.standard ['='] key.document := by
  rw [wire, Base64.encode, String.toList_ofList]

/-- The wire form of a key has 60 characters. -/
theorem length_wire (key : PublicKey) : key.wire.toList.length = 60 := by
  have hlength : key.document.length = 44 := by
    rw [document, List.length_append, key.length_eq]
    rfl
  rw [toList_wire, Base64.length_encodeChars_filled, hlength]

end Ed25519.PublicKey

/-! ## Armour -/

/-- A line end is trimmed away from behind a text whose ends are not blank. -/
theorem Text.trimChars_lineEnd {chars : List Char} (hne : chars ≠ [])
    (hfirst : ∀ c rest, chars = c :: rest → isBlank c = false)
    (hlast : ∀ c rest, chars.reverse = c :: rest → isBlank c = false) :
    trimChars (chars ++ ['\n']) = chars := by
  have hstart : ∀ c rest, chars ++ ['\n'] = c :: rest → isBlank c = false := by
    intro c rest h
    obtain ⟨d, more, rfl⟩ := List.exists_cons_of_ne_nil hne
    have hsame : d = c := (List.cons.inj h).1
    exact hsame ▸ hfirst d more rfl
  have hend : isBlank '\n' = true := by decide
  rw [trimChars, dropWhile_eq_self hstart, List.reverse_append, List.reverse_singleton,
    List.singleton_append, List.dropWhile_cons_of_pos hend, dropWhile_eq_self hlast,
    List.reverse_reverse]

namespace Certificate

def opening : List Char := beginBoundary ++ label ++ delimiter

def closing : List Char := endBoundary ++ label ++ delimiter

/-- A line of content between the two boundaries. -/
def armoured (content : List Char) : List Char :=
  opening ++ '\n' :: (content ++ '\n' :: closing)

variable {content : List Char} {key found : Ed25519.PublicKey}

theorem after?_append (start rest : List Char) : after? start (start ++ rest) = some rest := by
  rw [after?, if_pos (List.isPrefixOf_iff_prefix.2 (List.prefix_append _ _)), List.drop_left]

theorem armour?_armoured : armour? (armoured content) = some (armoured content) := by
  have hbegin : beginBoundary <+: armoured content := by
    rw [armoured, opening, List.append_assoc, List.append_assoc]
    exact List.prefix_append _ _
  rw [armour?, if_pos (List.isPrefixOf_iff_prefix.2 hbegin)]

/-- What ends a line does not stand in the content. -/
theorem beforeLineEnd?_of_not_blank (h : ∀ c ∈ content, Text.isBlank c = false) :
    beforeLineEnd? content = none ∧ beforeLineEnd? ('\n' :: content) = some content := by
  cases content with
  | nil => exact ⟨rfl, rfl⟩
  | cons c rest =>
    have hblank : Text.isBlank c = false := h c List.mem_cons_self
    have hfeed : c ≠ '\n' := by
      rintro rfl
      exact absurd hblank (by decide)
    have hreturn : c ≠ '\r' := by
      rintro rfl
      exact absurd hblank (by decide)
    constructor
    · unfold beforeLineEnd?
      split <;> simp_all
    · unfold beforeLineEnd?
      split <;> simp_all

/-- **Armour.** Content without blank characters is found again. -/
theorem content?_armoured (h : ∀ c ∈ content, Text.isBlank c = false) :
    content? (armoured content) = some content := by
  have hreverse : ∀ c ∈ content.reverse, Text.isBlank c = false := by
    intro c hc
    exact h c (List.mem_reverse.1 hc)
  obtain ⟨hnone, hsome⟩ := beforeLineEnd?_of_not_blank hreverse
  have hbackward : (content ++ '\n' :: closing).reverse =
      closing.reverse ++ '\n' :: content.reverse := by simp
  have hopened : after? (beginBoundary ++ label ++ delimiter) (armoured content) =
      some ('\n' :: (content ++ '\n' :: closing)) := after?_append opening _
  have hclosed : after? (endBoundary ++ label ++ delimiter).reverse
      (content ++ '\n' :: closing).reverse = some ('\n' :: content.reverse) := by
    rw [hbackward]
    exact after?_append closing.reverse _
  simp only [content?, hopened, afterLineEnd?, Option.bind_eq_bind, Option.bind_some, hclosed,
    hsome, hnone, Option.getD_none, List.reverse_reverse]

/-! ## Certificates -/

/-- The text of a certificate is the armoured wire form and a line end, which is trimmed away. -/
theorem trim_ofPublicKey (key : Ed25519.PublicKey) :
    (Text.trim (ofPublicKey key).text).toList = armoured key.wire.toList := by
  have hbegin : "-----BEGIN PUBLIC KEY-----\n".toList = opening ++ ['\n'] := by decide +kernel
  have hend : "\n-----END PUBLIC KEY-----\n".toList = '\n' :: (closing ++ ['\n']) := by
    decide +kernel
  have hlines : ∀ line : String,
      ("-----BEGIN PUBLIC KEY-----\n" ++ line ++ "\n-----END PUBLIC KEY-----\n").toList =
        armoured line.toList ++ ['\n'] := by
    intro line
    rw [String.toList_append, String.toList_append, hbegin, hend, armoured]
    simp
  have htext : (ofPublicKey key).text.toList = armoured key.wire.toList ++ ['\n'] :=
    hlines key.wire
  have hopening : opening = '-' :: opening.tail := by decide +kernel
  have hclosing : closing.reverse = '-' :: closing.reverse.tail := by decide +kernel
  rw [Text.trim, String.toList_ofList, htext]
  apply Text.trimChars_lineEnd
  · rw [armoured, hopening]
    exact List.cons_ne_nil _ _
  · intro c rest h
    rw [armoured, hopening] at h
    cases h
    decide
  · intro c rest h
    rw [armoured, List.reverse_append, List.reverse_cons, List.reverse_append, List.reverse_cons,
      hclosing] at h
    cases h
    decide

theorem isEmpty_ofPublicKey (key : Ed25519.PublicKey) : (ofPublicKey key).isEmpty = false := by
  have hne : (Text.trim (ofPublicKey key).text).toList ≠ [] := by
    rw [trim_ofPublicKey]
    exact List.cons_ne_nil _ _
  rw [isEmpty, Bool.eq_false_iff]
  intro hempty
  rw [String.isEmpty_iff] at hempty
  exact hne (by rw [hempty]; rfl)

theorem not_blank_of_mem_wire {c : Char} (h : c ∈ key.wire.toList) : Text.isBlank c = false := by
  rw [Ed25519.PublicKey.toList_wire] at h
  exact Base64.not_blank_of_mem_encodeChars h

/-- The wire form is taken out of the armour and decoded. -/
theorem document?_ofPublicKey (key : Ed25519.PublicKey) :
    document? (Text.trim (ofPublicKey key).text).toList = some key.document := by
  have hcontent : content? (armoured key.wire.toList) = some key.wire.toList :=
    content?_armoured fun c => not_blank_of_mem_wire
  have hdecode : Base64.decodeChars Base64.standard .required key.wire.toList =
      some key.document := Base64.decode?_encode key.document
  have hfits : key.wire.toList.length ≤ lineWidth := by
    rw [Ed25519.PublicKey.length_wire]
    decide
  rw [trim_ofPublicKey, document?, armour?_armoured]
  simp only [Option.bind_eq_bind, Option.bind_some, hcontent, hdecode, if_pos hfits]

/-- **Certificates.** The certificate made of a key holds this key, if its octets are a point, and
never another one. -/
theorem publicKey_ofPublicKey_iff :
    (ofPublicKey key).publicKey = .ok found ↔
      found = key ∧ (Ed25519.decompress key.octets).isSome = true := by
  rw [publicKey, isEmpty_ofPublicKey, if_neg Bool.false_ne_true, document?_ofPublicKey,
    Option.bind_some]
  constructor
  · intro h
    split at h
    · rename_i read hread
      obtain rfl := Except.ok.inj h
      obtain ⟨hsame, hpoint⟩ := Ed25519.PublicKey.ofDocument?_eq_some_iff.1 hread
      obtain rfl := Ed25519.PublicKey.document_injective hsame
      exact ⟨rfl, hpoint⟩
    · cases h
  · rintro ⟨rfl, hpoint⟩
    rw [Ed25519.PublicKey.ofDocument?_document hpoint]

end Certificate

end FederatedAccess
