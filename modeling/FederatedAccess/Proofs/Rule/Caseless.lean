import FederatedAccess.Proofs.Rule.Positive
import FederatedAccess.Proofs.Text.Lowercase

/-!
# Rules without regard to case

Without regard to case, a rule compares lower-case forms of whole texts. One would expect it to be met
by all tokens that meet the comparison as it stands. For equality this is so. For parts of a text it
is so exactly when the expected text settles by itself which form its capital sigmas get
(`caseless_relaxes_iff`). An expected text that is open on a side can occur in a value and not occur
in it without regard to case, and then the opposite operator is met by a value that it should refuse
(`sigma_hides_part`).
-/

namespace FederatedAccess

/-! ## Relations of texts -/

namespace TextRelation

theorem occurs_iff {part whole : List Char} : occurs part whole = true ↔ part <:+: whole := by
  induction whole with
  | nil => simp [occurs]
  | cons c rest ih =>
    rw [occurs, Bool.or_eq_true, ih, List.infix_cons_iff, List.isPrefixOf_iff_prefix]

variable {value expected : String}

theorem holds_contains_iff :
    contains.holds value expected = true ↔ expected.toList <:+: value.toList :=
  occurs_iff

theorem holds_startsWith_iff :
    startsWith.holds value expected = true ↔ expected.toList <+: value.toList :=
  List.isPrefixOf_iff_prefix

theorem holds_endsWith_iff :
    endsWith.holds value expected = true ↔ expected.toList <:+ value.toList :=
  List.isSuffixOf_iff_suffix

end TextRelation

theorem Text.toList_lowercase (text : String) :
    (Text.lowercase text).toList = Text.lowerFrom [] text.toList :=
  String.toList_ofList

namespace TextOperator

open TextRelation Text

/-- What is in the relation stays in it when case is ignored. -/
def Relaxes (relation : TextRelation) (expected : String) : Prop :=
  ∀ value, compares relation false value expected = true →
    compares relation true value expected = true

variable {expected : String}

theorem compares_notContains (caseless : Bool) (value expected : String) :
    compares notContains caseless value expected = !compares contains caseless value expected := by
  cases caseless <;> rfl

theorem relaxes_equals : Relaxes equals expected := by
  intro value h
  have hvalue : value = expected := of_decide_eq_true h
  rw [hvalue]
  exact decide_eq_true rfl

theorem relaxes_startsWith_iff : Relaxes startsWith expected ↔ ¬OpenAtEnd expected.toList := by
  rw [← isPrefix_lowerFrom_iff]
  constructor
  · intro hrelaxes ys
    have h := hrelaxes (expected ++ String.ofList ys)
      (holds_startsWith_iff.2 (by simp [String.toList_append]))
    have hlower := holds_startsWith_iff.1 h
    rwa [toList_lowercase, toList_lowercase, String.toList_append, String.toList_ofList] at hlower
  · intro hall value h
    obtain ⟨ys, hys⟩ := holds_startsWith_iff.1 h
    refine holds_startsWith_iff.2 ?_
    rw [toList_lowercase, toList_lowercase, ← hys]
    exact hall ys

theorem relaxes_endsWith_iff : Relaxes endsWith expected ↔ ¬OpenAtStart expected.toList := by
  rw [← isSuffix_lowerFrom_iff]
  constructor
  · intro hrelaxes ys
    have h := hrelaxes (String.ofList ys ++ expected)
      (holds_endsWith_iff.2 (by simp [String.toList_append]))
    have hlower := holds_endsWith_iff.1 h
    rwa [toList_lowercase, toList_lowercase, String.toList_append, String.toList_ofList] at hlower
  · intro hall value h
    obtain ⟨ys, hys⟩ := holds_endsWith_iff.1 h
    refine holds_endsWith_iff.2 ?_
    rw [toList_lowercase, toList_lowercase, ← hys]
    exact hall ys

theorem relaxes_contains_iff :
    Relaxes contains expected ↔ ¬OpenAtStart expected.toList ∧ ¬OpenAtEnd expected.toList := by
  rw [← isInfix_lowerFrom_iff]
  constructor
  · intro hrelaxes ys zs
    have h := hrelaxes (String.ofList ys ++ expected ++ String.ofList zs)
      (holds_contains_iff.2 ⟨ys, zs, by simp⟩)
    have hlower := holds_contains_iff.1 h
    rw [toList_lowercase, toList_lowercase] at hlower
    simpa using hlower
  · intro hall value h
    obtain ⟨ys, zs, hvalue⟩ := holds_contains_iff.1 h
    refine holds_contains_iff.2 ?_
    rw [toList_lowercase, toList_lowercase, ← hvalue]
    exact hall ys zs

end TextOperator

/-! ## Rules -/

namespace Rule

open TextRelation TextOperator Text

/-- For every value there is a token that carries it under a given name, prefixed or not. -/
theorem exists_attribute?_eq (name value : String) :
    ∃ token : Token, token.attribute? name = some value :=
  ⟨Token.bearer ((withoutPrefix? name).getD name) value, Token.attribute?_bearer_iff.2 ⟨rfl, rfl⟩⟩

variable {name expected : String} {relation : TextRelation} {caseless : Bool} {tokens : TokenSet}
  {token : Token}

section

variable [Pattern.SizeLimit]

theorem mem_met_compare :
    token ∈ (text name expected (.compare relation caseless)).met tokens ↔
      token ∈ tokens ∧ ∃ value, token.attribute? name = some value ∧
        compares relation caseless value expected = true := by
  rw [met, metWith, carrying, Catalog.mem_filter]
  cases token.attribute? name <;> simp

/-- One comparison is met by the tokens that meet another exactly when it holds of the same values. -/
theorem met_subset_iff {relation' : TextRelation} {caseless' : Bool} :
    (∀ tokens, (text name expected (.compare relation caseless)).met tokens ⊆
        (text name expected (.compare relation' caseless')).met tokens) ↔
      ∀ value, compares relation caseless value expected = true →
        compares relation' caseless' value expected = true := by
  constructor
  · intro hall value h
    obtain ⟨token, htoken⟩ := exists_attribute?_eq name value
    have hmem : token ∈ (Catalog.ofList [token] : TokenSet) :=
      (Catalog.mem_ofList fun _ _ => Token.ext_text).2 (List.mem_singleton_self token)
    have hmet := hall _ token (mem_met_compare.2 ⟨hmem, value, htoken, h⟩)
    obtain ⟨-, value', hvalue', h'⟩ := mem_met_compare.1 hmet
    rw [htoken] at hvalue'
    rwa [Option.some.inj hvalue']
  · intro hvalues tokens token hmet
    obtain ⟨hmem, value, hvalue, h⟩ := mem_met_compare.1 hmet
    exact mem_met_compare.2 ⟨hmem, value, hvalue, hvalues value h⟩

/-- Not to contain a text is the opposite of containing it, among the tokens with the attribute. -/
theorem mem_met_notContains :
    token ∈ (text name expected (.compare .notContains caseless)).met tokens ↔
      (token ∈ tokens ∧ (token.attribute? name).isSome = true) ∧
        token ∉ (text name expected (.compare .contains caseless)).met tokens := by
  rw [mem_met_compare, mem_met_compare]
  cases token.attribute? name with
  | none => simp
  | some value =>
    simp only [compares_notContains, Option.some.injEq, exists_eq_left', Option.isSome_some, and_true,
      Bool.not_eq_true', not_and, Bool.not_eq_true]
    exact and_congr_right fun hmem => (imp_iff_right hmem).symm

/-- **Ignoring case.** It never takes a token away from those that are equal to the expected text. It
takes none away from those that start with it, end with it or contain it exactly when no letter
beside the text can change the form of a capital sigma in it, and then the opposite of containing it
gains none. This opposite always is one, among the tokens with the attribute. -/
theorem caseless_relaxes_iff (name expected : String) :
    (∀ tokens, (text name expected (.compare .equals false)).met tokens ⊆
        (text name expected (.compare .equals true)).met tokens) ∧
      ((∀ tokens, (text name expected (.compare .startsWith false)).met tokens ⊆
          (text name expected (.compare .startsWith true)).met tokens) ↔
        ¬OpenAtEnd expected.toList) ∧
      ((∀ tokens, (text name expected (.compare .endsWith false)).met tokens ⊆
          (text name expected (.compare .endsWith true)).met tokens) ↔
        ¬OpenAtStart expected.toList) ∧
      ((∀ tokens, (text name expected (.compare .contains false)).met tokens ⊆
          (text name expected (.compare .contains true)).met tokens) ↔
        ¬OpenAtStart expected.toList ∧ ¬OpenAtEnd expected.toList) ∧
      ((∀ tokens, (text name expected (.compare .notContains true)).met tokens ⊆
          (text name expected (.compare .notContains false)).met tokens) ↔
        ¬OpenAtStart expected.toList ∧ ¬OpenAtEnd expected.toList) ∧
      ∀ caseless tokens token, token ∈ (text name expected (.compare .notContains caseless)).met tokens ↔
        (token ∈ tokens ∧ (token.attribute? name).isSome = true) ∧
          token ∉ (text name expected (.compare .contains caseless)).met tokens := by
  have hnegative : (∀ value, compares .notContains true value expected = true →
      compares .notContains false value expected = true) ↔ Relaxes .contains expected := by
    refine forall_congr' fun value => ?_
    rw [compares_notContains, compares_notContains]
    cases compares .contains true value expected <;>
      cases compares .contains false value expected <;> decide
  refine ⟨?_, ?_, ?_, ?_, ?_, fun caseless tokens token => mem_met_notContains⟩
  · exact met_subset_iff.2 relaxes_equals
  · exact met_subset_iff.trans relaxes_startsWith_iff
  · exact met_subset_iff.trans relaxes_endsWith_iff
  · exact met_subset_iff.trans relaxes_contains_iff
  · exact met_subset_iff.trans (hnegative.trans relaxes_contains_iff)

end

/-! ## A sigma that is final only in part of the text -/

attribute [local instance] Pattern.SizeLimit.unlimited

/-- The only token of a set carries the value, and meets the comparison. -/
def MeetsAlone (relation : TextRelation) (caseless : Bool) (value expected : String) : Prop :=
  Token.bearer "v" value ∈ (text "v" expected (.compare relation caseless)).met
    (Catalog.ofList [Token.bearer "v" value])

theorem meetsAlone_iff {value : String} :
    MeetsAlone relation caseless value expected ↔ compares relation caseless value expected = true := by
  have hmem : Token.bearer "v" value ∈ (Catalog.ofList [Token.bearer "v" value] : TokenSet) :=
    (Catalog.mem_ofList fun _ _ => Token.ext_text).2 (List.mem_singleton_self _)
  have hvalue : (Token.bearer "v" value).attribute? "v" = some value :=
    Token.attribute?_bearer_iff.2 ⟨by decide, rfl⟩
  rw [MeetsAlone, mem_met_compare, hvalue]
  simp [hmem]

/-- **Hidden by a sigma.** The value contains the expected text and starts with it, but not without
regard to case, so that the opposite operator is met by it only then; and likewise at the end. -/
theorem sigma_hides_part :
    (MeetsAlone .contains false "ΑΣΑ" "ΑΣ" ∧ ¬MeetsAlone .contains true "ΑΣΑ" "ΑΣ") ∧
      (MeetsAlone .notContains true "ΑΣΑ" "ΑΣ" ∧ ¬MeetsAlone .notContains false "ΑΣΑ" "ΑΣ") ∧
      (MeetsAlone .startsWith false "ΑΣΑ" "ΑΣ" ∧ ¬MeetsAlone .startsWith true "ΑΣΑ" "ΑΣ") ∧
      (MeetsAlone .endsWith false "ΑΣ" "Σ" ∧ ¬MeetsAlone .endsWith true "ΑΣ" "Σ") := by
  simp only [meetsAlone_iff]
  decide +kernel

end Rule

end FederatedAccess
