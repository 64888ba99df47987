import FederatedAccess.Proofs.Catalog
import FederatedAccess.Rule

/-!
# What a rule means, token by token

A leaf tests tokens one by one, so what meets it is a part of the candidates (`metWith_induction`).
A combination looks at whether its rules are met at all and at the tokens that meet them; the four
equivalences below say which tokens meet each combination. Statements about all rules are proved
by going through the tree with these alone.
-/

namespace FederatedAccess

/-! ## Going through a tree -/

/-- What holds of all leaves, and of a combination when it holds of its rules, holds of all
rules. -/
theorem Rule.induction {motive : Rule → Prop}
    (boolean : ∀ name operator, motive (.boolean name operator))
    (numeric : ∀ name expected operator, motive (.numeric name expected operator))
    (text : ∀ name expected operator, motive (.text name expected operator))
    (composite : ∀ rules operator, (∀ rule ∈ rules, motive rule) →
      motive (.composite rules operator)) (rule : Rule) : motive rule := by
  refine Rule.rec (motive_1 := motive) (motive_2 := fun rules => ∀ rule ∈ rules, motive rule)
    boolean numeric text composite ?_ ?_ rule
  · intro rule hrule
    exact absurd hrule List.not_mem_nil
  · intro first rest hfirst hrest
    exact List.forall_mem_cons.2 ⟨hfirst, hrest⟩

namespace Rule

variable {kept : Patterns} {tokens : TokenSet} {token : Token} {rules : List Rule}
  {sets : List TokenSet}

/-! ## Unions -/

theorem mem_foldl_union {set : TokenSet} :
    token ∈ sets.foldl Catalog.union set ↔ token ∈ set ∨ ∃ met ∈ sets, token ∈ met := by
  induction sets generalizing set with
  | nil => simp
  | cons first rest ih =>
    rw [List.foldl_cons, ih, Catalog.mem_union fun _ _ => Token.ext_text]
    simp [or_assoc]

theorem mem_unionAll : token ∈ unionAll sets ↔ ∃ met ∈ sets, token ∈ met := by
  rw [unionAll, mem_foldl_union]
  simp

/-! ## Leaves -/

variable [Pattern.SizeLimit]

theorem mem_metWith_boolean {name : String} {operator : BooleanOperator} :
    token ∈ (boolean name operator).metWith kept tokens ↔
      token ∈ tokens ∧
        ∃ value, token.attribute? name = some value ∧ operator.holds value = true := by
  rw [metWith, carrying, Catalog.mem_filter]
  cases token.attribute? name <;> simp

/-- A comparison with a text is a test of single tokens, also by a pattern: one that cannot be read
is a test that all tokens fail. -/
theorem exists_test_text (kept : Patterns) (name expected : String) (operator : TextOperator) :
    ∃ test : Token → Bool, ∀ tokens : TokenSet,
      (text name expected operator).metWith kept tokens = tokens.filter test := by
  cases operator with
  | compare relation caseless => exact ⟨_, fun _ => rfl⟩
  | pattern =>
    simp only [metWith, matching]
    cases (kept.get? expected).or (Pattern.ofText? expected) with
    | some pattern => exact ⟨_, fun _ => rfl⟩
    | none =>
      refine ⟨fun _ => false, fun tokens => Catalog.ext_mem fun token => ?_⟩
      simp

/-- **Induction over what rules mean.** Every rule is a test of single tokens or combines rules. -/
theorem metWith_induction (kept : Patterns) {motive : Rule → Prop}
    (test : ∀ rule (test : Token → Bool),
      (∀ tokens : TokenSet, rule.metWith kept tokens = tokens.filter test) → motive rule)
    (composite : ∀ rules operator, (∀ rule ∈ rules, motive rule) →
      motive (.composite rules operator)) (rule : Rule) : motive rule := by
  induction rule using Rule.induction with
  | boolean name operator => exact test _ _ fun _ => rfl
  | numeric name expected operator => exact test _ _ fun _ => rfl
  | text name expected operator =>
    obtain ⟨passes, hpasses⟩ := exists_test_text kept name expected operator
    exact test _ passes hpasses
  | composite rules operator ih => exact composite rules operator ih

/-! ## Combinations -/

theorem metEach_eq_map : metEach kept tokens rules = rules.map (metWith kept tokens) := by
  induction rules with
  | nil => rfl
  | cons rule rest ih => rw [metEach, ih, List.map_cons]

/-- All rules are met, each by some token. -/
def AllMet (kept : Patterns) (tokens : TokenSet) (rules : List Rule) : Prop :=
  ∀ rule ∈ rules, (rule.metWith kept tokens).Nonempty

def NoneMet (kept : Patterns) (tokens : TokenSet) (rules : List Rule) : Prop :=
  ∀ rule ∈ rules, ¬ (rule.metWith kept tokens).Nonempty

/-- The token meets one of the rules. -/
def MeetsOne (kept : Patterns) (tokens : TokenSet) (rules : List Rule) (token : Token) : Prop :=
  ∃ rule ∈ rules, token ∈ rule.metWith kept tokens

theorem mem_unionAll_metEach :
    token ∈ unionAll (metEach kept tokens rules) ↔ MeetsOne kept tokens rules token := by
  rw [mem_unionAll, metEach_eq_map, MeetsOne]
  simp

theorem all_metEach_iff :
    ((metEach kept tokens rules).all fun set => !set.isEmpty) = true ↔
      AllMet kept tokens rules := by
  rw [metEach_eq_map, AllMet, List.all_eq_true]
  simp [Catalog.isEmpty_eq_false_iff]

theorem none_metEach_iff :
    ((metEach kept tokens rules).all fun set => set.isEmpty) = true ↔
      NoneMet kept tokens rules := by
  rw [metEach_eq_map, NoneMet, List.all_eq_true]
  simp [Catalog.isEmpty_iff, Catalog.not_nonempty_iff]

/-- A token meets all rules together when it meets one of them and none is unmet. -/
theorem mem_metWith_and :
    token ∈ (composite rules .and).metWith kept tokens ↔
      AllMet kept tokens rules ∧ MeetsOne kept tokens rules token := by
  rw [metWith, combine, ← all_metEach_iff, ← mem_unionAll_metEach]
  split
  · rename_i h
    simp [h]
  · rename_i h
    simp [h]

theorem mem_metWith_or :
    token ∈ (composite rules .or).metWith kept tokens ↔ MeetsOne kept tokens rules token :=
  mem_unionAll_metEach

/-- A token meets the opposite of all rules together when it meets one of them and one is unmet. -/
theorem mem_metWith_nand :
    token ∈ (composite rules .nand).metWith kept tokens ↔
      ¬ AllMet kept tokens rules ∧ MeetsOne kept tokens rules token := by
  rw [metWith, combine, ← all_metEach_iff, ← mem_unionAll_metEach]
  split
  · rename_i h
    simp [h]
  · rename_i h
    simp [h]

/-- All tokens meet the opposite of a choice of rules as long as none of these is met. -/
theorem mem_metWith_nor :
    token ∈ (composite rules .nor).metWith kept tokens ↔
      NoneMet kept tokens rules ∧ token ∈ tokens := by
  rw [metWith, combine, ← none_metEach_iff]
  split
  · rename_i h
    simp [h]
  · rename_i h
    simp [h]

/-- **Nothing is made up.** Whatever meets a rule is among the candidates. -/
theorem metWith_subset (kept : Patterns) (tokens : TokenSet) (rule : Rule) :
    rule.metWith kept tokens ⊆ tokens := by
  induction rule using metWith_induction kept with
  | test rule test htest =>
    intro token hmem
    rw [htest, Catalog.mem_filter] at hmem
    exact hmem.1
  | composite rules operator ih =>
    have hone : ∀ token, MeetsOne kept tokens rules token → token ∈ tokens := by
      rintro token ⟨rule, hrule, hmem⟩
      exact ih rule hrule token hmem
    intro token hmem
    cases operator with
    | and => exact hone token (mem_metWith_and.1 hmem).2
    | or => exact hone token (mem_metWith_or.1 hmem)
    | nand => exact hone token (mem_metWith_nand.1 hmem).2
    | nor => exact (mem_metWith_nor.1 hmem).2

end Rule

end FederatedAccess
