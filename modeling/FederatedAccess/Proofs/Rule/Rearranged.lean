import FederatedAccess.Proofs.Rule.Positive

/-!
# Combinations as sets of rules

A combination counts the rules that are met and collects the tokens that meet them. Still, only the
sets of tokens that meet one rule or the other matter (`combine_congr`), neither their order nor how
often each of them comes. So the rules of a combination may be reordered and repeated, at any depth
of a tree (`Rearranged.metWith_eq`), and the four combinations of the same rules are tied to each
other.
-/

namespace FederatedAccess

namespace Rule

variable {kept : Patterns} {tokens : TokenSet} {rules others : List Rule} {rule other : Rule}
  {sets sets' : List TokenSet} {operator : CompositeOperator}

/-! ## Order and number -/

theorem all_congr_mem {test : TokenSet → Bool} (h : ∀ set, set ∈ sets ↔ set ∈ sets') :
    sets.all test = sets'.all test := by
  rw [Bool.eq_iff_iff, List.all_eq_true, List.all_eq_true]
  constructor
  · intro hall set hset
    exact hall set ((h set).2 hset)
  · intro hall set hset
    exact hall set ((h set).1 hset)

theorem unionAll_congr (h : ∀ set, set ∈ sets ↔ set ∈ sets') : unionAll sets = unionAll sets' := by
  refine Catalog.ext_mem fun token => ?_
  rw [mem_unionAll, mem_unionAll]
  constructor
  · rintro ⟨set, hset, hmem⟩
    exact ⟨set, (h set).1 hset, hmem⟩
  · rintro ⟨set, hset, hmem⟩
    exact ⟨set, (h set).2 hset, hmem⟩

/-- Only the sets that come matter to a combination. -/
theorem combine_congr (operator : CompositeOperator) (tokens : TokenSet)
    (h : ∀ set, set ∈ sets ↔ set ∈ sets') :
    combine operator tokens sets = combine operator tokens sets' := by
  simp only [combine, all_congr_mem h, unionAll_congr h]

/-- One rule becomes the other when, at any depth, the rules of combinations are reordered, and
repeated or the repetitions left out. -/
inductive Rearranged : Rule → Rule → Prop
  | refl (rule : Rule) : Rearranged rule rule
  | symm {rule other : Rule} : Rearranged rule other → Rearranged other rule
  | trans {rule middle other : Rule} :
      Rearranged rule middle → Rearranged middle other → Rearranged rule other
  | reordered (operator : CompositeOperator) {rules others : List Rule} :
      rules.Perm others → Rearranged (composite rules operator) (composite others operator)
  | repeated (operator : CompositeOperator) {rules : List Rule} {rule : Rule} :
      rule ∈ rules → Rearranged (composite rules operator) (composite (rule :: rules) operator)
  | inside (operator : CompositeOperator) (before after : List Rule) {rule other : Rule} :
      Rearranged rule other →
        Rearranged (composite (before ++ rule :: after) operator)
          (composite (before ++ other :: after) operator)

section

variable [Pattern.SizeLimit]

/-- Two lists of rules that are met by the same sets of tokens make the same combinations. -/
theorem metWith_composite_congr
    (h : ∀ set, (∃ rule ∈ rules, rule.metWith kept tokens = set) ↔
      ∃ rule ∈ others, rule.metWith kept tokens = set) :
    (composite rules operator).metWith kept tokens =
      (composite others operator).metWith kept tokens := by
  rw [metWith, metWith, metEach_eq_map, metEach_eq_map]
  refine combine_congr operator tokens fun set => ?_
  rw [List.mem_map, List.mem_map]
  exact h set

/-- **Neither order nor number.** A rearranged rule is met by the same tokens. -/
theorem Rearranged.metWith_eq (kept : Patterns) (tokens : TokenSet) (h : Rearranged rule other) :
    rule.metWith kept tokens = other.metWith kept tokens := by
  induction h with
  | refl rule => rfl
  | symm _ ih => exact ih.symm
  | trans _ _ ih ih' => exact ih.trans ih'
  | reordered operator hperm =>
    refine metWith_composite_congr fun set => ?_
    simp only [hperm.mem_iff]
  | repeated operator hmem =>
    refine metWith_composite_congr fun set => ?_
    constructor
    · rintro ⟨rule, hrule, hset⟩
      exact ⟨rule, List.mem_cons_of_mem _ hrule, hset⟩
    · rintro ⟨rule, hrule, hset⟩
      rcases List.mem_cons.1 hrule with rfl | hrule
      · exact ⟨rule, hmem, hset⟩
      · exact ⟨rule, hrule, hset⟩
  | inside operator before after _ ih =>
    refine metWith_composite_congr fun set => ?_
    simp only [List.mem_append, List.mem_cons, or_and_right, exists_or, exists_eq_left, ih]

/-! ## Opposites -/

/-- Either all rules are met, and then all these tokens count together, or they count for the
opposite. -/
theorem mem_and_or_mem_nand_iff {token : Token} :
    token ∈ (composite rules .and).metWith kept tokens ∨
        token ∈ (composite rules .nand).metWith kept tokens ↔
      token ∈ (composite rules .or).metWith kept tokens := by
  rw [mem_metWith_and, mem_metWith_nand, mem_metWith_or, ← or_and_right]
  exact and_iff_right (Classical.em _)

theorem noneMet_iff :
    NoneMet kept tokens rules ↔ ((composite rules .or).metWith kept tokens).isEmpty = true := by
  rw [Catalog.isEmpty_iff]
  constructor
  · intro hnone token hmem
    obtain ⟨rule, hrule, hmet⟩ := mem_metWith_or.1 hmem
    exact hnone rule hrule ⟨token, hmet⟩
  · rintro hempty rule hrule ⟨token, hmet⟩
    exact hempty token (mem_metWith_or.2 ⟨rule, hrule, hmet⟩)

theorem metWith_nor_eq :
    (composite rules .nor).metWith kept tokens =
      if ((composite rules .or).metWith kept tokens).isEmpty then tokens else Catalog.empty := by
  refine Catalog.ext_mem fun token => ?_
  rw [mem_metWith_nor, noneMet_iff]
  split
  · rename_i hempty
    simp [hempty]
  · rename_i hsome
    simp [hsome]

/-- **The laws of combinations.** Rearranging a rule changes nothing. All rules together and their
opposite exclude each other and make up the choice among the rules. The opposite of a choice is met
by all tokens or by none, as the choice is met by none or by some. Where all rules together are met,
each of them is. And nothing is met by tokens that are not there. -/
theorem composite_laws (rules : List Rule) (tokens : TokenSet) :
    (∀ rule other, Rearranged rule other → rule.met tokens = other.met tokens) ∧
    ¬ (((composite rules .and).met tokens).Nonempty ∧
        ((composite rules .nand).met tokens).Nonempty) ∧
    ((composite rules .and).met tokens).union ((composite rules .nand).met tokens) =
      (composite rules .or).met tokens ∧
    (composite rules .nor).met tokens =
      (if ((composite rules .or).met tokens).isEmpty then tokens else Catalog.empty) ∧
    (((composite rules .and).met tokens).Nonempty → ∀ rule ∈ rules, (rule.met tokens).Nonempty) ∧
    ∀ rule : Rule, rule.met tokens ⊆ tokens := by
  refine ⟨fun rule other h => h.metWith_eq Catalog.empty tokens, ?_, ?_, metWith_nor_eq, ?_,
    metWith_subset Catalog.empty tokens⟩
  · rintro ⟨⟨token, hand⟩, token', hnand⟩
    exact (mem_metWith_nand.1 hnand).1 (mem_metWith_and.1 hand).1
  · refine Catalog.ext_mem fun token => ?_
    rw [Catalog.mem_union fun _ _ => Token.ext_text]
    exact mem_and_or_mem_nand_iff
  · rintro ⟨token, hand⟩
    exact (mem_metWith_and.1 hand).1

end

/-! ## A rule and a longer form of it -/

attribute [local instance] Pattern.SizeLimit.unlimited

/-- The rule for both bearers, with its rules the other way round and one of them twice, and with a
repetition inside. -/
def longBothRule : Rule :=
  .composite [.boolean "x" .isTrue, .composite [.composite [] .and, .boolean "m" .isTrue,
    .composite [] .and] .or, .boolean "x" .isTrue] .and

theorem bothRule_rearranged : Rearranged bothRule longBothRule := by
  have hinner : Rearranged (composite [.boolean "m" .isTrue, .composite [] .and] .or)
      (composite [.composite [] .and, .boolean "m" .isTrue, .composite [] .and] .or) :=
    .repeated .or (List.mem_pair.2 (Or.inr rfl))
  have htwice : Rearranged bothRule (composite [.boolean "x" .isTrue,
      .composite [.boolean "m" .isTrue, .composite [] .and] .or, .boolean "x" .isTrue] .and) :=
    .repeated .and (List.mem_pair.2 (Or.inr rfl))
  exact htwice.trans (hinner.inside .and [.boolean "x" .isTrue] [.boolean "x" .isTrue])

/-- Both forms are met by the two bearers that they need, so that each of their rules is met and the
opposite is met by nobody. -/
theorem long_rule_same :
    Rearranged bothRule longBothRule ∧ bothRule.met bearers = longBothRule.met bearers ∧
      (∀ rule ∈ [Rule.boolean "x" .isTrue, .boolean "m" .isTrue], (rule.met bearers).Nonempty) ∧
      ¬ ((composite [.boolean "x" .isTrue, .boolean "m" .isTrue] .nand).met bearers).Nonempty := by
  obtain ⟨hsame, hexclude, -, -, hall, -⟩ :=
    composite_laws [.boolean "x" .isTrue, .boolean "m" .isTrue] bearers
  have hboth :
      ((composite [.boolean "x" .isTrue, .boolean "m" .isTrue] .and).met bearers).Nonempty := by
    have hmet : AllMet Catalog.empty bearers [.boolean "x" .isTrue, .boolean "m" .isTrue] := by
      intro rule hrule
      rcases List.mem_pair.1 hrule with rfl | rfl
      · exact ⟨_, strangerBearer_meets⟩
      · exact ⟨_, memberBearer_meets⟩
    exact ⟨_, mem_metWith_and.2 ⟨hmet, _, List.mem_cons_self, strangerBearer_meets⟩⟩
  exact ⟨bothRule_rearranged, hsame _ _ bothRule_rearranged, hall hboth,
    fun hnand => hexclude ⟨hboth, hnand⟩⟩

end Rule

end FederatedAccess
