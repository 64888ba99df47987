import FederatedAccess.Proofs.Duration
import FederatedAccess.Proofs.Number.Numeral
import Mathlib.Algebra.GroupWithZero.Nat
import Mathlib.Algebra.Order.BigOperators.Group.List
import Mathlib.Algebra.Order.Group.Nat

/-!
# The text of a duration as a sum

A duration is written as terms, each a number of some unit (`text_eq`). Their sum is the duration
(`sum_terms`). When they are added one by one, all totals on the way are parts of the duration, so
that none of them is too large (`addAll?_take_terms`).
-/

namespace FederatedAccess.Duration

/-! ## Terms -/

/-- The name that is written for a unit behind a number. -/
def TimeUnit.written (n : Nat) : TimeUnit → String
  | nanosecond => "ns"
  | microsecond => "us"
  | millisecond => "ms"
  | second => "s"
  | minute => "m"
  | hour => "h"
  | day => if n = 1 then "day" else "days"
  | week => if n = 1 then "week" else "weeks"
  | month => if n = 1 then "month" else "months"
  | year => if n = 1 then "year" else "years"

/-- A number of units. -/
structure Term where
  number : Nat
  unit : TimeUnit
deriving DecidableEq

namespace Term

def text (t : Term) : String :=
  Numeral.ofNat t.number ++ t.unit.written t.number

def nanos (t : Term) : Nat :=
  t.number * t.unit.nanos

/-- Adds the term to a span, if the span stays within a word of seconds. -/
def addTo? (total : Duration) (t : Term) : Option Duration :=
  addTerm? total t.number none t.unit

/-- Terms in parts of a second stay below a second. -/
def IsCarried (t : Term) : Prop :=
  t.unit.isWhole = false → t.nanos < 1000000000

end Term

/-- Adds terms one by one. -/
def addAll? (total : Duration) (ts : List Term) : Option Duration :=
  ts.foldlM Term.addTo? total

/-- The number of each unit in a duration. -/
def counts (d : Duration) : List Term :=
  let s := d.seconds.toNat
  let inYear := s % 31557600
  let inMonth := inYear % 2630016
  let inDay := inMonth % 86400
  [⟨s / 31557600, .year⟩, ⟨inYear / 2630016, .month⟩, ⟨inMonth / 86400, .day⟩,
    ⟨inDay / 3600, .hour⟩, ⟨inDay % 3600 / 60, .minute⟩, ⟨inDay % 60, .second⟩,
    ⟨d.nanos / 1000000, .millisecond⟩, ⟨d.nanos / 1000 % 1000, .microsecond⟩,
    ⟨d.nanos % 1000, .nanosecond⟩]

def nonzero (ts : List Term) : List Term :=
  ts.filter fun t => t.number ≠ 0

/-- The terms that are written: those that are not zero, and no seconds if all are. -/
def terms (d : Duration) : List Term :=
  if nonzero d.counts = [] then [⟨0, .second⟩] else nonzero d.counts

/-- The terms with blanks between them. -/
def joined (ts : List Term) : String :=
  " ".intercalate (ts.map Term.text)

/-! ## Writing -/

theorem item_eq {unit : TimeUnit} {name : String} (h : ∀ n, unit.written n = name) (n : Nat) :
    item n name = (nonzero [⟨n, unit⟩]).map Term.text := by
  by_cases hn : n = 0 <;> simp [item, nonzero, Term.text, hn, h]

theorem counted_eq {unit : TimeUnit} {name : String}
    (h : ∀ n, unit.written n = if n = 1 then name else name ++ "s") (n : Nat) :
    counted n name = (nonzero [⟨n, unit⟩]).map Term.text := by
  by_cases hn : n = 0
  · simp [counted, nonzero, hn]
  · by_cases hone : n = 1 <;> simp [counted, nonzero, Term.text, hn, hone, h, String.append_assoc]

theorem nonzero_append (ts us : List Term) : nonzero (ts ++ us) = nonzero ts ++ nonzero us :=
  List.filter_append ts us

/-- **The text of a duration.** -/
theorem text_eq (d : Duration) : d.text = joined d.terms := by
  have hyear : ∀ n, TimeUnit.year.written n = if n = 1 then "year" else "year" ++ "s" :=
    fun _ => rfl
  have hmonth : ∀ n, TimeUnit.month.written n = if n = 1 then "month" else "month" ++ "s" :=
    fun _ => rfl
  have hday : ∀ n, TimeUnit.day.written n = if n = 1 then "day" else "day" ++ "s" := fun _ => rfl
  have hhour : ∀ n, TimeUnit.hour.written n = "h" := fun _ => rfl
  have hminute : ∀ n, TimeUnit.minute.written n = "m" := fun _ => rfl
  have hsecond : ∀ n, TimeUnit.second.written n = "s" := fun _ => rfl
  have hmillisecond : ∀ n, TimeUnit.millisecond.written n = "ms" := fun _ => rfl
  have hmicrosecond : ∀ n, TimeUnit.microsecond.written n = "us" := fun _ => rfl
  have hnanosecond : ∀ n, TimeUnit.nanosecond.written n = "ns" := fun _ => rfl
  rw [text]
  simp only [counted_eq hyear, counted_eq hmonth, counted_eq hday, item_eq hhour, item_eq hminute,
    item_eq hsecond, item_eq hmillisecond, item_eq hmicrosecond, item_eq hnanosecond,
    ← List.map_append, ← nonzero_append]
  show (if (nonzero d.counts).map Term.text = [] then "0s"
    else " ".intercalate ((nonzero d.counts).map Term.text)) = _
  unfold terms joined
  by_cases h : nonzero d.counts = []
  · rw [if_pos h, if_pos (by rw [h]; rfl)]
    rfl
  · rw [if_neg h, if_neg (by simpa using h)]

-- the longest duration
example : text ⟨18446744073709551615, 999999999, by decide⟩ =
    "584542046090years 7months 15days 17h 5m 3s 999ms 999us 999ns" := by
  decide +kernel

/-! ## The sum of the terms -/

theorem sum_nonzero (ts : List Term) :
    ((nonzero ts).map Term.nanos).sum = (ts.map Term.nanos).sum := by
  induction ts with
  | nil => rfl
  | cons t rest ih =>
    by_cases h : t.number = 0
    · simpa [nonzero, h, Term.nanos] using ih
    · simpa [nonzero, h] using ih

/-- Whole seconds by their units. -/
theorem whole_counts (s : Nat) :
    s / 31557600 * 31557600 + s % 31557600 / 2630016 * 2630016 +
        s % 31557600 % 2630016 / 86400 * 86400 +
        s % 31557600 % 2630016 % 86400 / 3600 * 3600 +
        s % 31557600 % 2630016 % 86400 % 3600 / 60 * 60 +
        s % 31557600 % 2630016 % 86400 % 60 = s := by
  omega

/-- Nanoseconds by their units. -/
theorem fraction_counts (n : Nat) :
    n / 1000000 * 1000000 + n / 1000 % 1000 * 1000 + n % 1000 = n := by
  omega

/-- The counts of a duration weigh as much as its seconds and nanoseconds, whatever these weigh. -/
theorem sum_counts_weighted (d : Duration) {weight : TimeUnit → Nat}
    (year : weight .year = 31557600 * weight .second)
    (month : weight .month = 2630016 * weight .second)
    (day : weight .day = 86400 * weight .second)
    (hour : weight .hour = 3600 * weight .second)
    (minute : weight .minute = 60 * weight .second)
    (millisecond : weight .millisecond = 1000000 * weight .nanosecond)
    (microsecond : weight .microsecond = 1000 * weight .nanosecond) :
    (d.counts.map fun t => t.number * weight t.unit).sum =
      d.seconds.toNat * weight .second + d.nanos * weight .nanosecond := by
  rw [← whole_counts d.seconds.toNat, ← fraction_counts d.nanos]
  simp only [counts, List.map_cons, List.map_nil, List.sum_cons, List.sum_nil, year, month, day,
    hour, minute, millisecond, microsecond, Nat.add_mul, Nat.mul_assoc, Nat.add_assoc, Nat.add_zero]

theorem sum_counts (d : Duration) : (d.counts.map Term.nanos).sum = d.inNanos := by
  have h := @sum_counts_weighted d TimeUnit.nanos rfl rfl rfl rfl rfl rfl rfl
  rw [TimeUnit.nanos, TimeUnit.nanos, Nat.mul_one] at h
  exact h

/-- **The sum.** The terms make up the duration. -/
theorem sum_terms (d : Duration) : (d.terms.map Term.nanos).sum = d.inNanos := by
  rw [← sum_counts, ← sum_nonzero d.counts]
  unfold terms
  split
  · rename_i h
    rw [h]
    rfl
  · rfl

theorem isCarried_of_isWhole {t : Term} (h : t.unit.isWhole = true) : t.IsCarried := by
  intro hpart
  rw [h] at hpart
  cases hpart

theorem isCarried_of_mem_counts {d : Duration} {t : Term} (h : t ∈ d.counts) : t.IsCarried := by
  have hnanos := d.nanos_lt
  simp only [counts, List.mem_cons, List.not_mem_nil, or_false] at h
  rcases h with rfl | rfl | rfl | rfl | rfl | rfl | rfl | rfl | rfl
  all_goals try exact isCarried_of_isWhole rfl
  · intro _
    show d.nanos / 1000000 * 1000000 < 1000000000
    omega
  · intro _
    show d.nanos / 1000 % 1000 * 1000 < 1000000000
    omega
  · intro _
    show d.nanos % 1000 * 1 < 1000000000
    omega

theorem isCarried_of_mem_terms {d : Duration} {t : Term} (h : t ∈ d.terms) : t.IsCarried := by
  unfold terms at h
  split at h
  · rw [List.mem_singleton.1 h]
    exact isCarried_of_isWhole rfl
  · exact isCarried_of_mem_counts (List.mem_filter.1 h).1

/-! ## Adding up -/

theorem inNanos_injective {a b : Duration} (h : a.inNanos = b.inNanos) : a = b := by
  have hseconds : a.seconds = b.seconds := by
    rw [← UInt64.toNat_inj, seconds_eq, seconds_eq, h]
  obtain ⟨sa, na, ha⟩ := a
  obtain ⟨sb, nb, hb⟩ := b
  obtain rfl : sa = sb := hseconds
  obtain rfl : na = nb := Nat.add_left_cancel h
  rfl

theorem inNanos_lt (d : Duration) : d.inNanos < UInt64.size * 1000000000 := by
  have hseconds := d.seconds.toNat_lt_size
  have hnanos := d.nanos_lt
  unfold inNanos
  omega

/-- Seconds and nanoseconds make up the duration that has as many nanoseconds, if there is one. -/
theorem ofParts?_eq_some {seconds nanos : Nat} {d : Duration}
    (h : seconds * 1000000000 + nanos = d.inNanos) : ofParts? seconds nanos = some d := by
  have htotal : seconds + nanos / 1000000000 = d.seconds.toNat := by
    rw [seconds_eq, ← h]
    omega
  have hfits : seconds + nanos / 1000000000 < UInt64.size := htotal ▸ d.seconds.toNat_lt_size
  rw [ofParts?, if_pos hfits, Option.some.injEq]
  refine inNanos_injective ?_
  rw [← h, inNanos, UInt64.toNat_ofNat_of_lt' hfits, Nat.add_mul, Nat.add_assoc, Nat.div_add_mod']

/-- What is no longer than a duration is a duration. -/
theorem exists_inNanos_eq {n : Nat} {d : Duration} (h : n ≤ d.inNanos) :
    ∃ total : Duration, total.inNanos = n := by
  have hseconds : n / 1000000000 < UInt64.size := by
    refine Nat.lt_of_le_of_lt (Nat.div_le_div_right h) ?_
    rw [← seconds_eq]
    exact d.seconds.toNat_lt_size
  refine ⟨⟨UInt64.ofNat (n / 1000000000), n % 1000000000, Nat.mod_lt _ (by decide)⟩, ?_⟩
  rw [inNanos, UInt64.toNat_ofNat_of_lt' hseconds, Nat.div_add_mod']

theorem nanos_of_isWhole {unit : TimeUnit} (h : unit.isWhole = true) :
    unit.nanos = unit.nanos / 1000000000 * 1000000000 := by
  cases unit <;> first | rfl | cases h

theorem product?_eq_some {a b : Nat} (h : a * b < UInt64.size) : product? a b = some (a * b) :=
  if_pos h

/-- Adding seconds and nanoseconds, of which the latter are not too many. -/
theorem add?_eq_some {total d : Duration} {part : Nat × Nat} (hpart : part.2 ≤ 1000000000)
    (hsum : total.inNanos + (part.1 * 1000000000 + part.2) = d.inNanos) :
    add? total part = some d := by
  have hnanos : total.nanos + part.2 < UInt64.size := by
    refine Nat.lt_of_lt_of_le (Nat.add_lt_add_of_lt_of_le total.nanos_lt hpart) ?_
    decide
  have hparts : (total.seconds.toNat + part.1) * 1000000000 + (total.nanos + part.2) =
      d.inNanos := by
    rw [← hsum, inNanos]
    omega
  rw [add?]
  simp only [hnanos, if_true]
  exact ofParts?_eq_some hparts

/-- A term that is no longer than a duration is worth as much in seconds and nanoseconds. -/
theorem Term.exists_inUnit? {t : Term} {d : Duration} (hcarried : t.IsCarried)
    (hle : t.nanos ≤ d.inNanos) :
    ∃ part, inUnit? t.unit t.number = some part ∧ part.2 ≤ 1000000000 ∧
      part.1 * 1000000000 + part.2 = t.nanos := by
  obtain ⟨n, unit⟩ := t
  unfold inUnit?
  cases hwhole : unit.isWhole with
  | true =>
    have hnanos : n * (unit.nanos / 1000000000) * 1000000000 = n * unit.nanos := by
      rw [Nat.mul_assoc, ← nanos_of_isWhole hwhole]
    have hfits : n * (unit.nanos / 1000000000) < UInt64.size := by
      refine Nat.lt_of_mul_lt_mul_right (a := 1000000000) ?_
      rw [hnanos]
      exact Nat.lt_of_le_of_lt hle (inNanos_lt d)
    rw [if_pos rfl, product?_eq_some hfits]
    refine ⟨_, rfl, Nat.zero_le _, ?_⟩
    rw [Nat.add_zero, hnanos]
    rfl
  | false =>
    have hbelow : n * unit.nanos < 1000000000 := hcarried hwhole
    have hfits : n * unit.nanos < UInt64.size := Nat.lt_trans hbelow (by decide)
    rw [if_neg (by decide), product?_eq_some hfits]
    refine ⟨_, rfl, Nat.le_of_lt hbelow, ?_⟩
    rw [Nat.zero_mul, Nat.zero_add]
    rfl

/-- **Adding a term.** The sum is exact wherever it is a duration. -/
theorem Term.addTo?_eq_some {total d : Duration} {t : Term} (hcarried : t.IsCarried)
    (hsum : total.inNanos + t.nanos = d.inNanos) : t.addTo? total = some d := by
  have hle : t.nanos ≤ d.inNanos := hsum ▸ Nat.le_add_left _ _
  obtain ⟨part, hpart, hsmall, hsame⟩ := exists_inUnit? hcarried hle
  have hadd : add? total part = some d := by
    refine add?_eq_some hsmall ?_
    rw [hsame]
    exact hsum
  rw [addTo?, addTerm?, hpart]
  simp [hadd]

/-- **Adding terms one by one.** Every total on the way is a part of the sum, so that none is too
large. -/
theorem addAll?_eq_some {ts : List Term} {total d : Duration} (hcarried : ∀ t ∈ ts, t.IsCarried)
    (hsum : total.inNanos + (ts.map Term.nanos).sum = d.inNanos) :
    addAll? total ts = some d := by
  induction ts generalizing total with
  | nil =>
    rw [List.map_nil, List.sum_nil, Nat.add_zero] at hsum
    exact congrArg some (inNanos_injective hsum)
  | cons t rest ih =>
    rw [List.forall_mem_cons] at hcarried
    rw [List.map_cons, List.sum_cons, ← Nat.add_assoc] at hsum
    have hle : total.inNanos + t.nanos ≤ d.inNanos := by
      rw [← hsum]
      exact Nat.le_add_right _ _
    -- what has been added so far is no longer than the whole, so it is a duration itself
    obtain ⟨next, hnext⟩ := exists_inNanos_eq hle
    rw [addAll?, List.foldlM_cons, Term.addTo?_eq_some hcarried.1 hnext.symm]
    rw [← hnext] at hsum
    exact ih hcarried.2 hsum

/-- The terms of a beginning add up to their exact sum, which is no longer than the whole. -/
theorem addAll?_take_terms (d : Duration) (count : Nat) :
    ∃ total, addAll? zero (d.terms.take count) = some total ∧
      total.inNanos = ((d.terms.take count).map Term.nanos).sum ∧ total ≤ d := by
  have hsum : ((d.terms.take count).map Term.nanos).sum +
      ((d.terms.drop count).map Term.nanos).sum = d.inNanos := by
    rw [← List.sum_append, ← List.map_append, List.take_append_drop, sum_terms]
  have hle : ((d.terms.take count).map Term.nanos).sum ≤ d.inNanos := by
    rw [← hsum]
    exact Nat.le_add_right _ _
  obtain ⟨total, htotal⟩ := exists_inNanos_eq hle
  refine ⟨total, addAll?_eq_some (fun t ht => ?_) ?_, htotal, ?_⟩
  · exact isCarried_of_mem_terms (List.mem_of_mem_take ht)
  · rw [htotal]
    exact Nat.zero_add _
  · show total.inNanos ≤ d.inNanos
    rw [htotal]
    exact hle

/-! ## Sizes -/

/-- The number of a term that is no longer than a duration fits into a word. -/
theorem number_lt_of_nanos_le {t : Term} {d : Duration} (hcarried : t.IsCarried)
    (hle : t.nanos ≤ d.inNanos) : t.number < UInt64.size := by
  obtain ⟨n, unit⟩ := t
  cases hwhole : unit.isWhole with
  | true =>
    have hunit : 1000000000 ≤ unit.nanos := by
      cases unit <;> first | decide | cases hwhole
    have hmul : n * 1000000000 ≤ n * unit.nanos := Nat.mul_le_mul_left n hunit
    exact Nat.lt_of_mul_lt_mul_right (Nat.lt_of_le_of_lt (Nat.le_trans hmul hle) (inNanos_lt d))
  | false =>
    have hunit : 1 ≤ unit.nanos := by
      cases unit <;> decide
    have hmul : n ≤ n * unit.nanos := Nat.le_mul_of_pos_right n hunit
    exact Nat.lt_trans (Nat.lt_of_le_of_lt hmul (hcarried hwhole)) (by decide)

theorem number_lt_of_mem_terms {d : Duration} {t : Term} (h : t ∈ d.terms) :
    t.number < UInt64.size := by
  refine number_lt_of_nanos_le (d := d) (isCarried_of_mem_terms h) ?_
  rw [← sum_terms d]
  exact List.le_sum_of_mem (List.mem_map_of_mem h)

theorem terms_ne_nil (d : Duration) : d.terms ≠ [] := by
  unfold terms
  split
  · exact List.cons_ne_nil _ _
  · assumption

end FederatedAccess.Duration
