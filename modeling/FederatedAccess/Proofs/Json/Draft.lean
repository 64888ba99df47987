import FederatedAccess.Proofs.Json.Number
import FederatedAccess.Proofs.Json.Text

/-!
# Written values read back as trees

The compact text of a value whose numbers are integers is read as the tree of this value
(`read_text`). The induction follows the writer: a value, the items after the first, the members
after the first. It carries the rest of the input, which only has to end a number, and the fuel,
which the length of the text bounds.
-/

namespace FederatedAccess.Json

mutual
/-- Whether all numbers in a value are integers. -/
def isIntegral : Json → Bool
  | real _ => false
  | array items => allIntegral items
  | object members => allIntegralMembers members
  | _ => true

/-- Whether all numbers in a sequence of values are integers. -/
def allIntegral : List Json → Bool
  | [] => true
  | v :: rest => isIntegral v && allIntegral rest

/-- Whether all numbers in a sequence of members are integers. -/
def allIntegralMembers : List (String × Json) → Bool
  | [] => true
  | (_, v) :: rest => isIntegral v && allIntegralMembers rest
end

namespace Draft

open Utf8 (encodeChars encodeChars_append encodeChars_cons_ascii)

/-! ## Marks -/

theorem skipSpace_cons {b : UInt8} (h : isSpace b = false) (rest : List UInt8) :
    skipSpace (b :: rest) = b :: rest := by
  simp [skipSpace, h]

/-- The first octet of an array's item: no space and no closing bracket. -/
def StartsValue (b : UInt8) : Prop :=
  isSpace b = false ∧ b ≠ 0x5D

theorem startsValue_digit {d : Nat} (h : d < 10) : StartsValue (UInt8.ofNat (d + 0x30)) := by
  have hall : ∀ d < 10, StartsValue (UInt8.ofNat (d + 0x30)) := by
    unfold StartsValue
    decide
  exact hall d h

/-- How the text of a value starts. -/
theorem encodeChars_chars_first {v : Json} (h : v.isIntegral = true) :
    ∃ b more, encodeChars v.chars = b :: more ∧ StartsValue b := by
  have hmark : ∀ c ∈ ['n', 't', 'f', '"', '[', '\x7b', '-'],
      c.toNat < 0x80 ∧ StartsValue (UInt8.ofNat c.toNat) := by
    unfold StartsValue
    simp only [List.forall_mem_cons, List.not_mem_nil, false_implies, implies_true, and_true]
    decide
  have hfirst : ∀ (c : Char) (rest : List Char), c ∈ ['n', 't', 'f', '"', '[', '\x7b', '-'] →
      ∃ b more, encodeChars (c :: rest) = b :: more ∧ StartsValue b := fun c rest hc =>
    ⟨_, _, encodeChars_cons_ascii (hmark c hc).1 rest, (hmark c hc).2⟩
  cases v with
  | null => exact hfirst 'n' _ (by decide)
  | bool b =>
    cases b with
    | true => exact hfirst 't' _ (by decide)
    | false => exact hfirst 'f' _ (by decide)
  | integer i =>
    rw [chars, Numeral.intChars]
    split
    · exact hfirst '-' _ (by decide)
    · obtain ⟨d, hd, more, hmore⟩ := encodeChars_natChars i.val.natAbs
      exact ⟨_, more, hmore, startsValue_digit hd⟩
  | real x => cases h
  | string s => exact hfirst '"' _ (by decide)
  | array items => cases items with
    | nil => exact hfirst '[' _ (by decide)
    | cons v rest => exact hfirst '[' _ (by decide)
  | object members => cases members with
    | nil => exact hfirst '\x7b' _ (by decide)
    | cons m rest => exact hfirst '\x7b' _ (by decide)

/-! ## One form each -/

variable {fuel : Nat} {rest : List UInt8}

theorem parseValue_quote :
    parseValue (fuel + 1) (0x22 :: rest) =
      (pieces rest).map fun found => (ofPieces found.1, found.2) :=
  rfl

theorem parseValue_null : parseValue (fuel + 1) (encodeChars Json.null.chars ++ rest) =
    some (.null, rest) :=
  rfl

theorem parseValue_bool (b : Bool) :
    parseValue (fuel + 1) (encodeChars (Json.bool b).chars ++ rest) = some (.bool b, rest) := by
  cases b <;> rfl

theorem parseValue_emptyArray :
    parseValue (fuel + 1) (encodeChars (Json.array []).chars ++ rest) = some (.array [], rest) :=
  rfl

theorem parseValue_emptyObject :
    parseValue (fuel + 1) (encodeChars (Json.object []).chars ++ rest) = some (.object [], rest) :=
  rfl

theorem parseValue_string (s : String) :
    parseValue (fuel + 1) (encodeChars (stringChars s) ++ rest) = some (string s, rest) := by
  obtain ⟨parts, hpieces, htext⟩ := pieces_escaped s rest
  rw [stringChars, encodeChars_cons_ascii (by decide), encodeChars_append, List.cons_append,
    List.append_assoc]
  refine parseValue_quote.trans ?_
  have hclosed : encodeChars (s.toList.flatMap escapeChar) ++ (encodeChars ['"'] ++ rest) =
      encodeChars (s.toList.flatMap escapeChar) ++ 0x22 :: rest := rfl
  rw [hclosed, hpieces, Option.map_some, ofPieces, htext]

/-- Whatever starts like a number is read as one. -/
theorem parseValue_number {b : UInt8} (hspace : isSpace b = false)
    (hmark : b ∉ [0x7B, 0x5B, 0x22, 0x6E, 0x74, 0x66]) :
    parseValue (fuel + 1) (b :: rest) =
      (numeral? (b :: rest)).map fun found => (ofNumeral found.1, found.2) := by
  simp only [List.mem_cons, List.not_mem_nil, or_false, not_or] at hmark
  rw [parseValue.eq_def]
  simp only [skipSpace_cons hspace, hmark, if_false]

theorem parseValue_integer (i : Integer) (hrest : EndsNumber rest) :
    parseValue (fuel + 1) (encodeChars (Json.integer i).chars ++ rest) = some (integer i, rest) := by
  obtain ⟨n, hnumeral, hn⟩ := numeral?_intChars i hrest
  have hfirst : ∃ b more, encodeChars (Json.integer i).chars = b :: more ∧ isSpace b = false ∧
      b ∉ [0x7B, 0x5B, 0x22, 0x6E, 0x74, 0x66] := by
    rw [chars, FederatedAccess.Numeral.intChars]
    split
    · exact ⟨0x2D, _, encodeChars_cons_ascii (by decide) _, by decide, by decide⟩
    · obtain ⟨d, hd, more, hmore⟩ := encodeChars_natChars i.val.natAbs
      refine ⟨_, more, hmore, ?_⟩
      have hall : ∀ d < 10, isSpace (UInt8.ofNat (d + 0x30)) = false ∧
          UInt8.ofNat (d + 0x30) ∉ [0x7B, 0x5B, 0x22, 0x6E, 0x74, 0x66] := by decide
      exact hall d hd
  obtain ⟨b, more, hb, hspace, hmark⟩ := hfirst
  -- no other form of value starts with a sign or a digit
  rw [hb, List.cons_append, parseValue_number hspace hmark, ← List.cons_append, ← hb, chars, hnumeral,
    Option.map_some, hn]

theorem parseValue_array {b : UInt8} (hb : StartsValue b) :
    parseValue (fuel + 1) (0x5B :: b :: rest) =
      (parseItems fuel (b :: rest)).map fun found => (array found.1, found.2) := by
  have hopen : skipSpace (0x5B :: b :: rest) = 0x5B :: b :: rest := skipSpace_cons rfl _
  rw [parseValue, hopen]
  simp only [skipSpace_cons hb.1, show (0x5B : UInt8) ≠ 0x7B from by decide, if_true, if_false]
  split
  · rename_i heq
    exact absurd (List.cons.inj heq).1 hb.2
  · rfl

theorem parseValue_object :
    parseValue (fuel + 1) (0x7B :: 0x22 :: rest) =
      (parseMembers fuel (0x22 :: rest)).map fun found => (object found.1, found.2) :=
  rfl

theorem parseItems_last {item : Draft} {input : List UInt8}
    (h : parseValue fuel input = some (item, 0x5D :: rest)) :
    parseItems (fuel + 1) input = some ([item], rest) := by
  rw [parseItems, h]
  rfl

theorem parseItems_more {item : Draft} {input : List UInt8}
    (h : parseValue fuel input = some (item, 0x2C :: rest)) :
    parseItems (fuel + 1) input =
      (parseItems fuel rest).map fun found => (item :: found.1, found.2) := by
  rw [parseItems, h]
  rfl

/-- What follows the colon of a member is its value. -/
theorem parseMembers_member {name : String} {value : Draft} {input after : List UInt8}
    (h : parseValue fuel input = some (value, after)) :
    parseMembers (fuel + 1) (encodeChars (stringChars name) ++ 0x3A :: input) =
      match skipSpace after with
      | 0x2C :: rest =>
        (parseMembers fuel rest).map fun found => ((some name, value) :: found.1, found.2)
      | 0x7D :: rest => some ([(some name, value)], rest)
      | _ => none := by
  obtain ⟨parts, hpieces, htext⟩ := pieces_escaped name (0x3A :: input)
  -- the marks are in place, so each `show` steps over one match of the reader
  rw [stringChars, encodeChars_cons_ascii (by decide), encodeChars_append, List.cons_append,
    List.append_assoc]
  show (pieces (encodeChars (name.toList.flatMap escapeChar) ++ 0x22 :: 0x3A :: input)).bind _ = _
  rw [hpieces, Option.bind_some]
  show (parseValue fuel input).bind _ = _
  rewrite [h, Option.bind_some, htext]
  rfl

/-! ## Values, items and members -/

theorem endsNumber_mark {b : UInt8} (h : b ∈ [0x2C, 0x5D, 0x7D]) (rest : List UInt8) :
    EndsNumber (b :: rest) := by
  have hall : ∀ b ∈ ([0x2C, 0x5D, 0x7D] : List UInt8),
      isDigit b = false ∧ b ≠ 0x2E ∧ b ≠ 0x65 ∧ b ≠ 0x45 := by
    simp only [List.forall_mem_cons, List.not_mem_nil, false_implies, implies_true, and_true]
    decide
  intro c hc
  obtain rfl := Option.some.inj hc
  exact hall b h

theorem endsNumber_itemsChars (items : List Json) (rest : List UInt8) :
    EndsNumber (encodeChars (itemsChars items) ++ rest) := by
  cases items with
  | nil => exact endsNumber_mark (b := 0x5D) (by decide) rest
  | cons v items =>
    rw [itemsChars, encodeChars_cons_ascii (by decide), List.cons_append]
    exact endsNumber_mark (by decide) _

theorem endsNumber_membersChars (members : List (String × Json)) (rest : List UInt8) :
    EndsNumber (encodeChars (membersChars members) ++ rest) := by
  cases members with
  | nil => exact endsNumber_mark (b := 0x7D) (by decide) rest
  | cons m members =>
    obtain ⟨k, v⟩ := m
    rw [membersChars, encodeChars_cons_ascii (by decide), List.cons_append]
    exact endsNumber_mark (by decide) _

theorem length_chars_pos {v : Json} (h : v.isIntegral = true) : 0 < v.chars.length := by
  obtain ⟨b, more, hb, -⟩ := encodeChars_chars_first h
  refine List.length_pos_iff.2 fun hnil => ?_
  rw [hnil] at hb
  cases hb

theorem length_itemsChars_pos (items : List Json) : 0 < (itemsChars items).length := by
  cases items <;> simp [itemsChars]

theorem length_membersChars_pos (members : List (String × Json)) :
    0 < (membersChars members).length := by
  cases members <;> simp [membersChars]

mutual

/-- A value is read where its text stands. -/
theorem parseValue_chars : ∀ (v : Json) (fuel : Nat) (rest : List UInt8), v.isIntegral = true →
    v.chars.length ≤ fuel → EndsNumber rest →
    parseValue fuel (encodeChars v.chars ++ rest) = some (ofJson v, rest)
  | v, 0, rest, h, hfuel, _ => absurd (length_chars_pos h) (Nat.not_lt_of_le hfuel)
  | .null, fuel + 1, rest, _, _, _ => parseValue_null
  | .bool b, fuel + 1, rest, _, _, _ => parseValue_bool b
  | .integer i, fuel + 1, rest, _, _, hrest => parseValue_integer i hrest
  | .real x, _, _, h, _, _ => by cases h
  | .string s, fuel + 1, rest, _, _, _ => parseValue_string s
  | .array [], fuel + 1, rest, _, _, _ => parseValue_emptyArray
  | .array (v :: items), fuel + 1, rest, h, hfuel, _ => by
    obtain ⟨hv, hitems⟩ : v.isIntegral = true ∧ allIntegral items = true :=
      Bool.and_eq_true_iff.1 h
    have hpos := length_chars_pos hv
    have hpos' := length_itemsChars_pos items
    rw [chars, List.length_cons, List.length_append] at hfuel
    obtain ⟨fuel, rfl⟩ : ∃ n, fuel = n + 1 := Nat.exists_eq_succ_of_ne_zero (by omega)
    -- the bracket and the other items lengthen the text, so there is fuel for the first item
    have hvalue := parseValue_chars v fuel (encodeChars (itemsChars items) ++ rest) hv (by omega)
      (endsNumber_itemsChars items rest)
    have hall := parseItems_itemsChars items fuel rest _ _ hitems (by omega) hvalue
    obtain ⟨b, more, hb, hstarts⟩ := encodeChars_chars_first hv
    rw [chars, encodeChars_cons_ascii (by decide), encodeChars_append, List.cons_append,
      List.append_assoc]
    rw [hb, List.cons_append] at hall ⊢
    refine (parseValue_array hstarts).trans ?_
    rw [hall]
    rfl
  | .object [], fuel + 1, rest, _, _, _ => parseValue_emptyObject
  | .object ((k, v) :: members), fuel + 1, rest, h, hfuel, _ => by
    obtain ⟨hv, hmembers⟩ : v.isIntegral = true ∧ allIntegralMembers members = true :=
      Bool.and_eq_true_iff.1 h
    have hpos := length_chars_pos hv
    have hpos' := length_membersChars_pos members
    rw [chars, List.length_cons, List.length_append, List.length_cons, List.length_append] at hfuel
    obtain ⟨fuel, rfl⟩ : ∃ n, fuel = n + 1 := Nat.exists_eq_succ_of_ne_zero (by omega)
    have hvalue := parseValue_chars v fuel (encodeChars (membersChars members) ++ rest) hv
      (by omega) (endsNumber_membersChars members rest)
    have hall := parseMembers_membersChars members fuel rest _ k _ hmembers (by omega) hvalue
    rw [chars, encodeChars_cons_ascii (by decide), encodeChars_append,
      encodeChars_cons_ascii (by decide), encodeChars_append, List.cons_append, List.append_assoc,
      List.cons_append, List.append_assoc]
    rw [stringChars, encodeChars_cons_ascii (by decide), List.cons_append] at hall ⊢
    refine parseValue_object.trans ?_
    refine (congrArg (Option.map fun found => (object found.1, found.2)) hall).trans ?_
    rfl

/-- After an item, the others are read up to the closing bracket. -/
theorem parseItems_itemsChars : ∀ (items : List Json) (fuel : Nat) (rest input : List UInt8)
    (item : Draft), allIntegral items = true → (itemsChars items).length ≤ fuel →
    parseValue fuel input = some (item, encodeChars (itemsChars items) ++ rest) →
    parseItems (fuel + 1) input = some (item :: ofItems items, rest)
  | [], fuel, rest, input, item, _, _, hitem => parseItems_last hitem
  | v :: items, fuel, rest, input, item, h, hfuel, hitem => by
    obtain ⟨hv, hitems⟩ : v.isIntegral = true ∧ allIntegral items = true :=
      Bool.and_eq_true_iff.1 h
    have hpos := length_itemsChars_pos items
    rw [itemsChars, List.length_cons, List.length_append] at hfuel
    obtain ⟨fuel, rfl⟩ : ∃ n, fuel = n + 1 := Nat.exists_eq_succ_of_ne_zero (by omega)
    have hvalue := parseValue_chars v fuel (encodeChars (itemsChars items) ++ rest) hv (by omega)
      (endsNumber_itemsChars items rest)
    rw [itemsChars, encodeChars_cons_ascii (by decide), encodeChars_append, List.cons_append,
      List.append_assoc] at hitem
    -- the item was read up to the comma, behind which the next one stands
    rw [parseItems_more hitem, parseItems_itemsChars items fuel rest _ _ hitems (by omega) hvalue]
    rfl

/-- After the value of a member, the others are read up to the closing brace. -/
theorem parseMembers_membersChars : ∀ (members : List (String × Json)) (fuel : Nat)
    (rest input : List UInt8) (name : String) (value : Draft),
    allIntegralMembers members = true → (membersChars members).length ≤ fuel →
    parseValue fuel input = some (value, encodeChars (membersChars members) ++ rest) →
    parseMembers (fuel + 1) (encodeChars (stringChars name) ++ 0x3A :: input) =
      some ((some name, value) :: ofMembers members, rest)
  | [], fuel, rest, input, name, value, _, _, hvalue => parseMembers_member hvalue
  | (k, v) :: members, fuel, rest, input, name, value, h, hfuel, hvalue => by
    obtain ⟨hv, hmembers⟩ : v.isIntegral = true ∧ allIntegralMembers members = true :=
      Bool.and_eq_true_iff.1 h
    have hpos := length_membersChars_pos members
    rw [membersChars, List.length_cons, List.length_append, List.length_cons,
      List.length_append] at hfuel
    obtain ⟨fuel, rfl⟩ : ∃ n, fuel = n + 1 := Nat.exists_eq_succ_of_ne_zero (by omega)
    have hnext := parseValue_chars v fuel (encodeChars (membersChars members) ++ rest) hv
      (by omega) (endsNumber_membersChars members rest)
    have hall := parseMembers_membersChars members fuel rest _ k _ hmembers (by omega) hnext
    rw [membersChars, encodeChars_cons_ascii (by decide), encodeChars_append,
      encodeChars_cons_ascii (by decide), encodeChars_append, List.cons_append, List.append_assoc,
      List.cons_append, List.append_assoc] at hvalue
    refine (parseMembers_member hvalue).trans ?_
    refine Eq.trans ?_ (congrArg (Option.map fun found => ((some name, value) :: found.1, found.2))
      hall)
    rfl

end

/-- **Trees.** The text of a value is read as its tree. -/
theorem read_text {v : Json} (h : v.isIntegral = true) :
    read (Utf8.encode v.text) = some (ofJson v) := by
  have hlength : v.chars.length ≤ 2 * (encodeChars v.chars).length + 2 := by
    have := Utf8.length_le_encodeChars v.chars
    omega
  have hvalue := parseValue_chars v _ [] h hlength endsNumber_nil
  rw [List.append_nil] at hvalue
  rw [text, Utf8.encode_ofList, read, hvalue]
  rfl

end Draft

end FederatedAccess.Json
