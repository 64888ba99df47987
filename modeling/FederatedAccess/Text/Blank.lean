import FederatedAccess.Text.CodePoints

/-!
# Blank characters

White space in the sense of Unicode (`White_Space`), and texts without it at their ends.
-/

namespace FederatedAccess.Text

/-- The code points with the property `White_Space`. -/
def blankPoints : CodePoints :=
  [(0x09, 0x0D), (0x20, 0x20), (0x85, 0x85), (0xA0, 0xA0), (0x1680, 0x1680), (0x2000, 0x200A),
    (0x2028, 0x2029), (0x202F, 0x202F), (0x205F, 0x205F), (0x3000, 0x3000)]

def isBlank (c : Char) : Bool :=
  blankPoints.contains c

/-- The characters of a text between its first and its last that is not blank. -/
def trimChars (chars : List Char) : List Char :=
  (((chars.dropWhile isBlank).reverse).dropWhile isBlank).reverse

/-- The text without blank characters at its two ends. -/
def trim (text : String) : String :=
  String.ofList (trimChars text.toList)

theorem dropWhile_eq_self {p : Char → Bool} {xs : List Char}
    (h : ∀ c rest, xs = c :: rest → p c = false) : xs.dropWhile p = xs := by
  cases xs with
  | nil => rfl
  | cons c rest => simp [h c rest rfl]

theorem not_blank_of_dropWhile {p : Char → Bool} {s : List Char} {c : Char} {t : List Char}
    (h : s.dropWhile p = c :: t) : p c = false := by
  induction s with
  | nil => simp at h
  | cons d ds ih =>
    by_cases hd : p d
    · exact ih (by simpa [hd] using h)
    · simp only [List.dropWhile_cons, hd] at h
      cases h
      simpa using hd

/-- What starts the trimmed text is not blank. -/
theorem trimChars_cons {chars : List Char} {c : Char} {rest : List Char}
    (h : trimChars chars = c :: rest) : isBlank c = false := by
  have hsuffix := List.dropWhile_suffix isBlank (l := (chars.dropWhile isBlank).reverse)
  have hpre : trimChars chars <+: chars.dropWhile isBlank := by
    simpa [trimChars] using List.reverse_prefix.2 hsuffix
  obtain ⟨tail, htail⟩ := hpre
  rw [h] at htail
  exact not_blank_of_dropWhile (s := chars) (t := rest ++ tail) (by rw [← htail]; rfl)

/-- Trimming twice is trimming once. -/
theorem trimChars_trimChars (chars : List Char) :
    trimChars (trimChars chars) = trimChars chars := by
  rw [trimChars, dropWhile_eq_self fun c rest h => trimChars_cons h]
  rw [dropWhile_eq_self fun c rest h => ?_, List.reverse_reverse]
  exact not_blank_of_dropWhile (s := (chars.dropWhile isBlank).reverse) (t := rest)
    (by rw [← h, trimChars, List.reverse_reverse])

theorem trim_trim (text : String) : trim (trim text) = trim text := by
  simp [trim, trimChars_trimChars]

/-- A text without blank characters is not changed by trimming. -/
theorem trimChars_eq_self {chars : List Char} (h : ∀ c ∈ chars, isBlank c = false) :
    trimChars chars = chars := by
  have hfront : ∀ {xs : List Char}, (∀ c ∈ xs, isBlank c = false) → xs.dropWhile isBlank = xs :=
    fun hxs => dropWhile_eq_self fun c rest he => hxs c (he ▸ List.mem_cons_self)
  rw [trimChars, hfront h, hfront fun c hc => h c (List.mem_reverse.1 hc), List.reverse_reverse]

theorem trim_eq_self {text : String} (h : ∀ c ∈ text.toList, isBlank c = false) :
    trim text = text := by
  rw [trim, trimChars_eq_self h, String.ofList_toList]

/-- A text of blank characters only. -/
def isBlankText (text : String) : Bool :=
  text.toList.all isBlank

end FederatedAccess.Text
