import FederatedAccess.Text.Blank

/-!
# Flags of regular expressions

Flags change how the rest of a group is read. With `spaced`, blank characters and comments between
the parts of an expression do not count.
-/

namespace FederatedAccess.Pattern

/-- How an expression is to be read. -/
structure Flags where
  /-- Case does not count (`i`). -/
  caseless : Bool := false
  /-- Lines have starts and ends of their own (`m`). -/
  multiline : Bool := false
  /-- The dot stands for line ends as well (`s`). -/
  dotAll : Bool := false
  /-- Classes of characters extend beyond ASCII (`u`). -/
  unicode : Bool := true
  /-- Lines also end at carriage returns (`R`). -/
  crlf : Bool := false
  /-- Blank characters and comments are skipped over (`x`). -/
  spaced : Bool := false
deriving DecidableEq, Repr

namespace Flags

/-- The flags with one of them, named by its letter, turned on or off. The letter for greed (`U`)
changes nothing, since no match is preferred to another. -/
def set? (flags : Flags) (letter : Char) (on : Bool) : Option Flags :=
  match letter with
  | 'i' => some { flags with caseless := on }
  | 'm' => some { flags with multiline := on }
  | 's' => some { flags with dotAll := on }
  | 'u' => some { flags with unicode := on }
  | 'R' => some { flags with crlf := on }
  | 'x' => some { flags with spaced := on }
  | 'U' => some flags
  | _ => none

/-- Letters of flags as they stand between a question mark and what closes them. -/
structure Directive where
  /-- The flags that result. -/
  flags : Flags
  /-- Whether no letter and no minus sign was given. -/
  isEmpty : Bool
  /-- Whether a colon closes the letters, so that they hold for one group only. -/
  opensGroup : Bool
  /-- What follows. -/
  rest : List Char

/-- Reads letters of flags. Those after a minus sign are turned off; no letter and no sign may come
twice, and a letter must follow the sign. -/
def directive? (flags : Flags) (seen : List Char) (on : Bool) : List Char → Option Directive
  | [] => none
  | c :: rest =>
    if c = ':' ∨ c = ')' then
      if seen.head? = some '-' then none else some ⟨flags, seen.isEmpty, c = ':', rest⟩
    else if seen.contains c then none
    else if c = '-' then directive? flags (c :: seen) false rest
    else (flags.set? c on).bind fun flags => directive? flags (c :: seen) on rest

end Flags

/-! ## Blank characters and comments -/

/-- Drops blank characters and comments, which run from a number sign to the end of the line. -/
def dropComments (inComment : Bool) : List Char → List Char
  | [] => []
  | c :: rest =>
    if inComment then dropComments (c ≠ '\n') rest
    else if Text.isBlank c then dropComments false rest
    else if c = '#' then dropComments true rest
    else c :: rest

/-- The input where the next part starts. -/
def skip (spaced : Bool) (input : List Char) : List Char :=
  if spaced then dropComments false input else input

/-- The character after the present one as far as it decides about a range. -/
def lookAhead? (spaced : Bool) (input : List Char) : Option Char :=
  if spaced then
    match input.dropWhile Text.isBlank with
    | '#' :: rest => (rest.dropWhile Text.isBlank).head?
    | found => found.head?
  else input.head?

end FederatedAccess.Pattern
