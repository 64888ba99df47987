import FederatedAccess.Number.Numeral
import FederatedAccess.Settings.Tree
import FederatedAccess.Text.Blank

/-!
# Settings from YAML files

A file is one document of block and flow collections with plain, quoted and block scalars. Of
several entries with one name the last counts. Reading a file gives a tree of nodes as they are
written (`Node`); what a node stands for depends on the anchors before it (`Node.setting?`).

Lines are kept as lists of characters. A node that may run over several lines (a flow collection, a
quoted scalar) is read again with one more line for as long as it is not closed.
-/

namespace FederatedAccess.Yaml

/-- The outcome of reading something that may be cut off by the end of its line. -/
inductive Reading (α : Type)
  | done (value : α) (rest : List Char)
  | cut
  | wrong

/-- Goes on with what has been read. -/
def Reading.bind {α β : Type} (r : Reading α) (f : α → List Char → Reading β) : Reading β :=
  match r with
  | done value rest => f value rest
  | cut => cut
  | wrong => wrong

def Reading.map {α β : Type} (f : α → β) (r : Reading α) : Reading β :=
  r.bind fun value rest => .done (f value) rest

/-! ## Plain scalars -/

/-- The words for nothing. -/
def nullWords : List String := ["", "~", "null", "Null", "NULL"]

def trueWords : List String := ["true", "True", "TRUE"]

def falseWords : List String := ["false", "False", "FALSE"]

/-- The words for numbers without digits. -/
def numberWords : List String :=
  [".inf", ".Inf", ".INF", "+.inf", "+.Inf", "+.INF", "-.inf", "-.Inf", "-.INF", ".nan", ".NaN",
    ".NAN"]

/-- Whether characters are one or more digits below sixteen, eight or two, after their mark. -/
def isBased (chars : List Char) : Bool :=
  match chars with
  | '0' :: mark :: c :: rest =>
    let digits := c :: rest
    let isHexDigit := fun c =>
      Numeral.isDigit c || ('a' ≤ c && c ≤ 'f') || ('A' ≤ c && c ≤ 'F')
    (mark = 'x' && digits.all isHexDigit)
      || (mark = 'o' && digits.all fun c => '0' ≤ c && c ≤ '7')
      || (mark = 'b' && digits.all fun c => c = '0' || c = '1')
  | _ => false

/-- Whether a plain scalar is a number. Digits after a leading zero make a text. -/
def isNumber (chars : List Char) : Bool :=
  let magnitude := Numeral.dropSign chars
  let padded := magnitude.head? = some '0' && 1 < magnitude.length && magnitude.all Numeral.isDigit
  isBased magnitude || (Numeral.isReal chars && !padded)

def plain (chars : List Char) : Setting :=
  let word := String.ofList chars
  if nullWords.contains word then .missing
  else if trueWords.contains word then .bool true
  else if falseWords.contains word then .bool false
  else if numberWords.contains word || isNumber chars then .number
  else .text word

/-! ## Nodes -/

/-- What stands before a node: a name by which others refer to it, and a tag. -/
structure Properties where
  anchor : Option (List Char) := none
  tag : Option (List Char) := none

/-- A node as it is written. -/
inductive Node
  /-- A scalar whose meaning depends on its characters. -/
  | plain (chars : List Char)
  /-- A quoted or block scalar. -/
  | text (chars : List Char)
  | list (items : List Node)
  | group (entries : List (String × Node))
  /-- The node of that name again. -/
  | repeated (name : List Char)
  | marked (properties : Properties) (node : Node)

instance : Inhabited Node := ⟨.plain []⟩

/-- A node without a character. -/
def Node.missing : Node := .plain []

/-- The start of the tags that the language defines. -/
def coreTag : List Char := "tag:yaml.org,2002:".toList

/-- Whether a tag is a name of the file's own, which has no meaning for settings. -/
def isLocalTag : List Char → Bool
  | '!' :: _ :: _ => true
  | _ => false

/-- What a scalar with a tag stands for. A mark of exclamation alone says nothing about a plain
one. -/
def taggedScalar? (tag : List Char) (isPlain : Bool) (chars : List Char) : Option Setting :=
  let found := plain chars
  if isLocalTag tag then none
  else if isPlain ∧ tag = ['!'] then some found
  else if tag = coreTag ++ "bool".toList then
    match found with
    | .bool b => some (.bool b)
    | _ => none
  else if tag = coreTag ++ "null".toList then
    match found with
    | .missing => some .missing
    | _ => none
  else if tag = coreTag ++ "int".toList ∨ tag = coreTag ++ "float".toList then
    match found with
    | .number => some .number
    | _ => none
  else some (.text (String.ofList chars))

def scalar? (tag : Option (List Char)) (isPlain : Bool) (chars : List Char) : Option Setting :=
  match tag with
  | some tag => taggedScalar? tag isPlain chars
  | none => some (if isPlain then plain chars else .text (String.ofList chars))

/-- The settings that names refer to. -/
abbrev Anchors := List (List Char × Setting)

mutual
/-- What a node with a tag stands for, and the names known after it. -/
def Node.setting? (known : Anchors) (tag : Option (List Char)) :
    Node → Option (Setting × Anchors)
  | plain chars => (scalar? tag true chars).map (·, known)
  | text chars => (scalar? tag false chars).map (·, known)
  | repeated name => if tag.isSome then none else (known.lookup name).map (·, known)
  | list items =>
    if tag.any isLocalTag then none
    else (Node.settings? known items).map fun found => (.list found.1, found.2)
  | group entries =>
    if tag.any isLocalTag then none
    else (Node.entrySettings? known entries).map fun found => (.ofEntries found.1, found.2)
  | marked properties node =>
    if tag.isSome then none
    else do
      let (found, known) ← node.setting? known properties.tag
      match properties.anchor with
      | some name => some (found, (name, found) :: known)
      | none => some (found, known)

/-- What nodes stand for, one after the other. -/
def Node.settings? (known : Anchors) : List Node → Option (List Setting × Anchors)
  | [] => some ([], known)
  | node :: rest => do
    let (found, known) ← node.setting? known none
    let (more, known) ← Node.settings? known rest
    some (found :: more, known)

/-- What the nodes of entries stand for, one after the other. -/
def Node.entrySettings? (known : Anchors) :
    List (String × Node) → Option (List (String × Setting) × Anchors)
  | [] => some ([], known)
  | (name, node) :: rest => do
    let (found, known) ← node.setting? known none
    let (more, known) ← Node.entrySettings? known rest
    some ((name, found) :: more, known)
end

/-- Whether nothing stands before a node. -/
def Properties.isEmpty (properties : Properties) : Bool :=
  properties.anchor.isNone && properties.tag.isNone

def Properties.mark (properties : Properties) (node : Node) : Node :=
  if properties.isEmpty then node else .marked properties node

/-! ## Quoted scalars

A line end inside quotation marks is folded: blank characters around it go, one line end becomes a
blank, and further ones stay. -/

def isSpace (c : Char) : Bool :=
  c = ' ' || c = '\t'

/-- The line ends and blanks at the front, folded, and what follows. -/
def fold (input : List Char) : List Char × List Char :=
  let run := input.takeWhile fun c => isSpace c || c = '\n'
  let ends := (run.filter (· = '\n')).length
  (if ends = 1 then [' '] else List.replicate (ends - 1) '\n', input.drop run.length)

/-- The blanks at the front, or the folded line ends that they lead to, and what follows. -/
def gap (input : List Char) : List Char × List Char :=
  let blanks := input.takeWhile isSpace
  if (input.drop blanks.length).head? = some '\n' then fold input
  else (blanks, input.drop blanks.length)

/-- Adds characters in front of a text that has been read. -/
def Reading.prepend (chars : List Char) (r : Reading (List Char)) : Reading (List Char) :=
  r.map (chars ++ ·)

/-- A text after a single quotation mark; two marks stand for one. -/
def single : Nat → List Char → Reading (List Char)
  | 0, _ => .cut
  | fuel + 1, input =>
    match input with
    | [] => .cut
    | '\'' :: '\'' :: rest => (single fuel rest).prepend ['\'']
    | '\'' :: rest => .done [] rest
    | c :: rest =>
      if isSpace c ∨ c = '\n' then
        let (between, rest) := gap input
        (single fuel rest).prepend between
      else (single fuel rest).prepend [c]

/-- The character that a letter stands for after a backslash. -/
def escaped? (c : Char) : Option Char :=
  match c with
  | '0' => some '\x00'
  | 'a' => some '\x07'
  | 'b' => some '\x08'
  | 't' | '\t' => some '\t'
  | 'n' => some '\n'
  | 'v' => some '\x0b'
  | 'f' => some '\x0c'
  | 'r' => some '\r'
  | 'e' => some '\x1b'
  | ' ' => some ' '
  | '"' => some '"'
  | '/' => some '/'
  | '\\' => some '\\'
  | 'N' => some '\u0085'
  | '_' => some '\u00a0'
  | 'L' => some '\u2028'
  | 'P' => some '\u2029'
  | _ => none

/-- The number of hexadecimal digits that a letter announces. -/
def digitCount? (c : Char) : Option Nat :=
  match c with
  | 'x' => some 2
  | 'u' => some 4
  | 'U' => some 8
  | _ => none

/-- The value of a hexadecimal digit of either case. -/
def hexValue? (c : Char) : Option Nat :=
  if Numeral.isDigit c then some (Numeral.digitValue c)
  else if 'a' ≤ c ∧ c ≤ 'f' then some (c.toNat - 87)
  else if 'A' ≤ c ∧ c ≤ 'F' then some (c.toNat - 55)
  else none

/-- The character whose number is written with the given digits. -/
def charOfHex? (digits : List Char) : Option Char := do
  let v ← digits.foldlM (fun v c => (hexValue? c).map (v * 16 + ·)) 0
  if h : v.isValidChar then some (Char.ofNatAux v h) else none

/-- A text after a double quotation mark, with escapes. -/
def double : Nat → List Char → Reading (List Char)
  | 0, _ => .cut
  | fuel + 1, input =>
    match input with
    | [] => .cut
    | '"' :: rest => .done [] rest
    | '\\' :: [] => .cut
    | '\\' :: '\n' :: rest => double fuel (rest.dropWhile isSpace)
    | '\\' :: c :: rest =>
      match digitCount? c with
      | some n =>
        match charOfHex? (rest.take n) with
        | some found =>
          if rest.length < n then .wrong else (double fuel (rest.drop n)).prepend [found]
        | none => .wrong
      | none =>
        match escaped? c with
        | some found => (double fuel rest).prepend [found]
        | none => .wrong
    | c :: rest =>
      if isSpace c ∨ c = '\n' then
        let (between, rest) := gap input
        (double fuel rest).prepend between
      else (double fuel rest).prepend [c]

def quoted (input : List Char) : Reading (List Char) :=
  match input with
  | '\'' :: rest => single (rest.length + 1) rest
  | '"' :: rest => double (rest.length + 1) rest
  | _ => .wrong

/-! ## Properties -/

/-- A character of the name of a node. -/
def isNameChar (c : Char) : Bool :=
  c.isAlphanum || c = '_' || c = '-'

/-- The name of a node, which some character that cannot belong to it must follow. -/
def nodeName? (input : List Char) : Option (List Char × List Char) :=
  let name := input.takeWhile isNameChar
  let rest := input.drop name.length
  let mayFollow := fun c =>
    isSpace c || ['\n', '?', ':', ',', ']', '\x7d', '%', '@', '\x60'].contains c
  if !name.isEmpty ∧ rest.head?.all mayFollow then some (name, rest) else none

def isTagChar (c : Char) : Bool :=
  isNameChar c || ";/?:@&=+$.~*()%".toList.contains c || c = '\''

/-- A tag after its mark of exclamation: a whole name in angle brackets, one that the language
defines after a second mark, or one of the file's own. -/
def tag? (input : List Char) : Option (List Char × List Char) :=
  match input with
  | '<' :: rest =>
    let name := rest.takeWhile fun c => isTagChar c || c = '!' || c = ',' || c = '[' || c = ']'
    match rest.drop name.length with
    | '>' :: rest => if name.isEmpty then none else some (name, rest)
    | _ => none
  | '!' :: rest =>
    let name := rest.takeWhile isTagChar
    if name.isEmpty then none else some (coreTag ++ name, rest.drop name.length)
  | _ =>
    let name := input.takeWhile isTagChar
    some ('!' :: name, input.drop name.length)

/-- What stands before a node, a name and a tag in either order, and what follows. -/
def properties? (flow : Bool) : Nat → Properties → List Char → Option (Properties × List Char)
  | 0, _, _ => none
  | fuel + 1, found, input =>
    match input with
    | '&' :: rest =>
      if found.anchor.isSome then none
      else do
        let (name, rest) ← nodeName? rest
        properties? flow fuel { found with anchor := some name } (rest.dropWhile isSpace)
    | '!' :: rest =>
      if found.tag.isSome then none
      else do
        let (tag, rest) ← tag? rest
        if rest.head?.all fun c => isSpace c || c = '\n' || (flow && c = ',') then
          properties? flow fuel { found with tag := some tag } (rest.dropWhile isSpace)
        else none
    | _ => some (found, input)

def propertiesOf? (flow : Bool) (input : List Char) : Option (Properties × List Char) :=
  properties? flow 3 {} input

/-! ## Flow collections -/

/-- A character that cannot start a plain scalar. -/
def isIndicator (c : Char) : Bool :=
  ",[]\x7b\x7d#&*!|>'\"%@\x60".toList.contains c

/-- Whether a plain scalar can start here: a dash, a question mark or a colon must be followed by
something else than a blank. -/
def startsPlain (flow : Bool) : List Char → Bool
  | [] => false
  | c :: rest =>
    if c = '-' ∨ c = '?' ∨ c = ':' then
      match rest with
      | [] => false
      | d :: _ => !isSpace d && d ≠ '\n' && !(flow && ",[]\x7b\x7d".toList.contains d)
    else !isIndicator c && !isSpace c

/-- Whether a colon separates a name from its value, given what follows it. -/
def endsName (flow : Bool) : List Char → Bool
  | [] => true
  | c :: _ => isSpace c || c = '\n' || (flow && ",[]\x7b\x7d".toList.contains c)

/-- The characters of a plain scalar on its line, and what follows; `afterSpace` says that a blank
stands in front. -/
def plainChars (flow : Bool) (afterSpace : Bool) : List Char → List Char × List Char
  | [] => ([], [])
  | c :: rest =>
    if c = '\n' ∨ (c = ':' ∧ endsName flow rest) ∨ (c = '#' ∧ afterSpace) ∨
        (flow ∧ ",[]\x7b\x7d".toList.contains c) then ([], c :: rest)
    else
      let found := plainChars flow (isSpace c) rest
      (c :: found.1, found.2)

/-- A text without blanks at its end. -/
def trimRight (chars : List Char) : List Char :=
  (chars.reverse.dropWhile isSpace).reverse

/-- The input without comments up to the end of their lines, blanks and line ends. -/
def skipFlow : Nat → List Char → List Char
  | 0, input => input
  | fuel + 1, input =>
    match input.dropWhile fun c => isSpace c || c = '\n' with
    | '#' :: rest => skipFlow fuel (rest.dropWhile (· ≠ '\n'))
    | rest => rest

/-- The input after blanks, comments and line ends. -/
def next (input : List Char) : List Char :=
  skipFlow (input.length + 1) input

/-- A plain scalar in a flow collection, which may run over several lines. -/
def flowPlain : Nat → List Char → List Char × List Char
  | 0, input => ([], input)
  | fuel + 1, input =>
    let (line, rest) := plainChars true true input
    match rest with
    | '\n' :: _ =>
      let (between, after) := fold rest
      if startsPlain true after then
        let more := flowPlain fuel after
        (trimRight line ++ between ++ more.1, more.2)
      else (trimRight line, rest)
    | _ => (trimRight line, rest)

mutual
/-- A node of a flow collection; `fuel` bounds nesting and number of parts. -/
def flowNode : Nat → List Char → Reading Node
  | 0, _ => .wrong
  | fuel + 1, input =>
    match propertiesOf? true (next input) with
    | none => .wrong
    | some (properties, input) =>
      let content := next input
      if !properties.isEmpty && [',', ']', '\x7d'].contains (content.headD ' ') then
        .done (properties.mark .missing) content
      else (flowContent fuel content).map properties.mark

/-- A node of a flow collection without its properties. -/
def flowContent : Nat → List Char → Reading Node
  | 0, _ => .wrong
  | fuel + 1, input =>
    match input with
    | [] => .cut
    | '[' :: rest => flowItems fuel rest []
    | '\x7b' :: rest => flowEntries fuel rest []
    | '\'' :: rest => (quoted ('\'' :: rest)).map .text
    | '"' :: rest => (quoted ('"' :: rest)).map .text
    | '*' :: rest =>
      match nodeName? rest with
      | some (name, rest) => .done (.repeated name) rest
      | none => .wrong
    | input =>
      if startsPlain true input then
        let (chars, rest) := flowPlain (input.length + 1) input
        .done (.plain chars) rest
      else .wrong

/-- The items of a flow sequence up to its closing bracket. -/
def flowItems : Nat → List Char → List Node → Reading Node
  | 0, _, _ => .wrong
  | fuel + 1, input, found =>
    match next input with
    | [] => .cut
    | ']' :: rest => .done (.list found) rest
    | input =>
      (flowNode fuel input).bind fun item rest =>
        match next rest with
        | [] => .cut
        | ',' :: rest => flowItems fuel rest (found ++ [item])
        | ']' :: rest => .done (.list (found ++ [item])) rest
        | _ => .wrong

/-- The entries of a flow mapping up to its closing brace. -/
def flowEntries : Nat → List Char → List (String × Node) → Reading Node
  | 0, _, _ => .wrong
  | fuel + 1, input, found =>
    match next input with
    | [] => .cut
    | '\x7d' :: rest => .done (.group found) rest
    | input =>
      (flowName input).bind fun name rest =>
        match next rest with
        | [] => .cut
        | ':' :: rest => flowValue fuel rest found name
        | ',' :: rest => flowEntries fuel rest (found ++ [(name, .missing)])
        | '\x7d' :: rest => .done (.group (found ++ [(name, .missing)])) rest
        | _ => .wrong

/-- The value of an entry after its colon, and the entries that follow. -/
def flowValue : Nat → List Char → List (String × Node) → String → Reading Node
  | 0, _, _, _ => .wrong
  | fuel + 1, input, found, name =>
    match next input with
    | [] => .cut
    | ',' :: rest => flowEntries fuel rest (found ++ [(name, .missing)])
    | '\x7d' :: rest => .done (.group (found ++ [(name, .missing)])) rest
    | input =>
      (flowNode fuel input).bind fun value rest =>
        match next rest with
        | [] => .cut
        | ',' :: rest => flowEntries fuel rest (found ++ [(name, value)])
        | '\x7d' :: rest => .done (.group (found ++ [(name, value)])) rest
        | _ => .wrong

/-- The name of an entry of a flow mapping. -/
def flowName (input : List Char) : Reading String :=
  match input with
  | '\'' :: _ | '"' :: _ => (quoted input).map String.ofList
  | _ =>
    if startsPlain true input then
      let (chars, rest) := flowPlain (input.length + 1) input
      .done (String.ofList chars) rest
    else .wrong
end

/-! ## Lines -/

/-- A line of a file. -/
abbrev Line := List Char

def lines : List Char → List Line
  | [] => [[]]
  | '\r' :: '\n' :: rest => [] :: lines rest
  | c :: rest =>
    if c = '\n' ∨ c = '\r' then [] :: lines rest
    else match lines rest with
      | [] => [[c]]
      | line :: more => (c :: line) :: more

/-- The number of blanks at the start of a line. -/
def indent (line : Line) : Nat :=
  (line.takeWhile (· = ' ')).length

/-- Whether nothing but blanks and a comment remains of a line. -/
def isBlankRest (rest : List Char) : Bool :=
  match rest.dropWhile isSpace with
  | [] => true
  | '#' :: _ => true
  | _ => false

/-- Whether nothing but a comment after blanks remains of a line behind a node. -/
def endsNode (rest : List Char) : Bool :=
  rest.isEmpty || (isBlankRest rest && rest.head?.any isSpace)

/-- The lines from the first that is not blank. -/
def skipBlank (input : List Line) : List Line :=
  input.dropWhile isBlankRest

/-- Whether a line is a mark between documents. -/
def isMark (mark : String) (line : Line) : Bool :=
  mark.toList.isPrefixOf line && (line.drop 3).head?.all isSpace

def endsDocument (line : Line) : Bool :=
  isMark "---" line || isMark "..." line

/-- Whether the content of a line is an item of a block sequence. -/
def isItem : List Char → Bool
  | ['-'] => true
  | '-' :: c :: _ => isSpace c
  | _ => false

/-- The name at the start of an entry of a block mapping, and what follows its colon. -/
def entryName? (content : List Char) : Option (String × List Char) :=
  match content with
  | '\'' :: _ | '"' :: _ =>
    match quoted content with
    | .done name rest =>
      match rest.dropWhile isSpace with
      | ':' :: rest => if endsName false rest then some (String.ofList name, rest) else none
      | _ => none
    | _ => none
  | _ =>
    if startsPlain false content then
      match plainChars false true content with
      | (name, ':' :: rest) => some (String.ofList (trimRight name), rest)
      | _ => none
    else none

/-- A node that may run over several lines, read again with one more line while it is cut off. -/
def joined? (read : List Char → Reading Node) (text : List Char) :
    List Line → Option (Node × List Line)
  | [] =>
    match read text with
    | .done value rest => if endsNode rest then some (value, []) else none
    | _ => none
  | line :: more =>
    match read text with
    | .done value rest => if endsNode rest then some (value, line :: more) else none
    | .cut => if endsDocument line then none else joined? read (text ++ '\n' :: line) more
    | .wrong => none

/-- The further lines of a plain scalar, which are indented to at least `least`, and what follows.
Line ends are folded. -/
def plainLines (least : Nat) : Nat → List Line → Option (List Char × List Line)
  | 0, _ => none
  | fuel + 1, input =>
    match skipBlank input with
    | [] => some ([], input)
    | line :: more =>
      let empty := (input.takeWhile fun l => l.all isSpace).length
      let comments := input.length - (skipBlank input).length - empty
      let content := line.dropWhile isSpace
      if indent line < least ∨ endsDocument line ∨ 0 < comments ∨ content.head? = some '#' then
        some ([], input)
      else
        match plainChars false true content with
        | (chars, rest) =>
          if rest.head? = some ':' then none
          else do
            let found ← if rest.isEmpty then plainLines least fuel more else some ([], more)
            let between := if empty = 0 then [' '] else List.replicate empty '\n'
            some (between ++ trimRight chars ++ found.1, found.2)

/-- A plain scalar that starts on a line, and the lines after it. -/
def plainNode? (least : Nat) (content : List Char) (input : List Line) :
    Option (Node × List Line) := do
  if !startsPlain false content then none
  else
    let (chars, rest) := plainChars false true content
    if rest.head? = some ':' then none
    else if rest.isEmpty then
      let found ← plainLines least (input.length + 1) input
      some (.plain (trimRight chars ++ found.1), found.2)
    else some (.plain (trimRight chars), input)

/-! ## Block scalars -/

/-- How the line ends at the end of a block scalar are kept. -/
inductive Chomping
  | clip | strip | keep
deriving DecidableEq, Repr

/-- The header of a block scalar after its indicator: the given indentation and the chomping. -/
def header? (explicit : Option Nat) (chomping : Option Chomping) : List Char →
    Option (Option Nat × Chomping)
  | [] => some (explicit, chomping.getD .clip)
  | c :: rest =>
    if c = '-' ∧ chomping.isNone then header? explicit (some .strip) rest
    else if c = '+' ∧ chomping.isNone then header? explicit (some .keep) rest
    else if '1' ≤ c ∧ c ≤ '9' ∧ explicit.isNone then
      header? (some (Numeral.digitValue c)) chomping rest
    else if isSpace c ∧ isBlankRest rest then some (explicit, chomping.getD .clip)
    else none

/-- The lines of a block scalar without their indentation, and what follows. -/
def scalarLines (width : Nat) : List Line → List Line × List Line
  | [] => ([], [])
  | line :: more =>
    if line.all (· = ' ') ∨ width ≤ indent line then
      let found := scalarLines width more
      (line.drop width :: found.1, found.2)
    else ([], line :: more)

/-- What stands between two lines of a folded scalar with some empty lines between them. Ends are
kept beside lines that start with a blank. -/
def betweenLines (above below : Line) (empty : Nat) : List Char :=
  if above.head?.any isSpace || below.head?.any isSpace then List.replicate (empty + 1) '\n'
  else if empty = 0 then [' ']
  else List.replicate empty '\n'

/-- The text of the lines after `above` with folded ends; `empty` counts the empty lines since. -/
def foldLines (above : Option Line) (empty : Nat) : List Line → List Char
  | [] => List.replicate empty '\n'
  | line :: rest =>
    if line.isEmpty then foldLines above (empty + 1) rest
    else
      let between := match above with
        | none => List.replicate empty '\n'
        | some previous => betweenLines previous line empty
      between ++ line ++ foldLines (some line) 0 rest

/-- A block scalar after its indicator, inside a node that is indented by `least - 1`. -/
def blockScalar? (folded : Bool) (least : Nat) (head : List Char) (input : List Line) :
    Option (Node × List Line) := do
  let (explicit, chomping) ← header? none none head
  let first := (input.dropWhile fun l => l.all (· = ' ')).head?
  let width := match explicit, first with
    | some n, _ => least - 1 + n
    | none, some line => max least (indent line)
    | none, none => least
  let (all, rest) := scalarLines width input
  let unfinished := rest.isEmpty && (all.getLastD []).length ≠ 0
  let found := if rest.isEmpty ∧ !unfinished then all.dropLast else all
  let kept := (found.reverse.dropWhile List.isEmpty).reverse
  let text := if folded then foldLines none 0 kept else List.intercalate ['\n'] kept
  let ending := if unfinished then [] else match chomping with
    | .strip => []
    | .clip => if kept.isEmpty then [] else ['\n']
    | .keep => List.replicate (found.length - kept.length + (if kept.isEmpty then 0 else 1)) '\n'
  some (.text (text ++ ending), rest)

/-! ## Block collections -/

/-- A node whose content starts on the present line and is no block collection; `least` is the least
indentation of its further lines. -/
def inlineNode? (least : Nat) (content : List Char) (input : List Line) :
    Option (Node × List Line) :=
  match content with
  | '[' :: _ | '\x7b' :: _ =>
    joined? (fun text => flowNode (3 * text.length + 4) text) content input
  | '\'' :: _ | '"' :: _ =>
    joined? (fun text => (quoted text).map .text) content input
  | '*' :: rest => do
    let (name, rest) ← nodeName? rest
    if endsNode rest then some (.repeated name, input) else none
  | '|' :: head => blockScalar? false least head input
  | '>' :: head => blockScalar? true least head input
  | _ => plainNode? least content input

mutual
/-- The node that starts on the next line, indented to at least `least`; nothing if there is none.
`fuel` bounds nesting and number of parts. -/
def blockNode? : Nat → Nat → List Line → Option (Node × List Line)
  | 0, _, _ => none
  | fuel + 1, least, input =>
    match skipBlank input with
    | [] => some (.missing, [])
    | line :: more =>
      let content := line.drop (indent line)
      if indent line < least ∨ endsDocument line then some (.missing, line :: more)
      else if content.head? = some '\t' then none
      else if isItem content then blockItems? fuel (indent line) (line :: more) []
      else do
        let (properties, rest) ← propertiesOf? false content
        if (entryName? rest).isSome then
          blockEntries? fuel (indent line) ((List.replicate (indent line) ' ' ++ rest) :: more) []
        else if isBlankRest rest then
          (blockNode? fuel least more).map fun found => (properties.mark found.1, found.2)
        else
          (inlineNode? least rest more).map fun found => (properties.mark found.1, found.2)

/-- The items of a block sequence indented by `width`. -/
def blockItems? : Nat → Nat → List Line → List Node → Option (Node × List Line)
  | 0, _, _, _ => none
  | fuel + 1, width, input, found =>
    match skipBlank input with
    | [] => some (.list found, [])
    | line :: more =>
      let content := line.drop (indent line)
      if indent line = width ∧ isItem content ∧ !endsDocument line then do
        let inner := List.replicate (width + 1) ' ' ++ content.drop 1
        let (item, rest) ← blockNode? fuel (width + 1) (inner :: more)
        blockItems? fuel width rest (found ++ [item])
      else if indent line < width ∨ endsDocument line ∨ !isItem content then
        if width < indent line then none else some (.list found, line :: more)
      else none

/-- The entries of a block mapping indented by `width`. -/
def blockEntries? : Nat → Nat → List Line → List (String × Node) → Option (Node × List Line)
  | 0, _, _, _ => none
  | fuel + 1, width, input, found =>
    match skipBlank input with
    | [] => some (.group found, [])
    | line :: more =>
      if indent line < width ∨ endsDocument line then some (.group found, line :: more)
      else if width < indent line then none
      else do
        let (name, rest) ← entryName? (line.drop width)
        let (value, rest) ← entryValue? fuel width rest more
        blockEntries? fuel width rest (found ++ [(name, value)])

/-- The value of an entry after its colon. A sequence may stand as far to the left as the name. -/
def entryValue? : Nat → Nat → List Char → List Line → Option (Node × List Line)
  | 0, _, _, _ => none
  | fuel + 1, width, rest, more => do
    let (properties, rest) ← propertiesOf? false (rest.dropWhile isSpace)
    let (node, rest) ←
      if isBlankRest rest then
        match skipBlank more with
        | [] => some (.missing, [])
        | line :: after =>
          if indent line = width ∧ isItem (line.drop width) ∧ !endsDocument line then
            blockItems? fuel width (line :: after) []
          else blockNode? fuel (width + 1) (line :: after)
      else inlineNode? (width + 1) (rest.dropWhile isSpace) more
    some (properties.mark node, rest)
end

/-! ## Documents -/

/-- Whether a line names the version of the language that a document is written in. -/
def isVersion (line : Line) : Bool :=
  ["1.1", "1.2"].any fun version =>
    let directive := ("%YAML " ++ version).toList
    directive.isPrefixOf line && endsNode (line.drop directive.length)

/-- The lines of the only document. A directive must be followed by the mark of a document. -/
def body? (input : List Line) : Option (List Line) :=
  let directed := (skipBlank input).head?.any isVersion
  match skipBlank (if directed then (skipBlank input).drop 1 else input) with
  | [] => if directed then none else some []
  | line :: more =>
    if isMark "---" line then some ((List.replicate 3 ' ' ++ line.drop 3) :: more)
    else if directed ∨ line.head? = some '%' then none
    else some (line :: more)

/-- Whether a character may stand in a file. -/
def isAllowed (c : Char) : Bool :=
  isSpace c || c = '\n' || c = '\r' || (' ' ≤ c && c ≤ '~') || c = '\u0085' ||
    ('\u00a0' ≤ c && c ≠ '\ufffe' && c ≠ '\uffff')

/-- Whether nothing follows the document. -/
def isOver (input : List Line) : Bool :=
  match skipBlank input with
  | [] => true
  | line :: more => isMark "..." line && isBlankRest (line.drop 3) && (skipBlank more).isEmpty

/-- The settings of a file. A file without a document has none. -/
def settings? (text : String) : Option Setting := do
  let chars := match text.toList with
    | '\ufeff' :: rest => rest
    | chars => chars
  if !chars.all isAllowed then none
  else
    let input ← body? (lines chars)
    let (found, rest) ← blockNode? (2 * chars.length + 4) 0 input
    if !isOver rest then none
    else match (← found.setting? [] none).1 with
      | .missing => if (skipBlank input).all endsDocument then some (.group []) else none
      | .group entries => some (.group entries)
      | _ => none

end FederatedAccess.Yaml
