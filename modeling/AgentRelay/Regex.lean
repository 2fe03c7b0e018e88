import AgentRelay.Text.Alphanumeric
import AgentRelay.Text.Blank

set_option autoImplicit false

/-!
# Regular expressions

A filter may demand that a field have a value that matches a regular expression.  No value is ever compared
here: all that counts is which texts are regular expressions, because a filter with any other text is no
filter at all.  `Regex.accepts` decides that.

The text stands between the braces of a directive, so it holds neither a closing brace nor a comma.  Hence an
opening brace outside a class would open a count that nothing closes.

An expression is about characters, or about bytes where the flag `u` is switched off.  Tables of letters and
of their cases are not at hand, so among characters whatever needs them is refused: the classes `\d`, `\s`,
`\w` and `\p`, the boundaries of words, and letters of either case.  Among bytes whatever may match a part of
a character is refused.

A text is read once from left to right.  The reader keeps how deeply each part is nested, and nothing else of
it, because there is a limit on that.
-/

namespace AgentRelay.Regex

/-! ## Modes -/

/-- How a text is read: about characters or about bytes, with or without regard to case, and whether blanks
and comments between its parts are skipped. -/
structure Mode where
  unicode : Bool
  ignoresCase : Bool
  spaced : Bool
  deriving DecidableEq, Repr

namespace Mode

/-- The mode in which every text begins. -/
def initial : Mode := ⟨true, false, false⟩

/-- The letters of the flags. -/
def letters : List Char := ['i', 'm', 's', 'U', 'u', 'R', 'x']

/-- Whether a text is a list of flags: each letter at most once, and at most one hyphen, which is not the
last sign. -/
def areFlags (flags : List Char) : Bool :=
  flags.all (fun c => c == '-' || letters.contains c) && decide flags.Nodup && flags.getLast? != some '-'

/-- What a list of flags makes of a switch.  Behind the hyphen the flags switch off. -/
def switched (flags : List Char) (letter : Char) (before : Bool) : Bool :=
  if flags.contains letter then (flags.takeWhile (· != '-')).contains letter else before

/-- The mode that a list of flags makes of a mode. -/
def set (m : Mode) (flags : List Char) : Mode :=
  ⟨switched flags 'u' m.unicode, switched flags 'i' m.ignoresCase, switched flags 'x' m.spaced⟩

/-- Whether a character may stand for itself.  `isByte` tells that it is written as a byte. -/
def admitsLiteral (m : Mode) (c : Char) (isByte : Bool) : Bool :=
  if m.unicode then !m.ignoresCase else !isByte || c.toNat < 0x80

/-- Whether a character may be a member of a class, or the end of a range in one. -/
def admitsMember (m : Mode) (c : Char) : Bool := if m.unicode then !m.ignoresCase else c.toNat < 0x80

/-- Whether one of the classes `\d`, `\s` and `\w` may be used, or its complement. -/
def admitsCategory (m : Mode) (negated : Bool) : Bool := !m.unicode && !negated

/-- Whether a named class may be used, or its complement. -/
def admitsNamed (m : Mode) (negated : Bool) : Bool := if m.unicode then !m.ignoresCase else !negated

end Mode

/-- The text from the first sign on that is neither blank nor in a comment.  A comment ends with its line. -/
def skipSpace (inComment : Bool) : List Char → List Char
  | [] => []
  | c :: rest =>
    if inComment then skipSpace (c != '\n') rest
    else if isBlank c then skipSpace false rest
    else if c == '#' then skipSpace true rest
    else c :: rest

theorem skipSpace_length (cs : List Char) (inComment : Bool) : (skipSpace inComment cs).length ≤ cs.length := by
  induction cs generalizing inComment with
  | nil => simp [skipSpace]
  | cons c rest ih =>
    have hf := ih false
    have ht := ih true
    have hn := ih (c != '\n')
    unfold skipSpace
    split
    · simp only [List.length_cons]; omega
    · split
      · simp only [List.length_cons]; omega
      · split
        · simp only [List.length_cons]; omega
        · exact Nat.le_refl _

/-- The next part of a text. -/
def skip (m : Mode) (cs : List Char) : List Char := if m.spaced then skipSpace false cs else cs

theorem skip_length (m : Mode) (cs : List Char) : (skip m cs).length ≤ cs.length := by
  unfold skip
  split
  · exact skipSpace_length cs false
  · exact Nat.le_refl _

/-- The sign that decides what a hyphen in a class means: the next one, where blanks and the beginning of a
comment are skipped. -/
def peek (m : Mode) (cs : List Char) : Option Char :=
  if m.spaced then
    match cs.dropWhile isBlank with
    | '#' :: rest => (rest.dropWhile isBlank).head?
    | rest => rest.head?
  else cs.head?

/-! ## Escapes -/

/-- What a backslash and the signs behind it stand for. -/
inductive Escape where
  | literal (c : Char) (isByte : Bool)
  | assertion (aboutWords : Bool)
  | category (negated : Bool)
  deriving DecidableEq, Repr

/-- The value of a hexadecimal digit. -/
def digit? (c : Char) : Option Nat :=
  if c.isDigit then some (c.toNat - '0'.toNat)
  else if 'a' ≤ c && c ≤ 'f' then some (c.toNat - 'a'.toNat + 10)
  else if 'A' ≤ c && c ≤ 'F' then some (c.toNat - 'A'.toNat + 10)
  else none

/-- The number of so many hexadecimal digits, added to the digits before them. -/
def hexNumber? (m : Mode) (before : Nat) : Nat → List Char → Option (Nat × List Char)
  | 0, cs => some (before, cs)
  | n + 1, cs =>
    match skip m cs with
    | [] => none
    | c :: rest => (digit? c).bind fun d => hexNumber? m (before * 16 + d) n rest

/-- The character of a code with so many digits. -/
def coded? (m : Mode) (digits : Nat) (cs : List Char) : Option (Escape × List Char) :=
  match hexNumber? m 0 digits cs with
  | some (n, rest) => if n.isValidChar then some (.literal (Char.ofNat n) (digits == 2), rest) else none
  | none => none

/-- The control character that a letter names. -/
def control? : Char → Option Char
  | 'a' => some '\x07'
  | 'f' => some '\x0c'
  | 't' => some '\t'
  | 'n' => some '\n'
  | 'r' => some '\r'
  | 'v' => some '\x0b'
  | _ => none

/-- Reads what follows a backslash.  ASCII signs that are neither letters nor digits stand for themselves. -/
def escape? (m : Mode) : List Char → Option (Escape × List Char)
  | [] => none
  | c :: rest =>
    if c == 'x' then coded? m 2 rest
    else if c == 'u' then coded? m 4 rest
    else if c == 'U' then coded? m 8 rest
    else if ['d', 's', 'w'].contains c then some (.category false, rest)
    else if ['D', 'S', 'W'].contains c then some (.category true, rest)
    else if ['A', 'z'].contains c then some (.assertion false, rest)
    else if ['b', 'B', '<', '>'].contains c then some (.assertion true, rest)
    else
      match control? c with
      | some control => some (.literal control false, rest)
      | none => if c.toNat < 0x80 && !c.isAlphanum then some (.literal c false, rest) else none

/-! ## Nesting -/

/-- The greatest depth of an expression. -/
def maxDepth : Nat := 250

/-- How deep a sequence, a choice or a union of parts is: a single part stands alone. -/
def joined : List Nat → Nat
  | [] => 0
  | [depth] => depth
  | depths => depths.foldl max 0 + 1

/-- A part of a sequence: how deep it is, and whether it may be repeated.  Flags may not. -/
structure Part where
  depth : Nat
  repeatable : Bool
  deriving DecidableEq, Repr

/-- What surrounds an open group. -/
structure Group where
  mode : Mode
  choices : List Nat
  parts : List Part
  deriving DecidableEq, Repr

/-- An open class: the left side of an operator, and the members since. -/
structure Bracket where
  left : Option Nat
  members : List Nat
  deriving DecidableEq, Repr

/-- How deep a class is inside its brackets. -/
def Bracket.depth (b : Bracket) : Nat :=
  match b.left with
  | none => joined b.members
  | some left => max left (joined b.members) + 1

/-! ## Classes -/

/-- The names of classes. -/
def classNames : List String :=
  ["alnum", "alpha", "ascii", "blank", "cntrl", "digit", "graph", "lower", "print", "punct", "space", "upper",
   "word", "xdigit"]

/-- The named class between `[:` and `:]`, and whether it is the complement. -/
def namedClass? : List Char → Option (Bool × List Char)
  | '[' :: ':' :: rest =>
    let negated := rest.head? == some '^'
    let parts := (if negated then rest.drop 1 else rest).span (· != ':')
    match parts.2 with
    | ':' :: ']' :: after => if classNames.contains (String.ofList parts.1) then some (negated, after) else none
    | _ => none
  | _ => none

/-- The hyphens at the beginning of a class, which stand for themselves, and what follows. -/
def hyphens (m : Mode) (cs : List Char) : Nat × List Char :=
  match cs with
  | '-' :: rest => ((hyphens m (skip m rest)).1 + 1, (hyphens m (skip m rest)).2)
  | cs => (0, cs)
termination_by cs.length
decreasing_by
  all_goals exact Nat.lt_succ_of_le (skip_length m _)

/-- The sign of a complement at the beginning of a class. -/
def complemented (m : Mode) (cs : List Char) : Bool × List Char :=
  match cs with
  | '^' :: rest => (true, skip m rest)
  | cs => (false, cs)

/-- Reads the beginning of a class, after its opening bracket.  A closing bracket that comes first stands for
itself, and so do hyphens. -/
def bracket? (m : Mode) (cs : List Char) : Option (Bracket × List Char) :=
  let start := complemented m (skip m cs)
  let lead := hyphens m start.2
  let isClosing := lead.1 == 0 && lead.2.head? == some ']'
  let count := if isClosing then 1 else lead.1
  let rest := if isClosing then skip m (lead.2.drop 1) else lead.2
  if rest.isEmpty || (start.1 && !m.unicode) || (count != 0 && !m.admitsMember '-') then none
  else some (⟨none, List.replicate count 0⟩, rest)

/-- Reads a member of a class that is no class of its own and no range. -/
def member? (m : Mode) : List Char → Option (Escape × List Char)
  | [] => none
  | c :: rest => if c == '\\' then escape? m rest else some (.literal c false, rest)

/-- Whether something may be a member of a class by itself. -/
def Escape.isMember (m : Mode) : Escape → Bool
  | .literal c _ => m.admitsMember c
  | .category negated => m.admitsCategory negated
  | .assertion _ => false

/-- Whether two things are the ends of a range. -/
def isRange (m : Mode) : Escape → Escape → Bool
  | .literal a _, .literal b _ => m.admitsMember a && m.admitsMember b && a ≤ b
  | _, _ => false

/-- Reads a member of a class or a range.  A hyphen makes a range, unless a closing bracket or another hyphen
follows it. -/
def range? (m : Mode) (cs : List Char) : Option (List Char) := do
  let (first, rest) ← member? m cs
  match skip m rest with
  | [] => none
  | c :: rest =>
    if c == '-' && peek m rest != some ']' && peek m rest != some '-' then
      let (last, rest) ← member? m (skip m rest)
      if isRange m first last then some rest else none
    else if first.isMember m then some (c :: rest)
    else none

/-! ## Reading -/

/-- How far a text has been read: the mode, the choices and the parts of the innermost group, the groups and
the classes around, and the names of groups. -/
structure Progress where
  mode : Mode
  choices : List Nat
  parts : List Part
  groups : List Group
  brackets : List Bracket
  names : List (List Char)
  deriving DecidableEq, Repr

namespace Progress

/-- Before anything is read. -/
def start : Progress := ⟨.initial, [], [], [], [], []⟩

/-- How deep the innermost group is inside. -/
def depth (p : Progress) : Nat := joined (joined (p.parts.map Part.depth) :: p.choices)

/-- Adds a part. -/
def add (p : Progress) (depth : Nat) : Progress := { p with parts := ⟨depth, true⟩ :: p.parts }

/-- Adds a part if it is admitted. -/
def addIf (p : Progress) (admitted : Bool) (rest : List Char) : Option (Progress × List Char) :=
  if admitted then some (p.add 0, rest) else none

/-- Opens a group that begins in a mode. -/
def openGroup (p : Progress) (mode : Mode) : Progress :=
  { p with mode, choices := [], parts := [], groups := ⟨p.mode, p.choices, p.parts⟩ :: p.groups }

/-- Closes the innermost group. -/
def closeGroup (p : Progress) : Option Progress :=
  match p.groups with
  | [] => none
  | g :: groups =>
    some ({ p with mode := g.mode, choices := g.choices, parts := g.parts, groups }.add (p.depth + 1))

/-- Repeats the last part. -/
def repeatLast (p : Progress) : Option Progress :=
  match p.parts with
  | [] => none
  | last :: parts => if last.repeatable then some { p with parts := ⟨last.depth + 1, true⟩ :: parts } else none

/-- Whether a text names a group: it begins with a letter or an underscore, and no other group has it. -/
def isName (p : Progress) (name : List Char) : Bool :=
  !p.names.contains name && match name with
    | [] => false
    | c :: rest => (c == '_' || isAlphabetic c) && rest.all fun c => "_.[]".toList.contains c || isAlphanumeric c

/-- Opens a group with a name. -/
def openNamed (p : Progress) (cs : List Char) : Option (Progress × List Char) :=
  let parts := cs.span (· != '>')
  match parts.2 with
  | [] => none
  | _ :: rest =>
    if p.isName parts.1 then some ({ p with names := parts.1 :: p.names }.openGroup p.mode, rest) else none

/-- Opens a group with flags, or sets flags for the rest of the group. -/
def openFlagged (p : Progress) (cs : List Char) : Option (Progress × List Char) :=
  let parts := cs.span fun c => c != ':' && c != ')'
  match parts.2 with
  | [] => none
  | c :: rest =>
    if !Mode.areFlags parts.1 then none
    else if c == ':' then some (p.openGroup (p.mode.set parts.1), rest)
    else if parts.1.isEmpty then none
    else some ({ p with mode := p.mode.set parts.1, parts := ⟨0, false⟩ :: p.parts }, rest)

/-- Reads what follows an opening parenthesis. -/
def readGroup (p : Progress) (cs : List Char) : Option (Progress × List Char) :=
  match skip p.mode cs with
  | '?' :: 'P' :: '<' :: rest => p.openNamed rest
  | '?' :: '<' :: rest => p.openNamed rest
  | '?' :: rest => p.openFlagged rest
  | rest => some (p.openGroup p.mode, rest)

/-- Reads one part of a sequence. -/
def readPart (p : Progress) (c : Char) (rest : List Char) : Option (Progress × List Char) :=
  if c == '(' then p.readGroup rest
  else if c == ')' then p.closeGroup.map (·, rest)
  else if c == '|' then
    some ({ p with choices := joined (p.parts.map Part.depth) :: p.choices, parts := [] }, rest)
  else if c == '[' then
    (bracket? p.mode rest).map fun (b, rest) => ({ p with brackets := [b] }, rest)
  else if c == '?' || c == '*' || c == '+' then
    p.repeatLast.map (·, if rest.head? == some '?' then rest.drop 1 else rest)
  else if c == '\x7b' then none
  else if c == '.' then p.addIf p.mode.unicode rest
  else if c == '^' || c == '$' then p.addIf true rest
  else if c == '\\' then
    match escape? p.mode rest with
    | none => none
    | some (.literal c isByte, rest) => p.addIf (p.mode.admitsLiteral c isByte) rest
    | some (.assertion aboutWords, rest) => p.addIf (!aboutWords || !p.mode.unicode) rest
    | some (.category negated, rest) => p.addIf (p.mode.admitsCategory negated) rest
  else p.addIf (p.mode.admitsLiteral c false) rest

/-- Reads one part of the innermost class. -/
def readMember (p : Progress) (b : Bracket) (around : List Bracket) (c : Char) (rest : List Char) :
    Option (Progress × List Char) :=
  let withMember := { p with brackets := { b with members := 0 :: b.members } :: around }
  if c == ']' then
    match around with
    | [] => some ({ p with brackets := [] }.add (b.depth + 1), rest)
    | outer :: further =>
      some ({ p with brackets := { outer with members := (b.depth + 1) :: outer.members } :: further }, rest)
  else if (c == '&' || c == '-' || c == '~') && rest.head? == some c then
    some ({ p with brackets := ⟨some b.depth, []⟩ :: around }, rest.drop 1)
  else if c == '[' then
    match namedClass? (c :: rest) with
    | some (negated, after) => if p.mode.admitsNamed negated then some (withMember, after) else none
    | none => (bracket? p.mode rest).map fun (inner, rest) => ({ p with brackets := inner :: b :: around }, rest)
  else (range? p.mode (c :: rest)).map fun rest => (withMember, rest)

/-- Reads one part. -/
def step (p : Progress) (c : Char) (rest : List Char) : Option (Progress × List Char) :=
  match p.brackets with
  | [] => p.readPart c rest
  | b :: around => p.readMember b around c rest

/-- Whether the text is complete, and not nested too deeply. -/
def isComplete (p : Progress) : Bool := p.groups.isEmpty && p.brackets.isEmpty && p.depth ≤ maxDepth

/-- Reads to the end.  Every step leaves a shorter text. -/
def finish (p : Progress) (cs : List Char) : Bool :=
  match skip p.mode cs with
  | [] => p.isComplete
  | c :: rest =>
    match p.step c rest with
    | none => false
    | some (q, after) => if after.length < cs.length then finish q after else false
termination_by cs.length

end Progress

/-- Whether a text is a regular expression. -/
def accepts (text : String) : Bool := Progress.start.finish text.toList

end AgentRelay.Regex
