set_option autoImplicit false

/-!
# The lexemes of TOML: blanks, line ends, comments, strings and keys

A reader takes the characters that remain, and gives what it read together with the characters after it;
it gives nothing when the text is not a document.  Which of several faults is found first does not matter,
because every fault is reported in the same words.

Rules that are easily overlooked: a CR counts only before an LF; a comment holds no control character but
the tab; inside a string of several lines each line end is one LF; up to two quotation marks may stand
directly before the three that close such a string.
-/

namespace AgentRelay.Toml

/-- Reads a prefix of the characters. -/
abbrev Reader (α : Type) : Type := List Char → Option (α × List Char)

/-- Puts a character before what was read. -/
def push (c : Char) : Option (List Char × List Char) → Option (List Char × List Char) :=
  Option.map fun read => (c :: read.1, read.2)

/-- What was read, as a text. -/
def asString : Option (List Char × List Char) → Option (String × List Char) :=
  Option.map fun read => (String.ofList read.1, read.2)

/-! ## Classes of characters -/

/-- A character beyond ASCII. -/
def isBeyondAscii (c : Char) : Bool := 0x80 ≤ c.toNat

/-- A blank within a line. -/
def isGap (c : Char) : Bool := c == ' ' || c == '\t'

/-- A character that a line may hold: no control character but the tab. -/
def isVisible (c : Char) : Bool := c == '\t' || (0x20 ≤ c.toNat && c.toNat ≤ 0x7E) || isBeyondAscii c

/-- A character that stands for itself between double quotation marks. -/
def isBasic (c : Char) : Bool := isVisible c && c != '"' && c != '\\'

/-- A character that stands for itself between single quotation marks. -/
def isLiteral (c : Char) : Bool := isVisible c && c != '\''

/-- A character of an unquoted key. -/
def isBare (c : Char) : Bool := c.isAlphanum || c == '-' || c == '_'

/-- A digit to base 16. -/
def isHexDigit (c : Char) : Bool := c.isDigit || ('a' ≤ c && c ≤ 'f') || ('A' ≤ c && c ≤ 'F')

/-- The number of a digit to base 16. -/
def hexValue (c : Char) : Nat :=
  if c.isDigit then c.toNat - '0'.toNat
  else if 'a' ≤ c then c.toNat - 'a'.toNat + 10
  else c.toNat - 'A'.toNat + 10

/-! ## Blanks, line ends and comments -/

/-- The characters after the blanks in front. -/
def skipGaps (s : List Char) : List Char := s.dropWhile isGap

/-- The characters after the line end in front. -/
def newline? : List Char → Option (List Char)
  | '\n' :: rest => some rest
  | '\r' :: '\n' :: rest => some rest
  | _ => none

/-- The characters after the comment in front, if there is one. -/
def skipComment : List Char → List Char
  | '#' :: rest => rest.dropWhile isVisible
  | s => s

/-- The characters of the next line, when nothing but blanks and a comment is left of this one. -/
def lineEnd? (s : List Char) : Option (List Char) :=
  match skipComment (skipGaps s) with
  | [] => some []
  | rest => newline? rest

/-- The characters after blanks, line ends and, with `inComment` for the state, comments. -/
def skipLinesFrom (inComment : Bool) : List Char → List Char
  | '\n' :: rest => skipLinesFrom false rest
  | '\r' :: '\n' :: rest => skipLinesFrom false rest
  | c :: rest =>
    if inComment then if isVisible c then skipLinesFrom true rest else c :: rest
    else if isGap c then skipLinesFrom false rest
    else if c = '#' then skipLinesFrom true rest
    else c :: rest
  | [] => []

/-- The characters after blanks, line ends and comments. -/
def skipLines : List Char → List Char := skipLinesFrom false

/-- The characters after blanks and line ends. -/
def skipFold : List Char → List Char
  | '\n' :: rest => skipFold rest
  | '\r' :: '\n' :: rest => skipFold rest
  | c :: rest => if isGap c then skipFold rest else c :: rest
  | [] => []

theorem newline?_length {s t : List Char} (h : newline? s = some t) : t.length < s.length := by
  unfold newline? at h
  split at h
  · obtain rfl := Option.some.inj h; simp
  · obtain rfl := Option.some.inj h; simp only [List.length_cons]; omega
  · simp at h

theorem skipFold_length (s : List Char) : (skipFold s).length ≤ s.length := by
  fun_induction skipFold s with
  | case1 rest ih => simp only [List.length_cons]; omega
  | case2 rest ih => simp only [List.length_cons]; omega
  | case3 c rest _ _ ih => simp only [List.length_cons]; omega
  | case4 => exact Nat.le_refl _
  | case5 => exact Nat.le_refl _

/-! ## Escapes -/

/-- The character of `count` digits to base 16. -/
def escapedScalar (count : Nat) : Reader Char := fun s =>
  let digits := s.take count
  let code := digits.foldl (fun n c => n * 16 + hexValue c) 0
  if digits.length = count ∧ digits.all isHexDigit ∧ code.isValidChar then
    some (Char.ofNat code, s.drop count)
  else none

/-- The character of an escape, after its backslash. -/
def escaped : Reader Char
  | 'b' :: rest => some ('\x08', rest)
  | 't' :: rest => some ('\t', rest)
  | 'n' :: rest => some ('\n', rest)
  | 'f' :: rest => some ('\x0C', rest)
  | 'r' :: rest => some ('\r', rest)
  | '"' :: rest => some ('"', rest)
  | '\\' :: rest => some ('\\', rest)
  | 'u' :: rest => escapedScalar 4 rest
  | 'U' :: rest => escapedScalar 8 rest
  | _ => none

theorem escapedScalar_length {n : Nat} {s t : List Char} {c : Char} (h : escapedScalar n s = some (c, t)) :
    t.length ≤ s.length := by
  unfold escapedScalar at h
  simp only at h
  split at h
  · simp only [Option.some.injEq, Prod.mk.injEq] at h
    rw [← h.2, List.length_drop]
    omega
  · simp at h

theorem escaped_length {s t : List Char} {c : Char} (h : escaped s = some (c, t)) : t.length < s.length := by
  unfold escaped at h
  split at h
  case h_8 => have := escapedScalar_length h; simp only [List.length_cons]; omega
  case h_9 => have := escapedScalar_length h; simp only [List.length_cons]; omega
  case h_10 => simp at h
  all_goals
    simp only [Option.some.injEq, Prod.mk.injEq] at h
    rw [← h.2]
    simp

/-! ## Strings of one line -/

/-- The rest of a string between double quotation marks. -/
def basicString : Reader (List Char)
  | [] => none
  | c :: rest =>
    if c = '"' then some ([], rest)
    else if c = '\\' then
      match _he : escaped rest with
      | some (d, after) => push d (basicString after)
      | none => none
    else if isBasic c then push c (basicString rest)
    else none
termination_by s => s.length
decreasing_by
  · have := escaped_length _he
    simp only [List.length_cons]
    omega
  · simp

/-- The rest of a string between single quotation marks. -/
def literalString : Reader (List Char)
  | [] => none
  | c :: rest =>
    if c = '\'' then some ([], rest)
    else if isLiteral c then push c (literalString rest)
    else none

/-! ## Strings of several lines -/

/-- The number of marks in front that may belong to the end of a string. -/
def markCount (mark : Char) (s : List Char) : Nat := ((s.take 5).takeWhile (· == mark)).length

/-- The end of a string of several lines: the marks before the closing three, which belong to the string,
and the characters after it. -/
def closing? (mark : Char) (s : List Char) : Option (List Char × List Char) :=
  let count := markCount mark s
  if 3 ≤ count then some (List.replicate (count - 3) mark, s.drop count) else none

/-- The characters after a line end that is taken out of the string by a backslash before it, and after the
blanks and line ends that follow. -/
def folded? (s : List Char) : Option (List Char) := (newline? (skipGaps s)).map skipFold

theorem folded?_length {s t : List Char} (h : folded? s = some t) : t.length < s.length := by
  obtain ⟨u, hu, rfl⟩ := Option.map_eq_some_iff.1 h
  have h1 := newline?_length hu
  have h2 := skipFold_length u
  have h3 : (skipGaps s).length ≤ s.length := (List.dropWhile_sublist isGap).length_le
  omega

/-- The rest of a string between three double quotation marks. -/
def basicText : Reader (List Char)
  | [] => none
  | c :: rest =>
    match closing? '"' (c :: rest) with
    | some ending => some ending
    | none =>
      if c = '\\' then
        match _hf : folded? rest with
        | some after => basicText after
        | none =>
          match _he : escaped rest with
          | some (d, after) => push d (basicText after)
          | none => none
      else
        match _hn : newline? (c :: rest) with
        | some after => push '\n' (basicText after)
        | none => if c = '"' ∨ isBasic c then push c (basicText rest) else none
termination_by s => s.length
decreasing_by
  · have := folded?_length _hf
    simp only [List.length_cons]
    omega
  · have := escaped_length _he
    simp only [List.length_cons]
    omega
  · exact newline?_length _hn
  · simp

/-- The rest of a string between three single quotation marks. -/
def literalText : Reader (List Char)
  | [] => none
  | c :: rest =>
    match closing? '\'' (c :: rest) with
    | some ending => some ending
    | none =>
      match _hn : newline? (c :: rest) with
      | some after => push '\n' (literalText after)
      | none => if c = '\'' ∨ isLiteral c then push c (literalText rest) else none
termination_by s => s.length
decreasing_by
  · exact newline?_length _hn
  · simp

/-- The characters after the line end that may follow the opening marks. -/
def afterOpening (s : List Char) : List Char := (newline? s).getD s

/-- A string in any of its four forms. -/
def stringToken : Reader String := fun s =>
  asString <| match s with
    | '"' :: '"' :: '"' :: rest => basicText (afterOpening rest)
    | '\'' :: '\'' :: '\'' :: rest => literalText (afterOpening rest)
    | '"' :: rest => basicString rest
    | '\'' :: rest => literalString rest
    | _ => none

/-! ## Keys -/

/-- The greatest number of parts that a dotted key, a table or an array may be nested in, plus one. -/
def depthLimit : Nat := 80

/-- A part may be nested in another one. -/
theorem depthLimit_sub_one : depthLimit - 1 = depthLimit - 2 + 1 := rfl

/-- One part of a key. -/
def keyPart : Reader String := fun s =>
  match s with
  | '"' :: rest => asString (basicString rest)
  | '\'' :: rest => asString (literalString rest)
  | _ =>
    let bare := s.takeWhile isBare
    if bare = [] then none else some (String.ofList bare, s.dropWhile isBare)

/-- The parts of a dotted key, at most `limit` of them, with blanks around each. -/
def keyParts : Nat → Reader (List String)
  | 0, _ => none
  | limit + 1, s =>
    match keyPart (skipGaps s) with
    | none => none
    | some (part, after) =>
      match skipGaps after with
      | '.' :: rest => (keyParts limit rest).map fun read => (part :: read.1, read.2)
      | rest => some ([part], rest)

/-- A dotted key, with the blanks around it. -/
def dottedKey : Reader (List String) := keyParts (depthLimit - 1)

end AgentRelay.Toml
