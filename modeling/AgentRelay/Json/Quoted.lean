set_option autoImplicit false

/-!
# JSON strings and arrays of strings

A string is written between quotation marks.  The mark itself, the backslash and the control characters
below U+0020 are escaped, the common ones by a letter and the others by their number; every other character
is written as it is.

Reading is strict: it accepts every escape of JSON, joins two surrogates to one character, and refuses a
lone surrogate, a control character and anything after the array.
-/

namespace AgentRelay.Json

/-! ## Writing -/

/-- The digit of a number below 16. -/
def hexDigit (n : Nat) : Char := "0123456789abcdef".toList.getD n '0'

/-- A character inside a string. -/
def escape (c : Char) : List Char :=
  if c = '"' then ['\\', '"']
  else if c = '\\' then ['\\', '\\']
  else if c = '\x08' then ['\\', 'b']
  else if c = '\t' then ['\\', 't']
  else if c = '\n' then ['\\', 'n']
  else if c = '\x0C' then ['\\', 'f']
  else if c = '\r' then ['\\', 'r']
  else if c.toNat < 0x20 then ['\\', 'u', '0', '0', hexDigit (c.toNat / 16), hexDigit (c.toNat % 16)]
  else [c]

/-- The characters of a string. -/
def quoteChars (cs : List Char) : List Char := '"' :: (cs.flatMap escape ++ ['"'])

/-- An array of strings, without blanks. -/
def quoteAll (texts : List String) : String :=
  String.ofList (['['] ++ [','].intercalate (texts.map fun t => quoteChars t.toList) ++ [']'])

/-! ## Reading -/

/-- A blank between the parts of a document. -/
def isGap (c : Char) : Bool := c == ' ' || c == '\t' || c == '\n' || c == '\r'

/-- The characters after the blanks in front. -/
def skipGaps (s : List Char) : List Char := s.dropWhile isGap

/-- The number of a digit to base 16. -/
def hexValue? (c : Char) : Option Nat :=
  if c.isDigit then some (c.toNat - '0'.toNat)
  else if 'a' ≤ c ∧ c ≤ 'f' then some (c.toNat - 'a'.toNat + 10)
  else if 'A' ≤ c ∧ c ≤ 'F' then some (c.toNat - 'A'.toNat + 10)
  else none

/-- The number of four digits to base 16. -/
def unit? : List Char → Option (Nat × List Char)
  | a :: b :: c :: d :: rest => do
    let a ← hexValue? a
    let b ← hexValue? b
    let c ← hexValue? c
    let d ← hexValue? d
    return (a * 4096 + b * 256 + c * 16 + d, rest)
  | _ => none

/-- The character of a numbered escape, after its `u`.  A leading surrogate needs a trailing one. -/
def numbered? (s : List Char) : Option (Char × List Char) := do
  let (n, rest) ← unit? s
  if n.isValidChar then return (Char.ofNat n, rest)
  else if n < 0xDC00 then
    match rest with
    | '\\' :: 'u' :: rest =>
      let (m, rest) ← unit? rest
      if 0xDC00 ≤ m ∧ m ≤ 0xDFFF then
        return (Char.ofNat (0x10000 + (n - 0xD800) * 1024 + (m - 0xDC00)), rest)
      else none
    | _ => none
  else none

/-- The character of an escape, after its backslash. -/
def unescape? : List Char → Option (Char × List Char)
  | '"' :: rest => some ('"', rest)
  | '\\' :: rest => some ('\\', rest)
  | '/' :: rest => some ('/', rest)
  | 'b' :: rest => some ('\x08', rest)
  | 'f' :: rest => some ('\x0C', rest)
  | 'n' :: rest => some ('\n', rest)
  | 'r' :: rest => some ('\r', rest)
  | 't' :: rest => some ('\t', rest)
  | 'u' :: rest => numbered? rest
  | _ => none

theorem unit?_length {s t : List Char} {n : Nat} (h : unit? s = some (n, t)) : t.length ≤ s.length := by
  unfold unit? at h
  split at h
  · simp only [Option.bind_eq_bind, Option.bind_eq_some_iff] at h
    obtain ⟨_, _, _, _, _, _, _, _, h⟩ := h
    simp only [Option.pure_def, Option.some.injEq, Prod.mk.injEq] at h
    rw [← h.2]
    simp only [List.length_cons]
    omega
  · simp at h

theorem numbered?_length {s t : List Char} {c : Char} (h : numbered? s = some (c, t)) :
    t.length ≤ s.length := by
  unfold numbered? at h
  simp only [Option.bind_eq_bind, Option.bind_eq_some_iff] at h
  obtain ⟨⟨n, r⟩, hr, h⟩ := h
  have h1 := unit?_length hr
  simp only at h
  split at h
  · simp only [Option.pure_def, Option.some.injEq, Prod.mk.injEq] at h
    rw [← h.2]
    exact h1
  · split at h
    · split at h
      · simp only [Option.bind_eq_some_iff] at h
        obtain ⟨⟨m, r'⟩, hr', h⟩ := h
        have h2 := unit?_length hr'
        simp only [List.length_cons] at h1
        simp only at h
        split at h
        · simp only [Option.pure_def, Option.some.injEq, Prod.mk.injEq] at h
          rw [← h.2]
          omega
        · simp at h
      · simp at h
    · simp at h

theorem unescape?_length {s t : List Char} {c : Char} (h : unescape? s = some (c, t)) :
    t.length < s.length := by
  unfold unescape? at h
  split at h
  case h_9 => have := numbered?_length h; simp only [List.length_cons]; omega
  case h_10 => simp at h
  all_goals
    simp only [Option.some.injEq, Prod.mk.injEq] at h
    rw [← h.2]
    simp

/-- The rest of a string after its opening mark. -/
def stringRest : List Char → Option (List Char × List Char)
  | [] => none
  | c :: rest =>
    if c = '"' then some ([], rest)
    else if c = '\\' then
      match _h : unescape? rest with
      | some (d, after) => (stringRest after).map fun read => (d :: read.1, read.2)
      | none => none
    else if c.toNat < 0x20 then none
    else (stringRest rest).map fun read => (c :: read.1, read.2)
termination_by s => s.length
decreasing_by
  · have := unescape?_length _h
    simp only [List.length_cons]
    omega
  · simp

/-- A string and what follows it. -/
def string? : List Char → Option (String × List Char)
  | '"' :: rest => (stringRest rest).map fun read => (String.ofList read.1, read.2)
  | _ => none

/-- The items of an array of strings, from the first one on to the closing bracket. -/
def stringItems : Nat → List Char → Option (List String × List Char)
  | 0, _ => none
  | fuel + 1, s =>
    match string? s with
    | none => none
    | some (text, after) =>
      match skipGaps after with
      | ']' :: rest => some ([text], rest)
      | ',' :: rest => (stringItems fuel (skipGaps rest)).map fun read => (text :: read.1, read.2)
      | _ => none

/-- The strings of a document that is an array of strings. -/
def strings? (document : String) : Option (List String) :=
  match skipGaps document.toList with
  | '[' :: rest =>
    let read := match skipGaps rest with
      | ']' :: after => some ([], after)
      | first => stringItems first.length first
    read.bind fun (texts, after) => if skipGaps after = [] then some texts else none
  | _ => none

end AgentRelay.Json
