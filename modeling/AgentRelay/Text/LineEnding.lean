set_option autoImplicit false

/-!
# Line ends

A line file may end its lines with LF or with CR LF.  Before it is read each CR LF becomes LF, so that no
value keeps the CR of its own line end; a CR anywhere else is a character like any other.
-/

namespace AgentRelay

/-- The characters with each CR LF replaced by LF, from left to right. -/
def unixLines : List Char → List Char
  | '\r' :: '\n' :: rest => '\n' :: unixLines rest
  | c :: rest => c :: unixLines rest
  | [] => []

/-- The text with each CR LF replaced by LF. -/
def unixLineEndings (text : String) : String := String.ofList (unixLines text.toList)

end AgentRelay
