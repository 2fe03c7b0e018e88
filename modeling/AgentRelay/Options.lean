import AgentRelay.Fault
import AgentRelay.Text.Split

set_option autoImplicit false

/-!
# Options

Options are pairs of a key and a value.  They keep the order in which their keys were first given, and each
key has one value, the last that was given for it.  That no key occurs twice is part of the type.

On the command line of an agent the pairs stand in one string, `key=value,key=value`; in a configuration
file each stands on a line of its own.  Both are read by `parse` and written by `renderWith`, which take the
delimiter between pairs as an argument.

* `insert` sets one key, `merge` all the keys of other options, and `ofPairs` collects pairs in order.
* `parse` cuts a text into entries, drops the empty ones, and cuts each entry at its first `=`, so that a
  value may contain further ones.  An entry without any makes the whole text invalid.
-/

namespace AgentRelay

/-- One option. -/
abbrev Pair := String × String

/-- Pairs in order, each key once. -/
structure Options where
  entries : List Pair
  distinct : (entries.map Prod.fst).Nodup
  deriving DecidableEq, Repr

namespace Options

/-! ## Setting keys -/

/-- The pairs with `key` set to `value`: in its place if it is there, and at the end otherwise. -/
def put (key value : String) : List Pair → List Pair
  | [] => [(key, value)]
  | entry :: rest => if entry.1 = key then (entry.1, value) :: rest else entry :: put key value rest

theorem keys_put (key value : String) (entries : List Pair) :
    (put key value entries).map Prod.fst =
      if key ∈ entries.map Prod.fst then entries.map Prod.fst else entries.map Prod.fst ++ [key] := by
  induction entries with
  | nil => simp [put]
  | cons entry rest ih =>
    by_cases h : entry.1 = key
    · simp [put, h]
    · have h' : ¬ key = entry.1 := fun e => h e.symm
      simp only [put, h, if_false, List.map_cons, ih, List.mem_cons, h', false_or]
      split <;> simp

theorem nodup_put (key value : String) {entries : List Pair} (h : (entries.map Prod.fst).Nodup) :
    ((put key value entries).map Prod.fst).Nodup := by
  rw [keys_put]
  split
  · exact h
  · next hk =>
    rw [List.nodup_append]
    refine ⟨h, by simp, ?_⟩
    intro a ha b hb
    simp only [List.mem_singleton] at hb
    subst hb
    exact fun e => hk (e ▸ ha)

/-- No options. -/
def empty : Options := ⟨[], by simp⟩

/-- The options with `key` set to `value`. -/
def insert (o : Options) (key value : String) : Options := ⟨put key value o.entries, nodup_put key value o.distinct⟩

/-- The options with each of some pairs set, in order. -/
def insertAll (o : Options) (pairs : List Pair) : Options :=
  pairs.foldl (fun acc pair => acc.insert pair.1 pair.2) o

/-- The options of pairs that are given in order. -/
def ofPairs (pairs : List Pair) : Options := empty.insertAll pairs

/-- The options with every pair of `other` set. -/
def merge (o other : Options) : Options := o.insertAll other.entries

/-! ## Looking up -/

/-- The keys, in order. -/
def keys (o : Options) : List String := o.entries.map Prod.fst

/-- The value of a key. -/
def get? (o : Options) (key : String) : Option String :=
  (o.entries.find? fun entry => entry.1 == key).map Prod.snd

/-- The value of a key that has to be there. -/
def require (o : Options) (key : String) : Except Fault String :=
  match o.get? key with
  | some value => .ok value
  | none => .error (.missingOption key)

/-- The number of options. -/
def size (o : Options) : Nat := o.entries.length

/-- Whether there are no options. -/
def isEmpty (o : Options) : Bool := o.entries.isEmpty

@[simp] theorem keys_empty : empty.keys = [] := rfl

theorem keys_insert (o : Options) (key value : String) :
    (o.insert key value).keys = if key ∈ o.keys then o.keys else o.keys ++ [key] :=
  keys_put key value o.entries

/-! ## Writing -/

/-- The delimiter between the pairs of an option string. -/
def comma : String := ","

/-- The delimiter between the pairs of a line file. -/
def lineFeed : String := "\n"

/-- The delimiter between a key and its value. -/
def equalsSign : String := "="

/-- One pair as text. -/
def renderPair (pair : Pair) : List Char := pair.1.toList ++ equalsSign.toList ++ pair.2.toList

/-- The pairs as text, with a delimiter between them. -/
def renderWith (o : Options) (delimiter : String) : String :=
  String.ofList (delimiter.toList.intercalate (o.entries.map renderPair))

/-- The option string. -/
def render (o : Options) : String := o.renderWith comma

/-! ## Reading -/

/-- The pair that an entry holds. -/
def parsePair (mapDelimiter entry : List Char) : Option Pair :=
  (Split.cut? mapDelimiter entry).map fun parts => (String.ofList parts.1, String.ofList parts.2)

/-- The entries of a text: its pieces without the empty ones. -/
def entriesOf (delimiter text : List Char) : List (List Char) :=
  (Split.pieces delimiter text).filter (· ≠ [])

/-- The options of a text, with a delimiter between entries and one between a key and its value.  No text
and an empty text hold no options. -/
def parseWith (delimiter mapDelimiter : String) (text : Option String) : Except Fault Options :=
  match text with
  | none => .ok empty
  | some text =>
    if text = "" then .ok empty
    else
      match (entriesOf delimiter.toList text.toList).mapM (parsePair mapDelimiter.toList) with
      | some pairs => .ok (ofPairs pairs)
      | none => .error (.malformedOptions text)

/-- The options of an option string. -/
def parse (text : String) : Except Fault Options := parseWith comma equalsSign (some text)

/-- The options of lines. -/
def parseLines (text : String) : Except Fault Options := parseWith lineFeed equalsSign (some text)

end Options

end AgentRelay
