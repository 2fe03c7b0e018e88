import AgentRelay.Linker.Search

set_option autoImplicit false

/-!
# Loading libraries

To open a library, the linker loads its object and then, wave by wave, the objects that are needed.  It checks
that each of the new objects finds the versions that it needs, and then settles the references of each, those of
needed objects first.  If any of this fails, what was loaded on the way is withdrawn.

The objects that are found on the way, in this order, are the scope of the library: a search for one of its
symbols goes through them.
-/

namespace AgentRelay.Linking

/-! ## The objects that are needed -/

/-- Whether an object is in a list no later than one of its members. -/
def comesFirst (member number : Nat) (list : List Nat) : Bool :=
  number == member || (list.takeWhile (· != member)).contains number

/-- A list with an element in front of one of its members. -/
def putBefore (member new : Nat) (list : List Nat) : List Nat :=
  list.takeWhile (· != member) ++ new :: (list.dropWhile (· != member)).filter (· != new)

/-- A scope with the object that stands in for one of its members, and this object.  It comes before that member, and
so it does in the address space, if it is not further ahead already. -/
def standIn (member number : Nat) (scope : List Nat) : Linking (List Nat × List Nat) := do
  if comesFirst member number scope then return (scope, [number])
  else
    modify (·.moveBefore member number)
    return (putBefore member number scope, [number])

/-- A scope with the object that one of its members needs, and this object.  What does not stand in for the member
comes last. -/
def meet (source : FileSource) (l : LoadedObject) (scope : List Nat) : Need → Linking (List Nat × List Nat)
  | .library name => do
    let number ← obtain source (some l.number) (expand name)
    return (if scope.contains number then scope else scope ++ [number], [number])
  | .filter name => do standIn l.number (← obtain source (some l.number) (expand name)) scope
  | .auxiliary name => do
    try standIn l.number (← obtain source (some l.number) (expand name)) scope
    catch _ => return (scope, [])
where
  expand (name : Utf8.Bytes) : Utf8.Bytes := Token.expand (Token.meaning l.origin) name

/-- A scope with all that one of its members needs, and these objects. -/
def meetAll (source : FileSource) (l : LoadedObject) :
    List Nat → List Need → Linking (List Nat × List Nat)
  | scope, [] => return (scope, [])
  | scope, need :: rest => do
    let (scope, met) ← meet source l scope need
    let (scope, further) ← meetAll source l scope rest
    return (scope, met ++ further)

/-- A scope with all that its members need, of which those in `done` have it already.  At most a number of
members are looked at. -/
def completed (source : FileSource) : Nat → List Nat → List Nat → Linking (List Nat)
  | 0, _, scope => return scope
  | limit + 1, done, scope => do
    match scope.find? fun number => !done.contains number with
    | none => return scope
    | some number =>
      match (← get).object? number with
      | none => completed source limit (number :: done) scope
      | some l =>
        let (scope, met) ← meetAll source l scope l.object.needs
        modify (·.change number fun l => if l.isBound then l else { l with needs := met.eraseDups })
        completed source limit (number :: done) scope

/-- The scope of an object.  Each of its members is in the address space already or comes from a file of its
own, so there are no more of them than that. -/
def scopeOf (source : FileSource) (number : Nat) : Linking (List Nat) := do
  completed source ((← get).objects.length + source.size + 1) [] [number]

/-! ## Versions -/

/-- Why the offers of an object do not meet a demand, if they do not. -/
def offerFault? (demand : VersionDemand) : List VersionOffer → Option (Option Nat)
  | [] => if demand.isOptional then none else some none
  | .error format :: _ => some (some format)
  | .ok version :: rest => if version = demand.version then none else offerFault? demand rest

/-- Checks that an object finds a version that it needs.  An object without offers is not asked. -/
def checkDemand (s : AddressSpace) (l : LoadedObject) (demand : VersionDemand) : Except String Unit :=
  match s.objects.find? (·.isCalled demand.library) with
  | none => .ok ()
  | some supplier =>
    match supplier.object.offers?.bind (offerFault? demand) with
    | none => .ok ()
    | some (some format) =>
      .error (supplier.shown ++ ": unsupported version " ++ toString format ++ " of Verdef record")
    | some none =>
      .error (supplier.shown ++ ": version `" ++ Utf8.decodeLossy demand.version.name ++ "' not found (required by " ++
        l.shown ++ ")")

/-- Checks that an object finds the versions that it needs. -/
def checkVersions (s : AddressSpace) (l : LoadedObject) : Except String Unit := do
  match l.object.demands with
  | .error format => throw (l.shown ++ ": unsupported version " ++ toString format ++ " of Verneed record")
  | .ok demands => demands.forM (checkDemand s l)
  match l.object.versionFault? with
  | some reason => throw (l.shown ++ ": " ++ reason)
  | none => return ()

/-! ## References -/

/-- A walk through objects: those that were come to, and those that were left, in this order. -/
structure Walk where
  entered : List Nat
  finished : List Nat
  deriving DecidableEq, Repr

/-- Walks to an object and to those that it leads to, at most a number of steps deep.  An object is left after
those that it leads to. -/
def Walk.visit (next : Nat → List Nat) : Nat → Walk → Nat → Walk
  | 0, w, _ => w
  | depth + 1, w, number =>
    if w.entered.contains number then w
    else
      let inner := (next number).foldl (Walk.visit next depth) { w with entered := number :: w.entered }
      { inner with finished := inner.finished ++ [number] }

/-- The order in which the references of the objects in the scope of an object are settled: needed objects come
first, and the object itself comes last. -/
def bindingOrder (s : AddressSpace) (number : Nat) (scope : List Nat) : List Nat :=
  let next := fun n => if n = number then [] else ((s.object? n).map LoadedObject.needs).getD []
  let walk := scope.reverse.foldl (Walk.visit next (s.objects.length + 1)) ⟨[], []⟩
  walk.finished.filter (· != number) ++ [number]

/-- What is said when a symbol is not found. -/
def undefinedSymbol (w : Wanted) : String :=
  "undefined symbol: " ++ Utf8.decodeLossy w.name ++
    match w.version? with
    | some version => ", version " ++ Utf8.decodeLossy version.name
    | none => ""

/-- Finds a symbol for an object in a scope. -/
def find (l : LoadedObject) (scope : List Nat) (w : Wanted) : Linking (Option AddressSpace.FoundSymbol) := do
  let s ← get
  match s.search? w scope with
  | none => return none
  | some found =>
    let (found, s) := s.settle w.name found
    set (s.change l.number fun l => { l with bonds := (found.object :: l.bonds).eraseDups })
    return some found

/-- Settles a reference of an object. -/
def bindReference (l : LoadedObject) (scope : List Nat) : Reference → Linking Unit
  | .unknown reason => throw (l.shown ++ ": " ++ reason)
  | .symbol w isOptional => do
    if (← find l scope w).isNone && !isOptional then throw (l.shown ++ ": " ++ undefinedSymbol w)

/-- Settles the references of an object in the scope of the library for which it was loaded. -/
def bindObject (l : LoadedObject) (scope : List Nat) : Linking Unit := do
  let s ← get
  let first := if l.object.prefersItself then [l.number] else []
  l.object.references.forM (bindReference l (first ++ s.globalScope ++ scope))

/-! ## Opening and closing -/

/-- Checks and binds the objects in a scope that are new. -/
def settleScope (number : Nat) (scope : List Nat) : Linking Unit := do
  let s ← get
  let new := fun (numbers : List Nat) => (numbers.filterMap s.object?).filter fun l => !l.isBound
  (new scope).forM fun l => liftM (m := Except String) (checkVersions s l)
  (new (bindingOrder s number scope)).forM fun l => bindObject l scope
  (new scope).forM fun l => modify (·.change l.number LoadedObject.bound)

/-- Makes an object that is in the address space ready for searches, unless it is. -/
def prepare (source : FileSource) (number : Nat) : Linking Unit := do
  if (((← get).object? number).bind LoadedObject.scope?).isSome then return ()
  let scope ← scopeOf source number
  settleScope number scope
  modify (·.change number fun l => { l with scope? := some scope })

/-- Opens the library of a name.  If that fails, nothing is left of it. -/
def openLibrary (source : FileSource) (name : Utf8.Bytes) : Linking Nat := do
  let first := (← get).next
  let number ← obtain source none name
  try prepare source number
  catch reason =>
    modify (·.withdrawn first)
    throw reason
  modify fun s => { s with inUse := number :: s.inUse }
  return number

/-- The search for a symbol that a program asks for by its name. -/
def wantedByName (symbol : Utf8.Bytes) : Wanted := ⟨symbol, none, false, false, 2⟩

/-- The address of a symbol of a library that is open. -/
def address (number : Nat) (symbol : Utf8.Bytes) : Linking Address := do
  match (← get).object? number with
  | none => throw (undefinedSymbol (wantedByName symbol))
  | some l =>
    match ← find l (l.scope?.getD [number]) (wantedByName symbol) with
    | some found => return found.address
    | none => throw (l.shown ++ ": " ++ undefinedSymbol (wantedByName symbol))

end AgentRelay.Linking
