import AgentRelay.Elf.Header

set_option autoImplicit false

/-!
# Segments of ELF objects

Somewhere in an object there is the table of its segments.  A linker has the system map some of them: the bytes of
the file come to lie at their addresses, and what a segment is longer in memory than in the file is filled with
zeros.  What is mapped are whole pages.

The addresses in an object are relative to the place where it lies, and they wrap around.  `segmentFault?` says what
keeps some segments from being mapped.  The system does not map everything: it wants to know where the bytes are
to go, it takes no files beyond a certain size, and it promises no more memory for writing than there is.
-/

namespace AgentRelay.Elf

/-! ## Pages -/

/-- The number of addresses. -/
def addressCount : Nat := Nat.pow 2 64

/-- The number of bytes that are mapped together. -/
def pageSize : Nat := 4096

/-- The beginning of the page of an address. -/
def pageOf (address : Nat) : Nat := address / pageSize * pageSize

/-- The end of the last page that has addresses below one. -/
def pageEnd (address : Nat) : Nat := pageOf ((address + (pageSize - 1)) % addressCount)

/-! ## Segments -/

/-- What a segment is, where it is in the file, how many bytes it has there, the address that it is to be mapped
at, how many bytes it has in memory, and what the address of the object is to be a multiple of. -/
structure Segment where
  kind : Nat
  isWritable : Bool
  offset : Nat
  address : Nat
  length : Nat
  extent : Nat
  alignment : Nat
  deriving DecidableEq, Repr

namespace Segment

/-- The segment that is described at a position. -/
def read? (file : ByteArray) (position : Nat) : Option Segment := do
  return {
    kind := ← number? file position 4
    isWritable := (← number? file (position + 4) 4).testBit 1
    offset := ← number? file (position + 8) 8
    address := ← number? file (position + 16) 8
    length := ← number? file (position + 32) 8
    extent := ← number? file (position + 40) 8
    alignment := ← number? file (position + 48) 8 }

/-- A segment that is mapped. -/
def isLoadable (s : Segment) : Bool := s.kind == 1

/-- A segment that tells a linker about the object. -/
def isDynamic (s : Segment) : Bool := s.kind == 2

/-- A segment of the data of which each thread has its own. -/
def isThreadData (s : Segment) : Bool := s.kind == 7 && s.extent != 0

/-- Whether the bytes of the segment are at the same place in a page of the file and in one of the memory. -/
def isAligned (s : Segment) : Bool := s.address % pageSize == s.offset % pageSize

/-- The end of the bytes of the file. -/
def fileStop (s : Segment) : Nat := (s.address + s.length) % addressCount

/-- The end of the segment. -/
def stop (s : Segment) : Nat := (s.address + s.extent) % addressCount

/-- The beginning of the segment's first page. -/
def firstPage (s : Segment) : Nat := pageOf s.address

/-- The end of the last page that has bytes of the file. -/
def lastPage (s : Segment) : Nat := pageEnd s.fileStop

end Segment

/-- The segment that tells a linker about the object: the last one of its kind.  At the address zero it counts
for none, and one that is empty in the file spoils them all, since only files of debugging data have it. -/
def dynamicSegment? (segments : List Segment) : Option Segment :=
  let dynamic := segments.filter Segment.isDynamic
  if dynamic.any fun s => s.length == 0 then none else dynamic.getLast?.filter fun s => s.address != 0

/-- Whether there are pages between two of the segments that follow each other. -/
def hasHoles : List Segment → Bool
  | s :: t :: rest => s.lastPage != t.firstPage || hasHoles (t :: rest)
  | _ => false

/-- What the address of an object is to be a multiple of: the greatest power of two that a segment wants. -/
def alignmentOf (segments : List Segment) : Nat :=
  segments.foldl (fun most s => if s.alignment &&& (s.alignment - 1) = 0 then max most s.alignment else most) 0

/-! ## Room -/

/-- The number of bytes of memory that is enough for all writing. -/
def writableSize : Nat := Nat.pow 2 35

/-- The number of addresses that are free in one piece. -/
def freeSize : Nat := 0x560000000000

/-- The end of the addresses that a process may use. -/
def processStop : Nat := Nat.pow 2 47 - pageSize

/-- The end of the addresses that are given away, from the end backwards. -/
def placesStop : Nat := Nat.pow 2 47 - Nat.pow 2 39

/-- The end of the positions in a file. -/
def fileBound : Nat := Nat.pow 2 63

/-- A wish to have pages mapped: a number of bytes, whether they are to be written, and the position in the file of
the first, unless they are zeros. -/
structure Mapping where
  size : Nat
  isWritable : Bool
  position? : Option Nat
  deriving DecidableEq, Repr

/-- Whether the system maps pages where there is room for a number of bytes. -/
def Mapping.isGranted (m : Mapping) (room : Nat) : Bool :=
  let size := pageEnd m.size
  0 < size && size ≤ room && (!m.isWritable || size < writableSize) &&
    m.position?.all fun position => position + size < fileBound

namespace Segment

/-- Why the system does not map the bytes that a segment of an object at a place has in the file. -/
def fileFault? (base : Nat) (s : Segment) : Option Fault :=
  let room := processStop - (base + s.firstPage) % addressCount
  if s.lastPage ≤ s.firstPage then none
  else if Mapping.isGranted ⟨s.lastPage - s.firstPage, s.isWritable, some (pageOf s.offset)⟩ room then none
  else some .unmappable

/-- The address of the zeros behind the bytes of a segment of an object at a place, and their number. -/
def zeros (base : Nat) (s : Segment) : Nat × Nat :=
  let first := (base + s.fileStop) % addressCount
  let last := (base + s.stop) % addressCount
  (first, if s.fileStop < s.stop then last - first else 0)

/-- Why the system does not map the zeros of a segment of an object at a place.  Those in a page with bytes of the
file need no mapping. -/
def zeroFault? (base : Nat) (s : Segment) : Option Fault :=
  let (first, count) := s.zeros base
  let further := first + count - pageEnd first
  if further = 0 then none
  else if Mapping.isGranted ⟨further, s.isWritable, none⟩ (processStop - pageEnd first) then none
  else some .unfilled

end Segment

/-- How an object comes to lie in memory: its address, and the number of bytes from its first page to its end. -/
structure Placement where
  base : Nat
  size : Nat
  deriving DecidableEq, Repr

/-- The placement of an object with a first and a last segment. -/
def placement (first last : Segment) : Placement :=
  let size := (last.stop + addressCount - first.firstPage) % addressCount
  ⟨(placesStop + addressCount - pageEnd size + addressCount - first.firstPage) % addressCount, size⟩

/-- Whether there is room for the object of a placement.  If its address is to be a multiple of more than a page,
enough is set aside first. -/
def Placement.isGranted (p : Placement) (alignment : Nat) (first : Segment) : Bool :=
  let aside := if p.size < alignment then 2 * alignment else p.size + alignment
  (alignment ≤ pageSize || Mapping.isGranted ⟨aside % addressCount, false, none⟩ freeSize) &&
    Mapping.isGranted ⟨p.size, first.isWritable, some (pageOf first.offset)⟩ freeSize

/-- Why the segments of an object from a first to a last one, with the rest between them, are not mapped.  The first
one is mapped together with room for all. -/
def segmentFault? (first last : Segment) (loadable : List Segment) : Option Fault :=
  let p := placement first last
  if !p.isGranted (alignmentOf loadable) first then some .unmappable
  else if hasHoles loadable && last.firstPage < first.lastPage then some .misaligned
  else
    match first.zeroFault? p.base with
    | some fault => some fault
    | none => (loadable.drop 1).findSome? fun s => (s.fileFault? p.base).orElse fun _ => s.zeroFault? p.base

end AgentRelay.Elf
