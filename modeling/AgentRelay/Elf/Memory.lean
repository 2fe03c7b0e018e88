import AgentRelay.Elf.Segment

set_option autoImplicit false

/-!
# ELF objects in memory

Once its segments are mapped, an object is read in memory, and the places of things in the file do not matter any
more.  `Header.mapObject` maps an object, unless something is wrong with its segments.  Addresses are relative to the
place of the object in memory, and they wrap around.
-/

namespace AgentRelay.Elf

/-! ## Memory -/

/-- What a region of memory holds: the bytes of the file from a position on, zeros, or nothing that can be read. -/
inductive Content where
  | file (position : Nat)
  | zeros
  | nothing
  deriving DecidableEq, Repr

/-- A run of addresses, from the first on, and what it holds. -/
structure Region where
  first : Nat
  size : Nat
  content : Content
  deriving DecidableEq, Repr

/-- How far an address is from the first one of a region. -/
def Region.distance (r : Region) (address : Nat) : Nat := (address + addressCount - r.first) % addressCount

/-- An object in memory: its file, and the regions in which it lies, the last one that was mapped first. -/
structure Memory where
  file : ByteArray
  regions : List Region

namespace Memory

/-- The byte at an address.  After the end of the file its last page holds zeros. -/
def byte? (m : Memory) (address : Nat) : Option UInt8 :=
  let address := address % addressCount
  match m.regions.find? fun r => r.distance address < r.size with
  | none => none
  | some r =>
    match r.content with
    | .zeros => some 0
    | .nothing => none
    | .file position =>
      let position := position + r.distance address
      match m.file[position]? with
      | some b => some b
      | none => if position < pageEnd m.file.size then some 0 else none

/-- The number in `width` bytes from an address on, the least significant byte first. -/
def number? (m : Memory) (address : Nat) : Nat → Option Nat
  | 0 => some 0
  | width + 1 => do
    let low ← m.byte? address
    let high ← number? m (address + 1) width
    return low.toNat + 256 * high

/-- A number that no more bytes than this can be read without a zero. -/
def extent (m : Memory) : Nat := m.regions.length * m.file.size

/-- The bytes from an address on up to a zero, at most a number of them. -/
def bytesFrom (m : Memory) (address : Nat) : Nat → Utf8.Bytes
  | 0 => []
  | limit + 1 =>
    match m.byte? address with
    | none => []
    | some b => if b = 0 then [] else b :: bytesFrom m (address + 1) limit

/-- The text at an address, which ends before a zero. -/
def text (m : Memory) (address : Nat) : Utf8.Bytes := m.bytesFrom address m.extent

end Memory

namespace Segment

/-- The region of the bytes that a segment has in the file. -/
def fileRegion (s : Segment) : Region := ⟨s.firstPage, s.lastPage - s.firstPage, .file (pageOf s.offset)⟩

/-- The region of the zeros behind the bytes of a segment of an object at a place: up to its end if that is in the
same page, else to the end of its last page. -/
def zeroRegion (base : Nat) (s : Segment) : Region :=
  let (first, count) := s.zeros base
  let stop := first + count
  ⟨s.fileStop, if stop ≤ pageEnd first then count else pageEnd stop - first, .zeros⟩

end Segment

/-- The regions of the segments of an object from a first to a last one, the one that is mapped last first.  The
first segment is mapped together with room for all. -/
def regions (first last : Segment) (loadable : List Segment) : List Region :=
  let p := placement first last
  let whole : Region := ⟨first.firstPage, pageEnd p.size, .file (pageOf first.offset)⟩
  let hole : Region := ⟨first.lastPage, if hasHoles loadable then last.firstPage - first.lastPage else 0, .nothing⟩
  let rest := (loadable.drop 1).flatMap fun s => [s.fileRegion, s.zeroRegion p.base]
  (whole :: hole :: first.zeroRegion p.base :: rest).reverse

/-! ## Mapping -/

/-- An object in memory, the address at which it tells about itself, and whether it provides data of which each
thread has its own. -/
structure MappedObject where
  memory : Memory
  dynamicAddress : Nat
  providesThreadData : Bool

namespace Header

/-- The number of bytes that the linker reads when it opens an object. -/
def firstReading : Nat := 832

/-- The segments of an object.  The table is taken from the first reading if it ends there, even if it starts
so late that its end wraps around; then there is nothing in it.  Otherwise it is read on its own. -/
def segments (h : Header) (file : ByteArray) : Except Fault (List Segment) :=
  let length := h.segmentCount * bytesPerSegment
  let last := h.segmentTable + length
  if addressCount ≤ last ∧ last - addressCount ≤ min firstReading file.size then .ok []
  else if fileBound ≤ last then .error .segmentsOutOfRange
  else
    match (List.range h.segmentCount).mapM fun i => Segment.read? file (h.segmentTable + i * bytesPerSegment) with
    | some segments => if last ≤ file.size ∨ length = 0 then .ok segments else .error .segmentsCut
    | none => .error .segmentsCut

/-- Maps an object with some segments. -/
def mapSegments (h : Header) (file : ByteArray) (segments : List Segment) : Except Fault MappedObject :=
  let loadable := segments.filter Segment.isLoadable
  if loadable.any fun s => !s.isAligned then .error .misaligned
  else
    match loadable.head?, loadable.getLast? with
    | some first, some last =>
      if h.kind = executable then .error .executable
      else
        match dynamicSegment? segments with
        | none => .error .notDynamic
        | some dynamic =>
          match segmentFault? first last loadable with
          | some fault => .error fault
          | none =>
            .ok ⟨⟨file, regions first last loadable⟩, dynamic.address, segments.any Segment.isThreadData⟩
    | _, _ => .error .nothingToLoad

/-- Maps the object in a file. -/
def mapObject (h : Header) (file : ByteArray) : Except Fault MappedObject :=
  h.segments file >>= h.mapSegments file

end Header

end AgentRelay.Elf
