import NativeLoader.Linker.ObjectFile

/-!
# Segments in memory

The segments of an object file are put into memory together: the linker checks what they are (`segmentFault?`), sets
aside memory for all from the first to the last, and puts each into its place there (`layoutFault?`). Sums of addresses
wrap around, as the linker's do. A program is never put into memory, and neither is a file of which nothing is to be
loaded.
-/

namespace NativeLoader
namespace Layout

open Segment (pageSize)

/-! ## Room -/

/-- The greatest stretch of memory that is free. -/
def freeMemory : UInt64 := 0x555555554000

/-- The greatest stretch of memory that can be had for writing. -/
def writableMemory : UInt64 := 0x10000000000

/-- The greatest place in a file, and one more. -/
def fileLimit : UInt64 := 0x8000000000000000

/-- The number is a power of two, or zero. -/
def isPowerOfTwo (n : UInt64) : Bool := n &&& (n - 1) == 0

/-- The greatest alignment that segments ask for; one that is no power of two asks for nothing. -/
def alignment (loaded : List Segment) : UInt64 :=
  ((loaded.map (·.alignment)).filter isPowerOfTwo).foldl max 0

/-- The memory that is set aside for some extent, so that an aligned place is in it. -/
def reserve (alignment extent : UInt64) : UInt64 :=
  if alignment ≤ pageSize then extent
  else if alignment ≤ extent then extent + alignment
  else alignment + alignment

/-- Some memory can be set aside. -/
def isFree (size : UInt64) : Bool := size != 0 && decide (size < freeMemory)

/-- Some memory can be had for a segment. -/
def hasMemory (s : Segment) (size : UInt64) : Bool :=
  decide (size < if s.isWritable then writableMemory else freeMemory)

/-- Some memory can be had for what the file holds from where a segment starts in it. -/
def hasRoom (s : Segment) (size : UInt64) : Bool :=
  size != 0 && hasMemory s size && decide (s.offset < fileLimit) && decide (s.offset + size < fileLimit)

/-! ## What is wrong -/

/-- There is a dynamic segment that holds something and is not at the very start of memory. -/
def hasDynamic (ss : List Segment) : Bool :=
  let dynamic := ss.filter Segment.isDynamic
  dynamic.all (·.fileSize != 0) && (dynamic.getLast?.map (·.address)).any (· != 0)

/-- Pages are missing between some segment and the next, or are in both. -/
def hasGap : List Segment → Bool
  | s :: t :: ss => s.fileStop != t.start || hasGap (t :: ss)
  | _ => false

/-- What goes wrong with the empty pages after those that come from the file. -/
def emptyPagesFault? (s : Segment) : Option MapFault :=
  if s.dataStop < s.stop ∧ !hasMemory s (s.stop - s.dataStop) then some .noEmptyPages else none

/-- What goes wrong with the pages of a segment, those from the file before the empty ones, where memory starts at a
base. -/
def pagesFault? (base : UInt64) (s : Segment) : Option MapFault :=
  if s.start < s.fileStop ∧ !(hasRoom s (s.fileStop - s.start) && decide (s.fileStop - base < freeMemory)) then
    some .noRoom
  else emptyPagesFault? s

/-- What goes wrong when memory is set aside for all segments and each is put into its place there: the first is in its
place already, and what lies between it and the last is closed where pages are missing. -/
def layoutFault? (first last : Segment) (others : List Segment) : Option MapFault :=
  let extent := last.stop - first.start
  if !(isFree (reserve (alignment (first :: others)) extent) && hasRoom first extent) then some .noRoom
  else if hasGap (first :: others) ∧ last.start < first.fileStop then some .misaligned
  else if hasGap (first :: others) ∧ last.stop < last.start then some .notProtected
  else (emptyPagesFault? first).or (others.findSome? (pagesFault? first.start))

/-- The first thing that is wrong with the segments of a file; those of a library are not expected. -/
def segmentFault? (program : Bool) (ss : List Segment) : Option MapFault :=
  let loaded := ss.filter Segment.loads
  if !loaded.all Segment.isAligned then some .misaligned
  else
    match loaded with
    | [] => some .nothingToLoad
    | first :: others =>
      if program then some .executable
      else if !hasDynamic ss then some .nothingDynamic
      else layoutFault? first (others.getLastD first) others

/-- The first thing that is wrong with the segments of a file that was read. -/
def fault? (bytes : List UInt8) : Option MapFault :=
  segmentFault? (ObjectFile.isProgram bytes) (ObjectFile.segments bytes)

end Layout
end NativeLoader
