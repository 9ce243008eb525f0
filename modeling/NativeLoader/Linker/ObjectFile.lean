/-!
# Object files

What the linker reads of a file before it maps it: the identification, version, processor and kind in its header
(`headerFault?`), and the table of segments that the header points to (`tableFault?`); `readFault?` is the first thing
that is wrong.
-/

namespace NativeLoader

/-- What is wrong with a file that is to be mapped. -/
inductive MapFault where
  | tooShort
  | noHeader
  | wordSize
  | byteOrder
  | formatVersion
  | systemAbi
  | abiVersion
  | padding
  | version
  | processor
  | kind
  | entrySize
  | tableOutOfRange
  | tableCut
  | misaligned
  | nothingToLoad
  | executable
  | nothingDynamic
  | noRoom
  | notProtected
  | noEmptyPages
  deriving DecidableEq, Repr

/-- The wording of what is wrong. -/
def MapFault.text : MapFault → String
  | tooShort => "file too short"
  | noHeader => "invalid ELF header"
  | wordSize => "wrong ELF class: ELFCLASS32"
  | byteOrder => "ELF file data encoding not little-endian"
  | formatVersion => "ELF file version ident does not match current one"
  | systemAbi => "ELF file OS ABI invalid"
  | abiVersion => "ELF file ABI version invalid"
  | padding => "nonzero padding in e_ident"
  | version => "ELF file version does not match current one"
  | processor => "cannot open shared object file: No such file or directory"
  | kind => "only ET_DYN and ET_EXEC can be loaded"
  | entrySize => "ELF file's phentsize not the expected size"
  | tableOutOfRange => "cannot read file data: Invalid argument"
  | tableCut => "cannot read file data"
  | misaligned => "ELF load command address/offset not page-aligned"
  | nothingToLoad => "object file has no loadable segments"
  | executable => "cannot dynamically load executable"
  | nothingDynamic => "object file has no dynamic section"
  | noRoom => "failed to map segment from shared object"
  | notProtected => "cannot change memory protections"
  | noEmptyPages => "cannot map zero-fill pages"

/-- A file made for another machine: the linker passes over it as if it were not there. -/
def MapFault.isForeign : MapFault → Bool
  | wordSize | processor => true
  | _ => false

/-! ## Segments -/

/-- A part of an object file: what it is for, whether it is to be written, where it lies in the file and in memory, and
its size in each, and the multiples at which it may start in memory. -/
structure Segment where
  kind : Nat
  isWritable : Bool
  offset : UInt64
  address : UInt64
  fileSize : UInt64
  memorySize : UInt64
  alignment : UInt64
  deriving DecidableEq, Repr

namespace Segment

/-- The size of a page of memory. -/
def pageSize : UInt64 := 0x1000

/-- Where the page of an address starts. -/
def pageStart (address : UInt64) : UInt64 := address - address % pageSize

/-- The segment is to be loaded. -/
def loads (s : Segment) : Bool := s.kind == 1

/-- The segment tells the linker what to link. -/
def isDynamic (s : Segment) : Bool := s.kind == 2

/-- The segment is what each thread gets a copy of. -/
def isThreadStorage (s : Segment) : Bool := s.kind == 7

/-- The segment is not to be written any more once the linker is done with it. -/
def isSealed (s : Segment) : Bool := s.kind == 0x6474E552

/-- The segment lies at the same place of a page in the file and in memory. -/
def isAligned (s : Segment) : Bool := (s.address - s.offset) % pageSize == 0

/-- Where the pages of the segment start. -/
def start (s : Segment) : UInt64 := pageStart s.address

/-- Where in memory that which comes from the file ends. -/
def dataStop (s : Segment) : UInt64 := s.address + s.fileSize

/-- Where the pages that come from the file end. -/
def fileStop (s : Segment) : UInt64 := pageStart (s.dataStop + (pageSize - 1))

/-- Where the segment ends in memory. -/
def stop (s : Segment) : UInt64 := s.address + s.memorySize

end Segment

namespace ObjectFile

/-- The bytes that an object file begins with. -/
def mark : List UInt8 := [0x7F, 0x45, 0x4C, 0x46]

/-- The size of a header. -/
def headerSize : Nat := 64

/-- The size of an entry in the table of segments. -/
def segmentSize : Nat := 56

/-- How much of a file the linker reads with its header. -/
def headSize : Nat := 832

/-- A number of some bytes at a place, the lowest first. -/
def number (bytes : List UInt8) (offset size : Nat) : Nat :=
  ((bytes.drop offset).take size).foldr (fun b n => b.toNat + 256 * n) 0

/-- The segment that an entry of the table describes. -/
def segmentOf (entry : List UInt8) : Segment where
  kind := number entry 0 4
  isWritable := number entry 4 4 / 2 % 2 == 1
  offset := (number entry 8 8).toUInt64
  address := (number entry 16 8).toUInt64
  fileSize := (number entry 32 8).toUInt64
  memorySize := (number entry 40 8).toUInt64
  alignment := (number entry 48 8).toUInt64

/-- The segments that some entries describe, one after the other. -/
def segmentsFrom : Nat → List UInt8 → List Segment
  | 0, _ => []
  | count + 1, bytes => segmentOf bytes :: segmentsFrom count (bytes.drop segmentSize)

/-- Where the table of segments starts. -/
def tableStart (bytes : List UInt8) : Nat := number bytes 32 8

/-- How many segments there are. -/
def segmentCount (bytes : List UInt8) : Nat := number bytes 56 2

/-- The bytes of a file from the start of the table on; a start close below 2^64 lies so far before the file, and nothing
is there. -/
def tableBytes (bytes : List UInt8) : List UInt8 :=
  if tableStart bytes < 1 <<< 63 then bytes.drop (tableStart bytes)
  else List.replicate (1 <<< 64 - tableStart bytes) 0 ++ bytes

/-- The segments of a file. -/
def segments (bytes : List UInt8) : List Segment := segmentsFrom (segmentCount bytes) (tableBytes bytes)

/-- The file is a program, to be loaded at addresses of its own. -/
def isProgram (bytes : List UInt8) : Bool := number bytes 16 2 == 2

/-! ## What is wrong -/

/-- The version of the binary interface is one that the system has. -/
def hasAbiVersion (bytes : List UInt8) : Bool :=
  number bytes 8 1 == 0 || (number bytes 7 1 == 3 && decide (number bytes 8 1 < 4))

/-- The file is made for this machine's processor. -/
def isNative (bytes : List UInt8) : Bool := number bytes 18 2 == 62

/-- The first thing that is wrong with the identification, once the mark and the size of a word are right. -/
def identFault? (bytes : List UInt8) : Option MapFault :=
  if number bytes 5 1 != 1 then some .byteOrder
  else if number bytes 6 1 != 1 then some .formatVersion
  else if number bytes 7 1 != 0 && number bytes 7 1 != 3 then some .systemAbi
  else if !hasAbiVersion bytes then some .abiVersion
  else if number bytes 9 7 != 0 then some .padding
  else none

/-- The first thing that is wrong after the identification. -/
def descriptionFault? (bytes : List UInt8) : Option MapFault :=
  if number bytes 20 4 != 1 then some .version
  else if !isNative bytes then some .processor
  else if !isProgram bytes && number bytes 16 2 != 3 then some .kind
  else if number bytes 54 2 != segmentSize then some .entrySize
  else none

/-- The first thing that is wrong with a header; a wrong identification is forgiven to another processor's files. -/
def headerFault? (bytes : List UInt8) : Option MapFault :=
  if bytes.length < headerSize then some .tooShort
  else if !mark.isPrefixOf bytes then some .noHeader
  else if number bytes 4 1 != 2 then some .wordSize
  else
    match identFault? bytes with
    | some fault => some (if isNative bytes then fault else .processor)
    | none => descriptionFault? bytes

/-- What is wrong with the place of the table: unless it came with the header, it is read from its place in the file. -/
def tableFault? (bytes : List UInt8) : Option MapFault :=
  let size := segmentSize * segmentCount bytes
  let tableStop := tableStart bytes + size
  if tableStop % 1 <<< 64 ≤ min headSize bytes.length then none
  else if 1 <<< 63 ≤ tableStop then some .tableOutOfRange
  else if size = 0 ∨ tableStop ≤ bytes.length then none
  else some .tableCut

/-- The first thing that is wrong with what is read of a file before it is mapped. -/
def readFault? (bytes : List UInt8) : Option MapFault := (headerFault? bytes).or (tableFault? bytes)

end ObjectFile
end NativeLoader
