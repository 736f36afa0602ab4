/-!
# Archives

Several files in one, each of them stored as it is: a record for every file, a directory of the
records, and a closing record. Numbers are written with the lowest byte first.
-/

namespace SchemaAtlas.Word.Archive

structure Entry where
  name : String
  content : List UInt8
deriving DecidableEq, Repr

def littleEndian : Nat → Nat → List UInt8
  | 0, _ => []
  | width + 1, n => UInt8.ofNat n :: littleEndian width (n / 256)

def checksumStep (c : UInt32) : UInt32 :=
  if c &&& 1 = 1 then (c >>> 1) ^^^ 0xEDB88320 else c >>> 1

def checksumByte (c : UInt32) (b : UInt8) : UInt32 :=
  (List.range 8).foldl (fun c _ => checksumStep c) (c ^^^ b.toUInt32)

def checksum (content : List UInt8) : UInt32 :=
  content.foldl checksumByte 0xFFFFFFFF ^^^ 0xFFFFFFFF

def fields (values : List (Nat × Nat)) : List UInt8 :=
  values.flatMap fun (width, n) => littleEndian width n

def firstDay : Nat := 33

namespace Entry

def nameBytes (e : Entry) : List UInt8 := e.name.toUTF8.toList

def commonFields (e : Entry) : List (Nat × Nat) :=
  [(2, 20), (2, 0), (2, 0), (2, 0), (2, firstDay), (4, (checksum e.content).toNat),
    (4, e.content.length), (4, e.content.length), (2, e.nameBytes.length)]

def fileRecord (e : Entry) : List UInt8 :=
  fields ((4, 0x04034B50) :: e.commonFields ++ [(2, 0)]) ++ e.nameBytes ++ e.content

def directoryRecord (e : Entry) (offset : Nat) : List UInt8 :=
  fields ([(4, 0x02014B50), (2, 20)] ++ e.commonFields ++
    [(2, 0), (2, 0), (2, 0), (2, 0), (4, 0), (4, offset)]) ++ e.nameBytes

end Entry

def directory (offset : Nat) : List Entry → List UInt8
  | [] => []
  | e :: es => e.directoryRecord offset ++ directory (offset + e.fileRecord.length) es

def closingRecord (count size offset : Nat) : List UInt8 :=
  fields [(4, 0x06054B50), (2, 0), (2, 0), (2, count), (2, count), (4, size), (4, offset), (2, 0)]

def bytes (es : List Entry) : List UInt8 :=
  let files := es.flatMap Entry.fileRecord
  let listing := directory 0 es
  files ++ listing ++ closingRecord es.length listing.length files.length

end SchemaAtlas.Word.Archive
