import Triplet.Picture.Raster

/-! # PNG files

A file has a mark at its front and then chunks, each with its length, its name and a checksum: a
header, the rows of pixels without compression, and an end.
-/

namespace Triplet.Picture

/-- The bytes of a number, the highest first. -/
def bytes : Nat → Nat → ByteArray
  | 0, _ => .empty
  | k + 1, n => (bytes k (n / 256)).push n.toUInt8

/-- Divide by the polynomial of the checksum, bit by bit. -/
def divideBits : Nat → UInt32 → UInt32
  | 0, r => r
  | n + 1, r => divideBits n (if r &&& 1 == 1 then (r >>> 1) ^^^ 0xEDB88320 else r >>> 1)

/-- The remainders of all bytes. -/
def remainders : Array UInt32 := (Array.range 256).map fun n => divideBits 8 n.toUInt32

/-- The checksum of a chunk. -/
def checksum (data : ByteArray) : UInt32 :=
  let step (r : UInt32) (b : UInt8) : UInt32 :=
    (remainders[((r ^^^ b.toUInt32) &&& 0xFF).toNat]?.getD 0) ^^^ (r >>> 8)
  data.foldl step 0xFFFFFFFF ^^^ 0xFFFFFFFF

def chunk (name : String) (data : ByteArray) : ByteArray :=
  let body := name.toUTF8 ++ data
  bytes 4 data.size ++ body ++ bytes 4 (checksum body).toNat

/-- The checksum of packed data. -/
def packedChecksum (data : ByteArray) : Nat :=
  let (low, high) := data.foldl (fun (low, high) b =>
    let low := (low + b.toUInt32) % 65521
    (low, (high + low) % 65521)) ((1, 0) : UInt32 × UInt32)
  high.toNat * 65536 + low.toNat

/-- How many bytes a block holds. -/
def blockSize : Nat := 65535

/-- A block of data as it is. -/
def block (last : Bool) (data : ByteArray) : ByteArray :=
  let size := data.size
  let rest := 65535 - size
  let sizes := [size, size / 256, rest, rest / 256].map Nat.toUInt8
  ByteArray.mk (last.toUInt8 :: sizes).toArray ++ data

/-- Pack data in blocks without compression. -/
def pack (data : ByteArray) : ByteArray :=
  let count := max 1 ((data.size + blockSize - 1) / blockSize)
  let blocks := (List.range count).foldl (fun packed i =>
    packed ++ block (i + 1 == count) (data.extract (i * blockSize) ((i + 1) * blockSize)))
    (ByteArray.mk #[0x78, 0x01])
  blocks ++ bytes 4 (packedChecksum data)

/-- The byte of a component of an ink. -/
def componentByte (x : Float) : UInt8 := (x * 255 + 0.5).toUInt8

/-- The rows of a raster, each after a zero. -/
def rows (r : Raster) : ByteArray :=
  (List.range r.height).foldl (fun data y =>
    (List.range r.width).foldl (fun data x =>
      let ink := r.pixels.getD (y * r.width + x) .black
      ((data.push (componentByte ink.red)).push (componentByte ink.green)).push
        (componentByte ink.blue)) (data.push 0)) .empty

/-- A raster as a file. -/
def png (r : Raster) : ByteArray :=
  let header := bytes 4 r.width ++ bytes 4 r.height ++ ByteArray.mk #[8, 2, 0, 0, 0]
  ByteArray.mk #[0x89, 0x50, 0x4E, 0x47, 0x0D, 0x0A, 0x1A, 0x0A] ++ chunk "IHDR" header ++
    chunk "IDAT" (pack (rows r)) ++ chunk "IEND" .empty

end Triplet.Picture
