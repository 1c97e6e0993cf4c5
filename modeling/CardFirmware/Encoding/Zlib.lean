import CardFirmware.Encoding.Deflate

/-! Decompression of zlib streams: a two-byte header without a preset dictionary, a deflate stream,
and the checksum of what it holds. Bytes after the checksum are ignored. -/

namespace CardFirmware.Zlib

def adler32 (data : Array UInt8) : Nat :=
  let (a, b) := data.foldl
    (fun (a, b) byte =>
      let a := (a + byte.toNat) % 65521
      (a, (b + a) % 65521)) (1, 0)
  b * 65536 + a

def validHeader (cmf flg : Nat) : Bool :=
  (cmf * 256 + flg) % 31 == 0 && cmf % 16 == 8 && cmf / 16 ≤ 7 && !flg.testBit 5

def decompress : Bytes → Option Bytes
  | cmf :: flg :: stream =>
    if validHeader cmf.toNat flg.toNat then do
      let bits := Deflate.bitsOfBytes stream
      let (bits, out) ← Deflate.readBlocks bits.length bits #[]
      let (a, bits) ← Deflate.takeNumber 8 (Deflate.alignBits bits)
      let (b, bits) ← Deflate.takeNumber 8 bits
      let (c, bits) ← Deflate.takeNumber 8 bits
      let (d, _) ← Deflate.takeNumber 8 bits
      if ((a * 256 + b) * 256 + c) * 256 + d = adler32 out then some out.toList else none
    else none
  | _ => none

end CardFirmware.Zlib
