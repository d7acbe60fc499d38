import JobDesk.Compression.Checksum
import JobDesk.Compression.Deflate
import JobDesk.Compression.Fault

/-!
# Blocks with sums — blocks between two bytes and a checksum

Two bytes say how the blocks are made, and the sums of the content follow them, highest byte first.
If the bytes end too early, what they stand for so far counts.
-/

namespace JobDesk.Compression.Zlib

/-- Whether two bytes can stand before blocks: as one number they are a multiple of 31, the method
is the eighth one with distances of at most 32768, and no other text is presupposed. -/
def isHeader (method flags : UInt8) : Bool :=
  (256 * method.toNat + flags.toNat) % 31 == 0 && method % 16 == 8 && method / 16 ≤ 7
    && flags / 32 % 2 == 0

def decompress (bytes : Bytes) : Except Fault Decompressed :=
  match bytes[0]?, bytes[1]? with
  | some method, some flags =>
    if !isHeader method flags then .error .badBlocks
    else
      match Deflate.inflate bytes 2 with
      | none => .error .badBlocks
      | some ⟨content, none⟩ => .ok ⟨content, none⟩
      | some ⟨content, some taken⟩ =>
        if bytes.size < taken + 4 then .ok ⟨content, none⟩
        else if (Bytes.toWord (bytes.extract taken (taken + 4)).toList.reverse)
            ≠ Checksum.sums content then .error .badBlocks
        else if taken + 4 < bytes.size then .error .surplus
        else .ok ⟨content, none⟩
  | _, _ => .ok ⟨#[], none⟩

end JobDesk.Compression.Zlib
