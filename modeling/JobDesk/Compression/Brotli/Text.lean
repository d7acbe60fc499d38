import JobDesk.Compression.Brotli.Part
import JobDesk.Compression.Fault

/-!
# Texts — parts up to the last one

A text begins with the number of bytes to which distances reach, and its parts follow.  The bits
behind its last part are zero, and no bytes follow.  If the bytes end too early, what they stand for
so far counts.
-/

namespace JobDesk.Compression.Brotli

def readWindow (bits : Bits) : Except Stop (Nat × Bits) := do
  let (isStated, bits) ← bits.take 1
  if isStated = 0 then return ((1 <<< 16) - 16, bits)
  let (large, bits) ← bits.take 3
  if large ≠ 0 then return ((1 <<< (17 + large)) - 16, bits)
  let (small, bits) ← bits.take 3
  if small = 1 then throw .malformed
  return ((1 <<< (if small = 0 then 17 else 8 + small)) - 16, bits)

def readParts (window : Nat) :
    (rounds : Nat) → Bits → (recent : List Nat) → Bytes → Except Fault Decompressed
  | 0, _, _, output => .ok ⟨output, none⟩
  | rounds + 1, bits, recent, output =>
    match readHeader bits with
    | .error .ended => .ok ⟨output, none⟩
    | .error .malformed => .error .badText
    | .ok (isLast, kind, bits) =>
      match kind.read? window bits recent output with
      | none => .error .badText
      | some ⟨output, none⟩ => .ok ⟨output, none⟩
      | some ⟨output, some (bits, recent)⟩ =>
        if !isLast then readParts window rounds bits recent output
        else
          match toByte bits with
          | .error _ => .error .badText
          | .ok bits =>
            if bits.bytesRead < bits.bytes.size then .error .surplus else .ok ⟨output, none⟩

def decompress (bytes : Bytes) : Except Fault Decompressed :=
  match readWindow ⟨bytes, 0⟩ with
  | .error .ended => .ok ⟨#[], none⟩
  | .error .malformed => .error .badText
  | .ok (window, bits) => readParts window (8 * bytes.size) bits firstDistances #[]

end JobDesk.Compression.Brotli
