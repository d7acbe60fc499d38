import JobDesk.Bytes

/-!
# Faults of compressed bodies — why a body cannot be decompressed

A fault is found while the bytes are read, or only at their end.  What has been decompressed counts
where a fault is found at the end.
-/

namespace JobDesk.Compression

inductive Fault where
  | badHeader
  | longHeader
  | badBlocks
  | badChecksum
  /-- Bytes follow where nothing can follow. -/
  | surplus
  | unknownFrame
  | reservedFlag
  | largeWindow
  | missingDictionary
  | badFrame
  | changedContent
  | badText
  deriving DecidableEq, Inhabited

def badInputText (reason : String) : String :=
  "Custom \x7b kind: InvalidInput, error: \"" ++ reason ++ "\" \x7d"

def badFrameText (reason : String) : String :=
  "Custom \x7b kind: Other, error: \"" ++ reason ++ "\" \x7d"

def Fault.text : Fault → String
  | .badHeader => badInputText "invalid gzip header"
  | .longHeader => badInputText "gzip header field too long"
  | .badBlocks => badInputText "corrupt deflate stream"
  | .badChecksum => badInputText "corrupt gzip stream does not have a matching checksum"
  | .surplus => "Error \x7b kind: WriteZero, message: \"failed to write whole buffer\" \x7d"
  | .unknownFrame => badFrameText "Unknown frame descriptor"
  | .reservedFlag => badFrameText "Unsupported frame parameter"
  | .largeWindow => badFrameText "Frame requires too much memory for decoding"
  | .missingDictionary => badFrameText "Dictionary mismatch"
  | .badFrame => badFrameText "Data corruption detected"
  | .changedContent => badFrameText "Restored data doesn't match checksum"
  | .badText => "Custom \x7b kind: InvalidData, error: \"Invalid Data\" \x7d"

structure Decompressed where
  content : Bytes
  fault? : Option Fault := none
  deriving Inhabited

end JobDesk.Compression
