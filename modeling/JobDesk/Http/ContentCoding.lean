import JobDesk.Compression.Brotli.Text
import JobDesk.Compression.Gzip
import JobDesk.Compression.Zlib
import JobDesk.Compression.Zstandard.Frame
import JobDesk.Http.MediaType
import JobDesk.Text.Blank

/-!
# Content codings — how a body was compressed

A body is read as it is, or decompressed as its request says.  What cannot be read as the name of a
coding leaves the body as it is.
-/

namespace JobDesk.Http

open Compression (Decompressed)

inductive ContentCoding where
  | identity
  | gzip
  | deflate
  | zstd
  | brotli
  deriving DecidableEq, Inhabited

namespace ContentCoding

def ofName (name : String) : ContentCoding :=
  let name := MediaType.lower (Text.trim name.toList)
  if name = "gzip" then gzip
  else if name = "deflate" then deflate
  else if name = "zstd" then zstd
  else if name = "br" then brotli
  else identity

def decode (coding : ContentCoding) (body : Bytes) : Except Compression.Fault Decompressed :=
  match coding with
  | identity => .ok ⟨body, none⟩
  | gzip => Compression.Gzip.decompress body
  | deflate => Compression.Zlib.decompress body
  | zstd => Compression.Zstandard.decompress body
  | brotli => Compression.Brotli.decompress body

end ContentCoding

end JobDesk.Http
