import Polyquery.Files.Fault
import Polyquery.Gzip
import Polyquery.Json.Symbol

/-!
# Streams

An open file gives bytes, and then ends or fails.  A directory can be opened too, but fails at once.
-/

namespace Polyquery

structure ByteStream where
  bytes : Bytes
  /-- Why the bytes cannot be read any further, if they do not just end. -/
  fault? : Option Text
  deriving Repr, DecidableEq

namespace ByteStream

def ofBytes (bytes : Bytes) : ByteStream :=
  { bytes, fault? := none }

def ofDirectory : ByteStream :=
  { bytes := [], fault? := some FileFault.isDirectory.message }

def unzipped (stream : ByteStream) : ByteStream :=
  match Gzip.decode stream.bytes with
  | (bytes, none) => ofBytes bytes
  | (bytes, some .ended) => { bytes, fault? := some (stream.fault?.getD Gzip.Fault.ended.message) }
  | (bytes, some fault) => { bytes, fault? := some fault.message }

def symbols (stream : ByteStream) : List Json.Symbol :=
  let read := (Utf8.decode stream.bytes).map fun
    | some c => .char c
    | none => .stray
  read ++ (stream.fault?.map Json.Symbol.cut).toList

def text (stream : ByteStream) : Except Text Text :=
  match stream.fault?, Text.ofUtf8? stream.bytes with
  | some fault, _ => .error fault
  | none, some text => .ok text
  | none, none => .error FileFault.invalidText.message

end ByteStream
end Polyquery
