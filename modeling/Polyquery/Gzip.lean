import Polyquery.Gzip.Checksum
import Polyquery.Gzip.Inflate

/-!
# Gzip files

A compressed file is a header, compressed data, and a trailer with the checksum and the size of what the
data stands for.  Whatever follows the trailer is left alone.  The same content can be compressed in many ways,
and every one of them is decoded.  The simplest one is given here, which stores the content in blocks of bytes
as they are.
-/

namespace Polyquery
namespace Gzip

inductive Fault where
  | ended
  | badHeader
  | longField
  | corrupt
  | badChecksum
  deriving Repr, DecidableEq

def Fault.message : Fault → Text
  | .ended => "unexpected end of file".toList
  | .badHeader => "invalid gzip header".toList
  | .longField => "gzip header field too long".toList
  | .corrupt => "corrupt deflate stream".toList
  | .badChecksum => "corrupt gzip stream does not have a matching checksum".toList

def split (count : Nat) (bytes : Bytes) : Except Fault (Bytes × Bytes) :=
  if bytes.length < count then .error .ended else .ok (bytes.take count, bytes.drop count)

def maxFieldSize : Nat := 65535

/-- What is behind a text that ends with a zero byte. -/
def skipField (bytes : Bytes) : Except Fault Bytes :=
  let size := (bytes.takeWhile (· ≠ 0)).length
  if maxFieldSize < size then .error .longField
  else
    match bytes.drop size with
    | [] => .error .ended
    | _ :: behind => .ok behind

def skipIf (present : Bool) (skip : Bytes → Except Fault Bytes) (bytes : Bytes) :
    Except Fault Bytes :=
  if present then skip bytes else .ok bytes

/-- What is behind a part of the header that begins with its size. -/
def skipExtra (bytes : Bytes) : Except Fault Bytes := do
  let (size, behind) ← split 2 bytes
  let (_, behind) ← split (number size) behind
  return behind

/-- What is behind the header.  Its fourth byte tells which optional parts it has: its own checksum, a
part for other uses, a name, a comment. -/
def skipHeader (bytes : Bytes) : Except Fault Bytes := do
  let (fixed, behind) ← split 10 bytes
  match fixed with
  | 0x1f :: 0x8b :: 8 :: flags :: _ =>
    let has (bit : Nat) : Bool := flags.toNat.testBit bit
    if has 5 || has 6 || has 7 then throw .badHeader
    let behind ← skipIf (has 2) skipExtra behind
    let behind ← skipIf (has 3) skipField behind
    let behind ← skipIf (has 4) skipField behind
    skipIf (has 1)
      (fun behind => do
        let header := bytes.take (bytes.length - behind.length)
        let (given, behind) ← split 2 behind
        if number given = (checksum header).toNat % 65536 then return behind
        else throw .badChecksum)
      behind
  | _ => throw .badHeader

def trailer (content : Bytes) : Bytes :=
  spelled 4 (checksum content).toNat ++ spelled 4 content.length

/-- Content comes in blocks of this size.  A block in which the compressed data turns out to be corrupt is
lost. -/
def blockSize : Nat := 8192

/-- The content of a file as far as it can be decoded, and why it cannot be decoded any further. -/
def decode (file : Bytes) : Bytes × Option Fault :=
  match skipHeader file with
  | .error fault => ([], some fault)
  | .ok body =>
    match inflate body with
    | (content, .error .ended) => (content, some .ended)
    | (content, .error .corrupt) =>
      (content.take ((content.length - 1) / blockSize * blockSize), some .corrupt)
    | (content, .ok behind) =>
      match split 8 behind with
      | .error fault => (content, some fault)
      | .ok (given, _) =>
        if given = trailer content then (content, none) else (content, some .badChecksum)

def header : Bytes :=
  [0x1f, 0x8b, 8, 0, 0, 0, 0, 0, 0, 0xff]

def maxStored : Nat := 65535

def storedBlock (last : Bool) (content : Bytes) : Bytes :=
  (if last then 1 else 0) :: spelled 2 content.length ++
    spelled 2 (maxStored - content.length) ++ content

def storedBlocks (content : Bytes) : Bytes :=
  if content.length ≤ maxStored then storedBlock true content
  else
    storedBlock false (content.take maxStored) ++ storedBlocks (content.drop maxStored)
  termination_by content.length
  decreasing_by
    simp only [List.length_drop, maxStored] at *
    omega

/-- A file that stores its content as it is. -/
def store (content : Bytes) : Bytes :=
  header ++ storedBlocks content ++ trailer content

end Gzip
end Polyquery
