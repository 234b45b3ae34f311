/-! Encodings of documents, and the conversion of their bytes to UTF-8, which is what the
reader works on. -/
namespace Pgml.Markup

inductive Encoding where
  | utf8
  | latin1
  | ascii
  | utf16 (bigEndian : Bool)
  deriving DecidableEq, Repr

/-- The outcome of a conversion. -/
structure Converted where
  /-- Whole characters in UTF-8. -/
  bytes : List UInt8
  /-- The bytes of a last character that is cut off, as they came. -/
  carry : List UInt8
  deriving DecidableEq, Repr

def Converted.push (c : Char) (r : Converted) : Converted :=
  { r with bytes := String.utf8EncodeChar c ++ r.bytes }

/-- One byte for each character, below a limit. -/
def convertBytes? (limit : Nat) : List UInt8 → Option Converted
  | [] => some ⟨[], []⟩
  | b :: rest =>
    if b.toNat < limit then (convertBytes? limit rest).map (.push (Char.ofNat b.toNat)) else none

def unit (bigEndian : Bool) (a b : UInt8) : Nat :=
  if bigEndian then a.toNat * 256 + b.toNat else b.toNat * 256 + a.toNat

def isHighHalf (u : Nat) : Bool := 0xd800 ≤ u && u < 0xdc00

def isLowHalf (u : Nat) : Bool := 0xdc00 ≤ u && u < 0xe000

/-- Two bytes for each character, or four for one in two halves, neither of which may stand
alone. -/
def convertUtf16? (bigEndian : Bool) : List UInt8 → Option Converted
  | a :: b :: c :: d :: rest =>
    let u := unit bigEndian a b
    let v := unit bigEndian c d
    if isHighHalf u then
      if isLowHalf v then
        (convertUtf16? bigEndian rest).map
          (.push (Char.ofNat (0x10000 + (u - 0xd800) * 0x400 + (v - 0xdc00))))
      else none
    else if isLowHalf u then none
    else (convertUtf16? bigEndian (c :: d :: rest)).map (.push (Char.ofNat u))
  | a :: b :: rest =>
    let u := unit bigEndian a b
    if isHighHalf u then some ⟨[], a :: b :: rest⟩
    else if isLowHalf u then none
    else some (.push (Char.ofNat u) ⟨[], rest⟩)
  | carry => some ⟨[], carry⟩

namespace Encoding

/-- The bytes in UTF-8, none if there are bytes that stand for no character. Bytes that are in
UTF-8 already are not looked at. -/
def convert? : Encoding → List UInt8 → Option Converted
  | utf8, bytes => some ⟨bytes, []⟩
  | latin1, bytes => convertBytes? 256 bytes
  | ascii, bytes => convertBytes? 128 bytes
  | utf16 bigEndian, bytes => convertUtf16? bigEndian bytes

def utf8Names : List String := ["UTF-8", "UTF8"]

def latin1Names : List String := [
  "ISO-8859-1", "ISO_8859-1", "ISO8859-1", "ISO88591", "ISO-IR-100", "ISO-LATIN-1", "CSISOLATIN1",
  "LATIN1", "L1", "CP819", "IBM819"]

def asciiNames : List String := [
  "US-ASCII", "ASCII", "US", "ANSI_X3.4-1968", "ANSI_X3.4-1986", "ISO-IR-6", "ISO646-US", "CSASCII",
  "CP367", "IBM367"]

/-- The encoding of a name in any case. -/
def ofName? (name : List Char) : Option Encoding :=
  let name := String.ofList (name.map Char.toUpper)
  if utf8Names.contains name then some utf8
  else if latin1Names.contains name then some latin1
  else if asciiNames.contains name then some ascii
  else none

/-- The encoding that the first bytes of a document tell, and the size of its byte order mark.
Without a mark, a declaration tells by its first two characters whether they take two bytes
each. -/
def detect? : List UInt8 → Option (Encoding × Nat)
  | 0xef :: 0xbb :: 0xbf :: _ => some (utf8, 3)
  | 0xff :: 0xfe :: _ => some (utf16 false, 2)
  | 0xfe :: 0xff :: _ => some (utf16 true, 2)
  | 0x3c :: 0 :: 0x3f :: 0 :: _ => some (utf16 false, 0)
  | 0 :: 0x3c :: 0 :: 0x3f :: _ => some (utf16 true, 0)
  | _ => none

end Encoding

end Pgml.Markup
