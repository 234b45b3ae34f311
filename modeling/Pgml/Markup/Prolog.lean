import Pgml.Markup.Assignment

/-! What may stand before the root element: the declaration of version and encoding, and a
document type. A document type may name an external subset, which is not read, and has no
internal one. -/
namespace Pgml.Markup

/-- The declaration of a document. -/
structure Declaration where
  version : List Char
  encoding : Option (List Char)
  standalone : Option (List Char)
  deriving DecidableEq, Repr

/-- Versions of XML that begin with a one are read. -/
def isKnownVersion : List Char → Bool
  | '1' :: '.' :: digits => digits.all Char.isDigit
  | _ => false

def isEncodingName : List Char → Bool
  | [] => false
  | c :: rest => c.isAlpha && rest.all fun c => c.isAlphanum || c == '.' || c == '_' || c == '-'

namespace Declaration

/-- The parts of a declaration, which come in a fixed order; the first one is required. -/
def ofAssignments? : List Assignment → Option Declaration
  | [⟨"version", v⟩] => some ⟨v, none, none⟩
  | [⟨"version", v⟩, ⟨"encoding", e⟩] => some ⟨v, some e, none⟩
  | [⟨"version", v⟩, ⟨"standalone", s⟩] => some ⟨v, none, some s⟩
  | [⟨"version", v⟩, ⟨"encoding", e⟩, ⟨"standalone", s⟩] => some ⟨v, some e, some s⟩
  | _ => none

def isValid (d : Declaration) : Bool :=
  isKnownVersion d.version && d.encoding.all isEncodingName &&
    d.standalone.all fun s => s == "yes".toList || s == "no".toList

/-- Whether nothing outside of the document matters for it. -/
def isStandalone (d : Declaration) : Bool := d.standalone == some "yes".toList

/-- A declaration from what follows its target. -/
def parse? (body : List Char) : Option Declaration := do
  let (found, ending) ← assignments? body
  let d ← ofAssignments? found
  if ending.isEmpty && d.isValid then some d else none

end Declaration

/-! ## Document types -/

def isPublicIdChar (c : Char) : Bool :=
  c == ' ' || c == '\n' || c.isAlphanum || "-'()+,./:=?;!*#@$_%".toList.contains c

/-- A quoted address at the end of a document type. -/
def isSystemId (cs : List Char) : Bool :=
  match literal? (cs.dropWhile isSpace) with
  | some (address, rest) => address.all isChar && rest.all isSpace
  | none => false

def isPublicId (cs : List Char) : Bool :=
  match literal? (cs.dropWhile isSpace) with
  | some (id, rest) => id.all isPublicIdChar && rest.head?.any isSpace && isSystemId rest
  | none => false

structure DocumentType where
  /-- Whether it names an external subset. -/
  isExternal : Bool
  deriving DecidableEq, Repr

namespace DocumentType

/-- A document type from what follows the name in it. -/
def ofPlace? (cs : List Char) : Option DocumentType :=
  let external := fun isPlace => if isPlace then some (DocumentType.mk true) else none
  match name? cs with
  | some ("SYSTEM", rest) => external (rest.head?.any isSpace && isSystemId rest)
  | some ("PUBLIC", rest) => external (rest.head?.any isSpace && isPublicId rest)
  | _ => if cs.isEmpty then some ⟨false⟩ else none

/-- A document type from what follows its keyword. -/
def parse? (body : List Char) : Option DocumentType :=
  if body.head?.any isSpace then
    (name? (body.dropWhile isSpace)).bind fun found => ofPlace? (found.2.dropWhile isSpace)
  else none

end DocumentType

end Pgml.Markup
