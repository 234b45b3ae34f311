/-! Names in namespaces. A name with a prefix bound to a namespace, or without one where a
default namespace is bound, reads as the namespace in braces and the local name. Attributes
bind prefixes, but those that would touch what is reserved bind nothing. -/
namespace Pgml.Markup

/-- The namespaces of prefixes, the innermost first. The default has the empty prefix. -/
abbrev Scope := List (String × String)

namespace Scope

/-- The namespace that the prefix `xml` is bound to in every document. -/
def reserved : String := "/".intercalate ["http:", "", "www.w3.org", "XML", "1998", "namespace"]

/-- The namespace of the attributes that bind prefixes. -/
def ofBindings : String := "/".intercalate ["http:", "", "www.w3.org", "2000", "xmlns", ""]

def initial : Scope := [("xml", reserved)]

def namespace? (s : Scope) (label : String) : Option String :=
  (s.lookup label).filter (· != "")

/-- The prefix of a name, if it has one, and its local part. -/
def split (name : String) : Option String × String :=
  match name.toList.span (· != ':') with
  | (c :: before, ':' :: after) => (some (String.ofList (c :: before)), String.ofList after)
  | _ => (none, name)

def inNamespace (space : Option String) (name : String) : String :=
  match space with
  | some uri => "\x7b" ++ uri ++ "\x7d" ++ name
  | none => name

def elementName (s : Scope) (name : String) : String :=
  let (label, rest) := split name
  inNamespace (s.namespace? (label.getD "")) rest

/-- The default namespace does not hold for attributes. -/
def attributeName (s : Scope) (name : String) : String :=
  match split name with
  | (some label, rest) => inNamespace (s.namespace? label) rest
  | (none, rest) => rest

/-- The prefix that an attribute binds, if it binds one. -/
def bound? (name : String) : Option String :=
  if name == "xmlns" then some ""
  else match split name with
    | (some "xmlns", label) => some label
    | _ => none

/-- Whether a prefix cannot be bound to a namespace. Only the default can be unbound. -/
def isReserved (label space : String) : Bool :=
  label == "xml" || label == "xmlns" || space == reserved || space == ofBindings ||
    (label != "" && space == "")

/-- Whether an attribute names a prefix that it cannot bind. -/
def bindsNothing (a : String × String) : Bool := (bound? a.1).any (isReserved · a.2)

/-- The scope within an element with some attributes. -/
def extend (s : Scope) (attributes : List (String × String)) : Scope :=
  attributes.foldl (fun scope a => match bound? a.1 with
    | some label => if isReserved label a.2 then scope else (label, a.2) :: scope
    | none => scope) s

/-- The attributes of an element that bind no prefix, under their full names. -/
def attributes (s : Scope) (as : List (String × String)) : List (String × String) :=
  (as.filter fun a => (bound? a.1).isNone).map fun a => (s.attributeName a.1, a.2)

end Scope

end Pgml.Markup
