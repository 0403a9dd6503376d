import ScopedTemplate.Yaml.Value

/-!
# Documents

A text of certain characters holds at most one document; its value is that of its root.
-/

namespace ScopedTemplate.Yaml.Document

def allowedRanges : List (Nat × Nat) := [
  (0x9, 0xa), (0xd, 0xd), (0x20, 0x7e), (0x85, 0x85), (0xa0, 0xd7ff), (0xe000, 0xfffd),
  (0x10000, 0x10ffff)]

def isAllowed (c : Char) : Bool :=
  allowedRanges.any fun range => range.1 ≤ c.toNat && c.toNat ≤ range.2

def unifyBreaks : List Char → List Char
  | [] => []
  | '\r' :: '\n' :: rest => '\n' :: unifyBreaks rest
  | '\r' :: rest => '\n' :: unifyBreaks rest
  | c :: rest => c :: unifyBreaks rest

/-- The value of the document that a text holds; no document is null. -/
def read (source : String) : Parsed Setting := do
  let text := unifyBreaks source.toList
  require (text.all isAllowed)
  match ← Nodes.ofText text with
  | (some root, nodes) => nodes.value root
  | (none, _) => return .null

end ScopedTemplate.Yaml.Document
