import Schemata.Digest.Sha256
import Schemata.Json.Printer

/-!
# Fingerprints

Content hashes of documents. A fingerprint is the SHA-256 of the compact text, in which members
stand in key order; the fingerprint of a compilation puts the generation of the engine, eight
bytes, before that text.
-/

namespace Schemata

namespace Json.Value

mutual
/-- The document with the members of its objects in key order; of several with one key the last
counts. -/
def canonical : Value → Value
  | .array items => .array (canonicalItems items)
  | .object members => .ofMembers (canonicalMembers members)
  | other => other

def canonicalItems : List Value → List Value
  | [] => []
  | item :: items => item.canonical :: canonicalItems items

def canonicalMembers : List (String × Value) → List (String × Value)
  | [] => []
  | (key, member) :: members => (key, member.canonical) :: canonicalMembers members
end

end Json.Value

/-- A hash as sixty-four hexadecimal digits. -/
structure Fingerprint where
  hex : String
  deriving DecidableEq, Repr, Inhabited

namespace Fingerprint

def textBytes (text : String) : List UInt8 := text.toUTF8.toList

def ofBytes (bytes : List UInt8) : Fingerprint := ⟨Digest.sha256 bytes⟩

def ofText (text : String) : Fingerprint := ofBytes (textBytes text)

def documentBytes (document : Json.Value) : List UInt8 := textBytes document.canonical.compact

def ofDocument (document : Json.Value) : Fingerprint := ofBytes (documentBytes document)

/-- The bytes that stand for a document compiled under a generation. -/
def compilationBytes (generation : Nat) (document : Json.Value) : List UInt8 :=
  Digest.bigEndian 8 generation ++ documentBytes document

def ofCompilation (generation : Nat) (document : Json.Value) : Fingerprint :=
  ofBytes (compilationBytes generation document)

/-- Whether a document has this fingerprint. -/
def verifies (fingerprint : Fingerprint) (document : Json.Value) : Bool :=
  ofDocument document = fingerprint

end Fingerprint

end Schemata
