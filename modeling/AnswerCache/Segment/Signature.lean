import AnswerCache.CacheKey
import AnswerCache.Query.Basic
import AnswerCache.Segment.Registry

/-!
Signatures: a short digest of the segments that a query reads, by which a stored answer is known to
be current.
-/

namespace AnswerCache

structure Signature where
  value : UInt64
  deriving DecidableEq

namespace Signature

def hex (s : Signature) : String :=
  Sha256.hex (Sha256.bigEndian 8 s.value.toNat)

def ofBytes (bytes : List UInt8) : Signature :=
  ⟨(bytes.take 8).foldl (fun n b => n * 256 + b.toUInt64) 0⟩

end Signature

abbrev SignatureService := Query → Option Signature

namespace Registry

def identifiers? (r : Registry) (q : Query) (table : String) : Option (List String) :=
  (r.intersecting? table q.intervals).map fun segments => segments.map Segment.identifier

def sortTexts (texts : List String) : List String :=
  texts.mergeSort (· ≤ ·)

def sortUnique (texts : List String) : List String :=
  (Dictionary.ofList (texts.map fun t => (t, ()))).keys

/-- What is hashed into a signature: the identifiers in order, each ended by a new line. -/
def signedText? (r : Registry) (q : Query) : Option String := do
  let perTable ← (sortUnique q.dataSource.tableNames).mapM (r.identifiers? q)
  return String.join ((sortTexts perTable.flatten).map fun id => id ++ "\n")

def signatureFor (r : Registry) : SignatureService := fun q =>
  (r.signedText? q).map fun text => Signature.ofBytes (Sha256.digest (utf8Bytes text))

end Registry

end AnswerCache
