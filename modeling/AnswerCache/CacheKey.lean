import AnswerCache.Sha256

namespace AnswerCache

structure CacheKey where
  text : String
  deriving DecidableEq

def utf8Bytes (s : String) : List UInt8 :=
  s.toUTF8.toList

namespace CacheKey

def length (k : CacheKey) : Nat :=
  k.text.utf8ByteSize

def isEmpty (k : CacheKey) : Bool :=
  k.text.isEmpty

def checksum (k : CacheKey) : String :=
  Sha256.hex (Sha256.digest (utf8Bytes k.text))

end CacheKey

end AnswerCache
