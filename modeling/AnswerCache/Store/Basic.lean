import AnswerCache.CacheKey
import AnswerCache.Segment.Signature

namespace AnswerCache

structure Entry where
  signature : Option Signature
  value : String
  deriving DecidableEq

def Entry.overhead : Nat := 32

def Entry.size (e : Entry) : Nat :=
  e.value.utf8ByteSize + overhead

inductive StoreError
  | encoding (reason : String)
  | unavailable (reason : String)
  | timeout (ms : Nat)
  | decoding (reason : String)
  deriving DecidableEq

def StoreError.message : StoreError → String
  | encoding reason => "Serialization error: " ++ reason
  | unavailable reason => "Store unavailable: " ++ reason
  | timeout ms => "Store timeout after " ++ String.ofList (Text.decimal ms) ++ "ms"
  | decoding reason => "Decode error: " ++ reason

structure Store (σ : Type) where
  name : String
  get : σ → CacheKey → Except StoreError (Option Entry) × σ
  set : σ → CacheKey → Entry → Except StoreError Unit × σ

/-- A store that takes its time: each answer is due after some milliseconds, or never. -/
structure SlowStore (σ : Type) extends Store σ where
  getDelay : σ → Option Nat
  setDelay : σ → Option Nat

namespace SlowStore

variable {σ : Type}

def longestDelay : Nat := 946080000000

def inTime (limit : Nat) : Option Nat → Bool
  | some delay => min delay longestDelay ≤ limit
  | none => false

/-- A call that is not answered in time fails and leaves the store as it was. -/
def within (limit : Nat) (s : SlowStore σ) : Store σ where
  name := s.name
  get state key :=
    if inTime limit (s.getDelay state) then s.get state key else (.error (.timeout limit), state)
  set state key entry :=
    if inTime limit (s.setDelay state) then s.set state key entry
    else (.error (.timeout limit), state)

end SlowStore

end AnswerCache
