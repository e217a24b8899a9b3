import AnswerCache.Store.Memory

namespace AnswerCache

inductive Fault
  | working
  | failing (reason : String)
  | late (ms : Nat)
  | hanging
  deriving DecidableEq

namespace Fault

def delay : Fault → Option Nat
  | late ms => some ms
  | hanging => none
  | _ => some 0

def through {σ α : Type} (state : σ) (call : Except StoreError α × σ) :
    Fault → Except StoreError α × σ
  | failing reason => (.error (.unavailable reason), state)
  | _ => call

end Fault

structure FaultyMemory where
  inner : ClockedMemory
  onGet : Fault
  onSet : Fault

namespace FaultyMemory

def new (config : StoreConfig) : FaultyMemory :=
  ⟨.new config, .working, .working⟩

def pass (f : FaultyMemory) (nanos : Nat) : FaultyMemory :=
  { f with inner := f.inner.pass nanos }

def store : SlowStore FaultyMemory where
  name := ClockedMemory.store.name
  get f key :=
    let (result, inner) := ClockedMemory.store.get f.inner key
    f.onGet.through f (result, { f with inner })
  set f key entry :=
    let (result, inner) := ClockedMemory.store.set f.inner key entry
    f.onSet.through f (result, { f with inner })
  getDelay f := f.onGet.delay
  setDelay f := f.onSet.delay

def limited (limit : Option Nat) : Store FaultyMemory :=
  match limit with
  | some ms => store.within ms
  | none => store.toStore

end FaultyMemory

end AnswerCache
