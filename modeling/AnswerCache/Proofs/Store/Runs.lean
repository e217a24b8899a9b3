import AnswerCache.Proofs.Store.Memory

namespace AnswerCache.ClockedMemory

inductive Call
  | get (key : CacheKey)
  | set (key : CacheKey) (entry : Entry)
  | peek (key : CacheKey)
  | expireStale

inductive Answer
  | found (entry : Option Entry)
  | wrote (result : Except StoreError Unit)
  | expired (count : Nat)

structure Turn where
  nanos : Nat
  call : Call

structure Event where
  call : Call
  answer : Answer

def run (c : ClockedMemory) : Call → Answer × ClockedMemory
  | .get key =>
    let (entry, memory) := c.memory.get c.now key
    (.found entry, { c with memory })
  | .set key entry =>
    let (result, memory) := c.memory.set c.now key entry
    (.wrote result, { c with memory })
  | .peek key => (.found (c.memory.peek c.now key), c)
  | .expireStale =>
    let (count, memory) := c.memory.expireStale c.now
    (.expired count, { c with memory })

def turn (c : ClockedMemory) (t : Turn) : Event × ClockedMemory :=
  let (answer, c) := (c.pass t.nanos).run t.call
  (⟨t.call, answer⟩, c)

def after (c : ClockedMemory) : List Turn → ClockedMemory
  | [] => c
  | t :: rest => (c.turn t).2.after rest

def Call.setsUnder (key : CacheKey) : Call → Bool
  | set k _ => k == key
  | _ => false

def history (c : ClockedMemory) : List Turn → List Event
  | [] => []
  | t :: rest => (c.turn t).1 :: (c.turn t).2.history rest

lemma after_preserves {P : ClockedMemory → Prop} (hturn : ∀ c t, P c → P (c.turn t).2)
    {c : ClockedMemory} (hc : P c) (turns : List Turn) : P (c.after turns) := by
  induction turns generalizing c with
  | nil => exact hc
  | cons first rest ih => exact ih (hturn c first hc)

lemma now_turn (c : ClockedMemory) (t : Turn) : (c.turn t).2.now = c.now + t.nanos := by
  obtain ⟨nanos, call⟩ := t
  cases call <;> rfl

lemma mem_held_turn {c : ClockedMemory} {t : Turn} {h : Held}
    (hmem : h ∈ (c.turn t).2.memory.held) :
    (t.call.setsUnder h.key = false ∧ h ∈ c.memory.held) ∨
      (h.storedAt = c.now + t.nanos ∧ (c.turn t).1 = ⟨.set h.key h.entry, .wrote (.ok ())⟩) := by
  obtain ⟨nanos, call⟩ := t
  cases call with
  | get key => exact Or.inl ⟨rfl, MemoryStore.mem_held_of_get hmem⟩
  | set key entry =>
    rcases MemoryStore.mem_held_of_set hmem with ⟨rfl, hok⟩ | ⟨hold, hkey⟩
    · exact Or.inr ⟨rfl, congrArg (fun result => Event.mk (.set key entry) (.wrote result)) hok⟩
    · exact Or.inl ⟨beq_false_of_ne (Ne.symm hkey), hold⟩
  | peek key => exact Or.inl ⟨rfl, hmem⟩
  | expireStale => exact Or.inl ⟨rfl, MemoryStore.mem_held_of_expireAll hmem⟩

lemma turn_reads {c : ClockedMemory} {nanos : Nat} {key : CacheKey} {found : Option Entry}
    {memory : MemoryStore} (hget : c.memory.get (c.now + nanos) key = (found, memory)) :
    c.turn ⟨nanos, .get key⟩ = (⟨.get key, .found found⟩, ⟨memory, c.now + nanos⟩) ∧
      c.turn ⟨nanos, .peek key⟩ = (⟨.peek key, .found found⟩, ⟨c.memory, c.now + nanos⟩) := by
  have hpeek : c.memory.peek (c.now + nanos) key = found := by
    rw [← MemoryStore.get_eq_peek, hget]
  simp only [turn, run, pass, hget, hpeek, and_self]

lemma turn_writes {c : ClockedMemory} {nanos : Nat} {key : CacheKey} {entry : Entry}
    {result : Except StoreError Unit} {memory : MemoryStore}
    (hset : c.memory.set (c.now + nanos) key entry = (result, memory)) :
    c.turn ⟨nanos, .set key entry⟩ =
      (⟨.set key entry, .wrote result⟩, ⟨memory, c.now + nanos⟩) := by
  simp only [turn, run, pass, hset]

lemma turn_sweeps {c : ClockedMemory} {nanos count : Nat} {memory : MemoryStore}
    (hsweep : c.memory.expireStale (c.now + nanos) = (count, memory)) :
    c.turn ⟨nanos, .expireStale⟩ = (⟨.expireStale, .expired count⟩, ⟨memory, c.now + nanos⟩) := by
  simp only [turn, run, pass, hsweep]

lemma config_turn (c : ClockedMemory) (t : Turn) :
    (c.turn t).2.memory.config = c.memory.config := by
  obtain ⟨nanos, call⟩ := t
  cases call with
  | get key => exact MemoryStore.config_get _ _ key
  | set key entry => exact MemoryStore.config_set _ _ key entry
  | peek key => rfl
  | expireStale => exact MemoryStore.config_expireAll _ _

lemma config_after (c : ClockedMemory) (turns : List Turn) :
    (c.after turns).memory.config = c.memory.config :=
  after_preserves (P := fun d => d.memory.config = c.memory.config)
    (fun d t hd => (config_turn d t).trans hd) rfl turns

lemma ttlNanos_after {config : StoreConfig} (httl : config.ttlMs = none) (turns : List Turn) :
    ((new config).after turns).memory.config.ttlNanos = none := by
  rw [config_after]
  exact congrArg (Option.map _) httl

lemma after_concat (c : ClockedMemory) (turns : List Turn) (t : Turn) :
    c.after (turns ++ [t]) = ((c.after turns).turn t).2 := by
  induction turns generalizing c with
  | nil => rfl
  | cons first rest ih => exact ih (c.turn first).2

lemma history_concat (c : ClockedMemory) (turns : List Turn) (t : Turn) :
    c.history (turns ++ [t]) = c.history turns ++ [((c.after turns).turn t).1] := by
  induction turns generalizing c with
  | nil => rfl
  | cons first rest ih => exact congrArg ((c.turn first).1 :: ·) (ih (c.turn first).2)

end AnswerCache.ClockedMemory
