import AnswerCache.Proofs.Json.RoundTrip
import AnswerCache.Proofs.Policy.Provenance
import AnswerCache.Proofs.Query.Identity

/-!
Reading right after a write that was stored: the payload comes back, but for payloads that are
nested more deeply than the reader of stored texts goes.
-/

namespace AnswerCache

inductive Canonicalizer.Configured : Canonicalizer → Prop
  | standard : Configured .standard
  | omitting {c : Canonicalizer} (h : Configured c) (field : String) : Configured (c.omitting field)
  | withMaxDepth {c : Canonicalizer} (h : Configured c) (levels : Nat) :
    Configured (c.withMaxDepth levels)

lemma Canonicalizer.Configured.omits_context {c : Canonicalizer} (h : c.Configured) :
    c.omitted.contains contextField = true := by
  induction h with
  | standard => rfl
  | omitting _ field ih => exact (Dictionary.contains_insert _ field contextField ()).mpr (.inr ih)
  | withMaxDepth _ _ ih => exact ih

namespace Policy

variable {config : CacheConfig} {c : Canonicalizer} {service : SignatureService}
  {s : PolicyState ClockedMemory}

lemma get_of_write_stored {payload : Json} {q : Query} {v : Verdict}
    {signature : Option Signature} {length : Nat} {t : PolicyState ClockedMemory}
    (h : (overMemory config c).write service s payload q v = (.stored signature length, t))
    (httl : s.store.memory.config.ttlNanos = none) (nanos : Nat) :
    config.enabled = true ∧ ∃ key, c.keyOf q = .ok key ∧
      (ClockedMemory.store.get (t.store.pass nanos) key).1 =
        .ok (some ⟨signature, payload.compactText⟩) := by
  rcases (overMemory config c).write_cases service s payload q v with
    ⟨-, hwithheld⟩ | ⟨key, entry, hkey, hadmitted, hsignature, hput⟩
  · rw [h] at hwithheld
    contradiction
  · have houtcome : ((overMemory config c).put s key entry).1 = .stored signature length := by
      rw [← hput, h]
    obtain ⟨hset, rfl, -⟩ := (put_stored _ s).mp houtcome
    have hstore : t.store = (ClockedMemory.store.set s.store key entry).2 := by
      have hput_store := put_store (overMemory config c) s key entry
      rwa [← hput, h] at hput_store
    refine ⟨hadmitted.enabled, key, hkey, ?_⟩
    -- without a time to live it does not matter how much later it is
    have hlive : ((s.store.memory.set s.store.now key entry).2.isExpired
        (t.store.pass nanos).now ⟨key, entry, s.store.now⟩) = false := by
      apply MemoryStore.isExpired_of_ttl
      rw [MemoryStore.config_set, httl]
    have hget := MemoryStore.get_set hset (t.store.pass nanos).now
    rw [hlive] at hget
    rw [hstore] at hget ⊢
    rw [← hadmitted.value]
    exact congrArg Except.ok hget

lemma read_of_write_stored (hc : c.Configured) {payload : Json} {q : Query} {v : Verdict}
    {signature : Signature} {length : Nat} {t : PolicyState ClockedMemory}
    (h : (overMemory config c).write service s payload q v = (.stored (some signature) length, t))
    (httl : s.store.memory.config.ttlNanos = none) {after : SignatureService} {context : Context}
    (hcurrent : after (q.withContext context) = some signature) (nanos : Nat) :
    ((overMemory config c).read after { t with store := t.store.pass nanos }
      (q.withContext context)).1 = Json.parse? payload.compactText := by
  obtain ⟨henabled, key, hkey, hget⟩ := get_of_write_stored h httl nanos
  have hsame : c.keyOf (q.withContext context) = .ok key := by
    rw [Canonicalizer.keyOf_withContext_of_omitted hc.omits_context, hkey]
  have hvalue := lookup_value_of_entry (overMemory config c) after
    { t with store := t.store.pass nanos } henabled hsame hget hcurrent rfl
  exact hvalue

/-- After a write that was stored, a read under the same signature, of the same query but for its
context, gives the payload back exactly when the payload is not nested too deeply. -/
theorem read_after_write (config : CacheConfig) {c : Canonicalizer} (hc : c.Configured)
    {s t : PolicyState ClockedMemory} (httl : s.store.memory.config.ttlNanos = none)
    {payload : Json} (hformed : payload.WellFormed)
    (hdoubles : ∀ x, .double x ∈ payload.numbers → (Json.Number.double x).ReadsBack)
    {q : Query} {v : Verdict} {before : SignatureService} {signature : Signature} {length : Nat}
    (hwrite : (overMemory config c).write before s payload q v =
      (.stored (some signature) length, t))
    {after : SignatureService} {context : Context}
    (hcurrent : after (q.withContext context) = some signature) (nanos : Nat) :
    ((overMemory config c).read after { t with store := t.store.pass nanos }
      (q.withContext context)).1 =
      if payload.nesting ≤ Json.maxLevels then some payload else none := by
  rw [← Json.parse?_compactText hformed hdoubles]
  exact read_of_write_stored hc hwrite httl hcurrent nanos

def boxed (inner : Json) : Nat → Json
  | 0 => inner
  | levels + 1 => .array [boxed inner levels]

lemma boxed_cases (inner : Json) (levels : Nat) :
    ((boxed inner levels).WellFormed ↔ inner.WellFormed) ∧
      (boxed inner levels).numbers = inner.numbers ∧
      (boxed inner levels).nesting = inner.nesting + levels := by
  induction levels with
  | zero => exact ⟨Iff.rfl, rfl, rfl⟩
  | succ levels ih =>
    obtain ⟨hformed, hnumbers, hnesting⟩ := ih
    refine ⟨(and_iff_left trivial).trans hformed, (List.append_nil _).trans hnumbers, ?_⟩
    rw [boxed, Json.nesting, Json.nestingOfItems, Json.nestingOfItems, hnesting, Nat.max_zero]
    rfl

def oneAndHalf : Binary64.Finite :=
  ⟨false, 3 * Nat.pow 2 51, 1022, by decide⟩

def writeBoxed (inner : Json) (levels : Nat) : WriteOutcome × PolicyState ClockedMemory :=
  (overMemory {} .standard).write (everySignature ⟨1⟩) (.new (.new {})) (boxed inner levels)
    anyQuery ⟨false, false⟩

theorem deepest_payload_is_read_back :
    (writeBoxed (.number (.double oneAndHalf)) 127).1 = .stored (some ⟨1⟩) 257 ∧
    ((overMemory {} .standard).read (everySignature ⟨1⟩)
      { (writeBoxed (.number (.double oneAndHalf)) 127).2 with
        store := (writeBoxed (.number (.double oneAndHalf)) 127).2.store.pass 0 }
      (anyQuery.withContext .empty)).1 = some (boxed (.number (.double oneAndHalf)) 127) := by
  let payload := boxed (.number (.double oneAndHalf)) 127
  obtain ⟨hformed, hnumbers, hnesting⟩ := boxed_cases (.number (.double oneAndHalf)) 127
  have hwrite : (writeBoxed (.number (.double oneAndHalf)) 127).1 = .stored (some ⟨1⟩) 257 := by
    decide +kernel
  have hpair : writeBoxed (.number (.double oneAndHalf)) 127 =
      (.stored (some ⟨1⟩) 257, (writeBoxed (.number (.double oneAndHalf)) 127).2) := by
    rw [← hwrite]
  have hdoubles : ∀ x, .double x ∈ payload.numbers → (Json.Number.double x).ReadsBack := by
    intro x hx
    rw [hnumbers] at hx
    rw [List.mem_singleton.mp hx]
    decide +kernel
  have hcurrent : everySignature ⟨1⟩ (anyQuery.withContext .empty) = some ⟨1⟩ := rfl
  have hread := read_after_write {} .standard rfl (hformed.mpr trivial) hdoubles hpair hcurrent 0
  rw [hnesting, if_pos (by decide)] at hread
  exact ⟨hwrite, hread⟩

theorem deeper_payload_is_lost :
    (boxed .null 128).WellFormed ∧ (∀ x, .double x ∉ (boxed .null 128).numbers) ∧
    (writeBoxed .null 128).1 = .stored (some ⟨1⟩) 260 ∧
    ((overMemory {} .standard).read (everySignature ⟨1⟩)
      { (writeBoxed .null 128).2 with store := (writeBoxed .null 128).2.store.pass 0 }
      (anyQuery.withContext .empty)).1 ≠ some (boxed .null 128) := by
  obtain ⟨hformed, hnumbers, hnesting⟩ := boxed_cases .null 128
  have hnone : ∀ x, .double x ∉ (boxed .null 128).numbers := by
    intro x
    rw [hnumbers]
    exact List.not_mem_nil
  have hwrite : (writeBoxed .null 128).1 = .stored (some ⟨1⟩) 260 := by
    decide +kernel
  have hpair : writeBoxed .null 128 = (.stored (some ⟨1⟩) 260, (writeBoxed .null 128).2) := by
    rw [← hwrite]
  have hcurrent : everySignature ⟨1⟩ (anyQuery.withContext .empty) = some ⟨1⟩ := rfl
  have hread := read_of_write_stored .standard hpair rfl hcurrent 0
  have htext := Json.parse?_compactText (hformed.mpr trivial) fun x hx => absurd hx (hnone x)
  rw [hnesting, if_neg (by decide)] at htext
  refine ⟨hformed.mpr trivial, hnone, hwrite, ?_⟩
  rw [hread, htext]
  exact (Option.some_ne_none _).symm

end Policy

end AnswerCache
