import AnswerCache.Proofs.Policy.History
import AnswerCache.Proofs.Policy.Memory
import AnswerCache.Query.Validate

/-!
Every answer from the cache was put there by an earlier write under the same key and the same
signature, and that write is the last one that reached the store under the key.
-/

namespace AnswerCache.Policy

structure Turn where
  nanos : Nat
  service : SignatureService
  call : Call

def turn (p : Policy ClockedMemory) (s : PolicyState ClockedMemory) (t : Turn) :
    Event × PolicyState ClockedMemory :=
  p.watch t.service { s with store := s.store.pass t.nanos } t.call

def history (p : Policy ClockedMemory) (s : PolicyState ClockedMemory) : List Turn → List Event
  | [] => []
  | t :: rest => (p.turn s t).1 :: p.history (p.turn s t).2 rest

lemma turn_call (p : Policy ClockedMemory) (s : PolicyState ClockedMemory) (t : Turn) :
    (p.turn s t).1.call = t.call := rfl

lemma turn_lookup (p : Policy ClockedMemory) (s : PolicyState ClockedMemory) {t : Turn} {q : Query}
    (ht : t.call = .lookup q) : (p.turn s t).1.answer =
      .looked (p.lookup t.service { s with store := s.store.pass t.nanos } q).1 := by
  rw [turn, ht, watch_lookup]

/-- The last write that reached the store under a key was taken, and left this entry. -/
def LastWritten (past : List Event) (key : CacheKey) (entry : Entry) : Prop :=
  ∃ before w after payload, past = before ++ w :: after ∧ w.call.payload? = some payload ∧
    entry.value = payload.compactText ∧
    w.answer = .wrote (.stored entry.signature entry.value.utf8ByteSize) ∧
    w.sets = [⟨key, entry, .ok ()⟩] ∧ ∀ later ∈ after, ∀ set ∈ later.sets, set.key ≠ key

lemma LastWritten.append {past : List Event} {key : CacheKey} {entry : Entry}
    (h : LastWritten past key entry) {e : Event} (he : ∀ set ∈ e.sets, set.key ≠ key) :
    LastWritten (past ++ [e]) key entry := by
  obtain ⟨before, w, after, payload, rfl, hpayload, hvalue, hanswer, hsets, hafter⟩ := h
  refine ⟨before, w, after ++ [e], payload, by simp, hpayload, hvalue, hanswer, hsets, ?_⟩
  intro later hlater
  rcases List.mem_append.mp hlater with hlater | hlater
  · exact hafter later hlater
  · rw [List.mem_singleton.mp hlater]
    exact he

def Accounted (past : List Event) (c : ClockedMemory) : Prop :=
  ∀ h ∈ c.memory.held, LastWritten past h.key h.entry

lemma accounted_turn (config : CacheConfig) (canonicalizer : Canonicalizer) {past : List Event}
    {s : PolicyState ClockedMemory} (hs : Accounted past s.store) (t : Turn) :
    Accounted (past ++ [((overMemory config canonicalizer).turn s t).1])
      ((overMemory config canonicalizer).turn s t).2.store := by
  intro h hmem
  rcases watch_cases (overMemory config canonicalizer) t.service
      { s with store := s.store.pass t.nanos } t.call with
    ⟨hsets, hstore⟩ | ⟨key, entry, hsets, hstore, ⟨payload, hpayload, hvalue⟩, hanswer⟩
  · have hold : h ∈ s.store.memory.held := by
      rw [turn] at hmem
      rcases hstore with hstore | ⟨key, hstore⟩
      · rwa [hstore] at hmem
      · rw [hstore] at hmem
        exact MemoryStore.mem_held_of_get hmem
    apply (hs h hold).append
    intro set hset
    rw [turn, hsets] at hset
    simp at hset
  · rw [turn, hstore] at hmem
    rcases MemoryStore.mem_held_of_set hmem with ⟨rfl, hok⟩ | ⟨hold, hkey⟩
    · refine ⟨past, _, [], payload, rfl, hpayload, hvalue, hanswer hok, ?_, by simp⟩
      rw [turn, hsets]
      exact congrArg (fun r => [SetCall.mk key entry r]) hok
    · apply (hs h hold).append
      intro set hset
      rw [turn, hsets, List.mem_singleton] at hset
      rw [hset]
      exact hkey.symm

lemma lastWritten_of_value (config : CacheConfig) (canonicalizer : Canonicalizer)
    {past : List Event} {s : PolicyState ClockedMemory} (hs : Accounted past s.store)
    {service : SignatureService} {q : Query} {value : Json}
    (h : ((overMemory config canonicalizer).lookup service s q).1.value = some value) :
    ∃ key entry signature, canonicalizer.keyOf q = .ok key ∧ service q = some signature ∧
      entry.signature = some signature ∧ Json.parse? entry.value = some value ∧
      LastWritten past key entry := by
  obtain ⟨k, signature, hk, hkey, hservice, hsignature, hvalue⟩ := held_of_value h
  exact ⟨k.key, k.entry, signature, hkey, hservice, hsignature, hvalue, hs k hk⟩

lemma served_after (config : CacheConfig) (canonicalizer : Canonicalizer) (turns : List Turn)
    {before : List Event} {s : PolicyState ClockedMemory} (hs : Accounted before s.store)
    {past future : List Event} {e : Event} {q : Query} {value : Json} {ticket : Option Ticket}
    (hrun : (overMemory config canonicalizer).history s turns = past ++ e :: future)
    (hcall : e.call = .lookup q) (hanswer : e.answer = .looked ⟨some value, ticket⟩) :
    ∃ key entry signature, canonicalizer.keyOf q = .ok key ∧ e.service q = some signature ∧
      entry.signature = some signature ∧ Json.parse? entry.value = some value ∧
      LastWritten (before ++ past) key entry := by
  induction turns generalizing before s past with
  | nil => simp [history] at hrun
  | cons t rest ih =>
    rw [history] at hrun
    cases past with
    | nil =>
      obtain ⟨he, -⟩ := List.cons.inj hrun
      rw [List.append_nil]
      subst he
      rw [turn_lookup _ _ hcall] at hanswer
      have hvalue := congrArg Lookup.value (Answer.looked.inj hanswer)
      exact lastWritten_of_value config canonicalizer
        (s := { s with store := s.store.pass t.nanos }) hs hvalue
    | cons first past =>
      obtain ⟨rfl, hrest⟩ := List.cons.inj hrun
      have h := ih (accounted_turn config canonicalizer hs t) hrest
      simpa using h

/-- In every run over a fresh store: a value that is served was written before under the key of the
query and under the signature that is current, and no later write reached the store under that
key. -/
theorem served_value_provenance (config : CacheConfig) (canonicalizer : Canonicalizer)
    (storeConfig : StoreConfig) (turns : List Turn) (past future : List Event) (e : Event)
    (q : Query) (value : Json) (ticket : Option Ticket)
    (hrun : (overMemory config canonicalizer).history (.new (.new storeConfig)) turns =
      past ++ e :: future)
    (hcall : e.call = .lookup q) (hanswer : e.answer = .looked ⟨some value, ticket⟩) :
    ∃ key signature payload length before w after,
      past = before ++ w :: after ∧ canonicalizer.keyOf q = .ok key ∧
      w.call.payload? = some payload ∧ w.answer = .wrote (.stored (some signature) length) ∧
      w.sets = [⟨key, ⟨some signature, payload.compactText⟩, .ok ()⟩] ∧
      Json.parse? payload.compactText = some value ∧ e.service q = some signature ∧
      ∀ later ∈ after, ∀ set ∈ later.sets, set.key ≠ key := by
  have hfresh : Accounted [] (ClockedMemory.new storeConfig) := by
    intro h hmem
    simp [ClockedMemory.new, MemoryStore.new] at hmem
  obtain ⟨key, entry, signature, hkey, hservice, hsignature, hvalue, hlast⟩ :=
    served_after config canonicalizer turns hfresh hrun hcall hanswer
  obtain ⟨before, w, after, payload, hpast, hpayload, htext, hwrote, hsets, hafter⟩ := hlast
  obtain ⟨_, text⟩ := entry
  dsimp only at hsignature htext hvalue
  subst hsignature htext
  exact ⟨key, signature, payload, _, before, w, after, by simpa using hpast, hkey, hpayload, hwrote,
    hsets, hvalue, hservice, hafter⟩

lemma Lookup.eq_mk {l : Lookup} {value : Json} (h : l.value = some value) :
    l = ⟨some value, l.ticket⟩ := by
  obtain ⟨_, _⟩ := l
  subst h
  rfl

lemma history_pair (p : Policy ClockedMemory) (s : PolicyState ClockedMemory) (t u : Turn) :
    p.history s [t, u] = [(p.turn s t).1] ++ (p.turn (p.turn s t).2 u).1 :: [] := rfl

def everySignature (signature : Signature) : SignatureService :=
  fun _ => some signature

def anyQuery : Query :=
  .blank .timeseries (.table "events")

def nullWrite : Turn :=
  ⟨0, everySignature ⟨1⟩, .write .null anyQuery ⟨false, false⟩⟩

def anyLookup : Turn :=
  ⟨0, everySignature ⟨1⟩, .lookup anyQuery⟩

def afterNullWrite : PolicyState ClockedMemory :=
  ((overMemory {} .standard).turn (.new (.new {})) nullWrite).2

theorem written_value_is_served :
    ∃ w e value ticket signature length,
      (overMemory {} .standard).history (.new (.new {})) [nullWrite, anyLookup] = [w, e] ∧
        e.answer = .looked ⟨some value, ticket⟩ ∧
        w.answer = .wrote (.stored (some signature) length) := by
  have hsome : ((overMemory {} .standard).lookup anyLookup.service
      { afterNullWrite with store := afterNullWrite.store.pass anyLookup.nanos }
      anyQuery).1.value.isSome = true := by
    decide +kernel
  obtain ⟨value, hvalue⟩ := Option.isSome_iff_exists.mp hsome
  have hanswer := turn_lookup (overMemory {} .standard) afterNullWrite (t := anyLookup) rfl
  rw [Lookup.eq_mk hvalue, afterNullWrite] at hanswer
  have hrun := history_pair (overMemory {} .standard) (.new (.new {})) nullWrite anyLookup
  obtain ⟨-, signature, -, length, before, w, after, hpast, -, -, hwrote, -⟩ :=
    served_value_provenance {} .standard {} _ _ _ _ _ _ _ hrun (turn_call _ _ _) hanswer
  have hw : w = ((overMemory {} .standard).turn (.new (.new {})) nullWrite).1 := by
    rcases before with _ | ⟨b, before⟩
    · exact (List.cons.inj hpast).1.symm
    · simp at hpast
  exact ⟨_, _, value, _, signature, length, hrun, hanswer, hw ▸ hwrote⟩

end AnswerCache.Policy
