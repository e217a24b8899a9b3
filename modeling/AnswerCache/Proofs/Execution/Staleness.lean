import AnswerCache.Proofs.Execution.Interleaving

/-!
When an answer from the cache is stale: its signature was taken at another moment than the answer,
and the segments that it reads changed in between.
-/

namespace AnswerCache.Interleaving

open Canonicalizer (standard)

def Event.hashed : Event → List String
  | stored d => (d.signedFrom.signedText? d.query).toList
  | served q registry _ => (registry.signedText? q).toList

/-- A value that is served is the answer to its query from the current registry exactly when the
registry that the backend answered from, and the one that the signature beside it is of, gave the
same answer. -/
theorem served_is_current_iff (config : CacheConfig) (volatileFrom : Option Instant)
    (actions : List Action) (past future : List Event) (q : Query) (registry : Registry)
    (value : Json)
    (hrun : history config volatileFrom (.new config.store) actions =
      past ++ .served q registry value :: future)
    (hfree : CollisionFree ((past ++ [Event.served q registry value]).flatMap Event.hashed)) :
    ∃ d key, LastStored past key d ∧ standard.keyOf q = .ok key ∧
      value = d.answeredFrom.payload d.query ∧
      (value = registry.payload q ↔
        d.answeredFrom.payload d.query = d.signedFrom.payload d.query) := by
  obtain ⟨met, a, hmet, hevent⟩ :=
    sound_of_history config volatileFrom actions (sound_new config.store) hrun
  obtain ⟨rfl, hvalue⟩ := value_of_served hevent
  obtain ⟨d, key, signature, hd, hkey, hfiled, hsigned, hservice, hpayload⟩ :=
    hmet.deposit_of_value hvalue
  have hdtexts : ∀ t, d.signedFrom.signedText? d.query = some t →
      t ∈ (past ++ [Event.served q met.registry value]).flatMap Event.hashed := fun t ht =>
    List.mem_flatMap_of_mem (List.mem_append_left _ hd.mem) (Option.mem_toList.mpr ht)
  have htexts : ∀ t, met.registry.signedText? q = some t →
      t ∈ (past ++ [Event.served q met.registry value]).flatMap Event.hashed := fun t ht =>
    List.mem_flatMap_of_mem (List.mem_append_right _ (List.mem_singleton_self _))
      (Option.mem_toList.mpr ht)
  have hcurrent : d.signedFrom.payload d.query = met.registry.payload q :=
    congrArg BackendAnswer.payload (Registry.answer_eq_of_signature hfree hfiled hmet.filed
      hd.keyOf hkey hsigned hservice hdtexts htexts none)
  exact ⟨d, key, hd, hkey, hpayload, by rw [← hcurrent, hpayload]⟩

def Event.differs : Event → Option Bool
  | served q registry value => some (value.compactText != (registry.payload q).compactText)
  | stored _ => none

lemma served_of_getLast {events : List Event} {b : Bool}
    (h : events.getLast?.bind Event.differs = some b) :
    ∃ past q registry value, events = past ++ [.served q registry value] ∧
      (value.compactText != (registry.payload q).compactText) = b := by
  obtain ⟨e, hlast, he⟩ := Option.bind_eq_some_iff.mp h
  obtain ⟨past, hpast⟩ := List.getLast?_eq_some_iff.mp hlast
  cases e with
  | stored d => contradiction
  | served q registry value => exact ⟨past, q, registry, value, hpast, Option.some.inj he⟩

def load (version : String) : Action :=
  .segments (.loaded (.ofFirstSecond version))

def replace (old new : String) : List Action :=
  [.segments (.dropped (.ofFirstSecond old)), load new]

def undisturbed : List Action :=
  [load "v1", .lookup .overFirstSecond, .ask 0, .write 0, .lookup .overFirstSecond]

theorem undisturbed_is_current :
    ∃ past q registry value d key, history {} none (.new {}) undisturbed =
        past ++ [.served q registry value] ∧ LastStored past key d ∧
      (value = registry.payload q ↔
        d.answeredFrom.payload d.query = d.signedFrom.payload d.query) := by
  have h : (history {} none (.new {}) undisturbed).getLast?.bind Event.differs = some false ∧
      CollisionFree ((history {} none (.new {}) undisturbed).flatMap Event.hashed) := by
    decide +kernel
  obtain ⟨hlast, hfree⟩ := h
  obtain ⟨past, q, registry, value, hrun, -⟩ := served_of_getLast hlast
  rw [hrun] at hfree
  obtain ⟨d, key, hd, -, -, hiff⟩ :=
    served_is_current_iff {} none undisturbed past [] q registry value hrun hfree
  exact ⟨past, q, registry, value, d, key, hrun, hd, hiff⟩

def EndsStale (actions : List Action) : Prop :=
  ∃ past q registry value,
    history {} none (.new {}) actions = past ++ [.served q registry value] ∧
      CollisionFree ((past ++ [Event.served q registry value]).flatMap Event.hashed) ∧
      value ≠ registry.payload q

lemma endsStale_of_differs {actions : List Action}
    (h : (history {} none (.new {}) actions).getLast?.bind Event.differs = some true ∧
      CollisionFree ((history {} none (.new {}) actions).flatMap Event.hashed)) :
    EndsStale actions := by
  obtain ⟨hlast, hfree⟩ := h
  obtain ⟨past, q, registry, value, hrun, hdiffers⟩ := served_of_getLast hlast
  refine ⟨past, q, registry, value, hrun, hrun ▸ hfree, fun hsame => ?_⟩
  rw [hsame, bne_self_eq_false] at hdiffers
  contradiction

def signedLate : List Action :=
  [load "v1", .lookup .overFirstSecond, .ask 0] ++ replace "v1" "v2" ++
    [.write 0, .lookup .overFirstSecond]

def signedEarly : List Action :=
  [load "v1", .lookup .overFirstSecond, .ask 0, .write 0] ++ replace "v1" "v2" ++
    [.lookup .overFirstSecond] ++ replace "v2" "v3" ++ [.ask 0, .write 0] ++ replace "v3" "v2" ++
    [.lookup .overFirstSecond]

theorem stale_value_is_served : EndsStale signedLate ∧ EndsStale signedEarly := by
  constructor
  · exact endsStale_of_differs (by decide +kernel)
  · exact endsStale_of_differs (by decide +kernel)

end AnswerCache.Interleaving
