import AnswerCache.Proofs.Execution.Current
import AnswerCache.Proofs.Policy.Memory

/-!
Executions over one registry and one policy whose phases come in any order between the events that
change segments: a lookup, the answer of the backend, and the write behind it.
-/

namespace AnswerCache.Interleaving

open Canonicalizer (standard)

/-- An execution that the cache had no answer for, with the registry that its lookup met, and the
one that the backend answered from once it has. -/
structure Flight where
  query : Query
  lookedAt : Registry
  ticket : Option Ticket
  answeredFrom : Option Registry

structure World where
  registry : Registry
  policy : PolicyState ClockedMemory
  flights : List Flight

inductive Action
  | segments (event : SegmentEvent)
  | pass (nanos : Nat)
  | lookup (q : Query)
  | ask (i : Nat)
  | write (i : Nat)

/-- An answer that was stored, with the registry that its signature is of. -/
structure Deposit where
  query : Query
  answeredFrom : Registry
  signedFrom : Registry

inductive Event
  | stored (d : Deposit)
  | served (q : Query) (registry : Registry) (value : Json)

def World.new (config : StoreConfig) : World :=
  ⟨.empty, .new (.new config), []⟩

def Flight.signedFrom (f : Flight) (current : Registry) : Registry :=
  if f.ticket.any fun t => t.signature.isSome then f.lookedAt else current

def Flight.answered (f : Flight) (current : Registry) : Flight :=
  { f with answeredFrom := some (f.answeredFrom.getD current) }

def policyOf (config : CacheConfig) : Policy ClockedMemory :=
  .overMemory config standard

def World.lookup (config : CacheConfig) (w : World) (q : Query) :
    Lookup × PolicyState ClockedMemory :=
  (policyOf config).lookup w.registry.signatureFor w.policy q

def World.write (config : CacheConfig) (volatileFrom : Option Instant) (w : World) (f : Flight)
    (answeredFrom : Registry) : WriteOutcome × PolicyState ClockedMemory :=
  (answeredFrom.leftBehind volatileFrom f.query f.ticket).run (policyOf config)
    w.registry.signatureFor w.policy

def World.writeEvent (config : CacheConfig) (volatileFrom : Option Instant) (w : World)
    (f : Flight) (answeredFrom : Registry) : Option Event :=
  if (w.write config volatileFrom f answeredFrom).1.isStored then
    some (.stored ⟨f.query, answeredFrom, f.signedFrom w.registry⟩)
  else none

def step (config : CacheConfig) (volatileFrom : Option Instant) (w : World) :
    Action → World × Option Event
  | .segments event => ({ w with registry := w.registry.apply event }, none)
  | .pass nanos =>
    ({ w with policy := { w.policy with store := w.policy.store.pass nanos } }, none)
  | .lookup q =>
    let (lookup, policy) := w.lookup config q
    match lookup.value with
    | some value => ({ w with policy }, some (.served q w.registry value))
    | none =>
      ({ w with policy, flights := w.flights ++ [⟨q, w.registry, lookup.ticket, none⟩] }, none)
  | .ask i =>
    match w.flights[i]? with
    | some f => ({ w with flights := w.flights.set i (f.answered w.registry) }, none)
    | none => (w, none)
  | .write i =>
    match w.flights[i]? with
    | some f =>
      match f.answeredFrom with
      | some answeredFrom =>
        ({ w with
            policy := (w.write config volatileFrom f answeredFrom).2
            flights := w.flights.eraseIdx i },
          w.writeEvent config volatileFrom f answeredFrom)
      | none => (w, none)
    | none => (w, none)

def history (config : CacheConfig) (volatileFrom : Option Instant) (w : World) :
    List Action → List Event
  | [] => []
  | first :: rest =>
    let (w, event) := step config volatileFrom w first
    event.toList ++ history config volatileFrom w rest

structure Flight.Sound (f : Flight) : Prop where
  filed : f.lookedAt.Filed
  ticket : ∀ t, f.ticket = some t → standard.keyOf f.query = .ok t.key ∧
    (t.signature = none ∨ t.signature = some (f.lookedAt.signatureFor f.query))

def LastStored (past : List Event) (key : CacheKey) (d : Deposit) : Prop :=
  ∃ before after, past = before ++ .stored d :: after ∧ standard.keyOf d.query = .ok key ∧
    ∀ e, .stored e ∈ after → standard.keyOf e.query ≠ .ok key

structure Deposit.Backs (d : Deposit) (entry : Entry) : Prop where
  filed : d.signedFrom.Filed
  signature : entry.signature = d.signedFrom.signatureFor d.query
  value : Json.parse? entry.value = some (d.answeredFrom.payload d.query)

def Backed (past : List Event) (k : Held) : Prop :=
  ∃ d, LastStored past k.key d ∧ d.Backs k.entry

structure Sound (past : List Event) (w : World) : Prop where
  filed : w.registry.Filed
  flights : ∀ f ∈ w.flights, f.Sound
  backed : ∀ k ∈ w.policy.store.memory.held, Backed past k

lemma sound_new (config : StoreConfig) : Sound [] (World.new config) := by
  refine ⟨Registry.filed_empty, fun f hf => ?_, fun k hk => ?_⟩
  · simp [World.new] at hf
  · simp [World.new, PolicyState.new, ClockedMemory.new, MemoryStore.new] at hk

section Step

variable {config : CacheConfig} {volatileFrom : Option Instant} {past : List Event} {w : World}

lemma LastStored.mem {key : CacheKey} {d : Deposit} (h : LastStored past key d) :
    .stored d ∈ past := by
  obtain ⟨before, after, rfl, -⟩ := h
  exact List.mem_append_right before (List.mem_cons_self)

lemma LastStored.keyOf {key : CacheKey} {d : Deposit} (h : LastStored past key d) :
    standard.keyOf d.query = .ok key := by
  obtain ⟨before, after, -, hd, -⟩ := h
  exact hd

lemma LastStored.last {key : CacheKey} {d : Deposit} (hd : standard.keyOf d.query = .ok key) :
    LastStored (past ++ [.stored d]) key d :=
  ⟨past, [], rfl, hd, fun e he => by simp at he⟩

lemma LastStored.append {key : CacheKey} {d : Deposit} (h : LastStored past key d)
    {event : Option Event}
    (hevent : ∀ e, event = some (.stored e) → standard.keyOf e.query ≠ .ok key) :
    LastStored (past ++ event.toList) key d := by
  obtain ⟨before, after, rfl, hd, hafter⟩ := h
  refine ⟨before, after ++ event.toList, by simp, hd, fun e he => ?_⟩
  rcases List.mem_append.mp he with he | he
  · exact hafter e he
  · exact hevent e (Option.mem_toList.mp he)

lemma Backed.append {k : Held} (h : Backed past k) {event : Option Event}
    (hevent : ∀ e, event = some (.stored e) → standard.keyOf e.query ≠ .ok k.key) :
    Backed (past ++ event.toList) k := by
  obtain ⟨d, hd, hbacks⟩ := h
  exact ⟨d, hd.append hevent, hbacks⟩

lemma Sound.flight_of_lookup (hw : Sound past w) (q : Query) :
    Flight.Sound ⟨q, w.registry, (w.lookup config q).1.ticket, none⟩ :=
  ⟨hw.filed, fun _ ht => Policy.lookup_ticket (policyOf config) _ _ ht⟩

lemma Sound.backed_of_lookup (hw : Sound past w) (q : Query) :
    ∀ k ∈ (w.lookup config q).2.store.memory.held, Backed past k :=
  fun k hk => hw.backed k (Policy.mem_held_of_lookup hk)

lemma Flight.Sound.signedFrom_filed {f : Flight} (hf : f.Sound) {current : Registry}
    (hcurrent : current.Filed) : (f.signedFrom current).Filed := by
  rw [Flight.signedFrom]
  split
  · exact hf.filed
  · exact hcurrent

lemma Flight.Sound.signatureFor_leftBehind {f : Flight} (hf : f.Sound)
    (answeredFrom current : Registry) :
    (answeredFrom.leftBehind volatileFrom f.query f.ticket).signatureFor current.signatureFor =
      (f.signedFrom current).signatureFor f.query := by
  rw [PendingWrite.signatureFor, Flight.signedFrom, Registry.leftBehind]
  cases hticket : f.ticket with
  | none => rfl
  | some t =>
    rcases (hf.ticket t hticket).2 with h | h
    · simp [Ticket.signatureFor, h]
    · simp [Ticket.signatureFor, h]

lemma Sound.backed_of_write (hw : Sound past w) {f : Flight} (hf : f.Sound)
    (answeredFrom : Registry) :
    ∀ k ∈ (w.write config volatileFrom f answeredFrom).2.store.memory.held,
      Backed (past ++ (w.writeEvent config volatileFrom f answeredFrom).toList) k := by
  intro k hk
  rw [World.writeEvent]
  rw [World.write] at hk ⊢
  rcases Policy.run_cases (policyOf config) w.registry.signatureFor w.policy
      (answeredFrom.leftBehind volatileFrom f.query f.ticket) (fun t ht => (hf.ticket t ht).1) with
    ⟨hstore, hwithheld⟩ | ⟨key, entry, hkey, hadmitted, hsignature, hput⟩
  · rw [hstore] at hk
    rw [hwithheld]
    exact (hw.backed k hk).append fun e he => by simp at he
  · rw [hf.signatureFor_leftBehind] at hsignature
    rw [hput] at hk ⊢
    -- the entry under the key is the new one, and every other key keeps the deposit it had
    rcases Policy.mem_held_of_put hk with ⟨rfl, rfl, hstored⟩ | ⟨hold, hother⟩
    · rw [policyOf, if_pos hstored]
      exact ⟨_, .last hkey, hf.signedFrom_filed hw.filed, hsignature, hadmitted.parse?_value⟩
    · refine (hw.backed k hold).append fun e he => ?_
      split at he
      · obtain rfl := Event.stored.inj (Option.some.inj he)
        exact fun h => hother (Except.ok.inj (h.symm.trans hkey))
      · contradiction

variable (config volatileFrom) in
lemma Sound.step (hw : Sound past w) (a : Action) :
    Sound (past ++ (step config volatileFrom w a).2.toList) (step config volatileFrom w a).1 := by
  have hflights : ∀ i (f : Flight), w.flights[i]? = some f → f.Sound :=
    fun i f hf => hw.flights f (List.mem_of_getElem? hf)
  cases a with
  | segments event =>
    simp only [Interleaving.step, Option.toList_none, List.append_nil]
    exact ⟨hw.filed.apply event, hw.flights, hw.backed⟩
  | pass nanos =>
    simp only [Interleaving.step, Option.toList_none, List.append_nil]
    exact ⟨hw.filed, hw.flights, hw.backed⟩
  | lookup q =>
    simp only [Interleaving.step]
    split
    · refine ⟨hw.filed, hw.flights, fun k hk => ?_⟩
      exact (hw.backed_of_lookup q k hk).append fun e he => by simp at he
    · rw [Option.toList_none, List.append_nil]
      refine ⟨hw.filed, fun f hf => ?_, hw.backed_of_lookup q⟩
      rcases List.mem_append.mp hf with hf | hf
      · exact hw.flights f hf
      · rw [List.mem_singleton.mp hf]
        exact hw.flight_of_lookup q
  | ask i =>
    simp only [Interleaving.step]
    split
    · rename_i f hf
      rw [Option.toList_none, List.append_nil]
      refine ⟨hw.filed, fun g hg => ?_, hw.backed⟩
      rcases List.mem_or_eq_of_mem_set hg with hg | rfl
      · exact hw.flights g hg
      · exact ⟨(hflights i f hf).filed, (hflights i f hf).ticket⟩
    · rwa [Option.toList_none, List.append_nil]
  | write i =>
    simp only [Interleaving.step]
    split
    · rename_i f hf
      split
      · rename_i answeredFrom hanswered
        exact ⟨hw.filed, fun g hg => hw.flights g (List.mem_of_mem_eraseIdx hg),
          hw.backed_of_write (hflights i f hf) answeredFrom⟩
      · rwa [Option.toList_none, List.append_nil]
    · rwa [Option.toList_none, List.append_nil]

lemma value_of_served {a : Action} {q : Query} {registry : Registry} {value : Json}
    (h : (Interleaving.step config volatileFrom w a).2 = some (.served q registry value)) :
    w.registry = registry ∧ (w.lookup config q).1.value = some value := by
  cases a with
  | segments event => contradiction
  | pass nanos => contradiction
  | lookup u =>
    simp only [Interleaving.step] at h
    split at h
    · rename_i found hfound
      obtain ⟨rfl, rfl, rfl⟩ := Event.served.inj (Option.some.inj h)
      exact ⟨rfl, hfound⟩
    · contradiction
  | ask i =>
    simp only [Interleaving.step] at h
    split at h <;> contradiction
  | write i =>
    simp only [Interleaving.step] at h
    split at h
    · split at h
      · rw [World.writeEvent] at h
        split at h
        · exact Event.noConfusion (Option.some.inj h)
        · contradiction
      · contradiction
    · contradiction

lemma Sound.deposit_of_value (hw : Sound past w) {q : Query} {value : Json}
    (h : (w.lookup config q).1.value = some value) :
    ∃ d key signature, LastStored past key d ∧ standard.keyOf q = .ok key ∧ d.signedFrom.Filed ∧
      d.signedFrom.signatureFor d.query = some signature ∧
      w.registry.signatureFor q = some signature ∧ value = d.answeredFrom.payload d.query := by
  obtain ⟨k, signature, hk, hkey, hservice, hsignature, hvalue⟩ := Policy.held_of_value h
  obtain ⟨d, hd, hbacks⟩ := hw.backed k hk
  exact ⟨d, k.key, signature, hd, hkey, hbacks.filed, hbacks.signature.symm.trans hsignature,
    hservice, Option.some.inj (hvalue.symm.trans hbacks.value)⟩

end Step

section History

variable (config : CacheConfig) (volatileFrom : Option Instant)

lemma sound_of_history (actions : List Action) {before : List Event} {w : World}
    (hw : Sound before w) {past future : List Event} {e : Event}
    (h : history config volatileFrom w actions = past ++ e :: future) :
    ∃ (met : World) (a : Action), Sound (before ++ past) met ∧
      (step config volatileFrom met a).2 = some e := by
  induction actions generalizing before w past with
  | nil => simp [history] at h
  | cons first rest ih =>
    have hnext := hw.step config volatileFrom first
    rw [history] at h
    cases hevent : (step config volatileFrom w first).2 with
    | none =>
      simp only [hevent, Option.toList_none, List.nil_append, List.append_nil] at h hnext
      exact ih hnext h
    | some event =>
      simp only [hevent, Option.toList_some, List.singleton_append] at h hnext
      cases past with
      | nil =>
        obtain ⟨rfl, -⟩ := List.cons.inj h
        exact ⟨w, first, by rwa [List.append_nil], hevent⟩
      | cons other past =>
        obtain ⟨rfl, hrest⟩ := List.cons.inj h
        rw [List.append_cons]
        exact ih hnext hrest

end History

end AnswerCache.Interleaving
