import AnswerCache.Proofs.Policy.Calls

/-!
Runs of a policy, watched at its store: the calls in turn, what each answered, and what each asked
the store to keep.
-/

namespace AnswerCache

structure SetCall where
  key : CacheKey
  entry : Entry
  result : Except StoreError Unit

def Store.recorded {σ : Type} (s : Store σ) : Store (σ × List SetCall) where
  name := s.name
  get state key :=
    let (answer, inner) := s.get state.1 key
    (answer, (inner, state.2))
  set state key entry :=
    let (answer, inner) := s.set state.1 key entry
    (answer, (inner, state.2 ++ [⟨key, entry, answer⟩]))

namespace Policy

def recorded {σ : Type} (p : Policy σ) : Policy (σ × List SetCall) :=
  ⟨p.config, p.canonicalizer, p.store.recorded⟩

inductive Call
  | lookup (q : Query)
  | write (payload : Json) (q : Query) (v : Verdict)
  | writeWithTicket (ticket : Ticket) (payload : Json) (q : Query) (v : Verdict)

inductive Answer
  | looked (l : Lookup)
  | wrote (o : WriteOutcome)

def Call.payload? : Call → Option Json
  | lookup _ => none
  | write payload _ _ => some payload
  | writeWithTicket _ payload _ _ => some payload

section Run

variable {σ : Type}

def run (p : Policy σ) (service : SignatureService) (s : PolicyState σ) :
    Call → Answer × PolicyState σ
  | .lookup q =>
    let (l, s) := p.lookup service s q
    (.looked l, s)
  | .write payload q v =>
    let (o, s) := p.write service s payload q v
    (.wrote o, s)
  | .writeWithTicket ticket payload q v =>
    let (o, s) := p.writeWithTicket service s ticket payload q v
    (.wrote o, s)

structure Event where
  service : SignatureService
  call : Call
  answer : Answer
  sets : List SetCall

def PolicyState.recording (s : PolicyState σ) : PolicyState (σ × List SetCall) :=
  ⟨(s.store, []), s.metrics, s.notices⟩

def PolicyState.unrecorded (s : PolicyState (σ × List SetCall)) : PolicyState σ :=
  ⟨s.store.1, s.metrics, s.notices⟩

def watch (p : Policy σ) (service : SignatureService) (s : PolicyState σ) (c : Call) :
    Event × PolicyState σ :=
  let (answer, t) := p.recorded.run service (PolicyState.recording s) c
  (⟨service, c, answer, t.store.2⟩, PolicyState.unrecorded t)

end Run

section Watched

variable {σ : Type} (p : Policy σ) (service : SignatureService) (t : PolicyState (σ × List SetCall))

lemma unrecorded_judge (q : Query) (key : CacheKey) (entry : Entry) :
    ((judge service t q key entry).1, PolicyState.unrecorded (judge service t q key entry).2) =
      judge service (PolicyState.unrecorded t) q key entry := by
  simp only [judge]
  split
  · split <;> rfl
  · rfl

lemma unrecorded_lookup (q : Query) :
    ((p.recorded.lookup service t q).1,
      PolicyState.unrecorded (p.recorded.lookup service t q).2) =
        p.lookup service (PolicyState.unrecorded t) q := by
  have hkey : p.recorded.keyOf q = p.keyOf q := rfl
  have hconfig : p.recorded.config = p.config := rfl
  simp only [lookup, hkey, hconfig]
  by_cases henabled : (!p.config.enabled) = true
  · simp only [henabled, if_true]
  · simp only [henabled]
    cases p.keyOf q with
    | error e => rfl
    | ok key =>
      rcases hget : p.store.get t.store.1 key with ⟨answer, inner⟩
      simp only [recorded, PolicyState.bump, PolicyState.unrecorded, Store.recorded, hget]
      rcases answer with e | (_ | entry)
      · rfl
      · rfl
      · exact unrecorded_judge service _ q key entry

lemma unrecorded_put (key : CacheKey) (entry : Entry) :
    ((p.recorded.put t key entry).1, PolicyState.unrecorded (p.recorded.put t key entry).2) =
      p.put (PolicyState.unrecorded t) key entry := by
  rcases hset : p.store.set t.store.1 key entry with ⟨answer, inner⟩
  simp only [put, recorded, Store.recorded, PolicyState.unrecorded, hset]
  cases answer <;> rfl

lemma unrecorded_writeWithTicket (ticket : Ticket) (payload : Json) (q : Query) (v : Verdict) :
    ((p.recorded.writeWithTicket service t ticket payload q v).1,
      PolicyState.unrecorded (p.recorded.writeWithTicket service t ticket payload q v).2) =
        p.writeWithTicket service (PolicyState.unrecorded t) ticket payload q v := by
  have hadmits : p.recorded.admits v = p.admits v := rfl
  have hconfig : p.recorded.config = p.config := rfl
  simp only [writeWithTicket, hadmits, hconfig]
  by_cases henabled : (!p.config.enabled) = true
  · simp only [henabled, if_true]
  · by_cases hv : (!p.admits v) = true
    · simp only [henabled, hv, if_true]
      rfl
    · by_cases hlength : p.config.maxResponseBytes.toNat < payload.compactText.utf8ByteSize
      · simp only [henabled, hv, hlength, if_true]
        rfl
      · simp only [henabled, hv, hlength, if_false]
        exact unrecorded_put p t ticket.key _

lemma unrecorded_write (payload : Json) (q : Query) (v : Verdict) :
    ((p.recorded.write service t payload q v).1,
      PolicyState.unrecorded (p.recorded.write service t payload q v).2) =
        p.write service (PolicyState.unrecorded t) payload q v := by
  have hadmits : p.recorded.admits v = p.admits v := rfl
  have hconfig : p.recorded.config = p.config := rfl
  have hkey : p.recorded.keyOf q = p.keyOf q := rfl
  simp only [write, hadmits, hconfig, hkey]
  by_cases henabled : (!p.config.enabled) = true
  · simp only [henabled, if_true]
  · by_cases hv : (!p.admits v) = true
    · simp only [henabled, hv, if_true]
      rfl
    · simp only [henabled, hv]
      cases p.keyOf q with
      | error e => rfl
      | ok key => exact unrecorded_writeWithTicket p service t (.pending key) payload q v

lemma logged_lookup (q : Query) : (p.recorded.lookup service t q).2.store.2 = t.store.2 := by
  rcases p.recorded.lookup_store service t q with h | ⟨key, h⟩ <;> rw [h]
  rfl

lemma logged_put (key : CacheKey) (entry : Entry) :
    (p.recorded.put t key entry).2.store.2 =
      t.store.2 ++ [⟨key, entry, (p.store.set t.store.1 key entry).1⟩] := by
  rw [put_store]
  rfl

lemma logged_run (w : PendingWrite)
    (hticket : ∀ ticket, w.ticket = some ticket → p.keyOf w.query = .ok ticket.key) :
    ((w.run p.recorded service t).2.store.2 = t.store.2 ∧
      ∀ key entry, p.keyOf w.query = .ok key → ¬p.Admitted w.verdict entry w.payload) ∨
    ∃ key entry, p.keyOf w.query = .ok key ∧ p.Admitted w.verdict entry w.payload ∧
      (w.run p.recorded service t).2.store.2 =
        t.store.2 ++ [⟨key, entry, (p.store.set t.store.1 key entry).1⟩] := by
  rcases p.recorded.run_cases service t w hticket with
    ⟨hsame, -⟩ | ⟨key, entry, hkey, hadmitted, -, hput⟩
  · refine Or.inl ⟨congrArg Prod.snd hsame, fun key entry hkey hadmitted => ?_⟩
    have hwritten : p.recorded.Admitted w.verdict ⟨w.signatureFor service, entry.value⟩ w.payload :=
      ⟨hadmitted.enabled, hadmitted.admits, hadmitted.fits, hadmitted.value⟩
    have hput := run_of_admitted service t hwritten hkey
      (fun ticket hsome => Except.ok.inj ((hticket ticket hsome).symm.trans hkey)) rfl
    have hlogged := congrArg Prod.snd hsame
    rw [hput, logged_put] at hlogged
    simp at hlogged
  · refine Or.inr ⟨key, entry, hkey, ⟨hadmitted.enabled, hadmitted.admits, hadmitted.fits,
      hadmitted.value⟩, ?_⟩
    rw [hput, logged_put]

end Watched

theorem watch_eq_run {σ : Type} (p : Policy σ) (service : SignatureService) (s : PolicyState σ)
    (c : Call) :
    ((p.watch service s c).1.answer, (p.watch service s c).2) = p.run service s c := by
  cases c with
  | lookup q =>
    have h := unrecorded_lookup p service (PolicyState.recording s) q
    rw [Prod.ext_iff] at h
    exact Prod.ext (congrArg Answer.looked h.1) h.2
  | write payload q v =>
    have h := unrecorded_write p service (PolicyState.recording s) payload q v
    rw [Prod.ext_iff] at h
    exact Prod.ext (congrArg Answer.wrote h.1) h.2
  | writeWithTicket ticket payload q v =>
    have h := unrecorded_writeWithTicket p service (PolicyState.recording s) ticket payload q v
    rw [Prod.ext_iff] at h
    exact Prod.ext (congrArg Answer.wrote h.1) h.2

section Cases

variable {σ : Type} (p : Policy σ) (service : SignatureService) (s : PolicyState σ)

def Event.Passive (e : Event) (t : PolicyState σ) : Prop :=
  e.sets = [] ∧ (t.store = s.store ∨ ∃ key, t.store = (p.store.get s.store key).2)

def Event.Sets (e : Event) (t : PolicyState σ) (key : CacheKey) (entry : Entry) : Prop :=
  e.sets = [⟨key, entry, (p.store.set s.store key entry).1⟩] ∧
    t.store = (p.store.set s.store key entry).2 ∧
    (∃ payload, e.call.payload? = some payload ∧ entry.value = payload.compactText) ∧
    ((p.store.set s.store key entry).1 = .ok () →
      e.answer = .wrote (.stored entry.signature entry.value.utf8ByteSize))

lemma sets_of_put {c : Call} {payload : Json} (hc : c.payload? = some payload) {key : CacheKey}
    {entry : Entry} (he : entry.value = payload.compactText)
    {r : WriteOutcome × PolicyState (σ × List SetCall)}
    (hr : r = p.recorded.put (PolicyState.recording s) key entry) :
    Event.Sets p s ⟨service, c, .wrote r.1, r.2.store.2⟩ (PolicyState.unrecorded r.2) key
      entry := by
  subst hr
  have hstore := put_store p.recorded (PolicyState.recording s) key entry
  refine ⟨?_, ?_, ⟨payload, hc, he⟩, fun hok => ?_⟩
  · exact congrArg Prod.snd hstore
  · exact congrArg Prod.fst hstore
  · exact congrArg Answer.wrote
      ((put_stored p.recorded (PolicyState.recording s)).mpr ⟨hok, rfl, rfl⟩)

lemma passive_of_withheld {c : Call} {r : WriteOutcome × PolicyState (σ × List SetCall)}
    (hr : Withheld (PolicyState.recording s) r) :
    Event.Passive p s ⟨service, c, .wrote r.1, r.2.store.2⟩ (PolicyState.unrecorded r.2) :=
  ⟨congrArg Prod.snd hr.1, Or.inl (congrArg Prod.fst hr.1)⟩

theorem watch_cases (c : Call) :
    Event.Passive p s (p.watch service s c).1 (p.watch service s c).2 ∨
      ∃ key entry, Event.Sets p s (p.watch service s c).1 (p.watch service s c).2 key entry := by
  cases c with
  | lookup q =>
    left
    rcases p.recorded.lookup_store service (PolicyState.recording s) q with h | ⟨key, h⟩
    · exact ⟨congrArg Prod.snd h, Or.inl (congrArg Prod.fst h)⟩
    · exact ⟨congrArg Prod.snd h, Or.inr ⟨key, congrArg Prod.fst h⟩⟩
  | write payload q v =>
    rcases p.recorded.write_cases service (PolicyState.recording s) payload q v with
      h | ⟨key, entry, -, hadmitted, -, hput⟩
    · exact Or.inl (passive_of_withheld p service s h)
    · exact Or.inr ⟨key, entry, sets_of_put p service s rfl hadmitted.value hput⟩
  | writeWithTicket ticket payload q v =>
    rcases p.recorded.writeWithTicket_cases service (PolicyState.recording s) ticket payload q v
      with h | ⟨entry, hadmitted, -, hput⟩
    · exact Or.inl (passive_of_withheld p service s h)
    · exact Or.inr ⟨ticket.key, entry, sets_of_put p service s rfl hadmitted.value hput⟩

lemma watch_lookup (q : Query) :
    (p.watch service s (.lookup q)).1.answer = .looked (p.lookup service s q).1 :=
  congrArg Prod.fst (watch_eq_run p service s (.lookup q))

end Cases

end Policy

end AnswerCache
