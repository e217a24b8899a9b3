import AnswerCache.Proofs.Execution.Current
import AnswerCache.Proofs.Execution.Executor
import AnswerCache.Proofs.Policy.Provenance

/-!
Stages that rewrite payloads, and the cache behind them: what is stored has passed the stages, and
an answer from the cache passes them again.
-/

namespace AnswerCache

def Stage.RewritesPayload (stage : Stage) : Prop :=
  ∃ f : Response → Json, ∀ r, stage.apply r = { r with payload := f r }

lemma Stage.runAll_rewrites {stages : List Stage} (h : ∀ stage ∈ stages, stage.RewritesPayload)
    (r : Response) : ∃ payload, (runAll stages r).1 = { r with payload := payload } := by
  induction stages generalizing r with
  | nil => exact ⟨r.payload, rfl⟩
  | cons stage rest ih =>
    obtain ⟨⟨f, hf⟩, hrest⟩ := List.forall_mem_cons.mp h
    obtain ⟨payload, hpayload⟩ := ih hrest (stage.apply r)
    refine ⟨payload, hpayload.trans ?_⟩
    rw [hf]

namespace Executor

variable {σ : Type} {e : Executor σ}

def staged (e : Executor σ) (r : Response) : Response :=
  (Stage.runAll e.stages r).1

section Outcomes

variable {service : SignatureService} {b : Backend} {s t : ExecutorState σ} {q : Query}
  {x : Execution}

lemma execute_ok (h : e.execute service b s q = (.ok x, t)) :
    t.policy.store = (e.policy.lookup service s.policy q).2.store ∧
    x.write = e.policy.offer? x.response ∧
    ((∃ payload, (e.policy.lookup service s.policy q).1.value = some payload ∧
        x.response = e.staged (.ofCache q payload)) ∨
      ∃ answer, b.answer q = .ok answer ∧
        x.response =
          e.staged (.ofBackend q answer (e.policy.lookup service s.policy q).1.ticket)) := by
  simp only [execute] at h
  split at h
  · simp at h
  · split at h
    · rename_i payload hvalue
      obtain ⟨hx, rfl⟩ := Prod.mk.inj h
      obtain rfl := Except.ok.inj hx
      exact ⟨rfl, rfl, .inl ⟨payload, hvalue, rfl⟩⟩
    · cases hanswer : b.answer q with
      | error err => simp [ask, hanswer] at h
      | ok answer =>
        simp only [ask, hanswer] at h
        obtain ⟨hx, rfl⟩ := Prod.mk.inj h
        obtain rfl := Except.ok.inj hx
        exact ⟨rfl, rfl, .inr ⟨answer, rfl, rfl⟩⟩

end Outcomes

section Rewriting

variable (hstages : ∀ stage ∈ e.stages, stage.RewritesPayload)
include hstages

lemma staged_eq (r : Response) : e.staged r = { r with payload := (e.staged r).payload } := by
  obtain ⟨payload, hpayload⟩ := Stage.runAll_rewrites hstages r
  rw [staged, hpayload]

lemma provenance_staged (r : Response) : (e.staged r).provenance = r.provenance := by
  rw [staged_eq hstages]

lemma offer?_staged {q : Query} {answer : BackendAnswer} {ticket : Option Ticket} {w : PendingWrite}
    (h : e.policy.offer? (e.staged (.ofBackend q answer ticket)) = some w) :
    w = ⟨q, (e.staged (.ofBackend q answer ticket)).payload,
      .ofIntervals answer.missing answer.volatile, ticket⟩ := by
  rw [staged_eq hstages, Policy.offer?] at h
  split at h
  · contradiction
  · exact (Option.some.inj h).symm

lemma set_of_stored {b : Backend} {before during : SignatureService} {s t : ExecutorState σ}
    {q : Query} {x : Execution} {w : PendingWrite} {signature : Option Signature} {length : Nat}
    (h : e.execute before b s q = (.ok x, t)) (hbackend : x.response.provenance = .backend)
    (hwrite : x.write = some w)
    (hstored : (w.run e.policy during t.policy).1 = .stored signature length) :
    (∃ answer ticket, b.answer q = .ok answer ∧
      x.response = e.staged (.ofBackend q answer ticket)) ∧
    ∃ key entry, e.policy.keyOf q = .ok key ∧ entry.value = x.response.payload.compactText ∧
      (e.policy.store.set t.policy.store key entry).1 = .ok () ∧
      (e.settle during t w).policy.store = (e.policy.store.set t.policy.store key entry).2 := by
  obtain ⟨-, hoffer, ⟨payload, -, hresponse⟩ | ⟨answer, hanswer, hresponse⟩⟩ := execute_ok h
  · rw [hresponse, provenance_staged hstages] at hbackend
    contradiction
  · refine ⟨⟨answer, _, hanswer, hresponse⟩, ?_⟩
    rw [hwrite, hresponse] at hoffer
    have hw := offer?_staged hstages hoffer.symm
    rw [← hresponse] at hw
    -- the write carries the ticket of the lookup, which names the key of the query
    have hticket : ∀ ticket, w.ticket = some ticket → e.policy.keyOf w.query = .ok ticket.key := by
      intro ticket hsome
      rw [hw] at hsome ⊢
      exact (Policy.lookup_ticket e.policy before s.policy hsome).1
    rcases e.policy.run_cases during t.policy w hticket with
      ⟨-, hwithheld⟩ | ⟨key, entry, hkey, hadmitted, -, hput⟩
    · rw [hstored] at hwithheld
      contradiction
    · have hvalue := hadmitted.value
      rw [hw] at hkey hvalue
      rw [hput] at hstored
      refine ⟨key, entry, hkey, hvalue, ((Policy.put_stored _ t.policy).mp hstored).1, ?_⟩
      rw [← Policy.put_store, ← hput]
      rfl

lemma get_of_hit {b : Backend} {service : SignatureService} {s t : ExecutorState σ} {q : Query}
    {x : Execution} (h : e.execute service b s q = (.ok x, t))
    (hcache : x.response.provenance = .cache) :
    ∃ key entry decoded, e.policy.keyOf q = .ok key ∧
      (e.policy.store.get s.policy.store key).1 = .ok (some entry) ∧
      Json.parse? entry.value = some decoded ∧ x.response = e.staged (.ofCache q decoded) := by
  obtain ⟨-, -, ⟨decoded, hvalue, hresponse⟩ | ⟨answer, -, hresponse⟩⟩ := execute_ok h
  · obtain ⟨key, entry, _, hkey, hget, -, -, hparse⟩ := Policy.lookup_value _ _ _ hvalue
    exact ⟨key, entry, decoded, hkey, hget, hparse, hresponse⟩
  · rw [hresponse, provenance_staged hstages] at hcache
    contradiction

/-- An answer from the cache has passed the stages twice: on its way into the cache as the answer of
the backend, and on its way out as what was read of the stored text. It is the first answer again
exactly where the stages leave that answer as it is. -/
theorem hit_passes_stages_again {pause : σ → σ} (hstore : e.policy.store.LastWriterWins pause)
    {b b' : Backend} {before during after : SignatureService} {s t u : ExecutorState σ} {q : Query}
    {first second : Execution} {w : PendingWrite} {signature : Option Signature} {length : Nat}
    (hfirst : e.execute before b s q = (.ok first, t))
    (hbackend : first.response.provenance = .backend) (hwrite : first.write = some w)
    (hstored : (w.run e.policy during t.policy).1 = .stored signature length)
    (hsecond : e.execute after b' ((e.settle during t w).mapStore pause) q = (.ok second, u))
    (hcache : second.response.provenance = .cache) :
    (∃ answer ticket, b.answer q = .ok answer ∧
      first.response = e.staged (.ofBackend q answer ticket)) ∧
    ∃ decoded, Json.parse? first.response.payload.compactText = some decoded ∧
      second.response = e.staged (.ofCache q decoded) ∧
      (first.response.payload.WellFormed →
        (∀ x, .double x ∈ first.response.payload.numbers → (Json.Number.double x).ReadsBack) →
        (second.response.payload = first.response.payload ↔
          (e.staged (.ofCache q first.response.payload)).payload = first.response.payload)) := by
  obtain ⟨hanswer, key, entry, hkey, hvalue, hset, hsettled⟩ :=
    set_of_stored hstages hfirst hbackend hwrite hstored
  obtain ⟨key', found, decoded, hkey', hget, hparse, hagain⟩ := get_of_hit hstages hsecond hcache
  obtain rfl : key' = key := Except.ok.inj (hkey'.symm.trans hkey)
  rw [ExecutorState.mapStore, hsettled] at hget
  obtain rfl := hstore _ _ _ _ hset hget
  rw [hvalue] at hparse
  refine ⟨hanswer, decoded, hparse, hagain, fun hformed hdoubles => ?_⟩
  rw [Json.parse?_compactText hformed hdoubles] at hparse
  split at hparse
  · rw [hagain, Option.some.inj hparse]
  · contradiction

end Rewriting

section Runs

def rewriting (f : Json → Json) : Executor ClockedMemory :=
  ⟨.overMemory {} .standard, [.changing "rewrite" fun r => { r with payload := f r.payload }]⟩

def firstRun (f : Json → Json) : Except QueryError Execution × ExecutorState ClockedMemory :=
  (rewriting f).execute (Policy.everySignature ⟨1⟩) (.constant ⟨.null, [], []⟩)
    (.new (.new {})) .overFirstSecond

def storing (f : Json → Json) (w : PendingWrite) : WriteOutcome :=
  (w.run (rewriting f).policy (Policy.everySignature ⟨1⟩) (firstRun f).2.policy).1

def secondRun (f : Json → Json) (w : PendingWrite) :
    Except QueryError Execution × ExecutorState ClockedMemory :=
  (rewriting f).execute (Policy.everySignature ⟨1⟩) (.constant ⟨.null, [], []⟩)
    (((rewriting f).settle (Policy.everySignature ⟨1⟩) (firstRun f).2 w).mapStore
      fun memory => memory.pass 0) .overFirstSecond

def shown (x : Execution) : Provenance × String :=
  (x.response.provenance, x.response.payload.compactText)

def bothRuns (f : Json → Json) :
    Option ((Provenance × String) × WriteOutcome × Provenance × String) := do
  let first ← (firstRun f).1.toOption
  let w ← first.write
  let second ← (secondRun f w).1.toOption
  return (shown first, storing f w, shown second)

lemma runs_of_bothRuns {f : Json → Json} {shownFirst shownSecond : Provenance × String}
    {outcome : WriteOutcome} (h : bothRuns f = some (shownFirst, outcome, shownSecond)) :
    ∃ first w second, (firstRun f).1 = .ok first ∧ first.write = some w ∧ storing f w = outcome ∧
      (secondRun f w).1 = .ok second ∧ shown first = shownFirst ∧ shown second = shownSecond := by
  simp only [bothRuns, bind, Option.bind_eq_some_iff, pure, Option.some.injEq, Prod.mk.injEq] at h
  obtain ⟨first, hfirst, w, hw, second, hsecond, hshown, houtcome, hagain⟩ := h
  exact ⟨first, w, second, ok_of_toOption hfirst, hw, houtcome, ok_of_toOption hsecond, hshown,
    hagain⟩

def emptyObject : Json → Json :=
  fun _ => .object []

def wrapped : Json → Json :=
  fun payload => .object [("result", payload)]

theorem emptied_answer_is_repeated :
    ∃ first w second, (firstRun emptyObject).1 = .ok first ∧
      first.response.provenance = .backend ∧ first.write = some w ∧
      storing emptyObject w = .stored (some ⟨1⟩) 2 ∧ (secondRun emptyObject w).1 = .ok second ∧
      second.response.provenance = .cache ∧
      second.response.payload = first.response.payload := by
  have hboth : bothRuns emptyObject =
      some ((.backend, "\x7b\x7d"), .stored (some ⟨1⟩) 2, .cache, "\x7b\x7d") := by
    decide +kernel
  obtain ⟨first, w, second, hfirst, hwrite, hstored, hsecond, hshown, hagain⟩ :=
    runs_of_bothRuns hboth
  have hbackend := congrArg Prod.fst hshown
  have hcache := congrArg Prod.fst hagain
  have hstages : ∀ stage ∈ (rewriting emptyObject).stages, stage.RewritesPayload := by
    intro stage hstage
    rw [List.mem_singleton.mp hstage]
    exact ⟨fun r => emptyObject r.payload, fun _ => rfl⟩
  obtain ⟨⟨answer, ticket, -, hresponse⟩, _, -, -, hsame⟩ :=
    hit_passes_stages_again hstages (ClockedMemory.lastWriterWins 0)
      (Prod.ext hfirst rfl) hbackend hwrite hstored (Prod.ext hsecond rfl) hcache
  have hpayload : first.response.payload = .object [] := by
    rw [hresponse]
    rfl
  rw [hpayload] at hsame
  refine ⟨first, w, second, hfirst, hbackend, hwrite, hstored, hsecond, hcache, ?_⟩
  rw [hpayload]
  exact (hsame ⟨List.Pairwise.nil, trivial⟩ fun x hx => absurd hx List.not_mem_nil).mpr rfl

theorem wrapped_answer_is_wrapped_again :
    ∃ first w second, (firstRun wrapped).1 = .ok first ∧
      first.response.provenance = .backend ∧ first.write = some w ∧
      storing wrapped w = .stored (some ⟨1⟩) 15 ∧ (secondRun wrapped w).1 = .ok second ∧
      second.response.provenance = .cache ∧
      second.response.payload ≠ first.response.payload := by
  have hboth : bothRuns wrapped =
      some ((.backend, "\x7b\"result\":null\x7d"), .stored (some ⟨1⟩) 15,
        .cache, "\x7b\"result\":\x7b\"result\":null\x7d\x7d") := by
    decide +kernel
  obtain ⟨first, w, second, hfirst, hwrite, hstored, hsecond, hshown, hagain⟩ :=
    runs_of_bothRuns hboth
  refine ⟨first, w, second, hfirst, congrArg Prod.fst hshown, hwrite, hstored, hsecond,
    congrArg Prod.fst hagain, fun hsame => ?_⟩
  have htexts := (congrArg Prod.snd hagain).symm.trans
    ((congrArg Json.compactText hsame).trans (congrArg Prod.snd hshown))
  exact absurd htexts (by decide)

end Runs

end Executor

end AnswerCache
