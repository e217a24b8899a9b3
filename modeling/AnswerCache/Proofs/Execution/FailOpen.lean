import AnswerCache.Proofs.Execution.Current
import AnswerCache.Proofs.Execution.Runs
import AnswerCache.Proofs.Policy.Provenance

/-!
No failure of the cache is a failure of a query: whatever a store answers, an execution fails
exactly where the query is invalid, or where nothing is served and the backend fails.
-/

namespace AnswerCache

structure Policy.Serves {σ : Type} (p : Policy σ) (service : SignatureService) (store : σ)
    (q : Query) (value : Json) : Prop where
  enabled : p.config.enabled = true
  found : ∃ key entry signature, p.keyOf q = .ok key ∧
    (p.store.get store key).1 = .ok (some entry) ∧ service q = some signature ∧
    entry.signature = some signature ∧ Json.parse? entry.value = some value

lemma Policy.enabled_of_value {σ : Type} {p : Policy σ} {service : SignatureService}
    {s : PolicyState σ} {q : Query} {value : Json}
    (h : (p.lookup service s q).1.value = some value) : p.config.enabled = true := by
  rw [lookup] at h
  split at h
  · contradiction
  · simpa using ‹¬(!p.config.enabled) = true›

lemma Policy.lookup_value_iff {σ : Type} {p : Policy σ} {service : SignatureService}
    {s : PolicyState σ} {q : Query} {value : Json} :
    (p.lookup service s q).1.value = some value ↔ p.Serves service s.store q value := by
  constructor
  · exact fun h => ⟨enabled_of_value h, lookup_value p service s h⟩
  · rintro ⟨henabled, key, entry, signature, hkey, hget, hcurrent, hsignature, hvalue⟩
    rw [lookup_value_of_entry p service s henabled hkey hget hcurrent hsignature, hvalue]

lemma Policy.lookup_none_iff {σ : Type} {p : Policy σ} {service : SignatureService}
    {s : PolicyState σ} {q : Query} :
    (p.lookup service s q).1.value = none ↔ ∀ value, ¬p.Serves service s.store q value := by
  rw [Option.eq_none_iff_forall_ne_some]
  exact forall_congr' fun value => not_congr lookup_value_iff

namespace Executor

section Default

variable {σ : Type} {e : Executor σ} (hstages : e.stages = []) {service : SignatureService}
  {b : Backend} {s : ExecutorState σ} {q : Query}
include hstages

lemma execute_error_iff {err : QueryError} :
    (e.execute service b s q).1 = .error err ↔ q.validate = .error err ∨
      q.validate = .ok () ∧ (∀ value, ¬e.policy.Serves service s.policy.store q value) ∧
        b.answer q = .error err := by
  rcases hx : e.execute service b s q with ⟨result, t⟩
  cases execute_outcome hstages hx with
  | invalid hq => simp [hq]
  | hit hq hvalue =>
    have hserved := Policy.lookup_value_iff.mp hvalue
    simp only [hq, reduceCtorEq, false_or, true_and, false_iff, not_and]
    exact fun hnone => absurd hserved (hnone _)
  | failed hq hvalue hb => simp [hq, hb, Policy.lookup_none_iff.mp hvalue]
  | miss hq hvalue hb => simp [hq, hb]

lemma response_of_ok {x : Execution} (h : (e.execute service b s q).1 = .ok x) :
    (∃ value, e.policy.Serves service s.policy.store q value ∧ x.response = .ofCache q value) ∨
      (∀ value, ¬e.policy.Serves service s.policy.store q value) ∧
        ∃ answer ticket, b.answer q = .ok answer ∧ x.response = .ofBackend q answer ticket := by
  rcases hx : e.execute service b s q with ⟨result, t⟩
  rw [hx] at h
  cases execute_outcome hstages hx with
  | invalid hq => contradiction
  | hit hq hvalue =>
    obtain rfl := Except.ok.inj h
    exact Or.inl ⟨_, Policy.lookup_value_iff.mp hvalue, rfl⟩
  | failed hq hvalue hb => contradiction
  | miss hq hvalue hb =>
    obtain rfl := Except.ok.inj h
    exact Or.inr ⟨Policy.lookup_none_iff.mp hvalue, _, _, hb, rfl⟩

lemma sets_of_backend_error {later : SignatureService} {err : QueryError}
    (hb : b.answer q = .error err) :
    (e.watch s ⟨.execute q, b, service, later⟩).1.sets = [] := by
  have hlog := Policy.logged_lookup e.policy service s.recording.policy q
  rcases hx : e.recorded.execute service b s.recording q with ⟨result, t⟩
  cases execute_outcome (e := e.recorded) hstages hx with
  | invalid hq =>
    rw [watch_of_error hx]
    rfl
  | hit hq hvalue =>
    rw [watch_of_ok hx]
    exact hlog
  | failed hq hvalue herror =>
    rw [watch_of_error hx]
    exact hlog
  | miss hq hvalue hok => exact nomatch hb.symm.trans hok

/-- Whatever a store answers, an execution fails exactly where the query is invalid, or where
nothing is served and the backend fails, and with that error. An invalid query leaves everything as
it was, and after a failure of the backend nothing is written. -/
theorem execution_fails_open (service : SignatureService) (b : Backend) (s : ExecutorState σ)
    (q : Query) :
    (∀ err, (e.execute service b s q).1 = .error err ↔ q.validate = .error err ∨
      q.validate = .ok () ∧ (∀ value, ¬e.policy.Serves service s.policy.store q value) ∧
        b.answer q = .error err) ∧
    (∀ x, (e.execute service b s q).1 = .ok x →
      (∃ value, e.policy.Serves service s.policy.store q value ∧ x.response = .ofCache q value) ∨
      (∀ value, ¬e.policy.Serves service s.policy.store q value) ∧
        ∃ answer ticket, b.answer q = .ok answer ∧ x.response = .ofBackend q answer ticket) ∧
    (∀ err, q.validate = .error err → e.execute service b s q = (.error err, s)) ∧
    (∀ err later, b.answer q = .error err →
      (e.watch s ⟨.execute q, b, service, later⟩).1.sets = []) :=
  ⟨fun _ => execute_error_iff hstages, fun _ => response_of_ok hstages,
    fun _ => execute_invalid e service b s q, fun _ _ => sets_of_backend_error hstages⟩

end Default

def overBrokenStore : Executor Unit where
  policy :=
    { config := {}
      canonicalizer := .standard
      store :=
        { name := "broken"
          get := fun _ _ => (.error (.decoding "no entry"), ())
          set := fun _ _ _ => (.error (.unavailable "no connection"), ()) } }
  stages := []

def executeOnBroken (b : Backend) (q : Query) : Except QueryError Execution × ExecutorState Unit :=
  overBrokenStore.execute (Policy.everySignature ⟨1⟩) b (.new ()) q

theorem broken_store_is_passed_by :
    (∃ x ticket, (executeOnBroken (.constant ⟨.null, [], []⟩) .overFirstSecond).1 = .ok x ∧
      x.response = .ofBackend .overFirstSecond ⟨.null, [], []⟩ ticket) ∧
    (executeOnBroken (Backend.stalled (.constant ⟨.null, [], []⟩) 5) .overFirstSecond).1 =
      .error (.backendTimeout 5) ∧
    executeOnBroken (.constant ⟨.null, [], []⟩) Policy.anyQuery =
      (.error (.invalidQuery .noIntervals), .new ()) := by
  have hvalid : Query.overFirstSecond.validate = .ok () := rfl
  have hnone : ∀ value,
      ¬overBrokenStore.policy.Serves (Policy.everySignature ⟨1⟩) () .overFirstSecond value := by
    rintro value ⟨-, key, entry, signature, -, hget, -⟩
    contradiction
  have hopen := execution_fails_open (e := overBrokenStore) rfl (Policy.everySignature ⟨1⟩)
  refine ⟨?_, ?_, ?_⟩
  · obtain ⟨herror, hok, -, -⟩ := hopen (.constant ⟨.null, [], []⟩) (.new ()) .overFirstSecond
    cases hx : (executeOnBroken (.constant ⟨.null, [], []⟩) .overFirstSecond).1 with
    | error err =>
      rcases (herror err).mp hx with hinvalid | ⟨-, -, hfailed⟩
      · exact nomatch hvalid.symm.trans hinvalid
      · contradiction
    | ok x =>
      rcases hok x hx with ⟨value, hserves, -⟩ | ⟨-, answer, ticket, hb, hresponse⟩
      · exact absurd hserves (hnone value)
      · obtain rfl := Except.ok.inj hb
        exact ⟨x, ticket, rfl, hresponse⟩
  · exact ((hopen _ _ _).1 _).mpr (Or.inr ⟨hvalid, hnone, rfl⟩)
  · exact (hopen _ _ _).2.2.1 _ rfl

end Executor

end AnswerCache
