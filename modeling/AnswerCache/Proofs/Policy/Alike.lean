import AnswerCache.Policy.Policy
import Mathlib.Logic.Basic

namespace AnswerCache

structure Store.Respects {σ : Type} (store : Store σ) (R : σ → σ → Prop) : Prop where
  get : ∀ {s t : σ}, R s t → ∀ key, (store.get s key).1 = (store.get t key).1 ∧
    R (store.get s key).2 (store.get t key).2
  set : ∀ {s t : σ}, R s t → ∀ key entry, (store.set s key entry).1 = (store.set t key entry).1 ∧
    R (store.set s key entry).2 (store.set t key entry).2

structure PolicyState.Alike {σ : Type} (R : σ → σ → Prop) (s t : PolicyState σ) : Prop where
  store : R s.store t.store
  metrics : s.metrics = t.metrics

namespace PolicyState.Alike

variable {σ : Type} {R : σ → σ → Prop} {s t : PolicyState σ}

lemma bump (h : s.Alike R t) (c : Counter) : (s.bump c).Alike R (t.bump c) :=
  ⟨h.store, congrArg (Metrics.bump · c) h.metrics⟩

lemma give (h : s.Alike R t) (m n : Notice) : (s.give m).Alike R (t.give n) :=
  ⟨h.store, h.metrics⟩

lemma giveAll (h : s.Alike R t) (ms ns : List Notice) : (s.giveAll ms).Alike R (t.giveAll ns) :=
  ⟨h.store, h.metrics⟩

lemma moved (h : s.Alike R t) {a b : σ} (hab : R a b) :
    ({ s with store := a } : PolicyState σ).Alike R { t with store := b } :=
  ⟨hab, h.metrics⟩

end PolicyState.Alike

namespace Policy

variable {σ : Type} {p : Policy σ} {R : σ → σ → Prop} {service : SignatureService}
  {s t : PolicyState σ} {q r : Query}

def AlikeResults {α : Type} (R : σ → σ → Prop) (a b : α × PolicyState σ) : Prop :=
  a.1 = b.1 ∧ a.2.Alike R b.2

lemma judge_alike (hst : s.Alike R t) (hservice : service q = service r) (key : CacheKey)
    (entry : Entry) :
    AlikeResults R (judge service s q key entry) (judge service t r key entry) := by
  simp only [judge, hservice]
  split
  · split
    · exact ⟨rfl, (hst.bump .hits).give _ _⟩
    · exact ⟨rfl, (hst.give _ _).bump .misses⟩
  · exact ⟨rfl, ((hst.give _ _).bump .potentialHits).bump .misses⟩

theorem lookup_alike (hp : p.store.Respects R) (hst : s.Alike R t) (hkey : p.keyOf q = p.keyOf r)
    (hservice : service q = service r) :
    AlikeResults R (p.lookup service s q) (p.lookup service t r) := by
  have hrequested := hst.bump .requests
  simp only [lookup, hkey]
  split
  · exact ⟨rfl, hst⟩
  · cases p.keyOf r with
    | error err => exact ⟨rfl, (hrequested.give _ _).bump .misses⟩
    | ok key =>
      obtain ⟨hanswer, hstore⟩ := hp.get hrequested.store key
      have hread := hrequested.moved hstore
      dsimp only
      rw [hanswer]
      rcases (p.store.get (t.bump .requests).store key).1 with err | _ | entry
      · exact ⟨rfl, (hread.give _ _).bump .misses⟩
      · exact ⟨rfl, hread.bump .misses⟩
      · exact judge_alike hread hservice key entry

lemma put_alike (hp : p.store.Respects R) (hst : s.Alike R t) (key : CacheKey) (entry : Entry) :
    AlikeResults R (p.put s key entry) (p.put t key entry) := by
  obtain ⟨hanswer, hstore⟩ := hp.set hst.store key entry
  have hwritten := hst.moved hstore
  dsimp only [put]
  rw [hanswer]
  cases (p.store.set t.store key entry).1 with
  | ok _ => exact ⟨rfl, (hwritten.bump .writes).give _ _⟩
  | error err => exact ⟨rfl, (hwritten.bump .setFailures).give _ _⟩

lemma writeWithTicket_alike (hp : p.store.Respects R) (hst : s.Alike R t)
    (hservice : service q = service r) (ticket : Ticket) (payload : Json) (v : Verdict) :
    AlikeResults R (p.writeWithTicket service s ticket payload q v)
      (p.writeWithTicket service t ticket payload r v) := by
  have hsignature : ticket.signatureFor service q = ticket.signatureFor service r :=
    congrArg ticket.signature.getD hservice
  simp only [writeWithTicket, hsignature]
  split
  · exact ⟨rfl, hst⟩
  · split
    · exact ⟨rfl, (hst.bump .skippedUncacheable).give _ _⟩
    · split
      · exact ⟨rfl, (hst.bump .skippedOversized).give _ _⟩
      · exact put_alike hp hst ticket.key _

lemma write_alike (hp : p.store.Respects R) (hst : s.Alike R t) (hkey : p.keyOf q = p.keyOf r)
    (hservice : service q = service r) (payload : Json) (v : Verdict) :
    AlikeResults R (p.write service s payload q v) (p.write service t payload r v) := by
  simp only [write, hkey]
  split
  · exact ⟨rfl, hst⟩
  · split
    · exact ⟨rfl, (hst.bump .skippedUncacheable).give _ _⟩
    · split
      · exact writeWithTicket_alike hp hst hservice _ payload v
      · exact ⟨rfl, (hst.bump .setFailures).give _ _⟩

theorem run_alike (hp : p.store.Respects R) (hst : s.Alike R t) (hkey : p.keyOf q = p.keyOf r)
    (hservice : service q = service r) (payload : Json) (v : Verdict) (ticket : Option Ticket) :
    AlikeResults R (PendingWrite.run ⟨q, payload, v, ticket⟩ p service s)
      (PendingWrite.run ⟨r, payload, v, ticket⟩ p service t) := by
  cases ticket with
  | none => exact write_alike hp hst hkey hservice payload v
  | some ticket => exact writeWithTicket_alike hp hst hservice ticket payload v

end Policy

end AnswerCache
