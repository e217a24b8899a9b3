import AnswerCache.Policy.Policy
import Mathlib.Logic.Basic

namespace AnswerCache

namespace Metrics

def bumpAll (m : Metrics) (cs : List Counter) : Metrics :=
  cs.foldl bump m

end Metrics

def WriteOutcome.counter? : WriteOutcome → Option Counter
  | stored _ _ => some .writes
  | disabled => none
  | notCacheable => some .skippedUncacheable
  | oversized _ _ => some .skippedOversized
  | failed _ => some .setFailures

namespace Policy

variable {σ : Type} (p : Policy σ) (service : SignatureService) (s : PolicyState σ)

structure Counted (r : WriteOutcome × PolicyState σ) : Prop where
  metrics : r.2.metrics = s.metrics.bumpAll r.1.counter?.toList
  once : p.config.enabled = true → r.1.counter?.isSome = true

lemma put_counted (key : CacheKey) (entry : Entry) : p.Counted s (p.put s key entry) := by
  simp only [put]
  split <;> exact ⟨rfl, fun _ => rfl⟩

lemma disabled_counted (h : (!p.config.enabled) = true) : p.Counted s (.disabled, s) :=
  ⟨rfl, fun henabled => by simp [henabled] at h⟩

lemma writeWithTicket_counted (ticket : Ticket) (payload : Json) (q : Query) (v : Verdict) :
    p.Counted s (p.writeWithTicket service s ticket payload q v) := by
  simp only [writeWithTicket]
  split
  · exact p.disabled_counted s ‹_›
  · split
    · exact ⟨rfl, fun _ => rfl⟩
    · split
      · exact ⟨rfl, fun _ => rfl⟩
      · exact p.put_counted s ticket.key _

lemma write_counted (payload : Json) (q : Query) (v : Verdict) :
    p.Counted s (p.write service s payload q v) := by
  simp only [write]
  split
  · exact p.disabled_counted s ‹_›
  · split
    · exact ⟨rfl, fun _ => rfl⟩
    · split
      · exact p.writeWithTicket_counted service s _ payload q v
      · exact ⟨rfl, fun _ => rfl⟩

theorem run_counted (w : PendingWrite) : p.Counted s (w.run p service s) := by
  rw [PendingWrite.run]
  split
  · exact p.writeWithTicket_counted service s _ w.payload w.query w.verdict
  · exact p.write_counted service s w.payload w.query w.verdict

def Outdated (current : Option Signature) (entry : Entry) : Prop :=
  entry.signature = none ∨ current = none ∨ entry.signature ≠ current

def FindsOutdated (q : Query) : Prop :=
  ∃ key entry, p.keyOf q = .ok key ∧ (p.store.get s.store key).1 = .ok (some entry) ∧
    Outdated (service q) entry

/-- How a lookup fared, and what it added to the counters. -/
inductive Fares (m : Metrics) (outdated : Prop) (r : Lookup × PolicyState σ) : Prop
  | hit (served : r.1.value.isSome = true) (current : ¬outdated)
    (counted : r.2.metrics = m.bumpAll [.hits])
  | nearly (empty : r.1.value = none) (found : outdated)
    (counted : r.2.metrics = m.bumpAll [.potentialHits, .misses])
  | miss (empty : r.1.value = none) (current : ¬outdated)
    (counted : r.2.metrics = m.bumpAll [.misses])

lemma outdated_iff {current : Option Signature} {entry : Entry} :
    Outdated current entry ↔ ¬(current.isSome && current == entry.signature) = true := by
  rw [Bool.and_eq_true, Option.isSome_iff_ne_none, beq_iff_eq]
  constructor
  · rintro (hunsigned | hunknown | hother) ⟨hknown, hsame⟩
    · exact hknown (hsame.trans hunsigned)
    · exact hknown hunknown
    · exact hother hsame.symm
  · intro hnot
    by_cases hknown : current = none
    · exact Or.inr (Or.inl hknown)
    · exact Or.inr (Or.inr fun hsame => hnot ⟨hknown, hsame.symm⟩)

lemma judge_counted (q : Query) (key : CacheKey) (entry : Entry) :
    Fares s.metrics (Outdated (service q) entry) (judge service s q key entry) := by
  rw [outdated_iff]
  simp only [judge]
  split
  · rename_i hcurrent
    split
    · exact .hit rfl (not_not_intro hcurrent) rfl
    · exact .miss rfl (not_not_intro hcurrent) rfl
  · rename_i houtdated
    exact .nearly rfl houtdated rfl

theorem lookup_counted (henabled : p.config.enabled = true) (q : Query) :
    Fares (s.metrics.bump .requests) (p.FindsOutdated service s q) (p.lookup service s q) := by
  simp only [lookup, henabled, Bool.not_true, Bool.false_eq_true, if_false, FindsOutdated]
  cases hkey : p.keyOf q with
  | error e => exact .miss rfl (by simp) rfl
  | ok key =>
    dsimp only [PolicyState.bump]
    rcases hget : (p.store.get s.store key).1 with e | _ | entry
    · exact .miss rfl (by simp [hget]) rfl
    · exact .miss rfl (by simp [hget]) rfl
    · have hjudged := judge_counted service
        ⟨(p.store.get s.store key).2, s.metrics.bump .requests, s.notices⟩ q key entry
      simpa [hget] using hjudged

lemma lookup_disabled (hdisabled : p.config.enabled = false) (q : Query) :
    p.lookup service s q = (⟨none, none⟩, s) := by
  simp only [lookup, hdisabled, Bool.not_false, if_true]

lemma writeWithTicket_disabled (hdisabled : p.config.enabled = false) (ticket : Ticket)
    (payload : Json) (q : Query) (v : Verdict) :
    p.writeWithTicket service s ticket payload q v = (.disabled, s) := by
  simp only [writeWithTicket, hdisabled, Bool.not_false, if_true]

lemma write_disabled (hdisabled : p.config.enabled = false) (payload : Json) (q : Query)
    (v : Verdict) : p.write service s payload q v = (.disabled, s) := by
  simp only [write, hdisabled, Bool.not_false, if_true]

end Policy

end AnswerCache
