import AnswerCache.Policy.Policy
import Mathlib.Logic.Basic

namespace AnswerCache

def WriteOutcome.reachedStore : WriteOutcome → Bool
  | stored _ _ => true
  | failed failure => failure.valueLength.isSome
  | _ => false

def PendingWrite.signatureFor (w : PendingWrite) (service : SignatureService) :
    Option Signature :=
  match w.ticket with
  | some ticket => ticket.signatureFor service w.query
  | none => service w.query

namespace Policy

variable {σ : Type} (p : Policy σ) (service : SignatureService) (s : PolicyState σ)

lemma judge_store (q : Query) (key : CacheKey) (entry : Entry) :
    (judge service s q key entry).2.store = s.store := by
  simp only [judge]
  split
  · split <;> rfl
  · rfl

lemma judge_value {q : Query} {key : CacheKey} {entry : Entry} {value : Json}
    (h : (judge service s q key entry).1.value = some value) :
    (∃ signature, service q = some signature ∧ entry.signature = some signature) ∧
      Json.parse? entry.value = some value := by
  simp only [judge] at h
  split at h
  · rename_i hcurrent
    simp only [Bool.and_eq_true, beq_iff_eq] at hcurrent
    obtain ⟨hsome, heq⟩ := hcurrent
    obtain ⟨signature, hs⟩ := Option.isSome_iff_exists.mp hsome
    split at h
    · rename_i found hfound
      exact ⟨⟨signature, hs, heq.symm.trans hs⟩, hfound.trans h⟩
    · contradiction
  · contradiction

lemma judge_value_of_current {q : Query} {key : CacheKey} {entry : Entry} {signature : Signature}
    (hcurrent : service q = some signature) (hentry : entry.signature = some signature) :
    (judge service s q key entry).1.value = Json.parse? entry.value := by
  simp only [judge, hcurrent, hentry, Option.isSome_some, beq_self_eq_true, Bool.and_true, if_true]
  split
  · rename_i value hvalue
    exact hvalue.symm
  · rename_i hnone
    exact hnone.symm

lemma judge_ticket (q : Query) (key : CacheKey) (entry : Entry) :
    (judge service s q key entry).1.ticket = some (.resolved key (service q)) := by
  simp only [judge]
  split
  · split <;> rfl
  · rfl

lemma lookup_store (q : Query) : (p.lookup service s q).2.store = s.store ∨
    ∃ key, (p.lookup service s q).2.store = (p.store.get s.store key).2 := by
  simp only [lookup]
  split
  · exact Or.inl rfl
  · split
    · exact Or.inl rfl
    · rename_i key hkey
      refine Or.inr ⟨key, ?_⟩
      dsimp only [PolicyState.bump]
      split
      · rw [judge_store]
      · rfl
      · rfl

lemma lookup_value {q : Query} {value : Json}
    (h : (p.lookup service s q).1.value = some value) :
    ∃ key entry signature, p.keyOf q = .ok key ∧
      (p.store.get s.store key).1 = .ok (some entry) ∧ service q = some signature ∧
      entry.signature = some signature ∧ Json.parse? entry.value = some value := by
  simp only [lookup] at h
  split at h
  · contradiction
  · split at h
    · contradiction
    · rename_i key hkey
      dsimp only [PolicyState.bump] at h
      split at h
      · rename_i entry hentry
        obtain ⟨⟨signature, hs, he⟩, hvalue⟩ := judge_value service _ h
        exact ⟨key, entry, signature, hkey, hentry, hs, he, hvalue⟩
      · contradiction
      · contradiction

lemma lookup_value_of_entry {q : Query} {key : CacheKey} {entry : Entry} {signature : Signature}
    (henabled : p.config.enabled = true) (hkey : p.keyOf q = .ok key)
    (hget : (p.store.get s.store key).1 = .ok (some entry))
    (hcurrent : service q = some signature) (hentry : entry.signature = some signature) :
    (p.lookup service s q).1.value = Json.parse? entry.value := by
  simp only [lookup, henabled, Bool.not_true, Bool.false_eq_true, if_false, hkey]
  dsimp only [PolicyState.bump]
  rw [hget]
  exact judge_value_of_current service _ hcurrent hentry

lemma lookup_ticket {q : Query} {ticket : Ticket}
    (h : (p.lookup service s q).1.ticket = some ticket) :
    p.keyOf q = .ok ticket.key ∧
      (ticket.signature = none ∨ ticket.signature = some (service q)) := by
  simp only [lookup] at h
  split at h
  · contradiction
  · split at h
    · contradiction
    · rename_i key hkey
      dsimp only [PolicyState.bump] at h
      split at h
      · rw [judge_ticket] at h
        rw [← Option.some.inj h]
        exact ⟨hkey, Or.inr rfl⟩
      · rw [← Option.some.inj h]
        exact ⟨hkey, Or.inl rfl⟩
      · rw [← Option.some.inj h]
        exact ⟨hkey, Or.inl rfl⟩

lemma lookup_ticket_of_value {q : Query} {value : Json}
    (h : (p.lookup service s q).1.value = some value) :
    ∃ key, (p.lookup service s q).1.ticket = some (.resolved key (service q)) := by
  simp only [lookup] at h ⊢
  split at h
  · contradiction
  · rename_i henabled
    rw [if_neg henabled]
    split at h
    · contradiction
    · rename_i key hkey
      dsimp only [PolicyState.bump] at h ⊢
      split at h
      · rename_i entry hentry
        exact ⟨key, judge_ticket service _ q key entry⟩
      · contradiction
      · contradiction

lemma put_store (key : CacheKey) (entry : Entry) :
    (p.put s key entry).2.store = (p.store.set s.store key entry).2 := by
  simp only [put]
  split <;> rfl

lemma put_stored {key : CacheKey} {entry : Entry} {signature : Option Signature} {length : Nat} :
    (p.put s key entry).1 = .stored signature length ↔
      (p.store.set s.store key entry).1 = .ok () ∧ entry.signature = signature ∧
        entry.value.utf8ByteSize = length := by
  simp only [put]
  split
  · rename_i hok
    simp [hok]
  · rename_i e he
    simp [he, fail]

lemma reachedStore_put (key : CacheKey) (entry : Entry) :
    (p.put s key entry).1.reachedStore = true := by
  simp only [put]
  split <;> rfl

lemma admits_iff {p : Policy σ} (hpartial : p.config.cachePartialData = false)
    (missing volatile : List Interval) :
    p.admits (.ofIntervals missing volatile) = true ↔ missing = [] ∧ volatile = [] := by
  simp [admits, hpartial, Verdict.ofIntervals, Verdict.isCacheable]

structure Admitted (v : Verdict) (entry : Entry) (payload : Json) : Prop where
  enabled : p.config.enabled = true
  admits : p.admits v = true
  fits : entry.value.utf8ByteSize ≤ p.config.maxResponseBytes.toNat
  value : entry.value = payload.compactText

def Withheld (r : WriteOutcome × PolicyState σ) : Prop :=
  r.2.store = s.store ∧ r.1.isStored = false

lemma writeWithTicket_cases (ticket : Ticket) (payload : Json) (q : Query) (v : Verdict) :
    Withheld s (p.writeWithTicket service s ticket payload q v) ∨
      ∃ entry, p.Admitted v entry payload ∧ entry.signature = ticket.signatureFor service q ∧
        p.writeWithTicket service s ticket payload q v = p.put s ticket.key entry := by
  simp only [writeWithTicket]
  split
  · exact Or.inl ⟨rfl, rfl⟩
  · rename_i henabled
    split
    · exact Or.inl ⟨rfl, rfl⟩
    · rename_i hadmits
      split
      · exact Or.inl ⟨rfl, rfl⟩
      · rename_i hlength
        refine Or.inr ⟨⟨ticket.signatureFor service q, payload.compactText⟩, ?_, rfl, rfl⟩
        exact ⟨by simpa using henabled, by simpa using hadmits, Nat.not_lt.mp hlength, rfl⟩

lemma write_cases (payload : Json) (q : Query) (v : Verdict) :
    Withheld s (p.write service s payload q v) ∨
      ∃ key entry, p.keyOf q = .ok key ∧ p.Admitted v entry payload ∧
        entry.signature = service q ∧ p.write service s payload q v = p.put s key entry := by
  simp only [write]
  split
  · exact Or.inl ⟨rfl, rfl⟩
  · split
    · exact Or.inl ⟨rfl, rfl⟩
    · split
      · rename_i key hkey
        rcases p.writeWithTicket_cases service s (.pending key) payload q v with
          h | ⟨entry, hadmitted, hsignature, hput⟩
        · exact Or.inl h
        · exact Or.inr ⟨key, entry, hkey, hadmitted, hsignature, hput⟩
      · exact Or.inl ⟨rfl, rfl⟩

lemma run_cases (w : PendingWrite)
    (hticket : ∀ ticket, w.ticket = some ticket → p.keyOf w.query = .ok ticket.key) :
    Withheld s (w.run p service s) ∨
      ∃ key entry, p.keyOf w.query = .ok key ∧ p.Admitted w.verdict entry w.payload ∧
        entry.signature = w.signatureFor service ∧ w.run p service s = p.put s key entry := by
  rw [PendingWrite.run, PendingWrite.signatureFor]
  cases hsome : w.ticket with
  | none => exact p.write_cases service s w.payload w.query w.verdict
  | some ticket =>
    rcases p.writeWithTicket_cases service s ticket w.payload w.query w.verdict with
      h | ⟨entry, hadmitted, hsignature, hput⟩
    · exact Or.inl h
    · exact Or.inr ⟨ticket.key, entry, hticket ticket hsome, hadmitted, hsignature, hput⟩

section Admitted

variable {p} {payload : Json} {q : Query} {v : Verdict} {entry : Entry}
  (h : p.Admitted v entry payload)
include h

lemma writeWithTicket_of_admitted {ticket : Ticket}
    (hsignature : entry.signature = ticket.signatureFor service q) :
    p.writeWithTicket service s ticket payload q v = p.put s ticket.key entry := by
  have hfits := h.fits
  rw [h.value] at hfits
  have hentry : entry = ⟨ticket.signatureFor service q, payload.compactText⟩ := by
    rw [← hsignature, ← h.value]
  simp only [writeWithTicket, h.enabled, h.admits, Bool.not_true, Bool.false_eq_true, if_false,
    if_neg (Nat.not_lt.mpr hfits), hentry]

lemma write_of_admitted {key : CacheKey} (hkey : p.keyOf q = .ok key)
    (hsignature : entry.signature = service q) :
    p.write service s payload q v = p.put s key entry := by
  simp only [write, h.enabled, h.admits, Bool.not_true, Bool.false_eq_true, if_false, hkey]
  exact writeWithTicket_of_admitted service s h hsignature

end Admitted

lemma run_of_admitted {p : Policy σ} {w : PendingWrite} {key : CacheKey} {entry : Entry}
    (h : p.Admitted w.verdict entry w.payload) (hkey : p.keyOf w.query = .ok key)
    (hticket : ∀ ticket, w.ticket = some ticket → ticket.key = key)
    (hsignature : entry.signature = w.signatureFor service) :
    w.run p service s = p.put s key entry := by
  rw [PendingWrite.signatureFor] at hsignature
  rw [PendingWrite.run]
  cases hsome : w.ticket with
  | none =>
    rw [hsome] at hsignature
    exact write_of_admitted service s h hkey hsignature
  | some ticket =>
    rw [hsome] at hsignature
    rw [← hticket ticket hsome]
    exact writeWithTicket_of_admitted service s h hsignature

end Policy

end AnswerCache
