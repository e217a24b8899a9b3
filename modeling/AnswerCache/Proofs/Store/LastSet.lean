import AnswerCache.Proofs.Store.Runs
import Mathlib.Data.List.Induction

namespace AnswerCache.ClockedMemory

open MemoryStore (get_eq_peek)

def Call.reads? : Call → Option CacheKey
  | get key => some key
  | peek key => some key
  | _ => none

def Event.setUnder? (key : CacheKey) : Event → Option (Entry × Except StoreError Unit)
  | ⟨.set k entry, .wrote result⟩ => if k = key then some (entry, result) else none
  | _ => none

def lastSet? (past : List Event) (key : CacheKey) : Option (Entry × Except StoreError Unit) :=
  (past.filterMap (Event.setUnder? key)).getLast?

lemma lastSet?_concat (past : List Event) (e : Event) (key : CacheKey) :
    lastSet? (past ++ [e]) key = (e.setUnder? key).or (lastSet? past key) := by
  rw [lastSet?, List.filterMap_append, List.getLast?_append]
  cases h : e.setUnder? key with
  | none => simp [h, lastSet?]
  | some set => simp [h]

def LastSetHeld (past : List Event) (c : ClockedMemory) : Prop :=
  ∀ h ∈ c.memory.held, lastSet? past h.key = some (h.entry, .ok ())

lemma setUnder?_turn {c : ClockedMemory} {t : Turn} {key : CacheKey}
    (h : t.call.setsUnder key = false) : (c.turn t).1.setUnder? key = none := by
  obtain ⟨nanos, call⟩ := t
  cases call with
  | set k entry => exact if_neg (ne_of_beq_false h)
  | get k | peek k | expireStale => rfl

lemma LastSetHeld.turn {past : List Event} {c : ClockedMemory} (hc : LastSetHeld past c)
    (t : Turn) : LastSetHeld (past ++ [(c.turn t).1]) (c.turn t).2 := by
  intro h hmem
  rw [lastSet?_concat]
  rcases mem_held_turn hmem with ⟨hother, hold⟩ | ⟨-, hset⟩
  · rw [setUnder?_turn hother]
    exact hc h hold
  · rw [hset, Event.setUnder?, if_pos rfl]
    rfl

lemma lastSetHeld_after (config : StoreConfig) (turns : List Turn) :
    LastSetHeld ((new config).history turns) ((new config).after turns) := by
  induction turns using List.reverseRecOn with
  | nil => exact fun h hmem => absurd hmem List.not_mem_nil
  | append_singleton turns t ih =>
    rw [history_concat, after_concat]
    exact ih.turn t

lemma answer_of_reads {c : ClockedMemory} {t : Turn} {key : CacheKey}
    (hreads : t.call.reads? = some key) :
    (c.turn t).1.answer = .found (c.memory.peek (c.now + t.nanos) key) := by
  obtain ⟨nanos, call⟩ := t
  cases call with
  | get k =>
    obtain rfl := Option.some.inj hreads
    exact congrArg Answer.found (get_eq_peek _ _ _)
  | set k entry => contradiction
  | peek k =>
    obtain rfl := Option.some.inj hreads
    rfl
  | expireStale => contradiction

end AnswerCache.ClockedMemory
