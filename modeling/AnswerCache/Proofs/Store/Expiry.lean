import AnswerCache.Proofs.Store.Eviction
import AnswerCache.Proofs.Store.Runs
import Mathlib.Data.List.Induction
import Mathlib.Data.List.Nodup

/-!
Expiry: an entry is seen for as long as its time to live, counted from the last write under its key
however often it is read, and a sweep takes out exactly the entries that have outlived it.
-/

namespace AnswerCache

namespace MemoryStore

lemma filter_notMem_keys {held : List Held} (hdistinct : (held.map Held.key).Nodup)
    (chosen : Held → Bool) :
    held.filter (fun h => h.key ∉ (held.filter chosen).map Held.key) =
      held.filter fun h => !chosen h := by
  apply List.filter_congr
  intro h hmem
  have hkeys : h.key ∈ (held.filter chosen).map Held.key ↔ chosen h = true := by
    rw [List.mem_map]
    constructor
    · rintro ⟨k, hk, hkey⟩
      obtain ⟨hheld, hchosen⟩ := List.mem_filter.mp hk
      exact List.inj_on_of_nodup_map hdistinct hheld hmem hkey ▸ hchosen
    · exact fun hchosen => ⟨h, List.mem_filter.mpr ⟨hmem, hchosen⟩, rfl⟩
  simp [hkeys]

namespace Accounted

variable {s : MemoryStore} (hs : s.Accounted)
include hs

lemma expire_eq (key : CacheKey) : s.expire key = { s with
    held := without s.held key
    memoryUsed := bytes (without s.held key)
    expirations := s.expirations + 1 } := by
  rw [MemoryStore.expire, hs.remove_eq key]

lemma expireAll_eq (stale : List Held) :
    stale.foldl (fun s h => s.expire h.key) s = { s with
      held := s.held.filter fun h => h.key ∉ stale.map Held.key
      memoryUsed := bytes (s.held.filter fun h => h.key ∉ stale.map Held.key)
      expirations := s.expirations + stale.length } := by
  -- Each step leaves another store, in which every key is held once again.
  induction stale generalizing s with
  | nil =>
    have hall : s.held.filter (fun h => h.key ∉ ([] : List Held).map Held.key) = s.held :=
      List.filter_eq_self.mpr fun h _ => by simp
    rw [hall, ← hs.counted]
    rfl
  | cons first rest ih =>
    have hheld : (without s.held first.key).filter (fun h => h.key ∉ rest.map Held.key) =
        s.held.filter fun h => h.key ∉ (first :: rest).map Held.key := by
      rw [without, List.filter_filter]
      apply List.filter_congr
      intro h _
      rw [Bool.eq_iff_iff]
      simp [and_comm]
    rw [List.foldl_cons, ih (hs.expire first.key), hs.expire_eq]
    simp only [hheld, List.length_cons]
    rw [Nat.add_assoc, Nat.add_comm 1]

lemma expireStale_eq (now : Nat) :
    s.expireStale now = (s.held.countP (s.isExpired now), { s with
      held := s.held.filter fun h => !s.isExpired now h
      memoryUsed := bytes (s.held.filter fun h => !s.isExpired now h)
      expirations := s.expirations + s.held.countP (s.isExpired now) }) := by
  rw [expireStale, List.countP_eq_length_filter, ← filter_notMem_keys hs.distinct]
  exact congrArg (Prod.mk _) (hs.expireAll_eq _)

lemma expireStale_of_keys {now : Nat} {lives : CacheKey → Prop} [DecidablePred lives]
    (hlives : ∀ h ∈ s.held, s.isExpired now h = !decide (lives h.key)) :
    s.expireStale now = (s.held.countP fun h => ¬lives h.key, { s with
      held := s.held.filter fun h => lives h.key
      memoryUsed := bytes (s.held.filter fun h => lives h.key)
      expirations := s.expirations + s.held.countP fun h => ¬lives h.key }) := by
  have hkept : s.held.filter (fun h => !s.isExpired now h) =
      s.held.filter fun h => lives h.key := by
    apply List.filter_congr
    intro h hmem
    rw [hlives h hmem, Bool.not_not]
  have hcount : s.held.countP (s.isExpired now) = s.held.countP fun h => ¬lives h.key := by
    apply List.countP_congr
    intro h hmem
    rw [hlives h hmem, decide_not]
  rw [hs.expireStale_eq, hkept, hcount]

lemma get_of_expired {now : Nat} {key : CacheKey} {h : Held} (hf : s.find? key = some h)
    (hexpired : s.isExpired now h = true) : s.get now key = (none, { s with
      held := without s.held key
      memoryUsed := bytes (without s.held key)
      expirations := s.expirations + 1 }) := by
  rw [← hs.expire_eq]
  simp only [MemoryStore.get, hf, hexpired, if_true]

end Accounted

end MemoryStore

namespace ClockedMemory

open MemoryStore

def setTimes (key : CacheKey) (now : Nat) : List Turn → List Nat
  | [] => []
  | t :: rest =>
    if t.call.setsUnder key then (now + t.nanos) :: setTimes key (now + t.nanos) rest
    else setTimes key (now + t.nanos) rest

def lastSetTime? (past : List Turn) (key : CacheKey) : Option Nat :=
  (setTimes key 0 past).getLast?

/-- The key was set, and no longer ago than the time to live. -/
def Lives (ttl : Nat) (past : List Turn) (now : Nat) (key : CacheKey) : Prop :=
  ∃ time ∈ lastSetTime? past key, now - time ≤ ttl

instance (ttl : Nat) (past : List Turn) (now : Nat) (key : CacheKey) :
    Decidable (Lives ttl past now key) :=
  inferInstanceAs (Decidable (∃ time ∈ lastSetTime? past key, now - time ≤ ttl))

lemma setTimes_concat (key : CacheKey) (c : ClockedMemory) (turns : List Turn) (t : Turn) :
    setTimes key c.now (turns ++ [t]) = setTimes key c.now turns ++
      if t.call.setsUnder key then [(c.after turns).now + t.nanos] else [] := by
  induction turns generalizing c with
  | nil => rfl
  | cons first rest ih =>
    have hrest := ih (c.turn first).2
    rw [now_turn] at hrest
    rw [List.cons_append, setTimes, setTimes, hrest, after]
    split <;> rfl

lemma lastSetTime?_concat (config : StoreConfig) (past : List Turn) (t : Turn) (key : CacheKey) :
    lastSetTime? (past ++ [t]) key =
      if t.call.setsUnder key then some (((new config).after past).now + t.nanos)
      else lastSetTime? past key := by
  have htimes := setTimes_concat key (new config) past t
  have hstart : (new config).now = 0 := rfl
  rw [hstart] at htimes
  rw [lastSetTime?, lastSetTime?, htimes, List.getLast?_append]
  split <;> rfl

def Dated (past : List Turn) (c : ClockedMemory) : Prop :=
  ∀ h ∈ c.memory.held, lastSetTime? past h.key = some h.storedAt ∧ h.storedAt ≤ c.now

lemma dated_after (config : StoreConfig) (past : List Turn) :
    Dated past ((new config).after past) := by
  -- The last set is at the end of the run, so the run grows there.
  induction past using List.reverseRecOn with
  | nil => exact fun h hmem => absurd hmem List.not_mem_nil
  | append_singleton past t ih =>
    intro h hmem
    rw [after_concat] at hmem ⊢
    rw [lastSetTime?_concat config, now_turn]
    rcases mem_held_turn hmem with ⟨hother, hold⟩ | ⟨hdate, hset⟩
    · obtain ⟨htime, hpast⟩ := ih h hold
      rw [hother]
      exact ⟨htime, Nat.le_add_right_of_le hpast⟩
    · have hcall : t.call = .set h.key h.entry := congrArg Event.call hset
      have hunder : t.call.setsUnder h.key = true := by
        rw [hcall]
        exact beq_self_eq_true h.key
      rw [hunder, hdate]
      exact ⟨rfl, Nat.le_refl _⟩

lemma Dated.isExpired_eq {past : List Turn} {c : ClockedMemory} (hc : Dated past c) {ttl : Nat}
    (httl : c.memory.config.ttlNanos = some ttl) (now : Nat) {h : Held}
    (hmem : h ∈ c.memory.held) :
    c.memory.isExpired now h = !decide (Lives ttl past now h.key) := by
  have hlives : Lives ttl past now h.key ↔ now - h.storedAt ≤ ttl := by
    rw [Lives, (hc h hmem).1]
    simp
  simp only [isExpired, httl, hlives, ← Nat.not_lt, decide_not, Bool.not_not]

/-- An entry is found until its age, counted from the last write under its key, exceeds the time to
live. A read that comes later takes the entry out and counts it, and looking at it does not. A sweep
takes out and counts all such entries, and leaves the others as they stand. -/
theorem entries_live_from_last_set (config : StoreConfig) {ttl : Nat}
    (httl : config.ttlNanos = some ttl) (past : List Turn) (nanos : Nat) :
    let c := (new config).after past
    let s := c.memory
    let now := c.now + nanos
    (∀ h ∈ s.held, lastSetTime? past h.key = some h.storedAt ∧ h.storedAt ≤ now) ∧
      (∀ key h, s.find? key = some h → Lives ttl past now key →
        c.turn ⟨nanos, .get key⟩ = (⟨.get key, .found (some h.entry)⟩,
          ⟨{ s with held := h :: without s.held key }, now⟩) ∧
        c.turn ⟨nanos, .peek key⟩ = (⟨.peek key, .found (some h.entry)⟩, ⟨s, now⟩)) ∧
      (∀ key h, s.find? key = some h → ¬Lives ttl past now key →
        c.turn ⟨nanos, .get key⟩ = (⟨.get key, .found none⟩,
          ⟨{ s with
            held := without s.held key
            memoryUsed := bytes (without s.held key)
            expirations := s.expirations + 1 }, now⟩) ∧
        c.turn ⟨nanos, .peek key⟩ = (⟨.peek key, .found none⟩, ⟨s, now⟩)) ∧
      (∀ key, s.find? key = none →
        c.turn ⟨nanos, .get key⟩ = (⟨.get key, .found none⟩, ⟨s, now⟩) ∧
        c.turn ⟨nanos, .peek key⟩ = (⟨.peek key, .found none⟩, ⟨s, now⟩)) ∧
      c.turn ⟨nanos, .expireStale⟩ =
        (⟨.expireStale, .expired (s.held.countP fun h => ¬Lives ttl past now h.key)⟩,
          ⟨{ s with
            held := s.held.filter fun h => Lives ttl past now h.key
            memoryUsed := bytes (s.held.filter fun h => Lives ttl past now h.key)
            expirations := s.expirations + s.held.countP fun h => ¬Lives ttl past now h.key },
            now⟩) := by
  intro c s now
  have hs : s.Accounted := accounted_memory config past
  have hdated : Dated past c := dated_after config past
  have httl' : s.config.ttlNanos = some ttl := by
    rw [show s.config = config from config_after (new config) past]
    exact httl
  refine ⟨?dates, ?fresh, ?expired, ?missing, ?sweep⟩
  case dates =>
    intro h hmem
    obtain ⟨htime, hpast⟩ := hdated h hmem
    exact ⟨htime, Nat.le_add_right_of_le hpast⟩
  case fresh =>
    intro key h hf hlives
    obtain ⟨hmem, rfl⟩ := find?_eq_some hf
    have hfresh := hdated.isExpired_eq httl' now hmem
    rw [decide_eq_true hlives] at hfresh
    exact turn_reads (get_of_fresh hf hfresh)
  case expired =>
    intro key h hf hlives
    obtain ⟨hmem, rfl⟩ := find?_eq_some hf
    have hexpired := hdated.isExpired_eq httl' now hmem
    rw [decide_eq_false hlives] at hexpired
    exact turn_reads (hs.get_of_expired hf hexpired)
  case missing => exact fun key hf => turn_reads (get_of_missing now hf)
  case sweep =>
    have hlives := fun h hmem => hdated.isExpired_eq httl' now (h := h) hmem
    exact turn_sweeps (hs.expireStale_of_keys hlives)

def brief : StoreConfig := { ttlMs := some 50 }

def readOnce : List Turn :=
  [⟨0, .set ⟨"first"⟩ ⟨none, "1"⟩⟩, ⟨30000000, .get ⟨"first"⟩⟩]

theorem reading_adds_no_time :
    let c := (new brief).after readOnce
    (c.turn ⟨20000000, .get ⟨"first"⟩⟩).1.answer = .found (some ⟨none, "1"⟩) ∧
      (c.turn ⟨20000001, .get ⟨"first"⟩⟩).1.answer = .found none ∧
      (c.turn ⟨20000001, .expireStale⟩).1.answer = .expired 1 := by
  intro c
  have httl : brief.ttlNanos = some 50000000 := rfl
  have hheld : c.memory.find? ⟨"first"⟩ = some ⟨⟨"first"⟩, ⟨none, "1"⟩, 0⟩ := by
    decide +kernel
  obtain ⟨-, hfresh, -⟩ := entries_live_from_last_set brief httl readOnce 20000000
  obtain ⟨-, -, hexpired, -, hsweep⟩ := entries_live_from_last_set brief httl readOnce 20000001
  rw [(hfresh _ _ hheld (by decide +kernel)).1, (hexpired _ _ hheld (by decide +kernel)).1, hsweep]
  exact ⟨rfl, rfl, congrArg Answer.expired (by decide +kernel)⟩

end ClockedMemory

end AnswerCache
