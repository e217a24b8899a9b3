import AnswerCache.Time.Instant

namespace AnswerCache

structure Interval where
  start : Instant
  stop : Instant
  start_milli : start.IsMilli
  stop_milli : stop.IsMilli
  start_le_stop : start ≤ stop
  deriving DecidableEq

namespace Interval

def of? (start stop : Instant) : Option Interval :=
  if h : start.floorMilli ≤ stop.floorMilli then
    some ⟨_, _, start.isMilli_floorMilli, stop.isMilli_floorMilli, h⟩
  else none

def Contains (i : Interval) (t : Instant) : Prop :=
  i.start ≤ t ∧ t < i.stop

instance (i : Interval) (t : Instant) : Decidable (i.Contains t) :=
  inferInstanceAs (Decidable (_ ∧ _))

def isEmpty (i : Interval) : Bool :=
  i.start == i.stop

def intersects (i j : Interval) : Bool :=
  i.start < j.stop && j.start < i.stop

def abutsOrOverlaps (i j : Interval) : Bool :=
  i.start ≤ j.stop && j.start ≤ i.stop

def compare (i j : Interval) : Ordering :=
  (Ord.compare i.start.position j.start.position).then
    (Ord.compare i.stop.position j.stop.position)

def precedes (i j : Interval) : Bool :=
  (compare i j).isLE

end Interval

end AnswerCache
