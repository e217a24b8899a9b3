import AnswerCache.Interval.Basic

/-!
Sets of instants covered by lists of intervals: their union in normal form, and their difference
from one interval.
-/

namespace AnswerCache.Interval

def Covers (is : List Interval) (t : Instant) : Prop :=
  ∃ i ∈ is, i.Contains t

def extendTo (i j : Interval) : Interval :=
  if h : i.stop ≤ j.stop then
    { i with
      stop := j.stop
      stop_milli := j.stop_milli
      start_le_stop := Int.le_trans i.start_le_stop h }
  else i

def mergeFrom (piece : Interval) : List Interval → List Interval
  | [] => [piece]
  | i :: rest =>
    if piece.abutsOrOverlaps i then mergeFrom (piece.extendTo i) rest
    else piece :: mergeFrom i rest

def merge : List Interval → List Interval
  | [] => []
  | i :: rest => mergeFrom i rest

def simplify (is : List Interval) : List Interval :=
  merge ((is.filter fun i => !i.isEmpty).mergeSort precedes)

def cutOut (i : Interval) : List Interval → List Interval
  | [] => if i.isEmpty then [] else [i]
  | piece :: rest =>
    let before :=
      if h : i.start < piece.start then
        [{ i with
            stop := piece.start
            stop_milli := piece.start_milli
            start_le_stop := Int.le_of_lt h }]
      else []
    let reached := if i.start ≤ piece.stop then piece.stop else i.start
    if h : reached < i.stop then
      before ++ cutOut
        { i with
          start := reached
          start_milli := by
            simp only [reached]
            split
            · exact piece.stop_milli
            · exact i.start_milli
          start_le_stop := Int.le_of_lt h } rest
    else before

def subtract (i : Interval) (covered : List Interval) : List Interval :=
  cutOut i ((simplify covered).filter i.intersects)

end AnswerCache.Interval
