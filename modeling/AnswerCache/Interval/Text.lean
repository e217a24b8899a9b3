import AnswerCache.Interval.Basic
import AnswerCache.Time.Printer
import AnswerCache.Time.Reader

namespace AnswerCache

inductive Interval.Fault
  | notAPair
  | badStart
  | badEnd
  | reversed
  | other (reason : String)
  deriving DecidableEq

structure IntervalError where
  text : String
  fault : Interval.Fault
  deriving DecidableEq

def Interval.Fault.message : Fault → String
  | notAPair => "expected 'start/end'"
  | badStart => "unparseable start"
  | badEnd => "unparseable end"
  | reversed => "end precedes start"
  | other reason => reason

def IntervalError.message (e : IntervalError) : String :=
  "Invalid interval '" ++ e.text ++ "': " ++ e.fault.message

namespace Interval

def pairText (start stop : Instant) : List Char :=
  start.written ++ '/' :: stop.written

def written (i : Interval) : String :=
  String.ofList (pairText i.start i.stop)

def new (start stop : Instant) : Except IntervalError Interval :=
  match of? start stop with
  | some i => .ok i
  | none => .error ⟨String.ofList (pairText start.floorMilli stop.floorMilli), .reversed⟩

def splitSlash (cs : List Char) : Option (List Char × List Char) :=
  match cs.dropWhile (· != '/') with
  | [] => none
  | _ :: rest => some (cs.takeWhile (· != '/'), rest)

def parse (text : String) : Except IntervalError Interval :=
  match splitSlash text.toList with
  | none => .error ⟨text, .notAPair⟩
  | some (left, right) =>
    match Instant.parse? (Text.trim left), Instant.parse? (Text.trim right) with
    | none, _ => .error ⟨text, .badStart⟩
    | _, none => .error ⟨text, .badEnd⟩
    | some start, some stop => new start stop

end Interval

end AnswerCache
