import AnswerCache.Text.Decimal
import AnswerCache.Time.Instant

namespace AnswerCache

def Date.yearText (year : Int) : List Char :=
  if 0 ≤ year ∧ year ≤ 9999 then Text.padded 4 year.toNat
  else (if year < 0 then '-' else '+') :: Text.padded 4 year.natAbs

def Date.written (d : Date) : List Char :=
  yearText d.year ++ '-' :: Text.padded 2 d.month ++ '-' :: Text.padded 2 d.day

def ClockTime.toSecond (t : ClockTime) : List Char :=
  Text.padded 2 t.hour ++ ':' :: Text.padded 2 t.minute ++ ':' :: Text.padded 2 t.second

def ClockTime.millis (t : ClockTime) : List Char :=
  '.' :: Text.padded 3 (t.nano / Instant.perMilli)

namespace Instant

def written (t : Instant) : List Char :=
  t.date.written ++ 'T' :: t.time.toSecond ++ t.time.millis ++ ['Z']

def identifying (t : Instant) : List Char :=
  t.date.written ++ 'T' :: t.time.toSecond ++
    (if t.time.nano / perMilli = 0 then [] else t.time.millis) ++ "+00:00".toList

end Instant

end AnswerCache
