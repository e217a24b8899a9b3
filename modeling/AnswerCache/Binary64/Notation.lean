import AnswerCache.Binary64.Shortest

namespace AnswerCache.Binary64

structure Style where
  positionalFrom : Int
  positionalBelow : Int

def jsonStyle : Style := ⟨-5, 16⟩

namespace Decimal

def leading (d : Decimal) : Int :=
  d.exponent + (Text.decimal d.significand).length - 1

def positional (d : Decimal) : List Char :=
  let digits := Text.decimal d.significand
  let point := digits.length + d.exponent
  if 0 ≤ d.exponent then digits ++ List.replicate d.exponent.toNat '0' ++ ['.', '0']
  else if 0 < point then digits.take point.toNat ++ '.' :: digits.drop point.toNat
  else '0' :: '.' :: List.replicate (-point).toNat '0' ++ digits

def scientific (d : Decimal) : List Char :=
  let power := (if d.leading < 0 then '-' else '+') :: Text.decimal d.leading.natAbs
  match Text.decimal d.significand with
  | [] => []
  | [digit] => digit :: 'e' :: power
  | digit :: rest => digit :: '.' :: rest ++ 'e' :: power

def written (style : Style) (d : Decimal) : List Char :=
  if style.positionalFrom ≤ d.leading ∧ d.leading < style.positionalBelow then d.positional
  else d.scientific

end Decimal

def Finite.written (x : Finite) : List Char :=
  let magnitude := if x.isZero then ['0', '.', '0'] else x.shortest.written jsonStyle
  if x.negative then '-' :: magnitude else magnitude

def Finite.fixed (places : Nat) (x : Finite) : List Char :=
  let scaled := roundQuotient (x.steps * Nat.pow 10 places) stepsPerUnit
  let magnitude := Text.decimal (scaled / Nat.pow 10 places) ++
    '.' :: Text.padded places (scaled % Nat.pow 10 places)
  if x.negative then '-' :: magnitude else magnitude

def fixed (places : Nat) : Binary64 → List Char
  | finite x => x.fixed places
  | infinite negative => (if negative then "-inf" else "inf").toList
  | nan => "NaN".toList

end AnswerCache.Binary64
