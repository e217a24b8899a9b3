import AnswerCache.Text.Emoji
import AnswerCache.Text.Hidden
import AnswerCache.Text.Wide

/-!
Characters that are drawn as one with those before them: emoji in a sequence, and letters of some
scripts. A line is read from its end, so what is kept of it is what begins behind the place reached.
-/

namespace AnswerCache.Text

def weightlessRanges : List (Nat × Nat) :=
  [(0x605, 0x605), (0x70F, 0x70F), (0x890, 0x891), (0x8E2, 0x8E2), (0xD4E, 0xD4E), (0x1160, 0x11FF),
    (0xA8FA, 0xA8FA), (0xD7B0, 0xD7C6), (0xD7CB, 0xD7FB), (0x111C2, 0x111C3), (0x113D1, 0x113D1),
    (0x1193F, 0x1193F), (0x11941, 0x11941), (0x11A3A, 0x11A3A), (0x11A84, 0x11A89),
    (0x11D46, 0x11D46), (0x11F02, 0x11F02)]

def isWeightless (c : Char) : Bool :=
  c.toNat != 0x115F && c.toNat != 0x2D7F &&
    (isMark c || isIgnorable c || within weightlessRanges c)

def charWidth (c : Char) : Nat :=
  if c.toNat = 0x17D8 then 3
  else if c.toNat = 0x17A4 then 2
  else if isWeightless c then 0
  else if isWide c then 2
  else 1

def separatingRanges : List (Nat × Nat) :=
  [(0x605, 0x605), (0x890, 0x891), (0x8E2, 0x8E2), (0x9BE, 0x9BE), (0x9D7, 0x9D7), (0xB3E, 0xB3E),
    (0xB57, 0xB57), (0xBBE, 0xBBE), (0xBD7, 0xBD7), (0xCC0, 0xCC0), (0xCC2, 0xCC2), (0xCC7, 0xCC8),
    (0xCCA, 0xCCB), (0xCD5, 0xCD6), (0xD3E, 0xD3E), (0xD4E, 0xD4E), (0xD57, 0xD57), (0xDCF, 0xDCF),
    (0xDDF, 0xDDF), (0x1160, 0x11FF), (0x1715, 0x1715), (0x1734, 0x1734), (0x180E, 0x180E),
    (0x1B35, 0x1B35), (0x1B3B, 0x1B3B), (0x1B3D, 0x1B3D), (0x1B43, 0x1B44), (0x1BAA, 0x1BAA),
    (0x1BF2, 0x1BF3), (0x200C, 0x200D), (0x2065, 0x2069), (0x302E, 0x302F), (0x3164, 0x3164),
    (0xA8FA, 0xA8FA), (0xA953, 0xA953), (0xA9C0, 0xA9C0), (0xD7B0, 0xD7C6), (0xD7CB, 0xD7FB),
    (0xFFA0, 0xFFA0), (0xFFF0, 0xFFF8), (0x111C0, 0x111C0), (0x111C2, 0x111C3), (0x11235, 0x11235),
    (0x1133E, 0x1133E), (0x1134D, 0x1134D), (0x11357, 0x11357), (0x113B8, 0x113B8),
    (0x113C2, 0x113C2), (0x113C5, 0x113C5), (0x113C7, 0x113C9), (0x113CF, 0x113CF),
    (0x113D1, 0x113D1), (0x114B0, 0x114B0), (0x114BD, 0x114BD), (0x115AF, 0x115AF),
    (0x116B6, 0x116B6), (0x11930, 0x11930), (0x1193D, 0x1193D), (0x1193F, 0x1193F),
    (0x11941, 0x11941), (0x11A3A, 0x11A3A), (0x11A84, 0x11A89), (0x11D46, 0x11D46),
    (0x11F02, 0x11F02), (0x11F41, 0x11F41), (0x16FF0, 0x16FF1), (0x1D165, 0x1D166),
    (0x1D16D, 0x1D172), (0xE0000, 0xE0000), (0xE0002, 0xE001F), (0xE0080, 0xE00FF),
    (0xE01F0, 0xE0FFF)]

def ignorableMarks : List (Nat × Nat) :=
  [(0x34F, 0x34F), (0x17B4, 0x17B5), (0x180B, 0x180D), (0x180F, 0x180F), (0xFE00, 0xFE0F),
    (0xE0100, 0xE01EF)]

def arabicLam : List (Nat × Nat) :=
  [(0x644, 0x644), (0x6B5, 0x6B8), (0x76A, 0x76A), (0x8A6, 0x8A6), (0x8C7, 0x8C7)]

def arabicAlef : List (Nat × Nat) :=
  [(0x622, 0x623), (0x625, 0x625), (0x627, 0x627), (0x671, 0x673), (0x675, 0x675), (0x773, 0x774),
    (0x870, 0x882)]

def khmerSubscripts : List (Nat × Nat) :=
  [(0x1780, 0x1782), (0x1784, 0x1787), (0x1789, 0x178C), (0x178E, 0x1793), (0x1795, 0x1798),
    (0x179B, 0x179D), (0x17A0, 0x17A0), (0x17A2, 0x17A2), (0x17A7, 0x17A7), (0x17AB, 0x17AC),
    (0x17AF, 0x17AF)]

def tifinaghConsonants : List (Nat × Nat) :=
  [(0x2D31, 0x2D65), (0x2D6F, 0x2D6F)]

def isJoiner (c : Char) : Bool :=
  c.toNat == 0x200D

def isTagLetter (c : Char) : Bool :=
  0xE0061 ≤ c.toNat && c.toNat ≤ 0xE007A

def isTagDigit (c : Char) : Bool :=
  0xE0030 ≤ c.toNat && c.toNat ≤ 0xE0039

inductive Letter
  | alef
  | lamed
  | khmer
  | ya
  | vowelBeforeYa
  | tifinagh
  | tifinaghJoiner
  | lisuTone
  | orkhonI
  deriving DecidableEq

inductive Ahead
  | other
  | letter (l : Letter) (joined : Bool)
  | kiratRaiE
  | kiratRaiAi
  | picture
  | skinTone
  | flagLetter
  | flagLetters
  | joinedPicture
  | joinedKeycap
  | joinedFlagLetter
  | joinedFlags (even : Bool)
  | joinedTags (digits letters : Nat)
  deriving DecidableEq

namespace Ahead

def of (c : Char) : Ahead :=
  if within arabicAlef c then letter .alef false
  else if c.toNat = 0x5DC then letter .lamed false
  else if within khmerSubscripts c then letter .khmer false
  else if c.toNat = 0x1A10 then letter .ya false
  else if within tifinaghConsonants c then letter .tifinagh false
  else if c.toNat = 0xA4FC ∨ c.toNat = 0xA4FD then letter .lisuTone false
  else if c.toNat = 0x10C03 then letter .orkhonI false
  else if c.toNat = 0x16D67 then kiratRaiE
  else if c.toNat = 0x16D68 then kiratRaiAi
  else if isFlagLetter c then flagLetter
  else if isSkinTone c then skinTone
  else if isPicture c then picture
  else other

def mergeLetter (c : Char) (joined : Bool) : Letter → Option (Int × Ahead)
  | .alef =>
    if within arabicLam c then some (0, other)
    else if charWidth c = 0 ∧ !within separatingRanges c then some (0, letter .alef joined)
    else none
  | .lamed => if joined ∧ c.toNat = 0x5D0 then some (0, other) else none
  | .khmer => if c.toNat = 0x17D2 then some (-1, other) else none
  | .ya => if joined ∧ c.toNat = 0x1A17 then some (0, letter .vowelBeforeYa false) else none
  | .vowelBeforeYa => if c.toNat = 0x1A15 then some (0, other) else none
  | .tifinagh =>
    if c.toNat = 0x2D7F then some (1, letter .tifinaghJoiner false)
    else if joined ∧ within tifinaghConsonants c then some (0, other)
    else none
  | .tifinaghJoiner => if within tifinaghConsonants c then some (-1, other) else none
  | .lisuTone => if 0xA4F8 ≤ c.toNat ∧ c.toNat ≤ 0xA4FB then some (0, other) else none
  | .orkhonI => if joined ∧ c.toNat = 0x10C32 then some (0, other) else none

def isJoinable : Ahead → Bool
  | picture | skinTone | flagLetters | joinedFlags _ => true
  | _ => false

def merge (c : Char) (ahead : Ahead) : Option (Int × Ahead) :=
  if isJoiner c ∧ ahead.isJoinable then some (0, joinedPicture)
  else
    match ahead with
    | letter l joined =>
      if l ≠ .alef ∧ isJoiner c then some (0, letter l true)
      else if l ≠ .alef ∧ within ignorableMarks c then some (0, letter l joined)
      else mergeLetter c joined l
    | kiratRaiE =>
      if c.toNat = 0x16D63 ∨ c.toNat = 0x16D69 then some (0, other)
      else if c.toNat = 0x16D67 then some (0, kiratRaiAi)
      else if c.toNat = 0x16D68 then some (1, kiratRaiE)
      else none
    | kiratRaiAi => if c.toNat = 0x16D63 then some (0, other) else none
    | skinTone => if isTintable c then some (0, picture) else none
    | flagLetter | flagLetters => if isFlagLetter c then some (1, flagLetters) else none
    | joinedPicture =>
      if c.toNat = 0x20E3 then some (0, joinedKeycap)
      else if isFlagLetter c then some (1, joinedFlagLetter)
      else if isSkinTone c then some (0, skinTone)
      else if c.toNat = 0xE007F then some (0, joinedTags 0 0)
      else if isPicture c then some (0, picture)
      else none
    | joinedFlagLetter => if isFlagLetter c then some (-1, joinedFlags true) else none
    | joinedFlags even =>
      if isFlagLetter c then some (if even then 3 else -1, joinedFlags (!even)) else none
    | joinedTags digits letters =>
      if isTagLetter c ∧ digits = 0 ∧ letters < 6 then some (0, joinedTags 0 (letters + 1))
      else if isTagDigit c ∧ digits < 3 ∧ (0 < digits ∨ letters ≤ 4) then
        some (0, joinedTags (digits + 1) letters)
      else if c.toNat = 0x1F3F4 ∧ (digits = 3 ∨ digits = 0 ∧ 3 ≤ letters) then some (0, picture)
      else none
    | _ => none

end Ahead

end AnswerCache.Text
