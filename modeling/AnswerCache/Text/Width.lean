import AnswerCache.Text.Ligature

namespace AnswerCache.Text

inductive Style
  | text
  | picture
  | wide
  deriving DecidableEq

def Style.of? (c : Char) : Option Style :=
  if c.toNat = 0xFE01 then some wide
  else if c.toNat = 0xFE0E then some text
  else if c.toNat = 0xFE0F then some picture
  else none

structure Following where
  style : Option Style
  ahead : Ahead

namespace Following

def plain : Following :=
  ⟨none, .other⟩

def unstyled (f : Following) : Ahead :=
  match f.style, f.ahead with
  | none, ahead => ahead
  | some _, .letter l joined => .letter l joined
  | some _, _ => .other

def select (style : Style) (f : Following) : Following :=
  match f.unstyled with
  | .letter l joined => ⟨some style, .letter l joined⟩
  | .joinedPicture => ⟨some style, if style = .picture then .joinedPicture else .other⟩
  | .joinedKeycap => ⟨some style, if style = .picture then .joinedKeycap else .other⟩
  | _ => ⟨some style, .other⟩

def isJoined (f : Following) : Bool :=
  f.ahead == .joinedPicture || f.ahead == .joinedKeycap

end Following

def isQuotationMark (c : Char) : Bool :=
  c.toNat == 0x2018 || c.toNat == 0x2019 || c.toNat == 0x201C || c.toNat == 0x201D

def isTextual (c : Char) : Bool :=
  isPicture c && isStyled c && !(0x1F200 ≤ c.toNat && c.toNat ≤ 0x1F2FF)

def step (c : Char) (f : Following) : Int × Following :=
  if f.style = some .picture ∧ isStyled c then
    (if f.isJoined then 0 else 2, ⟨none, .picture⟩)
  else if c.toNat ≤ 0xA0 then (1, .plain)
  else
    match Style.of? c with
    | some style => (0, f.select style)
    | none =>
      if f.style = some .text ∧ isTextual c then (1, .plain)
      else if f.style = some .wide ∧ isQuotationMark c then (2, .plain)
      else
        match f.unstyled.merge c with
        | some (columns, ahead) => (columns, ⟨none, ahead⟩)
        | none => (charWidth c, ⟨none, .of c⟩)

def columns (cs : List Char) : Int × Following :=
  cs.foldr (fun c (sum, f) => let (more, f) := step c f; (sum + more, f)) (0, .plain)

def width (cs : List Char) : Nat :=
  (columns cs).1.toNat

end AnswerCache.Text
