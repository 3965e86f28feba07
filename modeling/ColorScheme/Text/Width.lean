import ColorScheme.Text.Columns

/-!
The number of terminal columns of a text. A character's share depends on what
follows it: a selector turns a sign into an emoji, joined emoji take the place of
one, and some pairs of letters are written as one. So a text is measured from
its end, and each step hands what it has seen to the character before.
-/

namespace ColorScheme.Text

namespace Width

/-- Letters that merge with the ones before them, some only across a joiner. -/
inductive Pairing where
  | lamed | joinedLamed
  | ya | joinedYa | vowelJoinedYa
  | tifinagh | joinedTifinagh | linkedTifinagh
  | toneLetter
  | orkhonI | joinedOrkhonI
  | coengLetter
  deriving DecidableEq

namespace Pairing

/-- The pairing once a zero-width joiner stands before its letter. -/
def joined : Pairing → Pairing
  | lamed => joinedLamed
  | ya => joinedYa
  | tifinagh => joinedTifinagh
  | orkhonI => joinedOrkhonI
  | p => p

end Pairing

/-- What the characters after a place have begun, as far as it bears on the
character before them. -/
inductive Sequel where
  | none
  | lineFeed
  | skinTone
  | regional
  | regionals
  | emoji
  | joinedEmoji
  | joinedKeycap
  | joinedRegional
  | joinedRegionalPairs
  | joinedRegionalOdd
  | joinedTagEnd
  | joinedTagDigits (count : Nat)
  | joinedTagLetters (count : Nat)
  | alef
  | pairing (p : Pairing)
  deriving DecidableEq

/-- What follows a place, with the selectors that stand in front of it. -/
structure Following where
  sequel : Sequel := .none
  asEmoji : Bool := false
  asText : Bool := false
  deriving DecidableEq

namespace Following

/-- Whether a selector lets what follows it show through. -/
def passesSelectors : Sequel → Bool
  | .alef | .pairing _ => true
  | _ => false

/-- Whether an emoji before what follows is joined to it. -/
def isJoined : Sequel → Bool
  | .joinedEmoji | .joinedKeycap => true
  | _ => false

def selectEmoji (f : Following) : Following :=
  if passesSelectors f.sequel || (isJoined f.sequel && !f.asEmoji) then
    { f with asEmoji := true }
  else { asEmoji := true }

def dropEmoji (f : Following) : Following :=
  if passesSelectors f.sequel then { f with asEmoji := false } else {}

def selectText (f : Following) : Following :=
  if passesSelectors f.sequel then { f with asText := true } else { asText := true }

end Following

/-- The columns of a character on its own, and what it begins. -/
def standing (c : Char) : Int × Following :=
  let n := c.toNat
  if n = 0x5DC then (1, { sequel := .pairing .lamed })
  else if alefs.has c then (1, { sequel := .alef })
  else if coengLetters.has c then (1, { sequel := .pairing .coengLetter })
  else if n = 0x17D8 then (3, {})
  else if n = 0x1A10 then (1, { sequel := .pairing .ya })
  else if tifinaghConsonants.has c then (1, { sequel := .pairing .tifinagh })
  else if n = 0xA4FC || n = 0xA4FD then (1, { sequel := .pairing .toneLetter })
  else if n = 0xFE0E then (0, { asText := true })
  else if n = 0xFE0F then (0, { asEmoji := true })
  else if n = 0x10C03 then (1, { sequel := .pairing .orkhonI })
  else if 0x1F1E6 ≤ n && n ≤ 0x1F1FF then (1, { sequel := .regional })
  else if 0x1F3FB ≤ n && n ≤ 0x1F3FF then (2, { sequel := .skinTone })
  else if emojiByDefault.has c then (2, { sequel := .emoji })
  else if zeroColumns.has c then (0, {})
  else if twoColumns.has c then (2, {})
  else (1, {})

/-- The columns of a character before a pair's second letter, if it is merged
with it. -/
def pairColumns? (p : Pairing) (c : Char) : Option (Int × Following) :=
  let n := c.toNat
  match p with
  | .joinedLamed => if n = 0x5D0 then some (0, {}) else none
  | .coengLetter => if n = 0x17D2 then some (-1, {}) else none
  | .joinedYa =>
      if n = 0x1A17 then some (0, { sequel := .pairing .vowelJoinedYa }) else none
  | .vowelJoinedYa => if n = 0x1A15 then some (0, {}) else none
  | .tifinagh =>
      if n = 0x2D7F then some (1, { sequel := .pairing .linkedTifinagh }) else none
  | .joinedTifinagh =>
      if n = 0x2D7F then some (1, { sequel := .pairing .linkedTifinagh })
      else if tifinaghConsonants.has c then some (0, {})
      else none
  | .linkedTifinagh => if tifinaghConsonants.has c then some (-1, {}) else none
  | .toneLetter => if 0xA4F8 ≤ n && n ≤ 0xA4FB then some (0, {}) else none
  | .joinedOrkhonI => if n = 0x10C32 then some (0, {}) else none
  | .lamed | .ya | .orkhonI => none

/-- The columns of a character before an emoji sequence or a merging letter, if
it is part of it. -/
def sequenceColumns? (s : Sequel) (c : Char) : Option (Int × Following) :=
  let n := c.toNat
  let isRegional := decide (0x1F1E6 ≤ n) && decide (n ≤ 0x1F1FF)
  let isTagLetter := decide (0xE0061 ≤ n) && decide (n ≤ 0xE007A)
  let isTagDigit := decide (0xE0030 ≤ n) && decide (n ≤ 0xE0039)
  match s with
  | .none | .lineFeed => none
  | .alef =>
      if lams.has c then some (0, {})
      else if (standing c).1 = 0 && !joiningBarriers.has c then some (0, { sequel := .alef })
      else none
  | .pairing p => pairColumns? p c
  | .skinTone =>
      if skinToneBases.has c then some (0, { sequel := .emoji })
      else if n = 0x200D then some (0, { sequel := .joinedEmoji })
      else none
  | .regional => if isRegional then some (1, { sequel := .regionals }) else none
  | .regionals =>
      if isRegional then some (1, { sequel := .regionals })
      else if n = 0x200D then some (0, { sequel := .joinedEmoji })
      else none
  | .emoji => if n = 0x200D then some (0, { sequel := .joinedEmoji }) else none
  | .joinedEmoji =>
      if n = 0x20E3 then some (0, { sequel := .joinedKeycap })
      else if isRegional then some (1, { sequel := .joinedRegional })
      else if 0x1F3FB ≤ n && n ≤ 0x1F3FF then some (0, { sequel := .skinTone })
      else if n = 0xE007F then some (0, { sequel := .joinedTagEnd })
      else if emojiByDefault.has c then some (0, { sequel := .emoji })
      else none
  | .joinedKeycap => none
  | .joinedRegional =>
      if isRegional then some (-1, { sequel := .joinedRegionalPairs }) else none
  | .joinedRegionalOdd =>
      if isRegional then some (-1, { sequel := .joinedRegionalPairs })
      else if n = 0x200D then some (0, { sequel := .joinedEmoji })
      else none
  | .joinedRegionalPairs =>
      if isRegional then some (3, { sequel := .joinedRegionalOdd })
      else if n = 0x200D then some (0, { sequel := .joinedEmoji })
      else none
  | .joinedTagEnd =>
      if isTagLetter then some (0, { sequel := .joinedTagLetters 1 })
      else if isTagDigit then some (0, { sequel := .joinedTagDigits 1 })
      else none
  | .joinedTagLetters count =>
      if isTagLetter && count < 6 then some (0, { sequel := .joinedTagLetters (count + 1) })
      else if isTagDigit && count < 5 then some (0, { sequel := .joinedTagDigits 1 })
      else if n = 0x1F3F4 && 3 ≤ count then some (0, { sequel := .emoji })
      else none
  | .joinedTagDigits count =>
      if isTagDigit && count < 3 then some (0, { sequel := .joinedTagDigits (count + 1) })
      else if n = 0x1F3F4 && count = 3 then some (0, { sequel := .emoji })
      else none

/-- The columns of a character beyond ASCII before `f`, once a selector for
emoji has been dealt with. -/
def wideStep (c : Char) (f : Following) : Int × Following :=
  if f = {} then standing c
  else if c.toNat = 0xFE0F then (0, f.selectEmoji)
  else if c.toNat = 0xFE0E then (0, f.selectText)
  else if f.asText && narrowOnRequest.has c then (1, {})
  else
    match f.sequel with
    | .pairing p =>
        if c.toNat = 0x200D then (0, { sequel := .pairing p.joined })
        else if joinTransparent.has c then (0, { sequel := .pairing p })
        else (pairColumns? p c).getD (standing c)
    | s => (sequenceColumns? s c).getD (standing c)

/-- The columns that a character adds before `f`, and what then follows the
place before it. -/
def step (c : Char) (f : Following) : Int × Following :=
  if f.asEmoji && emojiOnRequest.has c then
    (if Following.isJoined f.sequel then 0 else 2, { sequel := .emoji })
  else
    let f := if f.asEmoji then f.dropEmoji else f
    if c.toNat ≤ 0xA0 then
      if c = '\n' then (0, { sequel := .lineFeed })
      else if c = '\r' && f.sequel = .lineFeed then (0, {})
      else (1, {})
    else wideStep c f

/-- The columns of a text, and what it begins. -/
def measure : Text → Int × Following
  | [] => (0, {})
  | c :: s =>
      let (columns, f) := measure s
      let (own, g) := step c f
      (columns + own, g)

end Width

def width (s : Text) : Nat :=
  (Width.measure s).1.toNat

end ColorScheme.Text
