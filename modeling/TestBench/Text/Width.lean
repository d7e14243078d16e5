/-
# Display width

How many columns of a terminal a text takes.

| character | columns |
| --- | ---: |
| a control, a letter, anything not named below | 1 |
| an East Asian wide or full-width character, a picture | 2 |
| a mark that extends the one before it, a default-ignorable character, a medial or final jamo | 0 |

Some characters take another width next to certain neighbours: a line end of two characters takes one
column, a flag of two halves two, a picture built of several with joiners two, and a few scripts
have ligatures.  A text is therefore measured from its end, and each character is told what stands
behind it (`Follower`).
-/

import TestBench.Text.Emoji
import TestBench.Text.GraphemeExtend

namespace TestBench
namespace Text

/-- Characters of two columns. -/
def wide : List (Nat × Nat) := [
  (0x1100, 0x115F), (0x231A, 0x231B), (0x2329, 0x232A), (0x23E9, 0x23EC), (0x23F0, 0x23F0),
  (0x23F3, 0x23F3), (0x25FD, 0x25FE), (0x2614, 0x2615), (0x2630, 0x2637), (0x2648, 0x2653),
  (0x267F, 0x267F), (0x268A, 0x268F), (0x2693, 0x2693), (0x26A1, 0x26A1), (0x26AA, 0x26AB),
  (0x26BD, 0x26BE), (0x26C4, 0x26C5), (0x26CE, 0x26CE), (0x26D4, 0x26D4), (0x26EA, 0x26EA),
  (0x26F2, 0x26F3), (0x26F5, 0x26F5), (0x26FA, 0x26FA), (0x26FD, 0x26FD), (0x2705, 0x2705),
  (0x270A, 0x270B), (0x2728, 0x2728), (0x274C, 0x274C), (0x274E, 0x274E), (0x2753, 0x2755),
  (0x2757, 0x2757), (0x2795, 0x2797), (0x27B0, 0x27B0), (0x27BF, 0x27BF), (0x2B1B, 0x2B1C),
  (0x2B50, 0x2B50), (0x2B55, 0x2B55), (0x2E80, 0x2E99), (0x2E9B, 0x2EF3), (0x2F00, 0x2FD5),
  (0x2FF0, 0x303E), (0x3041, 0x3096), (0x3099, 0x30FF), (0x3105, 0x312F), (0x3131, 0x318E),
  (0x3190, 0x31E5), (0x31EF, 0x321E), (0x3220, 0x3247), (0x3250, 0xA48C), (0xA490, 0xA4C6),
  (0xA960, 0xA97C), (0xAC00, 0xD7A3), (0xF900, 0xFAFF), (0xFE10, 0xFE19), (0xFE30, 0xFE52),
  (0xFE54, 0xFE66), (0xFE68, 0xFE6B), (0xFF01, 0xFF60), (0xFFE0, 0xFFE6), (0x16FE0, 0x16FE4),
  (0x16FF0, 0x16FF1), (0x17000, 0x187F7), (0x18800, 0x18CD5), (0x18CFF, 0x18D08),
  (0x1AFF0, 0x1AFF3), (0x1AFF5, 0x1AFFB), (0x1AFFD, 0x1AFFE), (0x1B000, 0x1B122),
  (0x1B132, 0x1B132), (0x1B150, 0x1B152), (0x1B155, 0x1B155), (0x1B164, 0x1B167),
  (0x1B170, 0x1B2FB), (0x1D300, 0x1D356), (0x1D360, 0x1D376), (0x1F004, 0x1F004),
  (0x1F0CF, 0x1F0CF), (0x1F18E, 0x1F18E), (0x1F191, 0x1F19A), (0x1F200, 0x1F202),
  (0x1F210, 0x1F23B), (0x1F240, 0x1F248), (0x1F250, 0x1F251), (0x1F260, 0x1F265),
  (0x1F300, 0x1F320), (0x1F32D, 0x1F335), (0x1F337, 0x1F37C), (0x1F37E, 0x1F393),
  (0x1F3A0, 0x1F3CA), (0x1F3CF, 0x1F3D3), (0x1F3E0, 0x1F3F0), (0x1F3F4, 0x1F3F4),
  (0x1F3F8, 0x1F43E), (0x1F440, 0x1F440), (0x1F442, 0x1F4FC), (0x1F4FF, 0x1F53D),
  (0x1F54B, 0x1F54E), (0x1F550, 0x1F567), (0x1F57A, 0x1F57A), (0x1F595, 0x1F596),
  (0x1F5A4, 0x1F5A4), (0x1F5FB, 0x1F64F), (0x1F680, 0x1F6C5), (0x1F6CC, 0x1F6CC),
  (0x1F6D0, 0x1F6D2), (0x1F6D5, 0x1F6D7), (0x1F6DC, 0x1F6DF), (0x1F6EB, 0x1F6EC),
  (0x1F6F4, 0x1F6FC), (0x1F7E0, 0x1F7EB), (0x1F7F0, 0x1F7F0), (0x1F90C, 0x1F93A),
  (0x1F93C, 0x1F945), (0x1F947, 0x1F9FF), (0x1FA70, 0x1FA7C), (0x1FA80, 0x1FA89),
  (0x1FA8F, 0x1FAC6), (0x1FACE, 0x1FADC), (0x1FADF, 0x1FAE9), (0x1FAF0, 0x1FAF8),
  (0x20000, 0x2FFFD), (0x30000, 0x3FFFD)]

/-- Default-ignorable characters, except U+115F, and some marks of number and poetry. -/
def ignorable : List (Nat × Nat) := [
  (0xAD, 0xAD), (0x34F, 0x34F), (0x605, 0x605), (0x61C, 0x61C), (0x70F, 0x70F), (0x890, 0x891),
  (0x8E2, 0x8E2), (0xCC0, 0xCC0), (0xCC7, 0xCC8), (0xCCA, 0xCCB), (0x1160, 0x11FF),
  (0x17B4, 0x17B5), (0x180B, 0x180F), (0x1B3B, 0x1B3B), (0x1B3D, 0x1B3D), (0x1B43, 0x1B43),
  (0x200B, 0x200F), (0x202A, 0x202E), (0x2060, 0x206F), (0x3164, 0x3164), (0xA8FA, 0xA8FA),
  (0xD7B0, 0xD7C6), (0xD7CB, 0xD7FB), (0xFE00, 0xFE0F), (0xFEFF, 0xFEFF), (0xFFA0, 0xFFA0),
  (0xFFF0, 0xFFF8), (0x1BCA0, 0x1BCA3), (0x1D173, 0x1D17A), (0xE0000, 0xE0FFF)]

/-- What stands behind a character, as far as its width depends on it. -/
inductive Follower where
  /-- Nothing that matters. -/
  | plain
  /-- A line feed. -/
  | lineFeed
  /-- A picture. -/
  | picture
  /-- A skin tone. -/
  | skinTone
  /-- One half of a flag. -/
  | flagHalf
  /-- Two halves of a flag or more. -/
  | flagHalves
  /-- A joiner and a picture. -/
  | joinedPicture
  /-- A key cap, a joiner and a picture. -/
  | joinedKeycap
  /-- An odd number of halves of a flag, a joiner and a picture; first the number one. -/
  | joinedFlagHalf
  | joinedFlagOdd
  /-- An even number of them. -/
  | joinedFlagEven
  /-- The picture selector before the follower given. -/
  | pictureSelector (behind : Follower)
  /-- The text selector before the follower given. -/
  | textSelector (behind : Follower)
  /-- An Arabic alef. -/
  | alef
  /-- A Hebrew lamed, and one behind a joiner. -/
  | lamed
  | joinedLamed
  /-- A Khmer letter that can stand below another. -/
  | khmerLetter
  /-- A Buginese ya, one behind a joiner, and one behind a joiner and the vowel i. -/
  | buginese
  | joinedBuginese
  | vowelBuginese
  /-- A Tifinagh consonant, one behind a joiner, and one behind the consonant joiner. -/
  | tifinagh
  | joinedTifinagh
  | boundTifinagh
  /-- A Lisu tone letter of the second kind. -/
  | lisuTone
  /-- An Old Turkic orkhon i. -/
  | orkhonI
  /-- A Kirat Rai vowel e, and two of them or their ligature. -/
  | kiratVowel
  | kiratVowels
  deriving DecidableEq, Repr

namespace Follower

/-- Marks between the parts of a ligature do not break it. -/
def isLigature : Follower → Bool
  | lamed | joinedLamed | khmerLetter | buginese | joinedBuginese | vowelBuginese
  | tifinagh | joinedTifinagh | boundTifinagh | lisuTone | orkhonI => true
  | _ => false

/-- A ligature behind a joiner, which takes part in some. -/
def behindJoiner : Follower → Follower
  | lamed => joinedLamed
  | buginese => joinedBuginese
  | tifinagh => joinedTifinagh
  | f => f

/-- Followers that a picture selector does not hide. -/
def survivesSelector (f : Follower) : Bool :=
  f.isLigature || f = joinedPicture || f = joinedKeycap

end Follower

/-- The Arabic letters of the alef family. -/
def isAlef (c : Char) : Bool :=
  inRanges [(0x622, 0x623), (0x625, 0x625), (0x627, 0x627), (0x671, 0x673), (0x675, 0x675),
    (0x773, 0x774), (0x870, 0x882)] c

/-- The Arabic letters of the lam family. -/
def isLam (c : Char) : Bool :=
  inRanges [(0x644, 0x644), (0x6B5, 0x6B8), (0x76A, 0x76A), (0x8A6, 0x8A6), (0x8C7, 0x8C7)] c

/-- The Tifinagh consonants. -/
def isTifinagh (c : Char) : Bool := inRanges [(0x2D31, 0x2D65), (0x2D6F, 0x2D6F)] c

/-- A mark that ligatures take no notice of. -/
def isTransparent (c : Char) : Bool :=
  inRanges [(0x34F, 0x34F), (0x17B4, 0x17B5), (0x180B, 0x180D), (0x180F, 0x180F), (0xFE00, 0xFE0F),
    (0xE0100, 0xE01EF)] c

/-- A mark of no width of its own. -/
def isInvisible (c : Char) : Bool := inRanges ignorable c || isGraphemeExtend c

/-- The width of `c` next to nothing that matters. -/
def ownWidth (c : Char) : Int :=
  let n := c.toNat
  if n ≤ 0xA0 then 1
  else if n == 0x17A4 then 2
  else if n == 0x17D8 then 3
  else if n == 0x2D7F then 1
  else if isInvisible c then 0
  else if inRanges wide c || (inRanges pictures c && !isFlagHalf c) then 2
  else 1

/-- What `c` is to the character before it. -/
def asFollower (c : Char) : Follower :=
  let n := c.toNat
  if c = '\n' then .lineFeed
  else if n ≤ 0xA0 then .plain
  else if n == 0xFE0F then .pictureSelector .plain
  else if n == 0xFE0E then .textSelector .plain
  else if isFlagHalf c then .flagHalf
  else if isSkinTone c then .skinTone
  else if inRanges pictures c then .picture
  else if isAlef c then .alef
  else if n == 0x5DC then .lamed
  else if 0x1780 ≤ n && n ≤ 0x17AF && n != 0x17A4 then .khmerLetter
  else if n == 0x1A10 then .buginese
  else if isTifinagh c then .tifinagh
  else if n == 0xA4FC || n == 0xA4FD then .lisuTone
  else if n == 0x10C03 then .orkhonI
  else if n == 0x16D67 then .kiratVowel
  else if n == 0x16D68 then .kiratVowels
  else .plain

/-- A key of the keys that have a cap: a digit, the number sign, the asterisk. -/
def isKey (c : Char) : Bool := c.isDigit || c = '#' || c = '*'

/-- The columns that `c` adds before the follower `f` of a sequence, and what it becomes to the
character before it; `none` if `f` does not bear on it. -/
def widthInSequence? (c : Char) (f : Follower) : Option (Int × Follower) :=
  match f with
  | .lineFeed => if c = '\r' then some (0, .plain) else none
  | .alef =>
    if isLam c then some (0, .plain) else if isInvisible c then some (0, .alef) else none
  | .joinedLamed => if c.toNat == 0x5D0 then some (0, .plain) else none
  | .khmerLetter => if c.toNat == 0x17D2 then some (-1, .plain) else none
  | .joinedBuginese => if c.toNat == 0x1A17 then some (0, .vowelBuginese) else none
  | .vowelBuginese => if c.toNat == 0x1A15 then some (0, .plain) else none
  | .tifinagh => if c.toNat == 0x2D7F then some (1, .boundTifinagh) else none
  | .joinedTifinagh =>
    if c.toNat == 0x2D7F then some (1, .boundTifinagh)
    else if isTifinagh c then some (0, .plain) else none
  | .boundTifinagh => if isTifinagh c then some (-1, .plain) else none
  | .lisuTone => if 0xA4F8 ≤ c.toNat && c.toNat ≤ 0xA4FB then some (0, .plain) else none
  | .orkhonI => if c.toNat == 0x10C32 then some (0, .plain) else none
  | .kiratVowel =>
    if c.toNat == 0x16D67 then some (0, .kiratVowels)
    else if c.toNat == 0x16D68 then some (1, .kiratVowel)
    else if c.toNat == 0x16D63 || c.toNat == 0x16D69 then some (0, .plain) else none
  | .kiratVowels => if c.toNat == 0x16D63 then some (0, .plain) else none
  | .skinTone =>
    if inRanges toneBases c then some (0, .picture)
    else if c.toNat == 0x200D then some (0, .joinedPicture) else none
  | .flagHalf =>
    if isFlagHalf c then some (1, .flagHalves) else none
  | .flagHalves =>
    if isFlagHalf c then some (1, .flagHalves)
    else if c.toNat == 0x200D then some (0, .joinedPicture) else none
  | .picture => if c.toNat == 0x200D then some (0, .joinedPicture) else none
  | .joinedPicture =>
    if c.toNat == 0x20E3 then some (0, .joinedKeycap)
    else if isFlagHalf c then some (1, .joinedFlagHalf)
    else if isSkinTone c then some (0, .skinTone)
    else if inRanges pictures c then some (0, .picture) else none
  | .joinedFlagHalf | .joinedFlagOdd =>
    if isFlagHalf c then some (-1, .joinedFlagEven)
    else if f = .joinedFlagOdd && c.toNat == 0x200D then some (0, .joinedPicture) else none
  | .joinedFlagEven =>
    if isFlagHalf c then some (3, .joinedFlagOdd)
    else if c.toNat == 0x200D then some (0, .joinedPicture) else none
  | _ => none

/-- The columns that `c` adds before `f`, and what it becomes to the character before it. -/
def widthBefore (c : Char) (f : Follower) : Int × Follower :=
  let alone := (ownWidth c, asFollower c)
  match f with
  | .pictureSelector behind =>
    if behind = .joinedKeycap && isKey c then (0, .picture)
    else if startsPicture c then (if behind = .joinedPicture then 0 else 2, .picture)
    else if behind.isLigature then (widthInSequence? c behind).getD alone
    else alone
  | .textSelector behind =>
    if inRanges textOnDemand c then (1, .plain)
    else if behind.isLigature then (widthInSequence? c behind).getD alone
    else alone
  | _ =>
    if c.toNat == 0xFE0F then (0, .pictureSelector (if f.survivesSelector then f else .plain))
    else if c.toNat == 0xFE0E then (0, .textSelector (if f.isLigature then f else .plain))
    else match widthInSequence? c f with
      | some r => r
      | none =>
        if !f.isLigature then alone
        else if c.toNat == 0x200D then (0, f.behindJoiner)
        else if isTransparent c then (0, f)
        else alone

/-- The columns of `text`, and what its first character is to a character before it. -/
def widthFrom : Text → Int × Follower
  | [] => (0, .plain)
  | c :: s =>
    let (columns, f) := widthFrom s
    let (added, f') := widthBefore c f
    (columns + added, f')

/-- The number of columns that `text` takes. -/
def width (text : Text) : Nat := (widthFrom text).1.toNat

end Text
end TestBench
