import PageAudit.Web.Composition
import PageAudit.Web.JoiningTable
import PageAudit.Web.Mark

/-! The two joiners, which have no visible form of their own. One asks for the joined forms of its
neighbours and one for those that stand apart, so they may stand only where there are such
forms.
-/

namespace PageAudit.Web

/-- Joining letters are looked for beyond such a character. -/
def isTransparent (char : Char) : Bool :=
  isNonspacing char || char.toNat == 0x1E94B

/-- A letter that is joined to the one behind it. -/
def joinsForth (char : Char) : Bool :=
  Text.inRanges bothJoiningRanges char || Text.inRanges forthJoiningRanges char

/-- A letter that is joined to the one before it. -/
def joinsBack (char : Char) : Bool :=
  Text.inRanges bothJoiningRanges char || Text.inRanges backJoiningRanges char

/-- (allowsApart seen rest) says that letters would be joined here, where `seen` is in reverse. -/
def allowsApart (seen rest : Text) : Bool :=
  (seen.dropWhile isTransparent).head?.any joinsForth
    && (rest.dropWhile isTransparent).head?.any joinsBack

/-- The mark before this place silences the vowel of a consonant and so joins it to the next. -/
def followsVirama (seen : Text) : Bool :=
  seen.head?.any (combiningClass · == 9)

/-- (joinersFit seen rest) says that each joiner in `rest` stands where it may. What is before is
`seen`, in reverse.
-/
def joinersFit : Text → Text → Bool
  | _, [] => true
  | seen, char :: rest =>
      (if char = '\u200d' then followsVirama seen
        else if char = '\u200c' then followsVirama seen || allowsApart seen rest
        else true)
        && joinersFit (char :: seen) rest

end PageAudit.Web
