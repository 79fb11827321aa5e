import PageAudit.Text.Bytes
import PageAudit.Yaml.Cursor

/-! Tags, which say what kind of value a node has. The name of a tag is a string of bytes, and a
handle stands for the front of it.
-/

namespace PageAudit.Yaml

/-- The bytes of a name. -/
abbrev Name := List UInt8

/-- The expansions of the handles of tags. -/
abbrev Handles := List (Text × Name)

/-- What the names of the kinds that YAML defines begin with. -/
def standardFront : Text :=
  "tag:yaml.org,2002:"

/-- The name of a kind that YAML defines. -/
def standardName (kind : Text) : Name :=
  Text.bytes (standardFront ++ kind)

/-- The expansion of the two handles that every document knows. -/
def standardHandles : Handles :=
  [("!", Text.bytes "!"), ("!!", standardName [])]

/-- A tag as written: its handle and its suffix. A tag in angle brackets has no handle. -/
structure Tag where
  handle : Text
  suffix : Name
deriving DecidableEq

namespace Tag

/-- The tag of a lone exclamation mark. -/
def blank : Tag :=
  { handle := [], suffix := Text.bytes "!" }

/-- The name of a tag in full, when its handle is known. -/
def expand? (handles : Handles) (tag : Tag) : Option Name :=
  if tag.handle.isEmpty then some tag.suffix
  else (handles.lookup tag.handle).map (· ++ tag.suffix)

end Tag

/-- A name begins with an exclamation mark, as the names of a document's own kinds do. -/
def Name.isLocal (name : Name) : Bool :=
  name.head? == some 0x21

/-- A character of a tag that may also stand outside angle brackets. -/
def isTagPart (char : Char) : Bool :=
  isNamePart char || (";/?:@&=+$.%!~*'()".toList).contains char

/-- A character of a tag in angle brackets or of the expansion of a handle. -/
def isAddressPart (char : Char) : Bool :=
  isTagPart char || char == ',' || char == '[' || char == ']'

/-- How many bytes follow the first byte of a character. -/
def trailing? (lead : UInt8) : Option Nat :=
  if lead < 0x80 then some 0
  else if 0xC0 ≤ lead ∧ lead < 0xE0 then some 1
  else if 0xE0 ≤ lead ∧ lead < 0xF0 then some 2
  else if 0xF0 ≤ lead ∧ lead < 0xF8 then some 3
  else none

/-- (decode? missing written) are the bytes of a written name. A percent sign and two digits stand
for a byte. The last `missing` bytes of a character that was begun so have to come first.
-/
def Name.decode? : Nat → Text → Option Name
  | 0, [] => some []
  | missing, '%' :: first :: second :: rest =>
      (Text.hexByte? first second).bind fun byte =>
        let left :=
          match missing with
          | 0 => trailing? byte
          | missing + 1 => if 0x80 ≤ byte ∧ byte < 0xC0 then some missing else none
        left.bind fun missing => (decode? missing rest).map (byte :: ·)
  | 0, char :: rest =>
      if char = '%' then none else (decode? 0 rest).map (char.toNat.toUInt8 :: ·)
  | _ + 1, _ => none

/-- The name that is written so. It ends before a byte of zero. -/
def Name.ofWritten? (written : Text) : Option Name :=
  (Name.decode? 0 written).map (·.takeWhile (· != 0))

/-- The tag at the front of a text, and its length. It is in angle brackets, or it has a handle
between exclamation marks, or the handle is one exclamation mark.
-/
def tagAt? (text : Text) : Option (Tag × Nat) :=
  match text with
  | '!' :: '<' :: rest =>
      let written := rest.takeWhile isAddressPart
      if written.isEmpty ∨ (rest.drop written.length).head? ≠ some '>' then none
      else
        (Name.ofWritten? written).map fun suffix => ({ handle := [], suffix }, written.length + 3)
  | '!' :: rest =>
      let handle := rest.takeWhile isNamePart
      match rest.drop handle.length with
      | '!' :: behind =>
          let written := behind.takeWhile isTagPart
          if written.isEmpty then none
          else
            (Name.ofWritten? written).map fun suffix =>
              ({ handle := '!' :: handle ++ ['!'], suffix }, handle.length + written.length + 2)
      | _ =>
          let written := rest.takeWhile isTagPart
          (Name.ofWritten? written).map fun suffix =>
            (if suffix.isEmpty then Tag.blank else { handle := ['!'], suffix },
              written.length + 1)
  | _ => none

end PageAudit.Yaml
