import PageAudit.Text.Basic
import PageAudit.Web.Composition
import PageAudit.Web.FoldingRowTable
import PageAudit.Web.FoldingTable
import PageAudit.Web.FoldingWordTable
import PageAudit.Web.RefusedTable

/-! The form in which domain names are compared: characters that count as the same are mapped to
one of them, those without a visible form are dropped, and marks are composed with their
bases.
-/

namespace PageAudit.Web

/-- The image of a character in a run. -/
def runImage? (code : Nat) : Option Text :=
  (foldingRuns.find? fun (first, last, step, _) =>
    first ≤ code && code ≤ last && (code - first) % step == 0).map
    (fun (first, _, _, image) => [Char.ofNat (image + (code - first))])

/-- The image of a character in a row of characters. -/
def rowImage? (code : Nat) : Option Text :=
  foldingRows.findSome? fun (first, images) =>
    if first ≤ code then (images.toList[code - first]?).map ([·]) else none

/-- The image of a character in a row of words. -/
def wordImage? (code : Nat) : Option Text :=
  (foldingWords ++ presentationWords).findSome? fun (first, images) =>
    if first ≤ code then (Text.splitOnChar ' ' images.toList)[code - first]? else none

/-- The image of a character beyond ASCII, when it is mapped to other characters. -/
def image? (code : Nat) : Option Text :=
  (runImage? code).orElse fun _ => (rowImage? code).orElse fun _ => wordImage? code

/-- What stands for a character, unless no domain name holds it. -/
def fold? (char : Char) : Option Text :=
  if char.toNat < 0x80 then some [char.toLower]
  else if Text.inRanges droppedRanges char then some []
  else
    match image? char.toNat with
    | some image => some image
    | none => if Text.inRanges refusedRanges char then none else some [char]

/-- The mapped and composed form of a name. -/
def normalize? (name : Text) : Option Text :=
  (name.mapM fold?).map (fun images => composed images.flatten)

end PageAudit.Web
