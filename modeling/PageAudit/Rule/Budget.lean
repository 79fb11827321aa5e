import PageAudit.Decimal.Binary64
import PageAudit.Rule.Basic

/-! Rules about the budgets of a crawler that renders pages: bytes, elements and levels.

A page beyond a higher limit is also reported for the lower one, except that only the highest
of the first three bands of bytes is reported.
-/

namespace PageAudit.Rule

/-- The bytes of a kilobyte. -/
def kilobyte : Nat :=
  1024

/-- The bytes of a megabyte. -/
def megabyte : Nat :=
  1024 * 1024

/-- A number of bytes as it is shown: in megabytes with one decimal place, or in whole
kilobytes.
-/
def sizeText (bytes : Nat) : Text :=
  if megabyte ≤ bytes then ((Binary64.ofNat bytes).divPow 20).fixed 1 ++ "MB".toList
  else Text.ofNat (bytes / kilobyte) ++ "KB".toList

/-- The renderer takes no more megabytes than this. -/
def renderCeiling : Text :=
  "15MB"

/-- The finding about a page whose bytes fall in one of three bands. -/
def sizeBand (bytes : Nat) : List Finding :=
  if 10 * megabyte < bytes then
    [{ code := "RENDER_HTML_SIZE_LIMIT"
       severity := .warning
       category := .renderBudget
       message :=
         "HTML is ".toList ++ sizeText bytes ++ "; content past ".toList ++ renderCeiling
           ++ " is not rendered".toList
       span := .documentStart
       help := some "Split the page or move data out of the markup".toList }]
  else if 150 * kilobyte < bytes then
    [{ code := "RENDER_HTML_SIZE_EXCESSIVE"
       severity := .error
       category := .renderBudget
       message := "HTML is ".toList ++ sizeText bytes ++ " (more than 150KB)".toList
       span := .documentStart
       help := some "Paginate long lists and avoid inlining large data".toList }]
  else if 100 * kilobyte < bytes then
    [{ code := "RENDER_HTML_SIZE_LARGE"
       severity := .warning
       category := .renderBudget
       message := "HTML is ".toList ++ sizeText bytes ++ " (more than 100KB)".toList
       span := .documentStart }]
  else []

/-- The finding about a page that comes close to the ceiling of the renderer. -/
def sizeCritical (bytes : Nat) : List Finding :=
  if 14 * megabyte < bytes then
    [{ code := "RENDER_HTML_SIZE_CRITICAL"
       severity := .error
       category := .renderBudget
       message :=
         "HTML is ".toList ++ sizeText bytes ++ ", close to the ".toList ++ renderCeiling
           ++ " rendering ceiling".toList
       span := .documentStart }]
  else []

/-- The budget of bytes. -/
def htmlSize : Rule :=
  { id := "html-size"
    description := "HTML payload stays within the crawler's rendering budget"
    category := .renderBudget
    codes :=
      ["RENDER_HTML_SIZE_LARGE", "RENDER_HTML_SIZE_EXCESSIVE", "RENDER_HTML_SIZE_LIMIT",
        "RENDER_HTML_SIZE_CRITICAL"]
    evaluate := fun page => sizeBand page.shape.bytes ++ sizeCritical page.shape.bytes }

/-- The span of a tag, or the start of the document when there is none. -/
def spanOf : Option Tag → Span
  | some tag => tag.span
  | none => .documentStart

/-- The tag whose element is the first beyond a number of elements. -/
def elementBeyond (page : Page) (limit : Nat) : Span :=
  spanOf (page.tags.filter page.tables.void.opensElement)[limit]?

/-- The finding about more elements than a limit. -/
def elementsOver (page : Page) (limit : Nat) (code : Text) (severity : Severity)
    (help : Option Text)
    : List Finding :=
  if limit < page.shape.elements then
    [{ code
       severity
       category := .renderBudget
       message :=
         Text.ofNat page.shape.elements ++ " elements (more than ".toList ++ Text.ofNat limit
           ++ ")".toList
       span := elementBeyond page limit
       help }]
  else []

/-- The budget of elements. -/
def domSize : Rule :=
  { id := "dom-size"
    description := "Element count stays within the rendering budget"
    category := .renderBudget
    codes := ["RENDER_DOM_SIZE_LARGE", "RENDER_DOM_SIZE_EXCESSIVE"]
    evaluate := fun page =>
      elementsOver page 800 "RENDER_DOM_SIZE_LARGE" .info none
        ++ elementsOver page 1500 "RENDER_DOM_SIZE_EXCESSIVE" .error
          (some "Virtualize long lists and remove wrapper elements".toList) }

/-- The finding about more levels than a limit. -/
def levelsOver (page : Page) (limit : Nat) (code : Text) (severity : Severity)
    (help : Option Text)
    : List Finding :=
  if limit < page.shape.depth then
    [{ code
       severity
       category := .renderBudget
       message :=
         "Elements nest ".toList ++ Text.ofNat page.shape.depth
           ++ " levels deep (more than ".toList ++ Text.ofNat limit ++ ")".toList
       span := spanOf (Nesting.crossing? page.tables.void limit page.tags)
       help }]
  else []

/-- The budget of levels. -/
def domDepth : Rule :=
  { id := "dom-depth"
    description := "Nesting depth stays within the rendering budget"
    category := .renderBudget
    codes := ["RENDER_DOM_DEPTH_DEEP", "RENDER_DOM_DEPTH_EXCESSIVE"]
    evaluate := fun page =>
      levelsOver page 25 "RENDER_DOM_DEPTH_DEEP" .info none
        ++ levelsOver page 32 "RENDER_DOM_DEPTH_EXCESSIVE" .error
          (some "Flatten wrapper elements".toList) }

end PageAudit.Rule
