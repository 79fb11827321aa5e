import PageAudit.Rule.Basic

/-! Rules about loading a page: scripts, the attributes of images, and images that stand in the page
itself.
-/

namespace PageAudit.Rule

/-- A script, also one of a framework, that is loaded from elsewhere. -/
def isExternalScript (tag : Tag) : Bool :=
  tag.opens "script"
    && (tag.attribute? "src").any (fun source => !(Text.trim source).isEmpty)

/-- An image of the page itself. -/
def isPlainImage (tag : Tag) : Bool :=
  tag.opens "img" && !tag.isComponent

/-- The components of frameworks that show images. -/
def imageComponents : List Text :=
  ["Image", "NuxtImg", "NuxtImage"]

/-- An image that a component of a framework shows. -/
def isImageComponent (tag : Tag) : Bool :=
  tag.kind != .closing && tag.isComponent && imageComponents.contains tag.name

/-- A script stops rendering unless it is asynchronous, deferred or a module. Frameworks see to
their own scripts.
-/
def blocksRendering (tag : Tag) : Bool :=
  isExternalScript tag && !tag.isComponent && !tag.flag "async" && !tag.flag "defer"
    && !tag.attributeIs "type" "module"

/-- Scripts that stop rendering. -/
def blockingScripts : Rule :=
  { id := "blocking-scripts"
    description := "External scripts should load with async or defer"
    category := .performance
    codes := ["PERF_BLOCKING_SCRIPT"]
    evaluate := fun page =>
      (page.tags.filter blocksRendering).map fun tag =>
        { code := "PERF_BLOCKING_SCRIPT"
          severity := .warning
          category := .performance
          message :=
            "Script '".toList ++ (tag.attribute? "src").getD [] ++ "' blocks rendering".toList
          span := tag.span
          help :=
            some "Add async or defer, or move the script to the end of <body>".toList } }

/-- The budget of external scripts. The first script beyond it is reported. -/
def externalScripts : Rule :=
  { id := "third-party-scripts"
    description := "Pages should stay within the external script budget"
    category := .performance
    codes := ["PERF_THIRD_PARTY_SCRIPTS"]
    evaluate := fun page =>
      let limit := page.policy.maxExternalScripts
      let scripts := page.tags.filter isExternalScript
      match scripts[limit]? with
      | some script =>
          [{ code := "PERF_THIRD_PARTY_SCRIPTS"
             severity := .warning
             category := .performance
             message :=
               "Page loads ".toList ++ Text.ofNat scripts.length
                 ++ " external scripts (limit ".toList ++ Text.ofNat limit ++ ")".toList
             span := script.span
             help :=
               some ("Bundle, lazy-load or drop scripts that are not needed for first "
                 ++ "render").toList }]
      | none => [] }

/-- The findings about the attributes of one image. -/
def imageFindings (tag : Tag) : List Finding :=
  (if tag.hasAttribute "alt" then []
   else
    [{ code := "PERF_IMG_MISSING_ALT"
       severity := .warning
       category := .performance
       message := "Image has no alt attribute"
       span := tag.span
       help := some "Describe the image, or use alt=\"\" for decorative images".toList }])
  ++ (if tag.hasAttribute "width" && tag.hasAttribute "height" then []
   else
    [{ code := "PERF_IMG_MISSING_DIMENSIONS"
       severity := .warning
       category := .performance
       message := "Image has no explicit width and height"
       span := tag.span
       help := some "Set width and height to reserve space and avoid layout shift".toList }])
  ++ (if tag.hasAttribute "loading" then []
   else
    [{ code := "PERF_IMG_MISSING_LOADING"
       severity := .info
       category := .performance
       message := "Image has no loading attribute"
       span := tag.span }])

/-- Alternative text, dimensions and loading of images. -/
def imageAttributes : Rule :=
  { id := "img-attributes"
    description := "Images need alt text, explicit width and height, and a loading attribute"
    category := .performance
    codes :=
      ["PERF_IMG_MISSING_ALT", "PERF_IMG_MISSING_DIMENSIONS", "PERF_IMG_MISSING_LOADING"]
    evaluate := fun page => (page.tags.filter isPlainImage).flatMap imageFindings }

/-- Parts of the names of images that are likely the largest ones above the fold. -/
def largeImageHints : List Text :=
  ["hero", "banner", "masthead"]

/-- An image is likely the largest one above the fold. -/
def isLikelyLargest (tag : Tag) : Bool :=
  (tag.attribute? "src").any
      (fun source => largeImageHints.any (Text.contains · (Text.lower source)))
    || tag.attributeIs "fetchpriority" "high"

/-- The findings about one image that a component shows. -/
def imageComponentFindings (tag : Tag) : List Finding :=
  (if tag.hasAttribute "sizes" then []
   else
    [{ code := "PERF_IMAGE_COMPONENT_SIZES"
       severity := .warning
       category := .performance
       message := '<' :: tag.name ++ "> has no sizes attribute".toList
       span := tag.span
       help := some "Without sizes the largest srcset candidate is downloaded".toList }])
  ++ (if isLikelyLargest tag && !(tag.flag "priority" || tag.flag "preload") then
    [{ code := "PERF_IMAGE_COMPONENT_PRIORITY"
       severity := .info
       category := .performance
       message := '<' :: tag.name ++ "> looks like the largest contentful paint image".toList
       span := tag.span
       help := some "Add the priority attribute so it is preloaded".toList }]
   else [])

/-- Sizes and priority of images that components show. -/
def imageComponent : Rule :=
  { id := "image-component"
    description := "Image components need sizes, and likely LCP images need priority"
    category := .performance
    codes := ["PERF_IMAGE_COMPONENT_SIZES", "PERF_IMAGE_COMPONENT_PRIORITY"]
    evaluate := fun page => (page.tags.filter isImageComponent).flatMap imageComponentFindings }

/-- The size of the content of a `data:` reference: that of the decoded bytes for base64, and
that of the text itself for any other encoding.
-/
def dataSize? (reference : Text) : Option Nat :=
  (Text.after? "data:" (Text.trim reference)).bind fun reference =>
    match reference.span (· != ',') with
    | (_, []) => none
    | (media, _ :: payload) =>
        if Text.endsWith (Text.lower media) ";base64" then
          some (Text.byteSize (payload.reverse.dropWhile (· == '=')) * 3 / 4)
        else some (Text.byteSize payload)

/-- The finding about an image whose inline content exceeds a budget. -/
def inlineImageFinding? (budget : Nat) (tag : Tag) : Option Finding :=
  (tag.attribute? "src").bind fun source =>
    (dataSize? source).bind fun size =>
      let kilobytes := size / 1024
      if budget < kilobytes then
        some
          { code := "PERF_INLINE_IMAGE_SIZE"
            severity := .warning
            category := .performance
            message :=
              "Inline image is about ".toList ++ Text.ofNat kilobytes ++ "KB (budget ".toList
                ++ Text.ofNat budget ++ "KB)".toList
            span := tag.span
            help := some "Serve large images as separate, cacheable files".toList }
      else none

/-- The budget of images that stand in the document itself. -/
def inlineImageSize : Rule :=
  { id := "inline-image-size"
    description := "Inline data URI images should stay under the LCP image budget"
    category := .performance
    codes := ["PERF_INLINE_IMAGE_SIZE"]
    evaluate := fun page =>
      (page.tags.filter (fun tag => isPlainImage tag || isImageComponent tag)).filterMap
        (inlineImageFinding? page.policy.imageBudgetKb) }

end PageAudit.Rule
