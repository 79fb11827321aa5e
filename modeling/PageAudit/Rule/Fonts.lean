import PageAudit.Rule.Basic
import PageAudit.Text.Word

/-! Rules about fonts: how text is shown while a font loads, and how many fonts are loaded
ahead.
-/

namespace PageAudit.Rule

/-- A font rule of a stylesheet, as a pattern: its keyword, perhaps blanks, and braces around a
body without a closing brace.
-/
def fontFace : Text.Pattern Text := fun _ text =>
  (Text.afterKeyword? "@font-face" text).bind fun rest =>
    match rest.span Text.isBlank with
    | (blanks, '{' :: rest) =>
        match rest.span (· != '}') with
        | (body, _ :: _) =>
            let count := "@font-face".length + blanks.length + body.length + 2
            some (text.take count, count)
        | (_, []) => none
    | _ => none

/-- The declaration that text is shown in another font first, as a pattern. -/
def fontSwap : Text.Pattern Unit := fun _ text =>
  (Text.afterKeyword? "font-display" text).bind fun rest =>
    match Text.trimStart rest with
    | ':' :: rest =>
        (Text.afterKeyword? "swap" (Text.trimStart rest)).bind fun rest =>
          if rest.head?.any Text.isWordChar then none else some ((), 1)
    | _ => none

/-- The findings about font rules that hide text until their font is loaded. -/
def hiddenText (page : Page) : List Finding :=
  ((Text.hits fontFace page.text).filter
      (fun block => (Text.firstHit? fontSwap block.value).isNone)).map fun block =>
    { code := "PERF_FONT_DISPLAY_SWAP"
      severity := .warning
      category := .performance
      message := "@font-face has no font-display: swap"
      span := { start := block.start, stop := block.stop }
      help := some "Text stays invisible until the font loads without it".toList }

/-- A tag loads a font ahead. -/
def preloadsFont (tag : Tag) : Bool :=
  tag.opens "link" && tag.attributeHasToken "rel" "preload" && tag.attributeIs "as" "font"

/-- So many fonts may be loaded ahead. -/
def maxFontPreloads : Nat :=
  4

/-- The finding about too many fonts that are loaded ahead, at the first one too many. -/
def excessPreloads (page : Page) : List Finding :=
  let preloads := page.tags.filter preloadsFont
  match preloads[maxFontPreloads]? with
  | some tag =>
      [{ code := "PERF_FONT_PRELOAD_EXCESS"
         severity := .info
         category := .performance
         message :=
           Text.ofNat preloads.length ++ " fonts are preloaded (more than ".toList
             ++ Text.ofNat maxFontPreloads ++ ")".toList
         span := tag.span
         help := some "Preload only the fonts used above the fold".toList }]
  | none => []

/-- Display and number of fonts. -/
def fontLoading : Rule :=
  { id := "font-loading"
    description := "@font-face rules use font-display: swap and font preloads stay few"
    category := .performance
    codes := ["PERF_FONT_DISPLAY_SWAP", "PERF_FONT_PRELOAD_EXCESS"]
    evaluate := fun page =>
      (if page.policy.requireFontSwap then hiddenText page else []) ++ excessPreloads page }

end PageAudit.Rule
