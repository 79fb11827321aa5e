import PageAudit.Markup.Expression
import PageAudit.Rule.Basic
import PageAudit.Text.Word

/-! Rules about what search engines read: titles, descriptions, canonical links, structured
data, social previews and the order within the head.
-/

namespace PageAudit.Rule

/-- The text of the title, and the span of its element. -/
structure TitleElement where
  text : Text
  span : Span

/-- The first tag of a stream that opens a title, and the tags behind it. -/
def behindTitle? : List Tag → Option (Tag × List Tag)
  | [] => none
  | tag :: tags => if tag.opens "title" then some (tag, tags) else behindTitle? tags

/-- The title of a page. It ends at the first closing tag of its name, else at the next tag,
else at the end of the text.
-/
def titleElement? (page : Page) : Option TitleElement :=
  (behindTitle? page.tags).map fun (opening, following) =>
    let closing := following.find? (·.closes opening.name)
    let stop :=
      match closing.orElse (fun _ => following.head?) with
      | some tag => tag.span.start
      | none => Text.byteSize page.text
    { text := (Text.slice? page.text opening.span.stop stop).getD []
      span := .between opening.span.start ((closing.map (·.span.stop)).getD stop) }

/-- The finding about a title with too few or too many characters. What is computed when the
page runs is not measured.
-/
def titleLength (policy : Policy) (title : TitleElement) : List Finding :=
  let text := Text.trim title.text
  if Expression.isDynamic text then []
  else if text.length < policy.titleMin ∨ policy.titleMax < text.length then
    [{ code := "SEO_TITLE_LENGTH"
       severity := .warning
       category := .seo
       message :=
         "Title is ".toList ++ Text.ofNat text.length ++ " characters; keep it between ".toList
           ++ Text.ofNat policy.titleMin ++ " and ".toList ++ Text.ofNat policy.titleMax
       span := title.span
       help := some "Search results truncate long titles and undervalue short ones".toList }]
  else []

/-- The finding about a head without a title, unless the title is set when the page runs. -/
def titleMissing (page : Page) : List Finding :=
  if page.hasHead && !page.shape.headManaged && !page.shape.component then
    [{ code := "SEO_TITLE_MISSING"
       severity := .warning
       category := .seo
       message := "Document head has no <title> element"
       span := page.headAnchor
       help := some "Add a descriptive <title> inside <head>".toList }]
  else []

/-- Presence and length of the title. -/
def title : Rule :=
  { id := "title"
    description := "Pages need a <title> whose length fits the configured range"
    category := .seo
    codes := ["SEO_TITLE_LENGTH", "SEO_TITLE_MISSING"]
    evaluate := fun page =>
      match titleElement? page with
      | some title => titleLength page.policy title
      | none => titleMissing page }

/-- The first tag with a description for search results. -/
def descriptionTag? (page : Page) : Option Tag :=
  (page.opening "meta").find? (·.attributeIs "name" "description")

/-- The finding about a description with too few or too many characters. -/
def descriptionLength (policy : Policy) (tag : Tag) : List Finding :=
  let text := Text.trim ((tag.attribute? "content").getD [])
  if Expression.isDynamic text then []
  else if text.length < policy.descriptionMin ∨ policy.descriptionMax < text.length then
    [{ code := "SEO_META_DESCRIPTION_LENGTH"
       severity := .warning
       category := .seo
       message :=
         "Meta description is ".toList ++ Text.ofNat text.length
           ++ " characters; keep it between ".toList ++ Text.ofNat policy.descriptionMin
           ++ " and ".toList ++ Text.ofNat policy.descriptionMax
       span := tag.span }]
  else []

/-- Presence and length of the description. -/
def metaDescription : Rule :=
  { id := "meta-description"
    description := "Pages need a meta description whose length fits the configured range"
    category := .seo
    codes := ["SEO_META_DESCRIPTION_LENGTH", "SEO_META_DESCRIPTION_MISSING"]
    evaluate := fun page =>
      match descriptionTag? page with
      | some tag => descriptionLength page.policy tag
      | none =>
          if page.hasHead then
            [{ code := "SEO_META_DESCRIPTION_MISSING"
               severity := .warning
               category := .seo
               message := "Document head has no meta description"
               span := page.headAnchor
               help := some "Add <meta name=\"description\" content=\"...\">".toList }]
          else [] }

/-- Presence of a canonical link, where the policy demands one. -/
def canonical : Rule :=
  { id := "canonical"
    description := "Pages declare a canonical URL when the policy requires it"
    category := .seo
    codes := ["SEO_CANONICAL_MISSING"]
    evaluate := fun page =>
      if page.policy.requireCanonical
          && !(page.opening "link").any (·.attributeHasToken "rel" "canonical") then
        [{ code := "SEO_CANONICAL_MISSING"
           severity := .warning
           category := .seo
           message := "No canonical link found"
           span := .documentStart
           help :=
             some ("Add <link rel=\"canonical\" href=\"...\"> to avoid duplicate-content "
               ++ "splits").toList }]
      else [] }

/-- A spelling of a keyword stands at the front of a text and ends where a word ends. -/
def spells (text spelling : Text) : Bool :=
  match Text.afterKeyword? spelling text with
  | some rest => Text.isWordBoundary (text.take spelling.length).getLast? rest.head?
  | none => false

/-- A keyword that stands at a place as a whole word, as a pattern. Of the given spellings the
first that fits counts.
-/
def wholeWord (spellings : List Text) : Text.Pattern Unit := fun before text =>
  (spellings.find? (spells text)).bind fun spelling =>
    if Text.isWordBoundary before text.head? then some ((), spelling.length) else none

/-- The words that hint at a product page. A separator may stand between the parts of the last
one.
-/
def productWords : List Text :=
  let separators : List Text := ["-", "_", " ", ""]
  let cart : List Text :=
    separators.flatMap fun first =>
      separators.map fun second =>
        "add".toList ++ first ++ "to".toList ++ second ++ "cart".toList
  let single : List Text := ["products", "product", "pdp", "sku", "price"]
  single ++ cart

/-- The words that hint at an article. -/
def articleWords : List Text :=
  ["blog", "articles", "article", "news", "posts", "post"]

/-- The first of some words in the text of a page, or the start of the document when only the
file name holds one.
-/
def hint? (page : Page) (words : List Text) : Option Span :=
  match Text.firstHit? (wholeWord words) page.text with
  | some hit => some { start := hit.start, stop := hit.stop }
  | none => (Text.firstHit? (wholeWord words) page.fileName).map (fun _ => .documentStart)

/-- The finding about a page that looks like one of a type but has no structured data. -/
def structuredDataMissing (page : Page) (pageType code : Text) (words : List Text)
    : Option Finding :=
  if page.policy.requiresStructuredData pageType then
    (hint? page words).map fun span =>
      { code
        severity := .info
        category := .seo
        message :=
          "Looks like a ".toList ++ Text.lower pageType
            ++ " page but has no JSON-LD structured data".toList
        span
        help :=
          some ("Add <script type=\"application/ld+json\"> with a schema.org ".toList ++ pageType
            ++ " object".toList) }
  else none

/-- A tag embeds structured data. -/
def embedsData (tag : Tag) : Bool :=
  (tag.attribute? "type").any
    (fun value => Text.sameLetters (Text.trim value) "application/ld+json")

/-- Structured data of pages about products and of articles. -/
def structuredData : Rule :=
  { id := "structured-data"
    description := "Product and article pages should embed JSON-LD structured data"
    category := .seo
    codes := ["SEO_JSONLD_PRODUCT_MISSING", "SEO_JSONLD_ARTICLE_MISSING"]
    evaluate := fun page =>
      if (page.opening "script").any embedsData then []
      else
        (structuredDataMissing page "Product" "SEO_JSONLD_PRODUCT_MISSING" productWords).toList
          ++ (structuredDataMissing page "Article" "SEO_JSONLD_ARTICLE_MISSING"
            articleWords).toList }

/-- The properties of a social preview. -/
def previewProperties : List Text :=
  ["og:title", "og:description", "og:image", "og:url"]

/-- So many properties have to be missing before a page is reported. -/
def missingPropertiesReported : Nat :=
  3

/-- A tag declares a property of the social preview. -/
def declares (property : Text) (tag : Tag) : Bool :=
  (["property", "name"] : List Text).any fun name =>
    (tag.attribute? name).any (fun value => Text.sameLetters (Text.trim value) property)

/-- Social previews of pages with a head. -/
def openGraph : Rule :=
  { id := "open-graph"
    description := "Pages should declare og:title, og:description, og:image and og:url"
    category := .seo
    codes := ["SEO_OPEN_GRAPH_MISSING"]
    evaluate := fun page =>
      let declarations := page.opening "meta"
      let missing :=
        previewProperties.filter (fun property => !declarations.any (declares property))
      if page.hasHead && missingPropertiesReported ≤ missing.length then
        [{ code := "SEO_OPEN_GRAPH_MISSING"
           severity := .info
           category := .seo
           message := "Missing Open Graph tags: ".toList ++ Text.join ", " missing
           span := page.headAnchor
           help := some "Open Graph tags control how the page looks when shared".toList }]
      else [] }

/-- A declaration of the encoding may start this far into the head. -/
def charsetReach : Nat :=
  100

/-- The span of the tag at an offset, or no more than the offset when none starts there. -/
def anchorAt (page : Page) (offset : Nat) : Span :=
  match page.tagAt? offset with
  | some tag => tag.span
  | none => { start := offset, stop := offset }

/-- The finding about a declaration of the encoding that comes late in the head. -/
def charsetOrder (page : Page) (head : Head) : List Finding :=
  match head.charset with
  | some distance =>
      if charsetReach < distance then
        [{ code := "SEO_HEAD_CHARSET_ORDER"
           severity := .warning
           category := .seo
           message :=
             "Charset declaration is ".toList ++ Text.ofNat distance
               ++ " bytes into <head>; it should be the first element".toList
           span := anchorAt page (head.absolute distance)
           help :=
             some "Browsers may re-parse the page when the charset is declared late".toList }]
      else []
  | none => []

/-- The finding about a title that starts behind another tag of the head. -/
def titleAfter (page : Page) (head : Head) (other : Option Nat) (code message : Text)
    : List Finding :=
  match head.title, other with
  | some title, some other =>
      if other < title then
        [{ code
           severity := .info
           category := .seo
           message
           span := anchorAt page (head.absolute title) }]
      else []
  | _, _ => []

/-- The order of the declarations in the head. -/
def headOrder : Rule :=
  { id := "head-order"
    description := "Charset comes first in <head>, and <title> precedes stylesheets and scripts"
    category := .seo
    codes :=
      ["SEO_HEAD_CHARSET_ORDER", "SEO_HEAD_TITLE_AFTER_STYLESHEET",
        "SEO_HEAD_TITLE_AFTER_SCRIPT"]
    evaluate := fun page =>
      match page.shape.head with
      | some head =>
          charsetOrder page head
            ++ titleAfter page head head.stylesheet "SEO_HEAD_TITLE_AFTER_STYLESHEET"
              "<title> appears after a stylesheet link; move it above"
            ++ titleAfter page head head.script "SEO_HEAD_TITLE_AFTER_SCRIPT"
              "<title> appears after a script tag; move it above"
      | none => [] }

end PageAudit.Rule
