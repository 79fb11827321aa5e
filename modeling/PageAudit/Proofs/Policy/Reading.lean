import Mathlib.Data.List.Basic
import PageAudit.Rule.Registry

/-! A page under another policy, and the rules that look at the policy of a page. -/

namespace PageAudit

namespace Page

/-- The page under another policy. Beside the policy itself, only the mark of a managed head was
measured with it.
-/
def under (page : Page) (policy : Policy) : Page :=
  { page with
    policy
    shape := { page.shape with headManaged := holdsMarker policy.headMarkers page.text } }

theorem under_ofText (measured policy : Policy) (tables : Tables) (fileName text : Text)
    : (ofText measured tables fileName text).under policy = ofText policy tables fileName text :=
  rfl

variable (page : Page) (policy : Policy)

@[simp]
theorem policy_under : (page.under policy).policy = policy :=
  rfl

@[simp]
theorem tags_under : (page.under policy).tags = page.tags :=
  rfl

@[simp]
theorem opening_under (name : Text) : (page.under policy).opening name = page.opening name :=
  rfl

end Page

namespace Rule

section

variable (page : Page) (policy : Policy)

@[simp]
theorem titleElement?_under : titleElement? (page.under policy) = titleElement? page :=
  rfl

@[simp]
theorem descriptionTag?_under : descriptionTag? (page.under policy) = descriptionTag? page :=
  rfl

@[simp]
theorem hint?_under (words : List Text) : hint? (page.under policy) words = hint? page words :=
  rfl

end

/-- A rule ignores the policy when it reports the same about a page under any two policies. -/
def IgnoresPolicy (rule : Rule) : Prop :=
  ∀ (page : Page) (first second : Policy),
    rule.evaluate (page.under first) = rule.evaluate (page.under second)

/-- The rules that compare a page with the policy. -/
def policyReaders : List Rule :=
  [title, metaDescription, canonical, structuredData, externalScripts, inlineImageSize,
    fontLoading]

/-- What holds of each rule that ignores the policy is left to prove of the readers alone. -/
theorem forall_mem_all_of_readers {property : Rule → Prop}
    (ignoring : ∀ rule : Rule, rule.IgnoresPolicy → property rule)
    (readers : List.Forall property policyReaders)
    : ∀ rule ∈ all, property rule := by
  obtain ⟨title, metaDescription, canonical, structuredData, externalScripts, inlineImageSize,
    fontLoading⟩ := readers
  exact List.forall_iff_forall_mem.mp
    ⟨title, metaDescription, canonical, structuredData,
      ignoring openGraph fun _ _ _ => rfl,
      ignoring headOrder fun _ _ _ => rfl,
      ignoring blockingScripts fun _ _ _ => rfl,
      externalScripts,
      ignoring imageAttributes fun _ _ _ => rfl,
      ignoring imageComponent fun _ _ _ => rfl,
      inlineImageSize, fontLoading,
      ignoring resourceHints fun _ _ _ => rfl,
      ignoring htmlSize fun _ _ _ => rfl,
      ignoring domSize fun _ _ _ => rfl,
      ignoring domDepth fun _ _ _ => rfl,
      ignoring heavyImports fun _ _ _ => rfl⟩

end Rule

end PageAudit
