import Mathlib.Data.List.Induction
import PageAudit.Proofs.Rule.Catalogue
import PageAudit.Proofs.Text.Trim

/-! What is reported about early connections, whatever the origin of a reference is: the first tag
that loads from an origin is reported, with the first origins in the order in which they appear.
-/

namespace PageAudit.Rule

variable {originOf : Text → Option Text} {tags : List Tag} {tag : Tag} {origin : Text}
  {origins : List Text}

-----------------------------------------------------------------------------------------
-- Tags and origins
-----------------------------------------------------------------------------------------

/-- (LoadsFrom originOf tag origin) says that a tag loads a script or a stylesheet from an origin. A
reference of blanks loads no script.
-/
inductive LoadsFrom (originOf : Text → Option Text) (tag : Tag) (origin : Text) : Prop where
  | script {source : Text} (opens : tag.opens "script")
    (carried : tag.attribute? "src" = some source) (solid : ∃ char ∈ source, ¬ Text.isBlank char)
    (found : originOf source = some origin)
  | stylesheet {reference : Text} (opens : tag.opens "link")
    (linked : tag.attributeHasToken "rel" "stylesheet")
    (carried : tag.attribute? "href" = some reference) (found : originOf reference = some origin)

/-- A tag asks the browser to connect early. -/
def HintsConnection (tag : Tag) : Prop :=
  tag.opens "link" ∧ tag.attributeHasToken "rel" "preconnect"

instance (tag : Tag) : Decidable (HintsConnection tag) :=
  inferInstanceAs (Decidable (tag.opens "link" ∧ tag.attributeHasToken "rel" "preconnect"))

/-- (AppearsBefore originOf tags first second) says that some tag loads from the first origin, and
that no tag up to that one loads from the second.
-/
def AppearsBefore (originOf : Text → Option Text) (tags : List Tag) (first second : Text) : Prop :=
  ∃ front tag behind,
    tags = front ++ tag :: behind
    ∧ LoadsFrom originOf tag first
    ∧ ∀ earlier ∈ front ++ [tag], ¬ LoadsFrom originOf earlier second

/-- (Appear originOf tags origins) says that a list holds the origins that a stream of tags loads
from, each once and in the order in which they first appear.
-/
structure Appear (originOf : Text → Option Text) (tags : List Tag) (origins : List Text)
    : Prop where
  mem_iff : ∀ origin, origin ∈ origins ↔ ∃ tag ∈ tags, LoadsFrom originOf tag origin
  nodup : origins.Nodup
  ordered : origins.Pairwise (AppearsBefore originOf tags)

theorem isExternalScript_iff
    : isExternalScript tag
      ↔ tag.opens "script"
        ∧ ∃ source, tag.attribute? "src" = some source ∧ ∃ char ∈ source, ¬ Text.isBlank char := by
  rw [isExternalScript, Bool.and_eq_true, Option.any_eq_true]
  refine and_congr_right fun _ => exists_congr fun source => and_congr_right fun _ => ?_
  simp [Text.trim_eq_nil_iff]

/-- No tag has two names. -/
theorem not_opens_link (script : tag.opens "script") : ¬ tag.opens "link" := by
  intro link
  have differ : Text.lower "script" ≠ Text.lower "link" := by decide
  simp only [Tag.opens, Tag.hasName, Text.sameLetters, Bool.and_eq_true, beq_iff_eq] at script link
  exact differ (script.2.symm.trans link.2)

/-- The origins that are collected are those that tags load from. -/
theorem bind_loadedFrom?_iff
    : (loadedFrom? tag).bind originOf = some origin ↔ LoadsFrom originOf tag origin := by
  rw [Option.bind_eq_some_iff, loadedFrom?]
  constructor
  · rintro ⟨reference, loaded, found⟩
    split at loaded
    · next external =>
        obtain ⟨opens, source, carried, solid⟩ := isExternalScript_iff.mp external
        obtain rfl := Option.some.inj (carried.symm.trans loaded)
        exact .script opens carried solid found
    · obtain ⟨linked, carried⟩ := Option.ite_none_right_eq_some.mp loaded
      obtain ⟨opens, styles⟩ := Bool.and_eq_true_iff.mp linked
      exact .stylesheet opens styles carried found
  · intro loads
    cases loads with
    | script opens carried solid found =>
        have external := isExternalScript_iff.mpr ⟨opens, _, carried, solid⟩
        exact ⟨_, by rw [if_pos external, carried], found⟩
    | stylesheet opens linked carried found =>
        have other : ¬ isExternalScript tag := fun external =>
          not_opens_link (isExternalScript_iff.mp external).1 opens
        have styles : tag.isStylesheet := Bool.and_eq_true_iff.mpr ⟨opens, linked⟩
        exact ⟨_, by rw [if_neg other, if_pos styles, carried], found⟩

theorem bind_loadedFrom?_eq_none_iff
    : (loadedFrom? tag).bind originOf = none ↔ ∀ origin, ¬ LoadsFrom originOf tag origin := by
  simp only [Option.eq_none_iff_forall_ne_some, ne_eq, bind_loadedFrom?_iff]

theorem LoadsFrom.unique {other : Text} (loads : LoadsFrom originOf tag origin)
    (loadsOther : LoadsFrom originOf tag other)
    : origin = other :=
  Option.some.inj
    ((bind_loadedFrom?_iff.mpr loads).symm.trans (bind_loadedFrom?_iff.mpr loadsOther))

-----------------------------------------------------------------------------------------
-- The order in which origins appear
-----------------------------------------------------------------------------------------

theorem AppearsBefore.concat {first second : Text}
    (before : AppearsBefore originOf tags first second) (tag : Tag)
    : AppearsBefore originOf (tags ++ [tag]) first second := by
  obtain ⟨front, loading, behind, rfl, loads, unloaded⟩ := before
  exact ⟨front, loading, behind ++ [tag], by simp, loads, unloaded⟩

theorem exists_loadsFrom_concat
    : (∃ loading ∈ tags ++ [tag], LoadsFrom originOf loading origin)
      ↔ (∃ loading ∈ tags, LoadsFrom originOf loading origin) ∨ LoadsFrom originOf tag origin := by
  simp only [List.mem_append, List.mem_singleton, or_and_right, exists_or, exists_eq_left]

/-- A tag that loads from no other origin leaves the list as it is. -/
theorem Appear.pass (appear : Appear originOf tags origins)
    (known : ∀ origin, LoadsFrom originOf tag origin → origin ∈ origins)
    : Appear originOf (tags ++ [tag]) origins where
  mem_iff origin := by
    rw [exists_loadsFrom_concat, ← appear.mem_iff, or_iff_left_of_imp (known origin)]
  nodup := appear.nodup
  ordered := appear.ordered.imp (·.concat tag)

/-- A tag that loads from a new origin adds it behind all others. -/
theorem Appear.add (appear : Appear originOf tags origins) (loads : LoadsFrom originOf tag origin)
    (new : origin ∉ origins)
    : Appear originOf (tags ++ [tag]) (origins ++ [origin]) where
  mem_iff other := by
    rw [exists_loadsFrom_concat, ← appear.mem_iff, List.mem_append, List.mem_singleton]
    refine or_congr_right ⟨?_, fun loadsOther => loadsOther.unique loads⟩
    rintro rfl
    exact loads
  nodup := List.concat_eq_append ▸ appear.nodup.concat new
  ordered := by
    refine List.pairwise_append.mpr
      ⟨appear.ordered.imp (·.concat tag), List.pairwise_singleton _ _, ?_⟩
    intro first listed second last
    obtain rfl := List.mem_singleton.mp last
    obtain ⟨loading, member, loadsFirst⟩ := (appear.mem_iff first).mp listed
    obtain ⟨front, behind, rfl⟩ := List.append_of_mem member
    refine ⟨front, loading, behind ++ [tag], by simp, loadsFirst, fun earlier among loadsNew => ?_⟩
    refine new ((appear.mem_iff second).mpr ⟨earlier, ?_, loadsNew⟩)
    rcases List.mem_append.mp among with inFront | here
    · exact List.mem_append_left _ inFront
    · exact List.mem_append_right _ (List.mem_singleton.mp here ▸ List.mem_cons_self)

theorem distinct_concat (texts : List Text) (text : Text)
    : distinct (texts ++ [text])
      = if text ∈ distinct texts then distinct texts else distinct texts ++ [text] := by
  simp [distinct]

/-- The origins that are listed appear in their order. The induction takes one more tag at a time at
the end of the stream.
-/
theorem appear_distinct (originOf : Text → Option Text) (tags : List Tag)
    : Appear originOf tags (distinct ((originsIn originOf tags).map (·.2))) := by
  induction tags using List.reverseRecOn with
  | nil => exact ⟨fun origin => by simp [originsIn, distinct], .nil, .nil⟩
  | append_singleton tags tag ih =>
      rw [originsIn, List.filterMap_append, ← originsIn, List.map_append]
      cases found : (loadedFrom? tag).bind originOf with
      | none =>
          rw [List.filterMap_cons_none (by rw [found, Option.map_none]), List.filterMap_nil,
            List.map_nil, List.append_nil]
          exact ih.pass fun origin loads =>
            absurd loads (bind_loadedFrom?_eq_none_iff.mp found origin)
      | some origin =>
          have loads := bind_loadedFrom?_iff.mp found
          rw [List.filterMap_cons_some (by rw [found, Option.map_some]), List.filterMap_nil,
            List.map_singleton, distinct_concat]
          split
          · next seen =>
              refine ih.pass fun other loadsOther => ?_
              rwa [loadsOther.unique loads]
          · next new => exact ih.add loads new

-----------------------------------------------------------------------------------------
-- The finding about connections
-----------------------------------------------------------------------------------------

/-- No finding is about a stream of tags that hints a connection or that loads from no origin. -/
theorem connections_eq_nil
    (silent
      : (∃ tag ∈ tags, HintsConnection tag)
        ∨ ∀ tag ∈ tags, ∀ origin, ¬ LoadsFrom originOf tag origin)
    : connections originOf tags = [] := by
  unfold connections
  split
  · rfl
  · next unhinted =>
      rcases silent with ⟨tag, member, hint⟩ | nowhere
      · exact absurd (List.any_eq_true.mpr ⟨tag, member, Bool.and_eq_true_iff.mpr hint⟩) unhinted
      · have none : originsIn originOf tags = [] :=
          List.filterMap_eq_nil_iff.mpr fun tag member =>
            Option.map_eq_none_iff.mpr (bind_loadedFrom?_eq_none_iff.mpr (nowhere tag member))
        rw [none]

/-- (AboutConnections originOf tags finding) says that a finding lists the first origins of a stream
of tags, up to three of them, at the first tag that loads from any.
-/
structure AboutConnections (originOf : Text → Option Text) (tags : List Tag) (finding : Finding)
    : Prop where
  kind
    : finding.kind
      = { code := "PERF_PRECONNECT_MISSING", severity := .info, category := .performance }
  anchor : ∃ front tag behind,
    tags = front ++ tag :: behind
    ∧ finding.span = tag.span
    ∧ (∃ origin, LoadsFrom originOf tag origin)
    ∧ ∀ earlier ∈ front, ∀ origin, ¬ LoadsFrom originOf earlier origin
  message : ∃ origins listed,
    Appear originOf tags origins
    ∧ listed <+: origins
    ∧ listed.length = min 3 origins.length
    ∧ finding.message
      = "No preconnect hint for external origins: ".toList ++ Text.join ", " listed

/-- Nothing is reported about a stream of tags when one of them hints a connection, or when none
loads a script or a stylesheet from an origin. Otherwise there is one finding, about the first tag
that loads from an origin, and it lists the first three origins in the order in which they appear.
-/
theorem connections_reports (originOf : Text → Option Text) (tags : List Tag)
    : ((∃ tag ∈ tags, HintsConnection tag)
          ∨ (∀ tag ∈ tags, ∀ origin, ¬ LoadsFrom originOf tag origin)
        → connections originOf tags = [])
      ∧ ((∀ tag ∈ tags, ¬ HintsConnection tag)
        → (∃ tag ∈ tags, ∃ origin, LoadsFrom originOf tag origin)
        → ∃ finding,
            connections originOf tags = [finding] ∧ AboutConnections originOf tags finding) := by
  refine ⟨connections_eq_nil, fun unhinted ⟨loading, member, origin, loads⟩ => ?_⟩
  have none
      : ¬ tags.any fun tag => tag.opens "link" && tag.attributeHasToken "rel" "preconnect" := by
    intro some
    obtain ⟨tag, member, hint⟩ := List.any_eq_true.mp some
    exact unhinted tag member (Bool.and_eq_true_iff.mp hint)
  cases collected : originsIn originOf tags with
  | nil =>
      have none := Option.map_eq_none_iff.mp (List.filterMap_eq_nil_iff.mp collected _ member)
      exact absurd loads (bind_loadedFrom?_eq_none_iff.mp none origin)
  | cons entry others =>
      obtain ⟨front, tag, behind, split, before, here, -⟩ := List.filterMap_eq_cons_iff.mp collected
      obtain ⟨first, found, rfl⟩ := Option.map_eq_some_iff.mp here
      have appear := appear_distinct originOf tags
      rw [collected] at appear
      refine ⟨_, by rw [connections, if_neg none, collected], rfl, ?_, ?_⟩
      · refine ⟨front, tag, behind, split, rfl, ⟨first, bind_loadedFrom?_iff.mp found⟩, ?_⟩
        exact fun earlier among =>
          bind_loadedFrom?_eq_none_iff.mp (Option.map_eq_none_iff.mp (before earlier among))
      · exact ⟨_, _, appear, List.take_prefix _ _, List.length_take, rfl⟩

theorem connections_reports_four
    : let silent := Markup.tokenize "<link rel='preconnect' href='//a.com'>"
      let tags := Markup.tokenize ("<script src='//a.com/x.js'></script>"
        ++ "<script src='//a.com/y.js'></script><link rel=stylesheet href='http://b.com/s.css'>"
        ++ "<script src='//c.com/z.js'></script><script src='//d.com/w.js'></script>")
      (∃ tag ∈ silent, HintsConnection tag)
      ∧ connections Web.externalOrigin? silent = []
      ∧ (∀ tag ∈ tags, ¬ HintsConnection tag)
      ∧ (∃ tag ∈ tags, ∃ origin, LoadsFrom Web.externalOrigin? tag origin)
      ∧ ∃ finding,
          connections Web.externalOrigin? tags = [finding]
          ∧ AboutConnections Web.externalOrigin? tags finding := by
  intro silent tags
  have hinted : ∃ tag ∈ silent, HintsConnection tag := by decide +kernel
  have unhinted : ∀ tag ∈ tags, ¬ HintsConnection tag := by decide +kernel
  obtain ⟨tag, member, found⟩
      : ∃ tag ∈ tags,
          (loadedFrom? tag).bind Web.externalOrigin? = some "https://a.com".toList := by
    decide +kernel
  have loading : ∃ tag ∈ tags, ∃ origin, LoadsFrom Web.externalOrigin? tag origin :=
    ⟨tag, member, _, bind_loadedFrom?_iff.mp found⟩
  exact ⟨hinted, (connections_reports _ silent).1 (.inl hinted), unhinted, loading,
    (connections_reports _ tags).2 unhinted loading⟩

end PageAudit.Rule
