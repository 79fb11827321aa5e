import PageAudit.Rule.Basic

/-! Findings about the items of a list: one about each item that deserves one, in order. -/

namespace PageAudit

/-- The findings of some code among those of a rule that all have one code. -/
theorem Finding.filter_code {findings : List Finding} {code : Text}
    (own : ∀ finding ∈ findings, finding.code = code) (wanted : Text)
    : findings.filter (·.code = wanted) = if code = wanted then findings else [] := by
  split
  · next same =>
      exact List.filter_eq_self.mpr fun finding member => by simp [own finding member, same]
  · next other =>
      exact List.filter_eq_nil_iff.mpr fun finding member => by simp [own finding member, other]

namespace Rule

/-- (ReportsEach about items findings) says that `findings` stand in the order of the items.
There is one about each item that a finding can be about, and none besides.
-/
inductive ReportsEach {α : Type} (about : α → Finding → Prop) : List α → List Finding → Prop where
  | done : ReportsEach about [] []
  | report {item : α} {items : List α} {finding : Finding} {findings : List Finding}
    (here : about item finding) (others : ReportsEach about items findings)
    : ReportsEach about (item :: items) (finding :: findings)
  | pass {item : α} {items : List α} {findings : List Finding}
    (nothing : ∀ finding, ¬ about item finding) (others : ReportsEach about items findings)
    : ReportsEach about (item :: items) findings

variable {α : Type} {about : α → Finding → Prop} {items : List α}

/-- A search that finds nothing wrong and misses nothing reports each item. -/
theorem reportsEach_filterMap {find? : α → Option Finding}
    (sound : ∀ item finding, find? item = some finding → about item finding)
    (complete : ∀ item, find? item = none → ∀ finding, ¬ about item finding)
    : ReportsEach about items (items.filterMap find?) := by
  induction items with
  | nil => exact .done
  | cons item items ih =>
      cases found : find? item with
      | none =>
          rw [List.filterMap_cons_none found]
          exact .pass (complete item found) ih
      | some finding =>
          rw [List.filterMap_cons_some found]
          exact .report (sound item finding found) ih

/-- An item that a finding can be about gets one. -/
theorem ReportsEach.exists_finding {findings : List Finding}
    (reports : ReportsEach about items findings) {item : α} (member : item ∈ items)
    {finding : Finding} (possible : about item finding)
    : ∃ reported ∈ findings, about item reported := by
  induction reports with
  | done => exact absurd member List.not_mem_nil
  | report here others ih =>
      rcases List.mem_cons.mp member with rfl | later
      · exact ⟨_, List.mem_cons_self, here⟩
      · obtain ⟨reported, among, about⟩ := ih later
        exact ⟨reported, .tail _ among, about⟩
  | pass nothing _ ih =>
      rcases List.mem_cons.mp member with rfl | later
      · exact absurd possible (nothing finding)
      · exact ih later

end Rule

end PageAudit
