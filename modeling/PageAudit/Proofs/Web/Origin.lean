import PageAudit.Proofs.Web.Punycode
import PageAudit.Web.Origin

/-! Origins stand on one line: whatever a reference holds, the scheme, the host and the number of
the service that are taken from it hold no line break.
-/

namespace PageAudit.Web

open Text (OneLine)

-----------------------------------------------------------------------------------------
-- Hosts by name
-----------------------------------------------------------------------------------------

namespace DomainName

/-- All characters of a proper label are allowed, and a line break is not. -/
theorem oneLine_of_isProper {label : Text} (proper : isProper label) : OneLine label := by
  intro member
  simp only [isProper, Bool.and_eq_true, Bool.not_eq_true', List.any_eq_false] at proper
  exact proper.2 _ member (by decide)

/-- The ASCII form of a label that is written in ASCII already holds no line break, since its label
holds none.
-/
theorem oneLine_writtenLabel? {written : Text} {label : Label}
    (found : writtenLabel? written = some label)
    : OneLine label.ascii := by
  unfold writtenLabel? at found
  split at found
  · cases found
  · obtain ⟨text, decoded, goesOn⟩ := Option.bind_eq_some_iff.mp found
    split at goesOn
    · next proper =>
        obtain rfl := Option.some.inj goesOn
        have line := Punycode.oneLine_of_decode?_eq_some decoded (oneLine_of_isProper proper.2.2)
        simp [line]
    · cases goesOn

theorem oneLine_label? {text : Text} {label : Label} (found : label? text = some label)
    : OneLine label.ascii := by
  unfold label? at found
  split at found
  · exact oneLine_writtenLabel? found
  · split at found
    · cases found
    · next proper =>
        have line := oneLine_of_isProper (of_not_not proper)
        split at found
        · obtain rfl := Option.some.inj found
          exact line
        · split at found
          · cases found
          · obtain rfl := Option.some.inj found
            simp [Punycode.oneLine_encode line]

/-- What a list is mapped to comes from its members, by induction over it. -/
theorem exists_of_mem_mapM {α β : Type} {read? : α → Option β} {items : List α} {results : List β}
    (found : items.mapM read? = some results) {result : β} (member : result ∈ results)
    : ∃ item ∈ items, read? item = some result := by
  induction items generalizing results with
  | nil =>
      obtain rfl := Option.some.inj found
      cases member
  | cons item items ih =>
      rw [List.mapM_cons] at found
      obtain ⟨first, here, goesOn⟩ := Option.bind_eq_some_iff.mp found
      obtain ⟨others, there, same⟩ := Option.bind_eq_some_iff.mp goesOn
      obtain rfl := Option.some.inj same
      rcases List.mem_cons.mp member with rfl | later
      · exact ⟨item, List.mem_cons_self, here⟩
      · obtain ⟨origin, listed, same⟩ := ih there later
        exact ⟨origin, .tail _ listed, same⟩

theorem oneLine_toAscii? {name ascii : Text} (found : toAscii? name = some ascii)
    : OneLine ascii := by
  obtain ⟨normal, -, goesOn⟩ := Option.bind_eq_some_iff.mp found
  obtain ⟨labels, read, goesOn⟩ := Option.bind_eq_some_iff.mp goesOn
  split at goesOn
  · obtain rfl := Option.some.inj goesOn
    refine Text.oneLine_join (by decide) fun part member => ?_
    obtain ⟨label, listed, rfl⟩ := List.mem_map.mp member
    obtain ⟨text, -, same⟩ := exists_of_mem_mapM read listed
    exact oneLine_label? same
  · cases goesOn

end DomainName

-----------------------------------------------------------------------------------------
-- Hosts by address
-----------------------------------------------------------------------------------------

/-- Hexadecimal digits hold no line break, by induction over the divisions. -/
theorem oneLine_toDigitsCore (fuel number : Nat) {digits : Text} (line : OneLine digits)
    : OneLine (Nat.toDigitsCore 16 fuel number digits) := by
  induction fuel generalizing number digits with
  | zero => exact line
  | succ fuel ih =>
      have each : ∀ digit < 16, Nat.digitChar digit ≠ '\n' := by decide
      have more : OneLine (Nat.digitChar (number % 16) :: digits) :=
        Text.oneLine_cons.mpr ⟨each _ (Nat.mod_lt _ (by decide)), line⟩
      rw [Nat.toDigitsCore]
      split
      · exact more
      · exact ih _ more

theorem oneLine_writeGroups (groups : List Nat) : OneLine (Ipv6.writeGroups groups) := by
  refine Text.oneLine_join (by decide) fun part member => ?_
  obtain ⟨group, -, rfl⟩ := List.mem_map.mp member
  exact oneLine_toDigitsCore _ _ Text.oneLine_nil

theorem oneLine_ipv6 (groups : List Nat) : OneLine (Ipv6.write groups) := by
  unfold Ipv6.write
  dsimp only
  split <;> simp [oneLine_writeGroups]

theorem oneLine_ipv4 (address : Nat) : OneLine (Ipv4.write address) := by
  refine Text.oneLine_join (by decide) fun part member => ?_
  obtain ⟨place, -, rfl⟩ := List.mem_map.mp member
  exact Text.oneLine_ofNat _

-----------------------------------------------------------------------------------------
-- Origins
-----------------------------------------------------------------------------------------

theorem oneLine_named? {text host : Text} (found : named? text = some host) : OneLine host := by
  obtain ⟨name, -, goesOn⟩ := Option.bind_eq_some_iff.mp found
  obtain ⟨ascii, read, goesOn⟩ := Option.bind_eq_some_iff.mp goesOn
  split at goesOn
  · cases goesOn
  · split at goesOn
    · obtain ⟨address, -, rfl⟩ := Option.map_eq_some_iff.mp goesOn
      exact oneLine_ipv4 address
    · obtain rfl := Option.some.inj goesOn
      exact DomainName.oneLine_toAscii? read

theorem oneLine_host? {text host : Text} (found : host? text = some host) : OneLine host := by
  unfold host? at found
  split at found
  · unfold bracketed? at found
    split at found
    · obtain ⟨groups, -, rfl⟩ := Option.map_eq_some_iff.mp found
      exact oneLine_ipv6 groups
    · cases found
  · exact oneLine_named? found

theorem oneLine_originOf? {address origin : Text} (found : originOf? address = some origin)
    : OneLine origin := by
  obtain ⟨⟨scheme, rest⟩, -, goesOn⟩ := Option.bind_eq_some_iff.mp found
  obtain ⟨usual, known, goesOn⟩ := Option.bind_eq_some_iff.mp goesOn
  obtain ⟨host, read, goesOn⟩ := Option.bind_eq_some_iff.mp goesOn
  obtain ⟨number, -, rfl⟩ := Option.map_eq_some_iff.mp goesOn
  have schemeLine : OneLine scheme := by
    obtain ⟨front, behind, split, -⟩ := List.lookup_eq_some_iff.mp known
    have listed : (scheme, usual) ∈ webSchemes := by simp [split]
    have each : ∀ entry ∈ webSchemes, OneLine entry.1 := by decide
    exact each _ listed
  have hostLine := oneLine_host? read
  cases number <;> simp [schemeLine, hostLine]

/-- The origin of a reference holds no line break, whatever the reference holds. -/
theorem oneLine_externalOrigin? {reference origin : Text}
    (found : externalOrigin? reference = some origin)
    : OneLine origin := by
  unfold externalOrigin? at found
  dsimp only at found
  split at found
  · cases found
  · split at found <;> exact oneLine_originOf? found

end PageAudit.Web
