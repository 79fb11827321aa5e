import PageAudit.Bundle.Import
import PageAudit.Rule.Basic

/-! The rule about imports of packages that are known to weigh much. -/

namespace PageAudit.Rule

/-- The imports of a page whose packages are in the table, with their entries. -/
def heavyOnes (page : Page) : List (Import × Dependency) :=
  (Import.readAll page.text).filterMap fun found =>
    (page.tables.dependencies.find? found.package).map (found, ·)

/-- The finding about one heavy import. -/
def heavyFinding (found : Import) (entry : Dependency) : Finding :=
  { code := "BUNDLE_HEAVY_DEPENDENCY"
    severity := .info
    category := .bundle
    message :=
      '\'' :: entry.package ++ "' adds about ".toList ++ Text.ofNat entry.kilobytes
        ++ "KB".toList
        ++ match entry.alternative with
          | some alternative => "; consider ".toList ++ alternative
          | none => []
    span := found.span }

/-- The total weight of heavy imports. -/
def totalWeight : List (Import × Dependency) → Nat
  | [] => 0
  | (_, entry) :: heavy => entry.kilobytes + totalWeight heavy

/-- A total with the weight of one more import, unless the sum is no word of 64 bits. -/
def addWeight? (total : Nat) (heavy : Import × Dependency) : Option Nat :=
  let sum := total + heavy.2.kilobytes
  if sum < UInt64.size then some sum else none

/-- The total weight of heavy imports as it is counted, one import after the other in a word of 64
bits. There is none when the word overflows on the way.
-/
def totalWeight? (heavy : List (Import × Dependency)) : Option Nat :=
  heavy.foldlM addWeight? 0

/-- The finding about a total weight beyond a limit. -/
def weightOver (total limit : Nat) (code : Text) (severity : Severity) (help : Option Text)
    : List Finding :=
  if limit < total then
    [{ code
       severity
       category := .bundle
       message :=
         "Heavy dependencies add about ".toList ++ Text.ofNat total ++ "KB (more than ".toList
           ++ Text.ofNat limit ++ "KB)".toList
       span := .documentStart
       help }]
  else []

/-- Heavy imports and their total weight. -/
def heavyImports : Rule :=
  { id := "heavy-imports"
    description := "Imports of known heavy packages and their estimated bundle weight"
    category := .bundle
    codes := ["BUNDLE_HEAVY_DEPENDENCY", "BUNDLE_SIZE_LARGE", "BUNDLE_SIZE_EXCESSIVE"]
    evaluate := fun page =>
      let heavy := heavyOnes page
      let total := totalWeight heavy
      heavy.map (fun (found, entry) => heavyFinding found entry)
        ++ weightOver total 500 "BUNDLE_SIZE_LARGE" .warning
          (some "Code-split heavy packages or replace them with lighter ones".toList)
        ++ weightOver total 1000 "BUNDLE_SIZE_EXCESSIVE" .error none
    overflows := fun page => (totalWeight? (heavyOnes page)).isNone }

end PageAudit.Rule
