import PageAudit.Text.Basic

/-! A table of packages that weigh much in a script bundle. -/

namespace PageAudit

/-- A package with its estimated weight, and what could replace it. -/
structure Dependency where
  package : Text
  kilobytes : Nat
  alternative : Option Text
deriving DecidableEq

/-- The known heavy packages, each listed once. -/
structure DependencyTable where
  entries : List Dependency

namespace DependencyTable

/-- The table with an entry, which replaces an earlier one for the same package. -/
def insert (table : DependencyTable) (entry : Dependency) : DependencyTable :=
  { entries := table.entries.filter (fun old => old.package != entry.package) ++ [entry] }

/-- The table of a list of entries, of which the last one for a package counts. -/
def ofList (entries : List Dependency) : DependencyTable :=
  entries.foldl insert { entries := [] }

/-- The entry of a package. -/
def find? (table : DependencyTable) (package : Text) : Option Dependency :=
  table.entries.find? (fun entry => entry.package == package)

/-- Rough estimates for common packages. -/
def common : DependencyTable :=
  let entry := fun (package : String) (kilobytes : Nat) (alternative : Option String) =>
    { package := package.toList, kilobytes, alternative := alternative.map String.toList
      : Dependency }
  ofList
    [entry "moment" 290 (some "dayjs or date-fns"),
      entry "lodash" 530 (some "lodash-es with per-method imports"),
      entry "jquery" 87 (some "native DOM APIs"),
      entry "@material-ui/core" 330 (some "@mui/material with path imports"),
      entry "@mui/material" 310 (some "path imports (@mui/material/Button)"),
      entry "antd" 420 none,
      entry "rxjs" 150 none,
      entry "d3" 280 (some "individual d3-* modules"),
      entry "three" 600 none,
      entry "chart.js" 200 (some "uPlot"),
      entry "aws-sdk" 900 (some "@aws-sdk/client-* (v3)"),
      entry "core-js" 240 none,
      entry "xlsx" 430 none]

end DependencyTable

end PageAudit
