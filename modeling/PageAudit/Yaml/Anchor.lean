import PageAudit.Yaml.Node

/-! Which nodes aliases stand for.

Anchors are numbered in the order of the document. The number of an anchor is the number of
names before it, so an anchor whose name was used before shares its number with the next
name that is new. An alias has the number of the latest anchor with its name, and it stands
for the last node in the document with that number.
-/

namespace PageAudit.Yaml

/-- The numbers that the names of anchors have. Each name has one. -/
abbrev Numbers := List (Text × Nat)

/-- A name with a number of its own, in place of any number that it had. -/
def Numbers.put (numbers : Numbers) (name : Text) (number : Nat) : Numbers :=
  (name, number) :: numbers.filter (·.1 != name)

namespace Node

mutual

/-- A node whose anchors have numbers, and the numbers behind it. An alias of a name that is not
known yet stands for nothing.
-/
def number? : Numbers → Node Text → Option (Node Nat × Numbers)
  | numbers, .scalar tag isPlain text => some (.scalar tag isPlain text, numbers)
  | numbers, .sequence tag items =>
      (numberItems? numbers items).map fun (items, numbers) => (.sequence tag items, numbers)
  | numbers, .mapping tag entries =>
      (numberEntries? numbers entries).map
        fun (entries, numbers) => (.mapping tag entries, numbers)
  | numbers, .anchored name node =>
      let number := numbers.length
      (number? (numbers.put name number) node).map
        fun (node, numbers) => (.anchored number node, numbers)
  | numbers, .alias name => (numbers.lookup name).map fun number => (.alias number, numbers)

/-- The items of a sequence, one after the other. -/
def numberItems? : Numbers → List (Node Text) → Option (List (Node Nat) × Numbers)
  | numbers, [] => some ([], numbers)
  | numbers, item :: items =>
      (number? numbers item).bind fun (item, numbers) =>
        (numberItems? numbers items).map fun (items, numbers) => (item :: items, numbers)

/-- The entries of a mapping, each key before its value. -/
def numberEntries?
    : Numbers → List (Node Text × Node Text) → Option (List (Node Nat × Node Nat) × Numbers)
  | numbers, [] => some ([], numbers)
  | numbers, (key, value) :: entries =>
      (number? numbers key).bind fun (key, numbers) =>
        (number? numbers value).bind fun (value, numbers) =>
          (numberEntries? numbers entries).map
            fun (entries, numbers) => ((key, value) :: entries, numbers)

end

mutual

/-- The nodes with anchors within a node, in the order in which they begin. -/
def targets : Node Nat → List (Nat × Node Nat)
  | .scalar _ _ _ => []
  | .sequence _ items => targetsOfItems items
  | .mapping _ entries => targetsOfEntries entries
  | .anchored number node => (number, node) :: targets node
  | .alias _ => []

/-- The nodes with anchors within the items of a sequence. -/
def targetsOfItems : List (Node Nat) → List (Nat × Node Nat)
  | [] => []
  | item :: items => targets item ++ targetsOfItems items

/-- The nodes with anchors within the entries of a mapping. -/
def targetsOfEntries : List (Node Nat × Node Nat) → List (Nat × Node Nat)
  | [] => []
  | (key, value) :: entries => targets key ++ targets value ++ targetsOfEntries entries

end

mutual

/-- How many places a node takes. A collection takes one for its start and one for its end. -/
def places : Node Nat → Nat
  | .scalar _ _ _ => 1
  | .sequence _ items => 2 + placesOfItems items
  | .mapping _ entries => 2 + placesOfEntries entries
  | .anchored _ node => places node
  | .alias _ => 1

/-- The places of the items of a sequence. -/
def placesOfItems : List (Node Nat) → Nat
  | [] => 0
  | item :: items => places item + placesOfItems items

/-- The places of the entries of a mapping. -/
def placesOfEntries : List (Node Nat × Node Nat) → Nat
  | [] => 0
  | (key, value) :: entries => places key + places value + placesOfEntries entries

end

end Node

end PageAudit.Yaml
