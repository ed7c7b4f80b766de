import DashboardKit.Yaml.Node.Parser
import DashboardKit.Yaml.Scalar

/-!
# YAML: reading

Reads the one document of a text.  A map with a merge key takes over the entries of other maps, its
own entries winning.  Keys have to be scalars.  Two keys are the same if their atoms are; the number
that is none differs from itself as an atom, but under its name, and where an alias repeats it, it
is one key.

The parts of collections are looked at level by level: first the outermost node, then the parts of
every collection of a level.  This matters where a document has two faults.
-/

set_option autoImplicit false

namespace DashboardKit.Yaml

/-- What a node has turned out to be. -/
inductive Built where
  | atom (a : Atom)
  /-- the number that is none, under its name -/
  | notANumber
  | list (items : List Nat)
  | map (entries : List (Nat × Nat))
  | set (entries : List (Nat × Nat))
  /-- a list of entries, each of them a list of two -/
  | pairs (entries : List (Nat × Nat))
  deriving Repr

/-- The atom that a node has turned out to be, if it is one. -/
def Built.atom? : Built → Option Atom
  | .atom a => some a
  | .notANumber => some (.float Binary64.nan)
  | _ => none

/-! ## Merge keys -/

/-- The entries that a merge key adds, given the nodes and a way to settle a map.  Of several maps
the last one's entries come first. -/
def mergedEntries (settle : Array Node → Nat → Except ReadFault (Array Node)) (value : Nat)
    (nodes : Array Node) : Except ReadFault (Array Node × List (Nat × Nat)) := do
  let settled (nodes : Array Node) (i : Nat) :
      Except ReadFault (Array Node × List (Nat × Nat)) := do
    if (entriesAt? nodes i).isNone then throw .malformed
    let nodes ← settle nodes i
    return (nodes, (entriesAt? nodes i).getD [])
  match bodyAt nodes value with
  | .sequence items =>
    items.foldlM (fun (nodes, later) i => do
      let (nodes, entries) ← settled nodes i
      return (nodes, entries ++ later)) (nodes, [])
  | _ => settled nodes value

/-- Takes the merge keys out of a map and puts the entries that they add in front of its own.  A
default key is an ordinary one here.  Every call inside a call comes after a merge key was taken
out. -/
def settleMap : (bound : Nat) → Array Node → Nat → Except ReadFault (Array Node)
  | 0, nodes, _ => .ok nodes
  | bound + 1, nodes, i => do
    let size := ((entriesAt? nodes i).getD []).length
    let (nodes, _, merged) ← (List.range size).foldlM (fun (nodes, k, merged) _ => do
        let entries := (entriesAt? nodes i).getD []
        match entries[k]? with
        | none => return (nodes, k, merged)
        | some (key, value) =>
          match tagAt nodes key with
          | .merge =>
            let nodes := nodes.modify i fun n => { n with body := .mapping (entries.eraseIdx k) }
            let (nodes, added) ← mergedEntries (settleMap bound) value nodes
            return (nodes, k, merged ++ added)
          | .default => return (nodes.modify key fun n => { n with tag := .text }, k + 1, merged)
          | _ => return (nodes, k + 1, merged))
      (nodes, 0, ([] : List (Nat × Nat)))
    return nodes.modify i fun n =>
      match n.body with
      | .mapping entries => { n with body := .mapping (merged ++ entries) }
      | _ => n

/-! ## Building -/

/-- Nodes, what has been built of them, and the collections whose parts are still to be looked at.
-/
structure Building where
  nodes : Array Node
  built : Array (Option Built)
  waiting : List Nat

/-- Whether a node is a collection by its tag. -/
def Tag.isCollection : Tag → Bool
  | .orderedMap => true
  | .pairs => true
  | .set => true
  | .list => true
  | .map => true
  | _ => false

/-- Whether a node is an atom by its tag. -/
def Tag.isScalar : Tag → Bool
  | .unknown => false
  | .merge => false
  | .default => false
  | tag => !tag.isCollection

/-- The text of a node that its tag makes a scalar.  A map stands for the value of its default
key. -/
def scalarText (nodes : Array Node) : (bound : Nat) → Nat → Except ReadFault Text
  | 0, _ => .error .malformed
  | bound + 1, i =>
    match bodyAt nodes i with
    | .scalar t => .ok t
    | .sequence _ => .error .malformed
    | .mapping entries =>
      match entries.find? fun e => tagAt nodes e.1 == .default with
      | some (_, value) => scalarText nodes bound value
      | none => .error .malformed

/-- What a node has turned out to be so far. -/
def Building.at? (b : Building) (i : Nat) : Option Built := b.built[i]?.join

/-- Notes what a node is. -/
def Building.settle (b : Building) (i : Nat) (made : Built) : Building :=
  { b with built := b.built.setIfInBounds i (some made) }

/-- Looks at a node: a scalar is read, a collection waits. -/
def Building.visit (b : Building) (i : Nat) : Except ReadFault Building :=
  if (b.at? i).isSome then .ok b
  else
    let tag := tagAt b.nodes i
    if tag.isCollection then .ok { b.settle i (.list []) with waiting := i :: b.waiting }
    else if !tag.isScalar then .error .malformed
    else do
      let t ← scalarText b.nodes (b.nodes.size + 1) i
      if tag == .timestamp && (entriesAt? b.nodes i).isSome then throw .timestampMap
      if tag == .float && namesNaN t then return b.settle i .notANumber
      return b.settle i (.atom (← scalarValue tag t))

/-- Looks at a key, which has to be an atom. -/
def Building.visitKey (b : Building) (i : Nat) : Except ReadFault Building := do
  let b ← b.visit i
  match (b.at? i).bind Built.atom? with
  | some _ => return b
  | none => throw .malformed

/-- Looks at the items of a list. -/
def Building.visitItems (b : Building) (i : Nat) : Except ReadFault (Building × List Nat) := do
  match bodyAt b.nodes i with
  | .sequence items => return (← items.foldlM Building.visit b, items)
  | _ => throw .malformed

/-- Looks at the entries of a map. -/
def Building.visitEntries (b : Building) (i : Nat) :
    Except ReadFault (Building × List (Nat × Nat)) := do
  if (entriesAt? b.nodes i).isNone then throw .malformed
  let nodes ← settleMap (b.nodes.size + 1) b.nodes i
  let entries := (entriesAt? nodes i).getD []
  let b ← entries.foldlM (fun b (key, value) => do (← b.visitKey key).visit value)
    { b with nodes }
  return (b, entries)

/-- Looks at the items of a list of entries, each of them a map of one. -/
def Building.visitPairs (b : Building) (i : Nat) :
    Except ReadFault (Building × List (Nat × Nat)) := do
  match bodyAt b.nodes i with
  | .sequence items =>
    items.foldlM (fun (b, entries) item => do
      match entriesAt? b.nodes item with
      | some [(key, value)] =>
        return (← (← b.visit key).visit value, entries ++ [(key, value)])
      | _ => throw .malformed) (b, ([] : List (Nat × Nat)))
  | _ => throw .malformed

/-- Looks at the parts of a collection. -/
def Building.expand (b : Building) (i : Nat) : Except ReadFault Building :=
  match tagAt b.nodes i with
  | .list => (b.visitItems i).map fun (b, items) => b.settle i (.list items)
  | .map => (b.visitEntries i).map fun (b, entries) => b.settle i (.map entries)
  | .set => (b.visitEntries i).map fun (b, entries) => b.settle i (.set entries)
  | _ => (b.visitPairs i).map fun (b, entries) => b.settle i (.pairs entries)

/-- Looks at the waiting collections, level by level. -/
def Building.finish : (bound : Nat) → Building → Except ReadFault Building
  | 0, b => .ok b
  | bound + 1, b =>
    if b.waiting.isEmpty then .ok b
    else do
      let b ← b.waiting.reverse.foldlM Building.expand { b with waiting := [] }
      Building.finish bound b

/-! ## The value -/

/-- What a node has turned out to be, as a key. -/
def keyOf (built : Array (Option Built)) (i : Nat) : Atom :=
  (built[i]?.join.bind Built.atom?).getD .null

/-- Whether a node has turned out to be the number that is none, under its name. -/
def isNotANumber (built : Array (Option Built)) (i : Nat) : Bool :=
  match built[i]?.join with
  | some .notANumber => true
  | _ => false

/-- Whether two nodes are the same key. -/
def sameKeyNode (built : Array (Option Built)) (i j : Nat) : Bool :=
  i == j || (isNotANumber built i && isNotANumber built j)
    || (keyOf built i).sameKey (keyOf built j)

/-- Puts something under a key node: in place if that key is there, else at the end. -/
def putUnder {α : Type} (built : Array (Option Built)) (key : Nat) (value : α) :
    List (Nat × α) → List (Nat × α)
  | [] => [(key, value)]
  | (k, v) :: rest =>
    if sameKeyNode built k key then (k, value) :: rest
    else (k, v) :: putUnder built key value rest

/-- The value of a node; `around` are the collections that it is in. -/
def valueOf (built : Array (Option Built)) : (bound : Nat) → (around : List Nat) → Nat → Value
  | 0, _, _ => .cycle
  | bound + 1, around, i =>
    if around.contains i then .cycle
    else
      let part := valueOf built bound (i :: around)
      match built[i]?.join with
      | some (.atom a) => .atom a
      | some .notANumber => .atom (keyOf built i)
      | some (.list items) => .list (items.map part)
      | some (.map entries) =>
        let kept := entries.foldl (fun es (k, v) => putUnder built k (part v) es) []
        .map (kept.map fun (k, v) => (keyOf built k, v))
      | some (.set entries) =>
        let kept := entries.foldl (fun es (k, _) => putUnder built k () es) []
        .set (kept.map fun (k, _) => keyOf built k)
      | some (.pairs entries) => .list (entries.map fun (k, v) => .list [part k, part v])
      | none => .null

/-- The value of a document. -/
def Document.value (d : Document) : Except ReadFault Value := do
  let size := d.nodes.size
  let b ← Building.visit ⟨d.nodes, .replicate size none, []⟩ d.root
  let b ← b.finish (size + 1)
  return valueOf b.built (size + 1) [] d.root

/-- Reads the document of a text; a text without one gives nothing. -/
def read (text : List Char) : Except ReadFault Value :=
  if !text.all isAllowed then .error .malformed
  else
    match Document.ofTokens? (tokens text) with
    | .error f => .error (.ofLex f)
    | .ok none => .ok .null
    | .ok (some d) => d.value

end DashboardKit.Yaml
