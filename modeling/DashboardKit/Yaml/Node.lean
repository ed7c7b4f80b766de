import DashboardKit.Yaml.Schema

/-!
# YAML: nodes

A document is a graph of nodes.  It is a graph and no tree because an alias leads to a node that is
there already, possibly to one that contains the alias.  Nodes are named by their place in an array.
-/

set_option autoImplicit false

namespace DashboardKit.Yaml

/-- What a node is made of. -/
inductive Body where
  | scalar (text : Text)
  | sequence (items : List Nat)
  | mapping (entries : List (Nat × Nat))
  deriving DecidableEq, Repr

/-- A node of a document. -/
structure Node where
  tag : Tag
  body : Body
  deriving DecidableEq, Repr

/-- The tag of a node. -/
def tagAt (nodes : Array Node) (i : Nat) : Tag := (nodes[i]?.map Node.tag).getD .unknown

/-- What a node is made of. -/
def bodyAt (nodes : Array Node) (i : Nat) : Body := (nodes[i]?.map Node.body).getD (.scalar [])

/-- The entries of a node that is a map. -/
def entriesAt? (nodes : Array Node) (i : Nat) : Option (List (Nat × Nat)) :=
  match bodyAt nodes i with
  | .mapping entries => some entries
  | _ => none

/-- The nodes of a document and the place of the outermost one. -/
structure Document where
  nodes : Array Node
  root : Nat
  deriving Repr

end DashboardKit.Yaml
