import SectorForest.Sector

/-!
# Sector trees

A `SectorTree` is the nested form of one organization's sectors. `preorder` lists its nodes, each
before the nodes below it; `find?` and `descendantCount` are queries on the tree, and `toDatum`
writes it without the numbers under which its nodes are stored.
-/

namespace SectorForest

/-- A node of a sector tree and the nodes below it, in order. -/
inductive SectorTree where
  | node (id : SectorId) (code label : String) (depth : UInt32) (status : Status)
      (children : List SectorTree)
  deriving Repr, Inhabited

namespace SectorTree

/-- The number under which the node is stored. -/
def id : SectorTree → SectorId
  | .node id .. => id

/-- The node's code. -/
def code : SectorTree → String
  | .node _ code .. => code

/-- The node's label. -/
def label : SectorTree → String
  | .node _ _ label .. => label

/-- The node's depth as it is stored. -/
def depth : SectorTree → UInt32
  | .node _ _ _ depth .. => depth

/-- The node's status. -/
def status : SectorTree → Status
  | .node _ _ _ _ status _ => status

/-- The nodes directly below. -/
def children : SectorTree → List SectorTree
  | .node _ _ _ _ _ children => children

mutual

/-- The nodes of a tree, each before the nodes below it. -/
def preorder : SectorTree → List SectorTree
  | .node id code label depth status children =>
    .node id code label depth status children :: preorderAll children

/-- The nodes of several trees, one tree after the other. -/
def preorderAll : List SectorTree → List SectorTree
  | [] => []
  | t :: rest => preorder t ++ preorderAll rest

end

mutual

/-- The number of nodes below the root of a tree. -/
def descendantCount : SectorTree → Nat
  | .node _ _ _ _ _ children => nodeCount children

/-- The number of nodes of several trees. -/
def nodeCount : List SectorTree → Nat
  | [] => 0
  | t :: rest => 1 + descendantCount t + nodeCount rest

end

mutual

/-- The first node with the given code, a node coming before those below it. -/
def find? (wanted : String) : SectorTree → Option SectorTree
  | .node id code label depth status children =>
    if code = wanted then some (.node id code label depth status children)
    else findIn? wanted children

/-- The first node with the given code in several trees. -/
def findIn? (wanted : String) : List SectorTree → Option SectorTree
  | [] => none
  | t :: rest => (find? wanted t).or (findIn? wanted rest)

end

mutual

/-- A tree as a datum: the numbers of its nodes are left out, and so are empty lists of children. -/
def toDatum : SectorTree → Datum
  | .node _ code label depth status children =>
    let own : List (String × Datum) :=
      [("code", .text code), ("label", .text label), ("depth", .integer depth.toNat),
        ("status", status.toDatum)]
    match children with
    | [] => .record own
    | first :: rest => .record (own ++ [("children", .list (toDatum first :: toData rest))])

/-- Several trees as data. -/
def toData : List SectorTree → List Datum
  | [] => []
  | t :: rest => toDatum t :: toData rest

end

end SectorTree

end SectorForest
