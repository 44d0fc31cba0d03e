import SectorForest.SectorTree

/-!
# A tree from flat sectors

`build?` nests the sectors of an organization. The first sector of depth zero is the root; below a
node stand, in the order of the list, the sectors that name it as their parent. Parent links need
not form a tree: a number that has been placed once is not placed again, so every number appears at
most once and a loop ends where it would close. Sectors that no chain of parents ties to the root
are left out.

The recursion is bounded by the length of the list: each level of it places a number that no level
above has placed.
-/

namespace SectorForest.SectorTree

/-- The sectors that name `parent` as their parent, in order. -/
def childrenOf (sectors : List Sector) (parent : SectorId) : List Sector :=
  sectors.filter (·.parent == some parent)

/-- A node that copies a sector. -/
def ofSector (s : Sector) (children : List SectorTree) : SectorTree :=
  .node s.id s.code s.label s.depth s.status children

/-- The trees below those candidates whose number has not been placed yet, each grown by `grow`
after its number is placed, and the numbers placed afterwards. -/
def placeAll (grow : List SectorId → Sector → SectorTree × List SectorId)
    (placed : List SectorId) :
    (candidates : List Sector) → List SectorTree × List SectorId
  | [] => ([], placed)
  | s :: rest =>
    if placed.contains s.id then placeAll grow placed rest
    else
      let grown := grow (s.id :: placed) s
      let others := placeAll grow grown.2 rest
      (grown.1 :: others.1, others.2)

/-- The tree below a sector whose number has been placed, at most `fuel` levels deep, and the
numbers placed afterwards. -/
def grow (sectors : List Sector) : (fuel : Nat) → (placed : List SectorId) → Sector →
    SectorTree × List SectorId
  | 0, placed, s => (ofSector s [], placed)
  | fuel + 1, placed, s =>
    let below := placeAll (grow sectors fuel) placed (childrenOf sectors s.id)
    (ofSector s below.1, below.2)

/-- The first sector of depth zero. -/
def rootOf? (sectors : List Sector) : Option Sector :=
  sectors.find? (·.depth == 0)

/-- The tree below the first sector of depth zero, if there is one. -/
def build? (sectors : List Sector) : Option SectorTree :=
  (rootOf? sectors).map fun root => (grow sectors sectors.length [root.id] root).1

end SectorForest.SectorTree
