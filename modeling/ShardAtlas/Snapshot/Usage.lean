import ShardAtlas.Binary64
import ShardAtlas.Snapshot

namespace ShardAtlas

/-!
# Usage figures

Percentages of memory and disk of a node, and the figures of a whole cluster
that are watched over time. They are doubles; a number too large for one is an
error.
-/

/--
A share of a whole in percent.

Without a whole the share is zero. The quotient is rounded before it is scaled.
-/
def percentage
    (part whole : Int) :
    Except Overflow Binary64 :=
  if whole ≤ 0 then
    .ok .zero
  else
    (Binary64.ofQuotient part whole).map (·.times 100)

/-- Memory in use on a node, in percent. -/
def Node.heapPercent
    (node : Node) :
    Except Overflow Binary64 :=
  percentage node.heapUsed node.heapMax

/-- Disk in use on a node, in percent. -/
def Node.diskPercent
    (node : Node) :
    Except Overflow Binary64 :=
  percentage node.diskUsed node.diskTotal

/-- Documents of all indices of a snapshot. -/
def Snapshot.documents
    (snapshot : Snapshot) :
    Int :=
  (snapshot.indices.map IndexSummary.documents).foldl (· + ·) 0

/-- The figures of a cluster with their names. -/
def Snapshot.figures
    (snapshot : Snapshot) :
    Except Overflow (List (String × Binary64)) :=
  [ ("nodes", (snapshot.nodes.length : Int)),
    ("indices", (snapshot.indices.length : Int)),
    ("documents", snapshot.documents),
    ("shards", (snapshot.shardCount : Int)),
    ("unassigned_shards", (snapshot.unassigned.length : Int)) ].mapM
    fun (name, count) => (Binary64.ofInt count).map (name, ·)

end ShardAtlas
