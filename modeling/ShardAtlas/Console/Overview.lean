import ShardAtlas.ByteSize
import ShardAtlas.Console.Dump
import ShardAtlas.Snapshot.Census
import ShardAtlas.Snapshot.Usage

namespace ShardAtlas.Console

/-!
# Showing a cluster

An overview has a table of the nodes, a table of the indices and a line of
totals. A table is printed when all its cells are known: when percentages and
sizes have doubles, and the numbers of an index do not have too many digits. Things
that are counted here are in memory, so their numbers can always be printed.
-/

/-- A percentage without places. -/
def percentText
    (value : Binary64) :
    String :=
  value.fixed 0 ++ "%"

/-- The cells of a node. -/
def nodeRow
    (host : HostedNode) :
    Except Overflow (List String) := do
  let heap ← host.node.heapPercent
  let disk ← host.node.diskPercent
  pure
    [ if host.node.isMaster then
        host.node.name.shown ++ " *"
      else
        host.node.name.shown,
      host.node.id,
      if host.node.roles.names.isEmpty then
        "-"
      else
        ",".intercalate host.node.roles.names,
      percentText heap,
      percentText disk,
      Nat.repr host.shardCount ]

/-- The table of the nodes. -/
def nodeTable
    (snapshot : Snapshot) :
    Except Overflow Table := do
  let rows ← (mastersFirst snapshot.nodes).mapM nodeRow
  pure
    { title := "Nodes"
      columns := ["Name", "ID", "Roles", "Heap", "Disk", "Shards"]
      rows := rows }

/-- The style of a health; an unknown one is white. -/
def healthStyle
    (health : String) :
    String :=
  if health ∈ ["green", "yellow", "red"] then
    health
  else
    "white"

/-- An integer for a cell. -/
def cellNumber
    (value : Int) :
    Except Crash String :=
  (Text.printed value).mapError .longInteger

/-- The cells of an index. -/
def indexRow
    (index : IndexSummary) :
    Except Crash (List String) := do
  let primaryShards ← cellNumber index.primaryShards
  let replicaShards ← cellNumber index.replicaShards
  let documents ← cellNumber index.documents
  let size ← (byteSize index.bytes).mapError .overflow
  pure
    [ index.name.shown,
      styled (healthStyle index.health.shown) index.health.shown,
      index.status.name,
      primaryShards ++ "p/" ++ replicaShards ++ "r",
      documents,
      size ]

/-- The table of the indices. -/
def indexTable
    (snapshot : Snapshot) :
    Except Crash Table := do
  let rows ← snapshot.indices.mapM indexRow
  pure
    { title := "Indices"
      columns := ["Name", "Health", "Status", "Shards", "Docs", "Size"]
      rows := rows }

/-- The line of totals. -/
def totalsLine
    (totals : ShardTotals) :
    String :=
  "Shards: " ++ Nat.repr totals.total ++ " total, " ++
    Nat.repr totals.primary ++ " primary, " ++
    Nat.repr totals.replica ++ " replica, " ++
    Nat.repr totals.unassigned ++ " unassigned, " ++
    Nat.repr totals.relocating ++ " relocating, " ++
    Nat.repr totals.initializing ++ " initializing"

/-- Show the cluster of a dump. -/
def showTopology
    (dump : Path) :
    Deed Unit := do
  let snapshot ← loadSnapshot dump
  print (.table (← needComputed ((nodeTable snapshot).mapError .overflow)))
  print (.table (← needComputed (indexTable snapshot)))
  printLine (totalsLine snapshot.totals)
  if snapshot.unknown.shardCount ≠ 0 then
    printLine
      (styled "yellow"
        (Nat.repr snapshot.unknown.shardCount ++
          " shard(s) reference unknown nodes"))

end ShardAtlas.Console
