import ShardAtlas.Payload.Container
import ShardAtlas.Payload.ShardState
import ShardAtlas.Text.Quoted

namespace ShardAtlas.Payload

/-!
# The raw documents of a cluster

Instead of the flat document a cluster gives four raw ones: its nodes, their
statistics, its routing table and the statistics of its indices. Here each is
checked by itself. Fields that are checked but not used are read and dropped.

Nodes and indices are told apart by the names of members, which are strings without
unpaired surrogates; what is said of raw documents is said of those.
-/

/-- A node in the document of nodes. -/
structure RawNode where
  name : Text
  roles : List Text
  address : Option Text
  deriving Repr, DecidableEq

/-- Use of memory and disk of a node. -/
structure RawNodeStats where
  heapUsed : Int := 0
  heapMax : Int := 0
  diskTotal : Int := 0
  diskAvailable : Int := 0
  deriving Repr, DecidableEq

/-- A shard copy in the routing table. -/
structure RawCopy where
  state : ShardState
  primary : Bool
  node : Option Text
  relocatingTo : Option Text
  deriving Repr, DecidableEq

/-- The routing table, and the id of the elected master. -/
structure RawRouting where
  master : Option Text
  indices : OrderedMap String (OrderedMap String (List RawCopy))
  deriving Repr, DecidableEq

/-- Where the copy is that some statistics are about. -/
structure RawCopyPlace where
  primary : Bool
  node : Option Text
  deriving Repr, DecidableEq

/-- Statistics of a shard copy. -/
structure RawCopyStats where
  documents : Int
  bytes : Int
  place : Option RawCopyPlace
  deriving Repr, DecidableEq

/-- Statistics of an index. -/
structure RawIndexStats where
  health : Text
  status : IndexStatus
  documents : Int
  bytes : Int
  shards : OrderedMap String (List RawCopyStats)
  deriving Repr, DecidableEq

/-- A node in the document of nodes. -/
def rawNode :
    Check RawNode :=
  record "ESNodeInfo" fun members =>
    RawNode.mk <$>
      optional ⟨"name", none⟩ "" text members <*>
      optional ⟨"roles", none⟩ [] (listOf text) members <*>
      optional ⟨"ip", none⟩ none (nullable text) members <*
      optional ⟨"version", none⟩ none (nullable text) members <*
      optional ⟨"attributes", none⟩ .empty (mapOf text) members

/-- The document of nodes, by node id. -/
def rawNodes :
    Check (OrderedMap String RawNode) :=
  record "ESNodesInfoResponse" fun members =>
    optional ⟨"nodes", none⟩ .empty (mapOf rawNode) members

/-- Used and greatest memory of a node. -/
def rawMemory :
    Check (Int × Int) :=
  record "ESJvmMem" fun members =>
    Prod.mk <$>
      optional ⟨"heap_used_in_bytes", none⟩ 0 integer members <*>
      optional ⟨"heap_max_in_bytes", none⟩ 0 integer members

/-- Used and greatest memory of a node, one level further out. -/
def rawProcess :
    Check (Int × Int) :=
  record "ESJvmStats" fun members =>
    id <$>
      optional ⟨"mem", none⟩ (0, 0) rawMemory members <*
      optional ⟨"uptime_in_millis", none⟩ none (nullable integer) members

/-- Total and available disk of a node. -/
def rawDisk :
    Check (Int × Int) :=
  record "ESFsTotal" fun members =>
    Prod.mk <$>
      optional ⟨"total_in_bytes", none⟩ 0 integer members <*>
      optional ⟨"available_in_bytes", none⟩ 0 integer members

/-- Total and available disk of a node, one level further out. -/
def rawFiles :
    Check (Int × Int) :=
  record "ESFsStats" fun members =>
    optional ⟨"total", none⟩ (0, 0) rawDisk members

/-- The statistics of a node. -/
def rawNodeStats :
    Check RawNodeStats :=
  record "ESNodeStats" fun members =>
    (fun memory disk =>
      { heapUsed := memory.1
        heapMax := memory.2
        diskTotal := disk.1
        diskAvailable := disk.2 }) <$>
      optional ⟨"jvm", none⟩ (0, 0) rawProcess members <*>
      optional ⟨"fs", none⟩ (0, 0) rawFiles members

/-- The document of node statistics, by node id. -/
def rawNodesStats :
    Check (OrderedMap String RawNodeStats) :=
  record "ESNodesStatsResponse" fun members =>
    optional ⟨"nodes", none⟩ .empty (mapOf rawNodeStats) members

/-- The fields of a copy in the routing table, each by itself. -/
def rawCopyFields :
    MemberCheck RawCopy :=
  fun members =>
    RawCopy.mk <$>
      required ⟨"state", none⟩ shardState members <*>
      optional ⟨"primary", none⟩ false boolean members <*>
      optional ⟨"node", none⟩ none (nullable text) members <*>
      optional ⟨"relocating_node", none⟩ none (nullable text) members

/-- A copy in the routing table. -/
def rawCopy :
    Check RawCopy :=
  record "ESShardRouting" fun members =>
    (rawCopyFields members).andThen fun copy =>
      withFittingNode copy.state copy.node copy

/-- Whether a key is a shard number: one or more ASCII digits. -/
def isShardNumber
    (key : String) :
    Bool :=
  !key.isEmpty && key.toList.all fun char => (Text.asciiDigit? char).isSome

/-- Let the copies of an index pass if all their keys are shard numbers. -/
def withShardNumbers
    (copies : OrderedMap String (List RawCopy)) :
    Checked (OrderedMap String (List RawCopy)) :=
  match copies.keys.find? fun key => !isShardNumber key with
  | some key =>
      .fault
        (.refused
          ("shard number " ++ Text.quoted key ++
            " is not a non-negative integer"))
  | none =>
      .passed copies

/-- The copies of one index, by shard number. -/
def rawIndexRouting :
    Check (OrderedMap String (List RawCopy)) :=
  record "ESIndexRouting" fun members =>
    optional ⟨"shards", none⟩ .empty
      (fun value =>
        (mapOf (listOf rawCopy) value).andThen withShardNumbers)
      members

/-- The copies of all indices. -/
def rawRoutingTable :
    Check (OrderedMap String (OrderedMap String (List RawCopy))) :=
  record "ESRoutingTable" fun members =>
    optional ⟨"indices", none⟩ .empty (mapOf rawIndexRouting) members

/-- The document with the routing table. -/
def rawRouting :
    Check RawRouting :=
  record "ESClusterStateResponse" fun members =>
    (fun _ master indices =>
      { master := master
        indices := indices }) <$>
      optional ⟨"cluster_name", none⟩ none (nullable text) members <*>
      optional ⟨"master_node", none⟩ none (nullable text) members <*>
      optional ⟨"routing_table", none⟩ .empty rawRoutingTable members

/-- Number of documents. -/
def rawDocuments :
    Check Int :=
  record "ESDocs" fun members =>
    optional ⟨"count", none⟩ 0 integer members

/-- Number of bytes. -/
def rawStore :
    Check Int :=
  record "ESStore" fun members =>
    optional ⟨"size_in_bytes", none⟩ 0 integer members

/-- Where the copy is that some statistics are about. -/
def rawCopyPlace :
    Check RawCopyPlace :=
  record "ESShardStatsRouting" fun members =>
    RawCopyPlace.mk <$>
      optional ⟨"primary", none⟩ false boolean members <*>
      optional ⟨"node", none⟩ none (nullable text) members

/-- The statistics of a shard copy. -/
def rawCopyStats :
    Check RawCopyStats :=
  record "ESShardStats" fun members =>
    RawCopyStats.mk <$>
      optional ⟨"docs", none⟩ 0 rawDocuments members <*>
      optional ⟨"store", none⟩ 0 rawStore members <*>
      optional ⟨"routing", none⟩ none (nullable rawCopyPlace) members

/-- Documents and bytes of the primaries of an index. -/
def rawPrimaries :
    Check (Int × Int) :=
  record "ESIndexPrimaries" fun members =>
    Prod.mk <$>
      optional ⟨"docs", none⟩ 0 rawDocuments members <*>
      optional ⟨"store", none⟩ 0 rawStore members

/-- The statistics of an index. -/
def rawIndexStats :
    Check RawIndexStats :=
  record "ESIndexStats" fun members =>
    (fun health status _ primaries shards =>
      { health := health
        status := status
        documents := primaries.1
        bytes := primaries.2
        shards := shards }) <$>
      optional ⟨"health", none⟩ "yellow" text members <*>
      optional ⟨"status", none⟩ .opened indexStatus members <*>
      optional ⟨"uuid", none⟩ none (nullable text) members <*>
      optional ⟨"primaries", none⟩ (0, 0) rawPrimaries members <*>
      optional ⟨"shards", none⟩ .empty (mapOf (listOf rawCopyStats)) members

/-- The document of index statistics, by index name. -/
def rawIndicesStats :
    Check (OrderedMap String RawIndexStats) :=
  record "ESIndicesStatsResponse" fun members =>
    optional ⟨"indices", none⟩ .empty (mapOf rawIndexStats) members

end ShardAtlas.Payload
