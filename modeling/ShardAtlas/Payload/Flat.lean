import ShardAtlas.Payload.Container
import ShardAtlas.Payload.ShardState

namespace ShardAtlas.Payload

/-!
# The flat document of a cluster

One document with the nodes, the shard copies and the indices of a cluster, each
in a list. Most fields have a name in camel case and a second one in snake case.
-/

/-- A node of the flat document. -/
def flatNode :
    Check Node :=
  record "NodePayload" fun members =>
    (fun id name roles address heapUsed heapMax diskUsed diskTotal
        isMaster isMasterEligible =>
      { id := id
        name := name
        roles := RoleSet.read roles
        address := address
        heapUsed := heapUsed
        heapMax := heapMax
        diskUsed := diskUsed
        diskTotal := diskTotal
        isMaster := isMaster
        isMasterEligible := isMasterEligible }) <$>
      required ⟨"id", none⟩ filledText members <*>
      required ⟨"name", none⟩ text members <*>
      optional ⟨"roles", none⟩ [] (listOf text) members <*>
      optional ⟨"ip", none⟩ none (nullable text) members <*>
      optional ⟨"heapUsed", "heap_used"⟩ 0 count members <*>
      optional ⟨"heapMax", "heap_max"⟩ 0 count members <*>
      optional ⟨"diskUsed", "disk_used"⟩ 0 count members <*>
      optional ⟨"diskTotal", "disk_total"⟩ 0 count members <*>
      optional ⟨"isMaster", "is_master"⟩ false boolean members <*>
      optional ⟨"isMasterEligible", "is_master_eligible"⟩ false boolean
        members

/-- The fields of a shard copy of the flat document, each by itself. -/
def flatShardFields :
    MemberCheck Shard :=
  fun members =>
    (fun index number primary state node documents bytes relocatingTo =>
      { index := index
        number := number
        primary := primary
        state := state
        node := node
        documents := documents.getD 0
        bytes := bytes.getD 0
        relocatingTo := relocatingTo }) <$>
      required ⟨"index", none⟩ text members <*>
      required ⟨"shard", none⟩ count members <*>
      required ⟨"primary", none⟩ boolean members <*>
      required ⟨"state", none⟩ shardState members <*>
      optional ⟨"node", none⟩ none (nullable text) members <*>
      optional ⟨"docs", none⟩ none (nullable count) members <*>
      optional ⟨"store", none⟩ none (nullable count) members <*>
      optional ⟨"relocatingNode", "relocating_node"⟩ none (nullable text)
        members

/-- A shard copy of the flat document. -/
def flatShard :
    Check Shard :=
  record "ShardPayload" fun members =>
    (flatShardFields members).andThen fun shard =>
      withFittingNode shard.state shard.node shard

/-- An index of the flat document. -/
def flatIndex :
    Check IndexSummary :=
  record "IndexPayload" fun members =>
    (fun name health status primaryShards replicaShards documents bytes =>
      { name := name
        health := health
        status := status
        primaryShards := primaryShards
        replicaShards := replicaShards
        documents := documents
        bytes := bytes }) <$>
      required ⟨"name", none⟩ text members <*>
      optional ⟨"health", none⟩ "yellow" text members <*>
      optional ⟨"status", none⟩ .opened indexStatus members <*>
      optional ⟨"primaryShards", "primary_shards"⟩ 0 count members <*>
      optional ⟨"replicaShards", "replica_shards"⟩ 0 count members <*>
      optional ⟨"docsCount", "docs_count"⟩ 0 count members <*>
      optional ⟨"storeSize", "store_size"⟩ 0 count members

/-- The flat document. -/
def flatDocument :
    Check Inventory :=
  record "ClusterPayload" fun members =>
    Inventory.mk <$>
      optional ⟨"nodes", none⟩ [] (listOf flatNode) members <*>
      optional ⟨"shards", none⟩ [] (listOf flatShard) members <*>
      optional ⟨"indices", none⟩ [] (listOf flatIndex) members

/-- The inventory of a flat document. -/
def readFlat
    (document : Json) :
    Except ShapeFault Inventory :=
  (flatDocument document).toShape "cluster payload"

end ShardAtlas.Payload
