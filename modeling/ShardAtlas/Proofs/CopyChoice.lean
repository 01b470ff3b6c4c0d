import ShardAtlas.Proofs.FetchOrder
import ShardAtlas.Proofs.MoveCheck
import ShardAtlas.Proofs.MoveRules

namespace ShardAtlas

/-!
# Which copy a request is about

A request names a copy by its index, its number and whether it is the primary. It is looked
for among the sorted copies of the source node first, and then among all copies of the
snapshot. Where ids differ, that is the first such copy of the report on the node that the
source stands for, or any other one if there is none. No copy is found just if none is
reported.
-/

/-- Whether a copy has the index, the number and the kind that a request names. -/
def Shard.isNamedBy
    (index : Text)
    (number : Int)
    (primary : Bool)
    (shard : Shard) :
    Bool :=
  shard.index == index && shard.number == number &&
    shard.primary == primary

/-- Whether an assigned copy refers to the node that an identifier stands for. -/
def Inventory.isOnNode
    (inventory : Inventory)
    (identifier : Text)
    (shard : Shard) :
    Bool :=
  shard.state ≠ .unassigned ∧
    (inventory.nodeOf? (some identifier)).isSome ∧
      inventory.nodeOf? shard.node = inventory.nodeOf? (some identifier)

/-- What is meant of copies with one number is found first in the order of numbers, too. -/
theorem InNumberOrder.find?_eq
    {reported copies : List Shard}
    (ordered : InNumberOrder reported copies)
    {isMeant : Shard → Bool}
    {number : Int}
    (ofNumber : ∀ shard, isMeant shard = true → shard.number = number) :
    copies.find? isMeant = reported.find? isMeant := by
  have withNumber
      (shards : List Shard) :
      shards.find? isMeant =
        (shards.filter fun shard => shard.number = number).find?
          isMeant := by
    rw [List.find?_filter]
    congr 1
    funext shard
    cases meant : isMeant shard with
    | false =>
        simp
    | true =>
        simp [ofNumber shard meant]
  rw [withNumber copies, ordered.sameNumber, ← withNumber]

namespace Snapshot

variable {inventory : Inventory} {host : HostedNode}

/-- Where ids differ, a copy is sent to a node that is found just if it refers to it. -/
theorem host?_eq_some_iff_isOnNode
    (distinctIds : (inventory.nodes.map Node.id).Nodup)
    {source : Text}
    (found : (ofInventory inventory).findNode? (some source) = some host)
    (shard : Shard) :
    shard.host? (identifiers inventory.nodes) = some host.node.id ↔
      inventory.isOnNode source shard = true := by
  have isNode : inventory.nodeOf? (some source) = some host.node := by
    rw [← findNode?_map_node, found]
    rfl
  rw [Shard.host?_eq_some_iff,
    ← Inventory.nodeOf?_eq_iff_of_distinctIds distinctIds isNode,
    Shard.isAssigned, bne_iff_ne, Inventory.isOnNode, decide_eq_true_eq,
    isNode]
  simp

/-- Where ids differ, a copy is found on a node as it is in the report. -/
theorem find?_shardsOf
    (distinctIds : (inventory.nodes.map Node.id).Nodup)
    {source : Text}
    (found : (ofInventory inventory).findNode? (some source) = some host)
    (index : Text)
    (number : Int)
    (primary : Bool) :
    (host.shardsOf index).find? (Shard.isNamedBy index number primary) =
      inventory.shards.find? fun shard =>
        shard.isNamedBy index number primary &&
          inventory.isOnNode source shard := by
  have shown :=
    shows_placed_of_distinctIds distinctIds (mem_nodes_of_findNode? found)
  have ordered := shown.inNumberOrder_ofIndex index
  have ofNumber
      (shard : Shard)
      (named : shard.isNamedBy index number primary = true) :
      shard.number = number := by
    simp only [Shard.isNamedBy, Bool.and_eq_true, beq_iff_eq] at named
    exact named.1.2
  rw [HostedNode.shardsOf, ordered.find?_eq ofNumber,
    ← inventory.filter_host?_eq_referringTo, List.find?_filter,
    List.find?_filter]
  congr 1
  funext shard
  rw [Bool.eq_iff_iff]
  simp only [host?_eq_some_iff_isOnNode distinctIds found,
    Shard.isNamedBy, Bool.and_eq_true, decide_eq_true_eq, beq_iff_eq]
  tauto

/-- A copy of the report on the source node is found first, and then any copy. -/
theorem findCopy?_eq
    (distinctIds : (inventory.nodes.map Node.id).Nodup)
    (index : Text)
    (number : Int)
    (primary : Bool)
    (source : Text) :
    (ofInventory inventory).findCopy? index number primary (some source) =
      (inventory.shards.find? fun shard =>
        shard.isNamedBy index number primary &&
          inventory.isOnNode source shard).or
        ((ofInventory inventory).shards.find?
          (Shard.isNamedBy index number primary)) := by
  unfold findCopy?
  cases found : (ofInventory inventory).findNode? (some source) with
  | some host =>
      rw [← find?_shardsOf distinctIds found]
      rfl
  | none =>
      have unknown : inventory.nodeOf? (some source) = none := by
        rw [← findNode?_map_node, found]
        rfl
      have nobody :
          (inventory.shards.find? fun shard =>
            shard.isNamedBy index number primary &&
              inventory.isOnNode source shard) = none := by
        simp [Inventory.isOnNode, unknown]
      rw [nobody]
      rfl

/-- No copy is found just if none is reported. -/
theorem findCopy?_eq_none_iff
    (distinctIds : (inventory.nodes.map Node.id).Nodup)
    (index : Text)
    (number : Int)
    (primary : Bool)
    (source : Text) :
    (ofInventory inventory).findCopy? index number primary (some source) =
        none ↔
      ∀ shard ∈ inventory.shards,
        shard.isNamedBy index number primary = false := by
  have kept := shards_ofInventory_perm inventory
  rw [findCopy?_eq distinctIds, Option.or_eq_none_iff,
    List.find?_eq_none, List.find?_eq_none]
  constructor
  · rintro ⟨_, nowhere⟩ shard member
    exact Bool.not_eq_true _ ▸ nowhere shard (kept.mem_iff.mpr member)
  · intro unnamed
    refine ⟨fun shard member => ?_, fun shard member => ?_⟩
    · simp [unnamed shard member]
    · simp [unnamed shard (kept.mem_iff.mp member)]

/-- What is found is a copy of the report that the request names. -/
theorem mem_of_findCopy?_eq_some
    (distinctIds : (inventory.nodes.map Node.id).Nodup)
    {index : Text}
    {number : Int}
    {primary : Bool}
    {source : Text}
    {shard : Shard}
    (found :
      (ofInventory inventory).findCopy? index number primary
        (some source) = some shard) :
    shard ∈ inventory.shards ∧
      shard.isNamedBy index number primary = true := by
  rw [findCopy?_eq distinctIds] at found
  rcases Option.or_eq_some_iff.mp found with onSource | ⟨_, anywhere⟩
  · have named := List.find?_some onSource
    rw [Bool.and_eq_true] at named
    exact ⟨List.mem_of_find?_eq_some onSource, named.1⟩
  · have member := List.mem_of_find?_eq_some anywhere
    exact
      ⟨(shards_ofInventory_perm inventory).mem_iff.mp member,
        List.find?_some anywhere⟩

/-- A move between two nodes is refused for some other reason than a missing copy. -/
theorem judgeBetween_ne_shardMissing
    (copy : Shard)
    (source destination : HostedNode) :
    judgeBetween copy source destination ≠ .refused .shardMissing := by
  unfold judgeBetween
  cases copy.state <;> simp only [ShardState.immovable?] <;>
    split_ifs <;> simp

/-- A request is refused for a missing copy just if none is given. -/
theorem judgeRelocation_eq_shardMissing_iff
    (snapshot : Snapshot)
    (shard : Option Shard)
    (source destination : Option Text) :
    snapshot.judgeRelocation shard source destination =
        .refused .shardMissing ↔
      shard = none := by
  cases shard with
  | none =>
      exact iff_of_true rfl rfl
  | some copy =>
      refine iff_of_false ?_ (Option.some_ne_none copy)
      simp only [judgeRelocation]
      split
      · simp
      · split
        · simp
        · exact judgeBetween_ne_shardMissing copy _ _

/--
A request for a move finds no copy just if none is reported with its index, number and
kind, and the check of the request says so just then.

What it finds is a copy of the report. If some such copies refer to the node that the
source stands for, by whatever identifier, it is the first of them in the report.
-/
theorem findCopy?_prefers_source
    (inventory : Inventory)
    (distinctIds : (inventory.nodes.map Node.id).Nodup)
    (index : Text)
    (number : Int)
    (primary : Bool)
    (source : Text) :
    let built := ofInventory inventory
    let found := built.findCopy? index number primary (some source)
    (found = none ↔
        ∀ shard ∈ inventory.shards,
          shard.isNamedBy index number primary = false) ∧
      (∀ shard,
        found = some shard →
          shard ∈ inventory.shards ∧
            shard.isNamedBy index number primary = true) ∧
      (∀ shard,
        (inventory.shards.find? fun shard =>
            shard.isNamedBy index number primary &&
              inventory.isOnNode source shard) = some shard →
          found = some shard) ∧
      ∀ (request : Console.RelocationRequest)
        (screen loaded : Console.Screen),
        (Console.loadSnapshot request.dump).run.run screen =
            (.ok built, loaded) →
          ∃ lines,
            ((Console.checkRelocation request).run.run screen).2 =
                loaded.withLines lines ∧
              (lines.head? = some (Console.refusalLine .shardMissing) ↔
                ∀ shard ∈ inventory.shards,
                  shard.isNamedBy request.index request.number
                    request.primary = false) := by
  intro built found
  refine
    ⟨findCopy?_eq_none_iff distinctIds index number primary source,
      fun shard => mem_of_findCopy?_eq_some distinctIds, ?_, ?_⟩
  · intro shard first
    have chosen := findCopy?_eq distinctIds index number primary source
    rw [first] at chosen
    exact chosen
  · intro request screen loaded loads
    have checked := Console.run_checkRelocation loads
    refine ⟨_, congrArg Prod.snd checked, ?_⟩
    rw [Console.head?_linesAbout_eq_shardMissing_iff,
      judgeRelocation_eq_shardMissing_iff,
      findCopy?_eq_none_iff distinctIds]

/-- Two copies of a shard on one node, by its address and its id, behind one elsewhere. -/
def twiceOnBeta : Inventory :=
  { nodes :=
      [ { id := "a", name := "b" },
        { id := "b", name := "beta", address := some "10.0.0.2" } ]
    shards :=
      [ { logsCopy 1 false (some "a") with bytes := 10 },
        { logsCopy 1 false (some "10.0.0.2") with bytes := 20 },
        { logsCopy 1 false (some "b") with bytes := 30 } ] }

/-- The first copy on a node is found by the name of the node, and a missing one is noted. -/
theorem findCopy?_on_twiceOnBeta :
    let content :=
      "\x7b\"nodes\":[\x7b\"id\":\"a\",\"name\":\"b\"\x7d," ++
        "\x7b\"id\":\"b\",\"name\":\"beta\",\"ip\":\"10.0.0.2\"\x7d]," ++
        "\"shards\":[" ++
        "\x7b\"index\":\"logs\",\"shard\":1,\"primary\":false," ++
        "\"state\":\"STARTED\",\"node\":\"a\",\"store\":10\x7d," ++
        "\x7b\"index\":\"logs\",\"shard\":1,\"primary\":false," ++
        "\"state\":\"STARTED\",\"node\":\"10.0.0.2\",\"store\":20\x7d," ++
        "\x7b\"index\":\"logs\",\"shard\":1,\"primary\":false," ++
        "\"state\":\"STARTED\",\"node\":\"b\",\"store\":30\x7d]\x7d"
    let screen : Console.Screen :=
      { files :=
          { entries :=
              { entries := [(["dump.json"], .file (.text content))]
                keysNodup := by decide } } }
    let request : Console.RelocationRequest :=
      { dump := ⟨.working, ["dump.json"]⟩
        index := "logs"
        number := 1
        primary := true
        source := "beta"
        destination := "a" }
    let built := ofInventory twiceOnBeta
    (twiceOnBeta.nodes.map Node.id).Nodup ∧
      built.findCopy? "logs" 1 false (some ("beta" : Text)) =
        some { logsCopy 1 false (some "10.0.0.2") with bytes := 20 } ∧
      ∃ loaded lines,
        (Console.loadSnapshot request.dump).run.run screen =
            (.ok built, loaded) ∧
          ((Console.checkRelocation request).run.run screen).2 =
              loaded.withLines lines ∧
            lines.head? = some (Console.refusalLine .shardMissing) := by
  intro content screen request built
  have distinctIds : (twiceOnBeta.nodes.map Node.id).Nodup := by
    decide
  have holds : screen.files.read request.dump = .ok (.text content) :=
    rfl
  have accepted :
      (Json.readLimited
        (String.ofList
          (Console.plainLineEnds content.toList))).toOption.map
            Payload.readFlat = some (.ok twiceOnBeta) := by
    -- The characters of each piece are found by themselves, as that is faster.
    simp only [content, Json.readLimited, String.toList_append,
      String.toList_ofList]
    decide +kernel
  obtain ⟨loaded, loads⟩ :=
    Console.exists_run_loadSnapshot_of_text holds accepted (by decide)
  obtain ⟨_, _, first, check⟩ :=
    findCopy?_prefers_source twiceOnBeta distinctIds "logs" 1 false "beta"
  obtain ⟨lines, printed, missing⟩ := check request screen loaded loads
  exact
    ⟨distinctIds, first _ (by decide +kernel), loaded, lines, loads,
      printed, missing.mpr (by decide +kernel)⟩

end Snapshot

end ShardAtlas
