import ShardAtlas.Proofs.Destinations
import ShardAtlas.Proofs.MoveCheck
import ShardAtlas.Proofs.MoveRules
import ShardAtlas.Proofs.PlacementOrder

namespace ShardAtlas

/-!
# Destinations by their names

A check that refuses a move names the nodes to which the copy could go. They are chosen by
their ids. A name that is given back is looked up again, first among all ids and then among
the names and addresses of all nodes in their order. So a name stands for its node only if
it is not empty, no other node has it as its id, and no earlier node is called by it unless
it is the own id of the node. A node that is named may be used by its name just then.
-/

/-- What is meant in a list is found first just if nothing before it is meant. -/
theorem find?_eq_some_iff_takeWhile
    [DecidableEq α]
    {items : List α}
    {item : α}
    {isMeant : α → Bool}
    (member : item ∈ items)
    (meant : isMeant item = true) :
    items.find? isMeant = some item ↔
      ∀ other ∈ items.takeWhile (· ≠ item), isMeant other = false := by
  induction items with
  | nil =>
      cases member
  | cons first rest inductionHypothesis =>
      by_cases same : first = item
      · simp [same, meant]
      · have later : item ∈ rest :=
          (List.mem_cons.mp member).resolve_left (Ne.symm same)
        cases isFirst : isMeant first with
        | true =>
            simp [same, isFirst]
        | false =>
            simp [same, isFirst, inductionHypothesis later]

namespace Inventory

/-- Whether the name of a node stands for it, by what the other nodes are called. -/
structure IsFoundByName
    (inventory : Inventory)
    (node : Node) :
    Prop where
  filled : node.name ≠ ""
  noOtherId :
    ∀ other ∈ inventory.nodes,
      (other.id : Text) = node.name → other = node
  calledFirst :
    (node.id : Text) = node.name ∨
      ∀ other ∈ inventory.nodes.takeWhile (· ≠ node),
        other.name ≠ node.name ∧ other.address ≠ some node.name

instance
    (inventory : Inventory)
    (node : Node) :
    Decidable (inventory.IsFoundByName node) :=
  decidable_of_iff
    (node.name ≠ "" ∧
      (∀ other ∈ inventory.nodes,
        (other.id : Text) = node.name → other = node) ∧
      ((node.id : Text) = node.name ∨
        ∀ other ∈ inventory.nodes.takeWhile (· ≠ node),
          other.name ≠ node.name ∧ other.address ≠ some node.name))
    ⟨fun ⟨filled, noOtherId, calledFirst⟩ =>
      ⟨filled, noOtherId, calledFirst⟩,
      fun ⟨filled, noOtherId, calledFirst⟩ =>
        ⟨filled, noOtherId, calledFirst⟩⟩

variable {inventory : Inventory} {node : Node}

/-- Where ids differ, two nodes with the text of one id are the same. -/
theorem eq_of_idText_eq
    (distinctIds : (inventory.nodes.map Node.id).Nodup)
    {other : Node}
    (otherMember : other ∈ inventory.nodes)
    (member : node ∈ inventory.nodes)
    (same : (other.id : Text) = (node.id : Text)) :
    other = node :=
  List.inj_on_of_nodup_map distinctIds otherMember member
    (congrArg Text.lead same)

/-- Where ids differ, a node is found first among all ids just if its name is its own id. -/
theorem find?_id_eq_some_iff
    (distinctIds : (inventory.nodes.map Node.id).Nodup)
    (member : node ∈ inventory.nodes) :
    (inventory.nodes.find? fun other => (other.id : Text) = node.name) =
        some node ↔
      (node.id : Text) = node.name := by
  constructor
  · intro found
    simpa using List.find?_some found
  · intro own
    obtain ⟨found, isFound⟩ :
        ∃ found,
          (inventory.nodes.find? fun other =>
            (other.id : Text) = node.name) = some found := by
      rw [← Option.isSome_iff_exists, List.find?_isSome]
      exact ⟨node, member, decide_eq_true own⟩
    have named : (found.id : Text) = node.name := by
      simpa using List.find?_some isFound
    rw [isFound,
      eq_of_idText_eq distinctIds (List.mem_of_find?_eq_some isFound)
        member (named.trans own.symm)]

/-- Where ids differ, a node is looked up by its name just if the name stands for it. -/
theorem nodeOf?_name_eq_some_iff
    (distinctIds : (inventory.nodes.map Node.id).Nodup)
    (member : node ∈ inventory.nodes) :
    inventory.nodeOf? (some node.name) = some node ↔
      inventory.IsFoundByName node := by
  by_cases blank : node.name = ""
  · rw [nodeOf?, if_pos blank]
    exact
      iff_of_false (Option.some_ne_none node).symm fun found =>
        found.filled blank
  · have byCalling :
        (inventory.nodes.find? fun other =>
            other.name = node.name ∨ other.address = some node.name) =
            some node ↔
          ∀ other ∈ inventory.nodes.takeWhile (· ≠ node),
            other.name ≠ node.name ∧ other.address ≠ some node.name := by
      rw [find?_eq_some_iff_takeWhile member (by simp)]
      simp only [decide_eq_false_iff_not, not_or, ne_eq]
    rw [nodeOf?, if_neg blank, Option.or_eq_some_iff,
      find?_id_eq_some_iff distinctIds member, byCalling,
      List.find?_eq_none]
    simp only [decide_eq_true_eq]
    constructor
    · rintro (own | ⟨noId, noEarlier⟩)
      · refine ⟨blank, fun other otherMember named => ?_, .inl own⟩
        exact
          eq_of_idText_eq distinctIds otherMember member
            (named.trans own.symm)
      · exact
          ⟨blank, fun other otherMember named =>
            absurd named (noId other otherMember), .inr noEarlier⟩
    · intro found
      by_cases own : (node.id : Text) = node.name
      · exact .inl own
      · refine .inr ⟨fun other otherMember named => ?_, ?_⟩
        · obtain rfl := found.noOtherId other otherMember named
          exact own named
        · exact found.calledFirst.resolve_left own

end Inventory

namespace Snapshot

variable {inventory : Inventory} {host : HostedNode}

/-- Where ids differ, a record is found by its name just if the name stands for its node. -/
theorem findNode?_name_eq_some_iff
    (distinctIds : (inventory.nodes.map Node.id).Nodup)
    (member : host ∈ (ofInventory inventory).nodes) :
    (ofInventory inventory).findNode? (some host.node.name) = some host ↔
      inventory.IsFoundByName host.node := by
  have reported : host.node ∈ inventory.nodes := by
    rw [← map_node_nodes inventory]
    exact List.mem_map_of_mem member
  rw [← Inventory.nodeOf?_name_eq_some_iff distinctIds reported,
    ← findNode?_map_node, Option.map_eq_some_iff]
  constructor
  · intro found
    exact ⟨host, found, rfl⟩
  · rintro ⟨other, found, sameNode⟩
    rw [found,
      eq_of_id_eq_of_distinctIds distinctIds
        (mem_nodes_of_findNode? found) member
        (congrArg Node.id sameNode)]

/-- Two identifiers under which one node is found are judged alike as destinations. -/
theorem judgeRelocation_congr_destination
    {snapshot : Snapshot}
    {destination other : Option Text}
    (same : snapshot.findNode? destination = snapshot.findNode? other)
    (shard : Option Shard)
    (source : Option Text) :
    snapshot.judgeRelocation shard source destination =
      snapshot.judgeRelocation shard source other := by
  unfold judgeRelocation
  rw [same]

/-- An offered node can be asked for by its name just if the name stands for it. -/
theorem approved_by_name_iff
    (distinctIds : (inventory.nodes.map Node.id).Nodup)
    (filledIds : ∀ node ∈ inventory.nodes, node.id ≠ "")
    {shard : Shard}
    (offered : host ∈ (ofInventory inventory).destinationsFor shard) :
    ((ofInventory inventory).judgeRelocation (some shard) shard.node
          (some host.node.name) = .approved ∧
        (ofInventory inventory).findNode? (some host.node.name) =
          some host) ↔
      inventory.IsFoundByName host.node := by
  obtain ⟨member, approved⟩ := List.mem_filter.mp offered
  rw [Verdict.isApproved_eq_true_iff] at approved
  rw [← findNode?_name_eq_some_iff distinctIds member,
    and_iff_right_iff_imp]
  intro found
  rw [judgeRelocation_congr_destination
    (found.trans (findNode?_id distinctIds filledIds member).symm)]
  exact approved

end Snapshot

namespace Console

/--
A refused check of a copy that was found prints the names of the nodes on offer.

Where ids differ and none is empty, a node that is named can be asked for by its name, and is
the one that is meant, just if the name stands for it. What is printed is what is handed to the
console: printing does not fail here, and no name in it is taken as markup.
-/
theorem offered_by_name_iff
    (inventory : Inventory)
    (distinctIds : (inventory.nodes.map Node.id).Nodup)
    (filledIds : ∀ node ∈ inventory.nodes, node.id ≠ "")
    (copy : Shard) :
    let built := Snapshot.ofInventory inventory
    let offered := built.destinationsFor copy
    (∀ (request : RelocationRequest) (screen loaded : Screen)
        (reason : Refusal),
      (loadSnapshot request.dump).run.run screen = (.ok built, loaded) →
        built.findCopy? request.index request.number request.primary
            (some request.source) = some copy →
          built.judgeRelocation (some copy) (some request.source)
              (some request.destination) = .refused reason →
            (checkRelocation request).run.run screen =
              (.error (.withStatus failureStatus),
                loaded.withLines
                  (refusalLine reason :: offerLines offered))) ∧
      ∀ host ∈ offered,
        (built.judgeRelocation (some copy) copy.node
              (some host.node.name) = .approved ∧
            built.findNode? (some host.node.name) = some host) ↔
          inventory.IsFoundByName host.node := by
  intro built offered
  refine ⟨?_, ?_⟩
  · intro request screen loaded reason loads found refused
    exact run_checkRelocation_of_refused loads found refused
  · intro host isOffered
    exact Snapshot.approved_by_name_iff distinctIds filledIds isOffered

/-- A cluster in which a data node is called by the id of a node without data. -/
def namesakeOffered : Inventory :=
  { nodes :=
      [ { id := "a", name := "alpha" },
        { id := "b", name := "c", roles := .ofList [.data] },
        { id := "c", name := "gamma" },
        { id := "d", name := "delta", roles := .ofList [.data] } ]
    shards := [Snapshot.logsCopy 0 true (some "a")] }

/-- The text of a dump of that cluster. -/
def namesakeContent : String :=
  "\x7b\"nodes\":[\x7b\"id\":\"a\",\"name\":\"alpha\"\x7d," ++
    "\x7b\"id\":\"b\",\"name\":\"c\",\"roles\":[\"data\"]\x7d," ++
    "\x7b\"id\":\"c\",\"name\":\"gamma\"\x7d," ++
    "\x7b\"id\":\"d\",\"name\":\"delta\",\"roles\":[\"data\"]\x7d]," ++
    "\"shards\":[\x7b\"index\":\"logs\",\"shard\":0,\"primary\":true," ++
    "\"state\":\"STARTED\",\"node\":\"a\"\x7d]\x7d"

/-- The screen of an operator who has that dump. -/
def namesakeScreen : Screen :=
  { files :=
      { entries :=
          { entries := [(["c.json"], .file (.text namesakeContent))]
            keysNodup := by decide } } }

/-- A request to move the copy of that cluster to a node. -/
def namesakeRequest
    (destination : String) :
    RelocationRequest :=
  { dump := ⟨.working, ["c.json"]⟩
    index := "logs"
    number := 0
    primary := true
    source := "a"
    destination := destination }

/-- The dump of that cluster is loaded, whatever is asked for. -/
theorem exists_run_loadSnapshot_namesakeOffered :
    ∃ loaded,
      ∀ destination,
        (loadSnapshot (namesakeRequest destination).dump).run.run
            namesakeScreen =
          (.ok (.ofInventory namesakeOffered), loaded) := by
  have holds :
      namesakeScreen.files.read (namesakeRequest "").dump =
        .ok (.text namesakeContent) :=
    rfl
  have accepted :
      (Json.readLimited
        (String.ofList (plainLineEnds namesakeContent.toList))).toOption.map
          Payload.readFlat = some (.ok namesakeOffered) := by
    -- The characters of each piece are found by themselves, as that is faster.
    rw [Json.readLimited, String.toList_ofList]
    unfold namesakeContent
    simp only [String.toList_append]
    decide +kernel
  obtain ⟨loaded, loads⟩ :=
    exists_run_loadSnapshot_of_text holds accepted (by decide)
  exact ⟨loaded, fun _ => loads⟩

/-- Of the two names on offer, the one that is no id of another node can be used. -/
theorem offered_by_name_on_namesakeOffered :
    let built := Snapshot.ofInventory namesakeOffered
    let copy := Snapshot.logsCopy 0 true (some "a")
    let usable (host : HostedNode) : Prop :=
      built.judgeRelocation (some copy) copy.node
            (some host.node.name) = .approved ∧
        built.findNode? (some host.node.name) = some host
    (namesakeOffered.nodes.map Node.id).Nodup ∧
      (∀ node ∈ namesakeOffered.nodes, node.id ≠ "") ∧
      (∃ loaded,
        (loadSnapshot (namesakeRequest "nowhere").dump).run.run
            namesakeScreen = (.ok built, loaded) ∧
          (checkRelocation (namesakeRequest "nowhere")).run.run
              namesakeScreen =
            (.error (.withStatus failureStatus),
              loaded.withLines
                [ refusalLine .destinationNotFound,
                  "Valid destinations: c, delta" ])) ∧
      built.findCopy? "logs" 0 true (some ("a" : Text)) = some copy ∧
      built.judgeRelocation (some copy) (some ("a" : Text))
          (some ("nowhere" : Text)) = .refused .destinationNotFound ∧
      ∀ host ∈ built.destinationsFor copy,
        usable host ↔ host.node.id = "d" := by
  intro built copy usable
  have distinctIds : (namesakeOffered.nodes.map Node.id).Nodup := by
    decide
  have filledIds : ∀ node ∈ namesakeOffered.nodes, node.id ≠ "" := by
    decide
  have found :
      built.findCopy? "logs" 0 true (some ("a" : Text)) = some copy := by
    decide +kernel
  have refused :
      built.judgeRelocation (some copy) (some ("a" : Text))
          (some ("nowhere" : Text)) = .refused .destinationNotFound := by
    decide +kernel
  have offers :
      offerLines (built.destinationsFor copy) =
        ["Valid destinations: c, delta"] := by
    decide +kernel
  have isFoundByName :
      ∀ host ∈ built.destinationsFor copy,
        namesakeOffered.IsFoundByName host.node ↔ host.node.id = "d" := by
    decide +kernel
  obtain ⟨loaded, loads⟩ := exists_run_loadSnapshot_namesakeOffered
  obtain ⟨prints, usable_iff⟩ :=
    offered_by_name_iff namesakeOffered distinctIds filledIds copy
  refine
    ⟨distinctIds, filledIds, ⟨loaded, loads "nowhere", ?_⟩, found, refused,
      ?_⟩
  · have printed := prints _ _ _ _ (loads "nowhere") found refused
    rw [offers] at printed
    exact printed
  · intro host isOffered
    exact
      (usable_iff host isOffered).trans (isFoundByName host isOffered)

/-- A name on offer is refused when it is asked for, as another node has it as its id. -/
theorem offered_name_refused :
    let built := Snapshot.ofInventory namesakeOffered
    let copy := Snapshot.logsCopy 0 true (some "a")
    (namesakeOffered.nodes.map Node.id).Nodup ∧
      (∀ node ∈ namesakeOffered.nodes, node.id ≠ "") ∧
      built.findCopy? "logs" 0 true (some ("a" : Text)) = some copy ∧
      built.judgeRelocation (some copy) copy.node (some ("c" : Text)) =
        .refused .destinationWithoutData ∧
      ∃ loaded : Screen,
        (checkRelocation (namesakeRequest "nowhere")).run.run
            namesakeScreen =
          (.error (.withStatus failureStatus),
            loaded.withLines
              [ refusalLine .destinationNotFound,
                "Valid destinations: c, delta" ]) ∧
        (checkRelocation (namesakeRequest "c")).run.run namesakeScreen =
          (.error (.withStatus failureStatus),
            loaded.withLines
              [ refusalLine .destinationWithoutData,
                "Valid destinations: c, delta" ]) := by
  intro built copy
  have found :
      built.findCopy? "logs" 0 true (some ("a" : Text)) = some copy := by
    decide +kernel
  have withoutData :
      built.judgeRelocation (some copy) copy.node (some ("c" : Text)) =
        .refused .destinationWithoutData := by
    decide +kernel
  obtain ⟨loaded, loads⟩ := exists_run_loadSnapshot_namesakeOffered
  have offers :
      offerLines (built.destinationsFor copy) =
        ["Valid destinations: c, delta"] := by
    decide +kernel
  have refuses
      (destination : String)
      (reason : Refusal)
      (refused :
        built.judgeRelocation (some copy) (some ("a" : Text))
          (some (destination : Text)) = .refused reason) :
      (checkRelocation (namesakeRequest destination)).run.run
          namesakeScreen =
        (.error (.withStatus failureStatus),
          loaded.withLines
            [refusalLine reason, "Valid destinations: c, delta"]) := by
    have checked :=
      run_checkRelocation_of_refused (loads destination) found refused
    rw [offers] at checked
    exact checked
  exact
    ⟨by decide, by decide, found, withoutData, loaded,
      refuses "nowhere" _ (by decide +kernel), refuses "c" _ withoutData⟩

end Console

end ShardAtlas
