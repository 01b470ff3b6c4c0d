import Mathlib.Data.List.Nodup
import ShardAtlas.Proofs.MoveRuns
import ShardAtlas.Proofs.RoutedCopies

namespace ShardAtlas

/-!
# The rules of moves, by what is reported

A move is judged on a snapshot, in which copies stand under nodes, indices and numbers. Here
the rules are told by the records alone, as they are reported: a rule on copies asks all of
them, and an identifier is looked up among the records. The first rule that fails gives the
verdict, and a move is admitted where none does.

This needs nodes with different ids, as raw documents always have them.
-/

/-- A rule about a move, and the refusal of a move that breaks it. -/
structure MoveRule where
  holds : Prop
  refusal : Refusal

/-- Whether a verdict refuses for the first rule that fails, or admits as none does. -/
def Verdict.FollowsFrom
    (rules : List MoveRule) :
    Verdict →
    Prop
  | .approved =>
      ∀ rule ∈ rules, rule.holds
  | .refused reason =>
      ∃ kept broken rest,
        rules = kept ++ broken :: rest ∧
          (∀ rule ∈ kept, rule.holds) ∧
          ¬ broken.holds ∧
          broken.refusal = reason

namespace Verdict

/-- Where there is no rule, a move is admitted. -/
theorem followsFrom_nil_iff
    (verdict : Verdict) :
    verdict.FollowsFrom [] ↔ .approved = verdict := by
  cases verdict <;> simp [FollowsFrom]

/-- A verdict is left to the later rules where the first one holds, and decided where it fails. -/
theorem followsFrom_cons_iff
    (rule : MoveRule)
    (rules : List MoveRule)
    (verdict : Verdict) :
    verdict.FollowsFrom (rule :: rules) ↔
      (rule.holds ∧ verdict.FollowsFrom rules) ∨
        (¬ rule.holds ∧ .refused rule.refusal = verdict) := by
  cases verdict with
  | approved =>
      simp [FollowsFrom]
  | refused reason =>
      constructor
      · rintro ⟨kept, broken, rest, split, allHold, fails, isReason⟩
        cases kept with
        | nil =>
            cases split
            exact .inr ⟨fails, congrArg refused isReason⟩
        | cons first later =>
            obtain ⟨rfl, laterSplit⟩ := List.cons.inj split
            obtain ⟨holds, laterHold⟩ := List.forall_mem_cons.mp allHold
            exact
              .inl
                ⟨holds, later, broken, rest, laterSplit, laterHold, fails,
                  isReason⟩
      · rintro (⟨holds, kept, broken, rest, rfl, allHold, fails,
          isReason⟩ | ⟨fails, isReason⟩)
        · exact
            ⟨rule :: kept, broken, rest, rfl,
              List.forall_mem_cons.mpr ⟨holds, allHold⟩, fails, isReason⟩
        · exact
            ⟨[], rule, rules, rfl, by simp, fails,
              refused.inj isReason⟩

/-- A rule that holds leaves the verdict to the rules behind it. -/
theorem followsFrom_cons_of_holds
    {rule : MoveRule}
    {rules : List MoveRule}
    {verdict : Verdict}
    (holds : rule.holds) :
    verdict.FollowsFrom (rule :: rules) ↔ verdict.FollowsFrom rules := by
  simp [followsFrom_cons_iff, holds]

end Verdict

namespace Inventory

/-- Whether an identifier is not empty and the id, name or address of a node. -/
def Knows
    (inventory : Inventory) :
    Option Text →
    Prop
  | none =>
      False
  | some text =>
      text ≠ "" ∧
        ∃ node ∈ inventory.nodes,
          (node.id : Text) = text ∨ node.name = text ∨
            node.address = some text

/-- The node with an identifier as its id, or else the first one with that name or address. -/
def nodeOf?
    (inventory : Inventory) :
    Option Text →
    Option Node
  | none =>
      none
  | some text =>
      if text = "" then
        none
      else
        (inventory.nodes.find? fun node => (node.id : Text) = text).or
          (inventory.nodes.find? fun node =>
            node.name = text ∨ node.address = some text)

/-- The rules of a move in their order, by what is reported. -/
def moveRules
    (inventory : Inventory)
    (shard : Option Shard)
    (source destination : Option Text) :
    List MoveRule :=
  [ { holds := shard ≠ none
      refusal := .shardMissing },
    { holds := inventory.Knows source
      refusal := .sourceNotFound },
    { holds := inventory.Knows destination
      refusal := .destinationNotFound },
    { holds :=
        (inventory.nodeOf? source).map Node.id ≠
          (inventory.nodeOf? destination).map Node.id
      refusal := .sameNode },
    { holds := ∀ copy ∈ shard, copy.state ≠ .unassigned
      refusal := .unassignedCopy },
    { holds := ∀ copy ∈ shard, copy.state ≠ .relocating
      refusal := .relocatingCopy },
    { holds := ∀ copy ∈ shard, copy.state ≠ .initializing
      refusal := .initializingCopy },
    { holds :=
        ∀ copy ∈ shard, ∀ other ∈ inventory.shards,
          other.state ≠ .unassigned → other.index = copy.index →
            other.number = copy.number →
              inventory.nodeOf? other.node ≠
                inventory.nodeOf? destination
      refusal := .duplicateOnDestination },
    { holds :=
        ∀ node ∈ inventory.nodeOf? destination,
          node.roles.contains .data = true
      refusal := .destinationWithoutData } ]

/-- An identifier stands for a node just if it is known. -/
theorem knows_iff_isSome_nodeOf?
    (inventory : Inventory)
    (identifier : Option Text) :
    inventory.Knows identifier ↔
      (inventory.nodeOf? identifier).isSome = true := by
  cases identifier with
  | none =>
      simp [Knows, nodeOf?]
  | some text =>
      by_cases blank : text = ""
      · simp [Knows, nodeOf?, blank]
      · simp only [Knows, nodeOf?, blank, if_false, Option.isSome_or,
          Bool.or_eq_true, List.find?_isSome, decide_eq_true_eq, ne_eq,
          not_false_eq_true, true_and, ← exists_or, ← and_or_left]

/-- What an identifier stands for is a node of the inventory. -/
theorem mem_nodes_of_nodeOf?
    {inventory : Inventory}
    {identifier : Option Text}
    {node : Node}
    (found : inventory.nodeOf? identifier = some node) :
    node ∈ inventory.nodes := by
  unfold nodeOf? at found
  split at found
  · cases found
  · split at found
    · cases found
    · rcases Option.or_eq_some_iff.mp found with byId | ⟨_, byCalling⟩
      · exact List.mem_of_find?_eq_some byId
      · exact List.mem_of_find?_eq_some byCalling

end Inventory

namespace Snapshot

/-- A reader of a snapshot finds the record that an identifier stands for. -/
theorem findNode?_map_node
    (inventory : Inventory)
    (identifier : Option Text) :
    ((ofInventory inventory).findNode? identifier).map HostedNode.node =
      inventory.nodeOf? identifier := by
  cases identifier with
  | none =>
      rfl
  | some text =>
      by_cases blank : text = ""
      · simp [findNode?, Inventory.nodeOf?, blank]
      · have ids :=
          find?_nodes inventory fun node => (node.id : Text) == text
        have callings :=
          find?_nodes inventory fun node => node.isCalled text
        simp only [findNode?, Inventory.nodeOf?, blank, if_false,
          Option.map_or, ids, callings]
        congr 2
        funext node
        rw [Bool.eq_iff_iff]
        simp [Node.isCalled]

end Snapshot

namespace Inventory

/-- Where no two nodes have the same id, two identifiers with one id stand for one node. -/
theorem nodeOf?_eq_iff_of_distinctIds
    {inventory : Inventory}
    (distinctIds : (inventory.nodes.map Node.id).Nodup)
    {destination : Option Text}
    {node : Node}
    (found : inventory.nodeOf? destination = some node)
    (reference : Option Text) :
    inventory.nodeOf? reference = inventory.nodeOf? destination ↔
      resolveId? (identifiers inventory.nodes) reference = some node.id := by
  have resolved :
      resolveId? (identifiers inventory.nodes) reference =
        (inventory.nodeOf? reference).map Node.id := by
    rw [← Snapshot.findNode?_map_id, ← Snapshot.findNode?_map_node,
      Option.map_map]
    rfl
  rw [found, resolved]
  constructor
  · intro same
    rw [same]
    rfl
  · intro sameId
    obtain ⟨other, isOther, idShape⟩ := Option.map_eq_some_iff.mp sameId
    rw [isOther,
      List.inj_on_of_nodup_map distinctIds (mem_nodes_of_nodeOf? isOther)
        (mem_nodes_of_nodeOf? found) idShape]

/-- A node that is found hosts a shard just if a copy of it is reported there. -/
theorem hosts_eq_true_iff_reported
    {inventory : Inventory}
    (distinctIds : (inventory.nodes.map Node.id).Nodup)
    {destination : Option Text}
    {host : HostedNode}
    (found :
      (Snapshot.ofInventory inventory).findNode? destination = some host)
    (index : Text)
    (number : Int) :
    host.hosts index number = true ↔
      ∃ other ∈ inventory.shards,
        other.state ≠ .unassigned ∧ other.index = index ∧
          other.number = number ∧
          inventory.nodeOf? other.node = inventory.nodeOf? destination := by
  have isNode : inventory.nodeOf? destination = some host.node := by
    rw [← Snapshot.findNode?_map_node, found]
    rfl
  rw [hosts_eq_true_iff_of_distinctIds distinctIds found, HasCopyOn]
  refine exists_congr fun other => and_congr_right fun _ => ?_
  rw [nodeOf?_eq_iff_of_distinctIds distinctIds isNode,
    Shard.isAssigned, bne_iff_ne]
  refine and_congr_right fun _ => ?_
  rw [and_comm, and_assoc]

end Inventory

namespace Snapshot

/-- A verdict on a move between two nodes follows from the rules behind the first three. -/
theorem judgeBetween_eq_iff_followsFrom
    {inventory : Inventory}
    (distinctIds : (inventory.nodes.map Node.id).Nodup)
    {source destination : Option Text}
    {sourceHost destinationHost : HostedNode}
    (sourceFound :
      (ofInventory inventory).findNode? source = some sourceHost)
    (destinationFound :
      (ofInventory inventory).findNode? destination =
        some destinationHost)
    (copy : Shard)
    (verdict : Verdict) :
    judgeBetween copy sourceHost destinationHost = verdict ↔
      verdict.FollowsFrom
        ((inventory.moveRules (some copy) source destination).drop 3) := by
  have sourceNode : inventory.nodeOf? source = some sourceHost.node := by
    rw [← findNode?_map_node, sourceFound]
    rfl
  have destinationNode :
      inventory.nodeOf? destination = some destinationHost.node := by
    rw [← findNode?_map_node, destinationFound]
    rfl
  have noCopy :
      (∀ other ∈ inventory.shards,
          other.state ≠ .unassigned → other.index = copy.index →
            other.number = copy.number →
              inventory.nodeOf? other.node ≠ some destinationHost.node) ↔
        destinationHost.hosts copy.index copy.number = false := by
    rw [← Bool.not_eq_true,
      Inventory.hosts_eq_true_iff_reported distinctIds destinationFound,
      destinationNode]
    simp only [not_exists, not_and, ne_eq]
  simp only [Inventory.moveRules, List.drop_succ_cons, List.drop_zero,
    Verdict.followsFrom_cons_iff, Verdict.followsFrom_nil_iff,
    sourceNode, destinationNode, Option.mem_some_iff, forall_eq', noCopy,
    Option.map_some, Option.some.injEq, ne_eq]
  unfold judgeBetween Node.holdsData
  by_cases sameId : sourceHost.node.id = destinationHost.node.id
  · simp [sameId]
  · cases copy.state <;>
      cases destinationHost.hosts copy.index copy.number <;>
      cases destinationHost.node.roles.contains .data <;>
      simp [ShardState.immovable?, sameId]

end Snapshot

/-- Checked raw documents give the nodes of their first document, each under its own id. -/
theorem Payload.RawInventory.ids_of_join
    {raw : RawInventory}
    {inventory : Inventory}
    (joined : raw.join = .ok inventory) :
    inventory.nodes.map Node.id = raw.nodes.keys := by
  rw [(RawInventory.join_eq_ok_iff.mp joined).1, List.map_map]
  rfl

/-- Raw documents give nodes with different ids. -/
theorem Payload.RawDocuments.nodup_ids_of_read
    {documents : RawDocuments}
    {inventory : Inventory}
    (isRead : documents.read = .ok inventory) :
    (inventory.nodes.map Node.id).Nodup := by
  obtain ⟨raw, _, joined⟩ := RawDocuments.read_eq_ok_iff.mp isRead
  rw [RawInventory.ids_of_join joined]
  exact raw.nodes.keysNodup

namespace Snapshot

/--
A move is judged by the rules on what is reported, and the first one that fails decides.

This is said of all nodes with different ids, and the nodes of raw documents are such.
-/
theorem judgeRelocation_eq_iff_followsFrom :
    (∀ (documents : Payload.RawDocuments) (inventory : Inventory),
      documents.read = .ok inventory →
        (inventory.nodes.map Node.id).Nodup) ∧
      ∀ inventory : Inventory,
        (inventory.nodes.map Node.id).Nodup →
          ∀ (shard : Option Shard) (source destination : Option Text)
            (verdict : Verdict),
            (ofInventory inventory).judgeRelocation shard source
                destination = verdict ↔
              verdict.FollowsFrom
                (inventory.moveRules shard source destination) := by
  refine ⟨fun _ _ => Payload.RawDocuments.nodup_ids_of_read, ?_⟩
  intro inventory distinctIds shard source destination verdict
  have known
      (identifier : Option Text) :
      inventory.Knows identifier ↔
        ((ofInventory inventory).findNode? identifier).isSome = true := by
    rw [inventory.knows_iff_isSome_nodeOf?, ← findNode?_map_node,
      Option.isSome_map]
  cases shard with
  | none =>
      simp [judgeRelocation, Inventory.moveRules,
        Verdict.followsFrom_cons_iff]
  | some copy =>
      cases sourceFound : (ofInventory inventory).findNode? source with
      | none =>
          simp [judgeRelocation, Inventory.moveRules,
            Verdict.followsFrom_cons_iff, known, sourceFound]
      | some sourceHost =>
          cases destinationFound :
              (ofInventory inventory).findNode? destination with
          | none =>
              simp [judgeRelocation, Inventory.moveRules,
                Verdict.followsFrom_cons_iff, known, sourceFound,
                destinationFound]
          | some destinationHost =>
              -- The rules on what is there hold, and the others are those between the nodes.
              have between :=
                judgeBetween_eq_iff_followsFrom distinctIds sourceFound
                  destinationFound copy verdict
              simp only [judgeRelocation, sourceFound, destinationFound]
              rw [Inventory.moveRules, Verdict.followsFrom_cons_of_holds,
                Verdict.followsFrom_cons_of_holds,
                Verdict.followsFrom_cons_of_holds]
              · exact between
              · exact (known destination).mpr (by rw [destinationFound]; rfl)
              · exact (known source).mpr (by rw [sourceFound]; rfl)
              · exact Option.some_ne_none copy

/-- Raw documents of two nodes with one name, of which one has that name as its id. -/
def namesakeDocuments : Payload.RawDocuments :=
  { nodes :=
      .object
        [ ("nodes",
            .object
              [ ("a", .object []),
                ("b", .object [("name", .text "a")]) ]) ]
    nodesStats := .object []
    routing := .object []
    indicesStats := .object [] }

/-- The verdicts on a cluster in which the name of one node is the id of another. -/
theorem verdicts_on_threeNodes :
    let verdictFrom (source destination : Text) (verdict : Verdict) : Prop :=
      verdict.FollowsFrom
        (Inventory.threeNodes.moveRules (some Inventory.copyById)
          (some source) (some destination))
    ∃ inventory,
      namesakeDocuments.read = .ok inventory ∧
        inventory.nodes.map Node.id = ["a", "b"] ∧
        (inventory.nodes.map Node.id).Nodup ∧
        (Inventory.threeNodes.nodes.map Node.id).Nodup ∧
        verdictFrom "b" "delta" (.refused .destinationNotFound) ∧
        verdictFrom "alpha" "a" (.refused .sameNode) ∧
        verdictFrom "b" "a" (.refused .duplicateOnDestination) ∧
        verdictFrom "b" "10.0.0.3" .approved := by
  intro verdictFrom
  obtain ⟨ofDocuments, followsFrom⟩ := judgeRelocation_eq_iff_followsFrom
  have distinctIds : (Inventory.threeNodes.nodes.map Node.id).Nodup := by
    decide
  exact
    ⟨_, rfl, rfl, ofDocuments namesakeDocuments _ rfl, distinctIds,
      (followsFrom _ distinctIds _ _ _ _).mp (by decide +kernel),
      (followsFrom _ distinctIds _ _ _ _).mp (by decide +kernel),
      (followsFrom _ distinctIds _ _ _ _).mp (by decide +kernel),
      (followsFrom _ distinctIds _ _ _ _).mp (by decide +kernel)⟩

end Snapshot

end ShardAtlas
