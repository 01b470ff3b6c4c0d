import ShardAtlas.Proofs.Numerals
import ShardAtlas.Proofs.ReadParts
import ShardAtlas.Proofs.RoutedCopies

namespace ShardAtlas.Payload

/-!
# The numbers of routed copies

The keys of a routing table are checked to be ASCII digits, and are read as numbers only when
the copies under them are joined. Reading takes more than digits, so it takes every key that
passed, but not one of too many digits: this is the only thing that the check does not rule out.
-/

/-- A shard number is one or more ASCII digits. -/
theorem isShardNumber_iff
    (key : String) :
    isShardNumber key = true ↔
      key ≠ "" ∧
        ∀ char ∈ key.toList, (Text.asciiDigit? char).isSome = true := by
  simp [isShardNumber]

/-- A shard number is read as the number with its digits, unless it has too many. -/
theorem readInteger_of_isShardNumber
    {key : String}
    (isNumber : isShardNumber key = true) :
    Text.readInteger key =
      if Text.digitLimit < key.length then
        .error (.tooLong key.length)
      else
        .ok (Text.ofDigits (key.toList.filterMap Text.asciiDigit?)) := by
  obtain ⟨filled, areDigits⟩ := (isShardNumber_iff key).mp isNumber
  have length :
      (key.toList.filterMap Text.asciiDigit?).length = key.length :=
    (List.filterMap_length_eq_length.mpr areDigits).trans
      String.length_toList
  rw [Text.readInteger_of_asciiDigits filled areDigits, Text.integerOf,
    length]
  rfl

/-- A shard number that is read is not negative. -/
theorem nonneg_of_isShardNumber
    {key : String}
    (isNumber : isShardNumber key = true)
    {number : Int}
    (isRead : Text.readInteger key = .ok number) :
    0 ≤ number := by
  rw [readInteger_of_isShardNumber isNumber] at isRead
  split at isRead
  · cases isRead
  · obtain rfl := Except.ok.inj isRead
    exact Int.natCast_nonneg _

/-- Copies of an index pass as they are, and only under shard numbers. -/
theorem withShardNumbers_eq_passed_iff
    {copies found : OrderedMap String (List RawCopy)} :
    withShardNumbers copies = .passed found ↔
      (∀ key ∈ copies.keys, isShardNumber key = true) ∧ copies = found := by
  unfold withShardNumbers
  split
  · next key isFound =>
      refine iff_of_false (Checked.fault_ne_passed _ _) ?_
      rintro ⟨areNumbers, _⟩
      have isNumber := areNumbers key (List.mem_of_find?_eq_some isFound)
      simpa [isNumber] using List.find?_some isFound
  · next none =>
      have areNumbers : ∀ key ∈ copies.keys, isShardNumber key = true := by
        simpa [List.find?_eq_none] using none
      simpa using fun _ => areNumbers

/-- All copies of a routing table that passes are under shard numbers. -/
theorem ensures_rawRouting :
    Ensures rawRouting fun routing =>
      ∀ routed ∈ routing.copies, isShardNumber routed.key = true := by
  have ofIndex :
      Ensures rawIndexRouting
        (fun found => ∀ key ∈ found.keys, isShardNumber key = true) := by
    refine
      .record
        (.optional (.andThen ?_) _
          (by simp [OrderedMap.keys, OrderedMap.empty]))
        _
    intro copies found passed
    obtain ⟨areNumbers, rfl⟩ := withShardNumbers_eq_passed_iff.mp passed
    exact areNumbers
  have ofTable :
      Ensures rawRoutingTable
        (fun found =>
          ∀ entry ∈ found.entries,
            ∀ key ∈ entry.2.keys, isShardNumber key = true) :=
    .record (.optional ofIndex.mapOf _ (by simp [OrderedMap.empty])) _
  refine
    .record
      (.seq (.seq_any (.map_any ?_))
        (ofTable.optional _ (by simp [OrderedMap.empty])))
      _
  intro _ master indices areNumbers routed member
  simp only [RawRouting.copies, routedUnder, List.mem_flatMap,
    List.mem_map] at member
  obtain ⟨entry, isEntry, numbered, isNumbered, copy, _, rfl⟩ := member
  exact
    areNumbers entry isEntry numbered.1
      (List.mem_map.mpr ⟨numbered, isNumbered, rfl⟩)

/-- Copies of raw documents that pass are under shard numbers. -/
theorem RawDocuments.isShardNumber_of_check
    {documents : RawDocuments}
    {raw : RawInventory}
    (passed : documents.check = .ok raw) :
    ∀ routed ∈ raw.routing.copies, isShardNumber routed.key = true :=
  ensures_rawRouting _ _ (RawDocuments.check_eq_ok_iff.mp passed).2.2.1

end ShardAtlas.Payload
