import ShardAtlas.Console.Checks
import ShardAtlas.Proofs.Overview

namespace ShardAtlas.Console

/-!
# What the check of a move prints

Once a dump is loaded, checking a move prints one line about the verdict. A refused move
has a second line if its copy was found and could go elsewhere, and then the check fails.
-/

/-- The line about a move that is refused. -/
def refusalLine
    (reason : Refusal) :
    String :=
  styled "red" (Verdict.refused reason).text ++ ": " ++ reason.description

/-- What is printed about the nodes to which a copy could be moved. -/
def offerLines :
    List HostedNode →
    List String
  | [] =>
      []
  | first :: rest =>
      [ "Valid destinations: " ++
          ", ".intercalate
            ((first :: rest).map fun host => host.node.name.shown) ]

/-- The nodes that are offered for a copy, if it was found. -/
def offeredFor
    (snapshot : Snapshot)
    (copy : Option Shard) :
    List HostedNode :=
  (copy.map snapshot.destinationsFor).getD []

/-- What is printed about the verdict on a request. -/
def linesAbout
    (snapshot : Snapshot)
    (request : RelocationRequest)
    (copy : Option Shard) :
    Verdict →
    List String
  | .approved =>
      [approvalLine request]
  | .refused reason =>
      refusalLine reason :: offerLines (offeredFor snapshot copy)

/-- A refusal is said to be for a missing copy just if it is. -/
theorem refusalLine_eq_shardMissing_iff
    (reason : Refusal) :
    refusalLine reason = refusalLine .shardMissing ↔
      reason = .shardMissing := by
  cases reason <;> decide +kernel

/-- The line about an admitted move is none about a refusal. -/
theorem approvalLine_ne_refusalLine
    (request : RelocationRequest)
    (reason : Refusal) :
    approvalLine request ≠ refusalLine reason := by
  intro same
  have starts := congrArg (fun line => line.toList.take 2) same
  simp [approvalLine, refusalLine, styled] at starts

/-- A missing copy is said first just if the verdict is that. -/
theorem head?_linesAbout_eq_shardMissing_iff
    (snapshot : Snapshot)
    (request : RelocationRequest)
    (copy : Option Shard)
    (verdict : Verdict) :
    (linesAbout snapshot request copy verdict).head? =
        some (refusalLine .shardMissing) ↔
      verdict = .refused .shardMissing := by
  cases verdict with
  | approved =>
      simp [linesAbout, approvalLine_ne_refusalLine]
  | refused reason =>
      simp [linesAbout, refusalLine_eq_shardMissing_iff]

/-- A screen with some lines more. -/
def Screen.withLines
    (screen : Screen)
    (lines : List String) :
    Screen :=
  { screen with printed := screen.printed ++ lines.map .line }

/-- A screen without further lines is the same. -/
theorem Screen.withLines_nil
    (screen : Screen) :
    screen.withLines [] = screen := by
  simp [withLines]

/-- How the check of a move ends. -/
def endOfCheck :
    Verdict →
    Except Stopped Unit
  | .approved => .ok ()
  | .refused _ => .error (.withStatus failureStatus)

/-- The destinations of a copy are printed on one line, if there are any. -/
theorem run_printDestinations
    (snapshot : Snapshot)
    (copy : Option Shard)
    (screen : Screen) :
    (printDestinations snapshot copy).run.run screen =
      (.ok (),
        screen.withLines (offerLines (offeredFor snapshot copy))) := by
  unfold printDestinations offeredFor
  cases copy.map snapshot.destinationsFor with
  | none =>
      rw [Option.getD_none, offerLines, screen.withLines_nil]
      rfl
  | some offered =>
      cases offered with
      | nil =>
          rw [Option.getD_some, offerLines, screen.withLines_nil]
          rfl
      | cons first rest =>
          rfl

/-- A verdict is reported by its lines, and a refusal is a failure. -/
theorem run_reportOfVerdict
    (snapshot : Snapshot)
    (request : RelocationRequest)
    (copy : Option Shard)
    (verdict : Verdict)
    (screen : Screen) :
    (match verdict.reason? with
      | none =>
          printLine (approvalLine request)
      | some reason => do
          printLine
            (styled "red" verdict.text ++ ": " ++ reason.description)
          printDestinations snapshot copy
          throw (.withStatus failureStatus) : Deed Unit).run.run screen =
      (endOfCheck verdict,
        screen.withLines (linesAbout snapshot request copy verdict)) := by
  cases verdict with
  | approved =>
      rfl
  | refused reason =>
      have printed :
          (printLine
              (styled "red" (Verdict.refused reason).text ++ ": " ++
                reason.description)).run.run screen =
            (.ok (), screen.withLines [refusalLine reason]) :=
        rfl
      simp only [Verdict.reason?]
      rw [run_bind_of_ok printed,
        run_bind_of_ok (run_printDestinations snapshot copy _)]
      simp only [Screen.withLines, linesAbout, List.map_cons,
        List.map_nil, List.append_assoc, List.singleton_append]
      rfl

/-- A dump is loaded if its text is read as an accepted document without long stray numbers. -/
theorem exists_run_loadSnapshot_of_text
    {dump : Path}
    {screen : Screen}
    {content : String}
    (holds : screen.files.read dump = .ok (.text content))
    {inventory : Inventory}
    (accepted :
      (Json.readLimited
        (String.ofList (plainLineEnds content.toList))).toOption.map
          Payload.readFlat = some (.ok inventory))
    (fit : ∀ shard ∈ inventory.strays, Text.FitsDigits shard.number) :
    ∃ loaded,
      (loadSnapshot dump).run.run screen =
        (.ok (.ofInventory inventory), loaded) := by
  cases reads :
      Json.readLimited (String.ofList (plainLineEnds content.toList)) with
  | error fault =>
      rw [reads] at accepted
      cases accepted
  | ok document =>
      rw [reads] at accepted
      have loads :=
        exists_run_loadSnapshot (Option.some.inj accepted) holds reads
      rwa [(Snapshot.build_eq_ok_iff inventory _).mpr ⟨rfl, fit⟩] at loads

/-- Once a dump is loaded, a check prints its lines and ends by the verdict. -/
theorem run_checkRelocation
    {request : RelocationRequest}
    {screen loaded : Screen}
    {snapshot : Snapshot}
    (loads :
      (loadSnapshot request.dump).run.run screen = (.ok snapshot, loaded)) :
    let copy :=
      snapshot.findCopy? request.index request.number request.primary
        (some request.source)
    let verdict :=
      snapshot.judgeRelocation copy (some request.source)
        (some request.destination)
    (checkRelocation request).run.run screen =
      (endOfCheck verdict,
        loaded.withLines (linesAbout snapshot request copy verdict)) := by
  intro copy verdict
  unfold checkRelocation
  rw [run_bind_of_ok loads]
  exact run_reportOfVerdict snapshot request copy verdict loaded

/-- A check that refuses to move a copy it found says so, offers what there is, and fails. -/
theorem run_checkRelocation_of_refused
    {request : RelocationRequest}
    {screen loaded : Screen}
    {snapshot : Snapshot}
    (loads :
      (loadSnapshot request.dump).run.run screen = (.ok snapshot, loaded))
    {copy : Shard}
    (found :
      snapshot.findCopy? request.index request.number request.primary
        (some request.source) = some copy)
    {reason : Refusal}
    (refused :
      snapshot.judgeRelocation (some copy) (some request.source)
        (some request.destination) = .refused reason) :
    (checkRelocation request).run.run screen =
      (.error (.withStatus failureStatus),
        loaded.withLines
          (refusalLine reason ::
            offerLines (snapshot.destinationsFor copy))) := by
  have checked := run_checkRelocation loads
  simp only [found, refused] at checked
  exact checked

end ShardAtlas.Console
