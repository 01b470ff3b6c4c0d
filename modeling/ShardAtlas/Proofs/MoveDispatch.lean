import ShardAtlas.Proofs.Relocation
import ShardAtlas.Proofs.Traversal

namespace ShardAtlas

/-!
# One command or none

An admitted move is sent once, and a refused one not at all. The nodes of the command are
looked up again after the verdict, and nothing there asks whether they are found. So
sending is told here a second time, by a strict way that gives up where something is missing
and hands every command to a mover which changes with each one that it gets.

Nothing is missing. But a command that breaks off is warned of, and where the number of its
copy cannot be printed, the one who asked for the move gets no outcome.
-/

/-- What ends a request: something that its command names is missing, or a number is too long. -/
inductive MoveFault
  | missing
  | longNumber (cause : Text.LongInteger)
  deriving Repr, DecidableEq

/-- What is handed back for a command that was sent, by the reply to it. -/
def MoveCommand.report
    (command : MoveCommand)
    (reply : Reply) :
    Except MoveFault MoveOutcome :=
  let sent : MoveOutcome :=
    { verdict := .approved
      command := some command
      sent := [command] }
  match reply with
  | .answered result =>
      pure { sent with result := some result }
  | .brokenOff message => do
      let text ← (command.failureWarning message).mapError .longNumber
      pure
        { sent with
          result :=
            some
              { success := false
                message := some message }
          warnings := [.ok text] }

namespace Snapshot

/--
Judge a move and send it if it is admitted, with what the command names looked up again.

The mover has a state, which every command may change. What it did stays done, also where
no outcome is handed back.
-/
def relocate?
    (snapshot : Snapshot)
    (mover : MoveCommand → σ → Reply × σ)
    (shard : Option Shard)
    (source destination : Option Text)
    (state : σ) :
    Except MoveFault MoveOutcome × σ :=
  match snapshot.judgeRelocation shard source destination with
  | .refused reason =>
      (.ok { verdict := .refused reason }, state)
  | .approved =>
      match
        shard, snapshot.findNode? source, snapshot.findNode? destination
      with
      | some copy, some sourceHost, some destinationHost =>
          let command : MoveCommand :=
            { index := copy.index
              number := copy.number
              source := sourceHost.node.id
              destination := destinationHost.node.id }
          let (reply, after) := mover command state
          (command.report reply, after)
      | _, _, _ =>
          (.error .missing, state)

variable {snapshot : Snapshot} {shard : Option Shard}
variable {source destination : Option Text}

/-- A refused move comes to its refusal and to nothing else. -/
theorem relocate_of_refused
    {reason : Refusal}
    (refused :
      snapshot.judgeRelocation shard source destination =
        .refused reason)
    (mover : MoveCommand → Reply) :
    snapshot.relocate mover shard source destination =
      { verdict := .refused reason } := by
  simp only [relocate, refused]

/-- An admitted move is of a copy between two different nodes that are found. -/
theorem exists_hosts_of_approved
    (approved :
      snapshot.judgeRelocation shard source destination = .approved) :
    ∃ copy sourceHost destinationHost,
      shard = some copy ∧
        snapshot.findNode? source = some sourceHost ∧
        snapshot.findNode? destination = some destinationHost ∧
        sourceHost.node.id ≠ destinationHost.node.id := by
  obtain ⟨copy, sourceHost, destinationHost, isCopy, sourceFound,
      destinationFound, apart, _⟩ :=
    (judgeRelocation_eq_approved_iff _ _ _ _).mp approved
  exact
    ⟨copy, sourceHost, destinationHost, isCopy, sourceFound,
      destinationFound, apart⟩

/-- An admitted move has a command. -/
theorem exists_command_of_approved
    (approved :
      snapshot.judgeRelocation shard source destination = .approved) :
    ∃ command,
      snapshot.moveCommand? shard source destination = some command := by
  obtain ⟨copy, sourceHost, destinationHost, rfl, sourceFound,
      destinationFound, _⟩ :=
    exists_hosts_of_approved approved
  exact ⟨_, moveCommand?_eq_some sourceFound destinationFound copy⟩

/-- An admitted move comes to what its one command comes to. -/
theorem relocate_of_approved
    (approved :
      snapshot.judgeRelocation shard source destination = .approved)
    {command : MoveCommand}
    (isCommand :
      snapshot.moveCommand? shard source destination = some command)
    (mover : MoveCommand → Reply) :
    snapshot.relocate mover shard source destination =
      { verdict := .approved
        command := some command
        result := some (mover command).result
        sent := [command]
        warnings :=
          (mover command).failure?.toList.map command.failureWarning } := by
  simp only [relocate, approved, isCommand]

/-- The report on a command is its outcome, if that can be handed back. -/
theorem report_eq_handedBack
    (command : MoveCommand)
    (reply : Reply) :
    let outcome : MoveOutcome :=
      { verdict := .approved
        command := some command
        result := some reply.result
        sent := [command]
        warnings := reply.failure?.toList.map command.failureWarning }
    command.report reply = outcome.handedBack.mapError .longNumber := by
  intro outcome
  cases reply with
  | answered result =>
      rfl
  | brokenOff message =>
      simp only [outcome, MoveCommand.report, MoveOutcome.handedBack,
        Reply.failure?, Option.toList_some, List.map_cons, List.map_nil]
      cases command.failureWarning message <;> rfl

/-- Nothing is missing where a move is sent, and the mover gets just the commands sent. -/
theorem relocate?_eq_handedBack
    (mover : MoveCommand → σ → Reply × σ)
    (state : σ) :
    let outcome :=
      snapshot.relocate (fun command => (mover command state).1) shard
        source destination
    snapshot.relocate? mover shard source destination state =
      (outcome.handedBack.mapError .longNumber,
        outcome.sent.foldl
          (fun reached command => (mover command reached).2) state) := by
  intro outcome
  cases verdict : snapshot.judgeRelocation shard source destination with
  | refused reason =>
      simp only [relocate?, outcome, verdict, relocate_of_refused verdict]
      rfl
  | approved =>
      obtain ⟨copy, sourceHost, destinationHost, rfl, sourceFound,
          destinationFound, _⟩ :=
        exists_hosts_of_approved verdict
      have isCommand :=
        moveCommand?_eq_some sourceFound destinationFound copy
      simp only [relocate?, outcome, verdict, sourceFound, destinationFound,
        relocate_of_approved verdict isCommand, report_eq_handedBack]
      rfl

/-- A reply has a message of failure just if the attempt broke off with it. -/
theorem Reply.failure?_eq_some_iff
    (reply : Reply)
    (message : String) :
    reply.failure? = some message ↔ reply = .brokenOff message := by
  cases reply <;> simp [Reply.failure?]

/-- The result that a reply counts as is a success just if the cluster answered with one. -/
theorem success_result_iff
    (reply : Reply) :
    reply.result.success = true ↔
      ∃ result, reply = .answered result ∧ result.success = true := by
  cases reply <;> simp [Reply.result]

/-- The warnings of an outcome are those of its commands that broke off. -/
theorem warnings_relocate
    (mover : MoveCommand → Reply) :
    let outcome := snapshot.relocate mover shard source destination
    outcome.warnings =
      outcome.sent.filterMap fun command =>
        (mover command).failure?.map command.failureWarning := by
  intro outcome
  cases verdict : snapshot.judgeRelocation shard source destination with
  | refused reason =>
      simp [outcome, relocate_of_refused verdict]
  | approved =>
      obtain ⟨command, isCommand⟩ := exists_command_of_approved verdict
      simp only [outcome, relocate_of_approved verdict isCommand,
        List.filterMap_cons]
      cases (mover command).failure? <;> rfl

/-- An outcome is handed back just if its number can be printed where a command broke off. -/
theorem handedBack_relocate_eq_ok_iff
    (mover : MoveCommand → Reply)
    (handed : MoveOutcome) :
    (snapshot.relocate mover shard source destination).handedBack =
        .ok handed ↔
      handed = snapshot.relocate mover shard source destination ∧
        ∀ command ∈
          (snapshot.relocate mover shard source destination).sent,
          ∀ message, mover command = .brokenOff message →
            Text.FitsDigits command.number := by
  rw [MoveOutcome.handedBack, Message.given_eq_ok_iff, warnings_relocate]
  refine and_congr_right fun _ => ?_
  simp only [List.mem_filterMap, Option.map_eq_some_iff,
    Reply.failure?_eq_some_iff]
  constructor
  · intro written command isSent message broke
    exact
      (Message.isOk_naming_iff _ _).mp
        (written _ ⟨command, isSent, message, broke, rfl⟩)
  · rintro fit _ ⟨command, isSent, message, broke, rfl⟩
    exact
      (Message.isOk_naming_iff _ _).mpr (fit command isSent message broke)

/-- No outcome is handed back just where a command broke off whose number cannot be printed. -/
theorem handedBack_relocate_eq_error_iff
    (mover : MoveCommand → Reply)
    (cause : Text.LongInteger) :
    (snapshot.relocate mover shard source destination).handedBack =
        .error cause ↔
      ∃ command ∈
        (snapshot.relocate mover shard source destination).sent,
        (∃ message, mover command = .brokenOff message) ∧
          cause.value = command.number := by
  cases verdict : snapshot.judgeRelocation shard source destination with
  | refused reason =>
      rw [relocate_of_refused verdict]
      exact iff_of_false nofun fun ⟨_, isSent, _⟩ => nomatch isSent
  | approved =>
      obtain ⟨command, isCommand⟩ := exists_command_of_approved verdict
      rw [relocate_of_approved verdict isCommand]
      simp only [List.mem_singleton, exists_eq_left]
      cases mover command with
      | answered result =>
          exact iff_of_false nofun fun ⟨⟨_, broke⟩, _⟩ => nomatch broke
      | brokenOff message =>
          have isWarning :
              command.failureWarning message = .error cause ↔
                cause.value = command.number :=
            Message.naming_eq_error_iff command.number _ cause
          rw [and_iff_right ⟨message, rfl⟩, ← isWarning]
          exact Message.given_singleton_eq_error_iff

/--
A move is sent once if it is admitted, and not at all if it is refused. The one who asks for it
gets the outcome, unless its command broke off and has a number that is too long.

Nothing that the command names is missing, whatever the snapshot, and the mover is left in
the state after the commands that are sent, also where no outcome is handed back. An admitted
move has one command, from the node of its source to another one, that of its destination, and
its result is what the mover answers, or one without success that has the message of the break.
A refused move has neither. So a move succeeds just if the mover got a command and answered
with a success.
-/
theorem handed_back_unless_long_number_breaks_off
    (snapshot : Snapshot)
    (shard : Option Shard)
    (source destination : Option Text)
    (mover : MoveCommand → σ → Reply × σ)
    (state : σ) :
    let reply (command : MoveCommand) : Reply :=
      (mover command state).1
    let outcome := snapshot.relocate reply shard source destination
    let ended := snapshot.relocate? mover shard source destination state
    (∀ handed,
      ended.1 = .ok handed ↔
        handed = outcome ∧
          ∀ command ∈ outcome.sent, ∀ message,
            reply command = .brokenOff message →
              Text.FitsDigits command.number) ∧
      (∀ fault,
        ended.1 = .error fault ↔
          ∃ cause,
            fault = .longNumber cause ∧
              ∃ command ∈ outcome.sent, (∃ message,
                reply command = .brokenOff message) ∧
                  cause.value = command.number) ∧
      ended.2 =
        outcome.sent.foldl
          (fun reached command => (mover command reached).2) state ∧
      outcome.verdict =
        snapshot.judgeRelocation shard source destination ∧
      (match outcome.verdict with
        | .refused _ =>
            outcome.sent = [] ∧ outcome.command = none ∧
              outcome.result = none
        | .approved =>
            ∃ copy sourceHost destinationHost command,
              shard = some copy ∧
                snapshot.findNode? source = some sourceHost ∧
                snapshot.findNode? destination = some destinationHost ∧
                sourceHost.node.id ≠ destinationHost.node.id ∧
                command =
                  { index := copy.index
                    number := copy.number
                    source := sourceHost.node.id
                    destination := destinationHost.node.id } ∧
                outcome.sent = [command] ∧
                outcome.command = some command ∧
                outcome.result =
                  match reply command with
                  | .answered result =>
                      some result
                  | .brokenOff message =>
                      some
                        { success := false
                          message := some message }) ∧
      (outcome.succeeded = true ↔
        ∃ command ∈ outcome.sent, ∃ result,
          reply command = .answered result ∧ result.success = true) := by
  intro reply outcome ended
  have strict : ended = _ := relocate?_eq_handedBack mover state
  refine ⟨fun handed => ?handed, fun fault => ?ended, ?left, ?described⟩
  case handed =>
    rw [strict, mapError_eq_ok_iff, handedBack_relocate_eq_ok_iff]
  case ended =>
    rw [strict, mapError_eq_error_iff]
    exact
      exists_congr fun cause =>
        and_congr_right fun _ =>
          handedBack_relocate_eq_error_iff reply cause
  case left =>
    rw [strict]
  case described =>
    cases verdict : snapshot.judgeRelocation shard source destination with
    | refused reason =>
        have nothing : outcome = { verdict := .refused reason } :=
          relocate_of_refused verdict reply
        rw [nothing]
        exact ⟨rfl, ⟨rfl, rfl, rfl⟩, by simp [MoveOutcome.succeeded]⟩
    | approved =>
        obtain ⟨copy, sourceHost, destinationHost, rfl, sourceFound,
            destinationFound, apart⟩ :=
          exists_hosts_of_approved verdict
        have isCommand :=
          moveCommand?_eq_some sourceFound destinationFound copy
        have sent :=
          relocate_of_approved verdict isCommand reply
        rw [show outcome = _ from sent]
        refine
          ⟨rfl,
            ⟨copy, sourceHost, destinationHost, _, rfl, sourceFound,
              destinationFound, apart, rfl, rfl, rfl, ?_⟩,
            ?_⟩
        · simp only
          cases reply _ <;> rfl
        · simp [MoveOutcome.succeeded, success_result_iff]

/-- A command for a number with one digit too many breaks off, and nothing is handed back. -/
theorem not_handed_back_with_long_number :
    let copy : Shard :=
      { index := "logs"
        number := Text.printLimit
        primary := true
        state := .started
        node := some "a" }
    let inventory : Inventory :=
      { nodes :=
          [ { id := "a", name := "first", roles := .ofList [.data] },
            { id := "b", name := "second", roles := .ofList [.data] } ]
        shards := [copy] }
    let mover (command : MoveCommand) (sent : List MoveCommand) :
        Reply × List MoveCommand :=
      (.brokenOff "timeout", sent ++ [command])
    let ended :=
      (ofInventory inventory).relocate? mover (some copy) (some "a")
        (some "b") []
    ∃ cause : Text.LongInteger,
      cause.value = Text.printLimit ∧
        ended.1 = .error (.longNumber cause) ∧
        ended.2 =
          [ { index := "logs"
              number := Text.printLimit
              source := "a"
              destination := "b" } ] := by
  intro copy inventory mover ended
  have approved :
      (ofInventory inventory).judgeRelocation (some copy) (some "a")
        (some "b") = .approved := by
    decide +kernel
  let command : MoveCommand :=
    { index := "logs"
      number := Text.printLimit
      source := "a"
      destination := "b" }
  have isCommand :
      (ofInventory inventory).moveCommand? (some copy) (some "a")
        (some "b") = some command := by
    decide +kernel
  let cause : Text.LongInteger :=
    { value := Text.printLimit
      isLong := Text.not_fitsDigits_printLimit }
  let reply (command : MoveCommand) : Reply :=
    (mover command []).1
  have sent := relocate_of_approved approved isCommand reply
  have handedBack :
      ((ofInventory inventory).relocate reply (some copy) (some "a")
        (some "b")).handedBack = .error cause :=
    (handedBack_relocate_eq_error_iff reply cause).mpr
      ⟨command, by simp [sent], ⟨"timeout", rfl⟩, rfl⟩
  have strict : ended = _ := relocate?_eq_handedBack mover []
  refine ⟨cause, rfl, ?_, ?_⟩
  · rw [strict]
    exact congrArg (Except.mapError MoveFault.longNumber) handedBack
  · rw [strict]
    exact
      congrArg
        (fun outcome : MoveOutcome =>
          outcome.sent.foldl
            (fun reached command => (mover command reached).2) [])
        sent

end Snapshot

end ShardAtlas
