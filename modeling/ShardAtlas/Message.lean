import ShardAtlas.Text.Numeral

namespace ShardAtlas

/-!
# Logged messages

The text of a message is put together before it is asked whether the message is
logged. So a number in it that cannot be printed ends what is being done, and
nothing comes of that. What is computed here comes with its messages: it is given
once all of them can be written.
-/

/-- A message for the log, unless a number in it has too many digits. -/
abbrev Message :=
  Except Text.LongInteger String

namespace Message

/-- A message that names an integer. -/
def naming
    (value : Int)
    (text : String → String) :
    Message :=
  (Text.printed value).map text

/-- A message that names an integer can be written just if the integer can be printed. -/
theorem isOk_naming_iff
    (value : Int)
    (text : String → String) :
    (naming value text).isOk = true ↔ Text.FitsDigits value := by
  rw [← Text.isOk_printed_iff, naming]
  cases Text.printed value <;> rfl

/-- A message that names an integer fails for that integer. -/
theorem naming_eq_error_iff
    (value : Int)
    (text : String → String)
    (cause : Text.LongInteger) :
    naming value text = .error cause ↔ cause.value = value := by
  rw [← Text.printed_eq_error_iff, naming]
  cases Text.printed value <;> simp [Except.map]

/-- The texts that are logged, and the number that ends the log early if there is one. -/
def logged :
    List Message →
    List String × Except Text.LongInteger Unit
  | [] =>
      ([], .ok ())
  | .error cause :: _ =>
      ([], .error cause)
  | .ok text :: rest =>
      let (texts, outcome) := logged rest
      (text :: texts, outcome)

/-- What is given once some messages are logged. -/
def given
    (messages : List Message)
    (result : α) :
    Except Text.LongInteger α :=
  (logged messages).2.map fun _ => result

/-- Without a message there is nothing to log. -/
@[simp]
theorem given_nil
    (result : α) :
    given [] result = .ok result :=
  rfl

/-- A message that can be written is logged before the others. -/
@[simp]
theorem given_ok_cons
    (text : String)
    (rest : List Message)
    (result : α) :
    given (.ok text :: rest) result = given rest result :=
  rfl

/-- A message that cannot be written is the end. -/
@[simp]
theorem given_error_cons
    (cause : Text.LongInteger)
    (rest : List Message)
    (result : α) :
    given (.error cause :: rest) result = .error cause :=
  rfl

/-- Messages are logged in turn. -/
theorem given_cons
    (message : Message)
    (rest : List Message)
    (result : α) :
    given (message :: rest) result =
      message.bind fun _ => given rest result := by
  cases message <;> rfl

/-- Where there is one message, that one is what cannot be written. -/
theorem given_singleton_eq_error_iff
    {message : Message}
    {result : α}
    {cause : Text.LongInteger} :
    given [message] result = .error cause ↔ message = .error cause := by
  cases message <;> simp

/-- What is given is what was computed, once every message can be written. -/
theorem given_eq_ok_iff
    {messages : List Message}
    {result other : α} :
    given messages result = .ok other ↔
      other = result ∧ ∀ message ∈ messages, message.isOk = true := by
  induction messages with
  | nil =>
      constructor
      · rintro ⟨⟩
        exact ⟨rfl, by simp⟩
      · rintro ⟨rfl, _⟩
        rfl
  | cons message rest inductionHypothesis =>
      cases message with
      | error cause =>
          simp [Except.isOk, Except.toBool]
      | ok text =>
          simp [inductionHypothesis, Except.isOk, Except.toBool]

/-- Nothing is given just where a message cannot be written; the first of them says why. -/
theorem given_eq_error_iff
    {messages : List Message}
    {result : α}
    {cause : Text.LongInteger} :
    given messages result = .error cause ↔
      ∃ before later,
        messages = before ++ .error cause :: later ∧
          ∀ message ∈ before, message.isOk = true := by
  induction messages with
  | nil =>
      simp
  | cons message rest inductionHypothesis =>
      cases message with
      | error first =>
          constructor
          · rintro ⟨⟩
            exact ⟨[], rest, rfl, by simp⟩
          · rintro ⟨_ | ⟨message, before⟩, later, split, written⟩
            · cases split
              rfl
            · cases split
              cases written _ (List.mem_cons_self ..)
      | ok text =>
          rw [given_ok_cons, inductionHypothesis]
          constructor
          · rintro ⟨before, later, rfl, written⟩
            refine ⟨.ok text :: before, later, rfl, ?_⟩
            rintro message (_ | ⟨_, member⟩)
            · rfl
            · exact written message member
          · rintro ⟨_ | ⟨message, before⟩, later, split, written⟩
            · cases split
            · cases split
              exact
                ⟨before, later, rfl, fun message member =>
                  written message (List.mem_cons_of_mem _ member)⟩

end Message

end ShardAtlas
