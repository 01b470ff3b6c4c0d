namespace ShardAtlas.Console

/-!
# Options and arguments

The words of a command line are options, values of options, and arguments. Long
options start with two dashes and may carry their value behind an equals sign;
short options start with one, may stand together, and may carry a value right
behind them. Two dashes by themselves end the options, and a single dash is an
argument.
-/

/-- An option by its names without dashes. -/
structure OptionName where
  key : String
  long : String
  short : Option Char := none
  takesValue : Bool := true
  deriving Repr, DecidableEq

/-- An option as it was given; one without a value has the empty text. -/
structure GivenOption where
  key : String
  value : String := ""
  deriving Repr, DecidableEq

/-- The words of a command line, sorted. -/
structure Words where
  options : List GivenOption := []
  arguments : List String := []
  deriving Repr, DecidableEq

/-- What one word of options gives: an option at its end may lack its value. -/
structure OptionWord where
  options : List GivenOption := []
  lacking : Option String := none
  deriving Repr, DecidableEq

/-- Whether a word is an option. -/
def isOptionWord
    (word : String) :
    Bool :=
  match word.toList with
  | '-' :: _ :: _ => true
  | _ => false

/-- The part of a word up to an equals sign, and the part behind it. -/
def splitValue
    (chars : List Char) :
    List Char × Option (List Char) :=
  match chars.dropWhile (· != '=') with
  | _ :: value => (chars.takeWhile (· != '='), some value)
  | [] => (chars, none)

/-- The long option that a word stands for, if its name is known. -/
def longOption?
    (names : List OptionName)
    (afterDashes : List Char) :
    Option (Option OptionWord) :=
  let (name, value?) := splitValue afterDashes
  (names.find? fun option => option.long.toList == name).map fun option =>
    match option.takesValue, value? with
    | true, some value =>
        some { options := [⟨option.key, String.ofList value⟩] }
    | true, none =>
        some { lacking := some option.key }
    | false, none =>
        some { options := [⟨option.key, ""⟩] }
    | false, some _ =>
        none

/-- The short options that stand together in a word. -/
def shortOptions
    (names : List OptionName) :
    List Char →
    Option OptionWord
  | [] =>
      some {}
  | char :: rest =>
      match names.find? fun option => option.short == some char with
      | none =>
          none
      | some option =>
          if option.takesValue then
            if rest.isEmpty then
              some { lacking := some option.key }
            else
              some { options := [⟨option.key, String.ofList rest⟩] }
          else
            (shortOptions names rest).map fun word =>
              { word with options := ⟨option.key, ""⟩ :: word.options }

/-- The options that a word stands for; none if it is misused or unknown. -/
def optionWord
    (names : List OptionName)
    (word : String) :
    Option OptionWord :=
  match word.toList with
  | '-' :: '-' :: afterDashes =>
      (longOption? names afterDashes).join
  | '-' :: afterDash =>
      shortOptions names afterDash
  | _ =>
      none

/--
Sort the words of a command line; none if an option is misused or unknown.

Where options may not stand behind arguments, the first argument ends them.
-/
def sortWords
    (names : List OptionName)
    (interspersed : Bool) :
    List String →
    Option Words
  | [] =>
      some {}
  | word :: rest =>
      if word = "--" then
        some { arguments := rest }
      else if isOptionWord word then
        match optionWord names word with
        | none =>
            none
        | some { options, lacking := none } =>
            (sortWords names interspersed rest).map fun words =>
              { words with options := options ++ words.options }
        | some { options, lacking := some key } =>
            match rest with
            | [] =>
                none
            | value :: behind =>
                (sortWords names interspersed behind).map fun words =>
                  { words with
                    options := options ++ ⟨key, value⟩ :: words.options }
      else if interspersed then
        (sortWords names interspersed rest).map fun words =>
          { words with arguments := word :: words.arguments }
      else
        some { arguments := word :: rest }

namespace Words

/-- Whether an option was given. -/
def has
    (words : Words)
    (key : String) :
    Bool :=
  words.options.any fun option => option.key == key

/-- The value of an option; the last one counts. -/
def value?
    (words : Words)
    (key : String) :
    Option String :=
  (words.options.reverse.find? fun option => option.key == key).map
    GivenOption.value

end Words

end ShardAtlas.Console
