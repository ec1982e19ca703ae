import DetectorSim.Number.Integer
import DetectorSim.Text.Blank

/-!
# Arguments of the command line

Options are given by a letter or by a name.  A value follows as the next word,
or in the same word: after the letter, or after an equals sign.  Every option
but the one that replaces keys of the header is given at most once.  The words
are read from left to right, and the first one that asks for help or is wrong
decides.
-/

set_option autoImplicit false

namespace DetectorSim.CommandLine

/-- What the command line asks for. -/
structure Arguments where
  /-- The path of the main configuration. -/
  config : String
  /-- The log level. -/
  verbosity : Option String
  workers : Option Nat
  events : Option Nat
  /-- Keys of the header with the values that replace theirs. -/
  overrides : List (String × String)
  logFile : Option String
  /-- Whether log lines start with the time. -/
  timestamps : Bool
  deriving DecidableEq, Repr, Inhabited

/-- What is to be done. -/
inductive Invocation where
  | run (arguments : Arguments)
  | help
  /-- The words make no sense. -/
  | invalid
  deriving DecidableEq, Repr, Inhabited

/-- The options that take a value. -/
inductive Switch where
  | config
  | verbosity
  | workers
  | events
  | override
  | logFile
  deriving DecidableEq, Repr, Inhabited

namespace Switch

/-- All options that take a value. -/
def all : List Switch :=
  [.config, .verbosity, .workers, .events, .override, .logFile]

/-- The letter of an option. -/
def letter : Switch → Char
  | .config => 'c'
  | .verbosity => 'v'
  | .workers => 'j'
  | .events => 'n'
  | .override => 'o'
  | .logFile => 'l'

/-- The name of an option. -/
def name : Switch → String
  | .config => "config"
  | .verbosity => "verbosity"
  | .workers => "workers"
  | .events => "events"
  | .override => "option"
  | .logFile => "log-file"

end Switch

/-- A word of the command line. -/
inductive Word where
  /-- An option, with its value if it is in the same word. -/
  | option (switch : Switch) (value : Option String)
  | noTimestamps
  | help
  /-- The end of the options. -/
  | endOfOptions
  | value (text : String)
  | unknown
  deriving DecidableEq, Repr, Inhabited

namespace Word

/-- A word that starts with two hyphens. -/
def ofName (text : List Char) : Word :=
  let name := String.ofList (text.takeWhile (· != '='))
  let value := match text.dropWhile (· != '=') with
    | [] => none
    | _ :: rest => some (String.ofList rest)
  if text.isEmpty then .endOfOptions
  else
    match Switch.all.find? fun switch => switch.name == name with
    | some switch => .option switch value
    | none =>
        if value.isSome then .unknown
        else if name == "no-timestamps" then .noTimestamps
        else if name == "help" then .help
        else .unknown

/-- A word that starts with one hyphen and a letter. -/
def ofLetter (letter : Char) (rest : List Char) : Word :=
  if letter == 'h' then .help
  else
    match Switch.all.find? fun switch => switch.letter == letter with
    | none => .unknown
    | some switch =>
        match rest with
        | [] => .option switch none
        | '=' :: text => .option switch (some (String.ofList text))
        | text => .option switch (some (String.ofList text))

/-- What a word is. -/
def ofString (text : String) : Word :=
  match text.toList with
  | '-' :: '-' :: rest => ofName rest
  | '-' :: letter :: rest => ofLetter letter rest
  | _ => .value text

end Word

/-- The options read so far. -/
structure Draft where
  config : Option String
  verbosity : Option String
  workers : Option Nat
  events : Option Nat
  overrides : List (String × String)
  logFile : Option String
  timestamps : Bool
  deriving Inhabited

namespace Draft

/-- Before the first word. -/
def empty : Draft :=
  ⟨none, none, none, none, [], none, true⟩

/-- A number that fits into 64 bits. -/
def number? (text : String) : Option Nat :=
  match Number.readInteger .u64 text.toList with
  | .ok value => some value.toNat
  | .error _ => none

/-- A path, which is not empty. -/
def path? (text : String) : Option String :=
  if text.isEmpty then none else some text

/-- A key, which is not blank, and its value. -/
def override? (text : String) : Option (String × String) :=
  match text.toList.dropWhile (· != '=') with
  | [] => none
  | _ :: value =>
      let key := Text.trim (text.toList.takeWhile (· != '='))
      if key.isEmpty then none
      else some (String.ofList key, String.ofList (Text.trim value))

/-- A value for an option that has none yet. -/
def once {α : Type} (held new : Option α) : Option (Option α) :=
  match held, new with
  | none, some value => some (some value)
  | _, _ => none

/-- Give an option its value. -/
def give (draft : Draft) (switch : Switch) (text : String) : Option Draft :=
  match switch with
  | .config => (once draft.config (path? text)).map fun config => { draft with config }
  | .verbosity =>
      (once draft.verbosity (some text)).map fun verbosity => { draft with verbosity }
  | .workers => (once draft.workers (number? text)).map fun workers => { draft with workers }
  | .events => (once draft.events (number? text)).map fun events => { draft with events }
  | .override =>
      (override? text).map fun entry =>
        { draft with overrides := draft.overrides ++ [entry] }
  | .logFile => (once draft.logFile (path? text)).map fun logFile => { draft with logFile }

/-- What is to be done after the last word. -/
def finish (draft : Draft) : Invocation :=
  match draft.config with
  | none => .invalid
  | some config =>
      .run ⟨config, draft.verbosity, draft.workers, draft.events, draft.overrides,
        draft.logFile, draft.timestamps⟩

end Draft

namespace Invocation

/-- Read the words from left to right.  `pending` is an option whose value is the
next word. -/
def readWords (pending : Option Switch) (draft : Draft) : List String → Invocation
  | [] => if pending.isSome then .invalid else draft.finish
  | text :: rest =>
      match pending, Word.ofString text with
      | some switch, .value value =>
          match draft.give switch value with
          | some draft => readWords none draft rest
          | none => .invalid
      | none, .option switch (some value) =>
          match draft.give switch value with
          | some draft => readWords none draft rest
          | none => .invalid
      | none, .option switch none => readWords (some switch) draft rest
      | none, .noTimestamps =>
          if draft.timestamps then readWords none { draft with timestamps := false } rest
          else .invalid
      | none, .help => .help
      | none, .endOfOptions => if rest.isEmpty then draft.finish else .invalid
      | _, _ => .invalid

/-- What the words of the command line ask for. -/
def ofWords (words : List String) : Invocation :=
  readWords none .empty words

end Invocation

end DetectorSim.CommandLine
