import DetectorSim.Text.Literal

/-!
# Errors

Everything that can go wrong in a simulation is one of the causes below.  A
cause that arises inside a module instance is wrapped with the name of the
instance and the phase of its life; wrappers nest, and the category of a
wrapped error is that of its innermost cause.
-/

set_option autoImplicit false

namespace DetectorSim

/-- The part of the program that an error is laid to. -/
inductive Category where
  /-- Malformed or ambiguous configuration, or inputs wired so that one slot
  gets two messages in one event. -/
  | configuration
  /-- A module type that is not there. -/
  | library
  /-- A failure while events are processed. -/
  | runtime
  /-- A breach of contract by a module or by the caller. -/
  | logic
  deriving DecidableEq, Repr, Inhabited

/-- The category as one word. -/
def Category.label : Category → String
  | .configuration => "Configuration"
  | .library => "Library"
  | .runtime => "Runtime"
  | .logic => "Logic"

/-- The phases in the life of a module instance. -/
inductive Phase where
  | construction
  | init
  | threadInit
  | run
  | threadFinalize
  | finalize
  deriving DecidableEq, Repr, Inhabited

namespace Phase

/-- The phase as the user reads it. -/
def label : Phase → String
  | .construction => "construction"
  | .init => "init"
  | .threadInit => "thread initialization"
  | .run => "run"
  | .threadFinalize => "thread finalization"
  | .finalize => "finalize"

end Phase

/-- Failures of the file system. -/
inductive FileError where
  | notFound
  | isDirectory
  | notDirectory
  | invalidText
  | nameTooLong
  | nulInPath
  | other (text : String)
  deriving DecidableEq, Repr, Inhabited

namespace FileError

/-- The failure as the user reads it. -/
def message : FileError → String
  | .notFound => "No such file or directory (os error 2)"
  | .isDirectory => "Is a directory (os error 21)"
  | .notDirectory => "Not a directory (os error 20)"
  | .invalidText => "stream did not contain valid UTF-8"
  | .nameTooLong => "File name too long (os error 36)"
  | .nulInPath => "file name contained an unexpected NUL byte"
  | .other text => text

end FileError

/-- The causes of failure. -/
inductive Error where
  | malformedLine (file : String) (line : Nat)
  | missingKey (sectionName key : String)
  | invalidValue (sectionName key value reason : String)
  | ambiguousInstance (module detector : String)
  | detectorNotFound (name : String)
  | detectorTypeNotFound (type : String)
  | duplicateDetector (name : String)
  | threadUnsafe (modules : List String)
  | moduleNotFound (name : String)
  | duplicateModule (name : String)
  | collectionNotFound (name : String)
  | messageOverwrite (module messageType : String) (event : Nat)
  | inModule (module : String) (phase : Phase) (source : Error)
  | runtime (text : String)
  | logic (text : String)
  | aborted
  | fileError (error : FileError)
  deriving DecidableEq, Repr, Inhabited

namespace Error

/-- The category of an error. -/
def category : Error → Category
  | .malformedLine .. => .configuration
  | .missingKey .. => .configuration
  | .invalidValue .. => .configuration
  | .ambiguousInstance .. => .configuration
  | .detectorNotFound _ => .configuration
  | .detectorTypeNotFound _ => .configuration
  | .duplicateDetector _ => .configuration
  | .threadUnsafe _ => .configuration
  | .messageOverwrite .. => .configuration
  | .moduleNotFound _ => .library
  | .duplicateModule _ => .library
  | .collectionNotFound _ => .library
  | .inModule _ _ source => source.category
  | .runtime _ => .runtime
  | .aborted => .runtime
  | .fileError _ => .runtime
  | .logic _ => .logic

/-- The innermost cause of an error. -/
def cause : Error → Error
  | .inModule _ _ source => source.cause
  | err => err

/-- The error as the user reads it. -/
def message : Error → String
  | .malformedLine file line =>
      s!"could not parse line {line} in file '{file}'"
  | .missingKey sectionName key =>
      s!"key '{key}' in section '{sectionName}' does not exist"
  | .invalidValue sectionName key value reason =>
      s!"value '{value}' of key '{key}' in section '{sectionName}' is not valid: {reason}"
  | .ambiguousInstance module detector =>
      s!"module {module} is instantiated more than once with the same priority for '{detector}'"
  | .detectorNotFound name => s!"detector '{name}' is not defined"
  | .detectorTypeNotFound type => s!"no detectors of type '{type}' are defined"
  | .duplicateDetector name => s!"detector '{name}' is defined more than once"
  | .threadUnsafe modules =>
      s!"modules {Text.literalList modules} are not thread-safe but multithreading was requested"
  | .moduleNotFound name =>
      s!"module library '{name}' could not be found in the registry"
  | .duplicateModule name => s!"module '{name}' is registered more than once"
  | .collectionNotFound name => s!"module collection '{name}' is not known"
  | .messageOverwrite module messageType event =>
      s!"message of type {messageType} dispatched twice to single-bound module {module}"
        ++ s!" in event {event}"
  | .inModule module phase source =>
      s!"module {module} failed during {phase.label}: " ++ source.message
  | .runtime text => text
  | .logic text => text
  | .aborted => "run aborted after a failure in another event"
  | .fileError error => "I/O error: " ++ error.message

/-- The category of an error is that of its innermost cause. -/
theorem category_cause (err : Error) : err.cause.category = err.category := by
  induction err with
  | inModule module phase source ih => simpa [cause, category] using ih
  | _ => rfl

end Error

end DetectorSim
