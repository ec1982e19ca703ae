import DetectorSim.Log
import DetectorSim.Text.Blank

/-!
# Filters for the log

A filter lets records of a level or a more severe one pass.  It is written as a
list of levels, separated by commas; the last one counts.  A level may be given
for one target alone, and a target without a level means all levels.  After a
slash stands a text that a record has to contain.
-/

set_option autoImplicit false

namespace DetectorSim.CommandLine

/-- The target of all records of the program. -/
def target : String := "pixsim"

/-- The greatest rank that passes for some targets. -/
structure Directive where
  /-- How the names of the targets start. -/
  start : String
  rank : Nat
  deriving DecidableEq, Repr, Inhabited

/-- A filter for log records. -/
structure LogFilter where
  directives : List Directive
  /-- What a record has to contain. -/
  contained : String
  deriving DecidableEq, Repr, Inhabited

namespace LogFilter

/-- The rank of the least severe level. -/
def greatestRank : Nat := Level.trace.rank

/-- The rank up to which records of a given level pass. -/
def rankOf? (name : String) : Option Nat :=
  if name.toList.map Char.toLower == "off".toList then some 0
  else (Level.ofName? name).map Level.rank

/-- A note that a part of a filter makes no sense. -/
def warning (part : String) : String :=
  s!"warning: invalid logging spec '{part}', ignoring it"

/-- Read one part of a filter. -/
def readDirective (part : String) : Except String Directive :=
  match part.splitOn "=" with
  | [name] =>
      match rankOf? name with
      | some rank => .ok ⟨"", rank⟩
      | none => .ok ⟨name, greatestRank⟩
  | [name, level] =>
      let level := Text.trimString level
      if level.isEmpty then .ok ⟨name, greatestRank⟩
      else
        match rankOf? level with
        | some rank => .ok ⟨name, rank⟩
        | none => .error (warning level)
  | _ => .error (warning part)

/-- Read the parts of a filter, with notes on those that make no sense. -/
def readDirectives : List String → List Directive × List String
  | [] => ([], [])
  | part :: rest =>
      let (directives, warnings) := readDirectives rest
      if part.isEmpty then (directives, warnings)
      else
        match readDirective part with
        | .ok directive => (directive :: directives, warnings)
        | .error text => (directives, text :: warnings)

/-- Read a filter, with notes on what makes no sense. -/
def read (text : String) : LogFilter × List String :=
  let ofParts (levels contained : String) : LogFilter × List String :=
    let (directives, warnings) :=
      readDirectives ((levels.splitOn ",").map Text.trimString)
    (⟨directives, contained⟩, warnings)
  match text.splitOn "/" with
  | [levels] => ofParts levels ""
  | [levels, contained] => ofParts levels contained
  | _ => (⟨[], ""⟩, [warning text ++ " (too many '/'s)"])

/-- Whether a directive is for the records of the program. -/
def concerns (directive : Directive) : Bool :=
  directive.start.toList.isPrefixOf target.toList

/-- The rank up to which records pass.  The directive with the longest name
counts, and the last one of those; a filter without directives lets errors
pass. -/
def rank (filter : LogFilter) : Nat :=
  match filter.directives with
  | [] => Level.error.rank
  | _ =>
      ((filter.directives.filter concerns).foldl
        (fun best directive =>
          if best.start.length ≤ directive.start.length then directive else best)
        ⟨"", 0⟩).rank

/-- Whether a record passes. -/
def passes (filter : LogFilter) (record : Record) : Bool :=
  record.level.rank ≤ filter.rank
    && (filter.contained.isEmpty || (record.text.splitOn filter.contained).length != 1)

end LogFilter

end DetectorSim.CommandLine
