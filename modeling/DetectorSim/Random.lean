/-!
# Random numbers

Every event has a stream of random words of its own.  Its seed depends on the
seed of the run and on the number of the event only, so the numbers do not
depend on the worker that processes the event.  Where the words come from is
a parameter; `mixedWords` is the source that programs use.
-/

set_option autoImplicit false

namespace DetectorSim

/-- The odd constant that spreads event numbers over all seeds. -/
def seedStride : UInt64 :=
  0x9E3779B97F4A7C15

/-- The seed of an event. -/
def eventSeed (runSeed event : UInt64) : UInt64 :=
  runSeed + event * seedStride

/-- For each seed, an endless stream of words. -/
abbrev RandomSource : Type :=
  UInt64 → Nat → UInt64

/-- Scatter the bits of a word. -/
def scatter (word : UInt64) : UInt64 :=
  let first := (word ^^^ (word >>> 30)) * 0xBF58476D1CE4E5B9
  let second := (first ^^^ (first >>> 27)) * 0x94D049BB133111EB
  second ^^^ (second >>> 31)

/-- Words that are scattered steps from the scattered seed. -/
def mixedWords : RandomSource := fun seed index =>
  scatter (scatter seed + UInt64.ofNat (index + 1) * seedStride)

/-- A stream of which some words were already taken. -/
structure RandomStream where
  words : Nat → UInt64
  used : Nat

namespace RandomStream

/-- The stream of an event. -/
def forEvent (source : RandomSource) (runSeed : UInt64) (event : Nat) : RandomStream :=
  ⟨source (eventSeed runSeed (UInt64.ofNat event)), 0⟩

/-- Take the next word. -/
def next (stream : RandomStream) : UInt64 × RandomStream :=
  (stream.words stream.used, { stream with used := stream.used + 1 })

/-- The first words of a stream. -/
def firstWords (stream : RandomStream) (count : Nat) : List UInt64 :=
  (List.range count).map fun index => stream.words (stream.used + index)

end RandomStream

end DetectorSim
