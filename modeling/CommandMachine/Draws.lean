namespace CommandMachine

/-!
Sources of draws.  A draw is a word of sixty-four bits.  Most sources run through
a fixed sequence that their seed decides; a script gives the draws it was told.
-/

/-- A generator of draws that is fully decided by its seed.  Its state moves on by
an odd constant, and each draw is a mixture of the state's bits. -/
structure SplitMix where
  state : UInt64
deriving DecidableEq, Repr

namespace SplitMix

/-- The constant by which the state moves on. -/
def gamma : UInt64 := 0x9e3779b97f4a7c15

/-- The generator of a seed.  Seed zero stands for the constant. -/
def ofSeed (seed : UInt64) : SplitMix :=
  ⟨if seed = 0 then gamma else seed⟩

def mix (state : UInt64) : UInt64 :=
  let first := (state ^^^ (state >>> 30)) * 0xbf58476d1ce4e5b9
  let second := (first ^^^ (first >>> 27)) * 0x94d049bb133111eb
  second ^^^ (second >>> 31)

def advance (generator : SplitMix) : SplitMix :=
  ⟨generator.state + gamma⟩

def next (generator : SplitMix) : UInt64 × SplitMix :=
  (mix generator.advance.state, generator.advance)

end SplitMix

/-- Where an engine gets its draws from. -/
inductive FaultSource where
  /-- A generator. -/
  | generated (generator : SplitMix)
  /-- Draws told in advance.  The last of them is given again and again. -/
  | scripted (draw : UInt64) (later : List UInt64)
deriving DecidableEq, Repr

namespace FaultSource

def ofSeed (seed : UInt64) : FaultSource :=
  .generated (.ofSeed seed)

def next : FaultSource → UInt64 × FaultSource
  | .generated generator => (generator.next.1, .generated generator.next.2)
  | .scripted draw [] => (draw, .scripted draw [])
  | .scripted draw (later :: rest) => (draw, .scripted later rest)

/-- Half a draw: the upper half of a generated one and the lower half of a scripted
one. -/
def nextHalf (source : FaultSource) : UInt32 × FaultSource :=
  let (draw, after) := source.next
  match source with
  | .generated _ => ((draw >>> 32).toUInt32, after)
  | .scripted _ _ => (draw.toUInt32, after)

/-- A number from zero on and below one, made of the upper fifty-three bits of a
draw. -/
def uniform (source : FaultSource) : Float × FaultSource :=
  let (draw, after) := source.next
  ((draw >>> 11).toFloat * Float.ofBits 0x3ca0000000000000, after)

/-- A source for another engine.  It takes one draw as its seed. -/
def fork (source : FaultSource) : FaultSource × FaultSource :=
  let (draw, after) := source.next
  (ofSeed draw, after)

/-- The bytes of a number, least significant first. -/
def littleEndian (number : Nat) : (count : Nat) → List UInt8
  | 0 => []
  | count + 1 => UInt8.ofNat (number % 256) :: littleEndian (number / 256) count

/-- The number of some bytes, least significant first. -/
def ofLittleEndian : List UInt8 → Nat
  | [] => 0
  | byte :: rest => byte.toNat + 256 * ofLittleEndian rest

/-- The source of a seed that is given as bytes. -/
def ofSeedBytes (bytes : List UInt8) : FaultSource :=
  ofSeed (UInt64.ofNat (ofLittleEndian bytes))

/-- A row of bytes.  Whole draws give eight bytes each; a rest of more than four
bytes takes one more draw, a shorter one half a draw. -/
def fill (source : FaultSource) (count : Nat) : List UInt8 × FaultSource :=
  if 8 ≤ count then
    let (draw, after) := source.next
    let (bytes, last) := after.fill (count - 8)
    (littleEndian draw.toNat 8 ++ bytes, last)
  else if 4 < count then
    let (draw, after) := source.next
    (littleEndian draw.toNat count, after)
  else if 0 < count then
    let (half, after) := source.nextHalf
    (littleEndian half.toNat count, after)
  else ([], source)
termination_by count

end FaultSource

/-- How often a check for a passing fault fails, how often it is repeated, and how
long to wait in between, in microseconds. -/
structure PingPolicy where
  probability : Float
  maxRetries : Nat
  backoff : Nat
deriving DecidableEq

namespace PingPolicy

/-- The policy where none is asked for. -/
def standard : PingPolicy :=
  ⟨0.05, 3, 1000⟩

/-- Whether a check fails.  A probability of zero or one decides without a draw. -/
def signals (policy : PingPolicy) (source : FaultSource) : Bool × FaultSource :=
  if policy.probability <= 0.0 then (false, source)
  else if policy.probability >= 1.0 then (true, source)
  else
    let (number, after) := source.uniform
    (number < policy.probability, after)

/-- Whether each of some checks in a row fails. -/
def signalsMany (policy : PingPolicy) (source : FaultSource) : Nat → List Bool × FaultSource
  | 0 => ([], source)
  | count + 1 =>
    let (failed, after) := policy.signals source
    let (later, last) := policy.signalsMany after count
    (failed :: later, last)

end PingPolicy
end CommandMachine
