import ScriptHost.Random.Generator
import ScriptHost.Decimal.Integer
import ScriptHost.HostValue

/-!
Uniform samples between two bounds.

Bad bounds are refused before anything is drawn, and equal bounds of a range of doubles draw
nothing either. Both samplers draw again while a draw falls outside the accepted range; the number
of attempts is bounded, and after the last one the lower bound is taken.
-/

namespace ScriptHost.Random

/-- Far more draws than rejection can need: each draw is accepted at least every second time. -/
def attempts : Nat := 4096

/-- A double in `[0, 1)` from the upper 52 bits of a word. -/
def unitInterval (word : Nat) : Float :=
  Float.ofBits (UInt64.ofNat (word / Nat.pow 2 12 + 1023 * Nat.pow 2 52)) - 1.0

def sampleFloat (low high : Float) : Nat → Generator → Float × Generator
  | 0, generator => (low, generator)
  | remaining + 1, generator =>
      let (word, generator) := generator.next
      let sample := unitInterval word * (high - low) + low
      if sample < high then (sample, generator) else sampleFloat low high remaining generator

def float (low high : Float) (generator : Generator) : Except Fault (Float × Generator) :=
  if !(high - low).isFinite then
    .error (.domain "random bounds must be finite")
  else if low > high then
    .error (.domain
      ("random bounds are inverted: " ++ Decimal.plain low ++ " > " ++ Decimal.plain high))
  else if low == high then
    .ok (low, generator)
  else
    .ok (sampleFloat low high attempts generator)

/-- Draws a word and multiplies it by the size of the range; the upper half is the offset, and the
lower half must not exceed the zone in which all offsets are equally frequent. -/
def sampleOffset (size zone : Nat) : Nat → Generator → Nat × Generator
  | 0, generator => (0, generator)
  | remaining + 1, generator =>
      let (word, generator) := generator.next
      if word * size % UInt64.size ≤ zone then
        (word * size / UInt64.size, generator)
      else
        sampleOffset size zone remaining generator

/-- The largest multiple of `size` by a power of two below `2 ^ 64`, less one. -/
def acceptanceZone (size : Nat) : Nat :=
  size * Nat.pow 2 (63 - size.log2) - 1

def asSigned (word : Nat) : Int :=
  if word < Nat.pow 2 63 then word else (word : Int) - UInt64.size

def integer (low high : Int) (generator : Generator) : Except Fault (Int × Generator) :=
  if low > high then
    .error (.domain
      ("random_int bounds are inverted: " ++ toString low ++ " > " ++ toString high))
  else
    let size := (high - low + 1).toNat % UInt64.size
    if size = 0 then
      let (word, generator) := generator.next
      .ok (asSigned word, generator)
    else
      let (offset, generator) := sampleOffset size (acceptanceZone size) attempts generator
      .ok (low + offset, generator)

/-- A bound given as a double has to be an integer without rounding. -/
def integerBound (value : Float) (role : String) : Except Fault Int :=
  match Decimal.exactInteger? value with
  | some bound => .ok bound
  | none => .error (.domain (role ++ " must be an integer, got " ++ Decimal.plain value))

def integerBetween (low high : Float) (generator : Generator) :
    Except Fault (Float × Generator) := do
  let low ← integerBound low "min"
  let high ← integerBound high "max"
  let (sample, generator) ← integer low high generator
  return (Float.ofInt sample, generator)

end ScriptHost.Random
