/-!
The random generator: the ChaCha stream cipher with twelve rounds, keyed from a 64-bit seed.

A generator is a key together with the number of 64-bit words already drawn from its stream, so
what it draws next depends on the seed and on that number alone.
-/

namespace ScriptHost.Random

structure Generator where
  key : Array UInt32
  drawn : Nat
deriving Repr, Inhabited, DecidableEq

/-- The multiplier and the increment of the sequence that spreads a seed over a key. -/
def spreadMultiplier : UInt64 := 6364136223846793005

def spreadIncrement : UInt64 := 11634580027462260723

def rotateRight (word : UInt32) (count : Nat) : UInt32 :=
  let bits := word.toNat
  let count := count % 32
  UInt32.ofNat (bits / Nat.pow 2 count + bits * Nat.pow 2 (32 - count))

def rotateLeft (word : UInt32) (count : Nat) : UInt32 :=
  rotateRight word (32 - count % 32)

def keyWords : Nat → UInt64 → List UInt32
  | 0, _ => []
  | count + 1, state =>
      let state := state * spreadMultiplier + spreadIncrement
      let mixed := (((state >>> 18) ^^^ state) >>> 27).toUInt32
      rotateRight mixed (state >>> 59).toNat :: keyWords count state

def Generator.ofSeed (seed : UInt64) : Generator :=
  ⟨(keyWords 8 seed).toArray, 0⟩

structure Quarter where
  first : Nat
  second : Nat
  third : Nat
  fourth : Nat

/-- Columns, then diagonals. -/
def doubleRound : List Quarter :=
  [⟨0, 4, 8, 12⟩, ⟨1, 5, 9, 13⟩, ⟨2, 6, 10, 14⟩, ⟨3, 7, 11, 15⟩,
   ⟨0, 5, 10, 15⟩, ⟨1, 6, 11, 12⟩, ⟨2, 7, 8, 13⟩, ⟨3, 4, 9, 14⟩]

def mixQuarter (state : Array UInt32) (quarter : Quarter) : Array UInt32 :=
  let a := state.getD quarter.first 0
  let b := state.getD quarter.second 0
  let c := state.getD quarter.third 0
  let d := state.getD quarter.fourth 0
  let a := a + b
  let d := rotateLeft (d ^^^ a) 16
  let c := c + d
  let b := rotateLeft (b ^^^ c) 12
  let a := a + b
  let d := rotateLeft (d ^^^ a) 8
  let c := c + d
  let b := rotateLeft (b ^^^ c) 7
  (((state.setIfInBounds quarter.first a).setIfInBounds quarter.second b).setIfInBounds
    quarter.third c).setIfInBounds quarter.fourth d

def mixRounds : Nat → Array UInt32 → Array UInt32
  | 0, state => state
  | rounds + 1, state => mixRounds rounds (doubleRound.foldl mixQuarter state)

def cipherWords : Array UInt32 :=
  #[0x61707865, 0x3320646e, 0x79622d32, 0x6b206574]

def Generator.block (generator : Generator) (number : Nat) : Array UInt32 :=
  let start := cipherWords ++ generator.key ++
    #[UInt32.ofNat number, UInt32.ofNat (number / UInt32.size), 0, 0]
  (mixRounds 6 start).zipWith (· + ·) start

/-- The next word of the stream, as a number below `2 ^ 64`: two 32-bit words, the low one
first. -/
def Generator.next (generator : Generator) : Nat × Generator :=
  let block := generator.block (generator.drawn / 8)
  let position := 2 * (generator.drawn % 8)
  ((block.getD position 0).toNat + UInt32.size * (block.getD (position + 1) 0).toNat,
    { generator with drawn := generator.drawn + 1 })

end ScriptHost.Random
