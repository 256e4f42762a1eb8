/-!
# The key stream

A block cipher in counter mode with four double rounds turns a 64-bit seed into an endless row of
32-bit words. The state of the cipher is a square of sixteen words: four constants, the key of eight
words, a 64-bit block counter and two words of zero.
-/

namespace RowParity.Random

abbrev Key := Vector UInt32 8

abbrev Block := Vector UInt32 16

/-- The word with its bits moved up by `n` places, those that leave coming back below. -/
def rotateLeft (x : UInt32) (n : UInt32) : UInt32 :=
  (x <<< n) ||| (x >>> (32 - n))

/-- One step of the key expansion: the next state of a congruential generator. -/
def advanceSeed (s : UInt64) : UInt64 :=
  s * 6364136223846793005 + 11634580027462260723

/-- The word that a state of the key expansion yields: a shifted mix, rotated by its top bits. -/
def seedWord (s : UInt64) : UInt32 :=
  let mixed := (((s >>> 18) ^^^ s) >>> 27).toUInt32
  let turn := (s >>> 59).toUInt32
  (mixed >>> turn) ||| (mixed <<< ((32 - turn) &&& 31))

/-- The words of the key expansion from the state `s` on. -/
def seedWords : Nat → UInt64 → List UInt32
  | 0, _ => []
  | n + 1, s => seedWord (advanceSeed s) :: seedWords n (advanceSeed s)

theorem length_seedWords (n : Nat) (s : UInt64) : (seedWords n s).length = n := by
  induction n generalizing s with
  | zero => rfl
  | succ n ih => simp [seedWords, ih]

def Key.ofSeed (seed : UInt64) : Key :=
  ⟨(seedWords 8 seed).toArray, by simp [length_seedWords]⟩

def quarterRound (b : Block) (i j k l : Fin 16) : Block :=
  let a := b[i] + b[j]
  let d := rotateLeft (b[l] ^^^ a) 16
  let c := b[k] + d
  let e := rotateLeft (b[j] ^^^ c) 12
  let a := a + e
  let d := rotateLeft (d ^^^ a) 8
  let c := c + d
  let e := rotateLeft (e ^^^ c) 7
  (((b.set i a).set j e).set k c).set l d

/-- Mixes the columns of the square and then its diagonals. -/
def doubleRound (b : Block) : Block :=
  let b := quarterRound b 0 4 8 12
  let b := quarterRound b 1 5 9 13
  let b := quarterRound b 2 6 10 14
  let b := quarterRound b 3 7 11 15
  let b := quarterRound b 0 5 10 15
  let b := quarterRound b 1 6 11 12
  let b := quarterRound b 2 7 8 13
  quarterRound b 3 4 9 14

def initialBlock (key : Key) (counter : UInt64) : Block :=
  #v[0x61707865, 0x3320646E, 0x79622D32, 0x6B206574,
    key[0], key[1], key[2], key[3], key[4], key[5], key[6], key[7],
    counter.toUInt32, (counter >>> 32).toUInt32, 0, 0]

/-- The block of the key stream with the given number. -/
def keyBlock (key : Key) (counter : UInt64) : Block :=
  let start := initialBlock key counter
  let mixed := doubleRound (doubleRound (doubleRound (doubleRound start)))
  Vector.zipWith (· + ·) mixed start

/-- The word of the key stream at a position. -/
def keyWord (key : Key) (position : Nat) : UInt32 :=
  (keyBlock key (UInt64.ofNat (position / 16))).get ⟨position % 16, Nat.mod_lt _ (by decide)⟩

end RowParity.Random
