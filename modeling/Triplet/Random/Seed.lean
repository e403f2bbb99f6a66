import Triplet.Value

/-! # Seeds

A seed is a natural number of any size. Its 32-bit words are hashed into a pool of four, every word
of which depends on the whole seed, and the pool gives the words that set up a generator.
-/

namespace Triplet.Random

/-- The words of a seed, the least significant first. -/
def seedWords (seed : Nat) : List UInt32 :=
  if seed < 0x100000000 then [seed.toUInt32]
  else seed.toUInt32 :: seedWords (seed / 0x100000000)
decreasing_by omega

/-- Fold the upper half of a word onto the lower. -/
def foldDown (v : UInt32) : UInt32 := v ^^^ (v >>> 16)

/-- Hash a word; the key changes with every use. -/
def hash (v : UInt32) : StateM UInt32 UInt32 := fun key =>
  let next := key * 0x931e8875
  (foldDown ((v ^^^ key) * next), next)

def mix (x y : UInt32) : UInt32 := foldDown (0xca01f9dd * x - 0x4973f715 * y)

abbrev Pool := Vector UInt32 4

/-- Mix a word into the places of a pool that satisfy a condition. -/
def absorb (places : Fin 4 → Bool) (word : UInt32) (pool : Pool) : StateM UInt32 Pool :=
  (List.finRange 4).foldlM (fun pool i =>
    if places i then return pool.set i (mix pool[i] (← hash word)) else return pool) pool

/-- The pool of a seed. -/
def poolOfSeed (seed : Nat) : Pool :=
  let words := seedWords seed
  let build : StateM UInt32 Pool := do
    let pool ← Vector.ofFnM fun i : Fin 4 => hash (words.getD i 0)
    let pool ← (List.finRange 4).foldlM (fun pool i => absorb (· ≠ i) pool[i] pool) pool
    (words.drop 4).foldlM (fun pool w => absorb (fun _ => true) w pool) pool
  (build.run 0x43b0d7e5).1

/-- The first words that a pool gives, each hashed with a key of its own. -/
def poolWords (pool : Pool) (count : Nat) : List UInt32 :=
  let word (i : Nat) : StateM UInt32 UInt32 := fun key =>
    let next := key * 0x58f38ded
    (foldDown ((pool[i % 4] ^^^ key) * next), next)
  (((List.range count).mapM word).run 0x8b51f9dd).1

/-- Why a value is no seed. -/
inductive SeedError where
  | negative
  | wrongKind
  deriving DecidableEq, Repr

def SeedError.message? : SeedError → Option String
  | negative => some "expected non-negative integer"
  | wrongKind => none

/-- Read a seed; where none is given, take the one at hand. -/
def readSeed (atHand : Nat) : Value → Except SeedError Nat
  | .missing => .ok atHand
  | .truth b => .ok b.toNat
  | .int n => if n < 0 then .error .negative else .ok n.toNat
  | _ => .error .wrongKind

end Triplet.Random
