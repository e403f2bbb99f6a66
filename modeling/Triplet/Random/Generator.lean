import Triplet.Random.Seed

/-! # Random draws

A generator is a linear congruence on 128 bits with a permuted output of 64 bits. A draw of 32 bits
takes half of an output and leaves the other half for the next such draw.
-/

namespace Triplet.Random

structure Generator where
  state : BitVec 128
  increment : BitVec 128
  spare? : Option UInt32
  deriving DecidableEq

/-- A computation that draws random numbers. -/
abbrev Draw := StateM Generator

namespace Generator

def multiplier : BitVec 128 := 0xda942042e4dd58b5#128

/-- Join two pairs of words, the upper pair first and in each pair the lower word first. -/
def wide (a b c d : UInt32) : BitVec 128 :=
  .ofNat 128 (((b.toNat * 0x100000000 + a.toNat) * 0x100000000 + d.toNat) * 0x100000000 + c.toNat)

/-- Set up a generator from eight words. -/
def ofWords : List UInt32 → Generator
  | [a, b, c, d, e, f, g, h] =>
    let increment := (wide e f g h <<< 1) ||| 1
    let first := 0x2360ed051fc65da44385df649fccf645#128
    ⟨(increment + wide a b c d) * first + increment, increment, none⟩
  | _ => ⟨0, 1, none⟩

def ofSeed (seed : Nat) : Generator := ofWords (poolWords (poolOfSeed seed) 8)

/-- The output of a state: its upper half, permuted under its lower half. -/
def output (state : BitVec 128) : UInt64 :=
  let hi := (state >>> 64).toNat.toUInt64
  let lo := state.toNat.toUInt64 ||| 1
  let hi := hi ^^^ (hi >>> 32)
  let hi := hi * multiplier.toNat.toUInt64
  let hi := hi ^^^ (hi >>> 48)
  hi * lo

/-- Draw 64 bits. -/
def next64 : Draw UInt64 := fun g =>
  (output g.state, { g with state := g.state * multiplier + g.increment })

/-- Draw 32 bits: the half that is left over, or else the lower half of a new output. -/
def next32 : Draw UInt32 := fun g =>
  match g.spare? with
  | some x => (x, { g with spare? := none })
  | none =>
    let (x, g) := next64 g
    (x.toUInt32, { g with spare? := some (x >>> 32).toUInt32 })

end Generator

open Generator

/-- How often a draw is repeated at most; each is refused with a chance below one half. -/
def attempts : Nat := 256

/-- Draw until the product of 32 bits and `n` has a lower half of at least `least`. -/
def product (n least : Nat) : Nat → Draw Nat
  | 0 => return (← next32).toNat * n
  | fuel + 1 => do
    let m := (← next32).toNat * n
    if m % 0x100000000 < least then product n least fuel else return m

/-- Draw a number below `n`, each with the same chance. Below one there is nothing to draw. -/
def below (n : Nat) : Draw Nat :=
  if n ≤ 1 then return 0 else return (← product n ((0x100000000 - n) % n) attempts) / 0x100000000

/-- Draw the numerator of a fraction with the denominator `2 ^ 53`. -/
def numerator : Draw Nat := return (← next64).toNat / Nat.pow 2 11

/-- Draw a double from zero to below one. -/
def fraction : Draw Float := return Dyadic.ofRatio false (← numerator) (Nat.pow 2 53)

/-- Draw heads or tails: heads if a fraction is below one half. -/
def coin : Draw Bool := return (← numerator) < Nat.pow 2 52

/-- Draw a double between two bounds. -/
def uniform (lo hi : Float) : Draw Float := return lo + (hi - lo) * (← fraction)

/-- Draw a number of times. -/
def many {α : Type} (count : Nat) (draw : Draw α) : Draw (List α) :=
  match count with
  | 0 => return []
  | n + 1 => do
    let a ← draw
    return a :: (← many n draw)

/-- Draw one item of a list that has a first item. -/
def choice {α : Type} (first : α) (rest : List α) : Draw α :=
  return (first :: rest).getD (← below (rest.length + 1)) first

theorem run_product_succ (n least fuel : Nat) (g : Generator) :
    (product n least (fuel + 1)).run g =
      if (next32 g).1.toNat * n % 0x100000000 < least then (product n least fuel).run (next32 g).2
      else ((next32 g).1.toNat * n, (next32 g).2) := by
  change (if (next32 g).1.toNat * n % 0x100000000 < least then product n least fuel
    else pure ((next32 g).1.toNat * n) : Draw Nat) (next32 g).2 = _
  by_cases h : (next32 g).1.toNat * n % 0x100000000 < least
  · simp only [h, ↓reduceIte, StateT.run]
  · simp only [h, ↓reduceIte]
    rfl

theorem product_lt (n least fuel : Nat) (hn : 0 < n) (g : Generator) :
    ((product n least fuel).run g).1 < 0x100000000 * n := by
  have key (w : UInt32) : w.toNat * n < 0x100000000 * n := Nat.mul_lt_mul_of_pos_right w.toNat_lt hn
  induction fuel generalizing g with
  | zero => exact key _
  | succ fuel ih =>
    rw [run_product_succ]
    split
    · exact ih _
    · exact key _

theorem below_lt (n : Nat) (hn : 0 < n) (g : Generator) : ((below n).run g).1 < n := by
  unfold below
  split
  · exact hn
  · exact Nat.div_lt_of_lt_mul (product_lt n ((0x100000000 - n) % n) attempts hn g)

end Triplet.Random
