/-!
A permuted congruential generator with 128 bits of state: a multiplication and an addition modulo `2^128`
move the state, and a mix of its two halves is the output.
-/

namespace KernelForge

/-- The state of the generator, below `2^128`. -/
structure RandomState where
  state : Nat
  deriving DecidableEq, Repr

namespace RandomState

/-- The number of states. -/
def modulus : Nat := UInt64.size * UInt64.size

/-- The state for a seed: the seed is the upper half. -/
def ofSeed (seed : UInt64) : RandomState :=
  ⟨seed.toNat * UInt64.size⟩

/-- The next state. -/
def step (random : RandomState) : RandomState :=
  ⟨(random.state * 0x2360ed051fc65da44385df649fccf645 + 0x5851f42d4c957f2d14057b7ef767814f) % modulus⟩

/-- The word that a state gives. -/
def output (random : RandomState) : UInt64 :=
  let high := UInt64.ofNat (random.state / UInt64.size)
  let low := UInt64.ofNat (random.state % UInt64.size)
  let folded := (high ^^^ (high >>> 32)) * 0xda942042e4dd58b5
  (folded ^^^ (folded >>> 48)) * (low ||| 1)

/-- A number from zero up to one, with 24 bits. -/
def nextSingle (random : RandomState) : Float32 × RandomState :=
  let next := random.step
  let bits := (next.output >>> 32) &&& 0xFFFFFF
  (Float32.ofNat bits.toNat / 16777216, next)

/-- Several numbers from minus one up to one. -/
def singles (random : RandomState) (count : Nat) : Array Float32 × RandomState :=
  (List.range count).foldl (fun (held, state) _ =>
    let (value, next) := state.nextSingle
    (held.push (value * 2 - 1), next)) (Array.emptyWithCapacity count, random)

end RandomState

end KernelForge
