import Std.Data.HashMap.Basic
import ProgramOutline.Unicode.Utf8

/-!
# Matching programs

A matching program reads a text byte by byte and moves between numbered states. Here a program is
only measured: `Program.Extent` counts its states and the bytes that they take. A state takes
`stateBytes`, and more if it leads to several others.

The states of a character set depend on their numbers. A set shares states that lead to the same
places, but finds them again only as long as no other state takes their slot in a table of bounded
size, and the slot is a hash of the numbers. So states are numbered as they are made.
-/

namespace ProgramOutline.Regex.Program

/-- The bytes that every state takes. -/
def stateBytes : Nat := 32

/-- The bytes of an edge of a state that tells bytes apart. -/
def edgeBytes : Nat := 8

/-- The bytes of an edge of a state that does not read. -/
def linkBytes : Nat := 4

/-- The number of states made so far, and the bytes that they take. The next state has the number
    `states`. -/
structure Extent where
  states : Nat
  bytes : Nat

namespace Extent

/-- Makes a state with extra bytes for its edges. -/
def push (x : Extent) (extra : Nat) : Extent := ⟨x.states + 1, x.bytes + stateBytes + extra⟩

/-- Both extents together. -/
def add (x y : Extent) : Extent := ⟨x.states + y.states, x.bytes + y.bytes⟩

end Extent

/-! ## Slots -/

/-- Takes a number into a hash. -/
def absorb (hash : UInt64) (n : Nat) : UInt64 := (hash ^^^ n.toUInt64) * 0x100000001B3

/-- The hash of nothing. -/
def hashStart : UInt64 := 0xCBF29CE484222325

/-! ## Sets read forwards -/

/-- An edge: the first and the last byte that it reads, and the number of the state it leads to. -/
structure Edge where
  lo : Nat
  hi : Nat
  target : Nat
  deriving DecidableEq

/-- Takes an edge into a hash. -/
def Edge.absorb (hash : UInt64) (e : Edge) : UInt64 :=
  Program.absorb (Program.absorb (Program.absorb hash e.lo) e.hi) e.target

/-- A state whose edges are still being collected. The last one leads to the open state after this
    one. -/
structure OpenState where
  edges : List Edge
  last : Option (Nat × Nat)

/-- The state when its last edge leads to `target`. -/
def OpenState.settle (s : OpenState) (target : Nat) : List Edge :=
  match s.last with
  | some (lo, hi) => s.edges ++ [⟨lo, hi, target⟩]
  | none => s.edges

/-- States made for a set: their extent, and for each slot the last state in it. -/
structure Forward where
  extent : Extent
  made : Std.HashMap Nat (List Edge × Nat) := ∅

namespace Forward

/-- The number of slots. -/
def slots : Nat := 10000

/-- Makes a state with the given edges and puts it in a slot. -/
def make (f : Forward) (place : Nat) (edges : List Edge) : Nat × Forward :=
  (f.extent.states,
    ⟨f.extent.push (edgeBytes * edges.length), f.made.insert place (edges, f.extent.states)⟩)

/-- The number of a state with the given edges, which is made unless it is in its slot. -/
def state (f : Forward) (edges : List Edge) : Nat × Forward :=
  let place := (edges.foldl Edge.absorb hashStart).toNat % slots
  match f.made[place]? with
  | some (known, number) => if known = edges then (number, f) else f.make place edges
  | none => f.make place edges

/-- Makes the open states, last first. The last one leads to `target`. -/
def close (f : Forward) (target : Nat) : List OpenState → Nat × Forward
  | [] => (target, f)
  | s :: deeper =>
    let (next, f) := f.close target deeper
    f.state (s.settle next)

/-- Adds a sequence to the open states, of which those are kept that it shares with the sequence
    before. -/
def add (f : Forward) (target : Nat) :
    List OpenState → Unicode.ByteSequence → List OpenState × Forward
  | s :: deeper, range :: rest =>
    if s.last = some range then
      let (deeper, f) := f.add target deeper rest
      (s :: deeper, f)
    else
      let (next, f) := f.close target deeper
      (⟨s.settle next, some range⟩ :: rest.map (fun range => ⟨[], some range⟩), f)
  | states, _ => (states, f)

end Forward

/-- Makes the states of a set that is read forwards, given by its sequences. -/
def forwardSet (x : Extent) (sequences : List Unicode.ByteSequence) : Extent :=
  let target := x.states
  let (states, f) := sequences.foldl
    (fun (states, f) sequence => f.add target states sequence)
    ([(⟨[], none⟩ : OpenState)], ({ extent := x.push 0 } : Forward))
  (f.close target states).2.extent

/-! ## Sets read backwards -/

/-- States made for a set that is read backwards: their extent, and for each slot the last state in
    it, with the state it leads to and the bytes it reads. -/
structure Backward where
  extent : Extent
  made : Std.HashMap Nat (Edge × Nat) := ∅

namespace Backward

/-- The number of slots. -/
def slots : Nat := 1000

/-- Makes a state with one edge and puts it in a slot. -/
def make (b : Backward) (place : Nat) (edge : Edge) : Nat × Backward :=
  (b.extent.states, ⟨b.extent.push 0, b.made.insert place (edge, b.extent.states)⟩)

/-- The number of a state that reads a byte and leads to `target`, which is made unless it is in
    its slot. -/
def state (b : Backward) (target : Nat) (range : Nat × Nat) : Nat × Backward :=
  let edge : Edge := ⟨range.1, range.2, target⟩
  let place := (absorb (absorb (absorb hashStart target) edge.lo) edge.hi).toNat % slots
  match b.made[place]? with
  | some (known, number) => if known = edge then (number, b) else b.make place edge
  | none => b.make place edge

/-- Adds a sequence that ends in `target`, and a link to it. -/
def add (b : Backward) (target : Nat) (sequence : Unicode.ByteSequence) : Backward :=
  let (_, b) := sequence.foldl (fun (target, b) range => b.state target range) (target, b)
  { b with extent := b.extent.add ⟨0, linkBytes⟩ }

end Backward

/-- Makes the states of a set that is read backwards, given by its sequences. -/
def backwardSet (x : Extent) (sequences : List Unicode.ByteSequence) : Extent :=
  let target := x.states + 1
  (sequences.foldl (fun b sequence => b.add target sequence)
    ({ extent := (x.push 0).push 0 } : Backward)).extent

end ProgramOutline.Regex.Program
