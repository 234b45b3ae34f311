import Pgml.Markup.Intake

/-! How a document that is read block by block reaches the handlers. The events of a block
are delivered once all of the block that can be read makes sense, so a fault hides all events
of its turn and none of the turns before. -/
namespace Pgml.Markup

/-- Bytes in blocks of some size, of which only the last may be smaller. -/
def blocks (size : Nat) (bytes : List UInt8) : List (List UInt8) :=
  if _ : size = 0 ∨ bytes = [] then []
  else bytes.take size :: blocks size (bytes.drop size)
termination_by bytes.length
decreasing_by
  have nonempty : ¬(size = 0 ∨ bytes = []) := ‹_›
  have := List.length_pos_iff.2 fun e => nonempty (.inr e)
  simp only [List.length_drop]; omega

namespace Intake

/-- The intake after a block and the events of the block. A carriage return at its end waits
until the next turn, in which a line feed may follow it. -/
def turn (s : Intake) (block : List UInt8) : Option (Intake × List Event) :=
  if block.getLast? = some Byte.carriageReturn then do
    let (s, events) ← (← s.take? block.dropLast).read false
    return (← s.take? [Byte.carriageReturn], events)
  else do (← s.take? block).read false

/-- The turn of the first block. Its head only tells the encoding, and is not a turn alone. -/
def begin (block : List UInt8) : Option (Intake × List Event) := do
  let s ← initial.take? (block.take headSize)
  let rest := block.drop headSize
  if rest.isEmpty then return (s, []) else s.turn rest

/-- The events that are left when no more blocks come. -/
def finish (s : Intake) : Option (List Event) := do
  let (s, events) ← s.read true
  if s.isComplete then some events else none

end Intake

def unreadable : Feed := ⟨[], [], some (.malformed .unreadable)⟩

def complete (events : List Event) : Feed := ⟨[], events, none⟩

/-- The feed from the outcome of a turn on, with the blocks that are left. -/
def deliver (outcome : Option (Intake × List Event)) (rest : List (List UInt8)) : Feed :=
  match outcome with
  | none => unreadable
  | some (s, events) =>
    let later := match rest with
      | [] => (s.finish.map complete).getD unreadable
      | block :: rest => deliver (s.turn block) rest
    { later with events := events ++ later.events }

/-- The feed of a document that comes in blocks. -/
def feedOf : List (List UInt8) → Feed
  | [] => ⟨[], [], some (.malformed .empty)⟩
  | block :: rest => deliver (Intake.begin block) rest

end Pgml.Markup

namespace Pgml

/-- Sizes of blocks are numbers of 64 bits with a sign. -/
def Feed.isBlockSize (n : Int) : Bool := Int64.minValue.toInt ≤ n && n ≤ Int64.maxValue.toInt

/-- The feed of a document. A negative size stands for a single block, and without any bytes
there is no document. -/
def Feed.ofDocument (bytes : List UInt8) (blockSize : Int) : Feed :=
  if !isBlockSize blockSize then ⟨[], [], some (.badBlockSize blockSize)⟩
  else Markup.feedOf (Markup.blocks (if blockSize < 0 then bytes.length else blockSize.toNat) bytes)

/-- The size of the longest string of bytes. What belongs to the string besides takes 33 bytes of all that
64 bits with a sign can count. -/
def Feed.maxBlockSize : Int := Int64.maxValue.toInt - 33

/-- What keeps a file from being read in blocks of some size, if anything does. A block is made in the given
size, however small the file is, and `memory` is the size of the largest one that can be made. Minus one stands
for a single block. -/
def Feed.blockFault? (memory : Nat) (blockSize : Int) : Option Fault :=
  if !isBlockSize blockSize || maxBlockSize < blockSize then some (.badBlockSize blockSize)
  else if blockSize < -1 then some (.negativeBlockSize blockSize)
  else if memory < blockSize then some (.noMemory blockSize)
  else none

/-- The feed of a document in a file. Whether the blocks can be made shows only when there is a file. -/
def Feed.ofFile (name : String) (content : Option (List UInt8)) (memory : Nat) (blockSize : Int) : Feed :=
  let feed : Feed := match content with
    | none => ⟨[], [], some (.noFile name)⟩
    | some bytes =>
      match blockFault? memory blockSize with
      | some fault => ⟨[], [], some fault⟩
      | none => Feed.ofDocument bytes blockSize
  { feed with opening := [.opening name] }

end Pgml
