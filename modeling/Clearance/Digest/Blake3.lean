import Clearance.Digest.Bytes

/-!
# BLAKE3

The message is cut into chunks of 1024 bytes, each chunk into blocks of 64. The blocks of a chunk
are compressed one after the other, each with the chaining value of the one before. The chunks
are the leaves of a binary tree in which the left side of every parent is a full tree; **pairing
neighbours level by level, an odd last one moving up alone, builds that tree**. A node is kept
uncompressed until it is known whether it is the root, because the root is compressed with a flag
of its own.
-/

set_option autoImplicit false

namespace Clearance
namespace Digest
namespace Blake3

abbrev ChainingValue := Vector UInt32 8
abbrev Words := Vector UInt32 16

def initialValue : ChainingValue :=
  #v[0x6A09E667, 0xBB67AE85, 0x3C6EF372, 0xA54FF53A, 0x510E527F, 0x9B05688C, 0x1F83D9AB, 0x5BE0CD19]

/-- Where each word of the message comes from in the next round. -/
def permutation : Vector (Fin 16) 16 := #v[2, 6, 3, 10, 7, 0, 4, 13, 1, 11, 12, 5, 9, 14, 15, 8]

def chunkStart : UInt32 := 1
def chunkEnd : UInt32 := 2
def parent : UInt32 := 4
def root : UInt32 := 8

/-- Mixes two words of the message into four words of the state. -/
def mix (state : Words) (a b c d : Fin 16) (x y : UInt32) : Words :=
  let va := state[a] + state[b] + x
  let vd := rotateRight (state[d] ^^^ va) 16
  let vc := state[c] + vd
  let vb := rotateRight (state[b] ^^^ vc) 12
  let va := va + vb + y
  let vd := rotateRight (vd ^^^ va) 8
  let vc := vc + vd
  let vb := rotateRight (vb ^^^ vc) 7
  ((((state.set a.val va a.isLt).set b.val vb b.isLt).set c.val vc c.isLt).set d.val vd d.isLt)

/-- One round: the four columns of the state, then its four diagonals. -/
def round (state message : Words) : Words :=
  let state := mix state 0 4 8 12 message[0] message[1]
  let state := mix state 1 5 9 13 message[2] message[3]
  let state := mix state 2 6 10 14 message[4] message[5]
  let state := mix state 3 7 11 15 message[6] message[7]
  let state := mix state 0 5 10 15 message[8] message[9]
  let state := mix state 1 6 11 12 message[10] message[11]
  let state := mix state 2 7 8 13 message[12] message[13]
  mix state 3 4 9 14 message[14] message[15]

def rounds : Nat → Words → Words → Words
  | 0, state, _ => state
  | count + 1, state, message =>
      rounds count (round state message) (permutation.map fun i => message[i])

/-- A node of the tree before its compression. -/
structure Node where
  chaining : ChainingValue
  block : Words
  counter : Nat
  length : Nat
  flags : UInt32

namespace Node

/-- The chaining value that a node gives under some more flags. -/
def compress (node : Node) (flags : UInt32) : ChainingValue :=
  let h := node.chaining
  let v := initialValue
  let start : Words :=
    #v[h[0], h[1], h[2], h[3], h[4], h[5], h[6], h[7], v[0], v[1], v[2], v[3],
      UInt32.ofNat node.counter, UInt32.ofNat (node.counter / 0x100000000), UInt32.ofNat node.length,
      node.flags ||| flags]
  let final := rounds 7 start node.block
  Vector.ofFn fun i => final.get ⟨i.val, by omega⟩ ^^^ final.get ⟨i.val + 8, by omega⟩

def join (left right : Node) : Node where
  chaining := initialValue
  block := left.compress 0 ++ right.compress 0
  counter := 0
  length := 64
  flags := parent

/-- The words of the root as bytes, least significant first. -/
def digest (node : Node) : Digest :=
  ofWords (node.compress root) fun position => UInt32.ofNat (8 * position)

end Node

/-- Four bytes as a word, least significant first. -/
def wordOf (bytes : List UInt8) : UInt32 :=
  bytes.foldr (fun byte word => word * 256 + byte.toUInt32) 0

def blockWords (block : List UInt8) : Words :=
  let words := (blocks 4 16 block).map wordOf
  Vector.ofFn fun i => words.getD i.val 0

/-- The node of the last of some blocks, reached from a chaining value. -/
def chain (counter : Nat) (flags : UInt32) (chaining : ChainingValue) :
    List (List UInt8) → Node
  | [] => ⟨chaining, blockWords [], counter, 0, flags ||| chunkEnd⟩
  | [block] => ⟨chaining, blockWords block, counter, block.length, flags ||| chunkEnd⟩
  | block :: next :: rest =>
      let node : Node := ⟨chaining, blockWords block, counter, block.length, flags⟩
      chain counter 0 (node.compress 0) (next :: rest)

/-- How many blocks of a size hold some bytes; no bytes still take one. -/
def blockCount (size length : Nat) : Nat := max 1 ((length + size - 1) / size)

def ofChunk (counter : Nat) (chunk : List UInt8) : Node :=
  chain counter chunkStart initialValue (blocks 64 (blockCount 64 chunk.length) chunk)

/-- Joins neighbours; an odd last node stays as it is. -/
def pairUp : List Node → List Node
  | left :: right :: rest => left.join right :: pairUp rest
  | nodes => nodes

/-- Joins levels until one node is left. Every level but the last is at least two nodes and at
most half of them, rounded up, are left, so the number of nodes is enough fuel. -/
def tree : Nat → List Node → Node
  | fuel + 1, left :: right :: rest => tree fuel (pairUp (left :: right :: rest))
  | _, node :: _ => node
  | _, [] => ofChunk 0 []

end Blake3

def blake3 (message : List UInt8) : Digest :=
  let chunks := blocks 1024 (Blake3.blockCount 1024 message.length) message
  let nodes := chunks.zipIdx.map fun (chunk, counter) => Blake3.ofChunk counter chunk
  (Blake3.tree nodes.length nodes).digest

end Digest
end Clearance
