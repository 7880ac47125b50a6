import FeatureFixtures.Text.Utf8

/-!
# The hash function BLAKE3

The input is cut into chunks of 1024 bytes, and each chunk into blocks of 64. The blocks of a chunk
are compressed one after the other into its chaining value; the chunks are the leaves of a binary
tree whose left half is always a full one, and the parent of two subtrees compresses their two
chaining values. The last compression, at the root, gives the hash. Flags tell the kinds of blocks
apart.
-/

namespace FeatureFixtures

namespace Blake3

/-- The words of a compression. -/
abbrev Words (n : Nat) := Vector UInt32 n

/-- The chaining value that every chunk begins with. -/
def initial : Words 8 :=
  #v[0x6A09E667, 0xBB67AE85, 0x3C6EF372, 0xA54FF53A, 0x510E527F, 0x9B05688C, 0x1F83D9AB, 0x5BE0CD19]

/-- The flag of the first block of a chunk. -/
def chunkStart : UInt32 := 1

/-- The flag of the last block of a chunk. -/
def chunkEnd : UInt32 := 2

/-- The flag of a parent. -/
def parentFlag : UInt32 := 4

/-- The flag of the last compression. -/
def rootFlag : UInt32 := 8

/-- A word rotated to the right. -/
def rotate (word count : UInt32) : UInt32 :=
  (word >>> count) ||| (word <<< (32 - count))

/-- Mixes two words of a message into four words of the state. -/
def mix (state : Words 16) (a b c d : Fin 16) (x y : UInt32) : Words 16 :=
  let va := state[a] + state[b] + x
  let vd := rotate (state[d] ^^^ va) 16
  let vc := state[c] + vd
  let vb := rotate (state[b] ^^^ vc) 12
  let va := va + vb + y
  let vd := rotate (vd ^^^ va) 8
  let vc := vc + vd
  let vb := rotate (vb ^^^ vc) 7
  (((state.set a va).set b vb).set c vc).set d vd

/-- Mixes a message into the columns and the diagonals of the state. -/
def round (state : Words 16) (m : Words 16) : Words 16 :=
  let state := mix state 0 4 8 12 m[0] m[1]
  let state := mix state 1 5 9 13 m[2] m[3]
  let state := mix state 2 6 10 14 m[4] m[5]
  let state := mix state 3 7 11 15 m[6] m[7]
  let state := mix state 0 5 10 15 m[8] m[9]
  let state := mix state 1 6 11 12 m[10] m[11]
  let state := mix state 2 7 8 13 m[12] m[13]
  mix state 3 4 9 14 m[14] m[15]

/-- The order of the message words in the next round. -/
def permute (m : Words 16) : Words 16 :=
  #v[m[2], m[6], m[3], m[10], m[7], m[0], m[4], m[13], m[1], m[11], m[12], m[5], m[9], m[14], m[15],
    m[8]]

/-- So many rounds, with the message permuted between them. -/
def rounds : Nat → Words 16 → Words 16 → Words 16
  | 0, state, _ => state
  | n + 1, state, m => rounds n (round state m) (permute m)

/-- What a compression works on. -/
structure Node where
  chaining : Words 8
  block : Words 16
  counter : UInt64
  length : UInt32
  flags : UInt32

/-- The first half of what a compression gives. -/
def Node.compress (node : Node) : Words 8 :=
  let h := node.chaining
  let start : Words 16 :=
    #v[h[0], h[1], h[2], h[3], h[4], h[5], h[6], h[7],
      initial[0], initial[1], initial[2], initial[3],
      node.counter.toUInt32, (node.counter >>> 32).toUInt32, node.length, node.flags]
  let s := rounds 7 start node.block
  #v[s[0] ^^^ s[8], s[1] ^^^ s[9], s[2] ^^^ s[10], s[3] ^^^ s[11],
    s[4] ^^^ s[12], s[5] ^^^ s[13], s[6] ^^^ s[14], s[7] ^^^ s[15]]

/-- The pieces of a list, all of the given size but the last. -/
def pieces {α : Type} (size : Nat) (xs : List α) : List (List α) :=
  if _ : xs = [] ∨ size = 0 then [] else xs.take size :: pieces size (xs.drop size)
termination_by xs.length
decreasing_by
  rename_i h
  have : xs.length ≠ 0 := by simpa using fun e => h (.inl e)
  have : size ≠ 0 := fun e => h (.inr e)
  simp only [List.length_drop]
  omega

/-- The word of four bytes, the lowest first. -/
def wordAt (bytes : Bytes) (i : Nat) : UInt32 :=
  let byte (k : Nat) : UInt32 := (bytes.getD (4 * i + k) 0).toUInt32
  byte 0 ||| (byte 1 <<< 8) ||| (byte 2 <<< 16) ||| (byte 3 <<< 24)

/-- The words of a block, filled up with zeros. -/
def blockWords (bytes : Bytes) : Words 16 :=
  Vector.ofFn fun i => wordAt bytes i

/-- The last block of a chunk, after the earlier ones have been compressed. -/
def chunkNode (counter : UInt64) (chaining : Words 8) (flags : UInt32) : List Bytes → Node
  | [] => ⟨chaining, blockWords [], counter, 0, flags ||| chunkEnd⟩
  | [last] =>
    ⟨chaining, blockWords last, counter, last.length.toUInt32, flags ||| chunkEnd⟩
  | block :: next :: rest =>
    let node : Node := ⟨chaining, blockWords block, counter, block.length.toUInt32, flags⟩
    chunkNode counter node.compress 0 (next :: rest)

/-- The node of a chunk. -/
def ofChunk (counter : Nat) (chunk : Bytes) : Node :=
  chunkNode counter.toUInt64 initial chunkStart (pieces 64 chunk)

/-- The node of two subtrees. -/
def parent (left right : Node) : Node :=
  ⟨initial, left.compress ++ right.compress, 0, 64, parentFlag⟩

/-- The largest power of two that is not above a positive number. -/
def powerBelow (n : Nat) : Nat :=
  1 <<< Nat.log2 n

theorem powerBelow_le {n : Nat} (h : n ≠ 0) : powerBelow n ≤ n := by
  rw [powerBelow, Nat.one_shiftLeft]
  exact Nat.log2_self_le h

theorem powerBelow_pos (n : Nat) : 0 < powerBelow n := by
  rw [powerBelow, Nat.one_shiftLeft]
  exact Nat.two_pow_pos _

/-- The tree of the given leaves: the left half has as many as the largest power of two below their
number. -/
def tree (leaves : List Node) : Node :=
  match _h : leaves with
  | [] => ofChunk 0 []
  | [leaf] => leaf
  | _ :: next :: rest =>
    let half := powerBelow (rest.length + 1)
    parent (tree (leaves.take half)) (tree (leaves.drop half))
termination_by leaves.length
decreasing_by
  all_goals
    have small : powerBelow (rest.length + 1) ≤ rest.length + 1 := powerBelow_le (by omega)
    have positive : 0 < powerBelow (rest.length + 1) := powerBelow_pos _
    simp [_h]
    omega

/-- The bytes of a word, the lowest first. -/
def wordBytes (word : UInt32) : Bytes :=
  [word.toUInt8, (word >>> 8).toUInt8, (word >>> 16).toUInt8, (word >>> 24).toUInt8]

/-- The hash of an input. -/
def hash (input : Bytes) : Bytes :=
  let leaves := (pieces 1024 input).mapIdx ofChunk
  let root := tree leaves
  ({ root with flags := root.flags ||| rootFlag } : Node).compress.toList.flatMap wordBytes

end Blake3

end FeatureFixtures
