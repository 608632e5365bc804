import Taskweave.Text.Utf8

/-!
# BLAKE3

The BLAKE3 digest of a byte sequence. The bytes are cut into chunks of 1024, each of which is
compressed block by block into a chain of eight words (`Blake3.chunk`); a binary tree above them
joins two chains at a time (`Blake3.tree`), the left subtree holding as many chunks as a power of
two can while something is left for the right one. The chain of the root is the digest;
`Blake3.ofText` writes it in hexadecimal.
-/

namespace Taskweave.Blake3

/-- A chain of eight words. -/
abbrev Chain := Vector UInt32 8

/-- The sixteen words of a block. -/
abbrev Block := Vector UInt32 16

/-- The chain that every chunk starts from. -/
def initial : Chain :=
  #v[0x6A09E667, 0xBB67AE85, 0x3C6EF372, 0xA54FF53A, 0x510E527F, 0x9B05688C, 0x1F83D9AB,
    0x5BE0CD19]

/-- Marks the first block of a chunk. -/
def chunkStart : UInt32 := 1

/-- Marks the last block of a chunk. -/
def chunkEnd : UInt32 := 2

/-- Marks a block that holds two chains. -/
def parentBlock : UInt32 := 4

/-- Marks the last compression of all. -/
def rootBlock : UInt32 := 8

/-- The bits of a word moved right by `n`, those that fall out coming in at the left. -/
def rotate (w : UInt32) (n : UInt32) : UInt32 := (w >>> n) ||| (w <<< (32 - n))

/-- Stirs two message words into four words of the state. -/
def mix (s : Block) (a b c d : Fin 16) (x y : UInt32) : Block :=
  let s := s.set a (s[a] + s[b] + x)
  let s := s.set d (rotate (s[d] ^^^ s[a]) 16)
  let s := s.set c (s[c] + s[d])
  let s := s.set b (rotate (s[b] ^^^ s[c]) 12)
  let s := s.set a (s[a] + s[b] + y)
  let s := s.set d (rotate (s[d] ^^^ s[a]) 8)
  let s := s.set c (s[c] + s[d])
  s.set b (rotate (s[b] ^^^ s[c]) 7)

/-- One round: the columns of the state, then its diagonals. -/
def round (s : Block) (m : Block) : Block :=
  let s := mix s 0 4 8 12 m[0] m[1]
  let s := mix s 1 5 9 13 m[2] m[3]
  let s := mix s 2 6 10 14 m[4] m[5]
  let s := mix s 3 7 11 15 m[6] m[7]
  let s := mix s 0 5 10 15 m[8] m[9]
  let s := mix s 1 6 11 12 m[10] m[11]
  let s := mix s 2 7 8 13 m[12] m[13]
  mix s 3 4 9 14 m[14] m[15]

/-- The order of the message words in the next round. -/
def permute (m : Block) : Block :=
  #v[m[2], m[6], m[3], m[10], m[7], m[0], m[4], m[13], m[1], m[11], m[12], m[5], m[9], m[14],
    m[15], m[8]]

/-- Some rounds, each with the message words in the next order. -/
def rounds : (n : Nat) → (s m : Block) → Block
  | 0, s, _ => s
  | n + 1, s, m => rounds n (round s m) (permute m)

/-- A block that is still to be compressed, with the chain before it. -/
structure Node where
  chain : Chain
  block : Block
  /-- The number of the chunk. -/
  counter : UInt64
  /-- How many bytes of the block are in use. -/
  length : UInt32
  flags : UInt32

/-- The chain after a block. -/
def Node.compress (n : Node) : Chain :=
  let h := n.chain
  let s := rounds 7
    #v[h[0], h[1], h[2], h[3], h[4], h[5], h[6], h[7], initial[0], initial[1], initial[2],
      initial[3], n.counter.toUInt32, (n.counter >>> 32).toUInt32, n.length, n.flags]
    n.block
  #v[s[0] ^^^ s[8], s[1] ^^^ s[9], s[2] ^^^ s[10], s[3] ^^^ s[11], s[4] ^^^ s[12], s[5] ^^^ s[13],
    s[6] ^^^ s[14], s[7] ^^^ s[15]]

/-- The words of at most 64 bytes, lowest byte first, with zeros after the last one. -/
def words (bytes : List UInt8) : Block :=
  let a := bytes.toArray
  let byte (i : Nat) : UInt32 := (a[i]?.getD 0).toUInt32
  Vector.ofFn fun i =>
    byte (4 * i) ||| (byte (4 * i + 1) <<< 8) ||| (byte (4 * i + 2) <<< 16) |||
      (byte (4 * i + 3) <<< 24)

/-- The last block of a chunk, given the chain so far, the mark of the next block and the bytes that
are left. -/
def chunkFrom (counter : UInt64) (chain : Chain) (start : UInt32) (bytes : List UInt8) : Node :=
  if bytes.length ≤ 64 then
    ⟨chain, words bytes, counter, UInt32.ofNat bytes.length, start ||| chunkEnd⟩
  else
    let node : Node := ⟨chain, words (bytes.take 64), counter, 64, start⟩
    chunkFrom counter node.compress 0 (bytes.drop 64)
termination_by bytes.length
decreasing_by simp only [List.length_drop]; omega

/-- The last block of the chunk with the given number. -/
def chunk (counter : UInt64) (bytes : List UInt8) : Node :=
  chunkFrom counter initial chunkStart bytes

/-- The block that joins two chains. -/
def parent (left right : Chain) : Node := ⟨initial, left ++ right, 0, 64, parentBlock⟩

/-- How many bytes of `size`, which is more than 1024, go to the left subtree. -/
def leftSize (size : Nat) : Nat := Nat.pow 2 (size - 1).log2

/-- The left subtree leaves something for the right one. -/
theorem leftSize_lt {size : Nat} (h : 1024 < size) : leftSize size < size := by
  have : leftSize size ≤ size - 1 := Nat.log2_self_le (by omega)
  omega

/-- The left subtree is not empty. -/
theorem leftSize_pos (size : Nat) : 0 < leftSize size := Nat.two_pow_pos _

/-- The top of the tree over some bytes, whose first chunk has the given number. -/
def tree (counter : UInt64) (bytes : List UInt8) : Node :=
  if bytes.length ≤ 1024 then chunk counter bytes
  else
    let left := leftSize bytes.length
    parent (tree counter (bytes.take left)).compress
      (tree (counter + UInt64.ofNat (left / 1024)) (bytes.drop left)).compress
termination_by bytes.length
decreasing_by
  · have : leftSize bytes.length < bytes.length := leftSize_lt (by omega)
    simp only [List.length_take]
    omega
  · have := leftSize_pos bytes.length
    simp only [List.length_drop]
    omega

/-- The digest of a byte sequence. -/
def digest (bytes : List UInt8) : Chain :=
  let root := tree 0 bytes
  { root with flags := root.flags ||| rootBlock }.compress

/-- A byte as two hexadecimal digits. -/
def hexByte (b : Nat) : List Char := [Nat.digitChar (b / 16 % 16), Nat.digitChar (b % 16)]

/-- A word in hexadecimal, lowest byte first. -/
def hexWord (w : UInt32) : List Char :=
  let n := w.toNat
  hexByte n ++ hexByte (n / 256) ++ hexByte (n / 65536) ++ hexByte (n / 16777216)

/-- The digest of the UTF-8 bytes of a text, in hexadecimal. -/
def ofText (s : String) : String :=
  String.ofList ((digest (Utf8.encode s)).toList.flatMap hexWord)

end Taskweave.Blake3
