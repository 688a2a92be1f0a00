import CodeWorkspace.Text.Hex

/-!
# The BLAKE3 digest

The 256-bit hash function BLAKE3 in its plain mode.  A message is cut into chunks of 1024 bytes
and each chunk into blocks of 64; the blocks of a chunk are compressed in a chain, and the chunks
are the leaves of a binary tree.  Every subtree to the left of another holds a power of two of
chunks, so the tree is the one that results from joining neighbours level by level and carrying an
odd one over to the next level.
-/

namespace CodeWorkspace.Digest.Blake3

/-- Eight words that stand for everything hashed so far. -/
abbrev Chain := Vector UInt32 8

/-- The sixteen words of a message block. -/
abbrev Block := Vector UInt32 16

/-- The chain value that every chunk starts from. -/
def initialChain : Chain :=
  #v[0x6A09E667, 0xBB67AE85, 0x3C6EF372, 0xA54FF53A, 0x510E527F, 0x9B05688C, 0x1F83D9AB, 0x5BE0CD19]

/-- Marks the first block of a chunk. -/
def chunkStart : UInt32 := 1

/-- Marks the last block of a chunk. -/
def chunkEnd : UInt32 := 2

/-- Marks a node that joins two subtrees. -/
def joint : UInt32 := 4

/-- Marks the last compression of all. -/
def root : UInt32 := 8

/-- Rotation of a word to the right. -/
def rotateRight (word distance : UInt32) : UInt32 :=
  (word >>> distance) ||| (word <<< (32 - distance))

/-- Mixes two message words into four words of the state. -/
def quarter (state : Block) (a b c d : Fin 16) (x y : UInt32) : Block :=
  let wa := state[a] + state[b] + x
  let wd := rotateRight (state[d] ^^^ wa) 16
  let wc := state[c] + wd
  let wb := rotateRight (state[b] ^^^ wc) 12
  let wa := wa + wb + y
  let wd := rotateRight (wd ^^^ wa) 8
  let wc := wc + wd
  let wb := rotateRight (wb ^^^ wc) 7
  (((state.set a wa).set b wb).set c wc).set d wd

/-- Mixes a whole block into the state, first by columns and then by diagonals. -/
def mixBlock (state block : Block) : Block :=
  let state := quarter state 0 4 8 12 block[0] block[1]
  let state := quarter state 1 5 9 13 block[2] block[3]
  let state := quarter state 2 6 10 14 block[4] block[5]
  let state := quarter state 3 7 11 15 block[6] block[7]
  let state := quarter state 0 5 10 15 block[8] block[9]
  let state := quarter state 1 6 11 12 block[10] block[11]
  let state := quarter state 2 7 8 13 block[12] block[13]
  quarter state 3 4 9 14 block[14] block[15]

/-- The order in which the words of a block are taken in the next round. -/
def reordering : Vector (Fin 16) 16 :=
  #v[2, 6, 3, 10, 7, 0, 4, 13, 1, 11, 12, 5, 9, 14, 15, 8]

/-- Mixes a block into the state once a round, reordering its words between rounds. -/
def rounds : Nat → Block → Block → Block
  | 0, state, _ => state
  | count + 1, state, block => rounds count (mixBlock state block) (reordering.map fun i => block[i])

/-- All that a compression takes in. -/
structure Node where
  /-- The chain value so far. -/
  chain : Chain
  /-- The block to be compressed. -/
  block : Block
  /-- The number of the chunk. -/
  counter : UInt64
  /-- The number of message bytes in the block. -/
  length : UInt32
  /-- The marks of the node. -/
  flags : UInt32

/-- The chain value that a compression yields. -/
def Node.compress (node : Node) : Chain :=
  let state : Block := (node.chain ++ (#v[0x6A09E667, 0xBB67AE85, 0x3C6EF372, 0xA54FF53A,
    node.counter.toUInt32, (node.counter >>> 32).toUInt32, node.length, node.flags] : Chain))
  let mixed := rounds 7 state node.block
  Vector.ofFn fun i : Fin 8 =>
    have low : i.val < 16 := by omega
    have high : i.val + 8 < 16 := by omega
    mixed[i.val] ^^^ mixed[i.val + 8]

/-- The block that holds the given bytes, lowest byte of a word first, filled up with zeros. -/
def Block.ofBytes (bytes : List UInt8) : Block :=
  let bytes := bytes.toArray
  Vector.ofFn fun i : Fin 16 =>
    (bytes.getD (4 * i.val) 0).toUInt32 ||| ((bytes.getD (4 * i.val + 1) 0).toUInt32 <<< 8) |||
      ((bytes.getD (4 * i.val + 2) 0).toUInt32 <<< 16) |||
      ((bytes.getD (4 * i.val + 3) 0).toUInt32 <<< 24)

/-- Cuts a list into pieces of a positive length; only the last piece may be shorter. -/
def pieces {α : Type} (length : Nat) (items : List α) : List (List α) :=
  if _short : items = [] ∨ length = 0 then []
  else items.take length :: pieces length (items.drop length)
termination_by items.length
decreasing_by
  rw [not_or] at _short
  have := List.length_pos_iff.mpr _short.1
  rw [List.length_drop]
  omega

/-- Runs through the blocks of a chunk up to its last, which is left uncompressed. -/
def chunkBlocks (counter : UInt64) (chain : Chain) (flags : UInt32) (block : List UInt8) :
    List (List UInt8) → Node
  | [] =>
    { chain, block := Block.ofBytes block, counter
      length := UInt32.ofNat block.length, flags := flags ||| chunkEnd }
  | next :: rest =>
    let node : Node :=
      { chain, block := Block.ofBytes block, counter
        length := UInt32.ofNat block.length, flags }
    chunkBlocks counter node.compress 0 next rest

/-- The leaf for one chunk of a message. -/
def chunkNode (counter : UInt64) (bytes : List UInt8) : Node :=
  match pieces 64 bytes with
  | [] => chunkBlocks counter initialChain chunkStart [] []
  | block :: rest => chunkBlocks counter initialChain chunkStart block rest

/-- The node that joins two subtrees. -/
def Node.join (left right : Node) : Node where
  chain := initialChain
  block := left.compress ++ right.compress
  counter := 0
  length := 64
  flags := joint

/-- Joins neighbours; an odd last node is carried over. -/
def joinPairs : List Node → List Node
  | first :: second :: rest => first.join second :: joinPairs rest
  | [last] => [last]
  | [] => []

theorem length_joinPairs_le (nodes : List Node) : (joinPairs nodes).length ≤ nodes.length := by
  fun_induction joinPairs nodes with
  | case1 first second rest ih => simp only [List.length_cons]; omega
  | case2 last => simp
  | case3 => simp

/-- Joins nodes level by level until one is left. -/
def joinAll (first : Node) : List Node → Node
  | [] => first
  | second :: rest => joinAll (first.join second) (joinPairs rest)
termination_by rest => rest.length
decreasing_by
  have := length_joinPairs_le rest
  simp only [List.length_cons]
  omega

/-- The chain value of a whole message. -/
def hashBytes (message : List UInt8) : Chain :=
  let leaves := (pieces 1024 message).mapIdx fun i chunk => chunkNode (UInt64.ofNat i) chunk
  let top :=
    match leaves with
    | [] => chunkNode 0 []
    | first :: rest => joinAll first rest
  { top with flags := top.flags ||| root, counter := 0 }.compress

/-- The eight hexadecimal digits of a word, its lowest byte first. -/
def wordHex (word : UInt32) : List Char :=
  [0, 1, 2, 3].flatMap fun i => Hex.digits 2 (word.toNat >>> (8 * i))

/-- The digest of a message in 64 hexadecimal digits. -/
def hexDigest (message : List UInt8) : String :=
  String.ofList ((hashBytes message).toList.flatMap wordHex)

end CodeWorkspace.Digest.Blake3
