import AutoDiag.Lib.BitField
import AutoDiag.Lib.Word

/-!
# The instrument cluster's cipher

What the IC204 and VDO providers compute, without the buffers they compute it in. The
seed, permuted, is a block of two words; a constant is expanded word by word into the
state of a shift register, which is clocked a number of times the block itself decides;
and two rounds of a Feistel-like network, keyed by the register, scramble the block.
-/

namespace AutoDiag.Security.ClusterCipher

open Buffer BitField

abbrev Quad := Vector UInt8 4

abbrev Block := Vector UInt8 8

/-! ## Words -/

/-- Bytewise exclusive or. -/
def xorQuad (v w : Quad) : Quad := Vector.zipWith (· ^^^ ·) v w

/-- The word of four bytes, least significant first. -/
def word (v : Quad) : UInt32 := Word.ofBytes v[3]! v[2]! v[1]! v[0]!

/-- The four bytes of a word, least significant first. -/
def bytes (w : UInt32) : Quad :=
  #v[w.toUInt8, (w >>> 8).toUInt8, (w >>> 16).toUInt8, (w >>> 24).toUInt8]

/-- The sum of two words, modulo 2 ^ 32. -/
def add (v w : Quad) : Quad := bytes (word v + word w)

/-! ## The register -/

/-- A word of the constant, transposed and rotated by its third byte, against itself rotated by its
fourth. -/
def expandWord (w : Quad) : Quad :=
  xorQuad (rotateRight^[(w[2]! &&& 0x0F).toNat + 1] #v[w[1]!, w[3]!, w[0]!, w[2]!])
    (rotateRight^[(w[3]! &&& 0x0F).toNat + 1] w)

/-- The state the register starts from. -/
def expand (constant : Block) : Block :=
  expandWord (region constant 0 4) ++ expandWord (region constant 4 4)

/-- Bit `k` of a byte, as 0 or 1. -/
def tap (b k : UInt8) : UInt8 := b >>> k &&& 1

/-- The exclusive or of the eight taps, one in each byte. -/
def feedback (s : Block) : UInt8 :=
  tap s[0]! 3 ^^^ tap s[1]! 0 ^^^ tap s[2]! 1 ^^^ tap s[3]! 7 ^^^ tap s[4]! 5 ^^^ tap s[5]! 2
    ^^^ tap s[6]! 6 ^^^ tap s[7]! 4

/-- One clock: the feedback replaces the top bit of the last byte and the register turns. -/
def clock (s : Block) : Block :=
  rotateRight (put s 7 (s[7]! &&& (0x7F : UInt8) ||| feedback s <<< 7))

/-! ## The network -/

def permuteIn (seed : Block) : Block :=
  #v[seed[7]!, seed[4]!, seed[3]!, seed[6]!, seed[5]!, seed[1]!, seed[0]!, seed[2]!]

def permuteOut (b : Block) : Block :=
  #v[b[3]!, b[5]!, b[6]!, b[1]!, b[0]!, b[7]!, b[4]!, b[2]!]

/-- Half a round: the words are mixed, turned by a count out of the block and added to the key;
the old first word moves to the second place. -/
def halfRound (level : Nat) (key : Quad) (b : Block) : Block :=
  let mixed := xorQuad (region b 0 4) (region b 4 4)
  add (rotateRight^[(b[level]! &&& 0x03).toNat + 1] mixed) key ++ region b 0 4

def round (level : Nat) (s : Block) (b : Block) : Block :=
  halfRound level (region s 4 4) (halfRound level (region s 0 4) b)

/-- **The key of a seed.** -/
def cipher (level : Nat) (constant seed : Block) : Block :=
  let b := permuteIn seed
  let s := clock^[(b[level]! &&& 0x07).toNat + 2] (expand constant)
  permuteOut ((round level s)^[2] b)

end AutoDiag.Security.ClusterCipher
