import AutoDiag.Lib.Buffer
import AutoDiag.Security.Provider

/-!
# IC204

The provider for the W204 instrument cluster. It works in place: `_salt_transform` on
0x14 bytes, the cipher itself on a workspace of 0x20 bytes with the working block at
0x00, the LFSR state at 0x08 and the permuted seed at 0x10. All the indices are constants
within these sizes, or the level, which `generate_key` keeps between 1 and 7.
-/

namespace AutoDiag.Security.IC204

open Buffer

/-- `_uds_to_internal_level`. -/
def udsToInternalLevel (udsLevel : Int) : Int :=
  if udsLevel = 0x01 then 1
  else if udsLevel = 0x03 then 3
  else if udsLevel = 0x09 then 5
  else if udsLevel = 0x0D then 7
  else (udsLevel + 1) / 2

/-- `_rotate_right_array`. -/
def rotateRightArray {n : Nat} (buf : Vector UInt8 n) (offset length : Nat) : Vector UInt8 n :=
  if length = 0 ∨ 8 < length then buf
  else
    let carries : Vector UInt8 length := loop length
      (fun i carries => put carries i (buf[offset + i]! &&& 1)) (Vector.replicate length 0)
    loop length (fun i buf =>
      let carryIdx := if i = 0 then length - 1 else i - 1
      let shifted : UInt8 := buf[offset + i]! >>> 1 &&& 0x7F
      put buf (offset + i) (if carries[carryIdx]! ≠ 0 then shifted ||| 0x80 else shifted)) buf

/-! ## The salt -/

/-- Phases 1 to 3 of `_salt_transform`. -/
def copySalt (buf : Vector UInt8 0x14) : Vector UInt8 0x14 :=
  let buf := copyInto buf 0x00 0x10 4
  let buf := copyInto buf 0x04 0x0C 4
  copyInto buf 0x08 0x00 4

/-- Phases 4 to 7. -/
def mixFirst (buf : Vector UInt8 0x14) : Vector UInt8 0x14 :=
  let t0 := buf[0x08]!
  let t1 := buf[0x09]!
  let t2 := buf[0x0A]!
  let t3 := buf[0x0B]!
  let buf := put buf 0x02 t0
  let buf := put buf 0x00 t1
  let buf := put buf 0x01 t3
  let buf := put buf 0x03 t2
  let buf := (rotateRightArray · 0x00 4)^[(t2 &&& 0x0F).toNat + 1] buf
  let buf := (rotateRightArray · 0x08 4)^[(buf[0x0B]! &&& 0x0F).toNat + 1] buf
  zipInto (· ^^^ ·) buf 0x00 0x08 4

/-- Phases 8 to 12. -/
def mixSecond (buf : Vector UInt8 0x14) : Vector UInt8 0x14 :=
  let buf := copyInto buf 0x08 0x04 4
  let t0 := buf[0x08]!
  let t1 := buf[0x09]!
  let t2 := buf[0x0A]!
  let t3 := buf[0x0B]!
  let buf := put buf 0x06 t0
  let buf := put buf 0x04 t1
  let buf := put buf 0x05 t3
  let buf := put buf 0x07 t2
  let buf := (rotateRightArray · 0x04 4)^[(buf[0x0A]! &&& 0x0F).toNat + 1] buf
  let buf := (rotateRightArray · 0x08 4)^[(buf[0x0B]! &&& 0x0F).toNat + 1] buf
  zipInto (· ^^^ ·) buf 0x04 0x08 4

/-- `_salt_transform`: the bytes it leaves in `output`. -/
def saltTransform (salt : Vector UInt8 8) : Vector UInt8 8 :=
  let buf : Vector UInt8 0x14 := patch (Vector.replicate 0x14 0) 0x0C salt
  let buf := mixSecond (mixFirst (copySalt buf))
  -- phases 13 and 14
  let buf := copyInto buf 0x10 0x00 4
  let buf := copyInto buf 0x0C 0x04 4
  region buf 0x0C 8

/-! ## The cipher -/

/-- `_compute_lfsr_feedback`. -/
def computeLfsrFeedback (ws : Vector UInt8 0x20) : Vector UInt8 0x20 :=
  let fb : UInt8 := ws[0x08]! >>> 3 &&& 1
  let fb : UInt8 := fb ^^^ (ws[0x09]! &&& 1)
  let fb : UInt8 := fb ^^^ (ws[0x0A]! >>> 1 &&& 1)
  let fb : UInt8 := fb ^^^ (ws[0x0B]! >>> 7 &&& 1)
  let fb : UInt8 := fb ^^^ (ws[0x0C]! >>> 5 &&& 1)
  let fb : UInt8 := fb ^^^ (ws[0x0D]! >>> 2 &&& 1)
  let fb : UInt8 := fb ^^^ (ws[0x0E]! >>> 6 &&& 1)
  let fb : UInt8 := fb ^^^ (ws[0x0F]! >>> 4 &&& 1)
  put ws 0x0F (ws[0x0F]! &&& (0x7F : UInt8) ||| fb <<< 7)

/-- `_le32_load`. -/
def le32Load (buf : Vector UInt8 0x20) (offset : Nat) : UInt32 :=
  buf[offset + 3]!.toUInt32 <<< 24 ||| buf[offset + 2]!.toUInt32 <<< 16
    ||| buf[offset + 1]!.toUInt32 <<< 8 ||| buf[offset]!.toUInt32

/-- `_le32_store`. -/
def le32Store (buf : Vector UInt8 0x20) (offset : Nat) (val : UInt32) : Vector UInt8 0x20 :=
  let buf := put buf offset val.toUInt8
  let buf := put buf (offset + 1) (val >>> 8).toUInt8
  let buf := put buf (offset + 2) (val >>> 16).toUInt8
  put buf (offset + 3) (val >>> 24).toUInt8

/-- Step 1: the workspace with the permuted seed. -/
def permuteSeed (seed : Vector UInt8 8) : Vector UInt8 0x20 :=
  let ws : Vector UInt8 0x20 := Vector.replicate 0x20 0
  let ws := put ws 0x10 seed[7]!
  let ws := put ws 0x11 seed[4]!
  let ws := put ws 0x12 seed[3]!
  let ws := put ws 0x13 seed[6]!
  let ws := put ws 0x14 seed[5]!
  let ws := put ws 0x15 seed[1]!
  let ws := put ws 0x16 seed[0]!
  put ws 0x17 seed[2]!

/-- Half a round of step 6: A takes the LFSR bytes from 0x08 on, B those from 0x0C on. -/
def halfRound (level offset : Nat) (ws : Vector UInt8 0x20) : Vector UInt8 0x20 :=
  let ws := zipInto (· ^^^ ·) ws 0x10 0x14 4
  let rotCount := (ws[level]! &&& 0x03).toNat + 1
  let ws := (rotateRightArray · 0x10 4)^[rotCount] ws
  let valA := le32Load ws 0x10
  let valB := le32Load ws offset
  let ws := le32Store ws 0x10 (valA + valB)
  let ws := patch ws 0x14 (region ws 0x00 4)
  patch ws 0x00 (region ws 0x10 8)

/-- Steps 1 to 7 of `generate_key`. -/
def encipher (level : Nat) (salt seed : Vector UInt8 8) : Vector UInt8 8 :=
  let ws := permuteSeed seed
  let lfsrCount := (ws[0x10 + level]! &&& 0x07).toNat + 2
  let ws := patch ws 0x08 (saltTransform salt)
  let ws := (fun ws => rotateRightArray (computeLfsrFeedback ws) 0x08 8)^[lfsrCount] ws
  let ws := patch ws 0x00 (region ws 0x10 8)
  let ws := (fun ws => halfRound level 0x0C (halfRound level 0x08 ws))^[2] ws
  #v[ws[3]!, ws[5]!, ws[6]!, ws[1]!, ws[0]!, ws[7]!, ws[4]!, ws[2]!]

/-- `IC204.generate_key`. -/
def generateKey : Provider := fun seed keyLength accessLevel parameters => do
  let salt ← paramBytes parameters "Salt"
  if seed.length ≠ 8 ∨ keyLength ≠ 8 ∨ salt.length ≠ 8 then return none
  else
    let level := udsToInternalLevel accessLevel
    if level < 1 ∨ 7 < level then return none
    else return some (encipher level.toNat (ofList 8 salt) (ofList 8 seed)).toList

end AutoDiag.Security.IC204
