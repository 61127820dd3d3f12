import AutoDiag.Security.ClusterCipher
import AutoDiag.Security.IC204

/-!
# IC204 computes the cluster cipher

Every step of the provider overwrites one region of its buffer with something computed
from other regions, so each of them is restated as a `patch`, and the regions are then
followed through the phases of the salt and through the half-rounds.
-/

namespace AutoDiag.Proof.IC204

open Buffer BitField Security Security.IC204 Security.ClusterCipher

/-! ## Rotation in place -/

/-- The carries of a rotation, read before anything is written. -/
theorem carries_eq {n k o : Nat} (buf : Vector UInt8 n) :
    loop k (fun i carries => put carries i (buf[o + i]! &&& 1)) (Vector.replicate k 0)
      = Vector.ofFn fun i => buf[o + i.val]! &&& 1 := by
  -- what the loop writes does not depend on the buffer it writes to
  have hloop := loop_put_eq_patch (Vector.replicate k 0) 0
    (Vector.ofFn fun i : Fin k => buf[o + i.val]! &&& 1) (f := fun i _ => buf[o + i]! &&& 1)
    (fun i hi _ _ => (get_ofFn (fun i : Fin k => buf[o + i.val]! &&& 1) hi).symm)
  rw [patch_zero] at hloop
  simpa only [Nat.zero_add] using hloop

theorem shifted_eq (b c : UInt8) :
    (if c &&& 1 ≠ 0 then b >>> 1 &&& (0x7F : UInt8) ||| 0x80 else b >>> 1 &&& (0x7F : UInt8))
      = b >>> 1 ||| c <<< 7 := by
  rw [← carry_eq c, shift_and]
  by_cases hc : c &&& 1 = 0
  · rw [if_neg (by simpa using hc), if_pos hc, UInt8.or_zero]
  · rw [if_pos hc, if_neg hc]

theorem rotateRightArray_eq_patch {n k : Nat} (o : Nat) (h0 : 0 < k) (h8 : k ≤ 8)
    (h : o + k ≤ n) (buf : Vector UInt8 n) :
    rotateRightArray buf o k = patch buf o (rotateRight (region buf o k)) := by
  -- the carries are read off before the loop that writes, so they are those of `buf`
  rw [rotateRightArray, if_neg (by omega)]
  simp only [carries_eq]
  refine loop_put_eq_patch buf o _ ?_
  intro i hi b hb
  have hprev : prev k i < k := prev_lt hi
  rw [hb (o + i) (by omega) (by omega), get_rotateRight _ hi, get_region _ _ hi,
    get_region _ _ hprev]
  change (if (Vector.ofFn fun i : Fin k => buf[o + i.val]! &&& 1)[prev k i]! ≠ 0 then _ else _) = _
  rw [get_ofFn _ hprev]
  exact shifted_eq _ _

/-- The turns one after the other, all in the same places. -/
theorem rotateRightArray_iterate {n k : Nat} (o : Nat) (h0 : 0 < k) (h8 : k ≤ 8)
    (h : o + k ≤ n) (t : Nat) (buf : Vector UInt8 n) :
    (rotateRightArray · o k)^[t] buf = patch buf o (rotateRight^[t] (region buf o k)) :=
  iterate_eq_patch h (rotateRightArray_eq_patch o h0 h8 h) t buf

/-! ## The salt -/

theorem transpose_eq_patch {n o : Nat} (h : o + 4 ≤ n) (buf : Vector UInt8 n)
    (b0 b1 b2 b3 : UInt8) :
    put (put (put (put buf (o + 2) b2) o b0) (o + 1) b1) (o + 3) b3
      = patch buf o #v[b0, b1, b2, b3] := by
  refine eq_patch ?_ ?_
  · intro i hi
    interval_cases i <;> simp (disch := omega) only [Nat.add_zero, get_put_self, get_put_ne] <;> rfl
  · intro j hj hout
    simp (disch := omega) only [get_put_ne]

/-- The two halves of the salt are copied to the front. -/
theorem copySalt_regions (buf : Vector UInt8 0x14) :
    region (copySalt buf) 0x04 4 = region buf 0x0C 4
      ∧ region (copySalt buf) 0x08 4 = region buf 0x10 4 := by
  unfold copySalt
  simp (disch := omega) only [copyInto_eq_patch, region_patch_self, region_patch_disjoint,
    and_self]

theorem mixFirst_first (buf : Vector UInt8 0x14) :
    region (mixFirst buf) 0x00 4 = expandWord (region buf 0x08 4) := by
  unfold mixFirst expandWord
  simp (disch := omega) only [transpose_eq_patch (o := 0), rotateRightArray_iterate,
    zipInto_eq_patch, region_patch_self, region_patch_disjoint, get_patch_of_not, get_region,
    xorQuad, Nat.reduceAdd]

theorem mixFirst_second (buf : Vector UInt8 0x14) :
    region (mixFirst buf) 0x04 4 = region buf 0x04 4 := by
  unfold mixFirst
  simp (disch := omega) only [transpose_eq_patch (o := 0), rotateRightArray_iterate,
    zipInto_eq_patch, region_patch_disjoint]

theorem mixSecond_first (buf : Vector UInt8 0x14) :
    region (mixSecond buf) 0x00 4 = region buf 0x00 4 := by
  unfold mixSecond
  simp (disch := omega) only [transpose_eq_patch (o := 4), rotateRightArray_iterate,
    copyInto_eq_patch, zipInto_eq_patch, region_patch_disjoint]

theorem mixSecond_second (buf : Vector UInt8 0x14) :
    region (mixSecond buf) 0x04 4 = expandWord (region buf 0x04 4) := by
  unfold mixSecond expandWord
  simp (disch := omega) only [transpose_eq_patch (o := 4), rotateRightArray_iterate,
    copyInto_eq_patch, zipInto_eq_patch, region_patch_self, region_patch_disjoint,
    get_patch_of_mem, get_patch_of_not, get_region, xorQuad, Nat.reduceAdd, Nat.reduceSub]

/-- **The salt becomes the start state of the register.** -/
theorem saltTransform_eq (salt : Block) : saltTransform salt = expand salt := by
  set start : Vector UInt8 0x14 := patch (Vector.replicate 0x14 0) 0x0C salt with hstart
  have hsalt : region start 0x0C 8 = salt := region_patch_self _ _ (by omega)
  have hlow : region start 0x0C 4 = region salt 0 4 := by
    rw [← hsalt, region_region _ (by omega)]
  have hhigh : region start 0x10 4 = region salt 4 4 := by
    rw [← hsalt, region_region _ (by omega)]
  obtain ⟨hcopy, hcopy'⟩ := copySalt_regions start
  -- each word of the salt passes through one mixing phase and is left alone by the other
  unfold saltTransform expand
  simp only [← hstart]
  rw [← region_append (k := 4) (m := 4)]
  simp (disch := omega) only [copyInto_eq_patch, region_patch_self, region_patch_disjoint,
    Nat.reduceAdd, mixSecond_second, mixFirst_second, hcopy, hlow, mixSecond_first, mixFirst_first,
    hcopy', hhigh]

/-! ## The register -/

/-- Clocking works on the register's eight bytes. -/
theorem clock_eq_patch (ws : Vector UInt8 0x20) :
    rotateRightArray (computeLfsrFeedback ws) 0x08 8
      = patch ws 0x08 (clock (region ws 0x08 8)) := by
  have hclock : computeLfsrFeedback ws = patch ws 0x08 (put (region ws 0x08 8) 7
      ((region ws 0x08 8)[7]! &&& (0x7F : UInt8) ||| feedback (region ws 0x08 8) <<< 7)) := by
    rw [← put_eq_patch ws (by omega) (by omega)]
    simp (disch := omega) only [feedback, get_region]
    rfl
  rw [rotateRightArray_eq_patch _ (by omega) (by omega) (by omega), hclock,
    region_patch_self _ _ (by omega), patch_patch]
  rfl

/-! ## The network -/

theorem le32Store_eq_patch (buf : Vector UInt8 0x20) {o : Nat} (h : o + 4 ≤ 0x20) (w : UInt32) :
    le32Store buf o w = patch buf o (bytes w) :=
  put_four_eq_patch buf h _ _ _ _

theorem le32Load_eq (buf : Vector UInt8 0x20) (o : Nat) :
    le32Load buf o = word (region buf o 4) := by
  simp (disch := omega) only [word, get_region]
  rfl

/-- What the workspace holds between two half-rounds: the block twice, the register between. -/
structure Holds (ws : Vector UInt8 0x20) (s b : Block) : Prop where
  working : region ws 0x00 8 = b
  register : region ws 0x08 8 = s
  copy : region ws 0x10 8 = b

/-- A half-round writes the new block to both of its places. -/
theorem halfRound_eq_patch {ws : Vector UInt8 0x20} {s b : Block} {p : Nat} (hp : p + 4 ≤ 8)
    {level : Nat} (hlevel : level < 8) (h : Holds ws s b) :
    IC204.halfRound level (8 + p) ws =
      patch (patch ws 0x10 (ClusterCipher.halfRound level (region s p 4) b)) 0x00
        (ClusterCipher.halfRound level (region s p 4) b) := by
  have hlow : region ws 0x10 4 = region b 0 4 := by
    rw [← h.copy, region_region _ (by omega)]
  have hhigh : region ws 0x14 4 = region b 4 4 := by
    rw [← h.copy, region_region _ (by omega)]
  have hfirst : region ws 0x00 4 = region b 0 4 := by
    rw [← h.working, region_region _ (by omega)]
  have hkey : region ws (8 + p) 4 = region s p 4 := by
    rw [← h.register, region_region _ hp]
  have hcount : ws[level]! = b[level]! := by
    rw [← h.working, get_region _ _ hlevel, Nat.zero_add]
  have hblock : ∀ v : Quad, patch (patch ws 0x10 v) 0x14 (region b 0 4) =
      patch ws 0x10 (v ++ region b 0 4) := fun v => patch_append ws v (region b 0 4) (by omega)
  -- every phase overwrites one region, and reads from regions that are known
  unfold IC204.halfRound
  simp (disch := omega) only [zipInto_eq_patch, rotateRightArray_iterate, le32Store_eq_patch,
    le32Load_eq, region_patch_self, region_patch_disjoint, get_patch_of_not, patch_patch,
    hlow, hhigh, hfirst, hkey, hcount, hblock]
  rfl

/-- What the workspace holds before a half-round it holds behind it, of the new block. -/
theorem halfRound_holds {ws : Vector UInt8 0x20} {s b : Block} {p : Nat} (hp : p + 4 ≤ 8)
    {level : Nat} (hlevel : level < 8) (h : Holds ws s b) :
    Holds (IC204.halfRound level (8 + p) ws) s
      (ClusterCipher.halfRound level (region s p 4) b) := by
  rw [halfRound_eq_patch hp hlevel h]
  refine ⟨region_patch_self _ _ (by omega), ?_, ?_⟩
  · rw [region_patch_disjoint _ _ (by omega) (by omega),
      region_patch_disjoint _ _ (by omega) (by omega), h.register]
  · rw [region_patch_disjoint _ _ (by omega) (by omega), region_patch_self _ _ (by omega)]

theorem round_holds {ws : Vector UInt8 0x20} {s b : Block} {level : Nat} (hlevel : level < 8)
    (h : Holds ws s b) :
    Holds (IC204.halfRound level 0x0C (IC204.halfRound level 0x08 ws)) s (round level s b) :=
  halfRound_holds (p := 4) (by omega) hlevel (halfRound_holds (p := 0) (by omega) hlevel h)

theorem permuteSeed_region (seed : Block) : region (permuteSeed seed) 0x10 8 = permuteIn seed := by
  unfold permuteSeed
  ext i hi
  rw [get_region _ _ hi]
  interval_cases i <;> simp (disch := omega) only [get_put_self, get_put_ne, Nat.reduceAdd] <;> rfl

/-- Before the first round the workspace holds the seed and the register. -/
theorem start_holds (ws : Vector UInt8 0x20) (salt : Block) (t : Nat) :
    let ws' := (fun ws => rotateRightArray (computeLfsrFeedback ws) 0x08 8)^[t]
      (patch ws 0x08 (saltTransform salt))
    Holds (patch ws' 0x00 (region ws' 0x10 8)) (clock^[t] (expand salt)) (region ws 0x10 8) := by
  intro ws'
  have hws : ws' = patch ws 0x08 (clock^[t] (expand salt)) := by
    rw [show ws' = _ from iterate_eq_patch (by omega) clock_eq_patch t _,
      region_patch_self _ _ (by omega), patch_patch, saltTransform_eq]
  have hcopy : region ws' 0x10 8 = region ws 0x10 8 := by
    rw [hws, region_patch_disjoint _ _ (by omega) (by omega)]
  refine ⟨(region_patch_self _ _ (by omega)).trans hcopy, ?_, ?_⟩
  · rw [region_patch_disjoint _ _ (by omega) (by omega), hws, region_patch_self _ _ (by omega)]
  · rw [region_patch_disjoint _ _ (by omega) (by omega), hcopy]

theorem output_eq {ws : Vector UInt8 0x20} {s b : Block} (h : Holds ws s b) :
    #v[ws[3]!, ws[5]!, ws[6]!, ws[1]!, ws[0]!, ws[7]!, ws[4]!, ws[2]!] = permuteOut b := by
  rw [← h.working]
  simp (disch := omega) only [permuteOut, get_region, Nat.zero_add]

/-- **In place and in blocks, the cipher is the same.** -/
theorem encipher_eq {level : Nat} (hlevel : level < 8) (salt seed : Block) :
    encipher level salt seed = cipher level salt seed := by
  have hcount : (permuteSeed seed)[0x10 + level]! = (permuteIn seed)[level]! := by
    rw [← permuteSeed_region, get_region _ _ hlevel]
  have hstart := start_holds (permuteSeed seed) salt
    (((permuteSeed seed)[0x10 + level]! &&& 0x07).toNat + 2)
  rw [permuteSeed_region] at hstart
  have hend := round_holds hlevel (round_holds hlevel hstart)
  refine (output_eq hend).trans ?_
  rw [hcount]
  rfl

/-- **For a level it accepts, `generate_key` returns the cipher's key.** -/
theorem generateKey_eq {parameters : List Parameter} {seed salt : Bytes} {accessLevel : Int}
    (hsalt : paramBytes parameters "Salt" = .ok salt) (hs : seed.length = 8)
    (hc : salt.length = 8)
    (hl : 1 ≤ udsToInternalLevel accessLevel ∧ udsToInternalLevel accessLevel ≤ 7) :
    generateKey seed 8 accessLevel parameters
      = .ok (some (cipher (udsToInternalLevel accessLevel).toNat (ofList 8 salt)
        (ofList 8 seed)).toList) := by
  unfold generateKey
  simp only [hsalt, bind, Except.bind]
  rw [if_neg (by omega), if_neg (by omega), encipher_eq (by omega)]
  rfl

end AutoDiag.Proof.IC204
