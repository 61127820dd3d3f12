import AutoDiag.Proof.IC204
import AutoDiag.Security.VDOSecurityAlgo

/-!
# VDOSecurityAlgo computes the cluster cipher

The other provider keeps its arrays apart, so there is less to follow: its rotation is
the rotation of the bit field, its masked bits are the taps of the register, and one half
of an iteration is one half-round. With that, both providers are one function.
-/

namespace AutoDiag.Proof.VDOSecurityAlgo

open Buffer BitField Security Security.VDOSecurityAlgo Security.ClusterCipher

/-! ## Rotation through a second buffer -/

/-- `temp_buffer` holds the lowest bit of every byte, at its top. -/
theorem tempBuffer_eq {n : Nat} (v : Vector UInt8 n) :
    loop n (fun i (t : Vector UInt8 n) => if 0 < v[i]! &&& 1 then put t i 0x80 else t)
      (Vector.replicate n 0) = Vector.ofFn fun i => v[i.val]! <<< 7 := by
  have hloop := loop_put_eq_patch (Vector.replicate n (0 : UInt8)) 0
    (Vector.ofFn fun i : Fin n => v[i.val]! <<< 7)
    (f := fun i t => if 0 < v[i]! &&& 1 then (0x80 : UInt8) else t[i]!) (fun i hi b hb => by
      rw [hb i hi (by omega), get_ofFn _ hi, ← carry_eq, get_eq (Vector.replicate n 0) hi,
        Vector.getElem_replicate]
      simp only [UInt8.pos_iff_ne_zero, ne_eq, ite_not])
  rw [patch_zero] at hloop
  rw [← hloop]
  refine loop_congr ?_ _
  intro i _ t
  rw [Nat.zero_add]
  split
  · rfl
  · rw [put_get]

/-- The carry that the loop hands on is the lowest bit of the byte before. -/
theorem rotateBits_eq {n : Nat} (v : Vector UInt8 n) : rotateBits v = rotateRight v := by
  have hloop := loop_put_eq_patch v 0 (rotateRight v)
    (f := fun i b => b[i]! >>> 1 ||| v[prev n i]! <<< 7)
    (fun i hi b hb => by rw [hb i hi (by omega), get_rotateRight _ hi])
  rw [patch_zero] at hloop
  rw [← hloop]
  unfold rotateBits
  simp only [tempBuffer_eq]
  refine loop_congr ?_ _
  intro i hi b
  -- the index before the first one is reset to the last
  have hindex : (if (i : Int) - 1 < 0 then (n : Int) - 1 else (i : Int) - 1).toNat = prev n i := by
    unfold prev
    split <;> split <;> omega
  rw [put_put, get_put_self _ _ hi, hindex, get_ofFn _ (prev_lt hi), Nat.zero_add]

theorem rotateBits_funext {n : Nat} : @rotateBits n = rotateRight := funext rotateBits_eq

/-! ## The key -/

/-- The word and its bytes in another order, each rotated by a count of its own. -/
theorem expand32bitKey_eq (w : Quad) : expand32bitKey w = expandWord w := by
  have hloop : ∀ v u : Quad, loop 4 (fun i key => put key i (v[i]! ^^^ u[i]!)) w = xorQuad u v := by
    intro v u
    have h := loop_put_eq_patch w 0 (xorQuad u v) (f := fun i _ => v[i]! ^^^ u[i]!)
      (fun i hi b hb => by rw [xorQuad, get_zipWith _ _ _ hi, UInt8.xor_comm])
    rw [patch_zero] at h
    simpa only [Nat.zero_add] using h
  unfold expand32bitKey expandWord rotateBitsN
  simp only [hloop, rotateBits_funext, eta_four]

theorem masked_eq_tap (b : UInt8) {m k : UInt8} (h : m >>> k = 1) : (b &&& m) >>> k = tap b k := by
  rw [UInt8.shiftRight_and, h, tap]

/-- One clock of the register. -/
theorem morph_eq (s : Block) : morph s = clock s := by
  unfold morph clock
  simp (disch := decide) only [rotateBits_eq, get_put_self, get_put_ne, masked_eq_tap,
    UInt8.zero_xor]
  rw [UInt8.or_comm]
  rfl

theorem item_eq (b : Block) {i : Nat} (hi : i < 8) : item b.toList i = .ok b[i]! := by
  simp [item, hi]

theorem itemFrom_eq (b : Block) {i : Nat} (hi : i < 8) : itemFrom b.toList i = .ok b[i]! := by
  rw [itemFrom, if_pos (by omega)]
  exact item_eq b hi

theorem word_eq (v : Block) (o : Nat) :
    #v[v[o]!, v[o + 1]!, v[o + 2]!, v[o + 3]!] = region v o 4 := by
  rw [← eta_four (region v o 4)]
  simp (disch := omega) only [get_region, Nat.add_zero]

theorem expandFullKey_eq (v : Block) : expandFullKey v.toList = .ok (expand v) := by
  have hread : expandFullKey v.toList = .ok (expand32bitKey #v[v[0]!, v[1]!, v[2]!, v[3]!]
      ++ expand32bitKey #v[v[4]!, v[5]!, v[6]!, v[7]!]) := by
    unfold expandFullKey
    simp (disch := omega) only [item_eq]
    rfl
  rw [hread, expand32bitKey_eq, expand32bitKey_eq, expand, ← word_eq v 0, ← word_eq v 4]

theorem expandAndTransformKey_eq {level : Nat} (hlevel : level < 8) (b v : Block) :
    expandAndTransformKey level b v.toList
      = .ok (clock^[(b[level]! &&& 0x07).toNat + 2] (expand v)) := by
  have hmorph : morph = clock := funext morph_eq
  rw [expandAndTransformKey, itemFrom_eq b hlevel, expandFullKey_eq, hmorph]
  rfl

/-! ## The cipher -/

/-- Only the lower half moves. -/
theorem rotateLower_eq_patch (tp : Block) (t : Nat) :
    rotateLower tp t = patch tp 0 (rotateRight^[t] (region tp 0 4)) := by
  unfold rotateLower
  rw [word_eq tp 0, rotateBits_funext, ← eta_four (rotateRight^[t] _)]
  exact put_four_eq_patch (o := 0) tp (by omega) _ _ _ _

theorem or_reverse (a b c d : UInt32) : a ||| b ||| c ||| d = d ||| c ||| b ||| a := by
  ac_rfl

/-- Four bytes make a word, the lowest first. -/
theorem load_eq (v : Block) (o : Nat) :
    v[o]!.toUInt32 ||| v[o + 1]!.toUInt32 <<< 8 ||| v[o + 2]!.toUInt32 <<< 16
      ||| v[o + 3]!.toUInt32 <<< 24 = word (region v o 4) := by
  rw [or_reverse, ← word_eq v o]
  rfl

/-- A sum of words, written back over the lower half. -/
theorem addKey_eq_patch (ik tp : Block) (o : Nat) :
    addKey ik o tp = patch tp 0 (add (region tp 0 4) (region ik o 4)) := by
  unfold addKey add
  rw [← load_eq ik o, ← load_eq tp 0]
  exact put_four_eq_patch (o := 0) tp (by omega) _ _ _ _

theorem moveLower_eq_patch (tp tpc : Block) : moveLower tp tpc = patch tp 4 (region tpc 0 4) := by
  rw [← word_eq tpc 0]
  exact put_four_eq_patch (o := 4) tp (by omega) _ _ _ _

/-- **Half an iteration is a half-round.** -/
theorem halfIteration_eq (ik b : Block) {level : Nat} (hlevel : level < 8) (o : Nat) :
    halfIteration ik level o b b = .ok (halfRound level (region ik o 4) b) := by
  have hjoin : ∀ v : Quad, patch (patch b 0 v) 4 (region b 0 4) = v ++ region b 0 4 := fun v =>
    (patch_append (o := 0) b v (region b 0 4) (by omega)).trans (patch_zero b _)
  unfold halfIteration
  simp (disch := omega) only [zipInto_eq_patch, rotateLower_eq_patch, addKey_eq_patch,
    moveLower_eq_patch, itemFrom_eq, patch_patch, region_patch_self, hjoin]
  rfl

theorem cipherIteration_eq (ik b : Block) {level : Nat} (hlevel : level < 8) :
    cipherIteration ik level b b = .ok (round level ik b) := by
  rw [cipherIteration, halfIteration_eq ik b hlevel]
  exact halfIteration_eq ik _ hlevel 4

/-- **With arrays of their own and in blocks, the cipher is the same.** -/
theorem generateKeyAt_eq {level : Nat} (hlevel : level < 8) (seed v : Block) :
    generateKeyAt level seed v.toList = .ok (cipher level v seed) := by
  -- two iterations, each of which hands on a block and its copy
  have hunfold : generateKeyAt level seed v.toList = (do
      let ik ← expandAndTransformKey level (permuteIn seed) v.toList
      let tp ← cipherIteration ik level (permuteIn seed) (permuteIn seed)
      let tpc ← cipherIteration ik level tp tp
      return permuteOut tpc) := rfl
  rw [hunfold, expandAndTransformKey_eq hlevel]
  simp only [bind, Except.bind, cipherIteration_eq _ _ hlevel]
  rfl

/-- **For a level from 0 to 7, `generate_key` returns the cipher's key.** -/
theorem generateKey_eq {parameters : List Parameter} {seed constant : Bytes} {level : Nat}
    (accessLevel : Int) (hk : paramBytes parameters "K" = .ok constant)
    (hl : paramInt parameters "InternalLevel" = .ok level) (hlevel : level < 8)
    (hs : seed.length = 8) (hc : constant.length = 8) :
    generateKey seed 8 accessLevel parameters
      = .ok (some (cipher level (ofList 8 constant) (ofList 8 seed)).toList) := by
  have hkey := generateKeyAt_eq hlevel (ofList 8 seed) (ofList 8 constant)
  rw [toList_ofList hc] at hkey
  unfold generateKey
  simp only [hk, hl, bind, Except.bind]
  rw [if_neg (by omega), hkey]
  rfl

end AutoDiag.Proof.VDOSecurityAlgo

namespace AutoDiag.Proof

open Security Security.ClusterCipher

/-- **The two providers compute the same keys.** Given a constant of eight bytes and the internal
level of an access level, they answer every seed of eight bytes alike, with a key of eight. -/
theorem providers_agree {salted expanded : List Parameter} {constant seed : Bytes}
    {accessLevel : Int} (otherLevel : Int)
    (hsalt : paramBytes salted "Salt" = .ok constant)
    (hk : paramBytes expanded "K" = .ok constant)
    (hlevel : paramInt expanded "InternalLevel"
      = .ok (Security.IC204.udsToInternalLevel accessLevel))
    (hrange : 1 ≤ Security.IC204.udsToInternalLevel accessLevel
      ∧ Security.IC204.udsToInternalLevel accessLevel ≤ 7)
    (hc : constant.length = 8) (hs : seed.length = 8) :
    ∃ key : Bytes, key.length = 8
      ∧ Security.IC204.generateKey seed 8 accessLevel salted = .ok (some key)
      ∧ Security.VDOSecurityAlgo.generateKey seed 8 otherLevel expanded = .ok (some key) := by
  obtain ⟨level, hl⟩ := Int.eq_ofNat_of_zero_le (by omega :
    0 ≤ Security.IC204.udsToInternalLevel accessLevel)
  have hsalted := IC204.generateKey_eq hsalt hs hc hrange
  rw [hl] at hlevel hsalted hrange
  exact ⟨_, Vector.length_toList .., hsalted,
    VDOSecurityAlgo.generateKey_eq otherLevel hk hlevel (by omega) hs hc⟩

/-- Access level 9 is internal level 5, with the same constant in both definitions. -/
theorem providers_agree_sample :
    ∃ key : Bytes, key.length = 8
      ∧ Security.IC204.generateKey [1, 2, 3, 4, 5, 6, 7, 8] 8 0x09
          [⟨"Salt", "0123456789ABCDEF", "ByteArray"⟩] = .ok (some key)
      ∧ Security.VDOSecurityAlgo.generateKey [1, 2, 3, 4, 5, 6, 7, 8] 8 0x09
          [⟨"K", "0123456789ABCDEF", "ByteArray"⟩, ⟨"InternalLevel", "5", "Int32"⟩]
            = .ok (some key) :=
  @providers_agree _ _ [0x01, 0x23, 0x45, 0x67, 0x89, 0xAB, 0xCD, 0xEF] _ 0x09 0x09
    (by decide +kernel) (by decide +kernel) (by decide) (by decide) rfl rfl

end AutoDiag.Proof
