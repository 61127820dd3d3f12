import AutoDiag.CSharp.ClusterProviders
import AutoDiag.Proof.BitUtility
import AutoDiag.Proof.PowertrainPorts
import AutoDiag.Proof.WordPorts
import AutoDiag.Security.ClusterProviders

/-!
# Ports that return where the original throws

`int.from_bytes` of a slice takes what is there, and the original throws at the first byte
that is missing. So these ports return more than their originals: what an original returns,
its port returns too.
-/

namespace AutoDiag.Proof

open Raise Security BitUtility

variable {parameters : List Parameter}

/-- A word that the original reads. -/
theorem bytesToInt_covers {data : Bytes} {e : Endian} {w : UInt32}
    (h : CSharp.BitUtility.bytesToInt data e 0 = .ok w) : bytesToInt data e 0 = w.toNat := by
  have hlen : 0 + 4 ≤ data.length := @bytesToInt_ok data e 0 w h
  obtain ⟨w', hw, hpy⟩ := bytesToInt_agree hlen e
  cases hw.symm.trans h
  exact hpy

/-- Both turn a seed away, or both go on with the lengths known. -/
theorem covers_guard {n m : Nat} {seed outKey : Bytes} {x : Except Exn (Option Bytes)}
    {y : Except CSharp.Exception (Option Bytes)}
    (h : seed.length = n → outKey.length = m → Covers Eq x y) :
    Covers Eq (if seed.length ≠ n ∨ (outKey.length : Int) ≠ m then pure none else x)
      (if seed.length ≠ n ∨ outKey.length ≠ m then pure none else y) := by
  refine covers_ite (by omega) (fun _ => covers_ok rfl) fun hg => ?_
  obtain ⟨hseed, hkey⟩ := not_or.mp hg
  exact h (not_not.mp hseed) (by omega)

theorem MarquardtSecurityAlgo_covers (h : WrittenAny parameters) (seed outKey : Bytes)
    (level : Int) :
    Covers Eq (MarquardtSecurityAlgo.generateKey seed outKey.length level parameters)
      (CSharp.MarquardtSecurityAlgo.generateKey seed outKey level parameters) := by
  refine covers_bind (paramBytes_alike h "const_M").covers ?_
  rintro mBytes _ rfl
  refine covers_bind (paramBytes_alike h "const_C").covers ?_
  rintro cBytes _ rfl
  refine covers_bind (paramBytes_alike h "const_A").covers ?_
  rintro aBytes _ rfl
  refine covers_bind_right fun constM hm => ?_
  refine covers_bind_right fun constC hc => ?_
  refine covers_bind_right fun constA ha => ?_
  refine covers_bind_right fun seedWord hs => ?_
  rw [bytesToInt_covers hm, bytesToInt_covers hc, bytesToInt_covers ha, bytesToInt_covers hs]
  refine covers_guard fun _ hkey => ?_
  have hproduct : seedWord.toNat * constA.toNat &&& u32 = (seedWord * constA).toNat := by
    rw [and_u32, UInt32.toNat_mul]
  have hmod : Related (fun (x : Nat) (w : UInt32) => x = w.toNat)
      (Py.mod (seedWord * constA).toNat constM.toNat) (CSharp.remUint (seedWord * constA) constM) := by
    refine related_ite ?_ (fun _ => related_error _ _) fun _ => related_ok ?_
    · exact UInt32.toNat_inj (b := 0)
    · exact (UInt32.toNat_mod ..).symm
  rw [hproduct]
  refine covers_bind hmod.covers ?_
  rintro _ rest rfl
  have hsum : constC.toNat + rest.toNat &&& u32 = (constC + rest).toNat := by
    rw [and_u32, UInt32.toNat_add]
  rw [hsum]
  exact (related_key hkey (ofInt_toNat _)).covers

theorem KI221Algo2_covers (h : WrittenAny parameters) (seed outKey : Bytes) (level : Int) :
    Covers Eq (KI221Algo2.generateKey seed outKey.length level parameters)
      (CSharp.KI221Algo2.generateKey seed outKey level parameters) := by
  refine covers_guard fun _ hkey => ?_
  refine covers_bind (paramBytes_alike h "Xor").covers ?_
  rintro xorBytes _ rfl
  refine covers_bind (paramBytes_alike h "Add").covers ?_
  rintro addBytes _ rfl
  refine covers_bind_right fun xor hx => ?_
  refine covers_bind_right fun add ha => ?_
  refine covers_bind_right fun seedWord hs => ?_
  have hsum : (seedWord.toNat ^^^ xor.toNat) + add.toNat &&& u32
      = ((seedWord ^^^ xor) + add).toNat := by
    rw [and_u32, UInt32.toNat_add, UInt32.toNat_xor]
  rw [bytesToInt_covers hx, bytesToInt_covers ha, bytesToInt_covers hs]
  dsimp only
  rw [hsum]
  exact (related_key hkey (ofInt_toNat _)).covers

theorem paramWord_covers (h : WrittenAny parameters) (key : String) (e : Endian) :
    Covers (fun (x : Nat) (w : UInt32) => x = w.toNat) (paramWord parameters key e)
      (CSharp.getParameterWord parameters key e) := by
  refine covers_bind (paramBytes_alike h key).covers ?_
  rintro data _ rfl w hw
  exact ⟨_, rfl, bytesToInt_covers hw⟩

/-- A byte in its place, of a number and of an `int`. -/
theorem placed_toNat (b : UInt8) : (CSharp.intOfByte b <<< 0).toUInt32.toNat = b.toNat <<< 0
    ∧ (CSharp.intOfByte b <<< 8).toUInt32.toNat = b.toNat <<< 8
    ∧ (CSharp.intOfByte b <<< 16).toUInt32.toNat = b.toNat <<< 16
    ∧ (CSharp.intOfByte b <<< 24).toUInt32.toNat = b.toNat <<< 24 := by
  have hmask : b.toNat &&& 0xFF = b.toNat := Nat.and_two_pow_sub_one_of_lt_two_pow b.toNat_lt
  have hplaced := shiftLeft_byte b
  rw [hmask] at hplaced
  exact ⟨hplaced 0 (by omega), hplaced 1 (by omega), hplaced 2 (by omega), hplaced 3 (by omega)⟩

/-- A byte of a word, on both sides. -/
theorem getByte_both (w : UInt32) {p : Int32} (h : 0 ≤ p.toInt) (h3 : ¬ p > 3) :
    ∃ b, getByte w.toNat p.toInt = .ok (UInt8.toNat b) ∧ CSharp.BitUtility.getByte w p = .ok b := by
  rcases related_cases (getByte_related w h) with ⟨_, _, _, hthrown⟩ | ⟨_, b, hx, hy, rfl⟩
  · rw [CSharp.BitUtility.getByte, if_neg h3] at hthrown
    cases hthrown
  · exact ⟨b, hx, hy⟩

/-- An item that is there. -/
theorem item_at {α : Type} {xs : List α} {i : Int} {x : α} (hi : ¬ i < 0)
    (h : xs[i.toNat]? = some x) : CSharp.item xs i = .ok x := by
  rw [CSharp.item, if_neg hi, h]

theorem items_four (c0 c1 c2 c3 : UInt8) (l : Bytes) :
    CSharp.item (c0 :: c1 :: c2 :: c3 :: l) 0 = .ok c0
      ∧ CSharp.item (c0 :: c1 :: c2 :: c3 :: l) 1 = .ok c1
      ∧ CSharp.item (c0 :: c1 :: c2 :: c3 :: l) 2 = .ok c2
      ∧ CSharp.item (c0 :: c1 :: c2 :: c3 :: l) 3 = .ok c3 :=
  ⟨item_at (by decide) rfl, item_at (by decide) rfl, item_at (by decide) rfl,
    item_at (by decide) rfl⟩

theorem KI203Algo_covers (h : WrittenAny parameters) (seed outKey : Bytes) (level : Int) :
    Covers Eq (KI203Algo.generateKey seed outKey.length level parameters)
      (CSharp.KI203Algo.generateKey seed outKey level parameters) := by
  refine covers_guard fun hseed hkey => ?_
  refine covers_bind (paramWord_covers h "K" .big) ?_
  rintro _ root rfl
  match seed, hseed with
  | [s0, s1, s2, s3], _ =>
    match outKey, hkey with
    | [o0, o1, o2, o3], _ =>
      have hval : (s2.toNat <<< 0 ||| s0.toNat <<< 8 ||| s3.toNat <<< 16 ||| s1.toNat <<< 24) &&& u32
          = ((CSharp.intOfByte s2 <<< 0 ||| CSharp.intOfByte s0 <<< 8 ||| CSharp.intOfByte s3 <<< 16
            ||| CSharp.intOfByte s1 <<< 24).toUInt32).toNat := by
        rw [← toNat_and_u32, Int32.toUInt32_or, Int32.toUInt32_or, Int32.toUInt32_or,
          UInt32.toNat_or, UInt32.toNat_or, UInt32.toNat_or, (placed_toNat s2).1,
          (placed_toNat s0).2.1, (placed_toNat s3).2.2.1, (placed_toNat s1).2.2.2]
      have hleft : ∀ w : UInt32, rotateLeft w.toNat 3 = (CSharp.BitUtility.rotateLeft w 3).toNat :=
        fun w => by rw [cRotateLeft_eq, rotation_toNat]
      have hright : ∀ (w : UInt32) (n : Nat),
          rotateRight w.toNat n = (CSharp.BitUtility.rotateRight w n).toNat :=
        fun w n => by rw [cRotateRight_eq, rotation_symm_toNat]
      simp only [Py.index, List.getElem?_cons_zero, List.getElem?_cons_succ, ok_bind]
      rw [hval, hleft, ← UInt32.toNat_xor, (countOnes_eq root).1, hright]
      obtain ⟨hs0, hs1, hs2, hs3⟩ := items_four s0 s1 s2 s3 []
      rw [hs2, ok_bind, hs0, ok_bind, hs3, ok_bind, hs1, ok_bind]
      generalize CSharp.BitUtility.rotateRight _ _ = w
      obtain ⟨b0, h0, h0'⟩ := getByte_both w (p := 0) (by decide) (by decide)
      obtain ⟨b1, h1, h1'⟩ := getByte_both w (p := 1) (by decide) (by decide)
      obtain ⟨b2, h2, h2'⟩ := getByte_both w (p := 2) (by decide) (by decide)
      obtain ⟨b3, h3, h3'⟩ := getByte_both w (p := 3) (by decide) (by decide)
      simp only [Int32.reduceToInt] at h0 h1 h2 h3
      rw [h0, h1, h2, h3, h0', h1', h2', h3']
      simp only [ok_bind, CSharp.store, List.length_cons, List.length_nil, Nat.reduceAdd,
        Nat.reduceLT, if_true, List.set_cons_zero, List.set_cons_succ, toItem, UInt8.ofNat_toNat]
      exact covers_ok rfl

/-! ## `KI221Algo1` -/

theorem keyWord_toNat (rootKey rs : UInt32) :
    KI221Algo1.keyWord rootKey.toNat rs.toNat = (CSharp.KI221Algo1.keyWord rootKey rs).toNat := by
  have hleft : ∀ (w : UInt32) (k : UInt32), w.toNat <<< (k.toNat % 32) &&& u32 = (w <<< k).toNat :=
    fun w k => by rw [and_u32, UInt32.toNat_shiftLeft]
  have hright : ∀ (w : UInt32) (k : UInt32), w.toNat >>> (k.toNat % 32) = (w >>> k).toNat :=
    fun w k => by rw [UInt32.toNat_shiftRight]
  have h29 := hleft rs 29
  have h3 := hright rs 3
  simp only [UInt32.reduceToNat, Nat.reduceMod] at h29 h3
  have hinter : ((rs.toNat <<< 29 &&& u32) + rs.toNat >>> 3) &&& u32
      = (rs <<< 29 + rs >>> 3).toNat := by
    rw [h29, h3, and_u32, UInt32.toNat_add]
  rw [KI221Algo1.keyWord, CSharp.KI221Algo1.keyWord, hinter, xorWord_toNat]
  generalize (rs <<< 29 + rs >>> 3) ^^^ rootKey = inter
  have h7 := hleft inter 7
  have h25 := hright inter 25
  simp only [UInt32.reduceToNat, Nat.reduceMod] at h7 h25
  rw [h7, h25, and_u32, UInt32.toNat_add]

theorem xorAt_at {k : Bytes} {i : Nat} {x : UInt8} (h : k[i]? = some x) (b : UInt8) :
    CSharp.KI221Algo1.xorAt k i b = .ok (k.set i (x ^^^ b)) := by
  have hitem : CSharp.item k i = .ok x := item_at (by omega) h
  have hlt : i < k.length := (List.getElem?_eq_some_iff.mp h).1
  have hxor : CSharp.byteOfInt (CSharp.intOfByte x ^^^ CSharp.intOfByte b) = x ^^^ b :=
    byteOfInt_xor x b
  rw [CSharp.KI221Algo1.xorAt, hitem, ok_bind, hxor]
  exact if_pos hlt

/-- The word goes over the first four bytes. -/
theorem intToBytes_over (w : UInt32) (c0 c1 c2 c3 : UInt8) (l : Bytes) :
    CSharp.BitUtility.intToBytes w (c0 :: c1 :: c2 :: c3 :: l) .big
      = .ok (Word.toBytes w ++ l) := by
  simp [CSharp.BitUtility.intToBytes, CSharp.store, Word.toBytes]

theorem KI221Algo1_covers (h : WrittenAny parameters) (seed outKey : Bytes) (level : Int) :
    Covers Eq (KI221Algo1.generateKey seed outKey.length level parameters)
      (CSharp.KI221Algo1.generateKey seed outKey level parameters) := by
  refine covers_guard fun hseed hkey => ?_
  refine covers_bind (paramByte_related h.wellFormed "Level").covers ?_
  rintro _ level rfl
  refine covers_bind (paramBytes_alike h "K").covers ?_
  rintro k _ rfl
  refine covers_bind_right fun rootKey hroot => ?_
  rw [bytesToInt_covers hroot]
  -- the original has read a word, so four bytes are there for the port to index
  have hlen := @bytesToInt_ok _ _ 0 _ hroot
  match seed, hseed with
  | [s0, s1, s2, s3, s4, s5, s6, s7], _ =>
    match k, hlen with
    | a0 :: a1 :: a2 :: a3 :: k, _ =>
      obtain ⟨rs, hrs, hrs'⟩ := @bytesToInt_agree [a0 ^^^ s6, a3 ^^^ s0, a2 ^^^ s2, a1 ^^^ s4] 0
        (by simp) .little
      have hread : CSharp.BitUtility.bytesToInt [a0 ^^^ s6, a3 ^^^ s0, a2 ^^^ s2, a1 ^^^ s4] .little 0
          = .ok rs := hrs
      have hlevel : Py.toByte (level.toNat : Int) = .ok level := by
        have hlt := level.toNat_lt
        rw [Py.toByte, if_pos (by omega), Int.toNat_natCast, UInt8.ofNat_toNat]
      have hpy : intToBytes (KI221Algo1.keyWord rootKey.toNat rs.toNat) .big
          = Word.toBytes (CSharp.KI221Algo1.keyWord rootKey rs) := by
        rw [keyWord_toNat, intToBytes_big, ofInt_toNat]
      simp only [Py.index, List.getElem?_cons_zero, List.getElem?_cons_succ, ok_bind, hrs', hpy,
        hlevel, Word.toBytes]
      have hs0 : CSharp.item [s0, s1, s2, s3, s4, s5, s6, s7] 0 = .ok s0 := item_at (by decide) rfl
      have hs2 : CSharp.item [s0, s1, s2, s3, s4, s5, s6, s7] 2 = .ok s2 := item_at (by decide) rfl
      have hs4 : CSharp.item [s0, s1, s2, s3, s4, s5, s6, s7] 4 = .ok s4 := item_at (by decide) rfl
      have hs6 : CSharp.item [s0, s1, s2, s3, s4, s5, s6, s7] 6 = .ok s6 := item_at (by decide) rfl
      -- the original changes its constant in place, byte by byte
      rw [hs6, ok_bind, xorAt_at rfl, ok_bind, hs4, ok_bind, xorAt_at rfl, ok_bind, hs2, ok_bind,
        xorAt_at rfl, ok_bind, hs0, ok_bind, xorAt_at rfl, ok_bind]
      simp only [List.set_cons_zero, List.set_cons_succ]
      obtain ⟨hk0, hk1, hk2, hk3⟩ := items_four (a0 ^^^ s6) (a1 ^^^ s4) (a2 ^^^ s2) (a3 ^^^ s0) k
      rw [hk0, ok_bind, hk3, ok_bind, hk2, ok_bind, hk1, ok_bind, hread, ok_bind, intToBytes_over,
        ok_bind]
      -- and writes the key over the first four bytes of it
      generalize CSharp.KI221Algo1.keyWord rootKey rs = key
      obtain ⟨hw0, hw1, hw2, hw3⟩ := items_four (key >>> 24).toUInt8 (key >>> 16).toUInt8
        (key >>> 8).toUInt8 key.toUInt8 k
      rw [Word.toBytes, List.cons_append, List.cons_append, List.cons_append, List.cons_append,
        List.nil_append, hw0, ok_bind, hw3, ok_bind, hw2, ok_bind, hw1, ok_bind]
      exact covers_ok rfl

/-! ## All of them -/

/-- The providers that read their words with slices. -/
def lenientPorts : List Port :=
  [⟨MarquardtSecurityAlgo.generateKey, CSharp.MarquardtSecurityAlgo.generateKey⟩,
    ⟨KI221Algo1.generateKey, CSharp.KI221Algo1.generateKey⟩,
    ⟨KI221Algo2.generateKey, CSharp.KI221Algo2.generateKey⟩,
    ⟨KI203Algo.generateKey, CSharp.KI203Algo.generateKey⟩]

/--
**What an original returns, its lenient port returns too**, with parameters of any length. Where
the original throws, as at a constant of three bytes, the port may return a key.
-/
theorem lenientPorts_cover (port : Port) (hport : port ∈ lenientPorts) (parameters : List Parameter)
    (h : WrittenAny parameters) (seed outKey : Bytes) (level : Int) (key : Option Bytes)
    (hkey : port.csharp seed outKey level parameters = .ok key) :
    port.python seed outKey.length level parameters = .ok key := by
  have hcovers : Covers Eq (port.python seed outKey.length level parameters)
      (port.csharp seed outKey level parameters) := by
    simp only [lenientPorts, List.mem_cons, List.not_mem_nil, or_false] at hport
    rcases hport with rfl | rfl | rfl | rfl
    · exact MarquardtSecurityAlgo_covers h seed outKey level
    · exact KI221Algo1_covers h seed outKey level
    · exact KI221Algo2_covers h seed outKey level
    · exact KI203Algo_covers h seed outKey level
  obtain ⟨key', hpython, rfl⟩ := hcovers key hkey
  exact hpython

/-- A constant of five bytes, of which the first four are used. -/
def longConstant : List Parameter := [⟨"Level", "06", "Byte"⟩, ⟨"K", "8123456789", "ByteArray"⟩]

theorem lenientPorts_cover_long :
    KI221Algo1.generateKey [1, 2, 3, 4, 5, 6, 7, 8] (List.replicate 7 (0 : UInt8)).length 1
      longConstant = .ok (some [6, 245, 162, 219, 196, 0, 0]) := by
  have h : WrittenAny longConstant := ⟨by decide, by decide⟩
  have hport : ⟨KI221Algo1.generateKey, CSharp.KI221Algo1.generateKey⟩ ∈ lenientPorts := by
    simp [lenientPorts]
  have hkey : CSharp.KI221Algo1.generateKey [1, 2, 3, 4, 5, 6, 7, 8] (List.replicate 7 0) 1
      longConstant = .ok (some [6, 245, 162, 219, 196, 0, 0]) := by
    decide +kernel
  exact lenientPorts_cover ⟨KI221Algo1.generateKey, CSharp.KI221Algo1.generateKey⟩ hport longConstant h
    [1, 2, 3, 4, 5, 6, 7, 8] (List.replicate 7 0) 1 _ hkey

end AutoDiag.Proof
