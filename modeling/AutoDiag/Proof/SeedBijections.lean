import AutoDiag.Lib.Numeral
import AutoDiag.Proof.ClusterContracts
import AutoDiag.Proof.Words
import Mathlib.Algebra.Group.Units.Equiv
import Mathlib.Data.FinEnum
import Mathlib.Data.LawfulXor.Equiv
import Mathlib.Data.UInt

/-!
# Providers that lose nothing of the seed

A provider whose keys are as long as its seeds may still give two seeds one key.
Three of the word providers only rotate, add and exclude, each of which can be undone
on a word, and `IC172Algo2` looks digits up in tables where no two have one residue.
`IC172Algo1` leaves out half of the seed and nothing else.
-/

namespace AutoDiag.Proof

open Raise Security BitUtility

/-! ## Four bytes and their word -/

/-- Every seed of four bytes has a key, and the keys are the rows of four bytes, each once. -/
def OneToOne (keyOf : Bytes → Except Exn (Option Bytes)) : Prop :=
  ∃ f : Bytes → Bytes, (∀ seed, seed.length = 4 → keyOf seed = .ok (some (f seed)))
    ∧ Set.BijOn f {seed | seed.length = 4} {key | key.length = 4}

/-- A word and its four bytes, the most significant first. -/
def bytesOfWord : UInt32 ≃ UInt8 × UInt8 × UInt8 × UInt8 where
  toFun w := ((w >>> 24).toUInt8, (w >>> 16).toUInt8, (w >>> 8).toUInt8, w.toUInt8)
  invFun b := Word.ofBytes b.1 b.2.1 b.2.2.1 b.2.2.2
  left_inv := Word.ofBytes_toBytes
  right_inv b := by
    have h := toBytes_ofBytes b.1 b.2.1 b.2.2.1 b.2.2.2
    simp only [Word.toBytes, List.cons.injEq, and_true] at h
    simp only [h]

theorem toBytes_eq (w : UInt32) : Word.toBytes w = [(bytesOfWord w).1, (bytesOfWord w).2.1,
    (bytesOfWord w).2.2.1, (bytesOfWord w).2.2.2] := rfl

theorem toBytes_bijOn : Set.BijOn Word.toBytes Set.univ {b | b.length = 4} := by
  refine ⟨fun _ _ => rfl, fun w _ w' _ h => ?_, fun b hb => ?_⟩
  · rw [← Word.ofBytes_toBytes w, ← Word.ofBytes_toBytes w']
    simp only [Word.toBytes, List.cons.injEq, and_true] at h
    rw [h.1, h.2.1, h.2.2.1, h.2.2.2]
  · match b, hb with
    | [b0, b1, b2, b3], _ => exact ⟨_, trivial, toBytes_ofBytes b0 b1 b2 b3⟩

/-- It is enough that the words of the keys are a permutation of the words of the seeds. -/
theorem oneToOne_of_perm {keyOf : Bytes → Except Exn (Option Bytes)} (π : Equiv.Perm UInt32)
    (h : ∀ w, keyOf (Word.toBytes w) = .ok (some (Word.toBytes (π w)))) : OneToOne keyOf := by
  have hinv := toBytes_bijOn.invOn_invFunOn
  have hseeds : Set.BijOn (Function.invFunOn Word.toBytes Set.univ) {b | b.length = 4} Set.univ :=
    Set.BijOn.symm hinv.symm toBytes_bijOn
  refine ⟨Word.toBytes ∘ π ∘ Function.invFunOn Word.toBytes Set.univ, fun seed hseed => ?_, ?_⟩
  · obtain ⟨w, -, rfl⟩ := toBytes_bijOn.surjOn hseed
    rw [h, Function.comp_apply, Function.comp_apply, hinv.1 (Set.mem_univ w)]
  · exact toBytes_bijOn.comp ((Set.bijOn_univ.mpr π.bijective).comp hseeds)

/-! ## Words as numbers -/

theorem bytesToInt_toBytes (w : UInt32) : bytesToInt (Word.toBytes w) .big 0 = w.toNat := by
  have hword : bytesToInt (Word.toBytes w) .big 0
      = Py.ofBytesBig [(w >>> 24).toUInt8, (w >>> 16).toUInt8, (w >>> 8).toUInt8, w.toUInt8]
        &&& u32 := rfl
  rw [hword, ← ofBytes_toNat, Word.ofBytes_toBytes, toNat_and_u32]

/-- The bytes of a parameter are read as a word, however many there are. -/
theorem bytesToInt_word (data : Bytes) (e : Endian) (offset : Nat) :
    ∃ w : UInt32, bytesToInt data e offset = w.toNat := by
  have hmask : ∀ x : Nat, ∃ w : UInt32, x &&& u32 = w.toNat :=
    fun x => ⟨UInt32.ofNat x, by rw [and_u32, UInt32.toNat_ofNat']⟩
  cases e <;> exact hmask _

theorem paramWord_word {parameters : List Parameter} {key : String} {k : Bytes}
    (h : paramBytes parameters key = .ok k) (e : Endian) :
    ∃ w : UInt32, paramWord parameters key e = .ok w.toNat := by
  obtain ⟨w, hw⟩ := bytesToInt_word k e 0
  exact ⟨w, by rw [paramWord, h, ok_bind, hw]; rfl⟩

theorem intToBytes_word (w : UInt32) : intToBytes w.toNat .big = Word.toBytes w := by
  rw [intToBytes_big, ofInt_toNat]

/-! ## Sums and exclusions -/

theorem KI221Algo2_oneToOne {parameters : List Parameter} {xorBytes addBytes : Bytes}
    (hxor : paramBytes parameters "Xor" = .ok xorBytes)
    (hadd : paramBytes parameters "Add" = .ok addBytes) (level : Int) :
    OneToOne fun seed => KI221Algo2.generateKey seed 4 level parameters := by
  obtain ⟨x, hx⟩ := bytesToInt_word xorBytes .little 0
  obtain ⟨a, ha⟩ := bytesToInt_word addBytes .little 0
  refine oneToOne_of_perm ((Equiv.xor x).trans (Equiv.addRight a)) fun w => ?_
  have hsum : (w.toNat ^^^ x.toNat) + a.toNat &&& u32
      = (Equiv.addRight a (Equiv.xor x w)).toNat := by
    rw [and_u32, Equiv.xor_apply, Equiv.coe_addRight, UInt32.toNat_add, UInt32.toNat_xor,
      Nat.xor_comm]
  unfold KI221Algo2.generateKey
  rw [if_neg (by simp [Word.toBytes]), hxor, ok_bind, hadd, ok_bind]
  dsimp only
  rw [bytesToInt_toBytes, hx, ha, hsum, intToBytes_word]
  rfl

/-! ## Rotations -/

theorem rotation_toNat (r : Nat) (w : UInt32) :
    (Word.rotation r w).toNat = rotateLeft w.toNat r := by
  have hlt := w.toNat_lt
  have hbits : (Word.rotation r w).toNat
      = w.toNat <<< (r % 32) % 2 ^ 32 ||| w.toNat >>> (32 - r % 32) :=
    BitVec.toNat_rotateLeft
  rw [hbits, rotateLeft, toNat_and_u32]
  split
  · rename_i hr
    rw [hr, Nat.shiftLeft_zero, Nat.mod_eq_of_lt hlt, Nat.shiftRight_eq_div_pow,
      Nat.div_eq_of_lt hlt, Nat.or_zero]
  · have hshift : w.toNat >>> (32 - r % 32) < 2 ^ 32 :=
      Nat.lt_of_le_of_lt (Nat.shiftRight_le _ _) hlt
    rw [and_u32, Nat.or_mod_two_pow, Nat.mod_eq_of_lt hshift]

theorem rotation_symm_bits (r : Nat) (w : UInt32) : ((Word.rotation r).symm w).toNat
    = w.toNat >>> (r % 32) ||| w.toNat <<< (32 - r % 32) % 2 ^ 32 := BitVec.toNat_rotateRight

theorem rotation_symm_toNat (r : Nat) (w : UInt32) :
    ((Word.rotation r).symm w).toNat = rotateRight w.toNat r := by
  have hlt := w.toNat_lt
  rw [rotation_symm_bits, rotateRight, toNat_and_u32]
  split
  · rename_i hr
    rw [hr, Nat.shiftRight_zero, Nat.sub_zero, Nat.shiftLeft_eq, Nat.mul_mod_left, Nat.or_zero]
  · have hshift : w.toNat >>> (r % 32) < 2 ^ 32 :=
      Nat.lt_of_le_of_lt (Nat.shiftRight_le _ _) hlt
    rw [and_u32, Nat.or_mod_two_pow, Nat.mod_eq_of_lt hshift]

/-- One turn of `SWSP177` rotates to the right by one place. -/
theorem turn_word (cryptoKey w : UInt32) :
    SWSP177.turn cryptoKey.toNat w.toNat
      = (((Word.rotation 1).symm.trans (Equiv.xor cryptoKey)) w).toNat := by
  have hlt := w.toNat_lt
  have hcarry : (w.toNat &&& 1) * 0x80000000 = w.toNat <<< 31 % 2 ^ 32 := by
    rw [show (1 : Nat) = 2 ^ 1 - 1 from rfl, Nat.and_two_pow_sub_one_eq_mod, Nat.shiftLeft_eq]
    omega
  have hbits : w.toNat >>> 1 ||| w.toNat <<< 31 % 2 ^ 32 = ((Word.rotation 1).symm w).toNat :=
    (rotation_symm_bits 1 w).symm
  rw [SWSP177.turn, hcarry, hbits, show (0xFFFFFFFFFFFFFFFF : Nat) = 2 ^ 64 - 1 from rfl,
    Nat.and_two_pow_sub_one_eq_mod, Nat.mod_eq_of_lt (Nat.lt_trans (UInt32.toNat_lt _) (by decide)),
    Equiv.trans_apply, Equiv.xor_apply, UInt32.toNat_xor, Nat.xor_comm]

theorem SWSP177_oneToOne {parameters : List Parameter} {k : Bytes}
    (hk : paramBytes parameters "KeyConst" = .ok k) (level : Int) :
    OneToOne fun seed => SWSP177.generateKey seed 4 level parameters := by
  obtain ⟨cryptoKey, hword⟩ := paramWord_word hk .big
  let turn : Equiv.Perm UInt32 := (Word.rotation 1).symm.trans (Equiv.xor cryptoKey)
  refine oneToOne_of_perm (turn ^ 35) fun w => ?_
  have hturns : (SWSP177.turn cryptoKey.toNat)^[35] w.toNat = ((turn ^ 35) w).toNat := by
    rw [← Equiv.Perm.iterate_eq_pow]
    exact (Function.Semiconj.iterate_right (fun w => (turn_word cryptoKey w).symm) 35 w).symm
  unfold SWSP177.generateKey
  rw [hword, ok_bind, if_neg (by simp [Word.toBytes])]
  dsimp only
  rw [bytesToInt_toBytes, hturns, show (0xFFFFFFFF : Nat) = u32 from rfl, toNat_and_u32,
    toNat_and_u32, intToBytes_word]
  rfl

/-- The order in which `KI203Algo` takes the bytes of the seed. -/
def regroup : Equiv.Perm (UInt8 × UInt8 × UInt8 × UInt8) where
  toFun b := (b.2.1, b.2.2.2, b.1, b.2.2.1)
  invFun b := (b.2.2.1, b.1, b.2.2.2, b.2.1)
  left_inv _ := rfl
  right_inv _ := rfl

/-- The order in which it gives out the bytes of the key. -/
def reorder : Equiv.Perm (UInt8 × UInt8 × UInt8 × UInt8) where
  toFun b := (b.2.2.2, b.2.1, b.1, b.2.2.1)
  invFun b := (b.2.2.1, b.2.1, b.2.2.2, b.1)
  left_inv _ := rfl
  right_inv _ := rfl

theorem regrouped_word (s0 s1 s2 s3 : UInt8) :
    (s2.toNat <<< 0 ||| s0.toNat <<< 8 ||| s3.toNat <<< 16 ||| s1.toNat <<< 24) &&& u32
      = (Word.ofBytes s1 s3 s0 s2).toNat := by
  have hlast : s2.toNat % 2 ^ 32 = s2.toNat :=
    Nat.mod_eq_of_lt (Nat.lt_trans s2.toNat_lt (by decide))
  have hword : (Word.ofBytes s1 s3 s0 s2).toNat = s1.toNat <<< 24 % 2 ^ 32
      ||| s3.toNat <<< 16 % 2 ^ 32 ||| s0.toNat <<< 8 % 2 ^ 32 ||| s2.toNat := by
    simp only [Word.ofBytes, UInt32.toNat_or, UInt32.toNat_shiftLeft, UInt8.toNat_toUInt32,
      UInt32.reduceToNat, Nat.reduceMod]
  rw [hword, and_u32, Nat.or_mod_two_pow, Nat.or_mod_two_pow, Nat.or_mod_two_pow,
    Nat.shiftLeft_zero, hlast]
  generalize s1.toNat <<< 24 % 2 ^ 32 = x1
  generalize s3.toNat <<< 16 % 2 ^ 32 = x3
  generalize s0.toNat <<< 8 % 2 ^ 32 = x0
  ac_rfl

theorem toItem_shift (w : UInt32) {n : Nat} (hn : n < 32) :
    toItem (w.toNat >>> n &&& 0xFF) = (w >>> UInt32.ofNat n).toUInt8 := by
  have hcount : (UInt32.ofNat n).toNat % 32 = n := by
    rw [UInt32.toNat_ofNat', Nat.mod_eq_of_lt (by omega : n < 2 ^ 32), Nat.mod_eq_of_lt hn]
  rw [toItem, ← UInt8.toNat_inj, UInt8.toNat_ofNat', UInt32.toNat_toUInt8, UInt32.toNat_shiftRight,
    hcount, show (0xFF : Nat) = 2 ^ 8 - 1 from rfl, Nat.and_two_pow_sub_one_eq_mod, Nat.mod_mod]

/-- The bytes of the word in the order of the key. -/
theorem reordered_word (w : UInt32) :
    [toItem (w.toNat >>> 0 &&& 0xFF), toItem (w.toNat >>> 16 &&& 0xFF),
      toItem (w.toNat >>> 24 &&& 0xFF), toItem (w.toNat >>> 8 &&& 0xFF)]
      = Word.toBytes (bytesOfWord.symm.permCongr reorder w) := by
  have h0 : toItem (w.toNat >>> 0 &&& 0xFF) = w.toUInt8 := by
    rw [toItem_shift w (by decide), show UInt32.ofNat 0 = 0 from rfl, UInt32.shiftRight_zero]
  have h8 : toItem (w.toNat >>> 8 &&& 0xFF) = (w >>> 8).toUInt8 := toItem_shift w (by decide)
  have h16 : toItem (w.toNat >>> 16 &&& 0xFF) = (w >>> 16).toUInt8 := toItem_shift w (by decide)
  have h24 : toItem (w.toNat >>> 24 &&& 0xFF) = (w >>> 24).toUInt8 := toItem_shift w (by decide)
  rw [h0, h8, h16, h24, Equiv.permCongr_apply, Equiv.symm_symm, toBytes_eq,
    Equiv.apply_symm_apply]
  rfl

theorem KI203Algo_oneToOne {parameters : List Parameter} {k : Bytes}
    (hk : paramBytes parameters "K" = .ok k) (level : Int) :
    OneToOne fun seed => KI203Algo.generateKey seed 4 level parameters := by
  obtain ⟨root, hword⟩ := paramWord_word hk .big
  -- the ones are counted in the root, so the rotation is the same for all seeds
  let mix : Equiv.Perm UInt32 := (Word.rotation 3).trans <| (Equiv.xor root).trans
    (Word.rotation (countOnes root.toNat)).symm
  refine oneToOne_of_perm ((bytesOfWord.symm.permCongr regroup).trans <| mix.trans
    (bytesOfWord.symm.permCongr reorder)) fun w => ?_
  have hmix : ∀ v : UInt32, rotateRight (rotateLeft v.toNat 3 ^^^ root.toNat)
      (countOnes root.toNat) = (mix v).toNat := by
    intro v
    rw [← rotation_toNat, Nat.xor_comm, ← UInt32.toNat_xor, ← rotation_symm_toNat]
    rfl
  unfold KI203Algo.generateKey
  rw [if_neg (by simp [Word.toBytes]), hword, ok_bind, toBytes_eq]
  simp only [Py.index, List.getElem?_cons_zero, List.getElem?_cons_succ, ok_bind]
  rw [regrouped_word, hmix]
  exact congrArg (fun key => Except.ok (some key)) (reordered_word _)

/-! ## Nibbles -/

theorem collapse_nibbles (b : UInt8) :
    toItem ((b >>> 4 &&& 0xF).toNat <<< 4 ||| (b &&& 0xF).toNat) = b := by
  have hlt := b.toNat_lt
  have hlow : (b &&& 0xF).toNat = b.toNat % 2 ^ 4 := Nat.and_two_pow_sub_one_eq_mod b.toNat 4
  have hhigh : (b >>> 4 &&& 0xF).toNat = b.toNat / 2 ^ 4 % 2 ^ 4 := by
    rw [UInt8.toNat_and, UInt8.toNat_shiftRight, Nat.shiftRight_eq_div_pow]
    exact Nat.and_two_pow_sub_one_eq_mod _ 4
  rw [hlow, hhigh, ← Nat.shiftLeft_add_eq_or_of_lt (Nat.mod_lt _ (by omega)), Nat.shiftLeft_eq,
    show b.toNat / 2 ^ 4 % 2 ^ 4 * 2 ^ 4 + b.toNat % 2 ^ 4 = b.toNat by omega]
  exact UInt8.ofNat_toNat

/-- **The nibbles of bytes are put together to these bytes.** -/
theorem collapseNibbles_expandNibbles (data : Bytes) :
    collapseNibbles (expandNibbles data) = .ok data := by
  induction data with
  | nil => rfl
  | cons b data ih =>
    rw [expandNibbles, List.flatMap_cons, ← expandNibbles, List.cons_append, List.cons_append,
      List.nil_append, collapseNibbles, ih, ok_bind, collapse_nibbles]
    rfl

theorem expandNibbles_injective : Function.Injective expandNibbles := by
  intro data data' h
  have hcollapse := collapseNibbles_expandNibbles data
  rw [h, collapseNibbles_expandNibbles data'] at hcollapse
  exact (Except.ok.inj hcollapse).symm

theorem expand_nibbles {hi lo : UInt8} (hhi : hi.toNat < 16) (hlo : lo.toNat < 16) :
    toItem (hi.toNat <<< 4 ||| lo.toNat) >>> 4 &&& 0xF = hi
      ∧ toItem (hi.toNat <<< 4 ||| lo.toNat) &&& 0xF = lo := by
  have hall : ∀ i j : Fin 16, toItem (i.val <<< 4 ||| j.val) >>> 4 &&& 0xF = UInt8.ofNat i.val
      ∧ toItem (i.val <<< 4 ||| j.val) &&& 0xF = UInt8.ofNat j.val := by
    decide
  have h := hall ⟨hi.toNat, hhi⟩ ⟨lo.toNat, hlo⟩
  rwa [UInt8.ofNat_toNat, UInt8.ofNat_toNat] at h

/-- **Bytes that were put together fall into their nibbles.** -/
theorem expandNibbles_of_collapseNibbles {key data : Bytes} (hkey : ∀ n ∈ key, n.toNat < 16)
    (h : collapseNibbles key = .ok data) : expandNibbles data = key := by
  induction key using collapseNibbles.induct generalizing data with
  | case1 =>
    cases h
    rfl
  | case2 b => cases h
  | case3 hi lo key ih =>
    obtain ⟨more, hmore, h⟩ := bind_ok h
    cases h
    obtain ⟨hhi, hkey⟩ := List.forall_mem_cons.mp hkey
    obtain ⟨hlo, hkey⟩ := List.forall_mem_cons.mp hkey
    obtain ⟨hhigh, hlow⟩ := expand_nibbles hhi hlo
    rw [expandNibbles, List.flatMap_cons, ← expandNibbles, ih hkey hmore, hhigh, hlow]
    rfl

/-! ## The signed tables -/

/-- The sum is a numeral whose digits are looked up, each in its row. -/
theorem keyResult_value {rows : List (List Int)} (hrows : ∀ row ∈ rows, row.Nodup)
    {nibbles : Bytes} (hlen : nibbles.length = rows.length) {result z : Int}
    (h : IC172Algo2.keyResult (rows.zip nibbles) result = .ok z) :
    ∃ ds, List.Forall₂ (· ∈ ·) ds rows
      ∧ nibbles.map UInt8.toNat = List.zipWith (fun d row => row.idxOf d) ds rows
      ∧ z = result + Numeral.value 16 ds := by
  induction rows generalizing nibbles result with
  | nil =>
    cases List.length_eq_zero_iff.mp hlen
    cases h
    exact ⟨[], .nil, rfl, (Int.add_zero _).symm⟩
  | cons row rows ih =>
    cases nibbles with
    | nil => cases hlen
    | cons n nibbles =>
      obtain ⟨hrow, hrows⟩ := List.forall_mem_cons.mp hrows
      have hlen : nibbles.length = rows.length := Nat.succ.inj hlen
      obtain ⟨d, hd, h⟩ := bind_ok h
      obtain ⟨ds, hds, hidx, hz⟩ := ih hrows hlen h
      obtain ⟨hlt, hget⟩ := List.getElem?_eq_some_iff.mp (Py.item_ok_iff.mp hd)
      refine ⟨d :: ds, .cons (hget ▸ List.getElem_mem hlt) hds, ?_, ?_⟩
      · rw [List.map_cons, List.zipWith_cons_cons, ← hidx, ← hget, hrow.idxOf_getElem]
      · rw [hz, Numeral.value, hds.length_eq, List.length_zipWith, hlen, Nat.min_self, pow_mul,
          Int.add_assoc]
        rfl

/-- The nibbles can be read back from the last bits of the sum. -/
theorem keyResult_injective {rows : List (List Int)}
    (hrows : ∀ row ∈ rows, row.Nodup ∧ Numeral.Distinct 16 row) {nibbles nibbles' : Bytes}
    (hlen : nibbles.length = rows.length) (hlen' : nibbles'.length = rows.length)
    {result z z' : Int} (h : IC172Algo2.keyResult (rows.zip nibbles) result = .ok z)
    (h' : IC172Algo2.keyResult (rows.zip nibbles') result = .ok z')
    (hz : z ≡ z' [ZMOD 16 ^ rows.length]) : nibbles = nibbles' := by
  have hnodup : ∀ row ∈ rows, row.Nodup := fun row hrow => (hrows row hrow).1
  obtain ⟨ds, hds, hidx, rfl⟩ := keyResult_value hnodup hlen h
  obtain ⟨ds', hds', hidx', rfl⟩ := keyResult_value hnodup hlen' h'
  have heq : ds = ds' := Numeral.eq_of_value_modEq (by decide)
    (fun row hrow => (hrows row hrow).2) hds hds' (hz.add_left_cancel' result)
  rw [heq, ← hidx'] at hidx
  exact List.map_injective_iff.mpr (fun _ _ => UInt8.toNat_inj.mp) hidx

theorem ofInt_eq_iff {z z' : Int} : UInt32.ofInt z = UInt32.ofInt z' ↔ z ≡ z' [ZMOD 2 ^ 32] := by
  rw [← UInt32.toNat_inj]
  simp only [UInt32.ofInt, UInt32.toNat_ofNat', Int.ModEq]
  omega

theorem IC172Algo2_oneToOne (level : Int) (parameters : List Parameter) :
    OneToOne fun seed => IC172Algo2.generateKey seed 4 level parameters := by
  have hpool : ∀ row ∈ IC172Algo2.keyPool, row.length = 16 ∧ row.Nodup
      ∧ Numeral.Distinct 16 row := by
    decide
  have hreturns : ∀ w, ∃ z, IC172Algo2.keyResult
      (IC172Algo2.keyPool.zip (expandNibbles (Word.toBytes w))) 0 = .ok z := by
    intro w
    refine returns_keyResult (fun entry hentry => ?_) 0
    obtain ⟨hrow, hnibble⟩ := List.of_mem_zip hentry
    exact ⟨(hpool _ hrow).1, nibble_lt hnibble⟩
  choose z hz using hreturns
  have hinj : Function.Injective fun w => UInt32.ofInt (z w) := by
    intro w w' hw
    have hnibbles := keyResult_injective (fun row hrow => (hpool row hrow).2)
      (expandNibbles_length _) (expandNibbles_length _) (hz w) (hz w') (ofInt_eq_iff.mp hw)
    exact toBytes_bijOn.injOn trivial trivial (expandNibbles_injective hnibbles)
  -- there are finitely many words, so none of them is left out
  refine oneToOne_of_perm (Equiv.ofBijective _ (Finite.injective_iff_bijective.mp hinj))
    fun w => ?_
  unfold IC172Algo2.generateKey
  rw [if_neg (by simp [Word.toBytes])]
  dsimp only
  rw [hz w, ok_bind, intToBytes_big]
  rfl

/-! ## The transposed nibbles -/

/-- A row of different nibbles gives back the one it was asked for. -/
theorem nibble_injective {seedInput seedInput' row : Bytes} {place : Nat}
    (hrow : (expandNibbles row).Nodup) {b : UInt8}
    (h : IC172Algo1.nibble seedInput row place = .ok b)
    (h' : IC172Algo1.nibble seedInput' row place = .ok b) :
    seedInput[place]? = seedInput'[place]? := by
  obtain ⟨i, hi, hb⟩ := bind_ok h
  obtain ⟨i', hi', hb'⟩ := bind_ok h'
  have hb := Py.index_ok_iff.mp hb
  have hb' := Py.index_ok_iff.mp hb'
  have hplace := (List.getElem?_inj (lt_of_index (Py.index_ok_iff.mpr hb)) hrow).mp
    (hb.trans hb'.symm)
  rw [Py.index_ok_iff.mp hi, Py.index_ok_iff.mp hi', UInt8.toNat_inj.mp hplace]

theorem intermediateKey_injective {seedInput seedInput' : Bytes} {entries : List (Bytes × Nat)}
    (hrows : ∀ entry ∈ entries, (expandNibbles entry.1).Nodup) {key : Bytes}
    (h : IC172Algo1.intermediateKey seedInput entries = .ok key)
    (h' : IC172Algo1.intermediateKey seedInput' entries = .ok key) :
    ∀ entry ∈ entries, seedInput[entry.2]? = seedInput'[entry.2]? := by
  induction entries generalizing key with
  | nil => exact fun entry hentry => absurd hentry List.not_mem_nil
  | cons entry entries ih =>
    obtain ⟨hrow, hrows⟩ := List.forall_mem_cons.mp hrows
    obtain ⟨b, hb, h⟩ := bind_ok h
    obtain ⟨more, hmore, h⟩ := bind_ok h
    cases h
    obtain ⟨b', hb', h'⟩ := bind_ok h'
    obtain ⟨more', hmore', h'⟩ := bind_ok h'
    cases h'
    exact List.forall_mem_cons.mpr ⟨nibble_injective hrow hb hb', ih hrows hmore hmore'⟩

theorem intermediateKey_nibbles (seedInput : Bytes) (entries : List (Bytes × Nat)) :
    Yields (fun key => ∀ n ∈ key, n.toNat < 16)
      (IC172Algo1.intermediateKey seedInput entries) := by
  induction entries with
  | nil => exact yields_ok fun n hn => absurd hn List.not_mem_nil
  | cons entry entries ih =>
    intro key h
    obtain ⟨b, hb, h⟩ := bind_ok h
    obtain ⟨more, hmore, h⟩ := bind_ok h
    cases h
    obtain ⟨i, -, hb⟩ := bind_ok hb
    exact List.forall_mem_cons.mpr ⟨nibble_lt (mem_of_index hb), ih more hmore⟩

/-- The entries of the loop of `IC172Algo1`. -/
def transposed : List (Bytes × Nat) := IC172Algo1.keyPool.zip IC172Algo1.transpositionTable

/-- Every nibble of the seed is looked up in one of the rows. -/
theorem transposed_injective {seedInput seedInput' : Bytes} (hlen : seedInput.length = 8)
    (hlen' : seedInput'.length = 8) {key : Bytes}
    (h : IC172Algo1.intermediateKey seedInput transposed = .ok key)
    (h' : IC172Algo1.intermediateKey seedInput' transposed = .ok key) :
    seedInput = seedInput' := by
  have hrows : ∀ entry ∈ transposed, (expandNibbles entry.1).Nodup := by decide
  have hplaces : ∀ i < 8, ∃ entry ∈ transposed, entry.2 = i := by decide
  refine List.ext_getElem? fun i => ?_
  by_cases hi : i < 8
  · obtain ⟨entry, hentry, rfl⟩ := hplaces i hi
    exact intermediateKey_injective hrows h h' entry hentry
  · rw [List.getElem?_eq_none (by omega), List.getElem?_eq_none (by omega)]

/-- The key of a seed of eight bytes, by the nibbles it is put together from. -/
theorem IC172Algo1_key {seed : Bytes} (hseed : seed.length = 8) (level : Int)
    (parameters : List Parameter) :
    ∃ used assembledKey : Bytes, [0, 2, 4, 6].map (fun i => seed[i]?) = used.map some
      ∧ IC172Algo1.intermediateKey (expandNibbles used) transposed
        = .ok (expandNibbles assembledKey)
      ∧ IC172Algo1.generateKey seed 8 level parameters
        = .ok (some (assembledKey ++ [0x55, 0x45, 0x43, 0x55])) := by
  have hitem : ∀ i < 8, ∃ b, seed[i]? = some b :=
    fun i hi => ⟨_, List.getElem?_eq_getElem (hseed ▸ hi)⟩
  obtain ⟨s0, h0⟩ := hitem 0 (by decide)
  obtain ⟨s2, h2⟩ := hitem 2 (by decide)
  obtain ⟨s4, h4⟩ := hitem 4 (by decide)
  obtain ⟨s6, h6⟩ := hitem 6 (by decide)
  have htable : ∀ entry ∈ transposed, entry.1.length = 8 ∧ entry.2 < 8 := by decide
  have hentries : ∀ entry ∈ transposed, entry.1.length = 8
      ∧ entry.2 < (expandNibbles [s0, s2, s4, s6]).length := by
    rw [expandNibbles_length]
    exact htable
  obtain ⟨key, hkey⟩ := returns_intermediateKey (fun n hn => nibble_lt hn) hentries
  have hlen : key.length = 8 := intermediateKey_yields _ _ key hkey
  obtain ⟨assembledKey, hassembled⟩ := returns_collapseNibbles (by omega : key.length % 2 = 0)
  have hfour : 2 * assembledKey.length = key.length :=
    collapseNibbles_yields key assembledKey hassembled
  -- the bytes that are returned expand to the nibbles they were collapsed from
  have hexpand := expandNibbles_of_collapseNibbles (intermediateKey_nibbles _ _ key hkey) hassembled
  refine ⟨[s0, s2, s4, s6], assembledKey, ?_, hexpand ▸ hkey, ?_⟩
  · simp only [List.map_cons, List.map_nil, h0, h2, h4, h6]
  · unfold IC172Algo1.generateKey
    rw [if_neg (by simp [hseed]), Py.index_ok_iff.mpr h0, Py.index_ok_iff.mpr h2,
      Py.index_ok_iff.mpr h4, Py.index_ok_iff.mpr h6]
    simp only [ok_bind]
    rw [← transposed, hkey, ok_bind, hassembled, ok_bind, List.take_of_length_le (by omega)]
    rfl

/-- The bytes that are left out are the odd ones, and no others. -/
theorem IC172Algo1_same {seed seed' : Bytes} (hseed : seed.length = 8) (hseed' : seed'.length = 8)
    (level : Int) (parameters : List Parameter) :
    ∃ key key', IC172Algo1.generateKey seed 8 level parameters = .ok (some key)
      ∧ IC172Algo1.generateKey seed' 8 level parameters = .ok (some key')
      ∧ (key = key' ↔ ∀ i ∈ [0, 2, 4, 6], seed[i]? = seed'[i]?) := by
  obtain ⟨used, assembledKey, hused, hnibbles, hkey⟩ := IC172Algo1_key hseed level parameters
  obtain ⟨used', assembledKey', hused', hnibbles', hkey'⟩ := IC172Algo1_key hseed' level parameters
  have hlen : used.length = 4 := by
    simpa using (congrArg List.length hused).symm
  have hlen' : used'.length = 4 := by
    simpa using (congrArg List.length hused').symm
  refine ⟨_, _, hkey, hkey', ?_⟩
  rw [List.append_cancel_right_eq, ← List.map_inj_left, hused, hused',
    (List.map_injective_iff.mpr (Option.some_injective UInt8)).eq_iff]
  constructor
  · rintro rfl
    refine expandNibbles_injective (transposed_injective ?_ ?_ hnibbles hnibbles')
    · rw [expandNibbles_length, hlen]
    · rw [expandNibbles_length, hlen']
  · rintro rfl
    rw [hnibbles] at hnibbles'
    exact expandNibbles_injective (Except.ok.inj hnibbles')

/-! ## All of them -/

/--
**No seed is lost.** Each of the four providers of four bytes maps the seeds one-to-one
onto the keys, whatever bytes its parameters hold, and `IC172Algo1` gives two seeds one
key exactly if they agree in the bytes 0, 2, 4 and 6.
-/
theorem generateKey_lossless (parameters : List Parameter) (level : Int) :
    (∀ k, paramBytes parameters "K" = .ok k →
        OneToOne fun seed => KI203Algo.generateKey seed 4 level parameters)
      ∧ (∀ k, paramBytes parameters "KeyConst" = .ok k →
        OneToOne fun seed => SWSP177.generateKey seed 4 level parameters)
      ∧ (∀ xor add, paramBytes parameters "Xor" = .ok xor → paramBytes parameters "Add" = .ok add →
        OneToOne fun seed => KI221Algo2.generateKey seed 4 level parameters)
      ∧ OneToOne (fun seed => IC172Algo2.generateKey seed 4 level parameters)
      ∧ ∀ seed seed', seed.length = 8 → seed'.length = 8 →
        ∃ key key', IC172Algo1.generateKey seed 8 level parameters = .ok (some key)
          ∧ IC172Algo1.generateKey seed' 8 level parameters = .ok (some key')
          ∧ (key = key' ↔ ∀ i ∈ [0, 2, 4, 6], seed[i]? = seed'[i]?) :=
  ⟨fun _ hk => KI203Algo_oneToOne hk level, fun _ hk => SWSP177_oneToOne hk level,
    fun _ _ hxor hadd => KI221Algo2_oneToOne hxor hadd level, IC172Algo2_oneToOne level parameters,
    fun _ _ hseed hseed' => IC172Algo1_same hseed hseed' level parameters⟩

/-- A definition with every parameter of four bytes. -/
def fourByteRows : List Parameter :=
  [⟨"K", "1A2B3C4D", "ByteArray"⟩, ⟨"KeyConst", "F0E1D2C3", "ByteArray"⟩,
    ⟨"Xor", "78253947", "ByteArray"⟩, ⟨"Add", "83249272", "ByteArray"⟩]

/-- The two seeds for `IC172Algo1` differ in their seventh byte, and so do their keys. -/
theorem generateKey_lossless_four :
    (OneToOne fun seed => KI203Algo.generateKey seed 4 1 fourByteRows)
      ∧ (OneToOne fun seed => SWSP177.generateKey seed 4 1 fourByteRows)
      ∧ (OneToOne fun seed => KI221Algo2.generateKey seed 4 1 fourByteRows)
      ∧ ∃ key key',
        IC172Algo1.generateKey [1, 2, 3, 4, 5, 6, 7, 8] 8 1 fourByteRows = .ok (some key)
        ∧ IC172Algo1.generateKey [1, 0, 3, 0, 5, 0, 9, 0] 8 1 fourByteRows = .ok (some key')
        ∧ key ≠ key' := by
  obtain ⟨hKI203, hSWSP177, hKI221, -, hIC172⟩ := generateKey_lossless fourByteRows 1
  refine ⟨hKI203 [0x1A, 0x2B, 0x3C, 0x4D] (by decide +kernel),
    hSWSP177 [0xF0, 0xE1, 0xD2, 0xC3] (by decide +kernel),
    hKI221 [0x78, 0x25, 0x39, 0x47] [0x83, 0x24, 0x92, 0x72] (by decide +kernel)
      (by decide +kernel), ?_⟩
  obtain ⟨key, key', hkey, hkey', hsame⟩ :=
    hIC172 [1, 2, 3, 4, 5, 6, 7, 8] [1, 0, 3, 0, 5, 0, 9, 0] rfl rfl
  exact ⟨key, key', hkey, hkey', fun heq => absurd (hsame.mp heq) (by decide)⟩

end AutoDiag.Proof
