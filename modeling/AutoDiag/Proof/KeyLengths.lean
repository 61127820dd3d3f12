import AutoDiag.Proof.Unlock
import AutoDiag.Security.Registry

/-!
# Every key has the length it was asked for

`Fits` says it of one provider. It is proved for each registered provider by the
rules for postconditions, and carried through `compute_key` to the message that
`unlock` sends.
-/

namespace AutoDiag.Proof

open Raise Security BitUtility

/-! ## One provider -/

/-- A key, where there is one, has `n` bytes. -/
def HasLength (n : Int) (key : Option Bytes) : Prop := ∀ k, key = some k → (k.length : Int) = n

/-- The provider returns keys of the length asked for only. -/
def Fits (p : Provider) : Prop :=
  ∀ seed keyLength accessLevel parameters,
    Yields (HasLength keyLength) (p seed keyLength accessLevel parameters)

/-- No key is of any length. -/
theorem hasLength_none (n : Int) : HasLength n none := by
  intro k h
  cases h

theorem hasLength_some {n : Int} {k : Bytes} (h : (k.length : Int) = n) : HasLength n (some k) := by
  intro k' hk
  rw [← Option.some.inj hk, h]

/-- A seed that is turned away leaves no key to measure. -/
theorem yields_none {n : Int} : Yields (HasLength n) (pure none : Except Exn (Option Bytes)) :=
  yields_pure (hasLength_none n)

/-- A provider that turns a seed away unless the lengths are right. -/
theorem yields_guarded {n m : Int} {c : Prop} [Decidable c] {x : Except Exn (Option Bytes)}
    (h : n = m → Yields (HasLength n) x) :
    Yields (HasLength n) (if c ∨ n ≠ m then pure none else x) :=
  yields_ite (fun _ => yields_none) fun hg => h (not_not.mp (not_or.mp hg).2)

/-- `int_to_bytes` always writes four bytes. -/
theorem intToBytes_length (x : Int) (e : Endian) : (intToBytes x e).length = 4 := by
  cases e <;> simp [intToBytes, Py.toBytesBig]

/-- A word is written as four bytes, in either order. -/
theorem yields_word {n : Int} (h : n = 4) (x : Int) (e : Endian) :
    Yields (HasLength n) (pure (some (intToBytes x e)) : Except Exn (Option Bytes)) :=
  yields_pure (hasLength_some (by rw [intToBytes_length, h]; rfl))

/-! ## Words -/

/-- The constants may come from anywhere: only the guard and the word written count. -/
theorem fits_affine (key : String)
    (constants : List Parameter → Except Exn (Int × Int × Int × Int)) :
    Fits (affine key constants) := by
  intro seed keyLength accessLevel parameters
  refine yields_bind fun _ => yields_bind fun ⟨kA, kC, kA', kC'⟩ => ?_
  exact yields_guarded fun h => yields_word h _ _

/-- The three providers that mask, xor and add differ in how they finish a word. -/
theorem fits_maskXorAdd (a b c : String) (finish : Nat → Nat) :
    Fits (maskXorAdd a b c finish) := by
  intro seed keyLength accessLevel parameters
  refine yields_bind fun _ => yields_bind fun _ => yields_bind fun _ => ?_
  exact yields_guarded fun h => yields_word h _ _

theorem fits_EDIFF290 : Fits EDIFF290.generateKey := by
  intro seed keyLength accessLevel parameters
  refine yields_bind fun _ => yields_bind fun _ => yields_bind fun _ => ?_
  exact yields_guarded fun h => yields_bind fun _ => yields_word h _ _

theorem fits_DRVU_PROF : Fits DRVU_PROF.generateKey := by
  intro seed keyLength accessLevel parameters
  refine yields_bind fun _ => ?_
  exact yields_guarded fun h => yields_bind fun _ => yields_word h _ _

theorem fits_MarquardtSecurityAlgo : Fits MarquardtSecurityAlgo.generateKey := by
  intro seed keyLength accessLevel parameters
  refine yields_bind fun _ => yields_bind fun _ => yields_bind fun _ => ?_
  exact yields_guarded fun h => yields_bind fun _ => yields_word h _ _

theorem fits_VGSSecurityAlgo : Fits VGSSecurityAlgo.generateKey := by
  intro seed keyLength accessLevel parameters
  refine yields_bind fun _ => ?_
  exact yields_guarded fun h => yields_word h _ _

theorem fits_VGSSecurityAlgoExt : Fits VGSSecurityAlgoExt.generateKey := by
  intro seed keyLength accessLevel parameters
  refine yields_bind fun _ => yields_bind fun _ => ?_
  exact yields_guarded fun h => yields_word h _ _

theorem fits_KI221Algo2 : Fits KI221Algo2.generateKey := by
  intro seed keyLength accessLevel parameters
  unfold KI221Algo2.generateKey
  exact yields_guarded fun h => yields_bind fun _ => yields_bind fun _ => yields_word h _ _

/-- The length of the key is checked before that of the seed. -/
theorem fits_ORC166 : Fits ORC166.generateKey := by
  intro seed keyLength accessLevel parameters
  -- here the guard stands in two checks
  refine yields_bind fun _ => yields_ite (fun _ => yields_none) fun h => ?_
  refine yields_ite (fun _ => yields_none) fun _ => ?_
  exact yields_bind fun _ => yields_bind fun _ => yields_bind fun _ => yields_bind fun _ =>
    yields_word (not_not.mp h) _ _

theorem fits_SWSP177 : Fits SWSP177.generateKey := by
  intro seed keyLength accessLevel parameters
  refine yields_bind fun _ => ?_
  exact yields_guarded fun h => yields_word h _ _

/-- Four bytes of the key are bytes of words, each cut out on its own. -/
theorem fits_KI203Algo : Fits KI203Algo.generateKey := by
  intro seed keyLength accessLevel parameters
  unfold KI203Algo.generateKey
  refine yields_guarded fun h => ?_
  iterate 9 refine yields_bind fun _ => ?_
  exact yields_pure (hasLength_some h.symm)

/-! ## Two bytes, and copies -/

/-- The seed is as long as the key asked for, and so is the seed turned round. -/
theorem fits_ArrayReverseAlgo : Fits ArrayReverseAlgo.generateKey := by
  intro seed keyLength accessLevel parameters
  refine yields_ite (fun _ => yields_none) fun h => ?_
  exact yields_ok (hasLength_some (by rw [List.length_reverse, not_not.mp h]))

/-- `zip` stops at the shorter list, but both are as long as the key asked for. -/
theorem fits_XorAlgo : Fits XorAlgo.generateKey := by
  intro seed keyLength accessLevel parameters
  refine yields_bind fun xorKey => yields_ite (fun _ => yields_none) fun h => ?_
  obtain ⟨hlen, hkey⟩ := not_or.mp h
  refine yields_pure (hasLength_some ?_)
  rw [List.length_zipWith, ← not_not.mp hkey, Nat.min_self]
  exact not_not.mp hlen

/-- A copy of a seed that has the length asked for. -/
theorem fits_copySeed (n : Nat) : Fits (copySeed n) := by
  intro seed keyLength accessLevel parameters
  refine yields_ite (fun _ => yields_none) fun h => ?_
  obtain ⟨hlen, hkey⟩ := not_or.mp h
  exact yields_ok (hasLength_some (by rw [not_not.mp hlen, not_not.mp hkey]))

/-- A provider that makes two bytes of two. -/
theorem fits_ofTwoBytes {key : UInt8 → UInt8 → Bytes} (hkey : ∀ s0 s1, (key s0 s1).length = 2) :
    Fits (ofTwoBytes key) := by
  intro seed keyLength accessLevel parameters
  unfold ofTwoBytes
  refine yields_guarded fun h => yields_bind fun s0 => yields_bind fun s1 => ?_
  exact yields_pure (hasLength_some (by rw [hkey, h]; rfl))

/-- A number is cut to two bytes. -/
theorem yields_twoBytes {n : Int} (h : n = 2) (x : Nat) :
    Yields (HasLength n) (pure (some (twoBytes x)) : Except Exn (Option Bytes)) :=
  yields_pure (hasLength_some h.symm)

theorem fits_VGSSecurityAlgo2Bytes : Fits VGSSecurityAlgo2Bytes.generateKey := by
  intro seed keyLength accessLevel parameters
  refine yields_bind fun _ => yields_bind fun _ => yields_bind fun _ => ?_
  exact yields_guarded fun h => yields_bind fun _ => yields_bind fun _ => yields_twoBytes h _

/-- Six bytes of the constant and two of the seed are read on the way. -/
theorem fits_HondaAlgo1 : Fits HondaAlgo1.generateKey := by
  intro seed keyLength accessLevel parameters
  unfold HondaAlgo1.generateKey
  refine yields_guarded fun h => ?_
  iterate 9 refine yields_bind fun _ => ?_
  exact yields_twoBytes h _

theorem fits_NetaAlgo1 : Fits NetaAlgo1.generateKey := by
  intro seed keyLength accessLevel parameters
  unfold NetaAlgo1.generateKey
  refine yields_ite (fun _ => yields_none) fun h => ?_
  refine yields_ite (fun _ => yields_none) fun _ => ?_
  exact yields_bind fun _ => yields_bind fun _ => yields_bind fun _ =>
    yields_twoBytes (not_not.mp h) _

theorem fits_PowertrainBoschContiSecurityAlgo1 :
    Fits PowertrainBoschContiSecurityAlgo1.generateKey := by
  intro seed keyLength accessLevel parameters
  refine yields_bind fun _ => yields_bind fun _ => yields_guarded fun h => ?_
  iterate 5 refine yields_bind fun _ => ?_
  exact yields_twoBytes h _

theorem fits_PowertrainBoschContiSecurityAlgo2 :
    Fits PowertrainBoschContiSecurityAlgo2.generateKey := by
  intro seed keyLength accessLevel parameters
  refine yields_bind fun _ => yields_bind fun _ => yields_guarded fun h => ?_
  iterate 5 refine yields_bind fun _ => ?_
  exact yields_twoBytes h _

/-- `bytearray(n)` raises below zero, and else has `n` bytes. -/
theorem zeroBytes_yields (n : Int) :
    Yields (fun b => (b.length : Int) = n) (RenaultRadio.zeroBytes n) := by
  refine yields_ite (fun _ => yields_error _) fun h => yields_ok ?_
  rw [List.length_replicate]
  omega

/-- The only provider that writes into a buffer of the length asked for: writing keeps it. -/
theorem fits_RenaultRadio : Fits RenaultRadio.generateKey := by
  intro seed keyLength accessLevel parameters
  unfold RenaultRadio.generateKey
  refine yields_ite (fun _ => yields_none) fun _ => ?_
  iterate 4 refine yields_bind fun _ => ?_
  refine yields_ite (fun _ => yields_none) fun _ => ?_
  -- the buffer is made here; from here on only its bytes change
  refine yields_bind_of (zeroBytes_yields keyLength) fun outKey hlen => ?_
  refine yields_ite (fun _ => yields_none) fun _ => ?_
  iterate 4 refine yields_bind fun _ => ?_
  exact yields_pure (hasLength_some (by rw [List.length_set, List.length_set, hlen]))

/-! ## Instrument clusters -/

/-- Each entry of the table gives one nibble, by induction over the table. -/
theorem intermediateKey_yields (seedInput : Bytes) (entries : List (Bytes × Nat)) :
    Yields (fun key => key.length = entries.length)
      (IC172Algo1.intermediateKey seedInput entries) := by
  induction entries with
  | nil => exact yields_ok rfl
  | cons entry entries ih =>
    refine yields_bind fun b => yields_bind_of ih fun more hmore => yields_pure ?_
    rw [List.length_cons, List.length_cons, hmore]

/-- Two nibbles make a byte; an odd one out raises. -/
theorem collapseNibbles_yields (data : Bytes) :
    Yields (fun out => 2 * out.length = data.length) (collapseNibbles data) := by
  induction data using collapseNibbles.induct with
  | case1 => exact yields_ok rfl
  | case2 b => exact yields_error _
  | case3 hi lo data ih =>
    refine yields_bind_of ih fun more hmore => yields_pure ?_
    simp only [List.length_cons]
    omega

/-- Eight nibbles make four bytes, and four fixed bytes follow. -/
theorem fits_IC172Algo1 : Fits IC172Algo1.generateKey := by
  intro seed keyLength accessLevel parameters
  unfold IC172Algo1.generateKey
  refine yields_guarded fun h => ?_
  iterate 4 refine yields_bind fun _ => ?_
  refine yields_bind_of (intermediateKey_yields _ _) fun key hkey => ?_
  refine yields_bind_of (collapseNibbles_yields key) fun assembledKey hlen => ?_
  -- the table has eight entries
  have h8 : key.length = 8 := hkey
  refine yields_pure (hasLength_some ?_)
  simp only [List.length_append, List.length_take, List.length_cons, List.length_nil]
  omega

theorem fits_IC172Algo2 : Fits IC172Algo2.generateKey := by
  intro seed keyLength accessLevel parameters
  unfold IC172Algo2.generateKey
  exact yields_guarded fun h => yields_bind fun _ => yields_word h _ _

theorem fits_KI221Algo1 : Fits KI221Algo1.generateKey := by
  intro seed keyLength accessLevel parameters
  unfold KI221Algo1.generateKey
  refine yields_guarded fun h => ?_
  iterate 15 refine yields_bind fun _ => ?_
  exact yields_pure (hasLength_some h.symm)

theorem fits_KIAlgo1 : Fits KIAlgo1.generateKey := by
  intro seed keyLength accessLevel parameters
  refine yields_bind fun _ => yields_bind fun _ => yields_guarded fun h => ?_
  iterate 9 refine yields_bind fun _ => ?_
  exact yields_pure (hasLength_some h.symm)

/-- The block of the cipher is the key. -/
theorem fits_IC204 : Fits IC204.generateKey := by
  intro seed keyLength accessLevel parameters
  refine yields_bind fun salt => yields_ite (fun _ => yields_none) fun h => ?_
  refine yields_ite (fun _ => yields_none) fun _ => yields_pure (hasLength_some ?_)
  rw [Vector.length_toList, not_not.mp (not_or.mp (not_or.mp h).2).1]
  rfl

theorem fits_VDOSecurityAlgo : Fits VDOSecurityAlgo.generateKey := by
  intro seed keyLength accessLevel parameters
  refine yields_bind fun _ => yields_bind fun _ => yields_guarded fun h => ?_
  refine yields_bind fun _ => yields_pure (hasLength_some ?_)
  rw [Vector.length_toList, h]
  rfl

/-! ## Powertrain -/

/-- Whatever way the rows are selected, the key is a word. -/
theorem fits_selectByParameters (cells i j : String)
    (createGValue : Nat → Nat → Nat → List (List Nat) → Except Exn Nat) :
    Fits (selectByParameters cells i j createGValue) := by
  intro seed keyLength accessLevel parameters
  refine yields_bind fun _ => yields_bind fun _ => yields_bind fun _ => ?_
  exact yields_guarded fun h => yields_bind fun _ => yields_word h _ _

theorem fits_selectFixed (dBits : UInt8 → UInt8 → UInt8 → UInt8 → Except Exn Selection)
    (gBits : UInt8 → UInt8 → UInt8 → UInt8 → Nat → Except Exn Selection) :
    Fits (selectFixed dBits gBits) := by
  intro seed keyLength accessLevel parameters
  refine yields_bind fun _ => yields_bind fun _ => yields_guarded fun h => ?_
  exact yields_bind fun _ => yields_word h _ _

theorem fits_PowertrainSecurityAlgo3 : Fits PowertrainSecurityAlgo3.generateKey := by
  intro seed keyLength accessLevel parameters
  unfold PowertrainSecurityAlgo3.generateKey
  exact yields_guarded fun h => yields_bind fun _ => yields_word h _ _

/-! ## Modern ECUs -/

/-- `to_bytes` raises for a number that does not fit, and else writes 32 bytes. -/
theorem toBytes32_yields (n : Int) :
    Yields (fun b => b.length = 32) (EsLibEd25519.toBytes32 n) := by
  refine yields_ite (fun _ => yields_ok ?_) fun _ => yields_error _
  simp [Py.toBytesBig]

/-- A signature is a point and a number, of 32 bytes each. -/
theorem signPrehash_yields (crypto : Crypto) (message seed : Bytes) :
    Yields (fun b => b.length = 64) (EsLibEd25519.signPrehash crypto message seed) := by
  refine yields_bind fun _ => ?_
  refine yields_bind_of (toBytes32_yields _) fun encodedR hR => ?_
  refine yields_bind_of (toBytes32_yields _) fun encodedS hS => yields_pure ?_
  rw [List.length_append, hR, hS]

/-- The signature has the 64 bytes asked for, so it replaces the whole buffer. -/
theorem fits_EsLibEd25519 (crypto : Crypto) : Fits (EsLibEd25519.generateKey crypto) := by
  intro seed keyLength accessLevel parameters
  refine yields_bind fun _ => yields_guarded fun h => ?_
  refine yields_bind_of (signPrehash_yields crypto _ _) fun signature hlen => ?_
  refine yields_pure (hasLength_some ?_)
  -- nothing of the buffer is left behind a signature of 64 bytes
  simp only [List.length_append, List.length_drop, List.length_replicate, hlen]
  omega

/-- A block of sixteen bytes is encrypted to as many. -/
def WholeBlocks (crypto : Crypto) : Prop :=
  ∀ key iv block out, block.length = 16 → crypto.aesCbc key iv block = .ok out → out.length = 16

/-- Behind the guard there is one whole block to encrypt. -/
theorem fits_SubaruSecurityAccess2018CY1 {crypto : Crypto} (haes : WholeBlocks crypto) :
    Fits (SubaruSecurityAccess2018CY1.generateKey crypto) := by
  intro seed keyLength accessLevel parameters
  refine yields_ite (fun _ => yields_none) fun h => yields_bind fun k => ?_
  obtain ⟨hseed, h⟩ := not_or.mp h
  have hblock : (seed.take 16).length = 16 := by rw [List.length_take]; omega
  refine yields_bind_of (fun out => haes k _ _ out hblock) fun out hlen => ?_
  refine yields_pure (hasLength_some ?_)
  simp only [List.length_append, List.length_take, List.length_drop, List.length_replicate, hlen]
  omega

theorem fits_VolkswagenSA2 : Fits Security.VolkswagenSA2.generateKey := by
  intro seed keyLength accessLevel parameters
  refine yields_bind fun _ => ?_
  exact yields_guarded fun h => yields_bind fun _ => yields_word h _ _

/-! ## All of them -/

/-- The registry names these providers and no others. -/
theorem fits_registered {crypto : Crypto} (haes : WholeBlocks crypto) {name : String}
    {p : Provider} (h : getProvider crypto name = some p) : Fits p := by
  have hall : ∀ entry ∈ providers crypto, Fits entry.2 := by
    simp only [providers, List.forall_mem_cons, List.not_mem_nil, false_implies, implies_true,
      and_true]
    refine ⟨fits_ArrayReverseAlgo, fits_DRVU_PROF, fits_affine _ _, fits_affine _ _,
      fits_affine _ _, fits_EDIFF290, fits_ofTwoBytes fun _ _ => rfl,
      fits_ofTwoBytes fun _ _ => rfl,
      fits_EsLibEd25519 crypto, fits_ofTwoBytes fun _ _ => rfl, fits_HondaAlgo1, fits_IC172Algo1,
      fits_IC172Algo2, fits_IC204, fits_KI203Algo, fits_KI221Algo1, fits_KI221Algo2, fits_KIAlgo1,
      fits_MarquardtSecurityAlgo, fits_NetaAlgo1, fits_copySeed _, fits_ORC166,
      fits_PowertrainBoschContiSecurityAlgo1, fits_PowertrainBoschContiSecurityAlgo2,
      fits_selectFixed _ _, fits_selectByParameters _ _ _ _, fits_selectByParameters _ _ _ _,
      fits_PowertrainSecurityAlgo3, fits_selectFixed _ _, fits_copySeed _,
      fits_maskXorAdd _ _ _ _, fits_maskXorAdd _ _ _ _, fits_RenaultRadio, fits_SWSP177,
      fits_SubaruSecurityAccess2018CY1 haes, fits_VDOSecurityAlgo, fits_VGSSecurityAlgo,
      fits_VGSSecurityAlgo2Bytes, fits_VGSSecurityAlgoExt, fits_VolkswagenSA2, fits_XorAlgo⟩
  -- a name that is found is that of an entry
  obtain ⟨before, after, hentries, -⟩ := List.lookup_eq_some_iff.mp h
  exact hall (name, p) (by rw [hentries]; simp)

/-- A key comes from the definition's provider, asked for the definition's key length. -/
theorem computeKey_ok {lib : Library} {ecuName : String} {level : Int} {seed key : Bytes}
    (h : computeKey lib ecuName level seed none = .ok key) :
    ∃ d p, findDefinition lib ecuName level = some d ∧ lib.getProvider d.provider = some p
      ∧ p seed d.keyLength level d.parameters = .ok (some key) := by
  unfold computeKey at h
  rw [Option.none_or] at h
  split at h
  · cases h
  · rename_i d hd
    split at h
    · cases h
    · rename_i p hp
      obtain ⟨k, hk, h⟩ := bind_ok h
      cases k with
      | none => cases h
      | some k =>
        cases h
        exact ⟨d, p, hd, hp, hk⟩

/--
**A key has as many bytes as were asked for.** So each request of an unlock is
the one for a seed, or one of two bytes and a key of the definition's length.
-/
theorem keys_fit (crypto : Crypto) (haes : WholeBlocks crypto) :
    (∀ (name : String) (p : Provider), getProvider crypto name = some p →
      ∀ (seed : Bytes) (keyLength accessLevel : Int) (parameters : List Parameter) (key : Bytes),
        p seed keyLength accessLevel parameters = .ok (some key) →
          (key.length : Int) = keyLength)
      ∧ ∀ (lib : Library), lib.getProvider = getProvider crypto →
        ∀ (f : Family) (σ : Type) (t : Transport σ) (maxPending : Nat) (s : σ) (ecuName : String)
          (level : Int), ∀ x ∈ (runUnlock lib f t maxPending s ecuName level).2,
            x.1 = [0x27, Py.lowByte level]
              ∨ ∃ d, findDefinition lib ecuName level = some d
                ∧ x.1.take 2 = [0x27, Py.lowByte (level + 1)]
                ∧ (x.1.length : Int) = 2 + d.keyLength := by
  refine ⟨?_, ?_⟩
  · intro name p hp seed keyLength accessLevel parameters key hkey
    exact fits_registered haes hp seed keyLength accessLevel parameters _ hkey key rfl
  · intro lib hlib f σ t maxPending s ecuName level x hx
    -- the run sends a request for the seed, and one with a key at the most
    rcases runUnlock_requests lib f t maxPending s ecuName level x hx with
      hseed | ⟨seed, key, hkey, hx⟩
    · exact .inl hseed
    · obtain ⟨d, p, hd, hp, hkey⟩ := computeKey_ok hkey
      rw [hlib] at hp
      have hlen := fits_registered haes hp seed d.keyLength level d.parameters _ hkey key rfl
      refine .inr ⟨d, hd, ?_, ?_⟩
      · rw [hx]
        rfl
      · rw [hx, List.length_cons, List.length_cons]
        omega

/-- A cipher that leaves the block as it is. -/
def plainCrypto : Crypto where
  sha512 _ := List.replicate 64 0
  aesCbc _ _ block := .ok block

/-- The constant `FFFF` inverts the two bytes of the seed. -/
theorem keys_fit_xor :
    WholeBlocks plainCrypto
      ∧ getProvider plainCrypto "XorAlgo" = some XorAlgo.generateKey
      ∧ XorAlgo.generateKey [0x12, 0x34] 2 1 [⟨"K", "FFFF", "ByteArray"⟩]
          = .ok (some [0xED, 0xCB])
      ∧ (([0xED, 0xCB] : Bytes).length : Int) = 2 := by
  have haes : WholeBlocks plainCrypto := by
    intro key iv block out hblock hout
    rw [← Except.ok.inj hout, hblock]
  have hp : getProvider plainCrypto "XorAlgo" = some XorAlgo.generateKey := by rfl
  have hkey : XorAlgo.generateKey [0x12, 0x34] 2 1 [⟨"K", "FFFF", "ByteArray"⟩]
      = .ok (some [0xED, 0xCB]) := by decide
  exact ⟨haes, hp, hkey, (keys_fit plainCrypto haes).1 "XorAlgo" _ hp _ _ _ _ _ hkey⟩

end AutoDiag.Proof
