import AutoDiag.Lib.BitField
import AutoDiag.Proof.Asked
import AutoDiag.Proof.KeyLengths

/-!
# Contracts of the providers of clusters and modern ECUs

The nibbles and the tables fit, so the older clusters never fail; a constant that
is too short, or a level beyond the block, stops the others.
-/

namespace AutoDiag.Proof

open Raise Security BitUtility

/-! ## Instrument clusters -/

/-- Each byte is two nibbles. -/
theorem expandNibbles_length (data : Bytes) : (expandNibbles data).length = 2 * data.length := by
  induction data with
  | nil => rfl
  | cons b data ih =>
    rw [expandNibbles, List.flatMap_cons, List.length_append, ← expandNibbles, ih]
    simp only [List.length_cons, List.length_nil]
    omega

/-- A nibble indexes a row of sixteen. -/
theorem nibble_lt {data : Bytes} {n : UInt8} (h : n ∈ expandNibbles data) : n.toNat < 16 := by
  obtain ⟨b, -, hn⟩ := List.mem_flatMap.mp h
  have hmask : ∀ c : UInt8, (c &&& 0xF).toNat < 16 := fun c =>
    Nat.lt_succ_of_le (Nat.and_le_right : c.toNat &&& 15 ≤ 15)
  rcases List.mem_cons.mp hn with rfl | hn
  · exact hmask _
  · rw [List.mem_singleton.mp hn]
    exact hmask b

/-- Only an odd nibble raises. -/
theorem returns_collapseNibbles {data : Bytes} (h : data.length % 2 = 0) :
    Returns (collapseNibbles data) := by
  induction data using collapseNibbles.induct with
  | case1 => exact returns_ok []
  | case2 b => simp at h
  | case3 hi lo data ih =>
    refine returns_bind (ih ?_) fun _ _ => returns_pure _
    simp only [List.length_cons] at h
    omega

/-- Each row has its sixteen nibbles and each place is one of the seed, by induction over the table.
-/
theorem returns_intermediateKey {seedInput : Bytes} (hnibbles : ∀ n ∈ seedInput, n.toNat < 16)
    {entries : List (Bytes × Nat)}
    (h : ∀ entry ∈ entries, entry.1.length = 8 ∧ entry.2 < seedInput.length) :
    Returns (IC172Algo1.intermediateKey seedInput entries) := by
  induction entries with
  | nil => exact returns_ok []
  | cons entry entries ih =>
    obtain ⟨⟨hrow, hplace⟩, hentries⟩ := List.forall_mem_cons.mp h
    refine returns_bind ?_ fun _ _ => returns_bind (ih hentries) fun _ _ => returns_pure _
    unfold IC172Algo1.nibble
    refine returns_bind (index_returns hplace) fun n hn => index_returns ?_
    have hlt := hnibbles n (mem_of_index hn)
    rw [expandNibbles_length, hrow]
    omega

/-- The table is fixed, and it fits. -/
theorem meets_IC172Algo1 : Meets IC172Algo1.generateKey (.always []) := by
  refine meets_always fun seed keyLength accessLevel parameters _ => ?_
  unfold IC172Algo1.generateKey
  refine guard_returns fun hseed => ?_
  refine returns_bind (index_returns (by omega)) fun s0 _ => ?_
  refine returns_bind (index_returns (by omega)) fun s2 _ => ?_
  refine returns_bind (index_returns (by omega)) fun s4 _ => ?_
  refine returns_bind (index_returns (by omega)) fun s6 _ => ?_
  have htable : ∀ entry ∈ IC172Algo1.keyPool.zip IC172Algo1.transpositionTable,
      entry.1.length = 8 ∧ entry.2 < 8 := by decide
  refine returns_bind (returns_intermediateKey (fun n hn => nibble_lt hn) htable) fun key hkey => ?_
  have hlen : key.length = 8 := intermediateKey_yields _ _ key hkey
  exact returns_bind (returns_collapseNibbles (by omega)) fun _ _ => returns_pure _

/-- The sum is of one number of each row, whatever it started from. -/
theorem returns_keyResult {entries : List (List Int × UInt8)}
    (h : ∀ entry ∈ entries, entry.1.length = 16 ∧ entry.2.toNat < 16) (result : Int) :
    Returns (IC172Algo2.keyResult entries result) := by
  induction entries generalizing result with
  | nil => exact returns_ok result
  | cons entry entries ih =>
    obtain ⟨⟨hrow, hnibble⟩, hentries⟩ := List.forall_mem_cons.mp h
    exact returns_bind (item_returns (by rw [hrow]; exact hnibble)) fun _ _ => ih hentries _

theorem meets_IC172Algo2 : Meets IC172Algo2.generateKey (.always []) := by
  refine meets_always fun seed keyLength accessLevel parameters _ => ?_
  unfold IC172Algo2.generateKey
  refine guard_returns fun hseed => ?_
  refine returns_bind (returns_keyResult ?_ 0) fun _ _ => returns_pure _
  intro entry hentry
  -- every row of the pool has a number for each nibble
  have hrows : ∀ row ∈ IC172Algo2.keyPool, row.length = 16 := by decide
  obtain ⟨hrow, hnibble⟩ := List.of_mem_zip hentry
  exact ⟨hrows _ hrow, nibble_lt hnibble⟩

theorem returns_toByte {x : Nat} (h : x < 256) : Returns (Py.toByte x) := by
  rw [Py.toByte_of_range (by omega)]
  exact returns_ok _

/-- A key of the level and the bytes of a word, in any order. -/
theorem levelKey_returns {level : Nat} (hlt : level < 256) (w : Int) (e : Endian)
    (key : UInt8 → UInt8 → UInt8 → UInt8 → UInt8 → Bytes) :
    Returns (do
      let b0 ← Py.index (intToBytes w e) 0
      let b1 ← Py.index (intToBytes w e) 1
      let b2 ← Py.index (intToBytes w e) 2
      let b3 ← Py.index (intToBytes w e) 3
      return some (key (← Py.toByte level) b0 b1 b2 b3) : Except Exn (Option Bytes)) := by
  have hread : ∀ i < 4, Returns (Py.index (intToBytes w e) i) :=
    fun i hi => index_returns (by rw [intToBytes_length]; exact hi)
  refine returns_bind (hread 0 (by decide)) fun _ _ => ?_
  refine returns_bind (hread 1 (by decide)) fun _ _ => ?_
  refine returns_bind (hread 2 (by decide)) fun _ _ => ?_
  refine returns_bind (hread 3 (by decide)) fun _ _ => ?_
  exact returns_bind (returns_toByte hlt) fun _ _ => returns_pure _

/-- The first four bytes of the constant are read one by one. -/
@[simps asks] def Contract.KI221Algo1 : Contract where
  asks := [("Level", "Byte"), ("K", "ByteArray")]
  accepts seed keyLength parameters :=
    seed.length = 8 → keyLength = 7 → 4 ≤ (bytesAt parameters "K").length

/-- Bytes of the constant and of the seed are read in turn; the seed has all of them. -/
theorem meets_KI221Algo1 : Meets KI221Algo1.generateKey .KI221Algo1 := by
  intro seed keyLength accessLevel parameters hasked
  have hasked : ∀ ask ∈ [("Level", "Byte"), ("K", "ByteArray")], Asked parameters ask := hasked
  obtain ⟨hlevel, hlt⟩ := paramByte_asked (hasked _ (by simp) : Asked parameters ("Level", "Byte"))
  unfold KI221Algo1.generateKey
  refine guard_ends fun hseed _ => ?_
  rw [hlevel, ok_bind, paramBytes_asked (hasked _ (by simp)), ok_bind]
  have hread : ∀ i < 8, Returns (Py.index seed i) := fun i hi => index_returns (by omega)
  refine (returnsIff_bind (index_ends _ 0) fun k0 _ =>
    returnsIff_bind_right (hread 6 (by decide)) fun s6 _ =>
    returnsIff_bind (index_ends _ 1) fun k1 _ =>
    returnsIff_bind_right (hread 4 (by decide)) fun s4 _ =>
    returnsIff_bind (index_ends _ 2) fun k2 _ =>
    returnsIff_bind_right (hread 2 (by decide)) fun s2 _ =>
    returnsIff_bind_left (index_ends _ 3) fun k3 _ => ?_).congr (by omega)
  -- all that is left is read from the seed, and from a word
  refine returns_bind (hread 0 (by decide)) fun _ _ => ?_
  exact levelKey_returns hlt _ _ fun b b0 b1 b2 b3 => [b, b0, b3, b2, b1, 0, 0]

/-- The constant is read as a word, so a short one does no harm here. -/
theorem meets_KIAlgo1 : Meets KIAlgo1.generateKey
    (.always [("Level", "Byte"), ("K", "ByteArray")]) := by
  refine meets_always fun seed keyLength accessLevel parameters hasked => ?_
  obtain ⟨hlevel, hlt⟩ := paramByte_asked (hasked _ (by simp) : Asked parameters ("Level", "Byte"))
  unfold KIAlgo1.generateKey
  rw [hlevel, ok_bind, paramWord_asked (hasked _ (by simp)), ok_bind]
  refine guard_returns fun hseed => ?_
  have hread : ∀ i < 8, Returns (Py.index seed i) := fun i hi => index_returns (by omega)
  refine returns_bind (hread 2 (by decide)) fun _ _ => ?_
  refine returns_bind (hread 6 (by decide)) fun _ _ => ?_
  refine returns_bind (hread 0 (by decide)) fun _ _ => ?_
  refine returns_bind (hread 4 (by decide)) fun _ _ => ?_
  exact levelKey_returns hlt _ _ fun b b0 b1 b2 b3 => [b, b0, b1, b3, b2, 0xFF, 0xFF]

theorem meets_IC204 : Meets IC204.generateKey (.always [("Salt", "ByteArray")]) := by
  refine meets_always fun seed keyLength accessLevel parameters hasked => ?_
  unfold IC204.generateKey
  rw [paramBytes_asked (hasked _ (by simp)), ok_bind]
  split
  · exact returns_pure none
  · dsimp only
    split <;> exact returns_pure _

/-- The cipher indexes as Python does. -/
theorem vdoItem_ends (data : Bytes) (i : Nat) :
    ReturnsIff Fault (i < data.length) (Security.VDOSecurityAlgo.item data i) := by
  unfold Security.VDOSecurityAlgo.item
  cases h : data[i]? with
  | none => exact .error (Nat.not_lt.mpr (List.getElem?_eq_none_iff.mp h)) trivial
  | some b => exact .ok (List.getElem?_eq_some_iff.mp h).1

/-- The level is an index of the block, and one below zero counts from its end. -/
theorem vdoItemFrom_ends (v : Vector UInt8 8) (i : Int) :
    ReturnsIff Fault (-8 ≤ i ∧ i ≤ 7) (Security.VDOSecurityAlgo.itemFrom v.toList i) := by
  have hlen : v.toList.length = 8 := Vector.length_toList ..
  unfold Security.VDOSecurityAlgo.itemFrom
  split
  · exact (vdoItem_ends _ _).congr (by omega)
  split
  · exact (vdoItem_ends _ _).congr (by omega)
  · exact .error (by omega) trivial

/-- All eight bytes of the constant are read. -/
theorem expandFullKey_ends (kc : Bytes) :
    ReturnsIff Fault (8 ≤ kc.length) (Security.VDOSecurityAlgo.expandFullKey kc) :=
  (returnsIff_bind (vdoItem_ends kc 0) fun _ _ => returnsIff_bind (vdoItem_ends kc 1) fun _ _ =>
    returnsIff_bind (vdoItem_ends kc 2) fun _ _ => returnsIff_bind (vdoItem_ends kc 3) fun _ _ =>
    returnsIff_bind (vdoItem_ends kc 4) fun _ _ => returnsIff_bind (vdoItem_ends kc 5) fun _ _ =>
    returnsIff_bind (vdoItem_ends kc 6) fun _ _ =>
    returnsIff_bind_left (vdoItem_ends kc 7) fun _ _ => returns_pure _).congr (by omega)

/-- The level is read five times and the constant once. -/
theorem generateKeyAt_ends (level : Int) (seed : Vector UInt8 8) (kc : Bytes) :
    ReturnsIff Fault ((-8 ≤ level ∧ level ≤ 7) ∧ 8 ≤ kc.length)
      (Security.VDOSecurityAlgo.generateKeyAt level seed kc) := by
  have hexpand : ∀ tp, ReturnsIff Fault ((-8 ≤ level ∧ level ≤ 7) ∧ 8 ≤ kc.length)
      (Security.VDOSecurityAlgo.expandAndTransformKey level tp kc) := fun tp =>
    returnsIff_bind (vdoItemFrom_ends tp level) fun _ _ =>
      returnsIff_bind_left (expandFullKey_ends kc) fun _ _ => returns_pure _
  refine returnsIff_bind_left (hexpand _) fun ik hik => ?_
  -- the level that was in range once is in range again
  have hlevel := ((hexpand _).iff.mp ⟨ik, hik⟩).1
  have hhalf : ∀ offset tp tpc,
      Returns (Security.VDOSecurityAlgo.halfIteration ik level offset tp tpc) := by
    intro offset tp tpc
    exact returns_bind ((vdoItemFrom_ends tpc level).iff.mpr hlevel) fun _ _ => returns_pure _
  have hiter : ∀ tp tpc, Returns (Security.VDOSecurityAlgo.cipherIteration ik level tp tpc) :=
    fun tp tpc => returns_bind (hhalf 0 tp tpc) fun _ _ => hhalf 4 _ _
  refine returns_bind (hiter _ _) fun _ _ => ?_
  exact returns_bind (hiter _ _) fun _ _ => returns_pure _

/-- The level counts the bytes of a block, from either end. -/
@[simps asks] def Contract.VDOSecurityAlgo : Contract where
  asks := [("K", "ByteArray"), ("InternalLevel", "Int32")]
  accepts seed keyLength parameters := seed.length = 8 → keyLength = 8 →
    (-8 ≤ intAt parameters "InternalLevel" ∧ intAt parameters "InternalLevel" ≤ 7)
      ∧ 8 ≤ (bytesAt parameters "K").length

theorem meets_VDOSecurityAlgo : Meets VDOSecurityAlgo.generateKey .VDOSecurityAlgo := by
  intro seed keyLength accessLevel parameters hasked
  unfold VDOSecurityAlgo.generateKey
  rw [paramBytes_asked (hasked _ (by simp)), ok_bind,
    paramInt_asked (hasked _ (by simp)), ok_bind]
  refine guard_ends fun hseed _ => ?_
  -- the cipher alone can fail behind the guard
  exact returnsIff_bind_left (generateKeyAt_ends _ _ _) fun _ _ => returns_pure _

/-! ## Modern ECUs -/

theorem returns_toBytes32 {n : Int} (h : 0 ≤ n ∧ n < 2 ^ 256) :
    Returns (EsLibEd25519.toBytes32 n) := by
  unfold EsLibEd25519.toBytes32
  rw [if_pos h]
  exact returns_ok _

/-- A coordinate below the field's order leaves room for the sign bit. -/
theorem returns_encodePoint (p : EsLibEd25519.Point) : Returns (EsLibEd25519.encodePoint p) := by
  have hq : 0 < EsLibEd25519.q ∧ EsLibEd25519.q < 2 ^ 255 := by decide
  unfold EsLibEd25519.encodePoint
  dsimp only
  generalize EsLibEd25519.inv p.z = zi
  have hy := Int.emod_lt_of_pos (p.y * zi) hq.1
  obtain ⟨y, hyn⟩ := Int.eq_ofNat_of_zero_le (Int.emod_nonneg (p.y * zi) (Int.ne_of_gt hq.1))
  obtain ⟨bit, hbit, hbit2⟩ : ∃ bit : Nat, p.x * zi % EsLibEd25519.q % 2 = bit ∧ bit < 2 := by
    refine ⟨(p.x * zi % EsLibEd25519.q % 2).toNat, ?_, ?_⟩ <;> omega
  have hor : y ||| bit * 2 ^ 255 < 2 ^ 256 := by
    refine Nat.or_lt_two_pow ?_ ?_ <;> omega
  rw [hyn, hbit]
  have hlor : Int.lor (y : Int) ((bit : Int) * 2 ^ 255) = ((y ||| bit * 2 ^ 255 : Nat) : Int) := by
    rw [show ((bit : Int) * 2 ^ 255) = ((bit * 2 ^ 255 : Nat) : Int) by simp]
    rfl
  rw [hlor]
  exact returns_toBytes32 ⟨Int.natCast_nonneg _, by exact_mod_cast hor⟩

/-- Points and remainders are all below two to the 256th. -/
theorem meets_EsLibEd25519 (crypto : Crypto) :
    Meets (EsLibEd25519.generateKey crypto) (.always [("PrivateKey", "ByteArray")]) := by
  refine meets_always fun seed keyLength accessLevel parameters hasked => ?_
  unfold EsLibEd25519.generateKey
  rw [paramBytes_asked (hasked _ (by simp)), ok_bind]
  refine guard_returns fun _ => returns_bind ?_ fun _ _ => returns_pure _
  unfold EsLibEd25519.signPrehash
  refine returns_bind (returns_encodePoint _) fun _ _ => ?_
  refine returns_bind (returns_encodePoint _) fun _ _ => ?_
  refine returns_bind (returns_toBytes32 ⟨?_, ?_⟩) fun _ _ => returns_pure _
  · exact Int.emod_nonneg _ (by decide)
  · exact Int.lt_trans (Int.emod_lt_of_pos _ (by decide)) (by decide)

/-- AES takes keys of 16, 24 and 32 bytes, and refuses others with a `ValueError`. -/
def AesKeys (crypto : Crypto) : Prop := ∀ key iv block, iv.length = 16 → block.length = 16 →
  ReturnsIff (fun e => ∃ text, e = Exn.valueError text)
    (key.length = 16 ∨ key.length = 24 ∨ key.length = 32) (crypto.aesCbc key iv block)

/-- The constant is a key of AES. -/
@[simps asks] def Contract.SubaruSecurityAccess2018CY1 : Contract where
  asks := [("K", "ByteArray")]
  accepts seed keyLength parameters := seed.length = 16 → keyLength = 16 →
    (bytesAt parameters "K").length = 16 ∨ (bytesAt parameters "K").length = 24
      ∨ (bytesAt parameters "K").length = 32

theorem meets_SubaruSecurityAccess2018CY1 {crypto : Crypto} (haes : AesKeys crypto) :
    Meets (SubaruSecurityAccess2018CY1.generateKey crypto) .SubaruSecurityAccess2018CY1 := by
  intro seed keyLength accessLevel parameters hasked
  unfold SubaruSecurityAccess2018CY1.generateKey
  refine guard_ends fun hseed _ => ?_
  rw [paramBytes_asked (hasked _ (by simp)), ok_bind]
  refine returnsIff_bind_left ?_ fun _ _ => returns_pure _
  refine (haes _ _ _ (List.length_replicate ..) (by rw [List.length_take]; omega)).mono ?_
  rintro e ⟨text, rfl⟩
  trivial

end AutoDiag.Proof
