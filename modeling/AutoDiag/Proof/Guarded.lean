import AutoDiag.CSharp.ClusterProviders
import AutoDiag.CSharp.VDOSecurityAlgo
import AutoDiag.Proof.PowertrainPorts
import AutoDiag.Proof.Sa2Port
import AutoDiag.Proof.Thrown
import AutoDiag.Proof.VDOPort
import AutoDiag.Proof.WordPorts

/-!
# A key only where the original gives one

A negative index is a place from the end of the array to the port and an exception to
the original, and lower-case digits that the original misreads may lead it to another
row or another instruction. With the words, that is all there is to tell a port from
its original by.
-/

namespace AutoDiag.Proof

open Raise Security BitUtility

variable {parameters : List Parameter}

/-! ## Writing -/

section Writing

variable {α : Type} {f : Bytes → Except CSharp.Exception α} {xs : Bytes}

/-- A byte is stored where there is one, and the array keeps its length. -/
theorem returns_store {i : Nat} {b : UInt8} (h : i < xs.length)
    (hf : ∀ ys : Bytes, ys.length = xs.length → Returns (f ys)) :
    Returns (CSharp.store xs i b >>= f) := by
  unfold CSharp.store
  rw [if_pos h]
  exact hf _ (List.length_set ..)

/-- A word is written where there is room for four bytes. -/
theorem returns_intToBytes {w : UInt32} {e : Endian} (h : 4 ≤ xs.length)
    (hf : ∀ ys : Bytes, ys.length = xs.length → Returns (f ys)) :
    Returns (CSharp.BitUtility.intToBytes w xs e >>= f) := by
  have hstore : ∀ {ys : Bytes} {i : Nat} {b : UInt8}, ys.length = xs.length → i < 4 →
      ∃ zs, CSharp.store ys i b = .ok zs ∧ zs.length = xs.length := by
    intro ys i b hys hi
    unfold CSharp.store
    rw [if_pos (by omega)]
    exact ⟨_, rfl, (List.length_set ..).trans hys⟩
  have hwrite : ∃ zs, CSharp.BitUtility.intToBytes w xs e = .ok zs ∧ zs.length = xs.length := by
    unfold CSharp.BitUtility.intToBytes
    cases e with
    | big =>
      obtain ⟨z0, h0, l0⟩ := hstore (b := (w >>> 24).toUInt8) rfl (by decide : 0 < 4)
      obtain ⟨z1, h1, l1⟩ := hstore (b := (w >>> 16).toUInt8) l0 (by decide : 1 < 4)
      obtain ⟨z2, h2, l2⟩ := hstore (b := (w >>> 8).toUInt8) l1 (by decide : 2 < 4)
      obtain ⟨z3, h3, l3⟩ := hstore (b := (w >>> 0).toUInt8) l2 (by decide : 3 < 4)
      exact ⟨z3, by simp only [h0, h1, h2, h3, ok_bind], l3⟩
    | little =>
      obtain ⟨z0, h0, l0⟩ := hstore (b := (w >>> 24).toUInt8) rfl (by decide : 3 < 4)
      obtain ⟨z1, h1, l1⟩ := hstore (b := (w >>> 16).toUInt8) l0 (by decide : 2 < 4)
      obtain ⟨z2, h2, l2⟩ := hstore (b := (w >>> 8).toUInt8) l1 (by decide : 1 < 4)
      obtain ⟨z3, h3, l3⟩ := hstore (b := (w >>> 0).toUInt8) l2 (by decide : 0 < 4)
      exact ⟨z3, by simp only [h0, h1, h2, h3, ok_bind], l3⟩
  obtain ⟨zs, hzs, hlen⟩ := hwrite
  rw [hzs]
  exact hf zs hlen

theorem returns_xorAt {i : Nat} {b : UInt8} (h : i < xs.length)
    (hf : ∀ ys : Bytes, ys.length = xs.length → Returns (f ys)) :
    Returns (CSharp.KI221Algo1.xorAt xs i b >>= f) := by
  obtain ⟨x, hx⟩ := csItem_returns h
  unfold CSharp.KI221Algo1.xorAt
  rw [hx, ok_bind]
  exact returns_store h hf

end Writing

/-! ## Rotations, levels and tapes -/

/-- Every byte that is written has its place in a key of four. -/
theorem throws_KI203Algo :
    ThrowsOutside CSharp.KI203Algo.generateKey (.always [("K", "ByteArray")]) [4] 4
      (WordsHeld ["K"]) := by
  intro seed outKey level parameters h hasked hseed hkey _
  have hlen := List.mem_singleton.mp hseed
  have hK : Asked parameters ("K", "ByteArray") := hasked _ (.head _)
  have hbyte : ∀ (w : UInt32) (p : Int32), ¬ p > 3 → Returns (CSharp.BitUtility.getByte w p) := by
    intro w p hp
    unfold CSharp.BitUtility.getByte
    rw [if_neg hp]
    exact returns_ok _
  unfold CSharp.KI203Algo.generateKey
  rw [if_neg (taken hseed hkey)]
  refine (returnsIff_bind_left (getParameterWord_ends h hK .big) fun _ _ => ?_).congr
    (by simp [WordsHeld])
  refine returns_bind (csItem_returns (i := 2) (by omega)) fun _ _ => ?_
  refine returns_bind (csItem_returns (i := 0) (by omega)) fun _ _ => ?_
  refine returns_bind (csItem_returns (i := 3) (by omega)) fun _ _ => ?_
  refine returns_bind (csItem_returns (i := 1) (by omega)) fun _ _ => ?_
  refine returns_bind (hbyte _ 0 (by decide)) fun _ _ => returns_store (by omega) fun o0 l0 => ?_
  refine returns_bind (hbyte _ 2 (by decide)) fun _ _ => returns_store (by omega) fun o1 l1 => ?_
  refine returns_bind (hbyte _ 3 (by decide)) fun _ _ => returns_store (by omega) fun o2 l2 => ?_
  refine returns_bind (hbyte _ 1 (by decide)) fun _ _ => returns_store (by omega) fun o3 l3 => ?_
  exact returns_pure _

/-- With four bytes of the constant, which the port needs for a key, the original never throws. -/
theorem throws_KI221Algo1 :
    ThrowsOutside CSharp.KI221Algo1.generateKey .KI221Algo1 [8] 7 fun _ _ => True := by
  intro seed outKey level parameters h hasked hseed hkey hlong
  have hlen := List.mem_singleton.mp hseed
  have hL : Asked parameters ("Level", "Byte") := hasked _ (by simp)
  have hK : Asked parameters ("K", "ByteArray") := hasked _ (by simp)
  have hk : 4 ≤ (csBytesAt parameters "K").length := by
    rw [csBytesAt_length h hK]
    exact hlong hlen hkey
  refine returnsIff_of_returns ?_ trivial
  unfold CSharp.KI221Algo1.generateKey
  rw [if_neg (taken hseed hkey)]
  refine returns_bind (getParameterByte_returns h hL) fun _ _ => ?_
  rw [(getParameterBytearray_asked h hK).1, ok_bind]
  refine returns_bind (csBytesToInt_returns (n := 0) hk .big) fun _ _ => ?_
  refine returns_bind (csItem_returns (i := 6) (by omega)) fun _ _ =>
    returns_xorAt (by omega) fun k0 l0 => ?_
  refine returns_bind (csItem_returns (i := 4) (by omega)) fun _ _ =>
    returns_xorAt (by omega) fun k1 l1 => ?_
  refine returns_bind (csItem_returns (i := 2) (by omega)) fun _ _ =>
    returns_xorAt (by omega) fun k2 l2 => ?_
  refine returns_bind (csItem_returns (i := 0) (by omega)) fun _ _ =>
    returns_xorAt (by omega) fun k3 l3 => ?_
  have hread : ∀ {ys : Bytes}, ys.length = k3.length → ∀ i : Nat, i < 4 →
      Returns (CSharp.item ys i) := by
    intro ys hys i hi
    exact csItem_returns (by omega)
  refine returns_bind (hread rfl 0 (by decide)) fun _ _ => ?_
  refine returns_bind (hread rfl 3 (by decide)) fun _ _ => ?_
  refine returns_bind (hread rfl 2 (by decide)) fun _ _ => ?_
  refine returns_bind (hread rfl 1 (by decide)) fun _ _ => ?_
  refine returns_bind (csBytesToInt_returns (n := 0) (by simp) .little) fun _ _ => ?_
  refine returns_intToBytes (by omega) fun k4 l4 => ?_
  refine returns_bind (hread l4 0 (by decide)) fun _ _ => ?_
  refine returns_bind (hread l4 3 (by decide)) fun _ _ => ?_
  refine returns_bind (hread l4 2 (by decide)) fun _ _ => ?_
  exact returns_bind (hread l4 1 (by decide)) fun _ _ => returns_pure _

/-- The port reads a short constant as a word, the original throws. -/
theorem throws_KIAlgo1 :
    ThrowsOutside CSharp.KIAlgo1.generateKey (.always [("Level", "Byte"), ("K", "ByteArray")])
      [8] 7 (WordsHeld ["K"]) := by
  intro seed outKey level parameters h hasked hseed hkey _
  have hlen := List.mem_singleton.mp hseed
  have hL : Asked parameters ("Level", "Byte") := hasked _ (.head _)
  have hK : Asked parameters ("K", "ByteArray") := hasked _ (.tail _ (.head _))
  refine returnsIff_bind_right (getParameterByte_returns h hL) fun _ _ => ?_
  refine (returnsIff_bind_left (getParameterWord_ends h hK .big) fun _ _ => ?_).congr
    (by simp [WordsHeld])
  rw [if_neg (taken hseed hkey)]
  refine returns_bind (csItem_returns (i := 2) (by omega)) fun _ _ => ?_
  refine returns_bind (csItem_returns (i := 6) (by omega)) fun _ _ => ?_
  refine returns_bind (csItem_returns (i := 0) (by omega)) fun _ _ => ?_
  refine returns_bind (csItem_returns (i := 4) (by omega)) fun _ _ => ?_
  refine returns_bind (csBytesToInt_returns (n := 0) (by simp) .little) fun _ _ => ?_
  refine returns_intToBytes (by simp) fun p hp => ?_
  have hread : ∀ i : Nat, i < 4 → Returns (CSharp.item p i) := by
    intro i hi
    refine csItem_returns ?_
    rw [hp]
    exact hi
  refine returns_bind (hread 0 (by decide)) fun _ _ => returns_store (by omega) fun o1 l1 => ?_
  refine returns_bind (hread 1 (by decide)) fun _ _ => returns_store (by omega) fun o2 l2 => ?_
  refine returns_bind (hread 3 (by decide)) fun _ _ => returns_store (by omega) fun o3 l3 => ?_
  refine returns_bind (hread 2 (by decide)) fun _ _ => returns_store (by omega) fun o4 l4 => ?_
  refine returns_store (by omega) fun o5 l5 => ?_
  refine returns_store (by omega) fun o6 l6 => ?_
  exact returns_store (by omega) fun o7 l7 => returns_pure _

/-- C# does not count from the end. -/
theorem item_nonneg {α : Type} {xs : List α} {i : Int} (h : Returns (CSharp.item xs i)) :
    0 ≤ i := by
  unfold CSharp.item at h
  by_cases hi : i < 0
  · rw [if_pos hi] at h
    exact absurd h (not_returns_error _)
  · omega

/-- A sequence that returns went through its first part. -/
theorem returns_left {α β : Type} {x : Except CSharp.Exception α}
    {f : α → Except CSharp.Exception β} (h : Returns (x >>= f)) : Returns x := by
  obtain ⟨b, hb⟩ := h
  obtain ⟨a, ha, -⟩ := bind_ok hb
  exact ⟨a, ha⟩

/-- Only a level below zero is left to stop the cipher. -/
theorem csGenerateKeyAt_ends {level : Int} (seed : Vector UInt8 8) {kc : Bytes}
    (hlevel : level ≤ 7) (hkc : 8 ≤ kc.length) :
    Ends (0 ≤ level) (CSharp.VDOSecurityAlgo.generateKeyAt level seed kc) := by
  by_cases h : 0 ≤ level
  · refine returnsIff_of_returns ?_ h
    refine (related_returns (VDOPort.generateKeyAt_related h seed kc)).mpr ?_
    exact (generateKeyAt_ends level seed kc).iff.mpr ⟨⟨by omega, hlevel⟩, hkc⟩
  · have hthrows : ¬ Returns (CSharp.VDOSecurityAlgo.generateKeyAt level seed kc) := by
      intro hreturns
      -- the level is an index before anything else happens
      exact h (item_nonneg (returns_left (returns_left hreturns)))
    obtain ⟨e, he⟩ := not_returns.mp hthrows
    rw [he]
    exact .error h trivial

theorem throws_VDOSecurityAlgo :
    ThrowsOutside CSharp.VDOSecurityAlgo.generateKey .VDOSecurityAlgo [8] 8
      fun _ parameters => 0 ≤ intAt parameters "InternalLevel" := by
  intro seed outKey level parameters h hasked hseed hkey haccepts
  have hK : Asked parameters ("K", "ByteArray") := hasked _ (by simp)
  have hL : Asked parameters ("InternalLevel", "Int32") := hasked _ (by simp)
  obtain ⟨hlevel, hlong⟩ := haccepts (List.mem_singleton.mp hseed) hkey
  obtain ⟨hread, heq⟩ := getParameterInteger_asked h hL
  unfold CSharp.VDOSecurityAlgo.generateKey
  rw [(getParameterBytearray_asked h hK).1, ok_bind, hread, ok_bind, if_neg (taken hseed hkey)]
  dsimp only
  rw [heq] at hlevel ⊢
  -- the port gave a key, so the level is at most seven and the constant long enough
  refine returnsIff_bind_left ?_ fun _ _ => returns_pure _
  exact csGenerateKeyAt_ends _ hlevel.2 (by rw [csBytesAt_length h hK]; exact hlong)

/-- The tape as the original reads it runs to its end. -/
def TapeRuns (seed : Bytes) (parameters : List Parameter) : Prop :=
  FaultFree (csBytesAt parameters "InstructionTape")
    (AutoDiag.VolkswagenSA2.init (UInt32.ofNat (bytesToInt seed .big 0)))

/-- In lower case the original reads other bytes, and so runs another tape. -/
theorem throws_VolkswagenSA2 :
    ThrowsOutside CSharp.VolkswagenSA2.generateKey .VolkswagenSA2 [4] 4 TapeRuns := by
  intro seed outKey level parameters h hasked hseed hkey _
  have hlen := List.mem_singleton.mp hseed
  have hT : Asked parameters ("InstructionTape", "ByteArray") := hasked _ (by simp)
  obtain ⟨word, hread, hword⟩ := @bytesToInt_agree seed 0 (by omega) .big
  unfold CSharp.VolkswagenSA2.generateKey TapeRuns
  rw [(getParameterBytearray_asked h hT).1, ok_bind, if_neg (taken hseed hkey), hword,
    UInt32.ofNat_toNat, show CSharp.BitUtility.bytesToInt seed .big 0 = .ok word from hread,
    ok_bind]
  refine returnsIff_bind_left ?_ fun _ _ => wordKey_returns _ hkey
  exact related_returnsIff (Sa2Port.execute_related _ _) (executeTape_ends _ _)

/-! ## Rows -/

theorem csSelectedKey_places
    {g : Int32 → Int32 → Int32 → List Bytes → Except CSharp.Exception UInt32}
    {matrix : List Bytes} {i1 i2 i3 i4 i5 i6 : Int32} {j : List Int32} {seed : Bytes}
    (h : Returns (CSharp.selectedKey g matrix [i1, i2, i3, i4, i5, i6] j seed)) :
    ∀ i ∈ [i1, i2, i3, i4, i5], 0 ≤ i.toInt := by
  obtain ⟨key, h⟩ := h
  obtain ⟨ws, -, h⟩ := bind_ok h
  obtain ⟨_, e1, h⟩ := bind_ok h
  obtain ⟨_, h1, h⟩ := bind_ok h
  obtain ⟨_, e2, h⟩ := bind_ok h
  obtain ⟨_, h2, h⟩ := bind_ok h
  obtain ⟨_, e3, h⟩ := bind_ok h
  obtain ⟨_, -, h⟩ := bind_ok h
  obtain ⟨_, h3, h⟩ := bind_ok h
  obtain ⟨_, e4, h⟩ := bind_ok h
  obtain ⟨_, -, h⟩ := bind_ok h
  obtain ⟨_, h4, h⟩ := bind_ok h
  obtain ⟨_, -, h⟩ := bind_ok h
  obtain ⟨_, -, h⟩ := bind_ok h
  obtain ⟨_, -, h⟩ := bind_ok h
  obtain ⟨_, -, h⟩ := bind_ok h
  obtain ⟨_, e5, h⟩ := bind_ok h
  obtain ⟨_, -, h⟩ := bind_ok h
  obtain ⟨_, h5, -⟩ := bind_ok h
  cases e1
  cases e2
  cases e3
  cases e4
  cases e5
  have hplace : ∀ {i : Int32} {b : UInt8}, CSharp.item ws i.toInt = .ok b → 0 ≤ i.toInt :=
    fun hb => item_nonneg ⟨_, hb⟩
  have hbit : ∀ {i j : Int32} {b : UInt8}, CSharp.seedBit ws i j = .ok b → 0 ≤ i.toInt :=
    fun hb => item_nonneg (returns_left ⟨_, hb⟩)
  simp only [List.forall_mem_cons, List.not_mem_nil, false_implies, implies_true, and_true]
  exact ⟨hplace h1, hplace h2, hbit h3, hbit h4, hbit h5⟩

/-- None of the places of the seed is counted from its end. -/
def PlacesCounted (i : String) (_seed : Bytes) (parameters : List Parameter) : Prop :=
  ∀ name ∈ (indexNames i).take 5, 0 ≤ intAt parameters name

/-- Where the places are counted from the front, both take the same row. -/
theorem throws_selectByParameters {cells i j : String}
    {g : Nat → Nat → Nat → List (List Nat) → Except Exn Nat}
    {g' : Int32 → Int32 → Int32 → List Bytes → Except CSharp.Exception UInt32}
    (hg : SameRows g g')
    (hmeets : Meets (selectByParameters cells i j g) (.selectByParameters cells i j)) :
    ThrowsOutside (CSharp.selectByParameters (cellNames cells) (indexNames i) (indexNames j) g')
      (.selectByParameters cells i j) [4] 4 (PlacesCounted i) := by
  intro seed outKey level parameters h hasked hseed hkey haccepts
  obtain ⟨hplaces, hbyte, hbits⟩ := haccepts (List.mem_singleton.mp hseed) hkey
  have hint : ∀ name ∈ indexNames i ++ indexNames j, Asked parameters (name, "Int32") :=
    fun name hname => hasked _ (List.mem_append_right _ (List.mem_map_of_mem hname))
  have hnone : ∀ names, (∀ name ∈ names, name ∈ indexNames i ++ indexNames j) →
      (∀ name ∈ names, 0 ≤ intAt parameters name) → NoneNegative parameters names := by
    intro names hmem hpos name hname x hx
    rw [paramInt_asked (hint name (hmem name hname))] at hx
    rw [← Except.ok.inj hx]
    exact hpos name hname
  by_cases hcounted : PlacesCounted i seed parameters
  -- with every place counted from the front the two sides are related
  · refine returnsIff_of_returns ?_ hcounted
    have hi : NoneNegative parameters (indexNames i) := by
      refine hnone _ (fun name hname => List.mem_append_left _ hname) fun name hname => ?_
      rw [← List.take_append_drop 5 (indexNames i)] at hname
      rcases List.mem_append.mp hname with hname | hname
      · exact hcounted name hname
      · exact (hbyte name hname).1
    have hj : NoneNegative parameters (indexNames j) :=
      hnone _ (fun name hname => List.mem_append_right _ hname) fun name hname =>
        (hbits name hname).1
    refine (related_returns
      (selectByParameters_related h cells i j hg hi hj seed outKey level)).mpr ?_
    exact (hmeets seed outKey.length level parameters hasked).iff.mpr haccepts
  -- a place below zero is an index the original throws on
  · have hthrows :
        ¬ Returns (CSharp.selectByParameters (cellNames cells) (indexNames i) (indexNames j) g' seed
          outKey level parameters) := by
      intro hreturns
      obtain ⟨key, hkey'⟩ := hreturns
      obtain ⟨matrix, -, hrun⟩ := bind_ok hkey'
      have hread : ∀ name ∈ indexNames i, CSharp.getParameterInteger parameters name
          = .ok (csIntAt parameters name) :=
        fun name hname => (getParameterInteger_asked h (hint name (List.mem_append_left _ hname))).1
      rw [mapM_ok hread, ok_bind] at hrun
      obtain ⟨js, -, hrun⟩ := bind_ok hrun
      rw [if_neg (taken hseed hkey)] at hrun
      have hpos := csSelectedKey_places (returns_left ⟨_, hrun⟩)
      refine hcounted fun name hname => ?_
      rw [(getParameterInteger_asked h
        (hint name (List.mem_append_left _ (List.mem_of_mem_take hname)))).2]
      exact hpos _ (List.mem_map_of_mem hname)
    obtain ⟨e, he⟩ := not_returns.mp hthrows
    rw [he]
    exact .error hcounted trivial

/-- The rows of one matrix, as the original reads them. -/
def csRowsAt (parameters : List Parameter) (stem : String) (n : Nat) : Bytes :=
  csBytesAt parameters (stem ++ toString n)

/-- The rows as the original reads them hold a word wherever it comes to. -/
def RowsHeld (dRow : Nat → Nat) (gRow : Nat → Nat → Nat) (seed : Bytes)
    (parameters : List Parameter) : Prop :=
  rowsHoldWords dRow gRow seed (csRowsAt parameters "D_VALUE_") (csRowsAt parameters "G_VALUE_")

/-- The rows are parsed up front, and read as words where they are selected. -/
theorem throws_selectFixed
    {dBits : UInt8 → UInt8 → UInt8 → UInt8 → Except Exn Security.Selection}
    {gBits : UInt8 → UInt8 → UInt8 → UInt8 → Nat → Except Exn Security.Selection}
    {dBits' : UInt8 → UInt8 → UInt8 → UInt8 → Except CSharp.Exception CSharp.Selection}
    {gBits' : UInt8 → UInt8 → UInt8 → UInt8 → UInt32 → Except CSharp.Exception CSharp.Selection}
    {dRow : Nat → Nat} {gRow : Nat → Nat → Nat} (hs : Selects dBits gBits dRow gRow)
    (hp : SamePlaces dBits gBits dBits' gBits') :
    ThrowsOutside (CSharp.selectFixed dBits' gBits') (.selectFixed dRow gRow) [4] 4
      (RowsHeld dRow gRow) := by
  intro seed outKey level parameters h hasked hseed hkey _
  have hrows : ∀ stem ∈ ["D_VALUE_", "G_VALUE_"], CSharp.matrixRows parameters stem
      = .ok ((List.range 8).map (csRowsAt parameters stem)) := by
    intro stem hstem
    refine mapM_ok fun n hn => (getParameterBytearray_asked h (hasked _ (List.mem_map_of_mem ?_))).1
    exact List.mem_flatMap.mpr ⟨stem, hstem, List.mem_map_of_mem hn⟩
  have hsame : ∀ stem, SameMatrix (matrixOf (csRowsAt parameters stem))
      ((List.range 8).map (csRowsAt parameters stem)) := by
    intro stem
    refine List.forall₂_map_left_iff.mpr (List.forall₂_map_right_iff.mpr ?_)
    refine List.forall₂_same.mpr fun n _ => ?_
    exact List.forall₂_map_left_iff.mpr (List.forall₂_same.mpr fun b _ => rfl)
  unfold CSharp.selectFixed
  rw [hrows "D_VALUE_" (by simp), ok_bind, hrows "G_VALUE_" (by simp), ok_bind,
    if_neg (taken hseed hkey)]
  refine returnsIff_bind_left ?_ fun _ _ => wordKey_returns _ hkey
  exact related_returnsIff (fixedKey_related hp (hsame _) (hsame _) seed)
    (fixedKey_ends hs (List.mem_singleton.mp hseed) _ _)

theorem csRemapBit_lt (x : UInt32) (source : Int32) {n : Nat} (hn : n < 7) :
    (CSharp.PowertrainSecurityAlgo3.remapBit x source (Int32.ofNat n)).toNat < 2 ^ 7 := by
  unfold CSharp.PowertrainSecurityAlgo3.remapBit
  split
  · interval_cases n <;> decide
  · decide

/-- Seven bits are an index of the table. -/
theorem csRemap_lt (x : UInt32) : (CSharp.PowertrainSecurityAlgo3.remap x).toNat < 2 ^ 7 := by
  have hplaces : ∀ entry ∈ CSharp.PowertrainSecurityAlgo3.sourceBitPositions.zipIdx,
      entry.2 < 7 := by decide
  unfold CSharp.PowertrainSecurityAlgo3.remap
  refine List.foldlRecOn _ _ (motive := fun value : UInt32 => value.toNat < 2 ^ 7) (by decide) ?_
  intro value hvalue entry hentry
  rw [UInt32.toNat_or]
  exact Nat.or_lt_two_pow hvalue (csRemapBit_lt x _ (hplaces entry hentry))

theorem throws_PowertrainSecurityAlgo3 :
    ThrowsOutside CSharp.PowertrainSecurityAlgo3.generateKey (.always []) [4] 4
      fun _ _ => True := by
  intro seed outKey level parameters h hasked hseed hkey _
  have hlen := List.mem_singleton.mp hseed
  have htable : CSharp.PowertrainSecurityAlgo3.lookupTable.length = 2 ^ 7 := by decide +kernel
  refine returnsIff_of_returns ?_ trivial
  unfold CSharp.PowertrainSecurityAlgo3.generateKey
  rw [if_neg (taken hseed hkey)]
  refine returns_bind (csBytesToInt_returns (n := 0) (by omega) .big) fun seed _ => ?_
  refine returns_bind (csItem_returns ?_) fun _ _ => wordKey_returns _ hkey
  rw [htable]
  exact csRemap_lt seed

/-! ## All of them -/

/-- A port and its original, with what the port needs to give a key and what the original has to
find inside its arrays. -/
structure Reader extends Port where
  contract : Contract
  seedLengths : List Nat
  keyLength : Int
  inside : Bytes → List Parameter → Prop

/-- The port gives a key: all that it asks for is there, the lengths are right, and its contract
holds. -/
def Reader.Gives (r : Reader) (seed : Bytes) (keyLength : Int) (parameters : List Parameter) :
    Prop :=
  (∀ ask ∈ r.contract.asks, Asked parameters ask)
    ∧ (seed.length ∈ r.seedLengths ∧ keyLength = r.keyLength)
    ∧ r.contract.accepts seed keyLength parameters

/-- The providers that read words, or that an index parameter leads to the seed or a table. -/
def readers : List Reader :=
  [⟨⟨DRVU_PROF.generateKey, CSharp.DRVU_PROF.generateKey⟩,
      .DRVU_PROF, [4], 4, WordsHeld ["KeyConst"]⟩,
    ⟨⟨DaimlerStandardSecurityAlgo.generateKey, CSharp.DaimlerStandardSecurityAlgo.generateKey⟩,
      .always [("K", "ByteArray")], [8], 4, WordsHeld ["K"]⟩,
    ⟨⟨DaimlerStandardSecurityAlgoMod.generateKey,
        CSharp.DaimlerStandardSecurityAlgoMod.generateKey⟩,
      .always [("K", "ByteArray"), ("kA", "Int64"), ("kC", "Int64")], [8], 4, WordsHeld ["K"]⟩,
    ⟨⟨DaimlerStandardSecurityAlgoRefG.generateKey,
        CSharp.DaimlerStandardSecurityAlgoRefG.generateKey⟩,
      .always [("K_refG", "ByteArray")], [8], 4, WordsHeld ["K_refG"]⟩,
    ⟨⟨EDIFF290.generateKey, CSharp.EDIFF290.generateKey⟩,
      .EDIFF290, [8], 4, WordsHeld ["KeyK"]⟩,
    ⟨⟨KI203Algo.generateKey, CSharp.KI203Algo.generateKey⟩,
      .always [("K", "ByteArray")], [4], 4, WordsHeld ["K"]⟩,
    ⟨⟨KI221Algo1.generateKey, CSharp.KI221Algo1.generateKey⟩,
      .KI221Algo1, [8], 7, fun _ _ => True⟩,
    ⟨⟨KI221Algo2.generateKey, CSharp.KI221Algo2.generateKey⟩,
      .always [("Xor", "ByteArray"), ("Add", "ByteArray")], [4], 4, WordsHeld ["Xor", "Add"]⟩,
    ⟨⟨KIAlgo1.generateKey, CSharp.KIAlgo1.generateKey⟩,
      .always [("Level", "Byte"), ("K", "ByteArray")], [8], 7, WordsHeld ["K"]⟩,
    ⟨⟨MarquardtSecurityAlgo.generateKey, CSharp.MarquardtSecurityAlgo.generateKey⟩,
      .MarquardtSecurityAlgo, [4], 4, WordsHeld ["const_M", "const_C", "const_A"]⟩,
    ⟨⟨ORC166.generateKey, CSharp.ORC166.generateKey⟩,
      .always [("staticKey", "ByteArray")], [4, 8], 4, WordsHeld ["staticKey"]⟩,
    ⟨⟨PowertrainDelphiSecurityAlgo.generateKey, CSharp.PowertrainDelphiSecurityAlgo.generateKey⟩,
      .PowertrainDelphiSecurityAlgo, [4], 4,
      RowsHeld PowertrainDelphiSecurityAlgo.dRow PowertrainDelphiSecurityAlgo.gRow⟩,
    ⟨⟨PowertrainSecurityAlgo.generateKey, CSharp.PowertrainSecurityAlgo.generateKey⟩,
      .selectByParameters "X" "i" "j", [4], 4, PlacesCounted "i"⟩,
    ⟨⟨PowertrainSecurityAlgo2.generateKey, CSharp.PowertrainSecurityAlgo2.generateKey⟩,
      .selectByParameters "XX" "ii" "jj", [4], 4, PlacesCounted "ii"⟩,
    ⟨⟨PowertrainSecurityAlgo3.generateKey, CSharp.PowertrainSecurityAlgo3.generateKey⟩,
      .always [], [4], 4, fun _ _ => True⟩,
    ⟨⟨PowertrainSecurityAlgoNFZ.generateKey, CSharp.PowertrainSecurityAlgoNFZ.generateKey⟩,
      .PowertrainSecurityAlgoNFZ, [4], 4,
      RowsHeld PowertrainSecurityAlgoNFZ.dRow PowertrainSecurityAlgoNFZ.gRow⟩,
    ⟨⟨RDU222.generateKey, CSharp.RDU222.generateKey⟩,
      .always [("a", "ByteArray"), ("b", "ByteArray"), ("c", "ByteArray")], [4], 4,
      WordsHeld ["a", "b", "c"]⟩,
    ⟨⟨RVC222_MPC222_FCW246_LRR3.generateKey, CSharp.RVC222_MPC222_FCW246_LRR3.generateKey⟩,
      .always [("A", "ByteArray"), ("B", "ByteArray"), ("C", "ByteArray")], [4], 4,
      WordsHeld ["A", "B", "C"]⟩,
    ⟨⟨SWSP177.generateKey, CSharp.SWSP177.generateKey⟩,
      .always [("KeyConst", "ByteArray")], [4], 4, WordsHeld ["KeyConst"]⟩,
    ⟨⟨VDOSecurityAlgo.generateKey, CSharp.VDOSecurityAlgo.generateKey⟩,
      .VDOSecurityAlgo, [8], 8, fun _ parameters => 0 ≤ intAt parameters "InternalLevel"⟩,
    ⟨⟨VGSSecurityAlgo.generateKey, CSharp.VGSSecurityAlgo.generateKey⟩,
      .always [("K", "ByteArray")], [4], 4, WordsHeld ["K"]⟩,
    ⟨⟨VGSSecurityAlgoExt.generateKey, CSharp.VGSSecurityAlgoExt.generateKey⟩,
      .always [("M", "ByteArray"), ("X", "ByteArray")], [4], 4, WordsHeld ["M", "X"]⟩,
    ⟨⟨Security.VolkswagenSA2.generateKey, CSharp.VolkswagenSA2.generateKey⟩,
      .VolkswagenSA2, [4], 4, TapeRuns⟩]

/-- What is shown of each of them. -/
structure Reader.Sound (r : Reader) : Prop where
  meets : Meets r.python r.contract
  shape : Shape r.python r.contract.asks r.seedLengths r.keyLength
  throws : ThrowsOutside r.csharp r.contract r.seedLengths r.keyLength r.inside

/-- A provider whose constants are fixed asks for its word only. -/
theorem sound_affine (key : String) (constants : Int × Int × Int × Int)
    (constants' : Int64 × Int64 × Int64 × Int64) :
    Reader.Sound ⟨⟨affine key fun _ => .ok constants, CSharp.affine key fun _ => .ok constants'⟩,
      .always [(key, "ByteArray")], [8], 4, WordsHeld [key]⟩ where
  meets := meets_affine fun _ _ => returns_ok _
  shape := shape_affine fun _ _ => yields_ok (by simp)
  throws := throws_affine fun _ _ _ => returns_ok _

theorem sound_maskXorAdd (a b c : String) (finish : Nat → Nat) (finish' : Int64 → Int64) :
    Reader.Sound ⟨⟨maskXorAdd a b c finish, CSharp.maskXorAdd a b c finish'⟩,
      .always [(a, "ByteArray"), (b, "ByteArray"), (c, "ByteArray")], [4], 4,
      WordsHeld [a, b, c]⟩ where
  meets := meets_maskXorAdd a b c finish
  shape := shape_maskXorAdd a b c finish
  throws := throws_maskXorAdd a b c finish'

theorem sound_selectByParameters {p0 p1 p2 p3 : Nat} (h0 : p0 < 4) (h1 : p1 < 4) (h2 : p2 < 4)
    (h3 : p3 < 4) (cells i j : String) :
    Reader.Sound ⟨⟨selectByParameters cells i j (rowWord [p0, p1, p2, p3]),
        CSharp.selectByParameters (cellNames cells) (indexNames i) (indexNames j)
          (CSharp.rowWord [p0, p1, p2, p3])⟩,
      .selectByParameters cells i j, [4], 4, PlacesCounted i⟩ := by
  have hmeets : Meets (selectByParameters cells i j (rowWord [p0, p1, p2, p3]))
      (.selectByParameters cells i j) :=
    meets_selectByParameters (fun _ h8 hrows => anyRow_returns h8 hrows h0 h1 h2 h3) cells i j
  have hword : SameRows (rowWord [p0, p1, p2, p3]) (CSharp.rowWord [p0, p1, p2, p3]) :=
    fun bit2 bit1 bit0 _ _ hm => rowWord_related p0 p1 p2 p3 bit2 bit1 bit0 hm
  exact ⟨hmeets, shape_selectByParameters _ _ _ _, throws_selectByParameters hword hmeets⟩

/-- Each of them, by what its contract, its shape and its original were shown to be. -/
theorem readers_sound : ∀ r ∈ readers, r.Sound := by
  simp only [readers, List.forall_mem_cons, List.not_mem_nil, false_implies, implies_true, and_true]
  exact ⟨⟨meets_DRVU_PROF, shape_DRVU_PROF, throws_DRVU_PROF⟩,
    sound_affine "K" _ _,
    ⟨meets_DaimlerStandardSecurityAlgoMod, shape_DaimlerStandardSecurityAlgoMod,
      throws_DaimlerStandardSecurityAlgoMod⟩,
    sound_affine "K_refG" _ _,
    ⟨meets_EDIFF290, shape_EDIFF290, throws_EDIFF290⟩,
    ⟨meets_KI203Algo, shape_KI203Algo, throws_KI203Algo⟩,
    ⟨meets_KI221Algo1, shape_KI221Algo1, throws_KI221Algo1⟩,
    ⟨meets_KI221Algo2, shape_KI221Algo2, throws_KI221Algo2⟩,
    ⟨meets_KIAlgo1, shape_KIAlgo1, throws_KIAlgo1⟩,
    ⟨meets_MarquardtSecurityAlgo, shape_MarquardtSecurityAlgo, throws_MarquardtSecurityAlgo⟩,
    ⟨meets_ORC166, shape_ORC166, throws_ORC166⟩,
    ⟨meets_PowertrainDelphiSecurityAlgo, shape_selectFixed _ _,
      throws_selectFixed PowertrainDelphiSecurityAlgo.selects
        PowertrainDelphiSecurityAlgo.samePlaces⟩,
    PowertrainSecurityAlgo.original_names ▸
      sound_selectByParameters (by decide) (by decide) (by decide) (by decide) "X" "i" "j",
    PowertrainSecurityAlgo2.original_names ▸
      sound_selectByParameters (by decide) (by decide) (by decide) (by decide) "XX" "ii" "jj",
    ⟨meets_PowertrainSecurityAlgo3, shape_PowertrainSecurityAlgo3, throws_PowertrainSecurityAlgo3⟩,
    ⟨meets_PowertrainSecurityAlgoNFZ, shape_selectFixed _ _,
      throws_selectFixed PowertrainSecurityAlgoNFZ.selects PowertrainSecurityAlgoNFZ.samePlaces⟩,
    sound_maskXorAdd "a" "b" "c" _ _, sound_maskXorAdd "A" "B" "C" _ _,
    ⟨meets_SWSP177, shape_SWSP177, throws_SWSP177⟩,
    ⟨meets_VDOSecurityAlgo, shape_VDOSecurityAlgo, throws_VDOSecurityAlgo⟩,
    ⟨meets_VGSSecurityAlgo, shape_VGSSecurityAlgo, throws_VGSSecurityAlgo⟩,
    ⟨meets_VGSSecurityAlgoExt, shape_VGSSecurityAlgoExt, throws_VGSSecurityAlgoExt⟩,
    ⟨meets_VolkswagenSA2, shape_VolkswagenSA2, throws_VolkswagenSA2⟩⟩

/-- Where the original throws, the port returns no key. -/
def KeyOnlyWhere (original : Except CSharp.Exception (Option Bytes))
    (port : Except Exn (Option Bytes)) : Prop :=
  (∃ e, original = .error e) → ¬ Keyed port

/--
**A port yields a key only where its original does, exactly if all that it makes a
key of is inside the arrays of the original.**
-/
theorem keyOnlyWhere_iff (r : Reader) (hr : r ∈ readers) (parameters : List Parameter)
    (h : ∀ row ∈ parameters, WellFormed row) (seed outKey : Bytes) (level : Int) :
    KeyOnlyWhere (r.csharp seed outKey level parameters)
        (r.python seed outKey.length level parameters)
      ↔ (r.Gives seed outKey.length parameters → r.inside seed parameters) := by
  have hsound := readers_sound r hr
  have hkeyed := keyed_iff hsound.meets hsound.shape h seed outKey.length level
  unfold KeyOnlyWhere
  rw [hkeyed, ← not_returns]
  constructor
  · rintro honly ⟨hasked, ⟨hseed, hkey⟩, haccepts⟩
    by_contra hout
    have hends := hsound.throws seed outKey level parameters h hasked hseed hkey haccepts
    exact honly (fun hreturns => hout (hends.iff.mp hreturns)) ⟨hasked, ⟨hseed, hkey⟩, haccepts⟩
  · rintro hin hthrows ⟨hasked, ⟨hseed, hkey⟩, haccepts⟩
    have hends := hsound.throws seed outKey level parameters h hasked hseed hkey haccepts
    exact hthrows (hends.iff.mpr (hin ⟨hasked, ⟨hseed, hkey⟩, haccepts⟩))

/-- A definition with a constant `K`. -/
def rowsOfK (k : String) : List Parameter := [⟨"K", k, "ByteArray"⟩]

/-- A constant of four bytes is inside. -/
theorem keyOnlyWhere_word :
    KeyOnlyWhere (CSharp.VGSSecurityAlgo.generateKey [1, 2, 3, 4] [0, 0, 0, 0] 1 (rowsOfK "01020304"))
      (VGSSecurityAlgo.generateKey [1, 2, 3, 4] 4 1 (rowsOfK "01020304")) := by
  have hrows : ∀ row ∈ rowsOfK "01020304", WellFormed row := by decide
  have hr : (⟨⟨VGSSecurityAlgo.generateKey, CSharp.VGSSecurityAlgo.generateKey⟩,
      .always [("K", "ByteArray")], [4], 4, WordsHeld ["K"]⟩ : Reader) ∈ readers := by
    simp [readers]
  refine (keyOnlyWhere_iff _ hr _ hrows [1, 2, 3, 4] [0, 0, 0, 0] 1).mpr fun _ => ?_
  exact List.forall_mem_singleton.mpr (by decide +kernel)

/-- A level below zero, with a constant that is long enough. -/
def negativeLevel : List Parameter :=
  [⟨"K", "0102030405060708", "ByteArray"⟩, ⟨"InternalLevel", "FFFFFFFF", "Int32"⟩]

/-- A constant of two bytes and a level below zero: the original throws, the port goes on. -/
theorem keys_where_original_throws :
    ((∀ row ∈ rowsOfK "0102", WellFormed row)
      ∧ CSharp.DaimlerStandardSecurityAlgo.generateKey [1, 2, 3, 4, 5, 6, 7, 8] [0, 0, 0, 0] 1
        (rowsOfK "0102") = .error .indexOutOfRange
      ∧ DaimlerStandardSecurityAlgo.generateKey [1, 2, 3, 4, 5, 6, 7, 8] 4 1 (rowsOfK "0102")
        = .ok (some [0x12, 0x3B, 0x2F, 0x4E])
      ∧ ¬ KeyOnlyWhere (CSharp.DaimlerStandardSecurityAlgo.generateKey
          [1, 2, 3, 4, 5, 6, 7, 8] [0, 0, 0, 0] 1 (rowsOfK "0102"))
        (DaimlerStandardSecurityAlgo.generateKey [1, 2, 3, 4, 5, 6, 7, 8] 4 1 (rowsOfK "0102")))
    ∧ (∀ row ∈ negativeLevel, WellFormed row)
      ∧ CSharp.VDOSecurityAlgo.generateKey [1, 2, 3, 4, 5, 6, 7, 8] [0, 0, 0, 0, 0, 0, 0, 0] 1
        negativeLevel = .error .indexOutOfRange
      ∧ VDOSecurityAlgo.generateKey [1, 2, 3, 4, 5, 6, 7, 8] 8 1 negativeLevel
        = .ok (some [12, 129, 49, 159, 111, 145, 21, 251]) := by
  have hthrows : CSharp.DaimlerStandardSecurityAlgo.generateKey [1, 2, 3, 4, 5, 6, 7, 8]
      [0, 0, 0, 0] 1 (rowsOfK "0102") = .error .indexOutOfRange := by decide
  have hkey : DaimlerStandardSecurityAlgo.generateKey [1, 2, 3, 4, 5, 6, 7, 8] 4 1
      (rowsOfK "0102") = .ok (some [0x12, 0x3B, 0x2F, 0x4E]) := by decide
  refine ⟨⟨by decide, hthrows, hkey, ?_⟩, by decide, by decide,
    by decide +kernel⟩
  exact fun honly => honly ⟨_, hthrows⟩ ⟨_, hkey⟩

end AutoDiag.Proof
