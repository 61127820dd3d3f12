import AutoDiag.Proof.Selection

/-!
# Contracts of the powertrain providers

Index parameters have to be places of the seed, bits of a byte and bytes of a word;
the rows that the seed selects have to hold a word.
-/

namespace AutoDiag.Proof

open Raise Security BitUtility

variable {parameters : List Parameter}

/-! ## Selection by parameters -/

theorem reversedSeed_eq {seed : Bytes} (h : seed.length = 4) :
    ∃ w0 w1 w2 w3, seed = [w3, w2, w1, w0] ∧ reversedSeed seed = .ok [w0, w1, w2, w3] := by
  match seed, h with
  | [w3, w2, w1, w0], _ => exact ⟨w0, w1, w2, w3, rfl, rfl⟩

/-- A place of the seed, from either end. -/
def SeedPlace (i : Int) : Prop := -4 ≤ i ∧ i ≤ 3

/-- A bit of a byte. -/
def BitPlace (j : Int) : Prop := 0 ≤ j ∧ j ≤ 7

/-- A byte of a word. -/
def BytePlace (p : Int) : Prop := 0 ≤ p ∧ p ≤ 3

/-- Each index is checked where it is used, in the order of the source. -/
theorem selectedKey_ends {g : Nat → Nat → Nat → List (List Nat) → Except Exn Nat}
    {matrix : List (List Nat)} (hd : ∀ a b c, Returns (createDValue a b c matrix))
    (hg : ∀ a b c, Returns (g a b c matrix)) {seed : Bytes} (hseed : seed.length = 4)
    (i1 i2 i3 i4 i5 i6 j1 j2 j3 j4 j5 j6 : Int) :
    ReturnsIff Fault
      (SeedPlace i1 ∧ SeedPlace i2 ∧ (SeedPlace i3 ∧ BitPlace j1) ∧ (SeedPlace i4 ∧ BitPlace j2)
        ∧ BitPlace j3 ∧ (SeedPlace i5 ∧ BitPlace j4) ∧ BitPlace j5 ∧ BytePlace i6 ∧ BitPlace j6)
      (selectedKey g matrix [i1, i2, i3, i4, i5, i6] [j1, j2, j3, j4, j5, j6] seed) := by
  obtain ⟨w0, w1, w2, w3, -, hws⟩ := reversedSeed_eq hseed
  have hplace : ∀ i, ReturnsIff Fault (SeedPlace i) (Py.indexFrom [w0, w1, w2, w3] i) := by
    intro i
    refine (indexFrom_ends _ i).congr ?_
    simp only [List.length_cons, List.length_nil, SeedPlace]
    omega
  have hbit : ∀ i j, ReturnsIff Fault (SeedPlace i ∧ BitPlace j) (seedBit [w0, w1, w2, w3] i j) :=
    fun i j => returnsIff_bind (hplace i) fun b _ => getBit_ends b.toNat j
  unfold selectedKey
  rw [hws, ok_bind]
  simp only [Py.item, List.getElem?_cons_zero, List.getElem?_cons_succ, ok_bind]
  refine returnsIff_bind (hplace i1) fun _ _ => returnsIff_bind (hplace i2) fun _ _ => ?_
  refine returnsIff_bind (hbit i3 j1) fun dBit2 _ => ?_
  refine returnsIff_bind (hbit i4 j2) fun dBit1 _ => ?_
  refine returnsIff_bind (getBit_ends _ j3) fun dBit0 _ => ?_
  refine returnsIff_bind_right (hd dBit2 dBit1 dBit0) fun dValue _ => ?_
  refine returnsIff_bind (hbit i5 j4) fun gBit2 _ => ?_
  refine returnsIff_bind (getBit_ends _ j5) fun gBit1 _ => ?_
  refine returnsIff_bind (getByte_ends _ i6) fun byte _ => ?_
  refine returnsIff_bind_left (getBit_ends byte j6) fun gBit0 _ => ?_
  exact returns_bind (hg gBit2 gBit1 gBit0) fun _ _ => returns_pure _

/-- What a provider of the family asks for: the cells of the matrix and the two sets of indices. -/
def selectAsks (cells i j : String) : List (String × String) :=
  (cellNames cells).flatten.map (fun name => (name, "Byte"))
    ++ (indexNames i ++ indexNames j).map fun name => (name, "Int32")

/-- The first five indices are places of the seed, the sixth one of a word, and the others bits. -/
def indicesInRange (i j : String) (parameters : List Parameter) : Prop :=
  (∀ name ∈ (indexNames i).take 5, SeedPlace (intAt parameters name))
    ∧ (∀ name ∈ (indexNames i).drop 5, BytePlace (intAt parameters name))
    ∧ ∀ name ∈ indexNames j, BitPlace (intAt parameters name)

/-- All twelve indices count, for every seed of four bytes. -/
def Contract.selectByParameters (cells i j : String) : Contract where
  asks := selectAsks cells i j
  accepts seed keyLength parameters :=
    seed.length = 4 → keyLength = 4 → indicesInRange i j parameters

/-- With the cells and the indices read, only the indices can still be wrong. -/
theorem meets_selectByParameters {g : Nat → Nat → Nat → List (List Nat) → Except Exn Nat}
    (hg : ∀ matrix : List (List Nat), matrix.length = 8 → (∀ row ∈ matrix, row.length = 4) →
      ∀ a b c, Returns (g a b c matrix)) (cells i j : String) :
    Meets (selectByParameters cells i j g) (.selectByParameters cells i j) := by
  intro seed keyLength accessLevel parameters hasked
  have hint : ∀ name ∈ indexNames i ++ indexNames j,
      paramInt parameters name = .ok (intAt parameters name) := by
    intro name hname
    exact paramInt_asked (hasked _ (List.mem_append_right _ (List.mem_map_of_mem hname)))
  have hcells : ∀ row ∈ cellNames cells,
      row.mapM (paramByte parameters) = .ok (row.map (byteAt parameters)) := by
    intro row hrow
    refine mapM_ok fun name hname => (paramByte_asked (hasked _ ?_)).1
    exact List.mem_append_left _
      (List.mem_map_of_mem (List.mem_flatten.mpr ⟨row, hrow, hname⟩))
  -- the names alone fix the shape of the matrix
  have hmatrix : ((cellNames cells).map fun row => row.map (byteAt parameters)).length = 8
      ∧ ∀ row ∈ (cellNames cells).map fun row => row.map (byteAt parameters), row.length = 4 := by
    refine ⟨rfl, fun row hrow => ?_⟩
    obtain ⟨names, hnames, rfl⟩ := List.mem_map.mp hrow
    obtain ⟨n, -, rfl⟩ := List.mem_map.mp hnames
    rfl
  unfold selectByParameters
  rw [mapM_ok hcells, ok_bind,
    mapM_ok fun name hname => hint name (List.mem_append_left _ hname), ok_bind,
    mapM_ok fun name hname => hint name (List.mem_append_right _ hname), ok_bind]
  refine guard_ends fun hseed _ => returnsIff_bind_left ?_ fun _ _ => returns_pure _
  refine (selectedKey_ends ?_ (hg _ hmatrix.1 hmatrix.2) hseed _ _ _ _ _ _ _ _ _ _ _ _).congr ?_
  · exact anyRow_returns hmatrix.1 hmatrix.2 (by decide) (by decide) (by decide) (by decide)
  · have hnames : ∀ stem, indexNames stem = [stem ++ toString (0 + 1), stem ++ toString (1 + 1),
        stem ++ toString (2 + 1), stem ++ toString (3 + 1), stem ++ toString (4 + 1),
        stem ++ toString (5 + 1)] := fun _ => rfl
    unfold indicesInRange
    rw [hnames i, hnames j]
    simp only [List.take_succ_cons, List.take_zero, List.drop_succ_cons, List.drop_zero,
      List.forall_mem_cons, List.not_mem_nil, false_implies, implies_true, and_true]
    tauto

/-! ## Selection at fixed places -/

/-- The rows of the two matrices. -/
def fixedAsks : List (String × String) :=
  (["D_VALUE_", "G_VALUE_"].flatMap fun stem =>
    (List.range 8).map fun row => stem ++ toString row).map fun name => (name, "ByteArray")

/-- The rows that the seed word selects hold four bytes: first that of the D value, which has a say
in the other choice. -/
def rowsHoldWords (dRow : Nat → Nat) (gRow : Nat → Nat → Nat) (seed : Bytes)
    (dRows gRows : Nat → Bytes) : Prop :=
  let word := bytesToInt seed .big 0
  let dValue := dRows (dRow word)
  let dXorIntermediate := (word ^^^ bytesToInt dValue .big 0) &&& u32
  4 ≤ dValue.length ∧ 4 ≤ (gRows (gRow word dXorIntermediate)).length

/-- Which rows the bits of a provider select. -/
structure Selects (dBits : UInt8 → UInt8 → UInt8 → UInt8 → Except Exn Selection)
    (gBits : UInt8 → UInt8 → UInt8 → UInt8 → Nat → Except Exn Selection)
    (dRow : Nat → Nat) (gRow : Nat → Nat → Nat) : Prop where
  dValue : ∀ w0 w1 w2 w3, ∃ bit2 bit1 bit0, dBits w0 w1 w2 w3 = .ok (bit2, bit1, bit0)
    ∧ rowOf (bit2 != 0) (bit1 != 0) (bit0 != 0) = dRow (bytesToInt [w3, w2, w1, w0] .big 0)
  gValue : ∀ w0 w1 w2 w3 x, ∃ bit2 bit1 bit0, gBits w0 w1 w2 w3 x = .ok (bit2, bit1, bit0)
    ∧ rowOf (bit2 != 0) (bit1 != 0) (bit0 != 0) = gRow (bytesToInt [w3, w2, w1, w0] .big 0) x

/-- The matrix of eight rows. -/
def matrixOf (rows : Nat → Bytes) : List (List Nat) :=
  (List.range 8).map fun n => (rows n).map UInt8.toNat

/-- A row that is selected is one of the eight. -/
theorem matrixOf_row (rows : Nat → Bytes) {n : Nat} (h : n < 8) :
    (matrixOf rows)[n]? = some ((rows n).map UInt8.toNat) := by
  rw [matrixOf, List.getElem?_map, List.getElem?_range h]
  rfl

/-- The rows of one matrix, among the parameters. -/
def rowsAt (parameters : List Parameter) (stem : String) (n : Nat) : Bytes :=
  bytesAt parameters (stem ++ toString n)

/-- Rows that are there are read, whatever their lengths. -/
theorem matrixRows_eq {stem : String}
    (h : ∀ n < 8, Asked parameters (stem ++ toString n, "ByteArray")) :
    matrixRows parameters stem = .ok (matrixOf (rowsAt parameters stem)) := by
  refine mapM_ok fun n hn => ?_
  rw [paramBytes_asked (h n (List.mem_range.mp hn))]
  rfl

section

variable {dBits : UInt8 → UInt8 → UInt8 → UInt8 → Except Exn Selection}
  {gBits : UInt8 → UInt8 → UInt8 → UInt8 → Nat → Except Exn Selection}
  {dRow : Nat → Nat} {gRow : Nat → Nat → Nat}

/-- The D value is made before the bits of the G value are taken of it. -/
theorem fixedKey_ends (h : Selects dBits gBits dRow gRow) {seed : Bytes} (hseed : seed.length = 4)
    (dRows gRows : Nat → Bytes) :
    ReturnsIff Fault (rowsHoldWords dRow gRow seed dRows gRows)
      (fixedKey dBits gBits (matrixOf dRows) (matrixOf gRows) seed) := by
  obtain ⟨w0, w1, w2, w3, rfl, hws⟩ := reversedSeed_eq hseed
  obtain ⟨d2, d1, d0, hdBits, hdRow⟩ := h.dValue w0 w1 w2 w3
  unfold fixedKey rowsHoldWords
  rw [hws, ok_bind]
  simp only [Py.index, List.getElem?_cons_zero, List.getElem?_cons_succ, ok_bind, hdBits]
  have hdMatrix := matrixOf_row dRows (rowOf_lt (d2 != 0) (d1 != 0) (d0 != 0))
  have hgMatrix := fun g2 g1 g0 => matrixOf_row gRows (rowOf_lt g2 g1 g0)
  rw [← hdRow]
  refine returnsIff_bind (createDValue_ends hdMatrix) fun dValue hdValue => ?_
  -- a row that makes a word holds four bytes, so the word is the one they write
  have hlen := (createDValue_ends hdMatrix).iff.mp ⟨dValue, hdValue⟩
  rw [createDValue_eq hdMatrix hlen] at hdValue
  cases hdValue
  obtain ⟨g2, g1, g0, hgBits, hgRow⟩ := h.gValue w0 w1 w2 w3 _
  have hreversed : bytesToInt [w0, w1, w2, w3] .little 0 = bytesToInt [w3, w2, w1, w0] .big 0 := rfl
  rw [← hgRow, hreversed, hgBits, ok_bind]
  exact returnsIff_bind_left (createDValue_ends (hgMatrix _ _ _)) fun _ _ => returns_pure _

/-- The selected rows hold words; the other rows do not count. -/
def Contract.selectFixed (dRow : Nat → Nat) (gRow : Nat → Nat → Nat) : Contract where
  asks := fixedAsks
  accepts seed keyLength parameters := seed.length = 4 → keyLength = 4 →
    rowsHoldWords dRow gRow seed (rowsAt parameters "D_VALUE_") (rowsAt parameters "G_VALUE_")

theorem meets_selectFixed (h : Selects dBits gBits dRow gRow) :
    Meets (selectFixed dBits gBits) (.selectFixed dRow gRow) := by
  intro seed keyLength accessLevel parameters hasked
  have hrows : ∀ stem ∈ ["D_VALUE_", "G_VALUE_"],
      matrixRows parameters stem = .ok (matrixOf (rowsAt parameters stem)) := by
    intro stem hstem
    refine matrixRows_eq fun n hn => hasked _ (List.mem_map_of_mem ?_)
    exact List.mem_flatMap.mpr ⟨stem, hstem, List.mem_map_of_mem (List.mem_range.mpr hn)⟩
  unfold selectFixed
  rw [hrows "D_VALUE_" (by simp), ok_bind, hrows "G_VALUE_" (by simp), ok_bind]
  refine guard_ends fun hseed _ => ?_
  exact returnsIff_bind_left (fixedKey_ends h hseed _ _) fun _ _ => returns_pure _

end

theorem toNat_ne_zero (b : Bool) : (b.toNat != 0) = b := by cases b <;> rfl

/-- A bit of an exclusive or of two bytes. -/
theorem testBit_xorByte (x y : Nat) {k : Nat} (h : k < 8) :
    ((x ^^^ y) &&& 0xFF).testBit k = (x.testBit k ^^ y.testBit k) := by
  rw [Nat.testBit_and, Nat.testBit_xor, show (0xFF : Nat) = 2 ^ 8 - 1 from rfl,
    Nat.testBit_two_pow_sub_one, decide_eq_true h, Bool.and_true]

/-- The row of the D value that the seed word selects. -/
def PowertrainDelphiSecurityAlgo.dRow (w : Nat) : Nat :=
  rowOf (w.testBit 11 ^^ w.testBit 3) (w.testBit 19) (w.testBit 30)

/-- The row of the G value that the seed word selects, and with the D value. -/
def PowertrainDelphiSecurityAlgo.gRow (w x : Nat) : Nat :=
  rowOf (x.testBit 10) (w.testBit 15 ^^ w.testBit 7) (w.testBit 11)

/-- Every bit is taken of a byte, at a place that the byte has. -/
theorem PowertrainDelphiSecurityAlgo.selects :
    Selects PowertrainDelphiSecurityAlgo.dBits PowertrainDelphiSecurityAlgo.gBits dRow gRow := by
  refine ⟨?_, ?_⟩
  · intro w0 w1 w2 w3
    have e2 : getBit _ 3 = .ok _ :=
      getBit_eq ((w1.toNat ^^^ w0.toNat) &&& 0xFF) (k := 3) (by decide)
    have e1 : getBit _ 3 = .ok _ := getBit_eq w2.toNat (k := 3) (by decide)
    have e0 : getBit _ 6 = .ok _ := getBit_eq w3.toNat (k := 6) (by decide)
    refine ⟨_, _, _, by
      unfold PowertrainDelphiSecurityAlgo.dBits
      rw [e2, e1, e0]
      rfl, ?_⟩
    have h3 := testBit_word w3 w2 w1 w0 (k := 3) (by decide)
    have h6 := testBit_word w3 w2 w1 w0 (k := 6) (by decide)
    rw [toNat_ne_zero, toNat_ne_zero, toNat_ne_zero, testBit_xorByte _ _ (by decide), ← h3.1,
      ← h3.2.1, ← h3.2.2.1, ← h6.2.2.2]
    rfl
  · intro w0 w1 w2 w3 x
    have e0 : getBit _ 3 = .ok _ := getBit_eq w1.toNat (k := 3) (by decide)
    have e1 : getBit _ 7 = .ok _ :=
      getBit_eq ((w1.toNat ^^^ w0.toNat) &&& 0xFF) (k := 7) (by decide)
    have eb : getByte x 1 = .ok _ := getByte_eq x (k := 1) (by decide)
    have e2 : getBit _ 2 = .ok _ := getBit_eq (x >>> (8 * 1) &&& 0xFF) (k := 2) (by decide)
    refine ⟨_, _, _, by
      unfold PowertrainDelphiSecurityAlgo.gBits
      rw [e0, ok_bind, e1, ok_bind, eb, ok_bind, e2]
      rfl, ?_⟩
    have h3 := testBit_word w3 w2 w1 w0 (k := 3) (by decide)
    have h7 := testBit_word w3 w2 w1 w0 (k := 7) (by decide)
    rw [toNat_ne_zero, toNat_ne_zero, toNat_ne_zero, testBit_xorByte _ _ (by decide),
      testBit_byte _ _ (by decide), ← h3.2.1, ← h7.1, ← h7.2.1]
    rfl

def Contract.PowertrainDelphiSecurityAlgo : Contract :=
  .selectFixed PowertrainDelphiSecurityAlgo.dRow PowertrainDelphiSecurityAlgo.gRow

theorem meets_PowertrainDelphiSecurityAlgo :
    Meets PowertrainDelphiSecurityAlgo.generateKey .PowertrainDelphiSecurityAlgo :=
  meets_selectFixed PowertrainDelphiSecurityAlgo.selects

/-- The row of the D value that the seed word selects. -/
def PowertrainSecurityAlgoNFZ.dRow (w : Nat) : Nat :=
  rowOf (w.testBit 25 ^^ w.testBit 9) (w.testBit 20) (w.testBit 6)

/-- The row of the G value that the seed word selects, and with the D value. -/
def PowertrainSecurityAlgoNFZ.gRow (w x : Nat) : Nat :=
  rowOf (w.testBit 22) (w.testBit 1) (x.testBit 28)

theorem PowertrainSecurityAlgoNFZ.selects :
    Selects PowertrainSecurityAlgoNFZ.dBits PowertrainSecurityAlgoNFZ.gBits dRow gRow := by
  refine ⟨?_, ?_⟩
  · intro w0 w1 w2 w3
    have e2 : getBit _ 1 = .ok _ :=
      getBit_eq ((w3.toNat ^^^ w1.toNat) &&& 0xFF) (k := 1) (by decide)
    have e1 : getBit _ 4 = .ok _ := getBit_eq w2.toNat (k := 4) (by decide)
    have e0 : getBit _ 6 = .ok _ := getBit_eq w0.toNat (k := 6) (by decide)
    refine ⟨_, _, _, by
      unfold PowertrainSecurityAlgoNFZ.dBits
      rw [e2, e1, e0]
      rfl, ?_⟩
    have h1 := testBit_word w3 w2 w1 w0 (k := 1) (by decide)
    have h4 := testBit_word w3 w2 w1 w0 (k := 4) (by decide)
    have h6 := testBit_word w3 w2 w1 w0 (k := 6) (by decide)
    rw [toNat_ne_zero, toNat_ne_zero, toNat_ne_zero, testBit_xorByte _ _ (by decide), ← h6.1,
      ← h1.2.1, ← h1.2.2.2, ← h4.2.2.1]
    rfl
  · intro w0 w1 w2 w3 x
    have eb : getByte x 3 = .ok _ := getByte_eq x (k := 3) (by decide)
    have e0 : getBit _ 4 = .ok _ := getBit_eq (x >>> (8 * 3) &&& 0xFF) (k := 4) (by decide)
    have e1 : getBit _ 1 = .ok _ := getBit_eq w0.toNat (k := 1) (by decide)
    have e2 : getBit _ 6 = .ok _ := getBit_eq w2.toNat (k := 6) (by decide)
    refine ⟨_, _, _, by
      unfold PowertrainSecurityAlgoNFZ.gBits
      rw [eb, ok_bind, e0, ok_bind, e1, ok_bind, e2]
      rfl, ?_⟩
    have h1 := testBit_word w3 w2 w1 w0 (k := 1) (by decide)
    have h6 := testBit_word w3 w2 w1 w0 (k := 6) (by decide)
    rw [toNat_ne_zero, toNat_ne_zero, toNat_ne_zero, testBit_byte _ _ (by decide), ← h1.1,
      ← h6.2.2.1]
    rfl

def Contract.PowertrainSecurityAlgoNFZ : Contract :=
  .selectFixed PowertrainSecurityAlgoNFZ.dRow PowertrainSecurityAlgoNFZ.gRow

theorem meets_PowertrainSecurityAlgoNFZ :
    Meets PowertrainSecurityAlgoNFZ.generateKey .PowertrainSecurityAlgoNFZ :=
  meets_selectFixed PowertrainSecurityAlgoNFZ.selects

/-! ## Selection from a table of words -/

/-- A bit is moved to one of the seven lowest places. -/
theorem remapBit_lt (x source : Nat) {destination : Nat} (h : destination < 7) :
    PowertrainSecurityAlgo3.remapBit x source destination < 2 ^ 7 := by
  have hlt : 1 <<< destination < 2 ^ 7 := by
    rw [Nat.one_shiftLeft]
    exact Nat.pow_lt_pow_right (by decide) h
  unfold PowertrainSecurityAlgo3.remapBit
  refine Nat.lt_of_le_of_lt Nat.and_le_left ?_
  split
  · exact hlt
  · decide

/-- Seven bits are an index of the table. -/
theorem remap_lt (x : Nat) : PowertrainSecurityAlgo3.remap x < 2 ^ 7 := by
  have hplaces : ∀ entry ∈ PowertrainSecurityAlgo3.sourceBitPositions.zipIdx, entry.2 < 7 := by
    decide
  unfold PowertrainSecurityAlgo3.remap
  refine Nat.lt_of_le_of_lt Nat.and_le_left ?_
  -- every step sets one of the seven bits
  refine List.foldlRecOn _ _ (motive := fun value => value < 2 ^ 7) (by decide) ?_
  intro value hvalue entry hentry
  exact Nat.or_lt_two_pow hvalue (remapBit_lt x _ (hplaces entry hentry))

/-- The table has a word for each remapped seed. -/
theorem meets_PowertrainSecurityAlgo3 :
    Meets PowertrainSecurityAlgo3.generateKey (.always []) := by
  refine meets_always fun seed keyLength accessLevel parameters _ => ?_
  unfold PowertrainSecurityAlgo3.generateKey
  refine guard_returns fun _ => ?_
  have hlen : PowertrainSecurityAlgo3.lookupTable.length = 2 ^ 7 := by decide +kernel
  exact returns_bind (item_returns (by rw [hlen]; exact remap_lt _)) fun _ _ => returns_pure _

end AutoDiag.Proof
