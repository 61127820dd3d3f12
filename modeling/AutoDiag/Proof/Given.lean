import AutoDiag.Proof.Failures

/-!
# When a port gives a key

A port gives a key exactly if it gets what it asks for, takes the lengths of the
seed and of the key, and its contract holds. Here that is shown for the ports that
read words or places, whatever the well-formed rows are.
-/

namespace AutoDiag.Proof

open Raise Security BitUtility

variable {parameters : List Parameter} {asks : List (String × String)} {takes : Prop}

/-! ## Reading -/

/-- The first row of that name and type was found, and it is well formed. -/
theorem find_asked (h : ∀ row ∈ parameters, WellFormed row) {key dataType text : String}
    (htype : dataType ∈ ["ByteArray", "Byte", "Int32", "Int64"])
    (hfind : Security.find parameters key dataType = .ok text) :
    Asked parameters (key, dataType) := by
  refine ⟨text, hfind, ?_⟩
  unfold Security.find at hfind
  split at hfind
  · rename_i row hrow
    cases hfind
    have hrow' := List.find?_some hrow
    simp only [Bool.decide_and, Bool.and_eq_true, decide_eq_true_eq] at hrow'
    have hwf := h row (List.mem_of_find?_eq_some hrow)
    refine ⟨fun hbytes => hwf.byteArray (hrow'.2.trans hbytes), fun hne => ?_⟩
    -- one case for each type, in the order of the list
    rcases List.mem_cons.mp htype with rfl | htype
    · exact absurd rfl hne
    rcases List.mem_cons.mp htype with rfl | htype
    · exact ⟨(hwf.byte hrow'.2).digits, (hwf.byte hrow'.2).nonempty⟩
    rcases List.mem_cons.mp htype with rfl | htype
    · exact ⟨(hwf.int32 hrow'.2).digits, (hwf.int32 hrow'.2).nonempty⟩
    · rw [List.mem_singleton] at htype
      subst htype
      exact ⟨(hwf.int64 hrow'.2).digits, (hwf.int64 hrow'.2).nonempty⟩
  · cases hfind

/-- Whatever is made of a row, the row was there. -/
theorem yields_find {α : Type} (h : ∀ row ∈ parameters, WellFormed row) {key dataType : String}
    (htype : dataType ∈ ["ByteArray", "Byte", "Int32", "Int64"]) {f : String → Except Exn α} :
    Yields (fun _ => Asked parameters (key, dataType))
      (Security.find parameters key dataType >>= f) :=
  yields_bind_of (fun _ hfind => find_asked h htype hfind) fun _ hasked _ _ => hasked

/-- Bytes that were read were there. -/
theorem yields_paramBytes (h : ∀ row ∈ parameters, WellFormed row) (key : String) :
    Yields (fun _ => Asked parameters (key, "ByteArray")) (paramBytes parameters key) :=
  yields_find h (by decide)

theorem yields_paramWord (h : ∀ row ∈ parameters, WellFormed row) (key : String) (e : Endian) :
    Yields (fun _ => Asked parameters (key, "ByteArray")) (paramWord parameters key e) :=
  yields_bind_of (yields_paramBytes h key) fun _ hasked => yields_pure hasked

/-- `yields_find` for each of the types that a provider reads. -/
theorem yields_paramByte (h : ∀ row ∈ parameters, WellFormed row) (key : String) :
    Yields (fun _ => Asked parameters (key, "Byte")) (paramByte parameters key) :=
  yields_find h (by decide)

theorem yields_paramInt (h : ∀ row ∈ parameters, WellFormed row) (key : String) :
    Yields (fun _ => Asked parameters (key, "Int32")) (paramInt parameters key) :=
  yields_find h (by decide)

theorem yields_paramLong (h : ∀ row ∈ parameters, WellFormed row) (key : String) :
    Yields (fun _ => Asked parameters (key, "Int64")) (paramLong parameters key) :=
  yields_find h (by decide)

/-- A list of rows was there when all of it was read. -/
theorem yields_mapM {α β : Type} {f : α → Except Exn β} {names : List α} {P : α → Prop}
    (h : ∀ name ∈ names, Yields (fun _ => P name) (f name)) :
    Yields (fun _ => ∀ name ∈ names, P name) (names.mapM f) := by
  induction names with
  | nil => exact yields_pure (by simp)
  | cons name names ih =>
    rw [List.mapM_cons]
    obtain ⟨hname, hnames⟩ := List.forall_mem_cons.mp h
    refine yields_bind_of hname fun _ hp => yields_bind_of (ih hnames) fun _ hps => ?_
    exact yields_pure (List.forall_mem_cons.mpr ⟨hp, hps⟩)

/-! ## The shape of a port -/

/-- There is a key exactly if the lengths are taken, and then all that was asked for was there. -/
inductive Given (asks : List (String × String)) (takes : Prop) (parameters : List Parameter) :
    Option Bytes → Prop where
  | none : ¬ takes → Given asks takes parameters none
  | some {key : Bytes} : takes → (∀ ask ∈ asks, Asked parameters ask) →
      Given asks takes parameters (some key)

/-- A port that asks for this, and takes seeds of these lengths and keys of that one. -/
def Shape (p : Provider) (asks : List (String × String)) (seedLengths : List Nat)
    (length : Int) : Prop :=
  ∀ seed keyLength accessLevel parameters, (∀ row ∈ parameters, WellFormed row) →
    Yields (Given asks (seed.length ∈ seedLengths ∧ keyLength = length) parameters)
      (p seed keyLength accessLevel parameters)

/-- The guard turns away exactly the lengths that are not taken. -/
theorem given_guard {seed : Bytes} {keyLength : Int} {n : Nat} {m : Int}
    {x : Except Exn (Option Bytes)}
    (h : seed.length ∈ [n] ∧ keyLength = m →
      Yields (Given asks (seed.length ∈ [n] ∧ keyLength = m) parameters) x) :
    Yields (Given asks (seed.length ∈ [n] ∧ keyLength = m) parameters)
      (if seed.length ≠ n ∨ keyLength ≠ m then pure none else x) := by
  have htakes : seed.length ≠ n ∨ keyLength ≠ m ↔ ¬ (seed.length ∈ [n] ∧ keyLength = m) := by
    rw [List.mem_singleton, not_and_or]
  exact yields_ite (fun hg => yields_pure (.none (htakes.mp hg)))
    fun hg => h (not_not.mp fun ht => hg (htakes.mpr ht))

/-- A key was returned. -/
def Keyed (x : Except Exn (Option Bytes)) : Prop := ∃ key, x = .ok (some key)

/-- **A port gives a key exactly if it gets what it asks for, takes the lengths and its contract
holds.** -/
theorem keyed_iff {p : Provider} {c : Contract} {seedLengths : List Nat} {length : Int}
    (hmeets : Meets p c) (hshape : Shape p c.asks seedLengths length)
    (h : ∀ row ∈ parameters, WellFormed row) (seed : Bytes) (keyLength accessLevel : Int) :
    Keyed (p seed keyLength accessLevel parameters)
      ↔ (∀ ask ∈ c.asks, Asked parameters ask) ∧ (seed.length ∈ seedLengths ∧ keyLength = length)
        ∧ c.accepts seed keyLength parameters := by
  have hgiven := hshape seed keyLength accessLevel parameters h
  constructor
  · rintro ⟨key, hkey⟩
    -- a key is only given in the second case of the shape
    cases hgiven _ hkey with
    | some htakes hasked =>
      have hends := hmeets seed keyLength accessLevel parameters hasked
      exact ⟨hasked, htakes, hends.iff.mp ⟨_, hkey⟩⟩
  · rintro ⟨hasked, htakes, haccepts⟩
    obtain ⟨out, hout⟩ := (hmeets seed keyLength accessLevel parameters hasked).iff.mpr haccepts
    cases hgiven out hout with
    | none hnot => exact absurd htakes hnot
    | some _ _ => exact ⟨_, hout⟩

/-! ## Words -/

/-- The key constant is read first, then the others, whichever they are. -/
theorem shape_affine {key : String}
    {constants : List Parameter → Except Exn (Int × Int × Int × Int)}
    (hc : ∀ parameters, (∀ row ∈ parameters, WellFormed row) →
      Yields (fun _ => ∀ ask ∈ asks, Asked parameters ask) (constants parameters)) :
    Shape (affine key constants) ((key, "ByteArray") :: asks) [8] 4 := by
  intro seed keyLength accessLevel parameters h
  refine yields_bind_of (yields_paramWord h key .big) fun _ hkey => ?_
  refine yields_bind_of (hc parameters h) fun (kA, kC, kA', kC') hasks => ?_
  exact given_guard fun ht => yields_pure (.some ht (List.forall_mem_cons.mpr ⟨hkey, hasks⟩))

theorem shape_DaimlerStandardSecurityAlgoMod :
    Shape DaimlerStandardSecurityAlgoMod.generateKey
      [("K", "ByteArray"), ("kA", "Int64"), ("kC", "Int64")] [8] 4 := by
  refine shape_affine fun parameters h => ?_
  refine yields_bind_of (yields_paramLong h "kA") fun _ hA => ?_
  refine yields_bind_of (yields_paramLong h "kC") fun _ hC => ?_
  exact yields_pure (by simp [hA, hC])

/-- All three rows are read before the guard, so a key means that all were there. -/
theorem shape_EDIFF290 : Shape EDIFF290.generateKey Contract.EDIFF290.asks [8] 4 := by
  intro seed keyLength accessLevel parameters h
  refine yields_bind_of (yields_paramWord h "KeyK" .big) fun _ hK => ?_
  refine yields_bind_of (yields_paramInt h "kA") fun _ hA => ?_
  refine yields_bind_of (yields_paramInt h "kC") fun _ hC => ?_
  exact given_guard fun ht => yields_bind fun _ => yields_pure (.some ht (by simp [hK, hA, hC]))

theorem shape_DRVU_PROF : Shape DRVU_PROF.generateKey Contract.DRVU_PROF.asks [4] 4 := by
  intro seed keyLength accessLevel parameters h
  refine yields_bind_of (yields_paramWord h "KeyConst" .big) fun _ hK => ?_
  exact given_guard fun ht => yields_bind fun _ => yields_pure (.some ht (by simp [hK]))

theorem shape_MarquardtSecurityAlgo :
    Shape MarquardtSecurityAlgo.generateKey Contract.MarquardtSecurityAlgo.asks [4] 4 := by
  intro seed keyLength accessLevel parameters h
  refine yields_bind_of (yields_paramBytes h "const_M") fun _ hM => ?_
  refine yields_bind_of (yields_paramBytes h "const_C") fun _ hC => ?_
  refine yields_bind_of (yields_paramBytes h "const_A") fun _ hA => ?_
  exact given_guard fun ht => yields_bind fun _ => yields_pure (.some ht (by simp [hM, hC, hA]))

theorem shape_VGSSecurityAlgo :
    Shape VGSSecurityAlgo.generateKey [("K", "ByteArray")] [4] 4 := by
  intro seed keyLength accessLevel parameters h
  refine yields_bind_of (yields_paramWord h "K" .big) fun _ hK => ?_
  exact given_guard fun ht => yields_pure (.some ht (by simp [hK]))

theorem shape_VGSSecurityAlgoExt :
    Shape VGSSecurityAlgoExt.generateKey [("M", "ByteArray"), ("X", "ByteArray")] [4] 4 := by
  intro seed keyLength accessLevel parameters h
  refine yields_bind_of (yields_paramWord h "M" .big) fun _ hM => ?_
  refine yields_bind_of (yields_paramWord h "X" .big) fun _ hX => ?_
  exact given_guard fun ht => yields_pure (.some ht (by simp [hM, hX]))

/-- Three words, whatever their names. -/
theorem shape_maskXorAdd (a b c : String) (finish : Nat → Nat) :
    Shape (maskXorAdd a b c finish)
      [(a, "ByteArray"), (b, "ByteArray"), (c, "ByteArray")] [4] 4 := by
  intro seed keyLength accessLevel parameters h
  refine yields_bind_of (yields_paramWord h a .big) fun _ ha => ?_
  refine yields_bind_of (yields_paramWord h b .big) fun _ hb => ?_
  refine yields_bind_of (yields_paramWord h c .big) fun _ hc => ?_
  exact given_guard fun ht => yields_pure (.some ht (by simp [ha, hb, hc]))

/-- The rows are read behind the guard, so without them a seed can still be turned away. -/
theorem shape_KI221Algo2 :
    Shape KI221Algo2.generateKey [("Xor", "ByteArray"), ("Add", "ByteArray")] [4] 4 := by
  intro seed keyLength accessLevel parameters h
  unfold KI221Algo2.generateKey
  refine given_guard fun ht => ?_
  refine yields_bind_of (yields_paramBytes h "Xor") fun _ hX => ?_
  refine yields_bind_of (yields_paramBytes h "Add") fun _ hA => ?_
  exact yields_pure (.some ht (by simp [hX, hA]))

/-- Seeds of two lengths are taken, and the length of the key is checked first. -/
theorem shape_ORC166 : Shape ORC166.generateKey [("staticKey", "ByteArray")] [4, 8] 4 := by
  intro seed keyLength accessLevel parameters h
  refine yields_bind_of (yields_paramWord h "staticKey" .big) fun _ hK => ?_
  refine yields_ite (fun hkey => yields_pure (.none fun ht => hkey ht.2)) fun hkey => ?_
  refine yields_ite (fun hseed => yields_pure (.none fun ht => hseed (by simpa using ht.1))) ?_
  intro hseed
  -- past both checks the lengths are the ones taken
  have ht : seed.length ∈ [4, 8] ∧ keyLength = 4 :=
    ⟨by simpa using not_not.mp hseed, not_not.mp hkey⟩
  exact yields_bind fun _ => yields_bind fun _ => yields_bind fun _ => yields_bind fun _ =>
    yields_pure (.some ht (by simp [hK]))

theorem shape_SWSP177 : Shape SWSP177.generateKey [("KeyConst", "ByteArray")] [4] 4 := by
  intro seed keyLength accessLevel parameters h
  refine yields_bind_of (yields_paramWord h "KeyConst" .big) fun _ hK => ?_
  exact given_guard fun ht => yields_pure (.some ht (by simp [hK]))

theorem shape_KI203Algo : Shape KI203Algo.generateKey [("K", "ByteArray")] [4] 4 := by
  intro seed keyLength accessLevel parameters h
  unfold KI203Algo.generateKey
  refine given_guard fun ht => ?_
  refine yields_bind_of (yields_paramWord h "K" .big) fun _ hK => ?_
  iterate 8 refine yields_bind fun _ => ?_
  exact yields_pure (.some ht (by simp [hK]))

/-! ## Rotations, levels and tapes -/

/-- What is read of the seed behind the rows changes nothing. -/
theorem shape_KI221Algo1 : Shape KI221Algo1.generateKey Contract.KI221Algo1.asks [8] 7 := by
  intro seed keyLength accessLevel parameters h
  unfold KI221Algo1.generateKey
  refine given_guard fun ht => ?_
  refine yields_bind_of (yields_paramByte h "Level") fun _ hL => ?_
  refine yields_bind_of (yields_paramBytes h "K") fun _ hK => ?_
  iterate 13 refine yields_bind fun _ => ?_
  exact yields_pure (.some ht (by simp [hL, hK]))

theorem shape_KIAlgo1 :
    Shape KIAlgo1.generateKey [("Level", "Byte"), ("K", "ByteArray")] [8] 7 := by
  intro seed keyLength accessLevel parameters h
  refine yields_bind_of (yields_paramByte h "Level") fun _ hL => ?_
  refine yields_bind_of (yields_paramWord h "K" .big) fun _ hK => ?_
  refine given_guard fun ht => ?_
  iterate 9 refine yields_bind fun _ => ?_
  exact yields_pure (.some ht (by simp [hL, hK]))

theorem shape_VDOSecurityAlgo :
    Shape VDOSecurityAlgo.generateKey Contract.VDOSecurityAlgo.asks [8] 8 := by
  intro seed keyLength accessLevel parameters h
  refine yields_bind_of (yields_paramBytes h "K") fun _ hK => ?_
  refine yields_bind_of (yields_paramInt h "InternalLevel") fun _ hL => ?_
  exact given_guard fun ht => yields_bind fun _ => yields_pure (.some ht (by simp [hK, hL]))

/-- The tape is read; whether it runs to its end is for the contract to say. -/
theorem shape_VolkswagenSA2 :
    Shape Security.VolkswagenSA2.generateKey Contract.VolkswagenSA2.asks [4] 4 := by
  intro seed keyLength accessLevel parameters h
  refine yields_bind_of (yields_paramBytes h "InstructionTape") fun _ hT => ?_
  exact given_guard fun ht => yields_bind fun _ => yields_pure (.some ht (by simp [hT]))

/-! ## Rows -/

/-- Cells first, then the two sets of indices, and each of them in the order of its names. -/
theorem shape_selectByParameters (cells i j : String)
    (g : Nat → Nat → Nat → List (List Nat) → Except Exn Nat) :
    Shape (selectByParameters cells i j g) (selectAsks cells i j) [4] 4 := by
  intro seed keyLength accessLevel parameters h
  have hcells : Yields
      (fun _ => ∀ row ∈ cellNames cells, ∀ name ∈ row, Asked parameters (name, "Byte"))
      ((cellNames cells).mapM fun row => row.mapM (paramByte parameters)) :=
    yields_mapM fun row _ => yields_mapM fun name _ => yields_paramByte h name
  have hints : ∀ names : List String,
      Yields (fun _ => ∀ name ∈ names, Asked parameters (name, "Int32"))
      (names.mapM (paramInt parameters)) :=
    fun names => yields_mapM fun name _ => yields_paramInt h name
  refine yields_bind_of hcells fun _ hX => ?_
  refine yields_bind_of (hints _) fun _ hi => ?_
  refine yields_bind_of (hints _) fun _ hj => ?_
  refine given_guard fun ht => yields_bind fun _ => yields_pure (.some ht ?_)
  intro ask hask
  -- what is asked for is a cell, or an index of one of the two sets
  rcases List.mem_append.mp hask with hask | hask
  · obtain ⟨name, hname, rfl⟩ := List.mem_map.mp hask
    obtain ⟨row, hrow, hname⟩ := List.mem_flatten.mp hname
    exact hX row hrow name hname
  · obtain ⟨name, hname, rfl⟩ := List.mem_map.mp hask
    rcases List.mem_append.mp hname with hname | hname
    · exact hi name hname
    · exact hj name hname

/-- Eight rows of each of the two matrices. -/
theorem shape_selectFixed (dBits : UInt8 → UInt8 → UInt8 → UInt8 → Except Exn Selection)
    (gBits : UInt8 → UInt8 → UInt8 → UInt8 → Nat → Except Exn Selection) :
    Shape (selectFixed dBits gBits) fixedAsks [4] 4 := by
  intro seed keyLength accessLevel parameters h
  have hrows : ∀ stem, Yields (fun _ => ∀ n ∈ List.range 8,
      Asked parameters (stem ++ toString n, "ByteArray")) (matrixRows parameters stem) := by
    intro stem
    refine yields_mapM fun n _ => ?_
    exact yields_bind_of (yields_paramBytes h _) fun _ hasked => yields_pure hasked
  refine yields_bind_of (hrows "D_VALUE_") fun _ hd => ?_
  refine yields_bind_of (hrows "G_VALUE_") fun _ hg => ?_
  refine given_guard fun ht => yields_bind fun _ => yields_pure (.some ht ?_)
  intro ask hask
  obtain ⟨name, hname, rfl⟩ := List.mem_map.mp hask
  obtain ⟨stem, hstem, hname⟩ := List.mem_flatMap.mp hname
  obtain ⟨n, hn, rfl⟩ := List.mem_map.mp hname
  rcases List.mem_cons.mp hstem with rfl | hstem
  · exact hd n hn
  · rw [List.mem_singleton] at hstem
    subst hstem
    exact hg n hn

theorem shape_PowertrainSecurityAlgo3 :
    Shape PowertrainSecurityAlgo3.generateKey [] [4] 4 := by
  intro seed keyLength accessLevel parameters h
  unfold PowertrainSecurityAlgo3.generateKey
  exact given_guard fun ht => yields_bind fun _ => yields_pure (.some ht (by simp))

end AutoDiag.Proof
