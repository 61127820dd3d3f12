import AutoDiag.CSharp.SecurityProvider

/-!
# One row, two readers

The rows of a definition are text. Python and C# find the same row, and they read
the same value from it where the text is well formed; only C# takes the letters of
a byte array to be upper-case.
-/

namespace AutoDiag.Proof

open Raise Security

/-! ## Well-formed rows -/

/-- Hexadecimal digits, of either letter case. -/
def HexText (s : Str) : Prop := ∀ c ∈ s, (Hex.value c).isSome = true

/-- A number that fits in `bound`, written in hexadecimal digits. -/
structure Numeral (bound : Nat) (s : Str) : Prop where
  digits : HexText s
  nonempty : s ≠ []
  fits : Hex.toNat s < bound

/-- A text of bytes, two digits each; spaces do not count. -/
structure ByteText (s : Str) : Prop where
  digits : HexText (Py.remove ' ' s)
  even : (Py.remove ' ' s).length % 2 = 0

/-- A row holds what its type says. -/
structure WellFormed (row : Parameter) : Prop where
  byteArray : row.dataType = "ByteArray" → ByteText row.value.toList
  byte : row.dataType = "Byte" → Numeral (2 ^ 32) row.value.toList
  int32 : row.dataType = "Int32" → Numeral (2 ^ 32) row.value.toList
  int64 : row.dataType = "Int64" → Numeral (2 ^ 64) row.value.toList

/-- Hexadecimal digits with upper-case letters. -/
def UpperText (s : Str) : Prop := ∀ c ∈ s, c ∈ Hex.digits

/-- The letters of a byte array are upper-case, as the original takes them to be. -/
def UpperCase (row : Parameter) : Prop :=
  row.dataType = "ByteArray" → UpperText (Py.remove ' ' row.value.toList)

/-- A byte array holds a word at least. -/
def WordSized (row : Parameter) : Prop :=
  row.dataType = "ByteArray" → 8 ≤ (Py.remove ' ' row.value.toList).length

instance (s : Str) : Decidable (HexText s) := List.decidableBAll _ s

instance (s : Str) : Decidable (UpperText s) := List.decidableBAll _ s

instance (bound : Nat) (s : Str) : Decidable (Numeral bound s) :=
  decidable_of_iff (HexText s ∧ s ≠ [] ∧ Hex.toNat s < bound)
    ⟨fun h => ⟨h.1, h.2.1, h.2.2⟩, fun h => ⟨h.digits, h.nonempty, h.fits⟩⟩

instance (s : Str) : Decidable (ByteText s) :=
  decidable_of_iff (HexText (Py.remove ' ' s) ∧ (Py.remove ' ' s).length % 2 = 0)
    ⟨fun h => ⟨h.1, h.2⟩, fun h => ⟨h.digits, h.even⟩⟩

instance (row : Parameter) : Decidable (WellFormed row) :=
  decidable_of_iff ((row.dataType = "ByteArray" → ByteText row.value.toList)
      ∧ (row.dataType = "Byte" → Numeral (2 ^ 32) row.value.toList)
      ∧ (row.dataType = "Int32" → Numeral (2 ^ 32) row.value.toList)
      ∧ (row.dataType = "Int64" → Numeral (2 ^ 64) row.value.toList))
    ⟨fun h => ⟨h.1, h.2.1, h.2.2.1, h.2.2.2⟩, fun h => ⟨h.byteArray, h.byte, h.int32, h.int64⟩⟩

instance (row : Parameter) : Decidable (UpperCase row) :=
  inferInstanceAs (Decidable (row.dataType = "ByteArray" →
    UpperText (Py.remove ' ' row.value.toList)))

instance (row : Parameter) : Decidable (WordSized row) :=
  inferInstanceAs (Decidable (row.dataType = "ByteArray" →
    8 ≤ (Py.remove ' ' row.value.toList).length))

/-! ## Finding a row -/

/-- Both take the first row of that name and type, or both fail. -/
theorem find_related (parameters : List Parameter) (key dataType name : String) :
    Related (fun v v' => v' = v ∧ ∃ row ∈ parameters, row.dataType = dataType ∧ row.value = v)
      (Security.find parameters key dataType) (CSharp.find parameters key dataType name) := by
  unfold Security.find CSharp.find
  cases h : parameters.find? fun row => row.key = key ∧ row.dataType = dataType with
  | none => exact related_error _ _
  | some row =>
    have hrow := List.find?_some h
    simp only [Bool.decide_and, Bool.and_eq_true, decide_eq_true_eq] at hrow
    exact related_ok ⟨rfl, row, List.mem_of_find?_eq_some h, hrow.2, rfl⟩

/-! ## Numbers -/

/-- No digit is white space, so trimming leaves digits alone. -/
theorem isWhite_of_isDigit {c : Char} (h : (Hex.value c).isSome = true) :
    CSharp.isWhite c = false := by
  obtain ⟨n, hn⟩ := Option.isSome_iff_exists.mp h
  have hc := (Hex.value_some hn).2
  cases hs : CSharp.isWhite c with
  | false => rfl
  | true =>
      simp only [CSharp.isWhite, Bool.or_eq_true, Bool.and_eq_true, decide_eq_true_eq,
        beq_iff_eq] at hs
      rcases hs with hs | rfl
      · omega
      · revert hc
        decide

theorem dropWhile_digits {p : Char → Bool} (hp : ∀ c, (Hex.value c).isSome = true → p c = false)
    {s : Str} (h : HexText s) : s.dropWhile p = s := by
  cases s with
  | nil => rfl
  | cons c s => rw [List.dropWhile_cons_of_neg (by simp [hp c (h c (List.mem_cons_self ..))])]

/-- C# parses digits as the number they write. -/
theorem parseHex_digits {n : Nat} {s : Str} (h : Numeral n s) :
    CSharp.parseHex s = .ok (Hex.toNat s) := by
  have hrev : HexText s.reverse := fun c hc => h.digits c (List.mem_reverse.mp hc)
  have hnull : ∀ c : Char, (Hex.value c).isSome = true → (c.toNat == 0) = false := by
    intro c hc
    obtain ⟨n, hn⟩ := Option.isSome_iff_exists.mp hc
    have hc := (Hex.value_some hn).2
    rw [beq_eq_false_iff_ne]
    omega
  unfold CSharp.parseHex
  dsimp only
  rw [dropWhile_digits hnull hrev, dropWhile_digits (fun c => isWhite_of_isDigit) hrev,
    List.reverse_reverse, dropWhile_digits (fun c => isWhite_of_isDigit) h.digits, if_neg]
  simp only [Bool.or_eq_true, List.isEmpty_iff, List.any_eq_true, not_or, not_exists, not_and]
  refine ⟨h.nonempty, ?_⟩
  intro c hc hnone
  have hsome := h.digits c hc
  rw [Option.isNone_iff_eq_none.mp hnone] at hsome
  cases hsome

/-- And so does Python. -/
theorem intOfHex_numeral {n : Nat} {s : Str} (h : Numeral n s) :
    Py.intOfHex s = .ok (Hex.toNat s : Int) := by
  rw [Py.intOfHex, Py.intBase16_digits h.digits h.nonempty]

/-- `int` holds the number in 32 bits, so from the half on it is below zero. -/
theorem parseInt_numeral {s : Str} (h : Numeral (2 ^ 32) s) :
    CSharp.parseInt s = .ok (Int32.ofNat (Hex.toNat s)) := by
  unfold CSharp.parseInt
  rw [parseHex_digits h, ok_bind, if_pos h.fits]
  rfl

theorem parseLong_numeral {s : Str} (h : Numeral (2 ^ 64) s) :
    CSharp.parseLong s = .ok (Int64.ofNat (Hex.toNat s)) := by
  unfold CSharp.parseLong
  rw [parseHex_digits h, ok_bind, if_pos h.fits]
  rfl

variable {parameters : List Parameter}

/-- **A number is read alike**: as an `int` of its 32 bits. -/
theorem paramInt_related (h : ∀ row ∈ parameters, WellFormed row) (key : String) :
    Related (fun (x : Int) (x' : Int32) => x = x'.toInt)
      (paramInt parameters key) (CSharp.getParameterInteger parameters key) := by
  refine related_bind (find_related parameters key "Int32" "Int32") ?_
  rintro v _ ⟨rfl, row, hrow, htype, rfl⟩
  have hnum := (h row hrow).int32 htype
  rw [parseInt_numeral hnum, intOfHex_numeral hnum]
  refine related_pure ?_
  have hfits := hnum.fits
  rw [← Int32.ofInt_eq_ofNat, Int32.toInt_ofInt, Int.bmod]
  simp only [Int32.size]
  split <;> split <;> omega

/-- The same in 64 bits. -/
theorem paramLong_related (h : ∀ row ∈ parameters, WellFormed row) (key : String) :
    Related (fun (x : Int) (x' : Int64) => x = x'.toInt)
      (paramLong parameters key) (CSharp.getParameterLong parameters key) := by
  refine related_bind (find_related parameters key "Int64" "Int64") ?_
  rintro v _ ⟨rfl, row, hrow, htype, rfl⟩
  have hnum := (h row hrow).int64 htype
  rw [parseLong_numeral hnum, intOfHex_numeral hnum]
  refine related_pure ?_
  have hfits := hnum.fits
  rw [← Int64.ofInt_eq_ofNat, Int64.toInt_ofInt, Int.bmod]
  simp only [Int64.size]
  split <;> split <;> omega

/-- A byte fits, so neither side cuts anything off. -/
theorem paramByte_related (h : ∀ row ∈ parameters, WellFormed row) (key : String) :
    Related (fun (x : Nat) (x' : UInt8) => x = x'.toNat)
      (paramByte parameters key) (CSharp.getParameterByte parameters key) := by
  refine related_bind (find_related parameters key "Byte" "byte") ?_
  rintro v _ ⟨rfl, row, hrow, htype, rfl⟩
  have hnum := (h row hrow).byte htype
  rw [parseInt_numeral hnum, intOfHex_numeral hnum]
  refine related_pure ?_
  have hfits := hnum.fits
  simp [CSharp.byteOfInt]
  omega

/-! ## Bytes -/

/-- The byte that two digits write. -/
def byteWritten (hi lo : Char) : UInt8 :=
  UInt8.ofNat (16 * (Hex.value hi).getD 0 + (Hex.value lo).getD 0)

/-- The bytes that pairs of digits write. -/
def bytesOfPairs : Str → Bytes
  | hi :: lo :: s => byteWritten hi lo :: bytesOfPairs s
  | _ => []

/-- Two digits make a byte, by the recursion of the pairs. -/
theorem bytesOfPairs_length (s : Str) : (bytesOfPairs s).length = s.length / 2 := by
  induction s using bytesOfPairs.induct with
  | case1 hi lo s ih =>
    simp only [bytesOfPairs, List.length_cons, ih]
    omega
  | case2 s hs =>
    match s, hs with
    | [], _ => rfl
    | [c], _ => simp [bytesOfPairs]
    | c :: d :: s, hs => exact absurd rfl (hs c d s)

/-- `bytes.fromhex` takes an even number of digits, of either case. -/
theorem fromHex_pairs {s : Str} (h : HexText s) (heven : s.length % 2 = 0) :
    Py.fromHex s = some (bytesOfPairs s) := by
  induction s using bytesOfPairs.induct with
  | case1 hi lo s ih =>
    obtain ⟨m, hm⟩ := Option.isSome_iff_exists.mp (h hi (by simp))
    obtain ⟨n, hn⟩ := Option.isSome_iff_exists.mp (h lo (by simp))
    have hspace : Py.isAsciiSpace hi = false := isWhite_of_isDigit (h hi (by simp))
    have ih := ih (fun c hc => h c (by simp [hc])) (by simp only [List.length_cons] at heven; omega)
    rw [Py.fromHex, if_neg (by rw [hspace]; decide)]
    simp only [hm, hn, ih, bytesOfPairs, byteWritten, Option.getD_some]
  | case2 s hs =>
    cases s with
    | nil => rfl
    | cons c s =>
      cases s with
      | nil => simp at heven
      | cons d s => exact absurd rfl (hs c d s)

/-- The digits of both letter cases. -/
def allDigits : List Char := Hex.digits ++ ['a', 'b', 'c', 'd', 'e', 'f']

theorem mem_allDigits {c : Char} (h : (Hex.value c).isSome = true) : c ∈ allDigits := by
  obtain ⟨n, hn⟩ := Option.isSome_iff_exists.mp h
  have hrange := (Hex.value_some hn).2
  rw [← Char.ofNat_toNat c]
  generalize c.toNat = k at hrange
  rcases hrange with ⟨h1, h2⟩ | ⟨h1, h2⟩ | ⟨h1, h2⟩ <;> interval_cases k <;> decide

/-- The byte that C# makes of two digits. -/
def byteOfPair (hi lo : Char) : UInt8 :=
  CSharp.byteOfInt ((CSharp.BitUtility.getHexValue hi <<< 4) + CSharp.BitUtility.getHexValue lo)

/-- Two upper-case digits are read as the byte they write. -/
theorem byteOfPair_digits {hi lo : Char} (hhi : hi ∈ Hex.digits) (hlo : lo ∈ Hex.digits) :
    byteOfPair hi lo = byteWritten hi lo := by
  have hall : (Hex.digits.all fun hi => Hex.digits.all fun lo =>
      byteOfPair hi lo == byteWritten hi lo) = true := by decide
  exact beq_iff_eq.mp (List.all_eq_true.mp (List.all_eq_true.mp hall hi hhi) lo hlo)

/-- A lower-case digit may be misread, but a byte that is not zero is not read as zero. -/
theorem byteOfPair_eq_zero {hi lo : Char} (hhi : hi ∈ allDigits) (hlo : lo ∈ allDigits) :
    byteOfPair hi lo = 0 ↔ byteWritten hi lo = 0 := by
  have hall : (allDigits.all fun hi => allDigits.all fun lo =>
      decide (byteOfPair hi lo = 0 ↔ byteWritten hi lo = 0)) = true := by decide
  exact decide_eq_true_eq.mp (List.all_eq_true.mp (List.all_eq_true.mp hall hi hhi) lo hlo)

/-- In upper case both sides read the bytes that were written. -/
theorem pairs_digits {s : Str} (h : UpperText s) :
    CSharp.BitUtility.pairs s = bytesOfPairs s := by
  induction s using bytesOfPairs.induct with
  | case1 hi lo s ih =>
    rw [CSharp.BitUtility.pairs, bytesOfPairs, ih fun c hc => h c (by simp [hc]),
      ← byteOfPair_digits (h hi (by simp)) (h lo (by simp))]
    rfl
  | case2 s hs => rw [CSharp.BitUtility.pairs, bytesOfPairs] <;> exact hs

/-- The bytes C# reads are as many as were written, and zero where those are. -/
theorem pairs_zeros {s : Str} (h : HexText s) :
    List.Forall₂ (fun b b' => b' = 0 ↔ b = 0) (bytesOfPairs s) (CSharp.BitUtility.pairs s) := by
  induction s using bytesOfPairs.induct with
  | case1 hi lo s ih =>
    rw [CSharp.BitUtility.pairs, bytesOfPairs]
    refine .cons ?_ (ih fun c hc => h c (by simp [hc]))
    exact byteOfPair_eq_zero (mem_allDigits (h hi (by simp))) (mem_allDigits (h lo (by simp)))
  | case2 s hs =>
    rw [CSharp.BitUtility.pairs, bytesOfPairs]
    · exact .nil
    · exact hs
    · exact hs

/-- Two readings of one byte array: the same zeros and, by what the rows are, the same bytes. -/
structure SameBytes (parameters : List Parameter) (k k' : Bytes) : Prop where
  zeros : List.Forall₂ (fun b b' => b' = 0 ↔ b = 0) k k'
  eq : (∀ row ∈ parameters, UpperCase row) → k' = k
  wordSized : (∀ row ∈ parameters, WordSized row) → 4 ≤ k.length

/-- Each side takes the blanks out before it reads the pairs. -/
theorem paramBytes_related (h : ∀ row ∈ parameters, WellFormed row) (key : String) :
    Related (SameBytes parameters)
      (paramBytes parameters key) (CSharp.getParameterBytearray parameters key) := by
  refine related_bind (find_related parameters key "ByteArray" "ByteArray") ?_
  rintro v _ ⟨rfl, row, hrow, htype, rfl⟩
  have htext := (h row hrow).byteArray htype
  unfold bytesFromHex CSharp.BitUtility.bytesFromHex
  rw [fromHex_pairs htext.digits htext.even]
  dsimp only
  rw [if_neg (by rw [htext.even]; decide)]
  refine related_ok ⟨pairs_zeros htext.digits, fun hup => pairs_digits (hup row hrow htype), ?_⟩
  intro hsize
  have hlen := hsize row hrow htype
  rw [bytesOfPairs_length]
  omega

end AutoDiag.Proof
