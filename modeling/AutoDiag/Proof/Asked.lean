import AutoDiag.Proof.Parameters

/-!
# What a provider asks for

Parameters that a provider asks for are there and hold hexadecimal text, so it
fails only where what they hold does not fit. A contract says for a provider what
it asks for and when it comes to an end; where it does not, it fails with one of
Python's own exceptions.
-/

namespace AutoDiag.Proof

open Raise Security BitUtility

/-! ## Parameters that are there -/

/-- The row a provider asks for is there and holds hexadecimal text. -/
def Asked (parameters : List Parameter) (ask : String × String) : Prop :=
  ∃ text, Security.find parameters ask.1 ask.2 = .ok text
    ∧ (ask.2 = "ByteArray" → ByteText text.toList)
    ∧ (ask.2 ≠ "ByteArray" → HexText text.toList ∧ text.toList ≠ [])

instance (parameters : List Parameter) (ask : String × String) : Decidable (Asked parameters ask) :=
  match h : Security.find parameters ask.1 ask.2 with
  | .ok text => decidable_of_iff ((ask.2 = "ByteArray" → ByteText text.toList)
      ∧ (ask.2 ≠ "ByteArray" → HexText text.toList ∧ text.toList ≠ []))
      ⟨fun htext => ⟨text, h, htext⟩,
        fun ⟨_, hfind, htext⟩ => Except.ok.inj (h.symm.trans hfind) ▸ htext⟩
  | .error _ => isFalse fun ⟨_, hfind, _⟩ => by rw [h] at hfind; cases hfind

/-- The bytes a parameter holds. -/
def bytesAt (parameters : List Parameter) (key : String) : Bytes :=
  (paramBytes parameters key).toOption.getD []

/-- The integer a parameter holds. -/
def intAt (parameters : List Parameter) (key : String) : Int :=
  (paramInt parameters key).toOption.getD 0

/-- The number a byte parameter holds. -/
def byteAt (parameters : List Parameter) (key : String) : Nat :=
  (paramByte parameters key).toOption.getD 0

variable {parameters : List Parameter} {key : String}

/-- A byte array that is there is read, whatever stands between its pairs of digits. -/
theorem paramBytes_asked (h : Asked parameters (key, "ByteArray")) :
    paramBytes parameters key = .ok (bytesAt parameters key) := by
  obtain ⟨text, hfind, hbytes, -⟩ := h
  have htext := hbytes rfl
  -- the pairs are parsed without the blanks between them
  have hread : paramBytes parameters key = .ok (bytesOfPairs (Py.remove ' ' text.toList)) := by
    unfold paramBytes bytesFromHex
    rw [hfind, ok_bind, fromHex_pairs htext.digits htext.even]
  rw [bytesAt, hread]
  rfl

theorem paramWord_asked (h : Asked parameters (key, "ByteArray")) (e : Endian) :
    paramWord parameters key e = .ok (bytesToInt (bytesAt parameters key) e 0) := by
  rw [paramWord, paramBytes_asked h]
  rfl

/-- Hexadecimal digits are an integer, so reading them cannot fail. -/
theorem paramInt_asked (h : Asked parameters (key, "Int32")) :
    paramInt parameters key = .ok (intAt parameters key) := by
  obtain ⟨text, hfind, -, hnum⟩ := h
  obtain ⟨hdigits, hne⟩ := hnum (by simp)
  obtain ⟨x, hx⟩ : ∃ x, paramInt parameters key = .ok x := by
    unfold paramInt
    rw [hfind, ok_bind, Py.intOfHex, Py.intBase16_digits hdigits hne]
    exact ⟨_, rfl⟩
  rw [intAt, hx]
  rfl

theorem paramLong_asked (h : Asked parameters (key, "Int64")) :
    Returns (paramLong parameters key) := by
  obtain ⟨text, hfind, -, hnum⟩ := h
  obtain ⟨hdigits, hne⟩ := hnum (by simp)
  unfold paramLong
  rw [hfind, ok_bind, Py.intOfHex, Py.intBase16_digits hdigits hne]
  exact ⟨_, rfl⟩

/-- `param_byte` keeps the low eight bits, so what it returns is a byte. -/
theorem paramByte_asked (h : Asked parameters (key, "Byte")) :
    paramByte parameters key = .ok (byteAt parameters key) ∧ byteAt parameters key < 256 := by
  obtain ⟨text, hfind, -, hnum⟩ := h
  obtain ⟨hdigits, hne⟩ := hnum (by simp)
  have hread : paramByte parameters key
      = .ok (((Hex.toNat text.toList : Nat) : Int) % 0x100).toNat := by
    unfold paramByte
    rw [hfind, ok_bind, Py.intOfHex, Py.intBase16_digits hdigits hne]
    rfl
  rw [byteAt, hread]
  exact ⟨rfl, by simp only [Except.toOption, Option.getD_some]; omega⟩

/-! ## What can raise -/

/-- Python's own exceptions. -/
def Fault : Exn → Prop
  | .indexError _ | .keyError _ | .valueError _ | .zeroDivisionError _ => True
  | _ => False

/-- `data[i]` fails exactly beyond the end. -/
theorem index_ends (data : Bytes) (i : Nat) :
    ReturnsIff Fault (i < data.length) (Py.index data i) := by
  unfold Py.index
  cases h : data[i]? with
  | none => exact .error (Nat.not_lt.mpr (List.getElem?_eq_none_iff.mp h)) trivial
  | some b => exact .ok (List.getElem?_eq_some_iff.mp h).1

theorem item_ends {α : Type} (xs : List α) (i : Nat) :
    ReturnsIff Fault (i < xs.length) (Py.item xs i) := by
  unfold Py.item
  cases h : xs[i]? with
  | none => exact .error (Nat.not_lt.mpr (List.getElem?_eq_none_iff.mp h)) trivial
  | some x => exact .ok (List.getElem?_eq_some_iff.mp h).1

theorem index_returns {data : Bytes} {i : Nat} (h : i < data.length) : Returns (Py.index data i) :=
  (index_ends data i).iff.mpr h

theorem item_returns {α : Type} {xs : List α} {i : Nat} (h : i < xs.length) :
    Returns (Py.item xs i) :=
  (item_ends xs i).iff.mpr h

theorem lt_of_index {data : Bytes} {i : Nat} {b : UInt8} (h : Py.index data i = .ok b) :
    i < data.length :=
  (index_ends data i).iff.mp ⟨b, h⟩

theorem mem_of_index {data : Bytes} {i : Nat} {b : UInt8} (h : Py.index data i = .ok b) :
    b ∈ data :=
  List.mem_of_getElem? (Py.index_ok_iff.mp h)

/-- Inside, an index is the byte that `getD` finds. -/
theorem index_getD {data : Bytes} {i : Nat} (h : i < data.length) :
    Py.index data i = .ok (data.getD i 0) := by
  unfold Py.index
  rw [List.getD_eq_getElem?_getD, List.getElem?_eq_getElem h]
  rfl

/-- An index below zero counts from the end, as far as the list goes. -/
theorem indexFrom_ends (data : Bytes) (i : Int) :
    ReturnsIff Fault (-(data.length : Int) ≤ i ∧ i < data.length) (Py.indexFrom data i) := by
  unfold Py.indexFrom
  -- a place from the front, one from the end, or one beyond it
  split
  · exact (index_ends data _).congr (by omega)
  split
  · exact (index_ends data _).congr (by omega)
  · exact .error (by omega) trivial

theorem mod_ends (a b : Nat) : ReturnsIff Fault (b ≠ 0) (Py.mod a b) := by
  unfold Py.mod
  split
  · rename_i h
    exact .error (not_not.mpr h) trivial
  · rename_i h
    exact .ok h

/-- Python refuses to shift by a count below zero. -/
theorem shiftCount_ends (n : Int) : ReturnsIff Fault (0 ≤ n) (shiftCount n) := by
  unfold shiftCount
  split
  · exact .error (by omega) trivial
  · exact .ok (by omega)

/-- `get_bit` refuses a place that is none of a byte. -/
theorem getBit_ends (b : Nat) (j : Int) : ReturnsIff Fault (0 ≤ j ∧ j ≤ 7) (getBit b j) := by
  unfold getBit
  split
  · exact .error (by omega) trivial
  · exact (returnsIff_bind_left (shiftCount_ends j) fun _ _ => returns_pure _).congr (by omega)

/-- `get_byte` refuses a place that is none of a word. -/
theorem getByte_ends (w : Nat) (p : Int) : ReturnsIff Fault (0 ≤ p ∧ p ≤ 3) (getByte w p) := by
  unfold getByte
  split
  · exact .error (by omega) trivial
  · exact (returnsIff_bind_left (shiftCount_ends _) fun _ _ => returns_pure _).congr (by omega)

/-! ## Contracts -/

/-- What a provider asks for, and the seeds, key lengths and parameters it comes to an end with. -/
structure Contract where
  asks : List (String × String)
  accepts : Bytes → Int → List Parameter → Prop

/-- With what it asks for, the provider fails exactly where its contract does not hold. -/
def Meets (p : Provider) (c : Contract) : Prop :=
  ∀ seed keyLength accessLevel parameters, (∀ ask ∈ c.asks, Asked parameters ask) →
    ReturnsIff Fault (c.accepts seed keyLength parameters)
      (p seed keyLength accessLevel parameters)

/-- The contract of a provider that never fails. -/
def Contract.always (asks : List (String × String)) : Contract := ⟨asks, fun _ _ _ => True⟩

/-- A provider that returns whenever it gets what it asks for has no more to accept. -/
theorem meets_always {p : Provider} {asks : List (String × String)}
    (h : ∀ seed keyLength accessLevel parameters, (∀ ask ∈ asks, Asked parameters ask) →
      Returns (p seed keyLength accessLevel parameters)) : Meets p (.always asks) :=
  fun seed keyLength accessLevel parameters hasked =>
    returnsIff_of_returns (h seed keyLength accessLevel parameters hasked) trivial

section Guard

variable {n : Nat} {m : Int} {seed : Bytes} {keyLength : Int} {x : Except Exn (Option Bytes)}

/-- A seed that is turned away is no failure. -/
theorem guard_ends {P : Prop} (h : seed.length = n → keyLength = m → ReturnsIff Fault P x) :
    ReturnsIff Fault (seed.length = n → keyLength = m → P)
      (if seed.length ≠ n ∨ keyLength ≠ m then pure none else x) := by
  have hite := returnsIff_ite (E := Fault) (P := P) (c := seed.length ≠ n ∨ keyLength ≠ m)
    (returns_pure none) fun hg => h (not_not.mp (not_or.mp hg).1) (not_not.mp (not_or.mp hg).2)
  exact hite.congr (by rw [not_or, not_not, not_not, and_imp])

/-- Behind the guard the seed has its length. -/
theorem guard_returns (h : seed.length = n → Returns x) :
    Returns (if seed.length ≠ n ∨ keyLength ≠ m then pure none else x) := by
  split
  · exact returns_pure none
  · rename_i hg
    exact h (not_not.mp (not_or.mp hg).1)

end Guard

end AutoDiag.Proof
