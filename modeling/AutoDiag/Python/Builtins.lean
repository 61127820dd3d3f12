import AutoDiag.Lib.Hex
import AutoDiag.Lib.Raise
import Mathlib.Data.Int.Bitwise
import Mathlib.Data.List.DropRight
import Mathlib.Data.List.Infix

/-!
# The Python the modelled code is written in

Byte strings are lists of bytes and text is a list of characters. What a Python
expression can raise is part of its value here: indexing, `bytes([..])` and
`bytes.fromhex` return `Except Exn` or `Option` rather than a default, so that a
missing guard in the source shows up as an exception in the model.

The text the modelled code works on comes from `bytes.decode("ascii", "ignore")`
or is ASCII by origin, so `str.upper` is the ASCII mapping.
-/

namespace AutoDiag

abbrev Bytes := List UInt8

abbrev Str := List Char

/-- What a diagnostic client raises; `UdsError` and `KwpError` have the same three subclasses. -/
inductive ClientError where
  | timeout (text : String)
  | unexpectedResponse (text : String)
  | negativeResponse (requestSid nrc : Nat) (nrcName text : String)
  deriving DecidableEq, Repr

/-- Exceptions: Python's own, then the repository's. -/
inductive Exn where
  | indexError (text : String)
  | keyError (text : String)
  | valueError (text : String)
  | overflowError (text : String)
  | zeroDivisionError (text : String)
  | transportError (text : String)
  | udsError (e : ClientError)
  | kwpError (e : ClientError)
  | parameterError (text : String)
  | unlockError (text : String)
  deriving DecidableEq, Repr

namespace Py

/-! ## Byte strings -/

/-- `data[i]` of a byte string. -/
def index (data : Bytes) (i : Nat) : Except Exn UInt8 :=
  match data[i]? with
  | some b => .ok b
  | none => .error (.indexError "index out of range")

/-- `xs[i]` of a list. -/
def item {α : Type} (xs : List α) (i : Nat) : Except Exn α :=
  match xs[i]? with
  | some x => .ok x
  | none => .error (.indexError "list index out of range")

/-- `data[i]` for any integer: an index below zero counts from the end. -/
def indexFrom (data : Bytes) (i : Int) : Except Exn UInt8 :=
  if 0 ≤ i then index data i.toNat
  else if 0 ≤ i + data.length then index data (i + data.length).toNat
  else .error (.indexError "index out of range")

/-- `data[i:j]` for indices that are not negative. -/
def slice {α : Type} (data : List α) (i j : Nat) : List α := (data.take j).drop i

/-- `x` as one item of `bytes([..])`. -/
def toByte (x : Int) : Except Exn UInt8 :=
  if 0 ≤ x ∧ x < 256 then .ok (UInt8.ofNat x.toNat)
  else .error (.valueError "bytes must be in range(0, 256)")

/-- `x` as one item of `bytearray([..])`. -/
def toArrayByte (x : Int) : Except Exn UInt8 :=
  if 0 ≤ x ∧ x < 256 then .ok (UInt8.ofNat x.toNat)
  else .error (.valueError "byte must be in range(0, 256)")

/-- `x & 0xFF` of any integer. -/
def lowByte (x : Int) : UInt8 := UInt8.ofNat (x % 256).toNat

@[simp] theorem index_zero_cons (b : UInt8) (bs : Bytes) : index (b :: bs) 0 = .ok b := rfl

@[simp] theorem index_one_cons (a b : UInt8) (bs : Bytes) : index (a :: b :: bs) 1 = .ok b := rfl

theorem toByte_of_range {x : Int} (h : 0 ≤ x ∧ x < 256) : toByte x = .ok (lowByte x) := by
  rw [toByte, if_pos h, lowByte, Int.emod_eq_of_lt h.1 h.2]

theorem toArrayByte_of_range {x : Int} (h : 0 ≤ x ∧ x < 256) : toArrayByte x = .ok (lowByte x) := by
  rw [toArrayByte, if_pos h, lowByte, Int.emod_eq_of_lt h.1 h.2]

theorem toByte_of_not_range {x : Int} (h : ¬ (0 ≤ x ∧ x < 256)) :
    toByte x = .error (.valueError "bytes must be in range(0, 256)") :=
  if_neg h

theorem index_ok_iff {data : Bytes} {i : Nat} {b : UInt8} :
    index data i = .ok b ↔ data[i]? = some b := by
  unfold index
  cases data[i]? <;> simp

theorem item_ok_iff {α : Type} {xs : List α} {i : Nat} {x : α} :
    item xs i = .ok x ↔ xs[i]? = some x := by
  unfold item
  cases xs[i]? <;> simp

theorem index_error {data : Bytes} {i : Nat} {e : Exn} (h : index data i = .error e) :
    data.length ≤ i ∧ e = .indexError "index out of range" := by
  unfold index at h
  split at h
  · exact absurd h (by simp)
  · rename_i hnone
    exact ⟨List.getElem?_eq_none_iff.mp hnone, (Except.error.inj h).symm⟩

/-! ## Text -/

/-- `str.isspace` of one character. -/
def isSpace (c : Char) : Bool :=
  let n := c.toNat
  (9 ≤ n && n ≤ 13) || (28 ≤ n && n ≤ 32) || n == 0x85 || n == 0xA0 || n == 0x1680
    || (0x2000 ≤ n && n ≤ 0x200A) || n == 0x2028 || n == 0x2029 || n == 0x202F
    || n == 0x205F || n == 0x3000

/-- `str.strip()`. -/
def strip (s : Str) : Str := (s.dropWhile isSpace).rdropWhile isSpace

/-- `str.upper()`, on ASCII text. -/
def upper (s : Str) : Str := s.map Char.toUpper

/-- `s.replace(c, "")`. -/
def remove (c : Char) (s : Str) : Str := s.filter (· ≠ c)

/-- `s.replace(c, d)` for two characters. -/
def replaceChar (c d : Char) (s : Str) : Str := s.map fun x => if x = c then d else x

/-- `tok in s`. -/
def isIn (tok s : Str) : Bool := s.tails.any tok.isPrefixOf

/-- `data.decode("ascii", errors="ignore")`. -/
def decodeAscii (data : Bytes) : Str :=
  (data.filter (· < 128)).map fun b => Char.ofNat b.toNat

/-- The blanks `bytes.fromhex` skips between two bytes. -/
def isAsciiSpace (c : Char) : Bool := (9 ≤ c.toNat && c.toNat ≤ 13) || c == ' '

/-- `bytes.fromhex`; `none` stands for its `ValueError`. -/
def fromHex : Str → Option Bytes
  | [] => some []
  | c :: cs =>
    if isAsciiSpace c then fromHex cs
    else match cs with
      | [] => none
      | d :: rest =>
        match Hex.value c, Hex.value d, fromHex rest with
        | some hi, some lo, some bs => some (UInt8.ofNat (16 * hi + lo) :: bs)
        | _, _, _ => none

theorem mem_of_isIn {tok s : Str} (h : isIn tok s = true) {c : Char} (hc : c ∈ tok) : c ∈ s := by
  obtain ⟨t, ht, hp⟩ := List.any_eq_true.mp h
  exact ((List.mem_tails t s).mp ht).subset ((List.isPrefixOf_iff_prefix.mp hp).subset hc)

theorem mem_dropWhile_of_not {p : Char → Bool} {s : Str} {c : Char} (hc : c ∈ s) (hp : ¬ p c) :
    c ∈ s.dropWhile p := by
  rw [← List.takeWhile_append_dropWhile (p := p) (l := s)] at hc
  rcases List.mem_append.mp hc with h | h
  · exact absurd (List.mem_takeWhile_imp h) hp
  · exact h

theorem mem_strip_of_not_space {s : Str} {c : Char} (hc : c ∈ s) (hp : ¬ isSpace c) :
    c ∈ strip s := by
  unfold strip List.rdropWhile
  rw [List.mem_reverse]
  exact mem_dropWhile_of_not (List.mem_reverse.mpr (mem_dropWhile_of_not hc hp)) hp

theorem strip_eq_self {s : Str} (h : ∀ c ∈ s, isSpace c = false) : strip s = s := by
  have hd : s.dropWhile isSpace = s := by
    cases s with
    | nil => rfl
    | cons c cs => simp [h c (List.mem_cons_self ..)]
  rw [strip, hd, List.rdropWhile_eq_self_iff]
  intro hne
  simp [h _ (List.getLast_mem hne)]

theorem strip_strip (s : Str) : strip (strip s) = strip s := by
  have hfront : (strip s).dropWhile isSpace = strip s := by
    obtain ⟨rest, hrest⟩ := List.rdropWhile_prefix isSpace (s.dropWhile isSpace)
    change strip s ++ rest = s.dropWhile isSpace at hrest
    have hidem := List.dropWhile_idempotent isSpace s
    cases hstrip : strip s with
    | nil => rfl
    | cons c cs =>
      -- the first character is that of the text without its leading blanks
      rw [hstrip, List.cons_append] at hrest
      rw [← hrest, List.dropWhile_eq_self_iff] at hidem
      rw [List.dropWhile_eq_self_iff]
      exact fun _ => hidem (by simp)
  change ((strip s).dropWhile isSpace).rdropWhile isSpace = _
  rw [hfront]
  exact List.rdropWhile_idempotent isSpace _

theorem strip_eq_nil {s : Str} (h : ∀ c ∈ s, isSpace c = true) : strip s = [] := by
  rw [strip, List.rdropWhile_eq_nil_iff]
  intro c hc
  exact h c ((List.dropWhile_sublist isSpace).subset hc)

theorem remove_eq_self {c : Char} {s : Str} (h : c ∉ s) : remove c s = s := by
  refine List.filter_eq_self.mpr ?_
  intro x hx
  simp only [ne_eq, decide_eq_true_eq]
  exact fun he => h (he ▸ hx)

theorem toUpper_of_isSpace {c : Char} (h : isSpace c = true) : c.toUpper = c := by
  simp only [isSpace, Bool.or_eq_true, Bool.and_eq_true, decide_eq_true_eq, beq_iff_eq] at h
  refine dif_neg ?_
  intro hl
  have h1 : 97 ≤ c.toNat := UInt32.le_iff_toNat_le.mp hl.1
  have h2 : c.toNat ≤ 122 := UInt32.le_iff_toNat_le.mp hl.2
  omega

theorem toUpper_toUpper (c : Char) : c.toUpper.toUpper = c.toUpper := by
  by_cases h : 'a'.val ≤ c.val ∧ c.val ≤ 'z'.val
  · have hc : ∃ hv, c.toUpper = ⟨c.val + ('A'.val - 'a'.val), hv⟩ := ⟨_, dif_pos h⟩
    obtain ⟨hv, hc⟩ := hc
    have hx : ('A'.val - 'a'.val).toNat = 4294967264 := by decide
    have h1 : 97 ≤ c.val.toNat := UInt32.le_iff_toNat_le.mp h.1
    have h2 : c.val.toNat ≤ 122 := UInt32.le_iff_toNat_le.mp h.2
    refine dif_neg ?_
    rw [hc]
    rintro ⟨hlow, _⟩
    have h3 : 97 ≤ (c.val + ('A'.val - 'a'.val)).toNat := UInt32.le_iff_toNat_le.mp hlow
    rw [UInt32.toNat_add, hx] at h3
    omega
  · have hc : c.toUpper = c := dif_neg h
    rw [hc, hc]

@[simp] theorem upper_upper (s : Str) : upper (upper s) = upper s := by
  rw [upper, upper, List.map_map]
  exact congrArg (List.map · s) (funext toUpper_toUpper)

theorem mem_upper {s : Str} {c : Char} (h : c ∈ s) : c.toUpper ∈ upper s :=
  List.mem_map_of_mem h

/-! ## Hexadecimal text -/

theorem isSpace_digit : ∀ d ∈ Hex.digits, isSpace d = false := by
  simp [Hex.digits, isSpace]

theorem isSpace_of_toUpper_mem {c : Char} (h : c.toUpper ∈ Hex.digits) : isSpace c = false := by
  cases hs : isSpace c with
  | false => rfl
  | true =>
      rw [toUpper_of_isSpace hs] at h
      rw [← hs, isSpace_digit c h]

theorem isAsciiSpace_digit {n : Nat} (h : n < 16) : isAsciiSpace (Hex.digit n) = false := by
  interval_cases n <;> decide

theorem fromHex_byte {b : UInt8} {s : Str} {bs : Bytes} (h : fromHex s = some bs) :
    fromHex (Hex.digit (b.toNat / 16) :: Hex.digit (b.toNat % 16) :: s) = some (b :: bs) := by
  have hb := b.toNat_lt
  have hhi : b.toNat / 16 < 16 := by omega
  have hlo : b.toNat % 16 < 16 := by omega
  rw [fromHex, if_neg (by simp [isAsciiSpace_digit hhi])]
  simp only [Hex.value_digit hhi, Hex.value_digit hlo, h]
  have hv : 16 * (b.toNat / 16) + b.toNat % 16 = b.toNat := by omega
  rw [hv, UInt8.ofNat_toNat]

/-- **`bytes.fromhex` undoes `bytes.hex().upper()`.** -/
@[simp] theorem fromHex_ofBytes (bs : Bytes) : fromHex (Hex.ofBytes bs) = some bs := by
  induction bs with
  | nil => rfl
  | cons b bs ih => exact fromHex_byte ih

/-! ## Numbers -/

/-- The digits of an integer literal in base 16, with single underscores between them. -/
def hexDigits (acc : Nat) : Str → Option Nat
  | [] => some acc
  | '_' :: c :: cs => (Hex.value c).bind fun d => hexDigits (16 * acc + d) cs
  | c :: cs => (Hex.value c).bind fun d => hexDigits (16 * acc + d) cs

/-- A digit and what follows it. -/
def hexFrom (c : Char) (s : Str) : Option Nat := (Hex.value c).bind fun d => hexDigits d s

/-- A literal without its sign: a prefix `0x` and one underscore after it are optional. -/
def hexMagnitude : Str → Option Nat
  | '0' :: 'x' :: '_' :: c :: s | '0' :: 'X' :: '_' :: c :: s => hexFrom c s
  | '0' :: 'x' :: c :: s | '0' :: 'X' :: c :: s => hexFrom c s
  | c :: s => hexFrom c s
  | [] => none

/-- `int(s, 16)`; `none` stands for its `ValueError`. -/
def intBase16 (s : Str) : Option Int :=
  match strip s with
  | '-' :: s => (hexMagnitude s).map fun n => -(n : Int)
  | '+' :: s => (hexMagnitude s).map Int.ofNat
  | s => (hexMagnitude s).map Int.ofNat

/-- `int(s, 16)` as an expression that may raise. -/
def intOfHex (s : Str) : Except Exn Int :=
  match intBase16 s with
  | some x => .ok x
  | none => .error (.valueError "invalid literal for int() with base 16")

/-- `s[i]` of a text. -/
def charAt (s : Str) (i : Nat) : Except Exn Char :=
  match s[i]? with
  | some c => .ok c
  | none => .error (.indexError "string index out of range")

/-- `s.encode("ascii")`. -/
def encodeAscii (s : Str) : Except Exn Bytes :=
  if s.all (·.toNat < 128) then .ok (s.map fun c => UInt8.ofNat c.toNat)
  else .error (.valueError "'ascii' codec can't encode character: ordinal not in range(128)")

/-- `int.from_bytes(data, "big")`. -/
def ofBytesBig (data : Bytes) : Nat := data.foldl (fun n b => 256 * n + b.toNat) 0

/-- `int.from_bytes(data, "little")`. -/
def ofBytesLittle (data : Bytes) : Nat := ofBytesBig data.reverse

/-- `a % b` for integers that are not negative. -/
def mod (a b : Nat) : Except Exn Nat :=
  if b = 0 then .error (.zeroDivisionError "integer modulo by zero") else .ok (a % b)

/-- `n.to_bytes(length, "big")`, for a number that fits. -/
def toBytesBig (length n : Nat) : Bytes :=
  (List.range length).map fun i => UInt8.ofNat (n >>> (8 * (length - 1 - i)))

/-- `x.to_bytes(length, "big")`. -/
def intToBytesBig (x length : Int) : Except Exn Bytes :=
  if length < 0 then .error (.valueError "length argument must be non-negative")
  else if x < 0 then .error (.overflowError "can't convert negative int to unsigned")
  else if 256 ^ length.toNat ≤ x.toNat then .error (.overflowError "int too big to convert")
  else .ok (toBytesBig length.toNat x.toNat)

/-- `bytes(xs)`. -/
def bytesOf (xs : List Int) : Except Exn Bytes := xs.mapM toByte

theorem ne_of_isDigit {c x : Char} (h : (Hex.value c).isSome = true)
    (hx : (Hex.value x).isSome = false) : c ≠ x := by
  rintro rfl
  rw [hx] at h
  cases h

theorem isSpace_of_isDigit {c : Char} (h : (Hex.value c).isSome = true) : isSpace c = false := by
  obtain ⟨n, hn⟩ := Option.isSome_iff_exists.mp h
  have hc := (Hex.value_some hn).2
  cases hs : isSpace c with
  | false => rfl
  | true =>
      simp only [isSpace, Bool.or_eq_true, Bool.and_eq_true, decide_eq_true_eq, beq_iff_eq] at hs
      omega

theorem hexDigits_cons {acc : Nat} {c : Char} {cs : Str} (h : c ≠ '_') :
    hexDigits acc (c :: cs) = (Hex.value c).bind fun d => hexDigits (16 * acc + d) cs := by
  rw [hexDigits.eq_def]
  split
  · rename_i heq; cases heq
  · rename_i heq; exact absurd (List.cons.inj heq).1 h
  · rename_i heq
    obtain ⟨rfl, rfl⟩ := List.cons.inj heq
    rfl

theorem hexDigits_digits {s : Str} (h : ∀ c ∈ s, (Hex.value c).isSome = true) (acc : Nat) :
    hexDigits acc s = some (s.foldl (fun n c => 16 * n + (Hex.value c).getD 0) acc) := by
  induction s generalizing acc with
  | nil => rfl
  | cons c s ih =>
    have hc := h c (List.mem_cons_self ..)
    obtain ⟨n, hn⟩ := Option.isSome_iff_exists.mp hc
    rw [hexDigits_cons (ne_of_isDigit hc (by decide)), hn, Option.bind_some,
      ih fun x hx => h x (List.mem_cons_of_mem _ hx), List.foldl_cons, hn]
    rfl

theorem hexMagnitude_digits {s : Str} (h : ∀ c ∈ s, (Hex.value c).isSome = true) (hne : s ≠ []) :
    hexMagnitude s = some (Hex.toNat s) := by
  have hx : ∀ x, (Hex.value x).isSome = false → x ∉ s :=
    fun x hx hm => ne_of_isDigit (h x hm) hx rfl
  unfold hexMagnitude
  split
  · exact absurd (by simp) (hx 'x' (by decide))
  · exact absurd (by simp) (hx 'X' (by decide))
  · exact absurd (by simp) (hx 'x' (by decide))
  · exact absurd (by simp) (hx 'X' (by decide))
  · rename_i c s _ _ _ _
    obtain ⟨n, hn⟩ := Option.isSome_iff_exists.mp (h c (List.mem_cons_self ..))
    rw [hexFrom, hn, Option.bind_some,
      hexDigits_digits fun x hx => h x (List.mem_cons_of_mem _ hx), Hex.toNat, List.foldl_cons,
      hn, Option.getD_some, Nat.mul_zero, Nat.zero_add]
  · exact absurd rfl hne

/-- **A text of digits is read as the number it writes.** -/
theorem intBase16_digits {s : Str} (h : ∀ c ∈ s, (Hex.value c).isSome = true) (hne : s ≠ []) :
    intBase16 s = some (Hex.toNat s : Int) := by
  have hx : ∀ x, (Hex.value x).isSome = false → x ∉ s :=
    fun x hx hm => ne_of_isDigit (h x hm) hx rfl
  rw [intBase16, strip_eq_self fun c hc => isSpace_of_isDigit (h c hc)]
  split
  · exact absurd (by simp) (hx '-' (by decide))
  · exact absurd (by simp) (hx '+' (by decide))
  · rw [hexMagnitude_digits h hne]
    rfl

/-! ## Numbers as bytes -/

theorem ofBytesBig_concat (bs : Bytes) (b : UInt8) :
    ofBytesBig (bs ++ [b]) = 256 * ofBytesBig bs + b.toNat := by
  rw [ofBytesBig, List.foldl_append]
  rfl

theorem ofBytesBig_lt (bs : Bytes) : ofBytesBig bs < 256 ^ bs.length := by
  induction bs using List.reverseRecOn with
  | nil => exact Nat.one_pos
  | append_singleton bs b ih =>
    have hb := b.toNat_lt
    rw [ofBytesBig_concat, List.length_append, List.length_singleton, Nat.pow_succ]
    omega

@[simp] theorem length_toBytesBig (n x : Nat) : (toBytesBig n x).length = n := by
  rw [toBytesBig, List.length_map, List.length_range]

/-- The last byte is the lowest. -/
theorem toBytesBig_succ (n x : Nat) :
    toBytesBig (n + 1) x = toBytesBig n (x / 256) ++ [UInt8.ofNat x] := by
  rw [toBytesBig, List.range_succ, List.map_append, toBytesBig]
  refine congrArg₂ _ (List.map_congr_left fun i hi => ?_) ?_
  · have hi : i < n := List.mem_range.mp hi
    rw [show 8 * (n + 1 - 1 - i) = 8 + 8 * (n - 1 - i) from by omega, Nat.shiftRight_add,
      Nat.shiftRight_eq_div_pow x 8]
  · rw [List.map_singleton, Nat.add_sub_cancel, Nat.sub_self]
    rfl

/-- **`int.from_bytes` undoes `int.to_bytes`**, of a number that fits. -/
theorem ofBytesBig_toBytesBig {n x : Nat} (h : x < 256 ^ n) : ofBytesBig (toBytesBig n x) = x := by
  induction n generalizing x with
  | zero =>
    rw [Nat.lt_one_iff.mp h]
    rfl
  | succ n ih =>
    rw [Nat.pow_succ] at h
    rw [toBytesBig_succ, ofBytesBig_concat, ih (by omega), UInt8.toNat_ofNat']
    omega

theorem lowByte_natCast (n : Nat) : lowByte (n : Int) = UInt8.ofNat n := by
  rw [lowByte, ← UInt8.toNat_inj, UInt8.toNat_ofNat', UInt8.toNat_ofNat']
  omega

theorem bytesOf_of_range {xs : List Int} (h : ∀ x ∈ xs, 0 ≤ x ∧ x < 256) :
    bytesOf xs = .ok (xs.map lowByte) :=
  Raise.mapM_ok fun x hx => toByte_of_range (h x hx)

theorem bytesOf_of_not_range {xs : List Int} {x : Int} (hx : x ∈ xs) (h : ¬ (0 ≤ x ∧ x < 256)) :
    ∃ e, bytesOf xs = .error e := by
  induction xs with
  | nil => exact absurd hx List.not_mem_nil
  | cons y ys ih =>
    rw [bytesOf, List.mapM_cons]
    by_cases hy : 0 ≤ y ∧ y < 256
    · have hne : x ≠ y := fun he => h (he ▸ hy)
      obtain ⟨e, he⟩ := ih ((List.mem_cons.mp hx).resolve_left hne)
      rw [bytesOf] at he
      exact ⟨e, by rw [toByte_of_range hy, Raise.ok_bind, he]; rfl⟩
    · exact ⟨_, by rw [toByte_of_not_range hy]; rfl⟩

theorem intToBytesBig_of_range {x : Int} {n : Nat} (h : 0 ≤ x ∧ x < 256 ^ n) :
    intToBytesBig x n = .ok (toBytesBig n x.toNat) := by
  have hlt : x.toNat < 256 ^ n := by
    rw [← Int.ofNat_lt, Int.toNat_of_nonneg h.1]
    exact_mod_cast h.2
  rw [intToBytesBig, if_neg (by omega), if_neg (by omega), Int.toNat_natCast,
    if_neg (Nat.not_le.mpr hlt)]

theorem intToBytesBig_of_not_range {x : Int} {n : Nat} (h : ¬ (0 ≤ x ∧ x < 256 ^ n)) :
    ∃ e, intToBytesBig x n = .error e := by
  rw [intToBytesBig, if_neg (by omega)]
  by_cases hneg : x < 0
  · exact ⟨_, if_pos hneg⟩
  · have hle : 256 ^ n ≤ x.toNat := by
      rw [← Int.ofNat_le, Int.toNat_of_nonneg (Int.not_lt.mp hneg)]
      have hle := Int.not_lt.mp fun hlt => h ⟨Int.not_lt.mp hneg, hlt⟩
      exact_mod_cast hle
    rw [if_neg hneg, Int.toNat_natCast, if_pos hle]
    exact ⟨_, rfl⟩

end Py

end AutoDiag
