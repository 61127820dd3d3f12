import AutoDiag.Python.Builtins

/-!
# Operations on text that depend on the Unicode tables

What the decoders need of `str` beyond ASCII is left open: any functions that do
on ASCII text what Python documents. A character may be a digit to `isdigit` and
none to `int`, as the superscripts are.
-/

namespace AutoDiag.Py

/-- Only ASCII characters. -/
def IsAscii (s : Str) : Prop := ∀ c ∈ s, c.toNat < 128

/-- `str.strip`, `str.upper`, and `str.isdigit`, `str.isalnum` and `int` of one character. -/
structure Unicode where
  strip : Str → Str
  upper : Str → Str
  isDigit : Char → Bool
  isAlnum : Char → Bool
  /-- `none` is a `ValueError`. -/
  int : Char → Option Nat
  strip_ascii : ∀ s, IsAscii s → strip s = Py.strip s
  upper_ascii : ∀ s, IsAscii s → upper s = Py.upper s
  isDigit_ascii : ∀ c, c.toNat < 128 → isDigit c = c.isDigit
  isAlnum_ascii : ∀ c, c.toNat < 128 → isAlnum c = c.isAlphanum
  int_ascii : ∀ c, c.toNat < 128 → int c = if c.isDigit then some (c.toNat - 48) else none

namespace Unicode

/-- `s.isdigit()`. -/
def allDigits (T : Unicode) (s : Str) : Bool := s ≠ [] && s.all T.isDigit

/-- ASCII, and the superscripts of Latin-1. -/
def superscripts : Unicode where
  strip := Py.strip
  upper := Py.upper
  isDigit c := c.isDigit || c == '²' || c == '³' || c == '¹'
  isAlnum c := c.isAlphanum || c == '²' || c == '³' || c == '¹'
  int c := if c.isDigit then some (c.toNat - 48) else none
  strip_ascii _ _ := rfl
  upper_ascii _ _ := rfl
  isDigit_ascii c h := by
    have hne : ∀ x : Char, 128 ≤ x.toNat → (c == x) = false := by
      intro x hx
      refine beq_false_of_ne ?_
      rintro rfl
      omega
    rw [hne '²' (by decide), hne '³' (by decide), hne '¹' (by decide)]
    simp
  isAlnum_ascii c h := by
    have hne : ∀ x : Char, 128 ≤ x.toNat → (c == x) = false := by
      intro x hx
      refine beq_false_of_ne ?_
      rintro rfl
      omega
    rw [hne '²' (by decide), hne '³' (by decide), hne '¹' (by decide)]
    simp
  int_ascii _ _ := rfl

end Unicode

/-- `str.lower`. Letters become letters, and one that is lowered stays as it is. -/
structure LowerCase where
  lower : Str → Str
  lower_ascii : ∀ s, IsAscii s → lower s = s.map Char.toLower
  lower_lower : ∀ s, lower (lower s) = lower s
  strip_lower : ∀ s, Py.strip (lower s) = lower (Py.strip s)

/-! ## Lowering ASCII text -/

theorem toLower_cases (c : Char) :
    (65 ≤ c.toNat ∧ c.toNat ≤ 90 ∧ c.toLower.toNat = c.toNat + 32)
      ∨ (¬ (65 ≤ c.toNat ∧ c.toNat ≤ 90) ∧ c.toLower = c) := by
  by_cases h : 'A'.val ≤ c.val ∧ c.val ≤ 'Z'.val
  · have h1 : 65 ≤ c.toNat := UInt32.le_iff_toNat_le.mp h.1
    have h2 : c.toNat ≤ 90 := UInt32.le_iff_toNat_le.mp h.2
    have hc : ∃ hv, c.toLower = ⟨c.val + ('a'.val - 'A'.val), hv⟩ := ⟨_, dif_pos h⟩
    obtain ⟨hv, hc⟩ := hc
    have hx : ('a'.val - 'A'.val).toNat = 32 := by decide
    refine .inl ⟨h1, h2, ?_⟩
    rw [hc]
    change (c.val + ('a'.val - 'A'.val)).toNat = c.val.toNat + 32
    rw [UInt32.toNat_add, hx, Nat.mod_eq_of_lt]
    change c.toNat + 32 < 2 ^ 32
    omega
  · refine .inr ⟨fun hrange => h ?_, dif_neg h⟩
    exact ⟨UInt32.le_iff_toNat_le.mpr hrange.1, UInt32.le_iff_toNat_le.mpr hrange.2⟩

theorem toLower_toLower (c : Char) : c.toLower.toLower = c.toLower := by
  rcases toLower_cases c with ⟨h1, h2, hc⟩ | ⟨_, hc⟩
  · rcases toLower_cases c.toLower with ⟨_, h4, _⟩ | ⟨_, hc'⟩
    · omega
    · exact hc'
  · rw [hc, hc]

theorem isSpace_toLower (c : Char) : isSpace c.toLower = isSpace c := by
  rcases toLower_cases c with ⟨h1, h2, hc⟩ | ⟨_, hc⟩
  · have hletter : ∀ d : Char, 65 ≤ d.toNat → d.toNat ≤ 122 → isSpace d = false := by
      intro d hd hd'
      simp only [isSpace, Bool.or_eq_false_iff, Bool.and_eq_false_iff, decide_eq_false_iff_not,
        beq_eq_false_iff_ne]
      omega
    rw [hletter c (by omega) (by omega), hletter c.toLower (by omega) (by omega)]
  · rw [hc]

theorem strip_map {f : Char → Char} (hf : ∀ c, isSpace (f c) = isSpace c) (s : Str) :
    strip (s.map f) = (strip s).map f := by
  have hspace : isSpace ∘ f = isSpace := funext hf
  unfold strip List.rdropWhile
  rw [List.dropWhile_map, hspace, ← List.map_reverse, List.dropWhile_map, hspace,
    ← List.map_reverse]

/-- `str.lower` that knows the ASCII letters only. -/
def LowerCase.ascii : LowerCase where
  lower s := s.map Char.toLower
  lower_ascii _ _ := rfl
  lower_lower s := by
    rw [List.map_map]
    exact congrArg (List.map · s) (funext toLower_toLower)
  strip_lower := strip_map isSpace_toLower

end AutoDiag.Py
