import AutoDiag.Proof.KeyLengths
import AutoDiag.Proof.ScalarMultiplication

/-!
# The key of `EsLibEd25519` is a signature

A point is written as its second coordinate with one bit of the first, from which it
is read back. The key for a seed is then a signature of the seed that verifies under
the public key that belongs to the parameter.
-/

namespace AutoDiag.Proof

open Raise Security EsLibEd25519 Edwards Curve25519

/-! ## Writing a point -/

theorem emod_q_eq_val {x : Int} {a : Fp} (h : (x : Fp) = a) : x % q = (a.val : Int) := by
  rw [q_eq, ← ZMod.val_intCast, h]

/-- A point as one number: the second coordinate, under the lowest bit of the first. -/
def pointNumber (P : Edwards.Point curve) : Nat := 2 ^ 255 * (P.x.val % 2) + P.y.val

def encoded (P : Edwards.Point curve) : Bytes := (Py.toBytesBig 32 (pointNumber P)).reverse

theorem val_lt (a : Fp) : a.val < 2 ^ 255 := Nat.lt_trans (ZMod.val_lt a) (by decide)

theorem pointNumber_lt (P : Edwards.Point curve) : pointNumber P < 2 ^ 256 := by
  have hy := val_lt P.y
  unfold pointNumber
  omega

/-- **What is written is the affine point, whichever coordinates represent it.** -/
theorem encodePoint_eq {r : EsLibEd25519.Point} {P : Edwards.Point curve}
    (h : (coordinates r).Represents P) : encodePoint r = .ok (encoded P) := by
  have hz : (r.z : Fp) ≠ 0 := h.z_ne_zero
  have hx : (r.x : Fp) = P.x * r.z := h.x_eq
  have hy : (r.y : Fp) = P.y * r.z := h.y_eq
  have hx : r.x * inv r.z % q = (P.x.val : Int) := by
    refine emod_q_eq_val ?_
    rw [Int.cast_mul, cast_inv, hx, mul_inv_cancel_right₀ hz]
  have hy : r.y * inv r.z % q = (P.y.val : Int) := by
    refine emod_q_eq_val ?_
    rw [Int.cast_mul, cast_inv, hy, mul_inv_cancel_right₀ hz]
  have hor : Int.lor (P.y.val : Int) ((P.x.val : Int) % 2 * 2 ^ 255) = (pointNumber P : Int) := by
    rw [show (P.x.val : Int) % 2 * 2 ^ 255 = ((2 ^ 255 * (P.x.val % 2) : Nat) : Int) by
      push_cast; exact Int.mul_comm _ _]
    rw [pointNumber, Nat.two_pow_add_eq_or_of_lt (val_lt P.y), Nat.or_comm]
    rfl
  unfold encodePoint
  dsimp only
  rw [hx, hy, hor, toBytes32, if_pos ⟨Int.natCast_nonneg _, by exact_mod_cast pointNumber_lt P⟩,
    Int.toNat_natCast]
  rfl

/-! ## Reading a point -/

theorem emod_q_range (x : Int) : 0 ≤ x % q ∧ x % q < q :=
  ⟨Int.emod_nonneg x (by decide), Int.emod_lt_of_pos x (by decide)⟩

theorem emod_q_eq_zero_iff (x : Int) : x % q = 0 ↔ (x : Fp) = 0 := by
  have hzero := cast_eq_iff x 0
  rw [Int.cast_zero] at hzero
  rw [hzero, Int.ModEq, Int.zero_emod]

/-- The power, or the power times `_I`, is a root of a square. -/
theorem root_of_sq {xx : Int} {a : Fp} (h : (xx : Fp) = a ^ 2) {root x : Int}
    (hroot : root = powMod xx ((q + 3) / 8).toNat q)
    (hx : x = if (root * root - xx) % q ≠ 0 then root * sqrtMinusOne % q else root) :
    (0 ≤ x ∧ x < q) ∧ ((x : Fp) = a ∨ (x : Fp) = -a) := by
  have hexp : ((q + 3) / 8).toNat = (p + 3) / 8 := by decide
  have hcast : (root : Fp) = (a ^ 2) ^ ((p + 3) / 8) := by
    rw [hroot, hexp, cast_powMod_q, h]
  have hsqrt := sqrt_of_isSquare (IsSquare.sq a)
  rw [← hcast] at hsqrt
  have htest : (root * root - xx) % q = 0 ↔ (root : Fp) ^ 2 = a ^ 2 := by
    rw [emod_q_eq_zero_iff, Int.cast_sub, Int.cast_mul, h, sub_eq_zero, ← sq]
  by_cases hgood : (root * root - xx) % q = 0
  · rw [if_neg (not_not.mpr hgood)] at hx
    have hrange := emod_q_range (xx ^ ((q + 3) / 8).toNat)
    rw [← powMod_eq, ← hroot, ← hx] at hrange
    rw [hx] at hrange ⊢
    exact ⟨hrange, sq_eq_sq_iff_eq_or_eq_neg.mp (htest.mp hgood)⟩
  · rw [if_pos hgood] at hx
    have hsq := hsqrt.resolve_left fun h0 => hgood (htest.mpr h0)
    rw [hx, cast_emod_q, Int.cast_mul, cast_sqrtMinusOne]
    exact ⟨emod_q_range _, sq_eq_sq_iff_eq_or_eq_neg.mp hsq⟩

/-- The quotient that a point's second coordinate leaves for the square of the first. -/
theorem quotient_eq_sq (P : Edwards.Point curve) :
    ((((P.y.val : Int) * P.y.val - 1) * inv (d * P.y.val * P.y.val + 1) : Int) : Fp)
      = P.x ^ 2 := by
  have hon : P.y ^ 2 - P.x ^ 2 = 1 + curve.d * P.x ^ 2 * P.y ^ 2 := P.on
  have hden : curve.d * P.y * P.y + 1 ≠ 0 := by
    intro h0
    refine curve.one_add_mul_sq_ne_zero P.y ?_
    linear_combination h0
  rw [Int.cast_mul, cast_inv]
  push_cast
  rw [ZMod.natCast_zmod_val, cast_d, ← div_eq_mul_inv, div_eq_iff hden]
  linear_combination hon

/-- A residue and the one that is even of it and its negation. -/
theorem even_of_cast {x : Int} {a : Fp} (hrange : 0 ≤ x ∧ x < q)
    (hx : (x : Fp) = a ∨ (x : Fp) = -a) :
    (if x % 2 ≠ 0 then q - x else x)
      = if a.val % 2 = 0 then (a.val : Int) else q - a.val := by
  have hval := val_lt a
  have hodd : q % 2 = 1 := by decide
  have hvalq : (a.val : Int) < q := by
    rw [q_eq]
    exact_mod_cast ZMod.val_lt a
  rcases hx with hx | hx
  · have hxval : x = a.val := by
      rw [← emod_q_eq_val hx, Int.emod_eq_of_lt hrange.1 hrange.2]
    rw [hxval]
    by_cases heven : a.val % 2 = 0
    · rw [if_neg (by omega), if_pos heven]
    · rw [if_pos (by omega), if_neg heven]
  -- only zero is its own negative; any other has one odd side, since `q` is odd
  · by_cases ha : a = 0
    · have hzero : x = 0 := by
        have hx0 := (emod_q_eq_zero_iff x).mpr (by rw [hx, ha, neg_zero])
        rwa [Int.emod_eq_of_lt hrange.1 hrange.2] at hx0
      simp [hzero, ha]
    · have hxval : x = q - a.val := by
        have hneg : ((q - a.val : Int) : Fp) = -a := by
          rw [Int.cast_sub, q_eq]
          simp
        have h1 := emod_q_eq_val hx
        have h2 := emod_q_eq_val hneg
        have hpos : 0 < a.val := Nat.pos_of_ne_zero fun h0 => ha ((ZMod.val_eq_zero a).mp h0)
        rw [Int.emod_eq_of_lt hrange.1 hrange.2] at h1
        rw [Int.emod_eq_of_lt (by omega) (by omega)] at h2
        rw [h1, h2]
      rw [hxval]
      by_cases heven : a.val % 2 = 0
      · rw [if_pos (by omega), if_pos heven, sub_sub_cancel]
      · rw [if_neg (by omega), if_neg heven]

/-- **`_x_recover` finds the first coordinate that is even, of a point and its negation.** -/
theorem xRecover_eq (P : Edwards.Point curve) : xRecover P.y.val
    = if P.x.val % 2 = 0 then (P.x.val : Int) else q - P.x.val := by
  obtain ⟨hrange, hx⟩ := root_of_sq (quotient_eq_sq P) rfl rfl
  exact even_of_cast hrange hx

/-- The point of 32 bytes as RFC 8032 reads it, where there is one. -/
def decodePoint (data : Bytes) : Option (Int × Int) :=
  let n : Int := Py.ofBytesLittle data
  let y := n % 2 ^ 255
  let sign := n / 2 ^ 255
  if data.length ≠ 32 ∨ q ≤ y then none
  else
    let x := xRecover y
    if (y ^ 2 - x ^ 2 - (1 + d * x ^ 2 * y ^ 2)) % q ≠ 0 then none
    else if x % 2 = sign then some (x, y)
    else if x = 0 then none
    else some (q - x, y)

theorem ofBytesLittle_written (n k : Nat) (h : k < 256 ^ n) :
    Py.ofBytesLittle (Py.toBytesBig n k).reverse = k := by
  rw [Py.ofBytesLittle, List.reverse_reverse, Py.ofBytesBig_toBytesBig h]

/-- **What was written of a point is read as its coordinates.** -/
theorem decodePoint_encoded (P : Edwards.Point curve) :
    decodePoint (encoded P) = some ((P.x.val : Int), (P.y.val : Int)) := by
  have hy := val_lt P.y
  have hxq : (P.x.val : Int) < q := by
    rw [q_eq]
    exact_mod_cast ZMod.val_lt P.x
  have hyq : (P.y.val : Int) < q := by
    rw [q_eq]
    exact_mod_cast ZMod.val_lt P.y
  have hn : Py.ofBytesLittle (encoded P) = pointNumber P :=
    ofBytesLittle_written 32 _ (pointNumber_lt P)
  -- the number is `y`, with the parity of `x` in its top bit
  have hlow : (pointNumber P : Int) % 2 ^ 255 = P.y.val := by
    unfold pointNumber
    push_cast
    omega
  have hhigh : (pointNumber P : Int) / 2 ^ 255 = (P.x.val : Int) % 2 := by
    unfold pointNumber
    push_cast
    omega
  have hlen : (encoded P).length = 32 := by simp [encoded]
  have hodd : q % 2 = 1 := by decide
  have hrecover := xRecover_eq P
  -- the root that is recovered is `x` or its negative, on the curve either way
  have hcurve : (((P.y.val : Int) ^ 2 - xRecover P.y.val ^ 2
      - (1 + d * xRecover P.y.val ^ 2 * (P.y.val : Int) ^ 2)) % q) = 0 := by
    have hon : P.y ^ 2 - P.x ^ 2 = 1 + curve.d * P.x ^ 2 * P.y ^ 2 := P.on
    have hsq : ((xRecover P.y.val : Int) : Fp) ^ 2 = P.x ^ 2 := by
      rw [hrecover]
      split
      · simp
      · rw [Int.cast_sub, q_eq]
        simp
    rw [emod_q_eq_zero_iff]
    push_cast
    rw [hsq, ZMod.natCast_zmod_val, cast_d]
    linear_combination hon
  unfold decodePoint
  dsimp only
  rw [hn, hlow, hhigh, if_neg (by omega), if_neg (not_not.mpr hcurve), hrecover]
  -- the parity picks the sign
  by_cases heven : P.x.val % 2 = 0
  · rw [if_pos heven, if_pos rfl]
  · rw [if_neg heven, if_neg (by omega), if_neg (by omega), sub_sub_cancel]

/-! ## The base point -/

theorem base_represents : (coordinates EsLibEd25519.base).Represents Curve25519.base := by
  have hval : ∀ n : Nat, n < p → ((n : Nat) : Fp).val = n := fun n hn => ZMod.val_natCast_of_lt hn
  have hbx : Curve25519.base.x.val = baseX := hval baseX (by decide)
  have hby : Curve25519.base.y.val = baseY := hval baseY (by decide)
  have hfive : (5 : Fp) ≠ 0 := by
    have hcast : ((5 : Nat) : Fp) ≠ (0 : Nat) := cast_ne (by decide)
    rwa [Nat.cast_ofNat, Nat.cast_zero] at hcast
  have hy : 4 * inv 5 % q = (baseY : Int) := by
    rw [← hby]
    refine emod_q_eq_val ?_
    have hmul : ((baseY * 5 : Nat) : Fp) = (4 : Nat) := cast_eq (by decide)
    push_cast at hmul
    rw [Int.cast_mul, cast_inv]
    push_cast
    exact ((eq_mul_inv_iff_mul_eq₀ hfive).mpr hmul).symm
  have hx : xRecover baseY = (baseX : Int) := by
    have hrecover := xRecover_eq Curve25519.base
    rwa [hbx, hby, if_pos (by decide)] at hrecover
  have hcoordinates : coordinates EsLibEd25519.base = baseCoordinates.cast p := by
    unfold EsLibEd25519.base
    dsimp only
    rw [hy, hx]
    simp only [coordinates, Extended.cast, cast_emod_q, baseCoordinates]
  rw [hcoordinates]
  exact baseCoordinates_represents

/-! ## Signing -/

/-- The number of the first 32 bytes of a hash, with its three lowest bits cleared and its
highest bit at place 254. -/
def clamp (n : Nat) : Nat := 2 ^ 254 + 8 * (n / 8 % 2 ^ 251)

theorem clamp_eq (n : Nat) : n &&& (1 <<< 254 - 8) ||| 1 <<< 254 = clamp n := by
  have hmask : n &&& (1 <<< 254 - 8) = 8 * (n / 8 % 2 ^ 251) := by
    rw [show 1 <<< 254 - 8 = 2 ^ 3 * (2 ^ 251 - 1) by decide, show 8 = 2 ^ 3 from rfl]
    refine Nat.eq_of_testBit_eq fun k => ?_
    rw [Nat.testBit_and, Nat.testBit_two_pow_mul, Nat.testBit_two_pow_mul,
      Nat.testBit_two_pow_sub_one, Nat.testBit_mod_two_pow, Nat.testBit_div_two_pow]
    by_cases hk : 3 ≤ k
    · simp [hk, Bool.and_comm]
    · simp [hk]
  rw [hmask, clamp, Nat.shiftLeft_eq, Nat.one_mul, Nat.or_comm]
  have hor := Nat.two_pow_add_eq_or_of_lt (show 8 * (n / 8 % 2 ^ 251) < 2 ^ 254 by omega) 1
  rw [Nat.mul_one] at hor
  exact hor.symm

/-- The scalar that belongs to a private key. -/
def secretScalar (crypto : Crypto) (privateKey : Bytes) : Nat :=
  clamp (Py.ofBytesLittle ((crypto.sha512 privateKey).take 32))

/-- The public key that belongs to a private key. -/
noncomputable def publicKey (crypto : Crypto) (privateKey : Bytes) : Edwards.Point curve :=
  secretScalar crypto privateKey • Curve25519.base

/-- What RFC 8032 puts before everything that Ed25519ph hashes with an empty context: the letters
of `SigEd25519 no Ed25519 collisions`, the flag of a hashed message and the length of the context. -/
def phPrefix : Bytes :=
  [0x53, 0x69, 0x67, 0x45, 0x64, 0x32, 0x35, 0x35, 0x31, 0x39, 0x20, 0x6E, 0x6F, 0x20, 0x45, 0x64,
    0x32, 0x35, 0x35, 0x31, 0x39, 0x20, 0x63, 0x6F, 0x6C, 0x6C, 0x69, 0x73, 0x69, 0x6F, 0x6E, 0x73,
    0x01, 0x00]

theorem dom2_eq : dom2 = phPrefix := by decide

/-- The challenge of Ed25519ph for a commitment, a public key and a message. -/
def challenge (crypto : Crypto) (encodedR encodedA message : Bytes) : Nat :=
  Py.ofBytesLittle (crypto.sha512 (phPrefix ++ encodedR ++ encodedA ++ crypto.sha512 message))

/-- What a verifier of Ed25519ph asks of the two halves of a signature. -/
structure Verifies (crypto : Crypto) (A : Edwards.Point curve) (message signature : Bytes) :
    Prop where
  length_eq : signature.length = 64
  scalar_lt : Py.ofBytesLittle (signature.drop 32) < order
  equation : ∃ R : Edwards.Point curve,
    decodePoint (signature.take 32) = some ((R.x.val : Int), (R.y.val : Int))
      ∧ Py.ofBytesLittle (signature.drop 32) • Curve25519.base
        = R + challenge crypto (signature.take 32) (encoded A) message • A

theorem groupOrder_eq : groupOrder = (order : Int) := by decide

/-- The scalar of a signature: the equation of the verifier holds modulo the order. -/
theorem scalar_equation (r k a : Nat) :
    ((r + k * a) % order) • Curve25519.base
      = r • Curve25519.base + k • a • Curve25519.base := by
  rw [mod_order_nsmul order_nsmul_base, add_nsmul, mul_nsmul']

theorem order_nsmul_publicKey (crypto : Crypto) (privateKey : Bytes) :
    order • publicKey crypto privateKey = 0 := by
  rw [publicKey, nsmul_left_comm, order_nsmul_base, nsmul_zero]

theorem encodePoint_scalarmult (e : Nat) :
    encodePoint (scalarmult EsLibEd25519.base e) = .ok (encoded (e • Curve25519.base)) :=
  encodePoint_eq (scalarmult_represents base_represents e)

theorem toBytes32_order (n : Nat) :
    toBytes32 ((n % order : Nat) : Int) = .ok (Py.toBytesBig 32 (n % order)).reverse := by
  have hlt : n % order < 2 ^ 256 := Nat.lt_trans (Nat.mod_lt n (by decide)) (by decide)
  rw [toBytes32, if_pos ⟨Int.natCast_nonneg _, by exact_mod_cast hlt⟩, Int.toNat_natCast]

/-- The commitment is a multiple of the base point, and the scalar answers its challenge. -/
theorem signPrehash_eq (crypto : Crypto) (message privateKey : Bytes) : ∃ r : Nat,
    signPrehash crypto (crypto.sha512 message) privateKey
      = .ok (encoded (r • Curve25519.base) ++ (Py.toBytesBig 32
        ((r + challenge crypto (encoded (r • Curve25519.base))
          (encoded (publicKey crypto privateKey)) message % order
            * secretScalar crypto privateKey) % order)).reverse) := by
  have hmod : ∀ n : Nat, (n : Int) % groupOrder = ((n % order : Nat) : Int) := fun n => by
    rw [groupOrder_eq, Int.natCast_mod]
  refine ⟨Py.ofBytesLittle (crypto.sha512 (phPrefix ++ Py.slice (crypto.sha512 privateKey) 32 64
    ++ crypto.sha512 message)) % order, ?_⟩
  unfold signPrehash
  dsimp only
  rw [dom2_eq, clamp_eq, ← secretScalar, encodePoint_scalarmult, ← publicKey, ok_bind, hmod,
    Int.toNat_natCast, encodePoint_scalarmult, ok_bind, hmod, ← challenge, ← Int.natCast_mul,
    ← Int.natCast_add, hmod, toBytes32_order]
  rfl

/-- **The key for a seed of 32 bytes is a signature of the seed that verifies.** -/
theorem generateKey_verifies (crypto : Crypto) {parameters : List Parameter} {privateKey : Bytes}
    (hkey : paramBytes parameters "PrivateKey" = .ok privateKey) {seed : Bytes}
    (hseed : seed.length = 32) (level : Int) :
    ∃ signature, generateKey crypto seed 64 level parameters = .ok (some signature)
      ∧ Verifies crypto (publicKey crypto privateKey) seed signature := by
  obtain ⟨r, hsign⟩ := signPrehash_eq crypto seed privateKey
  have hR : (encoded (r • Curve25519.base)).length = 32 := by simp [encoded]
  generalize hs : (r + challenge crypto (encoded (r • Curve25519.base))
    (encoded (publicKey crypto privateKey)) seed % order * secretScalar crypto privateKey)
      % order = s at hsign
  have hsOrder : s < order := hs ▸ Nat.mod_lt _ (by decide)
  have hscalar : Py.ofBytesLittle (Py.toBytesBig 32 s).reverse = s :=
    ofBytesLittle_written 32 s (Nat.lt_trans hsOrder (by decide))
  have hlen : (encoded (r • Curve25519.base) ++ (Py.toBytesBig 32 s).reverse).length = 64 := by
    rw [List.length_append, hR, List.length_reverse, Py.length_toBytesBig]
  refine ⟨encoded (r • Curve25519.base) ++ (Py.toBytesBig 32 s).reverse, ?_, hlen, ?_,
    r • Curve25519.base, ?_, ?_⟩
  · unfold generateKey
    rw [hkey, ok_bind, if_neg (by omega)]
    dsimp only
    rw [hsign, ok_bind, hlen]
    simp
  · rw [List.drop_left' hR, hscalar]
    exact hsOrder
  · rw [List.take_left' hR]
    exact decodePoint_encoded _
  · rw [List.drop_left' hR, List.take_left' hR, hscalar, ← hs, scalar_equation, ← publicKey,
      mod_order_nsmul (order_nsmul_publicKey crypto privateKey)]

/-- Sixty-four bytes that differ with the number that the data writes. -/
def mixed (data : Bytes) : Bytes :=
  Py.toBytesBig 64 ((Py.ofBytesBig data + 1) * 0x9E3779B97F4A7C15F39CC0605CEDC8341082276BF3A27251)

def mixing : Crypto := ⟨mixed, fun _ _ block => .ok block⟩

def sampleKey : Parameter :=
  ⟨"PrivateKey", "9D61B19DEFFD5A60BA844AF492EC2CC44449C5697B326919703BAC031CAE7F60", "ByteArray"⟩

def sampleKeyBytes : Bytes :=
  [0x9D, 0x61, 0xB1, 0x9D, 0xEF, 0xFD, 0x5A, 0x60, 0xBA, 0x84, 0x4A, 0xF4, 0x92, 0xEC, 0x2C, 0xC4,
    0x44, 0x49, 0xC5, 0x69, 0x7B, 0x32, 0x69, 0x19, 0x70, 0x3B, 0xAC, 0x03, 0x1C, 0xAE, 0x7F, 0x60]

/-- The signature of the bytes 0 to 31 under a hash that tells its arguments apart. -/
theorem generateKey_verifies_sample : ∃ signature,
    generateKey mixing ((List.range 32).map UInt8.ofNat) 64 1 [sampleKey] = .ok (some signature)
      ∧ Verifies mixing (publicKey mixing sampleKeyBytes) ((List.range 32).map UInt8.ofNat)
        signature :=
  generateKey_verifies mixing (by decide +kernel) (by decide) 1

end AutoDiag.Proof
