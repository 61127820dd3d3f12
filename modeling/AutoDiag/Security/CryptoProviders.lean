import AutoDiag.Security.Provider

/-!
# Providers of modern ECUs

Ed25519ph by the reference formulas of RFC 8032, and one block of AES. The hash
and the cipher come from outside; `Crypto` is what is used of them.
-/

namespace AutoDiag.Security

/-- `hashlib` and `cryptography`. -/
structure Crypto where
  /-- `hashlib.sha512(data).digest()`. -/
  sha512 : Bytes → Bytes
  /-- One block through `Cipher(algorithms.AES(key), modes.CBC(iv))`. -/
  aesCbc : Bytes → Bytes → Bytes → Except Exn Bytes

namespace EsLibEd25519

/-! ## The curve -/

/-- `_q`. -/
def q : Int := 2 ^ 255 - 19

/-- `_L`, the group order. -/
def groupOrder : Int := 2 ^ 252 + 27742317777372353535851937790883648493

/-- `pow(b, e, m)`, by squaring. -/
def powMod (b : Int) (e : Nat) (m : Int) : Int :=
  if h : e = 0 then 1 % m
  else
    let half := powMod b (e / 2) m
    let square := half * half % m
    if e % 2 = 1 then square * b % m else square
  termination_by e
  decreasing_by exact Nat.div_lt_self (Nat.pos_of_ne_zero h) (Nat.lt_succ_self 1)

/-- `_inv`. -/
def inv (x : Int) : Int := powMod x (q - 2).toNat q

/-- `_d`. -/
def d : Int := -121665 * powMod 121666 (q - 2).toNat q % q

/-- `_I`. -/
def sqrtMinusOne : Int := powMod 2 ((q - 1) / 4).toNat q

/-- `_x_recover`. -/
def xRecover (y : Int) : Int :=
  let xx := (y * y - 1) * inv (d * y * y + 1)
  let x := powMod xx ((q + 3) / 8).toNat q
  let x := if (x * x - xx) % q ≠ 0 then x * sqrtMinusOne % q else x
  if x % 2 ≠ 0 then q - x else x

/-- A point in extended coordinates. -/
structure Point where
  x : Int
  y : Int
  z : Int
  t : Int

/-- `_B`, the base point. -/
def base : Point :=
  let y := 4 * inv 5 % q
  let x := xRecover y
  ⟨x % q, y % q, 1, x * y % q⟩

/-- `_edwards_add`. -/
def edwardsAdd (p r : Point) : Point :=
  let a := (p.y - p.x) * (r.y - r.x) % q
  let b := (p.y + p.x) * (r.y + r.x) % q
  let c := p.t * 2 * d * r.t % q
  let dd := p.z * 2 * r.z % q
  let e := b - a
  let f := dd - c
  let g := dd + c
  let h := b + a
  ⟨e * f % q, g * h % q, f * g % q, e * h % q⟩

/-- `_scalarmult`. -/
def scalarmult (p : Point) (e : Nat) : Point :=
  if h : e = 0 then ⟨0, 1, 1, 0⟩
  else
    let r := scalarmult p (e / 2)
    let r := edwardsAdd r r
    if e % 2 = 1 then edwardsAdd r p else r
  termination_by e
  decreasing_by exact Nat.div_lt_self (Nat.pos_of_ne_zero h) (Nat.lt_succ_self 1)

/-- `n.to_bytes(32, "little")`. -/
def toBytes32 (n : Int) : Except Exn Bytes :=
  if 0 ≤ n ∧ n < 2 ^ 256 then .ok (Py.toBytesBig 32 n.toNat).reverse
  else .error (.overflowError "int too big to convert")

/-- `_encode_point`. -/
def encodePoint (p : Point) : Except Exn Bytes :=
  let zi := inv p.z
  let x := p.x * zi % q
  let y := p.y * zi % q
  toBytes32 (Int.lor y ((x % 2) * 2 ^ 255))

/-! ## Signing -/

/-- The domain separation of Ed25519ph with an empty context. -/
def dom2 : Bytes :=
  "SigEd25519 no Ed25519 collisions".toList.map (fun c => UInt8.ofNat c.toNat) ++ [1, 0]

/-- `_ed25519_sign_prehash`. -/
def signPrehash (crypto : Crypto) (prehashedMessage seed : Bytes) : Except Exn Bytes := do
  let h := crypto.sha512 seed
  let a := Py.ofBytesLittle (h.take 32)
  let a := a &&& (1 <<< 254 - 8)
  let a := a ||| 1 <<< 254
  let keyHalf := Py.slice h 32 64
  let publicKey ← encodePoint (scalarmult base a)
  let r := Py.ofBytesLittle (crypto.sha512 (dom2 ++ keyHalf ++ prehashedMessage)) % groupOrder
  let encodedR ← encodePoint (scalarmult base r.toNat)
  let k := Py.ofBytesLittle (crypto.sha512 (dom2 ++ encodedR ++ publicKey ++ prehashedMessage))
    % groupOrder
  let s := (r + k * a) % groupOrder
  return encodedR ++ (← toBytes32 s)

def generateKey (crypto : Crypto) : Provider := fun seed keyLength _accessLevel parameters => do
  let privateKeyBytes ← paramBytes parameters "PrivateKey"
  if seed.length ≠ 32 ∨ keyLength ≠ 64 then return none
  else
    let prehash := crypto.sha512 seed
    let signature ← signPrehash crypto prehash privateKeyBytes
    -- the slice that is assigned to replaces as many bytes as the signature has
    return some (signature ++ (List.replicate 64 0).drop signature.length)

end EsLibEd25519

def SubaruSecurityAccess2018CY1.generateKey (crypto : Crypto) : Provider :=
  fun seed keyLength _accessLevel parameters => do
    if seed.length ≠ 16 ∨ keyLength ≠ 16 then return none
    else
      let k ← paramBytes parameters "K"
      let out ← crypto.aesCbc k (List.replicate 16 0) (seed.take 16)
      -- sixteen bytes of the key give way to those of the block
      return some (out.take 16 ++ (List.replicate 16 0).drop 16)

end AutoDiag.Security
