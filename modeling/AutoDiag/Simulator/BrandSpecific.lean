import AutoDiag.Python.Unicode
import Mathlib.Data.List.Perm.Subperm

/-!
# The brand simulator: `src/simulator/simulator_brand_specific.py`

The codes of a brand are drawn at the first read and remembered. What the JSON files
hold is given: for each file name the map that `_load_dtc_map` makes of the file,
which is empty where there is none.
-/

namespace AutoDiag.BrandSim

open Py

/-- What the two random draws of one call give. -/
structure Draw where
  /-- `random.choice([0, 1, 2])`. -/
  choice : Nat
  /-- `random.sample(pool, k)`. -/
  sample : List Str → Nat → List Str
  choice_mem : choice ∈ [0, 1, 2]
  sample_length : ∀ pool k, k ≤ pool.length → (sample pool k).length = k
  sample_subperm : ∀ pool k, k ≤ pool.length → (sample pool k).Subperm pool

/-- `_sim_memory`. -/
abbrev Memory := Str → Option (List Str)

/-- `_sim_memory[key] = codes`. -/
def Memory.set (memory : Memory) (key : Str) (codes : List Str) : Memory :=
  fun k => if k = key then some codes else memory k

section Brand

variable (T : LowerCase) (dtcMaps : Str → List (Str × Str))

/-- `brand.strip().lower()`. -/
def key (brand : Str) : Str := T.lower (strip brand)

/-- The name of `_brand_file`. -/
def brandFile (brand : Str) : Str :=
  remove '-' (remove ' ' (T.lower (strip brand))) ++ ".json".toList

/-- `_load_dtc_map`. -/
def loadDtcMap (brand : Str) : List (Str × Str) := dtcMaps (brandFile T brand)

/-- `[(c, dtc_map.get(c, "Unknown code")) for c in codes]`. -/
def described (dtcMap : List (Str × Str)) (codes : List Str) : List (Str × Str) :=
  codes.map fun c => (c, (dtcMap.lookup c).getD "Unknown code".toList)

def simulateReadBrandDtc (brand : Str) (draw : Draw) (memory : Memory) :
    List (Str × Str) × Memory :=
  let key := key T brand
  let dtcMap := loadDtcMap T dtcMaps key
  match memory key with
  | some codes => (described dtcMap codes, memory)
  | none =>
    if dtcMap = [] then ([], memory.set key [])
    else
      let pool := dtcMap.map Prod.fst
      let codes := draw.sample pool (min draw.choice pool.length)
      (described dtcMap codes, memory.set key codes)

def clearBrandDtc (brand : Str) (memory : Memory) : Memory := memory.set (key T brand) []

/-! ## Sessions -/

inductive BrandCall where
  | read (brand : Str)
  | clear (brand : Str)
deriving DecidableEq

def BrandCall.brand : BrandCall → Str
  | .read brand => brand
  | .clear brand => brand

/-- `log` has every call with what was read; nothing reads it. -/
structure Session where
  memory : Memory
  log : List (BrandCall × List (Str × Str))

namespace Session

def start : Session := { memory := fun _ => none, log := [] }

/-- One call, with its random draws. -/
def step (s : Session) : BrandCall × Draw → Session
  | (.read brand, draw) =>
    let (codes, memory) := simulateReadBrandDtc T dtcMaps brand draw s.memory
    { memory := memory, log := s.log ++ [(.read brand, codes)] }
  | (.clear brand, _) =>
    { memory := clearBrandDtc T brand s.memory, log := s.log ++ [(.clear brand, [])] }

end Session

end Brand

end AutoDiag.BrandSim
