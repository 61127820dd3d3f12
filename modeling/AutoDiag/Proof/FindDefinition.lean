import AutoDiag.CSharp.Definition

/-!
# Which definition a name finds

The Python matcher upper-cases the name it looks for and the aliases as well, the
original only the stored ECU names. Both return the first match, so they part
where a definition in front of the original's match passes the looser test only.
-/

namespace AutoDiag.Proof

open Security

/-- A search over the definitions `front`, `d`, `back` stops at `d`, and not before it. -/
def StopsAt (search : List Definition → Option Definition) (front : List Definition)
    (d : Definition) (back : List Definition) : Prop :=
  search front = none ∧ search (front ++ d :: back) = some d

/-- The search of the original. -/
def originalSearch (toUpper : String → String) (ecuName : String) (accessLevel : Int) :
    List Definition → Option Definition :=
  CSharp.findDefinition toUpper ecuName accessLevel

/-- The search of the port, over definitions that replace the library's own. -/
def portSearch (lib : Library) (ecuName : String) (accessLevel : Int)
    (definitions : List Definition) : Option Definition :=
  findDefinition { lib with definitions } ecuName accessLevel

/-- A definition of the level whose ECU name or one of whose aliases is the name up to letter
case. -/
def SameUpToCase (lib : Library) (ecuName : String) (accessLevel : Int) (d : Definition) : Prop :=
  accessLevel = d.accessLevel ∧ (lib.upper ecuName = lib.upper d.ecuName
    ∨ lib.upper ecuName ∈ d.aliases.map lib.upper)

instance (lib : Library) (ecuName : String) (accessLevel : Int) (d : Definition) :
    Decidable (SameUpToCase lib ecuName accessLevel d) :=
  inferInstanceAs (Decidable (_ ∧ _))

/-! ## Both searches as first matches -/

/-- The test of the original. -/
def originalTest (toUpper : String → String) (ecuName : String) (accessLevel : Int)
    (d : Definition) : Bool :=
  decide (accessLevel = d.accessLevel ∧ (ecuName = toUpper d.ecuName ∨ ecuName ∈ d.aliases))

/-- The test of the port. -/
def portTest (lib : Library) (ecuName : String) (accessLevel : Int) (d : Definition) : Bool :=
  decide (accessLevel = d.accessLevel) && (decide (lib.upper ecuName = lib.upper d.ecuName)
    || decide (ecuName ∈ d.aliases) || decide (lib.upper ecuName ∈ d.aliases.map lib.upper))

theorem originalSearch_eq_find (toUpper : String → String) (ecuName : String) (accessLevel : Int)
    (definitions : List Definition) :
    originalSearch toUpper ecuName accessLevel definitions
      = definitions.find? (originalTest toUpper ecuName accessLevel) := by
  unfold originalSearch
  induction definitions with
  | nil => rfl
  | cons d definitions ih =>
    rw [CSharp.findDefinition, List.find?_cons, ih]
    by_cases hlevel : accessLevel = d.accessLevel
    · by_cases hname : ecuName = toUpper d.ecuName ∨ ecuName ∈ d.aliases
      · rw [if_neg (not_not.mpr hlevel), if_neg (by tauto)]
        simp [originalTest, hlevel, hname]
      · rw [if_neg (not_not.mpr hlevel), if_pos (not_or.mp hname)]
        simp [originalTest, hlevel, hname]
    · rw [if_pos hlevel]
      simp [originalTest, hlevel]

theorem portSearch_eq_find (lib : Library) (ecuName : String) (accessLevel : Int)
    (definitions : List Definition) :
    portSearch lib ecuName accessLevel definitions
      = definitions.find? (portTest lib ecuName accessLevel) := rfl

/-- The port compares in upper case, and so up to case. -/
theorem portTest_iff {lib : Library} {ecuName : String} {accessLevel : Int} {d : Definition} :
    portTest lib ecuName accessLevel d = true
      ↔ SameUpToCase lib ecuName accessLevel d
        ∨ (accessLevel = d.accessLevel ∧ ecuName ∈ d.aliases) := by
  simp only [portTest, SameUpToCase, Bool.and_eq_true, Bool.or_eq_true, decide_eq_true_eq]
  tauto

/-- A first match stops at `d` exactly when `d` passes the test and nothing before it does. -/
theorem stopsAt_find {p : Definition → Bool} {front back : List Definition} {d : Definition} :
    StopsAt (fun definitions => definitions.find? p) front d back
      ↔ (∀ e ∈ front, ¬ p e = true) ∧ p d = true := by
  unfold StopsAt
  rw [List.find?_eq_none]
  refine and_congr_right fun hfront => ?_
  dsimp only
  rw [List.find?_append, List.find?_eq_none.mpr hfront, Option.none_or, List.find?_cons]
  cases hd : p d with
  | true => simp
  | false =>
    simp only [Bool.false_eq_true, iff_false]
    intro hback
    exact absurd (List.find?_some hback) (by rw [hd]; decide)

/-! ## Where the searches agree -/

/-- **The port stops at the original's match exactly when no definition in front of it is the
name up to letter case.** -/
theorem portSearch_stops_iff {lib : Library} {toUpper : String → String}
    (hupper : ∀ s, lib.upper (toUpper s) = lib.upper s) {ecuName : String} {accessLevel : Int}
    {front back : List Definition} {d : Definition}
    (h : StopsAt (originalSearch toUpper ecuName accessLevel) front d back) :
    StopsAt (portSearch lib ecuName accessLevel) front d back
      ↔ ∀ e ∈ front, ¬ SameUpToCase lib ecuName accessLevel e := by
  rw [funext (originalSearch_eq_find toUpper ecuName accessLevel), stopsAt_find] at h
  rw [funext (portSearch_eq_find lib ecuName accessLevel), stopsAt_find]
  obtain ⟨hfront, hd⟩ := h
  have hport : portTest lib ecuName accessLevel d = true := by
    rw [originalTest, decide_eq_true_eq] at hd
    rw [portTest_iff]
    obtain ⟨hlevel, hname | halias⟩ := hd
    · exact .inl ⟨hlevel, .inl (by rw [hname, hupper])⟩
    · exact .inr ⟨hlevel, halias⟩
  constructor
  · intro hstop e he hsame
    exact hstop.1 e he (portTest_iff.mpr (.inl hsame))
  · intro hnone
    refine ⟨fun e he htest => ?_, hport⟩
    rcases portTest_iff.mp htest with hsame | ⟨hlevel, halias⟩
    · exact hnone e he hsame
    · exact hfront e he (by rw [originalTest, decide_eq_true_eq]; exact ⟨hlevel, .inr halias⟩)

/-- A library that upper-cases the letters a to z. -/
def asciiLibrary : Library where
  definitions := []
  getProvider _ := none
  upper s := String.ofList (Py.upper s.toList)
  repr s := s

/-- A definition without parameters. -/
def plainDefinition (ecuName : String) (aliases : List String) : Definition :=
  ⟨ecuName, aliases, 1, 4, "XorAlgo", []⟩

theorem asciiLibrary_upper_upper (s : String) :
    asciiLibrary.upper (asciiLibrary.upper s) = asciiLibrary.upper s := by
  simp only [asciiLibrary, String.toList_ofList, Py.upper_upper]

theorem portSearch_stops_second :
    StopsAt (portSearch asciiLibrary "med40" 1) [plainDefinition "CR4" []]
      (plainDefinition "MED" ["med40"]) [] := by
  refine (@portSearch_stops_iff asciiLibrary asciiLibrary.upper asciiLibrary_upper_upper _ _ _ _ _
    ⟨by decide, by decide⟩).mpr (by decide)

/-- The original finds the definition with the alias `med40`, the port the one of the ECU MED40. -/
theorem portSearch_differs :
    StopsAt (originalSearch asciiLibrary.upper "med40" 1) [plainDefinition "MED40" []]
        (plainDefinition "MED" ["med40"]) []
      ∧ portSearch asciiLibrary "med40" 1 [plainDefinition "MED40" [],
          plainDefinition "MED" ["med40"]] = some (plainDefinition "MED40" []) := by
  refine ⟨⟨by decide, by decide⟩, by decide⟩

end AutoDiag.Proof
