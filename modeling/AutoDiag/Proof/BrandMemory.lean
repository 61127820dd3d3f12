import AutoDiag.Lib.Runs
import AutoDiag.Simulator.BrandSpecific

/-!
# When the brand simulator is consistent

A brand is a file here, whatever its spelling. What is read is remembered under the
key, which keeps the blanks and hyphens that the file name drops; so spellings of one
brand are consistent with one another as far as they share a key, and two keys of one
brand are drawn and cleared apart.
-/

namespace AutoDiag.Proof

open Py BrandSim Runs

variable (T : LowerCase) (dtcMaps : Str → List (Str × Str))

/-- The file of the brand that is called for. -/
def fileOf (call : BrandCall) : Str := brandFile T call.brand

/-- The file depends on the key only. -/
theorem brandFile_congr {b b' : Str} (h : key T b = key T b') : brandFile T b = brandFile T b' := by
  unfold brandFile
  exact congrArg (fun k => remove '-' (remove ' ' k) ++ ".json".toList) h

/-- The key of a brand stands for the same file as the brand. -/
theorem brandFile_key (b : Str) : brandFile T (key T b) = brandFile T b := by
  refine brandFile_congr T ?_
  unfold key
  rw [T.strip_lower, T.lower_lower, strip_strip]

/-! ## What is asked of a session -/

/-- The brand with this file was cleared. -/
def Cleared (file : Str) (calls : List BrandCall) : Prop :=
  ∃ b, .clear b ∈ calls ∧ brandFile T b = file

/-- The calls of a session so far. -/
def calls (s : Session) : List BrandCall := s.log.map Prod.fst

/-- A read gives nothing once its brand was cleared, and what the reads before gave until then. -/
def Agrees (s : Session) : BrandCall × Draw → Prop
  | (.read b, draw) =>
    let codes := (simulateReadBrandDtc T dtcMaps b draw s.memory).1
    (Cleared T (brandFile T b) (calls s) → codes = []) ∧
      (¬ Cleared T (brandFile T b) (calls s) →
        ∀ b' codes', (.read b', codes') ∈ s.log → brandFile T b' = brandFile T b → codes' = codes)
  | (.clear _, _) => True

/-- What is read for a brand is what would be without the calls for the others. -/
def Undisturbed (events : List (BrandCall × Draw)) : Prop := ∀ file,
  (after (Session.step T dtcMaps) .start
      (events.filter fun e => fileOf T e.1 = file)).log
    = (after (Session.step T dtcMaps) .start events).log.filter fun e => fileOf T e.1 = file

/-- The brand has no codes, or the key was cleared, or the brand was not and was read under this key
only. -/
def KeySettled (done : List BrandCall) : BrandCall → Prop
  | .read b =>
    loadDtcMap T dtcMaps b = [] ∨ (∃ b', .clear b' ∈ done ∧ key T b' = key T b)
      ∨ ¬ Cleared T (brandFile T b) done
        ∧ ∀ b', .read b' ∈ done → brandFile T b' = brandFile T b → key T b' = key T b
  | .clear _ => True

/-! ## One read -/

variable {T dtcMaps}

theorem loadDtcMap_congr {b b' : Str} (h : key T b = key T b') :
    loadDtcMap T dtcMaps b = loadDtcMap T dtcMaps b' :=
  congrArg dtcMaps (brandFile_congr T h)

variable (T dtcMaps) in
/-- What a read gives is remembered under its key: what was remembered already, or as many codes as
were drawn. -/
theorem read_spec (b : Str) (draw : Draw) (memory : Memory) : ∃ codes memory',
    simulateReadBrandDtc T dtcMaps b draw memory
        = (described (loadDtcMap T dtcMaps b) codes, memory')
      ∧ memory' (key T b) = some codes ∧ (∀ k, k ≠ key T b → memory' k = memory k)
      ∧ (memory (key T b) = some codes ∨ memory (key T b) = none
        ∧ codes.length = min draw.choice (loadDtcMap T dtcMaps b).length) := by
  have hload : loadDtcMap T dtcMaps (key T b) = loadDtcMap T dtcMaps b :=
    congrArg dtcMaps (brandFile_key T b)
  have hother : ∀ codes k, k ≠ key T b → memory.set (key T b) codes k = memory k :=
    fun _ _ hk => if_neg hk
  unfold simulateReadBrandDtc
  dsimp only
  rw [hload]
  cases hmemory : memory (key T b) with
  | some codes => exact ⟨codes, memory, rfl, hmemory, fun _ _ => rfl, .inl rfl⟩
  | none =>
    by_cases hempty : loadDtcMap T dtcMaps b = []
    · dsimp only
      rw [if_pos hempty, hempty]
      exact ⟨[], _, rfl, if_pos rfl, hother [], .inr ⟨rfl, (Nat.min_zero _).symm⟩⟩
    · dsimp only
      rw [if_neg hempty]
      refine ⟨_, _, rfl, if_pos rfl, hother _, .inr ⟨rfl, ?_⟩⟩
      rw [draw.sample_length _ _ (Nat.min_le_right _ _), List.length_map]

/-- What a session remembers of its log. -/
structure Remembers (T : LowerCase) (dtcMaps : Str → List (Str × Str)) (s : Session) : Prop where
  cleared : ∀ b, .clear b ∈ calls s → s.memory (key T b) = some []
  kept : ∀ b codes, (.read b, codes) ∈ s.log →
    ¬ (∃ b', .clear b' ∈ calls s ∧ key T b' = key T b) →
      ∃ cs, s.memory (key T b) = some cs ∧ codes = described (loadDtcMap T dtcMaps b) cs
  empty : ∀ b cs, loadDtcMap T dtcMaps b = [] → s.memory (key T b) = some cs → cs = []
  silent : ∀ b codes, (.read b, codes) ∈ s.log → loadDtcMap T dtcMaps b = [] → codes = []

theorem remembers_start : Remembers T dtcMaps .start where
  cleared b hb := by cases hb
  kept b codes hb := by cases hb
  empty b cs _ hb := by cases hb
  silent b codes hb := by cases hb

theorem clear_mem_read (s : Session) (b b' : Str) (draw : Draw) :
    .clear b' ∈ calls (s.step T dtcMaps (.read b, draw)) ↔ .clear b' ∈ calls s := by
  change _ ∈ (s.log ++ [_]).map Prod.fst ↔ _
  rw [List.map_append, List.mem_append]
  exact or_iff_left (by simp)

theorem clear_mem_clear (s : Session) (b b' : Str) (draw : Draw) :
    .clear b' ∈ calls (s.step T dtcMaps (.clear b, draw)) ↔ .clear b' ∈ calls s ∨ b' = b := by
  change _ ∈ (s.log ++ [_]).map Prod.fst ↔ _
  rw [List.map_append, List.mem_append]
  simp [calls]

theorem read_mem_clear {s : Session} {b b' : Str} {draw : Draw} {codes : List (Str × Str)}
    (h : (.read b', codes) ∈ (s.step T dtcMaps (.clear b, draw)).log) :
    (.read b', codes) ∈ s.log := by
  rcases List.mem_append.mp h with h | h
  · exact h
  · cases List.mem_singleton.mp h

/-- What was remembered stays, and what is read is remembered. -/
theorem remembers_read {s : Session} (h : Remembers T dtcMaps s) (b : Str)
    (draw : Draw) : Remembers T dtcMaps
      (s.step T dtcMaps (.read b, draw)) := by
  obtain ⟨codes, memory', hread, hnew, hother, hcase⟩ := read_spec T dtcMaps b
    draw s.memory
  have hstep : s.step T dtcMaps (.read b, draw) =
      { memory := memory'
        log := s.log ++ [(.read b, described (loadDtcMap T dtcMaps b) codes)] } := by
    rw [Session.step, hread]
  -- a read fills an empty entry only, so what the memory held it still holds
  have hkeep : ∀ k cs, s.memory k = some cs → memory' k = some cs := by
    intro k cs hk
    by_cases hkey : k = key T b
    · subst hkey
      rcases hcase with hold | ⟨hold, _⟩
      · rw [hold] at hk
        rw [hnew, hk]
      · rw [hold] at hk
        cases hk
    · rw [hother k hkey, hk]
  -- a brand without codes is answered with none
  have hsilent : loadDtcMap T dtcMaps b = [] → codes = [] := by
    intro hload
    rcases hcase with hold | ⟨_, hlength⟩
    · exact h.empty b codes hload hold
    · rw [hload, List.length_nil, Nat.min_zero] at hlength
      exact List.length_eq_zero_iff.mp hlength
  constructor
  · intro b' hb'
    rw [clear_mem_read] at hb'
    rw [hstep]
    exact hkeep _ _ (h.cleared b' hb')
  · intro b' codes' hb' hnot
    simp only [clear_mem_read] at hnot
    rw [hstep] at hb' ⊢
    rcases List.mem_append.mp hb' with hb' | hb'
    · obtain ⟨cs, hcs, hcodes⟩ := h.kept b' codes' hb' hnot
      exact ⟨cs, hkeep _ _ hcs, hcodes⟩
    · obtain ⟨hcall, rfl⟩ := Prod.mk.inj (List.mem_singleton.mp hb')
      obtain rfl := BrandCall.read.inj hcall
      exact ⟨codes, hnew, rfl⟩
  · intro b' cs hload hcs
    rw [hstep] at hcs
    by_cases hkey : key T b' = key T b
    · rw [hkey] at hcs
      obtain rfl := Option.some.inj (hnew.symm.trans hcs)
      exact hsilent ((loadDtcMap_congr hkey).symm.trans hload)
    · exact h.empty b' cs hload ((hother _ hkey).symm.trans hcs)
  · intro b' codes' hb' hload
    rw [hstep] at hb'
    rcases List.mem_append.mp hb' with hb' | hb'
    · exact h.silent b' codes' hb' hload
    · obtain ⟨hcall, rfl⟩ := Prod.mk.inj (List.mem_singleton.mp hb')
      obtain rfl := BrandCall.read.inj hcall
      rw [hsilent hload]
      rfl

theorem remembers_clear {s : Session} (h : Remembers T dtcMaps s) (b : Str)
    (draw : Draw) : Remembers T dtcMaps
      (s.step T dtcMaps (.clear b, draw)) := by
  have hset : ∀ k, (s.step T dtcMaps (.clear b, draw)).memory k =
      if k = key T b then some [] else s.memory k := fun _ => rfl
  constructor
  · intro b' hb'
    rw [hset]
    by_cases hkey : key T b' = key T b
    · rw [if_pos hkey]
    · rw [if_neg hkey]
      refine h.cleared b' (((clear_mem_clear s b b' draw).mp hb').resolve_right fun heq => hkey ?_)
      rw [heq]
  · intro b' codes hb' hnot
    have hkey : key T b' ≠ key T b := fun heq =>
      hnot ⟨b, (clear_mem_clear s b b draw).mpr (.inr rfl), heq.symm⟩
    rw [hset, if_neg hkey]
    refine h.kept b' codes (read_mem_clear hb') fun ⟨c, hc, hck⟩ => hnot ?_
    exact ⟨c, (clear_mem_clear s b c draw).mpr (.inl hc), hck⟩
  · intro b' cs hload hcs
    rw [hset] at hcs
    split at hcs
    · exact (Option.some.inj hcs).symm
    · exact h.empty b' cs hload hcs
  · intro b' codes hb' hload
    exact h.silent b' codes (read_mem_clear hb') hload

theorem remembers_step (s : Session) (e : BrandCall × Draw)
    (h : Remembers T dtcMaps s) :
    Remembers T dtcMaps (s.step T dtcMaps e) := by
  obtain ⟨call, draw⟩ := e
  cases call with
  | read b => exact remembers_read h b draw
  | clear b => exact remembers_clear h b draw

/-- A read under a settled key agrees with the log. -/
theorem agrees_of_settled (s : Session) (e : BrandCall × Draw)
    (h : Remembers T dtcMaps s) (hsettled : KeySettled T dtcMaps (calls s) e.1) :
    Agrees T dtcMaps s e := by
  obtain ⟨call, draw⟩ := e
  cases call with
  | clear b => trivial
  | read b =>
    obtain ⟨codes, memory', hread, _, _, hcase⟩ := read_spec T dtcMaps b draw
      s.memory
    unfold Agrees
    dsimp only
    rw [hread]
    rcases hsettled with hload | ⟨b', hb', hkey⟩ | ⟨hnot, hsame⟩
    · -- a brand without codes gives none, ever
      have hnone : codes = [] := by
        rcases hcase with hold | ⟨_, hlength⟩
        · exact h.empty b codes hload hold
        · rw [hload, List.length_nil, Nat.min_zero] at hlength
          exact List.length_eq_zero_iff.mp hlength
      rw [hnone]
      refine ⟨fun _ => rfl, fun _ c codes' hc hfile => ?_⟩
      refine h.silent c codes' hc ?_
      rw [loadDtcMap, hfile]
      exact hload
    -- a cleared brand stays empty
    · have hmemory := h.cleared b' hb'
      rw [hkey] at hmemory
      have hnone : codes = [] := by
        rcases hcase with hold | ⟨hold, _⟩
        · exact Option.some.inj (hold.symm.trans hmemory)
        · rw [hold] at hmemory
          cases hmemory
      rw [hnone]
      exact ⟨fun _ => rfl, fun hnot => absurd ⟨b', hb', brandFile_congr T hkey⟩ hnot⟩
    · refine ⟨fun hcleared => absurd hcleared hnot, fun _ c codes' hc hfile => ?_⟩
      -- one file and one key: the memory holds the codes of the earlier read
      have hkey := hsame c (List.mem_map_of_mem hc) hfile
      obtain ⟨cs, hcs, hcodes⟩ := h.kept c codes' hc fun ⟨c', hc', hck⟩ =>
        hnot ⟨c', hc', brandFile_congr T (hck.trans hkey)⟩
      rw [hkey] at hcs
      rw [hcodes, loadDtcMap_congr hkey]
      rcases hcase with hold | ⟨hold, _⟩
      · rw [Option.some.inj (hold.symm.trans hcs)]
      · rw [hold] at hcs
        cases hcs

/-! ## Brands apart -/

/-- The second session has had the calls for one brand of the first. -/
structure Follows (T : LowerCase) (file : Str) (s t : Session) : Prop where
  log : t.log = s.log.filter fun e => fileOf T e.1 = file
  memory : ∀ b, brandFile T b = file → t.memory (key T b) = s.memory (key T b)

variable (T dtcMaps) in
/-- A read looks at its own key, and changes no other. -/
theorem read_congr (b : Str) (draw : Draw) {memory memory' : Memory}
    (h : memory' (key T b) = memory (key T b)) :
    (simulateReadBrandDtc T dtcMaps b draw memory').1
        = (simulateReadBrandDtc T dtcMaps b draw memory).1
      ∧ (simulateReadBrandDtc T dtcMaps b draw memory').2 (key T b)
        = (simulateReadBrandDtc T dtcMaps b draw memory).2 (key T b) := by
  unfold simulateReadBrandDtc
  dsimp only
  rw [h]
  cases hmemory : memory (key T b) with
  | some codes => exact ⟨rfl, h⟩
  | none =>
    dsimp only
    split
    · exact ⟨rfl, (if_pos rfl).trans (if_pos rfl).symm⟩
    · exact ⟨rfl, (if_pos rfl).trans (if_pos rfl).symm⟩

/-- A call changes what is remembered under its own key only. -/
theorem step_memory_of_ne (s : Session) (e : BrandCall × Draw) {k : Str} (hk : k ≠ key T e.1.brand) :
    (s.step T dtcMaps e).memory k = s.memory k := by
  obtain ⟨call, draw⟩ := e
  cases call with
  | read b =>
    obtain ⟨codes, memory', hread, _, hother, _⟩ := read_spec T dtcMaps b draw
      s.memory
    rw [Session.step, hread]
    exact hother k hk
  | clear b => exact if_neg hk

variable (T dtcMaps) in
/-- A call is logged with its answer. -/
theorem step_log (s : Session) (e : BrandCall × Draw) : ∃ codes,
    (s.step T dtcMaps e).log = s.log ++ [(e.1, codes)] := by
  obtain ⟨call, draw⟩ := e
  cases call with
  | read b => exact ⟨_, rfl⟩
  | clear b => exact ⟨_, rfl⟩

theorem follows_same {file : Str} {s t : Session} (h : Follows T file s t) (e : BrandCall × Draw)
    (he : fileOf T e.1 = file) : Follows T file (s.step T dtcMaps e) (t.step T dtcMaps e) := by
  have hkey := h.memory e.1.brand he
  have hown : (t.step T dtcMaps e).memory (key T e.1.brand)
      = (s.step T dtcMaps e).memory (key T e.1.brand) ∧ ∃ codes,
      (t.step T dtcMaps e).log = t.log ++ [(e.1, codes)]
        ∧ (s.step T dtcMaps e).log = s.log ++ [(e.1, codes)] := by
    obtain ⟨call, draw⟩ := e
    cases call with
    | read b =>
      obtain ⟨hcodes, hmemory⟩ := read_congr T dtcMaps b draw hkey
      refine ⟨hmemory, (simulateReadBrandDtc T dtcMaps b draw s.memory).1, ?_, rfl⟩
      rw [← hcodes]
      rfl
    | clear b => exact ⟨(if_pos rfl).trans (if_pos rfl).symm, _, rfl, rfl⟩
  obtain ⟨hmemory, codes, hlog', hlog⟩ := hown
  constructor
  · rw [hlog, hlog', List.filter_append, ← h.log]
    simp [he]
  · intro b hb
    by_cases hk : key T b = key T e.1.brand
    · rw [hk]
      exact hmemory
    · rw [step_memory_of_ne t e hk, step_memory_of_ne s e hk]
      exact h.memory b hb

theorem follows_other {file : Str} {s t : Session} (h : Follows T file s t) (e : BrandCall × Draw)
    (he : fileOf T e.1 ≠ file) : Follows T file (s.step T dtcMaps e) t := by
  obtain ⟨codes, hlog⟩ := step_log T dtcMaps s e
  constructor
  · rw [hlog, List.filter_append, ← h.log]
    simp [he]
  · intro b hb
    have hk : key T b ≠ key T e.1.brand := fun hk => he ((brandFile_congr T hk).symm.trans hb)
    rw [step_memory_of_ne s e hk]
    exact h.memory b hb

/-- **Calls for one brand never change what is read for another.** -/
theorem undisturbed (events : List (BrandCall × Draw)) : Undisturbed T dtcMaps events := by
  intro file
  have hrun : ∀ (events : List (BrandCall × Draw)) {s t : Session}, Follows T file s t →
      Follows T file (after (Session.step T dtcMaps) s events)
        (after (Session.step T dtcMaps) t (events.filter fun e => fileOf T e.1 = file)) := by
    intro events
    induction events with
    | nil => exact fun h => h
    | cons e events ih =>
      intro s t h
      by_cases he : fileOf T e.1 = file
      · rw [List.filter_cons, if_pos (decide_eq_true he)]
        exact ih (follows_same h e he)
      · rw [List.filter_cons, if_neg (by simpa using he)]
        exact ih (follows_other h e he)
  exact (hrun events ⟨rfl, fun _ _ => rfl⟩).log

/-! ## Keys apart -/

/-- Draws that choose `n` codes, the first ones. -/
def firstCodes (n : Nat) (h : n ∈ [0, 1, 2]) : Draw where
  choice := n
  sample pool k := pool.take k
  choice_mem := h
  sample_length _ _ hk := List.length_take_of_le hk
  sample_subperm pool k _ := (List.take_sublist k pool).subperm

/-- One code where the key is that of `b`, and none elsewhere. -/
def skewed (T : LowerCase) (b : Str) (call : BrandCall) : Draw :=
  if key T call.brand = key T b then firstCodes 1 (by decide) else firstCodes 0 (by decide)

/-- Under skewed draws the key of `b` has codes until it is cleared, and no other has any. -/
structure Skewed (T : LowerCase) (b : Str) (s : Session) : Prop where
  own : ¬ (∃ b', .clear b' ∈ calls s ∧ key T b' = key T b) →
    ∀ cs, s.memory (key T b) = some cs → cs ≠ []
  others : ∀ k, k ≠ key T b → ∀ cs, s.memory k = some cs → cs = []
  silent : ∀ b' codes, (.read b', codes) ∈ s.log → key T b' ≠ key T b → codes = []

theorem skewed_read {b : Str} (hload : loadDtcMap T dtcMaps b ≠ []) {s : Session}
    (h : Skewed T b s) (c : Str) : ∃ codes memory',
      simulateReadBrandDtc T dtcMaps c (skewed T b (.read c)) s.memory
        = (described (loadDtcMap T dtcMaps c) codes, memory')
      ∧ memory' (key T c) = some codes ∧ (∀ k, k ≠ key T c → memory' k = s.memory k)
      ∧ (key T c = key T b → ¬ (∃ b', .clear b' ∈ calls s ∧ key T b' = key T b) → codes ≠ [])
      ∧ (key T c ≠ key T b → codes = []) := by
  obtain ⟨codes, memory', hread, hnew, hother, hcase⟩ := read_spec T dtcMaps c
    (skewed T b (.read c)) s.memory
  refine ⟨codes, memory', hread, hnew, hother, fun hkey hnot => ?_, fun hkey => ?_⟩
  · rcases hcase with hold | ⟨_, hlength⟩
    · rw [hkey] at hold
      exact h.own hnot codes hold
    · have hpos := List.length_pos_iff.mpr hload
      have hdraw : skewed T b (.read c) = firstCodes 1 (by decide) := if_pos hkey
      rw [hdraw, loadDtcMap_congr hkey] at hlength
      change codes.length = min 1 _ at hlength
      exact List.ne_nil_of_length_pos (by omega)
  · rcases hcase with hold | ⟨_, hlength⟩
    · exact h.others _ hkey codes hold
    · have hdraw : skewed T b (.read c) = firstCodes 0 (by decide) := if_neg hkey
      rw [hdraw] at hlength
      exact List.length_eq_zero_iff.mp (hlength.trans (Nat.zero_min _))

theorem skewed_step {b : Str} (hload : loadDtcMap T dtcMaps b ≠ []) (s : Session) (call : BrandCall)
    (h : Skewed T b s) : Skewed T b (s.step T dtcMaps (call, skewed T b call)) := by
  cases call with
  | read c =>
    obtain ⟨codes, memory', hread, hnew, hother, hown, hnone⟩ := skewed_read hload h c
    have hstep : s.step T dtcMaps (.read c, skewed T b (.read c)) =
        { memory := memory'
          log := s.log ++ [(.read c, described (loadDtcMap T dtcMaps c) codes)] } := by
      rw [Session.step, hread]
    constructor
    · intro hnot cs hcs
      simp only [clear_mem_read] at hnot
      rw [hstep] at hcs
      -- only the entry of the brand that is read changes
      by_cases hkey : key T b = key T c
      · rw [hkey] at hcs
        rw [← Option.some.inj (hnew.symm.trans hcs)]
        exact hown hkey.symm hnot
      · exact h.own hnot cs ((hother _ hkey).symm.trans hcs)
    · intro k hk cs hcs
      rw [hstep] at hcs
      by_cases hkey : k = key T c
      · subst hkey
        rw [← Option.some.inj (hnew.symm.trans hcs)]
        exact hnone hk
      · exact h.others k hk cs ((hother _ hkey).symm.trans hcs)
    · intro b' codes' hb' hkey
      rw [hstep] at hb'
      rcases List.mem_append.mp hb' with hb' | hb'
      · exact h.silent b' codes' hb' hkey
      · obtain ⟨hcall, rfl⟩ := Prod.mk.inj (List.mem_singleton.mp hb')
        obtain rfl := BrandCall.read.inj hcall
        rw [hnone hkey]
        rfl
  | clear c =>
    have hset : ∀ k, (s.step T dtcMaps (.clear c, skewed T b (.clear c))).memory k =
        if k = key T c then some [] else s.memory k := fun _ => rfl
    constructor
    · intro hnot cs hcs
      have hkey : key T b ≠ key T c := fun heq =>
        hnot ⟨c, (clear_mem_clear s c c _).mpr (.inr rfl), heq.symm⟩
      rw [hset, if_neg hkey] at hcs
      refine h.own (fun ⟨d, hd, hdk⟩ => hnot ?_) cs hcs
      exact ⟨d, (clear_mem_clear s c d _).mpr (.inl hd), hdk⟩
    · intro k hk cs hcs
      rw [hset] at hcs
      split at hcs
      · exact (Option.some.inj hcs).symm
      · exact h.others k hk cs hcs
    · intro b' codes hb' hkey
      exact h.silent b' codes (read_mem_clear hb') hkey

/-- Where the key is not settled, skewed draws make the read disagree. -/
theorem not_agrees_of_unsettled {b : Str} {s : Session} (h : Skewed T b s)
    (hunsettled : ¬ KeySettled T dtcMaps (calls s) (.read b)) :
    ¬ Agrees T dtcMaps s (.read b, skewed T b (.read b)) := by
  simp only [KeySettled, not_or] at hunsettled
  obtain ⟨hload, hown, hsame⟩ := hunsettled
  obtain ⟨codes, memory', hread, _, _, hsome, _⟩ := skewed_read hload h b
  have hne : described (loadDtcMap T dtcMaps b) codes ≠ [] := fun hnil =>
    hsome rfl hown (List.map_eq_nil_iff.mp hnil)
  unfold Agrees
  dsimp only
  rw [hread]
  rintro ⟨hcleared, hkept⟩
  by_cases hc : Cleared T (brandFile T b) (calls s)
  · exact hne (hcleared hc)
  · -- a read of the brand under another key gave nothing
    simp only [not_and, not_forall] at hsame
    obtain ⟨b', hb', hfile, hkey⟩ := hsame hc
    obtain ⟨⟨call, codes'⟩, hmem, rfl⟩ := List.mem_map.mp hb'
    have hnone := h.silent b' codes' hmem hkey
    exact hne ((hkept hc b' codes' hmem hfile).symm.trans hnone)

/-! ## Every session -/

theorem calls_after (events : List (BrandCall × Draw)) :
    calls (after (Session.step T dtcMaps) .start events) = events.map Prod.fst := by
  have hrun : ∀ (events : List (BrandCall × Draw)) (s : Session),
      calls (after (Session.step T dtcMaps) s events) = calls s ++ events.map Prod.fst := by
    intro events
    induction events with
    | nil => exact fun s => (List.append_nil _).symm
    | cons e events ih =>
      intro s
      obtain ⟨codes, hlog⟩ := step_log T dtcMaps s e
      have hcalls : calls (s.step T dtcMaps e) = calls s ++ [e.1] := by
        rw [calls, hlog, List.map_append]
        rfl
      refine (ih _).trans ?_
      rw [hcalls, List.append_assoc]
      rfl
  exact hrun events .start

/-- **The brand simulator is consistent under every draw exactly where each read finds its key
settled.** -/
theorem brandSim_iff (called : List BrandCall) :
    (∀ events : List (BrandCall × Draw), events.map Prod.fst = called →
      Each (Session.step T dtcMaps) (Agrees T dtcMaps) .start events
        ∧ Undisturbed T dtcMaps events)
      ↔ ∀ done call todo, called = done ++ call :: todo → KeySettled T dtcMaps done call := by
  constructor
  · rintro h done call todo rfl
    cases call with
    | clear b => trivial
    | read b =>
      -- draws that differ by the key make a read that is not settled disagree
      by_contra hunsettled
      have hload : loadDtcMap T dtcMaps b ≠ [] := fun hload => hunsettled (.inl hload)
      have hpair : ∀ cs : List BrandCall, (cs.map fun c => (c, skewed T b c)).map Prod.fst = cs := by
        intro cs
        rw [List.map_map]
        exact List.map_id cs
      have hskewed : ∀ (cs : List BrandCall) (s : Session), Skewed T b s →
          Skewed T b (after (Session.step T dtcMaps) s (cs.map fun c => (c, skewed T b c))) := by
        intro cs
        induction cs with
        | nil => exact fun _ hs => hs
        | cons c cs ih => exact fun s hs => ih _ (skewed_step hload s c hs)
      have hstart : Skewed T b .start := ⟨fun _ _ hcs => (nomatch hcs), fun _ _ _ hcs =>
        (nomatch hcs), fun _ _ hb => (nomatch hb)⟩
      have heach := (h _ (hpair (done ++ .read b :: todo))).1
        (done.map fun c => (c, skewed T b c)) (.read b, skewed T b (.read b))
        (todo.map fun c => (c, skewed T b c)) (by rw [List.map_append]; rfl)
      refine not_agrees_of_unsettled (hskewed done .start hstart) ?_ heach
      rw [calls_after, hpair]
      exact hunsettled
  · rintro h events rfl
    refine ⟨Runs.each (Remembers T dtcMaps) remembers_step agrees_of_settled remembers_start ?_,
      undisturbed events⟩
    intro done e todo heq
    rw [calls_after]
    refine h _ _ (todo.map Prod.fst) ?_
    rw [heq, List.map_append]
    rfl

/-- One brand with a file, and one code. -/
def audiMaps (file : Str) : List (Str × Str) :=
  if file = "audi.json".toList then [("P1101".toList, "O2 Sensor Circ.".toList)] else []

/-- The brand is read as `AUDI` and as `Au di`. -/
theorem brandSim_spellings :
    ¬ ∀ events : List (BrandCall × Draw),
      events.map Prod.fst = [.read "AUDI".toList, .read "Au di".toList] →
        Each (Session.step .ascii audiMaps) (Agrees .ascii audiMaps) .start events
          ∧ Undisturbed .ascii audiMaps events := by
  intro h
  have heach := (h [(.read "AUDI".toList, firstCodes 1 (by decide)),
    (.read "Au di".toList, firstCodes 0 (by decide))] rfl).1
    [(.read "AUDI".toList, firstCodes 1 (by decide))]
    (.read "Au di".toList, firstCodes 0 (by decide)) [] rfl
  have hnot : ¬ Cleared .ascii (brandFile .ascii "Au di".toList) [.read "AUDI".toList] := by
    rintro ⟨b, hb, _⟩
    cases List.mem_singleton.mp hb
  have hsame := heach.2 hnot "AUDI".toList [("P1101".toList, "O2 Sensor Circ.".toList)]
    (List.mem_singleton.mpr (by decide)) (by decide)
  exact absurd hsame (by decide)

end AutoDiag.Proof
