import AutoDiag.Scripts.ImportDtcLibrary

/-!
# The library says what the workbook says

What `lookup` finds in the imported library is a search of the rows of the workbook
(`lookup_imported`): of the sheet of the make, then of the generic sheets, the last one
first. Of the rows of one sheet the first one counts.
-/

namespace AutoDiag.Proof.Workbook

open ImportDtcLibrary
open DtcLibrary (Entry Codes Library Found)

variable (T : Py.Unicode) (L : Py.LowerCase)

/-- The rows below the header. -/
def body (ws : Sheet) : List Row :=
  match findHeader T L ws.rows with
  | none => []
  | some header => ws.rows.drop (header + 1)

/-- What a row says, the texts of its cells without the blanks around them. -/
def rowItem (row : Row) : Option (Str × Entry) :=
  (rowCode T row).map fun code =>
    (code, ⟨(cellText T row 2).getD [], (cellText T row 3).getD []⟩)

/-- What the rows of a sheet say, in turn. -/
def items (ws : Sheet) : List (Str × Entry) :=
  if ws.title = "Cover".toList then [] else (body T L ws).filterMap (rowItem T)

/-- A row with a code has no number for a definition or a category. -/
def Legible (row : Row) : Prop :=
  rowCode T row ≠ none → cellText T row 2 ≠ none ∧ cellText T row 3 ≠ none

instance : DecidablePred (Legible T) := fun row =>
  inferInstanceAs (Decidable (rowCode T row ≠ none → _))

/-- A sheet that is read has legible rows only. -/
def LegibleSheet (ws : Sheet) : Prop :=
  ws.title ≠ "Cover".toList → ∀ row ∈ body T L ws, Legible T row

instance : DecidablePred (LegibleSheet T L) := fun ws =>
  inferInstanceAs (Decidable (ws.title ≠ _ → _))

/-! ## One sheet -/

/-- The first row of a code counts: `setdefault` leaves what is there. -/
theorem readRow_eq (out : Codes) (row : Row) :
    readRow T out row = if Legible T row then
      some ((rowItem T row).elim out fun item => out.setdefault item.1 item.2) else none := by
  cases hcode : rowCode T row with
  | none =>
    have hlegible : Legible T row := fun hne => absurd hcode hne
    rw [if_pos hlegible, readRow, rowItem, hcode]
    rfl
  | some code =>
    cases hdef : cellText T row 2 with
    | none =>
      have hnot : ¬ Legible T row := fun h => (h (by rw [hcode]; simp)).1 hdef
      rw [if_neg hnot, readRow, hcode, hdef]
      rfl
    | some definition =>
      cases hcat : cellText T row 3 with
      | none =>
        have hnot : ¬ Legible T row := fun h => (h (by rw [hcode]; simp)).2 hcat
        rw [if_neg hnot, readRow, hcode, hdef, hcat]
        rfl
      | some category =>
        have hlegible : Legible T row := fun _ => by rw [hdef, hcat]; simp
        rw [if_pos hlegible, readRow, rowItem, hcode, hdef, hcat]
        rfl

/-- The dictionary of a sheet. -/
def codes (ws : Sheet) : Codes :=
  (items T L ws).foldl (fun out item => out.setdefault item.1 item.2) ∅

/-- The dictionary of a sheet finds what its rows say first. -/
theorem lookup_codes (ws : Sheet) (code : Str) :
    (codes T L ws).lookup code = (items T L ws).lookup code :=
  Dict.lookup_setdefaults (items T L ws) ∅ code

/-- One row that raises stops the whole sheet. -/
theorem readSheet_eq {ws : Sheet} (h : ws.title ≠ "Cover".toList) :
    readSheet T L ws.rows = if LegibleSheet T L ws then some (codes T L ws) else none := by
  have hbody : readSheet T L ws.rows = (body T L ws).foldlM (readRow T) ∅ := by
    rw [readSheet, body]
    cases findHeader T L ws.rows <;> rfl
  have hfold := foldlM_guarded (readRow_eq T) (body T L ws) ∅
  have hall : (∀ row ∈ body T L ws, Legible T row) ↔ LegibleSheet T L ws :=
    ⟨fun hrows _ => hrows, fun hsheet => hsheet h⟩
  have hcodes : codes T L ws = (body T L ws).foldl
      (fun out row => (rowItem T row).elim out fun item => out.setdefault item.1 item.2) ∅ := by
    rw [codes, items, if_neg h, List.foldl_filterMap]
    refine congrArg (fun turn => List.foldl turn ∅ (body T L ws)) ?_
    funext out row
    cases rowItem T row <;> rfl
  rw [hbody, hfold, if_congr hall rfl rfl, hcodes]

/-! ## The workbook -/

/-- A sheet of the codes that every make has. -/
def IsGeneric (ws : Sheet) : Prop := ws.title ∈ genericSheets

instance : DecidablePred IsGeneric := fun ws =>
  inferInstanceAs (Decidable (ws.title ∈ _))

/-- A sheet that becomes a table of its own. -/
def IsTable (ws : Sheet) : Prop := ws.title ∉ genericSheets ∧ items T L ws ≠ []

instance : DecidablePred (IsTable T L) := fun ws =>
  inferInstanceAs (Decidable (ws.title ∉ _ ∧ _))

/-- The library with one more sheet. -/
def withSheet (db : Library) (ws : Sheet) : Library where
  generic := if IsGeneric ws then codes T L ws ∪ db.generic else db.generic
  oem := if IsTable T L ws then db.oem.insert ws.title (codes T L ws) else db.oem

@[simp] theorem withSheet_generic (db : Library) (ws : Sheet) : (withSheet T L db ws).generic
    = if IsGeneric ws then codes T L ws ∪ db.generic else db.generic := rfl

@[simp] theorem withSheet_oem (db : Library) (ws : Sheet) : (withSheet T L db ws).oem
    = if IsTable T L ws then db.oem.insert ws.title (codes T L ws) else db.oem := rfl

/-- A sheet goes to the generic part, to a table of its own, or to neither. -/
theorem addSheet_eq (db : Library) (ws : Sheet) :
    addSheet T L db ws = if LegibleSheet T L ws then some (withSheet T L db ws) else none := by
  by_cases hcover : ws.title = "Cover".toList
  · have hlegible : LegibleSheet T L ws := fun hne => absurd hcover hne
    have hitems : items T L ws = [] := if_pos hcover
    have htitle : ¬ IsGeneric ws := by rw [IsGeneric, hcover]; decide
    rw [addSheet, if_pos hcover, if_pos hlegible, withSheet, if_neg htitle,
      if_neg fun h => h.2 hitems]
  · rw [addSheet, if_neg hcover, readSheet_eq T L hcover]
    by_cases hlegible : LegibleSheet T L ws
    · rw [if_pos hlegible, if_pos hlegible]
      refine (Option.bind_some ..).trans ?_
      -- a sheet without codes leaves the library as it is
      by_cases hempty : items T L ws = []
      · have hcodes : codes T L ws = ∅ := by rw [codes, hempty]; rfl
        have htable : ¬ IsTable T L ws := fun h => h.2 hempty
        rw [if_pos (by rw [hcodes]; rfl), withSheet, hcodes, AList.empty_union, ite_self,
          if_neg htable]
        rfl
      · rw [if_neg (by rwa [codes, Dict.entries_foldl_setdefault])]
        by_cases hgeneric : ws.title ∈ genericSheets
        -- the codes of the sheet go over those that are there already
        · have hsheet : IsGeneric ws := hgeneric
          rw [if_pos hgeneric, withSheet, if_pos hsheet, if_neg fun h => h.1 hgeneric]
          rfl
        · have hsheet : ¬ IsGeneric ws := hgeneric
          rw [if_neg hgeneric, withSheet, if_neg hsheet, if_pos ⟨hgeneric, hempty⟩]
          rfl
    · rw [if_neg hlegible, if_neg hlegible]
      rfl

variable (wb : List Sheet)

/-- The generic part: the sheets in turn, each over those before. -/
theorem generic_withSheets (db : Library) :
    (wb.foldl (withSheet T L) db).generic
      = ((wb.filter (IsGeneric ·)).map (codes T L)).foldl (fun d d' => d' ∪ d)
          db.generic := by
  induction wb generalizing db with
  | nil => rfl
  | cons ws wb ih =>
    rw [List.foldl_cons, ih, withSheet_generic, List.filter_cons]
    by_cases hgeneric : IsGeneric ws
    · rw [if_pos hgeneric, if_pos (decide_eq_true hgeneric)]
      rfl
    · rw [if_neg hgeneric, if_neg (by simpa using hgeneric)]

theorem oem_withSheets (db : Library) :
    (wb.foldl (withSheet T L) db).oem
      = ((wb.filter (IsTable T L ·)).map fun ws => (ws.title, codes T L ws)).foldl
          (fun d item => d.insert item.1 item.2) db.oem := by
  induction wb generalizing db with
  | nil => rfl
  | cons ws wb ih =>
    rw [List.foldl_cons, ih, withSheet_oem, List.filter_cons]
    by_cases htable : IsTable T L ws
    · rw [if_pos htable, if_pos (decide_eq_true htable)]
      rfl
    · rw [if_neg htable, if_neg (by simpa using htable)]

/-! ## What the workbook says -/

/-- What the generic sheets say of a code, the last one first. -/
def genericSays (code : Str) : Option Entry :=
  (wb.filter (IsGeneric ·)).reverse.findSome? fun ws => (items T L ws).lookup code

/-- The table of that title, the last one if there are several. -/
def table (title : Str) : Option (List (Str × Entry)) :=
  ((wb.filter (IsTable T L ·)).reverse.find? fun ws => ws.title = title).map (items T L)

/-- The table a make stands for: its own, or that of the maker. -/
def titleOf : Option Str → Option Str
  | none => none
  | some make =>
    if make = [] then none
    else if (table T L wb (T.strip make)).isSome then some (T.strip make)
    else DtcLibrary.makeAliases.lookup (L.lower (T.strip make))

/-- What the table of that title says of a code. -/
def ofTable (code title : Str) : Option Found :=
  if title = [] then none
  else (((table T L wb title).getD []).lookup code).map fun entry => ⟨code, title, entry⟩

/-- The search of the workbook. -/
def search (code : Str) (make : Option Str) : Option Found :=
  let code := T.upper (T.strip code)
  ((titleOf T L wb make).bind (ofTable T L wb code)).or
    ((genericSays T L wb code).map fun entry => ⟨code, "generic".toList, entry⟩)

/-! ## The imported library -/

/-- The library before it is sorted. -/
def filled : Library := wb.foldl (withSheet T L) ⟨∅, ∅⟩

/-- The library as it is written. -/
def imported : Library :=
  ⟨(filled T L wb).generic.sorted, (filled T L wb).oem.sorted.mapValues Dict.sorted⟩

/-- The workbook is imported exactly if every sheet is legible. -/
theorem main_eq : main T L wb
    = if ∀ ws ∈ wb, LegibleSheet T L ws then some (imported T L wb) else none := by
  have hfold := foldlM_guarded (addSheet_eq T L) wb ⟨∅, ∅⟩
  rw [main, hfold]
  by_cases hall : ∀ ws ∈ wb, LegibleSheet T L ws
  · rw [if_pos hall, if_pos hall]
    rfl
  · rw [if_neg hall, if_neg hall]
    rfl

/-- Sorting changes no entry: what is found is what the last sheet says. -/
theorem generic_imported (code : Str) :
    (imported T L wb).generic.lookup code = genericSays T L wb code := by
  rw [imported, Dict.lookup_sorted, filled, generic_withSheets, Dict.lookup_updates,
    AList.lookup_empty, Option.or_none, ← List.map_reverse, List.findSome?_map, genericSays]
  congr 1
  funext ws
  exact lookup_codes T L ws code

/-- Of several tables of one title the last one stays. -/
theorem oem_imported (title : Str) :
    (imported T L wb).oem.lookup title
      = ((wb.filter (IsTable T L ·)).reverse.find? fun ws => ws.title = title).map
          fun ws => (codes T L ws).sorted := by
  rw [imported, Dict.lookup_mapValues, Dict.lookup_sorted, filled, oem_withSheets,
    Dict.lookup_inserts, AList.lookup_empty, Option.or_none, ← List.map_reverse]
  induction (wb.filter (IsTable T L ·)).reverse with
  | nil => rfl
  | cons ws sheets ih =>
    rw [List.map_cons, List.lookup_cons, List.find?_cons]
    by_cases htitle : ws.title = title
    · rw [decide_eq_true htitle, beq_iff_eq.mpr htitle.symm]
      rfl
    · rw [decide_eq_false htitle, beq_false_of_ne fun h => htitle h.symm]
      exact ih

theorem mem_imported (title : Str) :
    title ∈ (imported T L wb).oem ↔ (table T L wb title).isSome = true := by
  rw [← AList.lookup_isSome, oem_imported, table, Option.isSome_map, Option.isSome_map]

theorem ofSheet_imported (code title : Str) :
    DtcLibrary.ofSheet (imported T L wb) code title = ofTable T L wb code title := by
  rw [DtcLibrary.ofSheet, ofTable, oem_imported, table]
  cases ((wb.filter (IsTable T L ·)).reverse.find? fun ws => ws.title = title) with
  | none => rfl
  | some ws =>
    have hsays := (Dict.lookup_sorted (codes T L ws) code).trans (lookup_codes T L ws code)
    rw [Option.map_some, Option.getD_some, hsays]
    rfl

/-- A make has a table of its own, or that of its maker, or none. -/
theorem resolveMake_imported (make : Option Str) :
    DtcLibrary.resolveMake T L (imported T L wb) make = titleOf T L wb make := by
  cases make with
  | none => rfl
  | some make =>
    rw [DtcLibrary.resolveMake, titleOf]
    simp only [mem_imported]

theorem lookup_search (code : Str) (make : Option Str) :
    DtcLibrary.lookup T L (imported T L wb) code make = search T L wb code make := by
  have hsheet := funext (ofSheet_imported T L wb (T.upper (T.strip code)))
  rw [DtcLibrary.lookup, search, resolveMake_imported, hsheet, generic_imported]

/-- **A lookup in the imported library is a search of the workbook.** -/
theorem lookup_imported (code : Str) (make : Option Str) :
    (main T L wb).map (fun db => DtcLibrary.lookup T L db code make)
      = if ∀ ws ∈ wb, LegibleSheet T L ws then some (search T L wb code make) else none := by
  rw [main_eq]
  by_cases hall : ∀ ws ∈ wb, LegibleSheet T L ws
  · rw [if_pos hall, if_pos hall, Option.map_some, lookup_search]
  · rw [if_neg hall, if_neg hall, Option.map_none]

/-- Every code comes back with what the workbook says of it. -/
theorem describeDtcs_imported (dtcs : List Str) (make : Option Str) :
    DtcLibrary.describeDtcs T L (imported T L wb) dtcs make
      = dtcs.map fun code =>
          ⟨code,
            ((search T L wb code make).map (·.entry.definition)).getD
              "Manufacturer-specific or undocumented".toList,
            (search T L wb code make).map (·.entry.category)⟩ := by
  refine List.map_congr_left fun code _ => ?_
  rw [DtcLibrary.describe, DtcLibrary.category, lookup_search]
  cases search T L wb code make <;> rfl

end AutoDiag.Proof.Workbook
