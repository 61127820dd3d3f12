import AutoDiag.Lib.Raise
import AutoDiag.Obd.LiveData
import AutoDiag.Proof.AdapterBlock

/-!
# The adapter's text of live data, searched for a pattern

A pattern that finds an answer in its own message has an occurrence at the start
of the first message that is wanted. The leftmost occurrence of the whole text is
that one or a stray one before it (`search_liveText`): at an odd digit, in a
header, in the padding, or in the answer to another PID.
-/

namespace AutoDiag.Proof

open LiveData Pattern
open Elm327 (splitLines lineFrame)

/-! ## The adapter's text -/

/-- One ECU's answer to a PID, in one frame: its id, the PID, the data and the padding. -/
structure LiveReply where
  id : Nat
  pid : UInt8
  data : Bytes
  filler : Bytes
  id_lt : id < 4096
  fits : data.length + filler.length ≤ 5

namespace LiveReply

def message (r : LiveReply) : Bytes := 0x41 :: r.pid :: r.data

def response (r : LiveReply) : EcuResponse := ⟨r.id, r.message⟩

/-- The id and the length of the message. -/
def header (r : LiveReply) : Str :=
  Hex.ofNat3 r.id ++ Hex.ofByte (UInt8.ofNat r.message.length)

def body (r : LiveReply) : Str := Hex.ofBytes (r.message ++ r.filler)

/-- The frame: the length, the message and the padding. -/
def frame (r : LiveReply) : Bytes := UInt8.ofNat r.message.length :: (r.message ++ r.filler)

end LiveReply

/-- A line for each reply, a blank line and the prompt. -/
def liveText : List LiveReply → Str
  | [] => ['\r', '>']
  | r :: rs => r.header ++ (r.body ++ '\r' :: liveText rs)

/-- Digits are in upper case already. -/
theorem upper_hex {s : Str} (h : ∀ c ∈ s, c ∈ Hex.digits) : Py.upper s = s := by
  have hdigits : ∀ c ∈ Hex.digits, c.toUpper = c := fun c hc =>
    of_decide_eq_true (List.all_eq_true.mp
      (show (Hex.digits.all fun c => decide (c.toUpper = c)) = true from rfl) c hc)
  exact (List.map_congr_left fun c hc => hdigits c (h c hc)).trans (List.map_id s)

/-- A line for each frame, and then nothing but the prompt. -/
theorem liveText_prints (rs : List LiveReply) :
    Prints (rs.map (fun r => .frame r.id r.frame) ++ [.noise, .noise]) (liveText rs) := by
  induction rs with
  | nil =>
    -- two lines without a frame: a blank one and the prompt
    exact ⟨[[], ['>']],
      .cons (.inl fun c hc => absurd hc List.not_mem_nil) (.cons (.inr ⟨'>', by decide⟩) .nil),
      .line rfl rfl (.ending rfl)⟩
  | cons r rs ih =>
    obtain ⟨texts, hshow, hjoin⟩ := ih
    have hhex : ∀ c ∈ r.header ++ r.body, c ∈ Hex.digits := by
      intro c hc
      rcases List.mem_append.mp hc with hc | hc
      · rcases List.mem_append.mp hc with hc | hc
        · exact Hex.ofNat3_mem hc
        · exact Hex.ofByte_mem hc
      · exact Hex.ofBytes_mem hc
    have hline : Line.Shows (.frame r.id r.frame) (r.header ++ r.body) := by
      show Py.upper _ = _
      rw [upper_hex hhex, LiveReply.header, List.append_assoc]
      rfl
    have hends : ∀ c ∈ Hex.digits, lineEnd c = false := fun c hc =>
      of_decide_eq_true (List.all_eq_true.mp
        (show (Hex.digits.all fun c => decide (lineEnd c = false)) = true from rfl) c hc)
    refine ⟨_, .cons hline hshow, ?_⟩
    have hjoined : Lines.Joined lineEnd ((r.header ++ r.body) :: texts)
        ((r.header ++ r.body) ++ '\r' :: liveText rs) :=
      .cons (fun c hc => hends c (hhex c hc)) rfl hjoin
    rwa [List.append_assoc] at hjoined

/-- **The adapter's parser reads every reply of the text, as the frame it came in.** -/
theorem lineFrame_liveText (rs : List LiveReply) :
    (splitLines (liveText rs)).filterMap lineFrame = rs.map fun r => (r.id, r.frame) := by
  have hframes : (rs.map (fun r : LiveReply => Line.frame r.id r.frame)
      ++ [Line.noise, Line.noise]).filterMap Line.toFrame = rs.map fun r => (r.id, r.frame) := by
    rw [List.filterMap_append, List.filterMap_map, ← List.filterMap_eq_map]
    exact List.append_nil _
  rw [frames_of_prints (liveText_prints rs), hframes]
  rw [hframes]
  intro x hx
  obtain ⟨r, _, rfl⟩ := List.mem_map.mp hx
  exact ⟨r.id_lt, List.cons_ne_nil _ _⟩

/-- The text up to the message of the first reply that is wanted, and from there on. -/
def parted (wanted : LiveReply → Bool) : List LiveReply → Str × Str
  | [] => (['\r', '>'], [])
  | r :: rs =>
    if wanted r then (r.header, r.body ++ '\r' :: liveText rs)
    else (r.header ++ (r.body ++ '\r' :: (parted wanted rs).1), (parted wanted rs).2)

theorem parted_append (wanted : LiveReply → Bool) (rs : List LiveReply) :
    (parted wanted rs).1 ++ (parted wanted rs).2 = liveText rs := by
  induction rs with
  | nil => rfl
  | cons r rs ih =>
    rw [parted, liveText]
    split
    · rfl
    · rw [← ih]
      simp

/-- What the leftmost occurrence keeps that begins before the first wanted message. -/
def stray (pattern : List (Item Char)) (wanted : LiveReply → Bool) (rs : List LiveReply) :
    Option Str :=
  searchBefore pattern (parted wanted rs).1 (parted wanted rs).2

/-- A pattern that finds in a wanted message its first `n` bytes of data. -/
structure Finds (pattern : List (Item Char)) (wanted : LiveReply → Bool) (n : Nat) : Prop where
  nil : matchHere pattern [] = none
  body : ∀ r s, wanted r = true →
    matchHere pattern (r.body ++ s) = some (Hex.ofBytes (r.data.take n))

theorem search_parted {pattern : List (Item Char)} {wanted : LiveReply → Bool} {n : Nat}
    (h : Finds pattern wanted n) (rs : List LiveReply) :
    search pattern (parted wanted rs).2
      = (rs.find? wanted).map fun r => Hex.ofBytes (r.data.take n) := by
  induction rs with
  | nil => exact h.nil
  | cons r rs ih =>
    rw [parted, List.find?_cons]
    cases hw : wanted r with
    | true => exact search_of_matchHere (h.body r _ hw)
    | false => exact ih

/-- **A stray occurrence is found first, and without one the first wanted message.** -/
theorem search_liveText {pattern : List (Item Char)} {wanted : LiveReply → Bool} {n : Nat}
    (h : Finds pattern wanted n) (rs : List LiveReply) :
    search pattern (liveText rs) = (stray pattern wanted rs).or
      ((rs.find? wanted).map fun r => Hex.ofBytes (r.data.take n)) := by
  rw [← parted_append wanted rs, search_append, search_parted h, stray]

/-! ## Occurrences in a message -/

theorem isSpace_digit {n : Nat} (h : n < 16) : Py.isSpace (Hex.digit n) = false :=
  Py.isSpace_of_isDigit (Hex.value_of_mem_digits (Hex.digit_mem h))

theorem matchHere_hexDigit {n : Nat} (h : n < 16) (keep : Bool) (items : List (Item Char))
    (s : Str) : matchHere (hexDigit keep :: items) (Hex.digit n :: s)
      = (matchHere items s).map fun kept => if keep then Hex.digit n :: kept else kept :=
  matchHere_one (p := fun c => (Hex.value c).isSome) (Hex.value_of_mem_digits (Hex.digit_mem h))
    keep items s

theorem matchHere_lit (c : Char) (items : List (Item Char)) (s : Str) :
    matchHere (lit c :: items) (c :: s) = matchHere items s := by
  rw [lit, matchHere_one (p := (· == c)) (beq_self_eq_true c)]
  simp

/-- A group of digits keeps all it matches. -/
theorem matchHere_digits {n : Nat} {data : Bytes} (h : n ≤ data.length) (s : Str) :
    matchHere (List.replicate (2 * n) (hexDigit true)) (Hex.ofBytes data ++ s)
      = some (Hex.ofBytes (data.take n)) := by
  induction n generalizing data with
  | zero => rfl
  | succ n ih =>
    obtain ⟨b, data, rfl⟩ := List.exists_cons_of_length_pos (Nat.lt_of_lt_of_le n.succ_pos h)
    have hb := b.toNat_lt
    rw [List.length_cons] at h
    rw [Hex.ofBytes_cons, List.cons_append, List.cons_append, Nat.mul_succ, List.replicate_succ,
      List.replicate_succ, matchHere_hexDigit (by omega), matchHere_hexDigit (by omega),
      ih (by omega)]
    rfl

theorem matchHere_groups {n : Nat} {data : Bytes} (h : n ≤ data.length) (s : Str) :
    matchHere (groups n) (Hex.ofBytes data ++ s) = some (Hex.ofBytes (data.take n)) := by
  induction n generalizing data with
  | zero => rfl
  | succ n ih =>
    match data, h with
    | b :: data, h =>
      have hb := b.toNat_lt
      rw [List.length_cons] at h
      rw [groups, Hex.ofBytes_cons, List.cons_append, List.cons_append, blank,
        matchHere_maybe (isSpace_digit (by omega)), matchHere_hexDigit (by omega),
        matchHere_hexDigit (by omega), ih (by omega)]
      rfl

theorem body_append (r : LiveReply) (s : Str) : r.body ++ s = '4' :: '1' ::
    Hex.digit (r.pid.toNat / 16) :: Hex.digit (r.pid.toNat % 16)
      :: (Hex.ofBytes r.data ++ (Hex.ofBytes r.filler ++ s)) := by
  simp [LiveReply.body, LiveReply.message, Hex.ofBytes, Hex.ofByte, Hex.digit, Hex.digits]

/-- The answer to a PID, found in its own message. -/
theorem matchHere_answer {p q : Char → Bool} {r : LiveReply} {n : Nat} (hn : n ≤ r.data.length)
    (hp : p (Hex.digit (r.pid.toNat / 16)) = true) (hq : q (Hex.digit (r.pid.toNat % 16)) = true)
    (s : Str) :
    matchHere (answer (.one p false) (.one q false) n) (r.body ++ s)
      = some (Hex.ofBytes (r.data.take n)) := by
  have hpid := r.pid.toNat_lt
  rw [answer, body_append, matchHere_lit, matchHere_lit, blank,
    matchHere_maybe (isSpace_digit (by omega)), matchHere_one hp, matchHere_one hq,
    matchHere_groups hn]
  rfl

/-- The groups keep their digits, two of each, and nothing else. -/
theorem classes_groups (n : Nat) :
    classes (groups n) = List.replicate (2 * n) fun c => (Hex.value c).isSome := by
  induction n with
  | zero => rfl
  | succ n ih => exact congrArg (fun ps => _ :: _ :: ps) ih

/-! ## Digits and bytes -/

/-- The text is made of that many digits. -/
def Digits (n : Nat) (s : Str) : Prop := s.length = n ∧ ∀ c ∈ s, (Hex.value c).isSome = true

theorem toNat_ofByte (b : UInt8) : Hex.toNat (Hex.ofByte b) = b.toNat := by
  have hb := b.toNat_lt
  simp only [Hex.toNat, Hex.ofByte, List.foldl_cons, List.foldl_nil,
    Hex.value_digit (show b.toNat / 16 < 16 by omega),
    Hex.value_digit (show b.toNat % 16 < 16 by omega), Option.getD_some]
  omega

/-- The digits of bytes write the number that the bytes make. -/
theorem toNat_ofBytes (data : Bytes) : Hex.toNat (Hex.ofBytes data) = Py.ofBytesBig data := by
  have hfold : ∀ (data : Bytes) (acc : Nat),
      (Hex.ofBytes data).foldl (fun n c => 16 * n + (Hex.value c).getD 0) acc
        = data.foldl (fun n b => 256 * n + b.toNat) acc := by
    intro data
    induction data with
    | nil => exact fun _ => rfl
    | cons b data ih =>
      intro acc
      have hb := b.toNat_lt
      rw [Hex.ofBytes_cons, List.foldl_cons, List.foldl_cons, List.foldl_cons,
        Hex.value_digit (by omega), Hex.value_digit (by omega), Option.getD_some, Option.getD_some,
        ih]
      congr 1
      omega
  exact hfold data 0

theorem ofBytesBig_take_lt (data : Bytes) (n : Nat) : Py.ofBytesBig (data.take n) < 256 ^ n := by
  refine Nat.lt_of_lt_of_le (Py.ofBytesBig_lt _) (Nat.pow_le_pow_right (by decide) ?_)
  rw [List.length_take]
  exact Nat.min_le_left _ _

theorem digits_ofBytes {data : Bytes} {n : Nat} (h : n ≤ data.length) :
    Digits (2 * n) (Hex.ofBytes (data.take n)) :=
  ⟨by rw [Hex.ofBytes_length, List.length_take, Nat.min_eq_left h],
    fun _ hc => Hex.value_of_mem_digits (Hex.ofBytes_mem hc)⟩

/-- So many digits write a number of half as many bytes. -/
theorem Digits.toNat_lt {n : Nat} {s : Str} (h : Digits (2 * n) s) : Hex.toNat s < 256 ^ n := by
  have hlt := Hex.toNat_lt s
  rwa [h.1, Nat.pow_mul, show 16 ^ 2 = 256 from rfl] at hlt

theorem Digits.intOfHex {n : Nat} {s : Str} (h : Digits (n + 1) s) :
    Py.intOfHex s = .ok (Hex.toNat s : Int) := by
  have hne : s ≠ [] := List.ne_nil_of_length_eq_add_one h.1
  rw [Py.intOfHex, Py.intBase16_digits h.2 hne]

/-- One group of two digits. -/
theorem group_first {digits : Str} (h : Digits 2 digits) :
    group digits 0 = .ok (Hex.toNat digits : Int) := by
  rw [group, show Py.slice digits (2 * 0) (2 * 0 + 2) = digits from
    List.take_of_length_le (Nat.le_of_eq h.1), h.intOfHex]

/-- Two groups of two digits. -/
theorem wordOf_digits {digits : Str} (h : Digits 4 digits) :
    wordOf digits = .ok (Hex.toNat digits : Int) := by
  obtain ⟨hlen, hhex⟩ := h
  obtain ⟨s, t, rfl, hs⟩ : ∃ s t, digits = s ++ t ∧ s.length = 2 :=
    ⟨_, _, (List.take_append_drop 2 digits).symm, by rw [List.length_take]; omega⟩
  have ht : t.length = 2 := by
    rw [List.length_append] at hlen
    omega
  have hfirst : group (s ++ t) 0 = .ok (Hex.toNat s : Int) := by
    rw [group, show Py.slice (s ++ t) (2 * 0) (2 * 0 + 2) = s from
      List.take_left' hs]
    exact Digits.intOfHex ⟨hs, fun c hc => hhex c (List.mem_append_left _ hc)⟩
  have hsecond : group (s ++ t) 1 = .ok (Hex.toNat t : Int) := by
    rw [group, show Py.slice (s ++ t) (2 * 1) (2 * 1 + 2) = t by
      rw [Py.slice, List.take_of_length_le (by rw [hlen]), List.drop_left' hs]]
    exact Digits.intOfHex ⟨ht, fun c hc => hhex c (List.mem_append_right _ hc)⟩
  rw [wordOf, hfirst, hsecond, Hex.toNat_append, ht]
  push_cast
  rfl

end AutoDiag.Proof
