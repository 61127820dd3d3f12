import AutoDiag.Lib.Word
import AutoDiag.Security.VolkswagenSA2

/-!
# Structured programs on the SA2 machine

`Program` is what a tape's author means: rotations, arithmetic on constants,
sequences, counted loops and blocks that depend on the carry. `eval` gives it its
meaning by recursion on its structure and `encode` writes it to a tape. The
machine knows no structure, but from the start of an encoded program it reaches
its end with the meaning in the register and the stacks as they were
(`encode_runs`), wherever on a tape it stands and whatever loops are open.
-/

namespace AutoDiag.Proof

open VolkswagenSA2

/-- A structured program. -/
inductive Program where
  | skip
  | rotateLeft
  | rotateRight
  | add (c : UInt32)
  | subtract (c : UInt32)
  | exclusiveOr (c : UInt32)
  | seq (p q : Program)
  | loop (count : UInt8) (body : Program)
  | ifCarry (block : Program)

structure Value where
  register : UInt32
  carry : Bool

namespace Program

/-- The tape of a program. -/
def encode : Program → Bytes
  | skip => []
  | rotateLeft => [0x81]
  | rotateRight => [0x82]
  | add c => 0x93 :: Word.toBytes c
  | subtract c => 0x84 :: Word.toBytes c
  | exclusiveOr c => 0x87 :: Word.toBytes c
  | seq p q => p.encode ++ q.encode
  | loop count body => 0x68 :: count :: (body.encode ++ [0x49])
  | ifCarry block => 0x4A :: UInt8.ofNat block.encode.length :: block.encode

/-- Loops run at least once, and blocks are short enough for their length byte. -/
def Fits : Program → Prop
  | seq p q => p.Fits ∧ q.Fits
  | loop count body => 1 ≤ count.toNat ∧ body.Fits
  | ifCarry block => block.encode.length ≤ 255 ∧ block.Fits
  | _ => True

/-- The meaning of a program. -/
def eval : Program → Value → Value
  | skip, v => v
  | rotateLeft, v => ⟨Word.rotateLeft1 v.register, Word.topBit v.register⟩
  | rotateRight, v => ⟨Word.rotateRight1 v.register, Word.lowBit v.register⟩
  | add c, v => ⟨v.register + c, decide (2 ^ 32 ≤ v.register.toNat + c.toNat)⟩
  | subtract c, v => ⟨v.register - c, false⟩
  | exclusiveOr c, v => ⟨v.register ^^^ c, v.carry⟩
  | seq p q, v => q.eval (p.eval v)
  | loop count body, v => body.eval^[count.toNat] v
  | ifCarry block, v => if v.carry then block.eval v else v

end Program

/-- The machine's register and carry flag hold a value. -/
structure Holds (s : State) (v : Value) : Prop where
  register : s.register = v.register
  carry : 0 < s.carryFlag ↔ v.carry = true

/-- `s'` is `s` moved on to an address, with the stacks as they were and a value in hand. -/
structure Arrives (s s' : State) (address : Nat) (v : Value) : Prop where
  address : s'.instructionPointer = address
  pointers : s'.forPointers = s.forPointers
  iterations : s'.forIterations = s.forIterations
  holds : Holds s' v

/-! ## One instruction -/

/-- A turn is what is dispatched of its opcode. -/
theorem step_of_dispatch {tape : Bytes} {s : State} {opcode : UInt8}
    (hop : tape[s.instructionPointer]? = some opcode) :
    (∀ s', dispatch tape s opcode = .ok s' → step tape s = .inl s')
      ∧ ∀ e, dispatch tape s opcode = .error e → step tape s = .inr (.error e) := by
  constructor
  · intro s' h
    unfold step
    rw [hop]
    dsimp only
    rw [h]
  · intro e h
    unfold step
    rw [hop]
    dsimp only
    rw [h]

theorem dispatch_of_lookup {tape : Bytes} {s : State} {opcode : UInt8} {instruction : Instruction}
    (h : instructionSet.lookup opcode = some instruction) :
    dispatch tape s opcode = perform tape s instruction := by
  unfold dispatch
  rw [h]

/-- A step at the opcode is the instruction that it stands for. -/
theorem step_of_perform {pre rest : Bytes} {opcode : UInt8} {instruction : Instruction}
    {s s' : State} (hip : s.instructionPointer = pre.length)
    (hins : instructionSet.lookup opcode = some instruction)
    (h : perform (pre ++ opcode :: rest) s instruction = .ok s') :
    step (pre ++ opcode :: rest) s = .inl s' := by
  have hop : (pre ++ opcode :: rest)[s.instructionPointer]? = some opcode := by
    rw [hip]
    simp
  exact (step_of_dispatch hop).1 s' ((dispatch_of_lookup hins).trans h)

/-- The operand is the word behind the opcode. -/
theorem fetchOperand_at {pre rest : Bytes} {opcode : UInt8} {s : State}
    (hip : s.instructionPointer = pre.length) (c : UInt32) :
    fetchOperand (pre ++ opcode :: (Word.toBytes c ++ rest)) s = .ok c := by
  have hslice : Py.slice (pre ++ opcode :: (Word.toBytes c ++ rest)) (s.instructionPointer + 1)
      (s.instructionPointer + 1 + 4) = Word.toBytes c := by
    rw [hip, Py.slice, show pre ++ opcode :: (Word.toBytes c ++ rest)
      = (pre ++ [opcode]) ++ (Word.toBytes c ++ rest) by simp,
      show pre.length + 1 = (pre ++ [opcode]).length by simp,
      show 4 = (Word.toBytes c).length from rfl, List.take_length_add_append,
      List.drop_left' rfl, List.take_left' rfl]
  unfold fetchOperand
  dsimp only
  rw [hslice]
  exact congrArg Except.ok (Word.ofBytes_toBytes c)

theorem fetchOperandByte_at {pre rest : Bytes} {opcode b : UInt8} {s : State}
    (hip : s.instructionPointer = pre.length) :
    fetchOperandByte (pre ++ opcode :: b :: rest) s = .ok b := by
  unfold fetchOperandByte Py.index
  rw [hip]
  simp

/-- The carry flag of a shift is the bit that goes out. -/
theorem carry_shiftLeft (s : State) :
    0 < (s.register &&& 0x80000000).toNat ↔ Word.topBit s.register = true := by
  rw [Word.and_topBit]
  cases Word.topBit s.register <;> decide

theorem carry_shiftRight (s : State) :
    0 < (s.register &&& 1).toNat ↔ Word.lowBit s.register = true := by
  rw [Word.and_lowBit]
  cases Word.lowBit s.register <;> decide

/-- A shift whose carry comes in again is a rotation. -/
theorem registerShiftLeft_register (s : State) :
    (registerShiftLeft s).register = Word.rotateLeft1 s.register := by
  rw [← Word.shiftLeft_topBit]
  exact if_congr (carry_shiftLeft s) rfl rfl

theorem registerShiftRight_register (s : State) :
    (registerShiftRight s).register = Word.rotateRight1 s.register := by
  rw [← Word.shiftRight_lowBit]
  exact if_congr (carry_shiftRight s) rfl rfl

theorem arrives_shiftLeft {s : State} {v : Value} (h : Holds s v) :
    Arrives s (registerShiftLeft s) (s.instructionPointer + 1) (Program.rotateLeft.eval v) where
  address := rfl
  pointers := rfl
  iterations := rfl
  holds := by
    refine ⟨by rw [registerShiftLeft_register, h.register]; rfl, ?_⟩
    show _ ↔ Word.topBit v.register = true
    rw [← h.register]
    exact carry_shiftLeft s

theorem arrives_shiftRight {s : State} {v : Value} (h : Holds s v) :
    Arrives s (registerShiftRight s) (s.instructionPointer + 1) (Program.rotateRight.eval v) where
  address := rfl
  pointers := rfl
  iterations := rfl
  holds := by
    refine ⟨by rw [registerShiftRight_register, h.register]; rfl, ?_⟩
    show _ ↔ Word.lowBit v.register = true
    rw [← h.register]
    exact carry_shiftRight s

/-- A result is stored modulo the word size, and a carry is noted beyond it. -/
theorem storeResult_register (s : State) (x : Int) (y : UInt32)
    (h : x % 0x100000000 = y.toNat) : (storeResult s x).register = y := by
  show UInt32.ofNat (x % 0x100000000).toNat = y
  rw [h, Int.toNat_natCast, UInt32.ofNat_toNat]

/-- The sum is cut to a word, and the bit above it is the carry. -/
theorem arrives_add {s : State} {v : Value} (h : Holds s v) (c : UInt32) :
    Arrives s (storeResult s ((s.register.toNat : Int) + c.toNat)) (s.instructionPointer + 5)
      ((Program.add c).eval v) where
  address := rfl
  pointers := rfl
  iterations := rfl
  holds := by
    rw [h.register]
    refine ⟨storeResult_register s _ _ ?_, ?_⟩
    · show _ = ((v.register + c).toNat : Int)
      rw [UInt32.toNat_add]
      omega
    · show 0 < (if (0xFFFFFFFF : Int) < v.register.toNat + c.toNat then 1 else 0)
        ↔ decide (2 ^ 32 ≤ v.register.toNat + c.toNat) = true
      rw [decide_eq_true_iff]
      split <;> omega

/-- A difference below zero wraps, and sets the carry. -/
theorem arrives_subtract {s : State} {v : Value} (h : Holds s v) (c : UInt32) :
    Arrives s (storeResult s ((s.register.toNat : Int) - c.toNat)) (s.instructionPointer + 5)
      ((Program.subtract c).eval v) where
  address := rfl
  pointers := rfl
  iterations := rfl
  holds := by
    have hv := v.register.toNat_lt
    have hc := c.toNat_lt
    rw [h.register]
    refine ⟨storeResult_register s _ _ ?_, ?_⟩
    · show _ = ((v.register - c).toNat : Int)
      rw [UInt32.toNat_sub]
      omega
    · -- the difference of two words never exceeds a word
      show 0 < (if (0xFFFFFFFF : Int) < v.register.toNat - c.toNat then 1 else 0) ↔ false = true
      rw [if_neg (by omega)]
      simp

/-! ## Programs -/

theorem Arrives.trans {s s' s'' : State} {a a' : Nat} {v v' : Value} (h : Arrives s s' a v)
    (h' : Arrives s' s'' a' v') : Arrives s s'' a' v' :=
  ⟨h'.address, h'.pointers.trans h.pointers, h'.iterations.trans h.iterations, h'.holds⟩

/-- The end of a loop with iterations left: back to its start, with one fewer. -/
theorem loopNext_again {s : State} {n : Nat} {is : List Int} {start : Nat} {ps : List Nat}
    (hi : s.forIterations = ((n + 1 : Nat) : Int) :: is) (hp : s.forPointers = start :: ps) :
    loopNext s = .ok { s with
      forIterations := (n : Int) :: is
      instructionPointer := start } := by
  unfold loopNext
  rw [hi, hp]
  dsimp only
  rw [if_pos (by omega), show ((n + 1 : Nat) : Int) - 1 = n by omega]

/-- The end of a loop with none left: out of it. -/
theorem loopNext_leave {s : State} {is : List Int} {start : Nat} {ps : List Nat}
    (hi : s.forIterations = 0 :: is) (hp : s.forPointers = start :: ps) :
    loopNext s = .ok { s with
      forIterations := is
      forPointers := ps
      instructionPointer := s.instructionPointer + 1 } := by
  unfold loopNext
  rw [hi, hp]
  rfl

/-- **A loop with `n` iterations left runs its body `n + 1` times.** -/
theorem loop_turns {tape : Bytes} {start : Nat} {f : Value → Value} {pre post : Bytes}
    (htape : tape = pre ++ 0x49 :: post)
    (hbody : ∀ (s : State) (v : Value), s.instructionPointer = start → Holds s v →
      ∃ s', Machine.Reaches (step tape) s s' ∧ Arrives s s' pre.length (f v)) :
    ∀ (n : Nat) (s : State) (v : Value) (is : List Int) (ps : List Nat),
      s.instructionPointer = start → s.forIterations = (n : Int) :: is →
      s.forPointers = start :: ps → Holds s v →
      ∃ s', Machine.Reaches (step tape) s s' ∧ s'.instructionPointer = pre.length + 1
        ∧ s'.forPointers = ps ∧ s'.forIterations = is ∧ Holds s' (f^[n + 1] v) := by
  intro n
  -- on the iterations left; the stacks below the loop and the value vary
  induction n with
  | zero =>
    intro s v is ps hip hi hp hv
    obtain ⟨s₁, hreach, harr⟩ := hbody s v hip hv
    have hnext := loopNext_leave (harr.iterations.trans hi) (harr.pointers.trans hp)
    subst htape
    refine ⟨_, hreach.trans (.one (step_of_perform harr.address rfl hnext)), ?_, rfl, rfl, ?_⟩
    · rw [harr.address]
    · exact ⟨harr.holds.register, harr.holds.carry⟩
  | succ n ih =>
    intro s v is ps hip hi hp hv
    obtain ⟨s₁, hreach, harr⟩ := hbody s v hip hv
    have hnext := loopNext_again (harr.iterations.trans hi) (harr.pointers.trans hp)
    obtain ⟨s₂, hreach', hend⟩ := ih { s₁ with
        forIterations := (n : Int) :: is
        instructionPointer := start } (f v) is ps rfl rfl (harr.pointers.trans hp)
      ⟨harr.holds.register, harr.holds.carry⟩
    have hone : Machine.Reaches (step tape) s₁ _ := .one (by
      rw [htape]
      exact step_of_perform harr.address rfl hnext)
    exact ⟨s₂, hreach.trans (hone.trans hreach'), hend⟩

/--
The machine realizes a program: from its start on any tape, with any loops open, it
reaches the program's end with its meaning in the register and the carry flag and
the two stacks as they were.
-/
def Program.Realized (p : Program) : Prop :=
  ∀ (pre post : Bytes) (s : State) (v : Value), s.instructionPointer = pre.length → Holds s v →
    ∃ s', Machine.Reaches (step (pre ++ (p.encode ++ post))) s s'
      ∧ Arrives s s' (pre.length + p.encode.length) (p.eval v)

theorem realized_of_perform {p : Program} {opcode : UInt8} {operand : Bytes}
    {instruction : Instruction} {next : State → State} (hencode : p.encode = opcode :: operand)
    (hins : instructionSet.lookup opcode = some instruction)
    (hperform : ∀ (pre post : Bytes) (s : State), s.instructionPointer = pre.length →
      perform (pre ++ opcode :: (operand ++ post)) s instruction = .ok (next s))
    (harrives : ∀ (s : State) (v : Value), Holds s v →
      Arrives s (next s) (s.instructionPointer + (operand.length + 1)) (p.eval v)) :
    p.Realized := by
  intro pre post s v hip hv
  rw [hencode, List.cons_append, List.length_cons, ← hip]
  exact ⟨next s, .one (step_of_perform hip hins (hperform pre post s hip)), harrives s v hv⟩

/-- No bytes and no step. -/
theorem realized_skip : Program.skip.Realized := by
  intro pre post s v hip hv
  exact ⟨s, .refl s, hip, rfl, rfl, hv⟩

theorem realized_rotateLeft : Program.rotateLeft.Realized :=
  @realized_of_perform _ 0x81 [] .registerShiftLeft registerShiftLeft rfl rfl
    (fun _ _ _ _ => rfl) (fun _ _ hv => arrives_shiftLeft hv)

theorem realized_rotateRight : Program.rotateRight.Realized :=
  @realized_of_perform _ 0x82 [] .registerShiftRight registerShiftRight rfl rfl
    (fun _ _ _ _ => rfl) (fun _ _ hv => arrives_shiftRight hv)

theorem realized_add (c : UInt32) : (Program.add c).Realized := by
  refine @realized_of_perform _ 0x93 (Word.toBytes c) .add
    (fun s => storeResult s ((s.register.toNat : Int) + c.toNat)) rfl rfl ?_
    (fun _ _ hv => arrives_add hv c)
  intro pre post s hip
  rw [perform, add, fetchOperand_at hip c]
  rfl

theorem realized_subtract (c : UInt32) : (Program.subtract c).Realized := by
  refine @realized_of_perform _ 0x84 (Word.toBytes c) .subtract
    (fun s => storeResult s ((s.register.toNat : Int) - c.toNat)) rfl rfl ?_
    (fun _ _ hv => arrives_subtract hv c)
  intro pre post s hip
  rw [perform, subtract, fetchOperand_at hip c]
  rfl

theorem realized_exclusiveOr (c : UInt32) : (Program.exclusiveOr c).Realized := by
  refine @realized_of_perform _ 0x87 (Word.toBytes c) .exclusiveOr
    (fun s => { s with
      register := s.register ^^^ c
      instructionPointer := s.instructionPointer + 5 }) rfl rfl ?_ ?_
  · intro pre post s hip
    rw [perform, exclusiveOr, fetchOperand_at hip c]
    rfl
  · intro s v hv
    refine ⟨rfl, rfl, rfl, ?_, hv.carry⟩
    show s.register ^^^ c = v.register ^^^ c
    rw [hv.register]

/-- The second program starts where the first one ends. -/
theorem realized_seq {p q : Program} (hp : p.Realized) (hq : q.Realized) :
    (Program.seq p q).Realized := by
  intro pre post s v hip hv
  obtain ⟨s₁, hreach, harr⟩ := hp pre (q.encode ++ post) s v hip hv
  obtain ⟨s₂, hreach', harr'⟩ := hq (pre ++ p.encode) post s₁ (p.eval v)
    (by rw [harr.address, List.length_append]) harr.holds
  -- the second part stands behind the first, on the same tape
  have htape : pre ++ p.encode ++ (q.encode ++ post) = pre ++ (p.encode ++ (q.encode ++ post)) :=
    List.append_assoc ..
  rw [htape] at hreach'
  rw [Program.encode, List.append_assoc, List.length_append, ← Nat.add_assoc,
    ← List.length_append]
  exact ⟨s₂, hreach.trans hreach', harr.trans harr'⟩

theorem realized_loop {count : UInt8} {body : Program} (hcount : 1 ≤ count.toNat)
    (hb : body.Realized) : (Program.loop count body).Realized := by
  intro pre post s v hip hv
  obtain ⟨n, hn⟩ : ∃ n, count.toNat = n + 1 := ⟨count.toNat - 1, by omega⟩
  have htape : pre ++ ((Program.loop count body).encode ++ post)
      = pre ++ 0x68 :: count :: (body.encode ++ 0x49 :: post) := by
    simp [Program.encode]
  have htape' : pre ++ ((Program.loop count body).encode ++ post)
      = (pre ++ [0x68, count] ++ body.encode) ++ 0x49 :: post := by
    simp [Program.encode]
  -- into the loop, with one iteration less than the count to come
  have henter : perform (pre ++ 0x68 :: count :: (body.encode ++ 0x49 :: post)) s .loopInit
      = .ok { s with
          forIterations := (n : Int) :: s.forIterations
          instructionPointer := pre.length + 2
          forPointers := (pre.length + 2) :: s.forPointers } := by
    rw [perform, loopInit, fetchOperandByte_at hip, ← hip,
      show (n : Int) = (count.toNat : Int) - 1 by omega]
    rfl
  have hfirst : Machine.Reaches (step (pre ++ ((Program.loop count body).encode ++ post))) s _ :=
    .one (by rw [htape]; exact step_of_perform hip rfl henter)
  -- once around
  have hbody : ∀ (s : State) (v : Value), s.instructionPointer = pre.length + 2 → Holds s v →
      ∃ s', Machine.Reaches (step (pre ++ ((Program.loop count body).encode ++ post))) s s'
        ∧ Arrives s s' (pre ++ [0x68, count] ++ body.encode).length (body.eval v) := by
    intro s v hip hv
    obtain ⟨s', hreach, harr⟩ := hb (pre ++ [0x68, count]) (0x49 :: post) s v
      (by rw [hip]; simp) hv
    rw [← List.append_assoc, ← htape'] at hreach
    rw [← List.length_append] at harr
    exact ⟨s', hreach, harr⟩
  obtain ⟨s', hreach, haddr, hps, his, hholds⟩ := loop_turns htape' hbody n { s with
      forIterations := (n : Int) :: s.forIterations
      instructionPointer := pre.length + 2
      forPointers := (pre.length + 2) :: s.forPointers } v s.forIterations s.forPointers
    rfl rfl rfl ⟨hv.register, hv.carry⟩
  refine ⟨s', hfirst.trans hreach, ?_, hps, his, ?_⟩
  · rw [haddr, Program.encode]
    simp only [List.length_append, List.length_cons, List.length_nil]
    omega
  · rw [Program.eval, hn]
    exact hholds

theorem Holds.flag {s : State} {v : Value} (h : Holds s v) : s.carryFlag = 0 ↔ v.carry = false := by
  rw [← Bool.not_eq_true, ← h.carry]
  omega

theorem realized_ifCarry {block : Program} (hlen : block.encode.length ≤ 255)
    (hb : block.Realized) : (Program.ifCarry block).Realized := by
  intro pre post s v hip hv
  have hbyte : (UInt8.ofNat block.encode.length).toNat = block.encode.length := by
    rw [UInt8.toNat_ofNat']
    exact Nat.mod_eq_of_lt (by omega)
  have htest : perform (pre ++ 0x4A :: UInt8.ofNat block.encode.length
      :: (block.encode ++ post)) s .branchConditional
      = .ok { s with instructionPointer := s.instructionPointer
          + if s.carryFlag = 0 then block.encode.length + 2 else 2 } := by
    rw [perform, branchConditional, fetchOperandByte_at hip]
    show Except.ok _ = _
    rw [hbyte]
  have hbranch : Machine.Reaches (step (pre ++ ((Program.ifCarry block).encode ++ post))) s _ :=
    .one (step_of_perform hip rfl htest)
  cases hcarry : v.carry with
  | false =>
      -- over the block
      have heval : (Program.ifCarry block).eval v = v := by
        rw [Program.eval, hcarry]
        rfl
      rw [if_pos (hv.flag.mpr hcarry)] at hbranch
      rw [heval]
      refine ⟨_, hbranch, ?_, rfl, rfl, ⟨hv.register, hv.carry⟩⟩
      rw [hip, Program.encode, List.length_cons, List.length_cons]
  | true =>
      -- into it
      have hflag : ¬ s.carryFlag = 0 := fun h => by simp [hv.flag.mp h] at hcarry
      have htape : pre ++ ((Program.ifCarry block).encode ++ post)
          = (pre ++ [0x4A, UInt8.ofNat block.encode.length]) ++ (block.encode ++ post) := by
        simp [Program.encode]
      rw [if_neg hflag] at hbranch
      obtain ⟨s', hreach, harr⟩ := hb (pre ++ [0x4A, UInt8.ofNat block.encode.length]) post
        { s with instructionPointer := s.instructionPointer + 2 } v (by rw [hip]; simp)
        ⟨hv.register, hv.carry⟩
      rw [← htape] at hreach
      refine ⟨s', hbranch.trans hreach, ?_, harr.pointers, harr.iterations, ?_⟩
      · rw [harr.address, Program.encode]
        simp only [List.length_append, List.length_cons, List.length_nil]
        omega
      · rw [Program.eval, if_pos hcarry]
        exact harr.holds

/-- **From its start an encoded program reaches its end**: one case per constructor. -/
theorem encode_runs (p : Program) (hfits : p.Fits) : p.Realized := by
  induction p with
  | skip => exact realized_skip
  | rotateLeft => exact realized_rotateLeft
  | rotateRight => exact realized_rotateRight
  | add c => exact realized_add c
  | subtract c => exact realized_subtract c
  | exclusiveOr c => exact realized_exclusiveOr c
  | seq p q ihp ihq => exact realized_seq (ihp hfits.1) (ihq hfits.2)
  | loop count body ih => exact realized_loop hfits.1 (ih hfits.2)
  | ifCarry block ih => exact realized_ifCarry hfits.1 (ih hfits.2)

/-! ## Whole tapes -/

def ending (withEnd : Bool) : Bytes := if withEnd then [0x4C] else []

/-- Behind the tape the register is the key. -/
theorem step_of_end {tape : Bytes} {s : State} (h : tape.length ≤ s.instructionPointer) :
    step tape s = .inr (.ok s.register) := by
  unfold step
  rw [List.getElem?_eq_none h]

/--
**`Execute` computes the meaning of every program**, from every seed, with or
without an end instruction behind it.
-/
theorem execute_program (p : Program) (hfits : p.Fits) (withEnd : Bool) (seed : UInt32) :
    ∃ turns, execute (p.encode ++ ending withEnd) turns seed
      = some (.ok (p.eval ⟨seed, false⟩).register) := by
  obtain ⟨s, hreach, harr⟩ := encode_runs p hfits [] (ending withEnd) (init seed)
    ⟨seed, false⟩ rfl ⟨rfl, by simp [init]⟩
  have hip : s.instructionPointer = p.encode.length := by rw [harr.address, List.length_nil]; omega
  rw [← harr.holds.register]
  refine Machine.returns_iff_run.mp (hreach.returns ?_)
  cases withEnd with
  | false =>
      -- the tape ends with the program
      exact ⟨s, .refl s, step_of_end (by simp [ending, hip])⟩
  | true =>
      -- one instruction more, which changes nothing but the pointer
      have hend : step (p.encode ++ ending true) s = .inl (endExecution s) :=
        @step_of_perform p.encode [] 0x4C .endExecution s (endExecution s) hip rfl rfl
      exact ⟨endExecution s, .one hend, step_of_end (by simp [ending, endExecution, hip])⟩

/-- A loop around two instructions, then a block. -/
def sampleProgram : Program :=
  .seq (.loop 3 (.seq .rotateLeft (.add 0x10))) (.ifCarry (.exclusiveOr 0xFF))

/-- The meaning of the sample is computed. -/
theorem execute_sampleProgram :
    ∃ turns, execute (sampleProgram.encode ++ ending true) turns 0x2A
      = some (.ok (sampleProgram.eval ⟨0x2A, false⟩).register) :=
  execute_program sampleProgram ⟨⟨by decide, trivial, trivial⟩, by decide, trivial⟩ true 0x2A

end AutoDiag.Proof
