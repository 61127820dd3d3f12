import AutoDiag.Lib.Inbox
import AutoDiag.Lib.Runs
import AutoDiag.Proof.AdapterBlock
import AutoDiag.Transport.SocketCan

/-!
# Which request a reply belongs to

A hardware backend reads from a queue that the ECU fills whenever it pleases. It
never empties the queue before a request, so what an earlier exchange left there
is the first thing the next request reads. Here the queue remembers when
everything arrived; a request is attributed correctly when every payload it
returns arrived after it was sent, and that holds along every run in which each
request found nothing to mistake for its answer.
-/

namespace AutoDiag.Proof

open Py Elm327

variable {α : Type}

/-! ## The two devices over a stamped queue -/

/-- A socket whose messages wait in an inbox. -/
def inboxSocket : SocketCan.Socket (Inbox Bytes) where
  send _ := fun b => (.ok (), b.tick)
  select := fun b => (.ok (!b.await.queue.isEmpty), b.await)
  recv := fun b =>
    match b.queue with
    | [] => (.error "timed out", b)
    | (_, data) :: _ => (.ok data, b.take 1)

/-- The items up to the first that satisfies `p`, that one included. -/
def takeThrough {β : Type} (p : β → Bool) : List β → List β
  | [] => []
  | x :: xs => if p x then [x] else x :: takeThrough p xs

def prompt : UInt8 := 0x3E

/--
A serial object whose bytes wait in an inbox. A read ends with the prompt, or
with the timeout, however much has arrived by then.
-/
def inboxPort : SerialPort (Inbox UInt8) where
  write _ := fun b => (.ok (), b.tick)
  readUntil := fun b =>
    let block := takeThrough (fun x => decide (x.2 = prompt)) b.await.queue
    let b := b.await.take (min b.limit block.length)
    (.ok (b.received.map Prod.snd), b)

/-! ## Runs -/

/-- What happens to a backend; a call comes with what its environment does meanwhile. -/
inductive Op (α : Type) where
  | arrive (xs : List α)
  | request (payload : Bytes) (functional : Bool) (during : List α) (limit : Nat)
  | receive (during : List α) (limit : Nat)

def callRequest (t : Transport (Option (Inbox α))) (b : Inbox α) (payload : Bytes)
    (functional : Bool) (during : List α) (limit : Nat) :
    Except Exn (List EcuResponse) × Option (Inbox α) :=
  t.request payload functional (some (b.expect during limit))

def step (t : Transport (Option (Inbox α))) (b : Inbox α) : Op α → Inbox α
  | .arrive xs => b.arrive xs
  | .request payload functional during limit =>
    (callRequest t b payload functional during limit).2.getD b
  | .receive during limit => (t.receive (some (b.expect during limit))).2.getD b

/--
Every payload a request returns arrived after it was sent: `fresh t r received`
says it of a response `r` made from what was received and a request sent at `t`.
-/
def Attributed (fresh : Nat → EcuResponse → List (Nat × α) → Prop)
    (t : Transport (Option (Inbox α))) (b : Inbox α) : Op α → Prop
  | .request payload functional during limit =>
    ∀ rs b', callRequest t b payload functional during limit = (.ok rs, some b') →
      ∀ r ∈ rs, fresh b.clock r b'.received
  | _ => True

/-- A condition on the state in which a request is made. -/
def AtRequest (clear : Inbox α → Prop) (b : Inbox α) : Op α → Prop
  | .request _ _ _ _ => clear b
  | _ => True

/-! ## SocketCAN -/

/-- The response is the one message that was read, which arrived at `sentAt` or later. -/
def FreshMessage (sentAt : Nat) (r : EcuResponse) (received : List (Nat × Bytes)) : Prop :=
  ∃ t, received = [(t, r.data)] ∧ sentAt ≤ t

/-- No message waits to be read; an empty datagram is no message. -/
def NoMessage (b : Inbox Bytes) : Prop := ∀ x ∈ b.queue.head?, x.2 = []

theorem readReply_nil (ecu : Nat) {b : Inbox Bytes} (h : b.await.queue = []) :
    SocketCan.readReply inboxSocket ecu b = (.ok [], b.await) := by
  have hsel : inboxSocket.select b = (.ok false, b.await) := by
    show (Except.ok (!b.await.queue.isEmpty), b.await) = _
    rw [h]
    rfl
  exact (Call.bind_run_ok hsel).trans rfl

/-- **Reading takes the first message of the queue.** -/
theorem readReply_cons (ecu : Nat) {b : Inbox Bytes} {x : Nat × Bytes} {xs : List (Nat × Bytes)}
    (h : b.await.queue = x :: xs) :
    SocketCan.readReply inboxSocket ecu b
      = (.ok (if x.2 = [] then [] else [⟨SocketCan.obdEcuResponseBase + ecu, x.2⟩]),
        b.await.take 1) := by
  have hsel : inboxSocket.select b = (.ok true, b.await) := by
    show (Except.ok (!b.await.queue.isEmpty), b.await) = _
    rw [h]
    rfl
  have hrecv : inboxSocket.recv b.await = (.ok x.2, b.await.take 1) := by
    show (match b.await.queue with | [] => _ | (_, data) :: _ => _) = _
    rw [h]
  exact (Call.bind_run_ok hsel).trans
    ((Call.bind_run_ok (Call.mapError_run_ok _ hrecv)).trans rfl)

theorem readReply_wf (ecu : Nat) {b : Inbox Bytes} (h : b.WF) :
    (SocketCan.readReply inboxSocket ecu b).2.WF := by
  cases hq : b.await.queue with
  | nil => rw [readReply_nil ecu hq]; exact h.await
  | cons x xs => rw [readReply_cons ecu hq]; exact h.await.take 1

theorem socketCan_request (ecu : Nat) (b : Inbox Bytes) (payload : Bytes) (functional : Bool)
    (during : List Bytes) (limit : Nat) :
    callRequest (SocketCan.transport inboxSocket ecu) b payload functional during limit
      = ((SocketCan.readReply inboxSocket ecu (b.expect during limit).tick).1,
        some (SocketCan.readReply inboxSocket ecu (b.expect during limit).tick).2) :=
  rfl

theorem socketCan_step_wf (ecu : Nat) (b : Inbox Bytes) (op : Op Bytes) (h : b.WF) :
    (step (SocketCan.transport inboxSocket ecu) b op).WF := by
  cases op with
  | arrive xs => exact h.arrive xs
  | request payload functional during limit => exact readReply_wf ecu (h.expect during limit).tick
  | receive during limit => exact readReply_wf ecu (h.expect during limit)

theorem socketCan_request_cons (ecu : Nat) {b : Inbox Bytes} {during : List Bytes} {limit : Nat}
    {x : Nat × Bytes} {xs : List (Nat × Bytes)}
    (h : b.queue ++ (b.expect during limit).tick.arrived during = x :: xs) (payload : Bytes)
    (functional : Bool) :
    callRequest (SocketCan.transport inboxSocket ecu) b payload functional during limit
      = (.ok (if x.2 = [] then [] else [⟨SocketCan.obdEcuResponseBase + ecu, x.2⟩]),
        some ((b.expect during limit).tick.await.take 1)) := by
  have hqueue : (b.expect during limit).tick.await.queue = x :: xs :=
    (Inbox.tick_await_queue _).trans h
  rw [socketCan_request, readReply_cons ecu hqueue]

/-- With no message waiting, the first message in the queue arrives after the request. -/
theorem fresh_of_noMessage {b : Inbox Bytes} (h : NoMessage b) {during : List Bytes}
    {limit : Nat} {x : Nat × Bytes} {xs : List (Nat × Bytes)}
    (hq : b.queue ++ (b.expect during limit).tick.arrived during = x :: xs) (hx : x.2 ≠ []) :
    b.clock ≤ x.1 := by
  cases hold : b.queue with
  | cons y ys =>
    -- a message that waits is empty, and this one is not
    rw [hold] at hq
    have hempty := h y (by rw [hold]; rfl)
    exact absurd ((List.cons.inj hq).1 ▸ hempty) hx
  | nil =>
    rw [hold, List.nil_append] at hq
    exact Inbox.fresh_of_mem_arrived (b := b.expect during limit)
      (by rw [hq]; exact List.mem_cons_self ..)

/-- **A request that finds no message waiting returns only what arrives for it.** -/
theorem socketCan_attributed (ecu : Nat) (b : Inbox Bytes) (op : Op Bytes)
    (hclear : AtRequest NoMessage b op) :
    Attributed FreshMessage (SocketCan.transport inboxSocket ecu) b op := by
  cases op with
  | arrive xs => trivial
  | receive during limit => trivial
  | request payload functional during limit =>
      intro rs b' hcall r hr
      cases hq : b.queue ++ (b.expect during limit).tick.arrived during with
      | nil =>
          -- nothing waits and nothing comes: the request returns no response at all
          rw [socketCan_request, readReply_nil ecu ((Inbox.tick_await_queue _).trans hq)] at hcall
          rw [← Except.ok.inj (congrArg Prod.fst hcall)] at hr
          exact absurd hr List.not_mem_nil
      | cons x xs =>
          rw [socketCan_request_cons ecu hq] at hcall
          have hrs := Except.ok.inj (congrArg Prod.fst hcall)
          have hb' := Option.some.inj (congrArg Prod.snd hcall)
          by_cases hx : x.2 = []
          · rw [if_pos hx] at hrs
            rw [← hrs] at hr
            exact absurd hr List.not_mem_nil
          · rw [if_neg hx] at hrs
            rw [← hrs, List.mem_singleton] at hr
            have hrec : b'.received = [(x.1, r.data)] := by
              rw [← hb', hr]
              show (b.queue ++ (b.expect during limit).tick.arrived during).take 1 = _
              rw [hq]
              rfl
            exact ⟨x.1, hrec, fresh_of_noMessage hclear hq hx⟩

/-- **A message that waits is returned, and is no answer.** -/
theorem socketCan_noMessage (ecu : Nat) {b : Inbox Bytes} (hb : b.WF) (op : Op Bytes)
    (h : Attributed FreshMessage (SocketCan.transport inboxSocket ecu) b op) :
    AtRequest NoMessage b op := by
  cases op with
  | arrive xs => trivial
  | receive during limit => trivial
  | request payload functional during limit =>
      intro x hx
      by_contra hne
      obtain ⟨xs, hxs⟩ : ∃ xs, b.queue = x :: xs := List.head?_eq_some_iff.mp hx
      have hq : b.queue ++ (b.expect during limit).tick.arrived during
          = x :: (xs ++ (b.expect during limit).tick.arrived during) := by
        rw [hxs]; rfl
      -- what waits is what the request returns, and its time is that of the past
      have hcall := socketCan_request_cons ecu hq payload functional
      rw [if_neg hne] at hcall
      obtain ⟨t, hrec, ht⟩ := h _ _ hcall _ (List.mem_singleton.mpr rfl)
      have hx' : (b.queue ++ (b.expect during limit).tick.arrived during).take 1
          = [(t, x.2)] := hrec
      rw [hq] at hx'
      have htime : x.1 = t := congrArg Prod.fst (List.cons.inj hx').1
      have hold := hb x (by rw [hxs]; exact List.mem_cons_self ..)
      omega

/-! ## ELM327 -/

/-- The characters of received bytes, with the bytes' times. -/
def stampedChars (received : List (Nat × UInt8)) : List (Nat × Char) :=
  (received.filter (·.2 < 128)).map fun x => (x.1, Char.ofNat x.2.toNat)

/-- The lines of a received block, with the times of their characters. -/
def stampedLines (received : List (Nat × UInt8)) : List (List (Nat × Char)) :=
  (stampedChars received).splitOnP fun x => lineEnd x.2

/-- The frames of a source among the received lines, in the order of the lines. -/
def framesFrom (source : Nat) (received : List (Nat × UInt8)) : List Bytes :=
  Demux.valuesOf source ((stampedLines received).filterMap fun line =>
    lineFrame (line.map Prod.snd))

/--
Every line that carries a frame of the source arrived at `sentAt` or later, down to
the last character that is no blank.
-/
def FreshLines (sentAt source : Nat) (received : List (Nat × UInt8)) : Prop :=
  ∀ line ∈ stampedLines received, ∀ frame,
    lineFrame (line.map Prod.snd) = some (source, frame) →
      ∀ x ∈ line, isSpace x.2 = false → sentAt ≤ x.1

/--
The payload is what the received frames of its sender are put together to, with no
byte that is not in one of them, and the lines that carry them arrived at `sentAt`
or later.
-/
structure FreshFrames (sentAt : Nat) (r : EcuResponse) (received : List (Nat × UInt8)) :
    Prop where
  payload : reassembleIsotp (framesFrom r.source received) = .ok r.data
  bytes : r.data.Sublist (framesFrom r.source received).flatten
  fresh : FreshLines sentAt r.source received

/-- What is left in the buffer up to the next prompt, as text. -/
def leftover (b : Inbox UInt8) : Str :=
  decodeAscii ((takeThrough (fun x => decide (x.2 = prompt)) b.queue).map Prod.snd)

/--
No frame is left in the buffer: no line of it carries one, nor does what a
timeout may cut from a line, and the line it ends in is a blank or status line
whatever follows.
-/
structure NoFrame (b : Inbox UInt8) : Prop where
  lines : ∀ l ∈ splitLines (leftover b), ∀ q, q <+: l → lineFrame q = none
  last : ∀ l ∈ (splitLines (leftover b)).getLast?, Line.noise.Shows l

theorem stampedChars_snd (received : List (Nat × UInt8)) :
    (stampedChars received).map Prod.snd = decodeAscii (received.map Prod.snd) := by
  unfold stampedChars decodeAscii
  rw [List.map_map, List.filter_map, List.map_map]
  rfl

theorem stampedLines_snd (received : List (Nat × UInt8)) :
    (stampedLines received).map (List.map Prod.snd)
      = splitLines (decodeAscii (received.map Prod.snd)) := by
  rw [splitLines, replaceChar, Lines.splitOn_replace, ← stampedChars_snd]
  exact (Lines.splitOnP_map Prod.snd lineEnd (stampedChars received)).symm

theorem takeThrough_isPrefix {β : Type} (p : β → Bool) (xs : List β) : takeThrough p xs <+: xs := by
  induction xs with
  | nil => exact List.prefix_refl _
  | cons x xs ih =>
    rw [takeThrough]
    split
    · exact ⟨xs, rfl⟩
    · exact List.cons_prefix_cons.mpr ⟨rfl, ih⟩

theorem takeThrough_append {β : Type} (p : β → Bool) (xs ys : List β) :
    takeThrough p (xs ++ ys) = takeThrough p xs
      ∨ (takeThrough p xs = xs ∧ takeThrough p (xs ++ ys) = xs ++ takeThrough p ys) := by
  induction xs with
  | nil => exact Or.inr ⟨rfl, rfl⟩
  | cons x xs ih =>
    rw [List.cons_append, takeThrough, takeThrough]
    by_cases hx : p x = true
    · rw [if_pos hx, if_pos hx]
      exact Or.inl rfl
    · rw [if_neg hx, if_neg hx]
      rcases ih with h | ⟨hall, h⟩
      · exact Or.inl (by rw [h])
      · exact Or.inr ⟨by rw [hall], by rw [h]; rfl⟩

/-- What a read takes: part of what was left up to the prompt, or all of it and then fresh bytes. -/
theorem block_cases (left fresh : List (Nat × UInt8)) (n : Nat) :
    let p := fun x : Nat × UInt8 => decide (x.2 = prompt)
    (takeThrough p (left ++ fresh)).take n <+: takeThrough p left
      ∨ (takeThrough p left = left ∧ ∃ more, more <+: fresh
        ∧ (takeThrough p (left ++ fresh)).take n = left ++ more) := by
  intro p
  rcases takeThrough_append p left fresh with h | ⟨hall, h⟩
  · exact Or.inl (by rw [h]; exact List.take_prefix _ _)
  · rw [h, hall]
    -- no prompt was left: the read gave up within the leftover, or went on beyond it
    by_cases hn : n ≤ left.length
    · refine Or.inl ?_
      rw [List.take_append_of_le_length hn]
      exact List.take_prefix _ _
    · refine Or.inr ⟨rfl, (takeThrough p fresh).take (n - left.length),
        (List.take_prefix _ _).trans (takeThrough_isPrefix _ _), ?_⟩
      rw [List.take_append, List.take_of_length_le (by omega)]

theorem stampedChars_append (xs ys : List (Nat × UInt8)) :
    stampedChars (xs ++ ys) = stampedChars xs ++ stampedChars ys := by
  simp [stampedChars]

theorem stampedChars_time {received : List (Nat × UInt8)} {t : Nat}
    (h : ∀ x ∈ received, t ≤ x.1) {x : Nat × Char} (hx : x ∈ stampedChars received) : t ≤ x.1 := by
  obtain ⟨y, hy, rfl⟩ := List.mem_map.mp hx
  exact h y (List.mem_filter.mp hy).1

theorem mem_splitLines {received : List (Nat × UInt8)} {line : List (Nat × Char)}
    (h : line ∈ stampedLines received) :
    line.map Prod.snd ∈ splitLines (decodeAscii (received.map Prod.snd)) := by
  rw [← stampedLines_snd]
  exact List.mem_map_of_mem h

theorem continued_noise {l : Str} (h : Line.noise.Shows l) (more : Str) :
    (∀ c ∈ l, isSpace c = true) ∨ lineFrame (l ++ more) = none := by
  rcases h with hblank | ⟨c, hc, hsp, hno⟩
  · exact Or.inl hblank
  · exact Or.inr (lineFrame_noise (Or.inr ⟨c, List.mem_append_left _ hc, hsp, hno⟩))

/-- A read that ends in what was left begins lines of it, and those carry no frame. -/
theorem no_frame_of_cut {b : Inbox UInt8} (h : NoFrame b) {received : List (Nat × UInt8)}
    (hcut : received <+: takeThrough (fun x => decide (x.2 = prompt)) b.queue)
    {line : List (Nat × Char)} (hline : line ∈ stampedLines received) :
    lineFrame (line.map Prod.snd) = none := by
  obtain ⟨rest, hrest⟩ := hcut
  have hpre : stampedChars received
      <+: stampedChars (takeThrough (fun x => decide (x.2 = prompt)) b.queue) :=
    ⟨stampedChars rest, by rw [← stampedChars_append, hrest]⟩
  obtain ⟨line', hline', hle⟩ := Lines.mem_splitOnP_of_prefix hpre hline
  exact h.lines (line'.map Prod.snd) (mem_splitLines hline') (line.map Prod.snd) (hle.map _)

/-- The line a text ends in goes on in what follows; the other lines are of one part. -/
theorem stampedLines_append (left more : List (Nat × UInt8)) :
    ∃ ls last k ks, stampedLines left = ls ++ [last] ∧ stampedLines more = k :: ks
      ∧ stampedLines (left ++ more) = ls ++ (last ++ k) :: ks := by
  rw [stampedLines, stampedLines, stampedLines, stampedChars_append]
  exact Lines.splitOnP_append _ _ _

theorem mem_of_stampedLines {received : List (Nat × UInt8)} {line : List (Nat × Char)}
    (h : line ∈ stampedLines received) {x : Nat × Char} (hx : x ∈ line) :
    x ∈ stampedChars received := Lines.mem_of_mem_splitOnP h hx

/-- Frames in what follows a leftover without one are as late as what follows it. -/
theorem freshLines_of_continued {b : Inbox UInt8} (h : NoFrame b)
    (hall : takeThrough (fun x => decide (x.2 = prompt)) b.queue = b.queue) {sentAt : Nat}
    {more : List (Nat × UInt8)} (hmore : ∀ x ∈ more, sentAt ≤ x.1) (source : Nat) :
    FreshLines sentAt source (b.queue ++ more) := by
  intro line hline frame hframe x hx hsp
  obtain ⟨ls, last, k, ks, hold, hnew, hboth⟩ := stampedLines_append b.queue more
  have hleft : splitLines (leftover b) = (ls ++ [last]).map (List.map Prod.snd) := by
    rw [leftover, hall, ← stampedLines_snd, hold]
  have hlate : ∀ l ∈ stampedLines more, ∀ y ∈ l, sentAt ≤ y.1 := fun l hl y hy =>
    stampedChars_time hmore (mem_of_stampedLines hl hy)
  rw [hboth] at hline
  rcases List.mem_append.mp hline with hline | hline
  · -- a complete line of the leftover carries no frame
    have hmem : line.map Prod.snd ∈ splitLines (leftover b) := by
      rw [hleft]
      exact List.mem_map_of_mem (List.mem_append_left _ hline)
    rw [h.lines _ hmem _ (List.prefix_refl _)] at hframe
    exact absurd hframe (by simp)
  rcases List.mem_cons.mp hline with rfl | hline
  · -- the line under way was blank, and then all its digits are fresh, or carries none either
    have hlast : Line.noise.Shows (last.map Prod.snd) :=
      h.last _ (by rw [hleft, List.map_append]; simp)
    rw [List.map_append] at hframe
    rcases continued_noise hlast (k.map Prod.snd) with hblank | hnone
    · rcases List.mem_append.mp hx with hx | hx
      · rw [hblank _ (List.mem_map_of_mem hx)] at hsp
        exact Bool.noConfusion hsp
      · exact hlate k (hnew ▸ List.mem_cons_self ..) x hx
    · rw [hnone] at hframe
      exact absurd hframe (by simp)
  · -- a later line came after the request as a whole
    exact hlate line (hnew ▸ List.mem_cons_of_mem _ hline) x hx

/-- **With no frame left in the buffer, the frames of a block are fresh.** -/
theorem freshLines_of_noFrame {b : Inbox UInt8} (h : NoFrame b) {sentAt : Nat}
    {fresh : List (Nat × UInt8)} (hfresh : ∀ x ∈ fresh, sentAt ≤ x.1) (n source : Nat) :
    FreshLines sentAt source
      ((takeThrough (fun x => decide (x.2 = prompt)) (b.queue ++ fresh)).take n) := by
  rcases block_cases b.queue fresh n with hcut | ⟨hall, more, hmore, htaken⟩
  · intro line hline frame hframe
    rw [no_frame_of_cut h hcut hline] at hframe
    exact absurd hframe (by simp)
  · rw [htaken]
    exact freshLines_of_continued h hall (fun x hx => hfresh x (hmore.subset hx)) source

theorem readUntil_received (b : Inbox UInt8) :
    (inboxPort.readUntil b).2.received
      = (takeThrough (fun x => decide (x.2 = prompt)) b.await.queue).take b.limit := by
  obtain ⟨rest, hrest⟩ := takeThrough_isPrefix (fun x : Nat × UInt8 => decide (x.2 = prompt))
    b.await.queue
  show b.await.queue.take (min b.limit _) = _
  generalize takeThrough (fun x : Nat × UInt8 => decide (x.2 = prompt)) b.await.queue = block
    at hrest ⊢
  rw [← hrest, List.take_append_of_le_length (Nat.min_le_right _ _), ← List.take_take,
    List.take_length]

/-! ## Where a payload comes from -/

/-- A consecutive frame adds bytes of its own, any other frame none. -/
theorem appendFrame_sublist (data f : Bytes) : (appendFrame data f).Sublist (data ++ f) := by
  cases f with
  | nil => rw [List.append_nil]; exact List.Sublist.refl _
  | cons b tail =>
    rw [appendFrame]
    split
    · exact List.Sublist.append_left (List.sublist_cons_self b tail) data
    · exact List.sublist_append_left _ _

theorem foldl_appendFrame_sublist (data : Bytes) (frames : List Bytes) :
    (frames.foldl appendFrame data).Sublist (data ++ frames.flatten) := by
  induction frames generalizing data with
  | nil => rw [List.flatten_nil, List.append_nil]; exact List.Sublist.refl _
  | cons f frames ih =>
    rw [List.foldl_cons, List.flatten_cons, ← List.append_assoc]
    exact (ih _).trans ((appendFrame_sublist data f).append (List.Sublist.refl _))

/-- **Reassembly makes no byte up**: what it returns it has from its frames, in their order. -/
theorem reassembleIsotp_sublist {frames : List Bytes} {data : Bytes}
    (h : reassembleIsotp frames = .ok data) : data.Sublist frames.flatten := by
  cases frames with
  | nil => rw [← Except.ok.inj h]; exact List.nil_sublist _
  | cons first rest =>
    rw [List.flatten_cons]
    have hfirst : first.Sublist (first ++ rest.flatten) := List.sublist_append_left _ _
    cases first with
    | nil => cases h
    | cons b0 tail =>
      rw [reassembleIsotp, index_zero_cons, Raise.ok_bind] at h
      dsimp only at h
      split at h
      -- a single frame gives a slice of itself
      · rw [← Except.ok.inj h]
        have hslice : ∀ j, (slice (b0 :: tail) 1 j).Sublist (b0 :: tail) := fun j =>
          (List.drop_sublist _ _).trans (List.take_sublist _ _)
        exact (hslice _).trans hfirst
      · split at h
        · cases tail with
          | nil => cases h
          -- a first frame takes its consecutive frames in the order they came
          | cons b1 body =>
            rw [show index (b0 :: b1 :: body) 1 = .ok b1 from rfl, Raise.ok_bind] at h
            rw [← Except.ok.inj h]
            have hbody : body.Sublist (b0 :: b1 :: body) :=
              (List.sublist_cons_self _ _).trans (List.sublist_cons_self _ _)
            exact ((List.take_sublist _ _).trans (foldl_appendFrame_sublist body rest)).trans
              (hbody.append (List.Sublist.refl _))
        · rw [← Except.ok.inj h]
          exact hfirst

/-- A response is put together from the frames that are kept for its source. -/
theorem mem_gatherResponses {d : Demux Nat Bytes} {order : List Nat} {rs : List EcuResponse}
    (h : gatherResponses d order = .ok rs) {r : EcuResponse} (hr : r ∈ rs) :
    ∃ frames, d.groups.lookup r.source = some frames ∧ reassembleIsotp frames = .ok r.data := by
  induction order generalizing rs with
  | nil =>
    rw [← Except.ok.inj h] at hr
    exact absurd hr List.not_mem_nil
  | cons src order ih =>
    rw [gatherResponses] at h
    cases hlookup : d.groups.lookup src with
    | none => rw [hlookup] at h; cases h
    | some frames =>
      cases hdata : reassembleIsotp frames with
      | error e => rw [hlookup] at h; simp only [Raise.ok_bind, hdata] at h; cases h
      | ok data =>
        cases hmore : gatherResponses d order with
        | error e => rw [hlookup] at h; simp only [Raise.ok_bind, hdata, hmore] at h; cases h
        | ok more =>
          rw [hlookup] at h
          simp only [Raise.ok_bind, hdata, hmore] at h
          have hrs : (if data = [] then more else ⟨src, data⟩ :: more) = rs := Except.ok.inj h
          -- the response of this source, or one of those that follow
          by_cases hempty : data = []
          · rw [if_pos hempty] at hrs
            exact ih hmore (hrs ▸ hr)
          · rw [if_neg hempty] at hrs
            rcases List.mem_cons.mp (hrs ▸ hr) with rfl | hr
            · exact ⟨frames, hlookup, hdata⟩
            · exact ih hmore hr

/-- **A parsed response is put together from the frames of its source.** -/
theorem parse_payload {received : List (Nat × UInt8)} {rs : List EcuResponse}
    (h : parseElmResponse (decodeAscii (received.map Prod.snd)) = .ok rs) {r : EcuResponse}
    (hr : r ∈ rs) : reassembleIsotp (framesFrom r.source received) = .ok r.data := by
  obtain ⟨frames, hlookup, hdata⟩ := mem_gatherResponses h hr
  rw [Demux.collect_lookup] at hlookup
  split at hlookup
  · have hlines : (stampedLines received).filterMap (fun line => lineFrame (line.map Prod.snd))
        = (splitLines (decodeAscii (received.map Prod.snd))).filterMap lineFrame := by
      rw [← stampedLines_snd, List.filterMap_map]
      rfl
    rw [framesFrom, hlines, Option.some.inj hlookup]
    exact hdata
  · cases hlookup

/-- **A request that finds no frame in the buffer returns only what arrives for it.** -/
theorem elm327_attributed (b : Inbox UInt8) (op : Op UInt8) (hclear : AtRequest NoFrame b op) :
    Attributed FreshFrames (Elm327.transport inboxPort) b op := by
  cases op with
  | arrive xs => trivial
  | receive during limit => trivial
  | request payload functional during limit =>
      intro rs b' hcall r hr
      have hb' : b' = (inboxPort.readUntil (b.expect during limit).tick).2 :=
        (Option.some.inj (congrArg Prod.snd hcall)).symm
      have hparse : parseElmResponse (decodeAscii (b'.received.map Prod.snd)) = .ok rs := by
        rw [hb']
        exact congrArg Prod.fst hcall
      have hpayload := parse_payload hparse hr
      refine ⟨hpayload, reassembleIsotp_sublist hpayload, ?_⟩
      rw [hb', readUntil_received, Inbox.tick_await_queue]
      exact freshLines_of_noFrame hclear
        (fun x hx => Inbox.fresh_of_mem_arrived (b := b.expect during limit) hx) _ r.source

/-! ## Both backends -/

/--
**No reply goes to the wrong request, along every run in which no request is made
while an earlier reply still waits**: a message in the socket's queue, or a frame
in the adapter's buffer. On the socket it is also only along these runs.
-/
theorem requests_attributed (ecu : Nat) (messages : List (Op Bytes)) (text : List (Op UInt8)) :
    (Runs.Each (step (SocketCan.transport inboxSocket ecu)) (AtRequest NoMessage) .empty messages ↔
      Runs.Each (step (SocketCan.transport inboxSocket ecu))
        (Attributed FreshMessage (SocketCan.transport inboxSocket ecu)) .empty messages)
    ∧ (Runs.Each (step (Elm327.transport inboxPort)) (AtRequest NoFrame) .empty text →
      Runs.Each (step (Elm327.transport inboxPort))
        (Attributed FreshFrames (Elm327.transport inboxPort)) .empty text) := by
  refine ⟨⟨?_, ?_⟩, ?_⟩
  · intro h
    exact Runs.each Inbox.WF (socketCan_step_wf ecu)
      (fun b op _ => socketCan_attributed ecu b op) Inbox.empty_wf h
  · intro h
    exact Runs.each Inbox.WF (socketCan_step_wf ecu)
      (fun b op hb => socketCan_noMessage ecu hb op) Inbox.empty_wf h
  · intro h
    exact Runs.each (fun _ => True) (fun _ _ _ => trivial)
      (fun b op _ => elm327_attributed b op) trivial h

/-- `010C`, answered at once on the socket. -/
def answeredMessage : List (Op Bytes) := [.request [0x01, 0x0C] true [[0x41, 0x0C, 0x1A]] 0]

def answeredText : List (Op UInt8) :=
  [.request [0x01, 0x0C] true ("7E803410C1A\r>".toList.map fun c => UInt8.ofNat c.toNat) 100]

/-- Both parts on a request that is answered at once. -/
theorem requests_attributed_answered :
    Runs.Each (step (SocketCan.transport inboxSocket 0))
        (Attributed FreshMessage (SocketCan.transport inboxSocket 0)) .empty answeredMessage
      ∧ Runs.Each (step (Elm327.transport inboxPort))
        (Attributed FreshFrames (Elm327.transport inboxPort)) .empty answeredText := by
  have hboth := requests_attributed 0 answeredMessage answeredText
  refine ⟨hboth.1.mp (Runs.each_cons.mpr ⟨?_, Runs.each_nil⟩),
    hboth.2 (Runs.each_cons.mpr ⟨⟨?_, ?_⟩, Runs.each_nil⟩)⟩
  · intro x hx
    exact absurd hx (by simp [Inbox.empty])
  · intro l hl q hq
    have hnil : l = [] := by
      revert hl
      rw [show splitLines (leftover Inbox.empty) = [[]] by decide]
      exact fun h => List.mem_singleton.mp h
    rw [hnil, List.prefix_nil] at hq
    rw [hq]
    decide
  · intro l hl
    rw [show splitLines (leftover Inbox.empty) = [[]] by decide] at hl
    rw [← Option.some.inj hl]
    exact Or.inl (by simp)

/-- The reply to `010C` comes after its timeout, and then `010D` is asked. -/
def lateMessage : List (Op Bytes) :=
  [.request [0x01, 0x0C] true [] 0, .arrive [[0x41, 0x0C, 0x1A]],
    .request [0x01, 0x0D] true [[0x41, 0x0D, 0x32]] 0]

def lateText : List (Op UInt8) :=
  [.request [0x01, 0x0C] true [] 0,
    .arrive ("7E803410C1A\r>".toList.map fun c => UInt8.ofNat c.toNat),
    .request [0x01, 0x0D] true [] 100]

/-- **On either backend a late reply is returned as the answer of the next request.** -/
theorem late_reply_misattributed :
    (¬ ∀ (ecu : Nat) (ops : List (Op Bytes)), Runs.Each (step (SocketCan.transport inboxSocket ecu))
        (Attributed FreshMessage (SocketCan.transport inboxSocket ecu)) .empty ops)
    ∧ ¬ ∀ ops : List (Op UInt8), Runs.Each (step (Elm327.transport inboxPort))
        (Attributed FreshFrames (Elm327.transport inboxPort)) .empty ops := by
  constructor
  · intro h
    have hlate := h 0 lateMessage
    simp only [lateMessage, Runs.each_cons] at hlate
    obtain ⟨t, hrec, ht⟩ := hlate.2.2.1 [⟨0x7E8, [0x41, 0x0C, 0x1A]⟩]
      ⟨5, [(4, [0x41, 0x0D, 0x32])], [[0x41, 0x0D, 0x32]], 0, [(2, [0x41, 0x0C, 0x1A])]⟩
      (by decide) _ (List.mem_singleton.mpr rfl)
    -- the reply arrived at 2, and the second request was sent at 3
    have htime : 2 = t := congrArg Prod.fst (List.cons.inj hrec).1
    have hclock : 3 ≤ t := ht
    omega
  · intro h
    have hlate := h lateText
    simp only [lateText, Runs.each_cons] at hlate
    have hfresh := hlate.2.2.1 [⟨0x7E8, [0x41, 0x0C, 0x1A]⟩]
      ⟨5, [], [], 100, ("7E803410C1A\r>".toList.map fun c => (2, UInt8.ofNat c.toNat))⟩
      (by decide +kernel) _ (List.mem_singleton.mpr rfl)
    have hold := hfresh.fresh ("7E803410C1A".toList.map fun c => (2, c)) (by decide) [0x03, 0x41, 0x0C, 0x1A]
      (by decide +kernel) (2, '7') (by decide) (by decide)
    have hclock : 3 ≤ 2 := hold
    omega

end AutoDiag.Proof
