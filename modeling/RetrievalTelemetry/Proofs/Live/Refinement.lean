/-
The live table answers like the plain one.

Whoever uses a table sees answers only: what a write said, what was known of a retrieval when it
ended, who was told of which expiry.  A session is a list of questions in the order in which they
are asked, and it can be put to either table, since both offer the same operations.  Handles are
opaque, so a question names the handle it goes through by the order in which handles were given
out; a handle stays usable after its retrieval is over, and after its slot went to another one.

`answers_eq_plain` is the theorem that the machinery of slots, epochs and the lazy queue is
invisible: in every session both tables give the same answers.  It is said of lifetimes that are
doubles.  A whole number may be too large for one, and then the live table answers an insertion with
an error.
-/
import RetrievalTelemetry.Proofs.Live.Clock
import RetrievalTelemetry.Proofs.Live.Handles

namespace RetrievalTelemetry

/-- What a table of retrievals offers; `η` is what it gives out as handles. -/
structure TableOps (τ η : Type) where
  enter : τ → Binary64 → Uuid → Except ArithmeticError η × τ
  write : τ → η → Mark → MarkAnswer × τ
  startTime : τ → η → Option Timestamp
  finish : τ → Uuid → Option Progress × τ
  /-- Answers how many expired, after telling a listener of them. -/
  expire : {σ : Type} → τ → Binary64 → Option (Listener σ) → σ → Nat × σ × τ
  size : τ → Nat
  contains : τ → Uuid → Bool
  expiredTotal : τ → Nat

/-- The operations of the live table. -/
def TableOps.live : TableOps LiveTable Handle where
  enter := LiveTable.enter
  write := LiveTable.write
  startTime := LiveTable.startTime
  finish := LiveTable.finish
  expire := LiveTable.expireTelling
  size := LiveTable.size
  contains := LiveTable.contains
  expiredTotal := LiveTable.expiredTotal

/-- The operations of the plain table with a lifetime; the listener hears of every expired record in
order, and what it throws is lost. -/
def TableOps.plain (lifetime : Binary64) : TableOps PlainTable Nat where
  enter p now id := (.ok (p.enter lifetime now id).1, (p.enter lifetime now id).2)
  write := PlainTable.write
  startTime := PlainTable.startTime
  finish := PlainTable.finish
  expire p now listener heard :=
    ((p.expire now).1.length, Listener.hear listener heard (p.expire now).1, (p.expire now).2)
  size := PlainTable.size
  contains := PlainTable.contains
  expiredTotal := PlainTable.expiredTotal

/-! ### Sessions -/

/-- A question to a table; `k` is the place of a handle among those given out. -/
inductive TableStep where
  | enter (now : Binary64) (id : Uuid)
  | write (k : Nat) (mark : Mark)
  | startTime (k : Nat)
  | finish (id : Uuid)
  | expire (now : Binary64)
  | size
  | contains (id : Uuid)
  | expiredTotal

/-- What a table answers. -/
inductive TableAnswer (σ : Type) where
  | entered (problem : Option ArithmeticError)
  /-- No such handle was given out. -/
  | noHandle
  | written (answer : MarkAnswer)
  | startTime (time : Option Timestamp)
  | finished (progress : Option Progress)
  /-- How many expired, and what the listener has heard by then. -/
  | expired (count : Nat) (heard : σ)
  | size (count : Nat)
  | contains (isLive : Bool)
  | expiredTotal (count : Nat)
deriving DecidableEq

/-- A table, the handles it has given out and what its listener has heard. -/
structure Session (τ η σ : Type) where
  table : τ
  handles : List η := []
  heard : σ

namespace TableOps

variable {τ η σ : Type}

/-- Puts one question. -/
def step (ops : TableOps τ η) (listener : Option (Listener σ)) (s : Session τ η σ) :
    TableStep → TableAnswer σ × Session τ η σ
  | .enter now id =>
    match ops.enter s.table now id with
    | (.ok h, t) => (.entered none, { s with table := t, handles := s.handles ++ [h] })
    | (.error e, t) => (.entered (some e), { s with table := t })
  | .write k mark =>
    match s.handles[k]? with
    | none => (.noHandle, s)
    | some h =>
        (.written (ops.write s.table h mark).1,
          { s with table := (ops.write s.table h mark).2 })
  | .startTime k =>
    match s.handles[k]? with
    | none => (.noHandle, s)
    | some h => (.startTime (ops.startTime s.table h), s)
  | .finish id =>
    (.finished (ops.finish s.table id).1, { s with table := (ops.finish s.table id).2 })
  | .expire now =>
    let (count, heard, t) := ops.expire s.table now listener s.heard
    (.expired count heard, { s with table := t, heard := heard })
  | .size => (.size (ops.size s.table), s)
  | .contains id => (.contains (ops.contains s.table id), s)
  | .expiredTotal => (.expiredTotal (ops.expiredTotal s.table), s)

/-- The answers to a list of questions. -/
def answers (ops : TableOps τ η) (listener : Option (Listener σ)) (s : Session τ η σ) :
    List TableStep → List (TableAnswer σ)
  | [] => []
  | q :: rest => (ops.step listener s q).1 :: ops.answers listener (ops.step listener s q).2 rest

end TableOps

/-- The readings of the clock at which entries may be made. -/
def TableStep.entryTimes (steps : List TableStep) : List Binary64 :=
  steps.filterMap fun
    | .enter now _ => some now
    | _ => none

/-- The readings of the clock at which retrievals may expire. -/
def TableStep.expiryTimes (steps : List TableStep) : List Binary64 :=
  steps.filterMap fun
    | .expire now => some now
    | _ => none

/-! ### One question -/

namespace Session

variable {σ : Type} {lifetime : Binary64} {allowed : Binary64 → Prop}

/-- The two tables are at the same point of a session; all deadlines are such as `allowed` says. -/
structure Matches (lifetime : Binary64) (allowed : Binary64 → Prop) (s : Session LiveTable Handle σ)
    (p : Session PlainTable Nat σ) : Prop where
  sound : LiveTable.Sound s.table
  plain : s.table.plain = p.table
  handles : List.Forall₂ (LiveTable.Issued s.table) s.handles p.handles
  heard : s.heard = p.heard
  lifetime : s.table.timeout.toDouble? = some lifetime
  deadlines : ∀ d ∈ s.table.queue, allowed d.time

/-- The same answer, and the same point afterwards. -/
def Agree (lifetime : Binary64) (allowed : Binary64 → Prop)
    (a : TableAnswer σ × Session LiveTable Handle σ)
    (b : TableAnswer σ × Session PlainTable Nat σ) : Prop :=
  a.1 = b.1 ∧ Matches lifetime allowed a.2 b.2

namespace Matches

variable {s : Session LiveTable Handle σ} {p : Session PlainTable Nat σ}

/-- The handle at a place was given out for the number at that place. -/
theorem handle (m : Matches lifetime allowed s p) (k : Nat) :
    (s.handles[k]? = none ∧ p.handles[k]? = none) ∨
      ∃ h n, s.handles[k]? = some h ∧ p.handles[k]? = some n ∧ LiveTable.Issued s.table h n := by
  have hlength := m.handles.length_eq
  by_cases hk : k < s.handles.length
  · have hk' : k < p.handles.length := hlength ▸ hk
    have hissued := (List.forall₂_iff_get.mp m.handles).2 k hk hk'
    exact Or.inr ⟨_, _, List.getElem?_eq_getElem hk, List.getElem?_eq_getElem hk', hissued⟩
  · have hk' : ¬k < p.handles.length := hlength ▸ hk
    exact Or.inl ⟨List.getElem?_eq_none (Nat.le_of_not_lt hk),
      List.getElem?_eq_none (Nat.le_of_not_lt hk')⟩

/-- The handles stay the handles of their records when the table moves on. -/
theorem later (m : Matches lifetime allowed s p) {t : LiveTable}
    (l : LiveTable.Later s.table t) :
    List.Forall₂ (LiveTable.Issued t) s.handles p.handles :=
  m.handles.imp fun _ _ h => h.later m.sound l

theorem enter (m : Matches lifetime allowed s p) (listener : Option (Listener σ))
    {now : Binary64} (id : Uuid) (htime : allowed (now.add lifetime)) :
    Agree lifetime allowed (TableOps.live.step listener s (.enter now id))
      ((TableOps.plain lifetime).step listener p (.enter now id)) := by
  have hsound := m.sound.enter now id
  have hlater := m.later (LiveTable.Sound.later_enter (t := s.table) now id)
  have hlifetime : (s.table.enter now id).2.timeout.toDouble? = some lifetime := by
    rw [LiveTable.timeout_enter, m.lifetime]
  have hallowed : ∀ time, s.table.deadline now = .ok time → allowed time := by
    intro time h
    obtain ⟨lifetime', hlife, rfl⟩ := LiveTable.deadline_eq_ok h
    rw [m.lifetime] at hlife
    cases hlife
    exact htime
  have hqueue : ∀ d ∈ (s.table.enter now id).2.queue, allowed d.time := fun d hd =>
    (LiveTable.queue_enter hd).elim (m.deadlines d) (hallowed d.time)
  obtain ⟨hplain, h, hgiven, he⟩ := m.sound.enter_plain m.lifetime now id
  rw [m.plain] at hplain he
  unfold TableOps.step
  simp only [TableOps.live, TableOps.plain]
  rcases hlive : s.table.enter now id with ⟨given, t⟩
  rw [hlive] at hsound hlater hqueue hlifetime hgiven hplain he
  obtain rfl : given = .ok h := hgiven
  refine ⟨rfl, hsound, hplain, ?_, m.heard, hlifetime, hqueue⟩
  exact List.rel_append hlater (List.Forall₂.cons (Or.inl ⟨id, he⟩) List.Forall₂.nil)

theorem write (m : Matches lifetime allowed s p) (listener : Option (Listener σ)) (k : Nat)
    (mark : Mark) :
    Agree lifetime allowed (TableOps.live.step listener s (.write k mark))
      ((TableOps.plain lifetime).step listener p (.write k mark)) := by
  unfold TableOps.step
  rcases m.handle k with ⟨hk, hk'⟩ | ⟨h, n, hk, hk', hissued⟩
  · simp only [hk, hk']
    exact ⟨rfl, m⟩
  · simp only [hk, hk']
    obtain ⟨hanswer, hplain, hsound⟩ := hissued.write_plain m.sound mark
    rw [m.plain] at hanswer hplain
    exact ⟨congrArg TableAnswer.written hanswer, hsound, hplain,
      m.later (LiveTable.Sound.later_write h mark), m.heard, m.lifetime, m.deadlines⟩

theorem startTime (m : Matches lifetime allowed s p) (listener : Option (Listener σ)) (k : Nat) :
    Agree lifetime allowed (TableOps.live.step listener s (.startTime k))
      ((TableOps.plain lifetime).step listener p (.startTime k)) := by
  unfold TableOps.step
  rcases m.handle k with ⟨hk, hk'⟩ | ⟨h, n, hk, hk', hissued⟩
  · simp only [hk, hk']
    exact ⟨rfl, m⟩
  · simp only [hk, hk']
    have htime := hissued.startTime_plain m.sound
    rw [m.plain] at htime
    exact ⟨congrArg TableAnswer.startTime htime, m⟩

theorem finish (m : Matches lifetime allowed s p) (listener : Option (Listener σ)) (id : Uuid) :
    Agree lifetime allowed (TableOps.live.step listener s (.finish id))
      ((TableOps.plain lifetime).step listener p (.finish id)) := by
  obtain ⟨hanswer, hplain⟩ := m.sound.finish_plain id
  obtain ⟨hqueue, hlifetime⟩ := LiveTable.finish_frame s.table id
  rw [m.plain] at hanswer hplain
  refine ⟨congrArg TableAnswer.finished hanswer, m.sound.finish id, hplain,
    m.later (m.sound.later_finish id), m.heard, hlifetime ▸ m.lifetime, fun d hd => ?_⟩
  have hd : d ∈ (s.table.finish id).2.queue := hd
  rw [hqueue] at hd
  exact m.deadlines d hd

/-- An expiry needs to know that no NaN stands in the way of a due deadline. -/
theorem expire (m : Matches lifetime allowed s p) (listener : Option (Listener σ)) {now : Binary64}
    (hdue : (∀ time, allowed time → time.isNaN = false) ∨
      ∀ time, allowed time → time.le now = false) :
    Agree lifetime allowed (TableOps.live.step listener s (.expire now))
      ((TableOps.plain lifetime).step listener p (.expire now)) := by
  have hqueue : Deadline.Clear s.table.queue ∨ ∀ d ∈ s.table.queue, d.time.le now = false :=
    hdue.imp (fun h d hd => h _ (m.deadlines d hd)) fun h d hd => h _ (m.deadlines d hd)
  obtain ⟨hexpired, hplain⟩ := m.sound.expire_plain hqueue
  rw [m.plain] at hexpired hplain
  have hlifetime : (s.table.expire now).2.timeout.toDouble? = some lifetime := by
    rw [m.sound.timeout_expire, m.lifetime]
  unfold Agree TableOps.step
  simp only [TableOps.live, TableOps.plain, LiveTable.expireTelling_eq, hexpired, m.heard]
  exact ⟨trivial, m.sound.expire now, hplain, m.later (m.sound.later_expire now), rfl, hlifetime,
    fun d hd => m.deadlines d (m.sound.queue_expire hd)⟩

/-! ### A whole session -/

/-- Two tables at the same point give the same answers from there on. -/
theorem answers (listener : Option (Listener σ)) :
    ∀ (steps : List TableStep) {s : Session LiveTable Handle σ} {p : Session PlainTable Nat σ},
      Matches lifetime allowed s p →
      (∀ now ∈ TableStep.entryTimes steps, allowed (now.add lifetime)) →
      (∀ now ∈ TableStep.expiryTimes steps, (∀ time, allowed time → time.isNaN = false) ∨
        ∀ time, allowed time → time.le now = false) →
      TableOps.live.answers listener s steps
        = (TableOps.plain lifetime).answers listener p steps := by
  intro steps
  induction steps with
  | nil =>
      intro s p _ _ _
      rfl
  | cons q rest ih =>
      intro s p m hentry hexpiry
      have hagree : Agree lifetime allowed (TableOps.live.step listener s q)
          ((TableOps.plain lifetime).step listener p q) := by
        cases q with
        | enter now id => exact m.enter listener id (hentry now (by simp [TableStep.entryTimes]))
        | write k mark => exact m.write listener k mark
        | startTime k => exact m.startTime listener k
        | finish id => exact m.finish listener id
        | expire now => exact m.expire listener (hexpiry now (by simp [TableStep.expiryTimes]))
        | size =>
            have hsize := LiveTable.size_plain s.table
            rw [m.plain] at hsize
            exact ⟨congrArg TableAnswer.size hsize.symm, m⟩
        | contains id =>
            have hcontains := m.sound.contains_plain id
            rw [m.plain] at hcontains
            exact ⟨congrArg TableAnswer.contains hcontains.symm, m⟩
        | expiredTotal =>
            have htotal := congrArg PlainTable.expiredTotal m.plain
            exact ⟨congrArg TableAnswer.expiredTotal htotal, m⟩
      have hentry' : ∀ now ∈ TableStep.entryTimes rest, allowed (now.add lifetime) :=
        fun now hnow => hentry now ((List.sublist_cons_self q rest).filterMap _ |>.mem hnow)
      have hexpiry' : ∀ now ∈ TableStep.expiryTimes rest,
          (∀ time, allowed time → time.isNaN = false) ∨
            ∀ time, allowed time → time.le now = false := fun now hnow =>
        hexpiry now ((List.sublist_cons_self q rest).filterMap _ |>.mem hnow)
      unfold TableOps.answers
      rw [hagree.1, ih hagree.2 hentry' hexpiry']

end Matches

end Session

/-! ### From an empty table -/

namespace LiveTable

/-- In every session, an empty live table gives the answers of an empty plain table: to each write
and each look through any handle that was ever given out, to each end of a retrieval, and to each
expiry with whatever listener.  The clock may read anything but a NaN, and it need not run
forward.  Only with an infinite lifetime there is a proviso, that it does not read minus infinity
at an entry and infinity at an expiry, because then there is no deadline to speak of. -/
theorem answers_eq_plain {σ : Type} {timeout : Number} {lifetime : Binary64} {capacity : Int}
    {pool : Pool} {table : LiveTable} (hpool : Pool.ofCapacity capacity = .ok pool)
    (htable : LiveTable.ofTimeout timeout pool = .ok table)
    (hlifetime : timeout.toDouble? = some lifetime) (listener : Option (Listener σ))
    (heard : σ) (steps : List TableStep)
    (hclock : ∀ now ∈ TableStep.entryTimes steps, now.isNaN = false)
    (hinfinite : lifetime = .infinity false →
      .infinity true ∉ TableStep.entryTimes steps ∨
        .infinity false ∉ TableStep.expiryTimes steps) :
    TableOps.live.answers listener { table := table, heard := heard } steps
      = (TableOps.plain lifetime).answers listener { table := {}, heard := heard } steps := by
  obtain rfl := eq_of_ofTimeout htable
  let allowed : Binary64 → Prop := fun time =>
    ∃ now ∈ TableStep.entryTimes steps, time = now.add lifetime
  have hmatches : Session.Matches lifetime allowed
      ({ table := { timeout := timeout, pool := pool }, heard := heard } :
        Session LiveTable Handle σ)
      { table := {}, heard := heard } :=
    { sound := sound_of_ofTimeout hpool htable
      plain := rfl
      handles := List.Forall₂.nil
      heard := rfl
      lifetime := hlifetime
      deadlines := by simp }
  refine hmatches.answers listener steps (fun now hnow => ⟨now, hnow, rfl⟩) fun now hexpiry => ?_
  -- Either every deadline of the session is a number, or none of them ever comes.
  by_cases hall : ∀ time, allowed time → time.isNaN = false
  · exact Or.inl hall
  · obtain ⟨time, ⟨early, hearly, rfl⟩, hnan⟩ :
        ∃ time, allowed time ∧ ¬time.isNaN = false := by simpa using hall
    have hstopped : Stopped timeout early :=
      stopped_of_isNaN (toDouble?_ne_of_ofTimeout htable) hlifetime (by simpa using hnan)
    refine Or.inr ?_
    rintro time' ⟨early', hearly', rfl⟩
    refine Bool.eq_false_iff.mpr fun hle => ?_
    rcases hstopped with hlost | ⟨lifetime', hlife', hlost | ⟨rfl, rfl⟩⟩
    · rw [hclock early hearly] at hlost
      cases hlost
    · have hany : Stopped timeout now := Or.inr ⟨lifetime', hlife', Or.inl hlost⟩
      rw [hany.not_due hlifetime early'] at hle
      cases hle
    · rw [hlife'] at hlifetime
      cases hlifetime
      exact (hinfinite rfl).elim (fun hno => hno hearly)
        fun hno => hno (le_add_infinity hle ▸ hexpiry)

/-- A handle outlives its retrieval: it is written to after its slot went to another one, which then
expires while the listener throws. -/
theorem answers_eq_plain_recycled :
    let listener : Listener (List Uuid) := fun id _ heard => (.error "deaf", heard ++ [id])
    let steps : List TableStep :=
      [.enter (.zero false) ⟨1⟩, .write 0 .bitswap, .finish ⟨1⟩, .enter (.zero false) ⟨2⟩,
       .write 0 .failure, .write 1 .failure, .size, .expire (.finite false 1 0), .startTime 1,
       .contains ⟨2⟩, .expiredTotal]
    TableOps.live.answers (some listener)
        { table := { timeout := .int 1, pool := { capacity := 1 } }, heard := [] } steps
      = (TableOps.plain (Binary64.ofInt 1)).answers (some listener) { table := {}, heard := [] }
          steps := by
  intro listener steps
  have hpool : Pool.ofCapacity 1 = .ok { capacity := 1 } := rfl
  have htable : LiveTable.ofTimeout (.int 1) { capacity := 1 }
      = .ok { timeout := .int 1, pool := { capacity := 1 } } := rfl
  have hlifetime : (Number.int 1).toDouble? = some (Binary64.ofInt 1) := by decide +kernel
  exact answers_eq_plain hpool htable hlifetime (some listener) [] steps (by decide)
    (by decide +kernel)

/-- With an infinite lifetime, an entry that is made in the infinite past has a NaN for its deadline.
That stands before the deadline of the next entry, which is due in the infinite future and does not
expire.  And no plain table answers an insertion as a live one does whose lifetime has no
double. -/
theorem answers_ne_plain :
    let hidden : List TableStep :=
      [.enter (.infinity true) ⟨1⟩, .enter (.zero false) ⟨2⟩, .expire (.infinity false)]
    let endless : LiveTable :=
      { timeout := .double (.infinity false), pool := { capacity := 1024 } }
    let enormous : LiveTable := { timeout := .int (10 ^ 400), pool := { capacity := 1024 } }
    LiveTable.ofTimeout endless.timeout endless.pool = .ok endless ∧
      (∀ now ∈ TableStep.entryTimes hidden, now.isNaN = false) ∧
      TableOps.live.answers none { table := endless, heard := () } hidden
        ≠ (TableOps.plain (.infinity false)).answers none { table := {}, heard := () } hidden ∧
      LiveTable.ofTimeout enormous.timeout enormous.pool = .ok enormous ∧
      ∀ lifetime now id,
        TableOps.live.answers none { table := enormous, heard := () } [.enter now id]
          ≠ (TableOps.plain lifetime).answers none { table := {}, heard := () }
              [.enter now id] := by
  intro hidden endless enormous
  refine ⟨if_neg (by decide +kernel), by decide +kernel, by decide +kernel,
    if_neg (by decide +kernel), fun lifetime now id h => ?_⟩
  have hlifetime : (Number.int (10 ^ 400)).toDouble? = none := by decide +kernel
  have hdeadline : enormous.deadline now = .error .tooLarge := by rw [deadline, hlifetime]
  have hlive : TableOps.live.answers none { table := enormous, heard := () } [.enter now id]
      = [.entered (some .tooLarge)] := by
    have habsent : enormous.live? id = none := rfl
    have henter := enter_error habsent hdeadline
    unfold TableOps.answers TableOps.step
    simp only [TableOps.live, henter]
    rfl
  rw [hlive] at h
  cases h

end LiveTable

end RetrievalTelemetry
