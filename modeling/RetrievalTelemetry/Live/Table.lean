/-
The table of live retrievals.

An entry is made when a retrieval is first heard of, and removed once: when the retrieval
is finished, or when its time is up.  The time is fixed when the entry is made; what
happens later does not move it.

Deadlines stand in a queue in the order of their times, and of their making among equal
times.  A retrieval that is finished leaves its deadline in the queue; when that comes up,
the number it carries belongs to no live entry any more, and nothing happens.
-/
import RetrievalTelemetry.Live.Slots
import RetrievalTelemetry.Number
import RetrievalTelemetry.Uuid

namespace RetrievalTelemetry

/-- A live retrieval: where its progress is kept, and the number of its entry. -/
structure LiveEntry where
  handle : Handle
  sequence : Nat
deriving DecidableEq, Repr

/-- The deadline of an entry. -/
structure Deadline where
  time : Binary64
  sequence : Nat
  id : Uuid
deriving DecidableEq, Repr

/-- Whether a deadline comes before another one. -/
def Deadline.isBefore (a b : Deadline) : Bool :=
  if a.time.eq b.time then a.sequence < b.sequence else a.time.lt b.time

/-- Puts a deadline into a queue, behind all that come before it. -/
def Deadline.insert (d : Deadline) : List Deadline → List Deadline
  | [] => [d]
  | e :: rest => if d.isBefore e then d :: e :: rest else e :: d.insert rest

/-- The live retrievals. -/
structure LiveTable where
  /-- How long an entry lives, in seconds. -/
  timeout : Number
  pool : Pool
  slots : Slots := #[]
  entries : List (Uuid × LiveEntry) := []
  queue : List Deadline := []
  /-- The number of entries ever made. -/
  sequence : Nat := 0
  /-- The number of entries whose time was up. -/
  expiredTotal : Nat := 0

/-- The lifetime of an entry must be positive. -/
structure TimeoutError where
  timeout : Number
deriving DecidableEq, Repr

/-- Whoever is told of retrievals whose time was up.  It keeps a state of its own, and it may throw. -/
abbrev Listener (σ : Type) := Uuid → Progress → σ → Except String Unit × σ

/-- The words for a lifetime that is not positive. -/
def TimeoutError.message (e : TimeoutError) : String :=
  "timeout must be positive, got " ++ e.timeout.render .plain

namespace LiveTable

/-- An empty table. -/
def ofTimeout (timeout : Number) (pool : Pool) : Except TimeoutError LiveTable :=
  if timeout.le (.int 0) then .error ⟨timeout⟩ else .ok { timeout := timeout, pool := pool }

def live? (t : LiveTable) (id : Uuid) : Option LiveEntry := t.entries.lookup id

def contains (t : LiveTable) (id : Uuid) : Bool := (t.live? id).isSome

/-- The number of live retrievals. -/
def size (t : LiveTable) : Nat := t.entries.length

/-- The deadline of an entry that is made at the time `now`; a lifetime may be too large for a double. -/
def deadline (t : LiveTable) (now : Binary64) : Except ArithmeticError Binary64 :=
  match t.timeout.toDouble? with
  | none => .error .tooLarge
  | some timeout => .ok (now.add timeout)

/-- Makes an entry in a slot from the pool, with no deadline yet. -/
def insert (t : LiveTable) (id : Uuid) : Handle × LiveTable :=
  let (i, pool, slots) := t.pool.acquire t.slots
  let handle := slots.handle i
  (handle,
   { t with
     pool := pool
     slots := slots
     entries := t.entries ++ [(id, ⟨handle, t.sequence⟩)]
     sequence := t.sequence + 1 })

/-- The handle of a retrieval, which is made live at the time `now` if it is not.  Without a deadline
nobody gets a handle, but the entry is made and stays. -/
def enter (t : LiveTable) (now : Binary64) (id : Uuid) : Except ArithmeticError Handle × LiveTable :=
  match t.live? id with
  | some entry => (.ok entry.handle, t)
  | none =>
    let (handle, made) := t.insert id
    match t.deadline now with
    | .error error => (.error error, made)
    | .ok time => (.ok handle, { made with queue := Deadline.insert ⟨time, t.sequence, id⟩ made.queue })

/-- Writes through a handle. -/
def write (t : LiveTable) (h : Handle) (mark : Mark) : MarkAnswer × LiveTable :=
  let (answer, slots) := t.slots.write h mark
  (answer, { t with slots := slots })

/-- The start time seen through a handle. -/
def startTime (t : LiveTable) (h : Handle) : Option Timestamp := t.slots.startTime h

/-- The progress in the slot of a handle, whatever its epoch. -/
def progress (t : LiveTable) (h : Handle) : Progress := (t.slots.slot h.slot).progress

/-- Takes what is known out of the slot of a removed entry and gives the slot back.  The slot begins
two epochs: one when it is emptied, one when the pool clears it. -/
def retire (t : LiveTable) (entry : LiveEntry) : Progress × LiveTable :=
  let progress := t.progress entry.handle
  let slots := t.slots.clear entry.handle.slot
  let (pool, slots) := t.pool.release slots entry.handle.slot
  (progress, { t with pool := pool, slots := slots })

/-- Takes a retrieval out of the entries. -/
def removeEntry (t : LiveTable) (id : Uuid) : LiveTable :=
  { t with entries := t.entries.filter fun e => e.1 ≠ id }

/-- Ends a retrieval; nothing if it is not live. -/
def finish (t : LiveTable) (id : Uuid) : Option Progress × LiveTable :=
  match t.live? id with
  | none => (none, t)
  | some entry =>
    let (progress, t) := (t.removeEntry id).retire entry
    (some progress, t)

/-- Removes the entries of a list of deadlines that are due, as far as they are still live. -/
def removeDue (t : LiveTable) : List Deadline → List (Uuid × LiveEntry) × LiveTable
  | [] => ([], t)
  | d :: rest =>
    match t.live? d.id with
    | none => t.removeDue rest
    | some entry =>
      if entry.sequence = d.sequence then
        let (removed, t) := (t.removeEntry d.id).removeDue rest
        ((d.id, entry) :: removed, t)
      else t.removeDue rest

/-- Retires removed entries in order. -/
def retireAll (t : LiveTable) : List (Uuid × LiveEntry) → List (Uuid × Progress) × LiveTable
  | [] => ([], t)
  | (id, entry) :: rest =>
    let (progress, t) := t.retire entry
    let (others, t) := t.retireAll rest
    ((id, progress) :: others, t)

/-- Takes every entry whose deadline has come at the time `now` out of the table, in the order of the
deadlines. -/
def popDue (t : LiveTable) (now : Binary64) : List (Uuid × LiveEntry) × LiveTable :=
  let isDue := fun (d : Deadline) => d.time.le now
  let due := t.queue.takeWhile isDue
  let (removed, t) := { t with queue := t.queue.dropWhile isDue }.removeDue due
  (removed, { t with expiredTotal := t.expiredTotal + removed.length })

/-- Removes every entry whose deadline has come at the time `now`, in the order of the deadlines. -/
def expire (t : LiveTable) (now : Binary64) : List (Uuid × Progress) × LiveTable :=
  let (removed, t) := t.popDue now
  t.retireAll removed

/-- Retires removed entries in order and tells a listener of each, if there is one.  What the listener
throws stops nothing. -/
def retireTelling {σ : Type} (t : LiveTable) (listener : Option (Listener σ)) (state : σ) :
    List (Uuid × LiveEntry) → σ × LiveTable
  | [] => (state, t)
  | (id, entry) :: rest =>
    let (progress, t) := t.retire entry
    match listener with
    | none => t.retireTelling listener state rest
    | some tell =>
      match tell id progress state with
      | (.ok (), state) => t.retireTelling listener state rest
      | (.error _, state) => t.retireTelling listener state rest

/-- Removes every entry whose deadline has come at the time `now` and tells a listener of each; answers
how many there were. -/
def expireTelling {σ : Type} (t : LiveTable) (now : Binary64) (listener : Option (Listener σ)) (state : σ) :
    Nat × σ × LiveTable :=
  let (removed, t) := t.popDue now
  (removed.length, t.retireTelling listener state removed)

end LiveTable

end RetrievalTelemetry
