/-
The live table without its machinery.

A plain table is the list of the records of the live retrievals, in the order in which they
were made.  A record is never used again for another retrieval, there are no epochs and no
queue: whoever was given a record knows its number, and the number reaches the record as long as
it is in the list.  A deadline stands in the record and is looked at when an expiry comes.

`LiveTable.plain` reads a live table this way.  The lemmas of this file say what it reads of a
table that was changed in one of the ways in which the operations change it.
-/
import Mathlib.Data.List.Nodup
import RetrievalTelemetry.Proofs.Live.Expiry

namespace RetrievalTelemetry

/-- What the plain table knows of a live retrieval. -/
structure PlainRecord where
  /-- How many records were made before. -/
  number : Nat
  id : Uuid
  /-- When the time is up; a NaN never comes. -/
  deadline : Binary64
  progress : Progress := Progress.empty
deriving DecidableEq

namespace PlainRecord

/-- Whether the time is up. -/
def isDue (now : Binary64) (r : PlainRecord) : Bool := r.deadline.le now

/-- The order in which records expire: by their deadlines, and by their making among equal ones. -/
def comesBefore (a b : PlainRecord) : Bool :=
  a.deadline.lt b.deadline || (a.deadline.eq b.deadline && a.number ≤ b.number)

end PlainRecord

/-- The records of the live retrievals. -/
structure PlainTable where
  records : List PlainRecord := []
  /-- The number of records ever made. -/
  created : Nat := 0
  /-- The number of records whose time was up. -/
  expiredTotal : Nat := 0

namespace PlainTable

/-- The record of a live retrieval. -/
def record? (p : PlainTable) (id : Uuid) : Option PlainRecord := p.records.find? fun r => r.id == id

/-- The record with a number, as long as it is there. -/
def numbered? (p : PlainTable) (n : Nat) : Option PlainRecord :=
  p.records.find? fun r => r.number == n

/-- Whether a retrieval is live. -/
def contains (p : PlainTable) (id : Uuid) : Bool := (p.record? id).isSome

/-- The number of live retrievals. -/
def size (p : PlainTable) : Nat := p.records.length

/-- Makes a record of its own for a retrieval. -/
def insert (p : PlainTable) (id : Uuid) (deadline : Binary64) : PlainTable :=
  { p with
    records := p.records ++ [{ number := p.created, id := id, deadline := deadline }]
    created := p.created + 1 }

/-- The number of the record of a retrieval, which is made at the time `now` if there is none and
then expires when the lifetime is over. -/
def enter (p : PlainTable) (lifetime now : Binary64) (id : Uuid) : Nat × PlainTable :=
  match p.record? id with
  | some r => (r.number, p)
  | none => (p.created, p.insert id (now.add lifetime))

/-- Writes to the record with a number; a write that comes too late changes nothing. -/
def write (p : PlainTable) (n : Nat) (mark : Mark) : MarkAnswer × PlainTable :=
  match p.numbered? n with
  | none => (mark.lateAnswer, p)
  | some r =>
    ((r.progress.mark mark).1,
     { p with
       records := p.records.map fun r =>
         if r.number = n then { r with progress := (r.progress.mark mark).2 } else r })

/-- The start time in the record with a number. -/
def startTime (p : PlainTable) (n : Nat) : Option Timestamp :=
  (p.numbered? n).bind fun r => r.progress.start

/-- Removes the record of a retrieval. -/
def finish (p : PlainTable) (id : Uuid) : Option Progress × PlainTable :=
  match p.record? id with
  | none => (none, p)
  | some r => (some r.progress, { p with records := p.records.filter fun r => r.id ≠ id })

/-- Removes the records whose time is up. -/
def expire (p : PlainTable) (now : Binary64) : List (Uuid × Progress) × PlainTable :=
  let due := (p.records.filter (PlainRecord.isDue now)).mergeSort PlainRecord.comesBefore
  (due.map fun r => (r.id, r.progress),
   { p with
     records := p.records.filter fun r => !r.isDue now
     expiredTotal := p.expiredTotal + due.length })

end PlainTable

/-- In a list without repeated keys, a key finds its own element. -/
theorem find?_key_of_mem {α κ : Type} [BEq κ] [LawfulBEq κ] {key : α → κ} {l : List α}
    (hnodup : (l.map key).Nodup) {a : α} (ha : a ∈ l) :
    l.find? (fun b => key b == key a) = some a := by
  obtain ⟨b, hb⟩ : ∃ b, l.find? (fun b => key b == key a) = some b := by
    rw [← Option.isSome_iff_exists, List.find?_isSome]
    exact ⟨a, ha, by simp⟩
  rw [hb]
  have hkey : key b = key a := by simpa using List.find?_some hb
  rw [List.inj_on_of_nodup_map hnodup (List.mem_of_find?_eq_some hb) ha hkey]

theorem find?_key_eq_none {α κ : Type} [BEq κ] [LawfulBEq κ] {key : α → κ} {l : List α} {k : κ} :
    l.find? (fun b => key b == k) = none ↔ ∀ a ∈ l, key a ≠ k := by
  simp

/-! ### The deadlines of entries -/

namespace Deadline

/-- The time of the deadline with a number; a NaN if there is none. -/
def timeOf (queue : List Deadline) (n : Nat) : Binary64 :=
  ((queue.find? fun d => d.sequence == n).map Deadline.time).getD .nan

theorem timeOf_of_mem {queue : List Deadline} (hnodup : (queue.map Deadline.sequence).Nodup)
    {d : Deadline} (hd : d ∈ queue) : timeOf queue d.sequence = d.time := by
  unfold timeOf
  rw [find?_key_of_mem hnodup hd]
  rfl

theorem timeOf_of_not_mem {queue : List Deadline} {n : Nat} (h : ∀ d ∈ queue, d.sequence ≠ n) :
    timeOf queue n = .nan := by
  unfold timeOf
  rw [find?_key_eq_none.mpr h]
  rfl

/-- A deadline that is put into a queue is found there, and no other is lost. -/
theorem timeOf_insert {queue : List Deadline} {d : Deadline}
    (hnodup : ((d.insert queue).map Deadline.sequence).Nodup) (n : Nat) :
    timeOf (d.insert queue) n = if n = d.sequence then d.time else timeOf queue n := by
  split
  · rename_i hn
    rw [hn, timeOf_of_mem hnodup (mem_insert.mpr (Or.inl rfl))]
  · rename_i hn
    have hperm := (insert_perm d queue).map Deadline.sequence
    have htail : (queue.map Deadline.sequence).Nodup :=
      (List.nodup_cons.mp (hperm.nodup_iff.mp hnodup)).2
    by_cases h : ∃ e ∈ queue, e.sequence = n
    · obtain ⟨e, he, rfl⟩ := h
      rw [timeOf_of_mem hnodup (mem_insert.mpr (Or.inr he)), timeOf_of_mem htail he]
    · have hno : ∀ e ∈ queue, e.sequence ≠ n := fun e he hnum => h ⟨e, he, hnum⟩
      rw [timeOf_of_not_mem hno, timeOf_of_not_mem]
      intro e he
      rcases mem_insert.mp he with rfl | he
      · exact fun hc => hn hc.symm
      · exact hno e he

/-- A number that comes to a due time is the number of a due deadline. -/
theorem le_timeOf_iff {queue : List Deadline} (hnodup : (queue.map Deadline.sequence).Nodup)
    {n : Nat} {now : Binary64} :
    (timeOf queue n).le now = true ↔ ∃ d ∈ queue, d.time.le now = true ∧ d.sequence = n := by
  constructor
  · intro h
    by_cases hn : ∃ d ∈ queue, d.sequence = n
    · obtain ⟨d, hd, rfl⟩ := hn
      rw [timeOf_of_mem hnodup hd] at h
      exact ⟨d, hd, h, rfl⟩
    · rw [timeOf_of_not_mem fun d hd hnum => hn ⟨d, hd, hnum⟩] at h
      exact absurd h (by simp [Binary64.le, Binary64.compare?])
  · rintro ⟨d, hd, hle, rfl⟩
    rwa [timeOf_of_mem hnodup hd]

/-- Dropping the due deadlines loses the times of no others. -/
theorem timeOf_filter {queue : List Deadline} (hnodup : (queue.map Deadline.sequence).Nodup)
    {n : Nat} {now : Binary64} (hn : (timeOf queue n).le now = false) :
    timeOf (queue.filter fun d => !d.time.le now) n = timeOf queue n := by
  by_cases h : ∃ d ∈ queue, d.sequence = n
  · obtain ⟨d, hd, rfl⟩ := h
    rw [timeOf_of_mem hnodup hd] at hn ⊢
    exact timeOf_of_mem (hnodup.sublist (List.filter_sublist.map _))
      (List.mem_filter.mpr ⟨hd, by simp [hn]⟩)
  · have hno : ∀ d ∈ queue, d.sequence ≠ n := fun d hd hnum => h ⟨d, hd, hnum⟩
    rw [timeOf_of_not_mem hno, timeOf_of_not_mem]
    exact fun d hd => hno d (List.mem_of_mem_filter hd)

end Deadline

end RetrievalTelemetry
