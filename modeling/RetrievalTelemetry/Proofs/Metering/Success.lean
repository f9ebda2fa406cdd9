/-
What a success tells, in terms of the events that its retrieval lived through.

A success reads the progress once.  Each of its samples comes from one piece of the progress, and
`Reports` says which: the counts from the sums, the duration from the first start, the rate from the
first byte, if that is strictly earlier.  The other updates of a success give no sample to these
histograms, so every list of samples is known in full.
-/
import RetrievalTelemetry.Proofs.Metering.Delivered
import RetrievalTelemetry.Proofs.Metering.Rate

namespace RetrievalTelemetry

/-- The samples of a histogram, with their attributes. -/
def Update.sampled (h : Histogram) (updates : List Update) : List (Number × Attributes) :=
  updates.filterMap fun
    | .add .. => none
    | .record h' value attributes => if h' = h then some (value, attributes) else none

namespace Event

/-- What was transferred until a success: the bytes and the time since the first of them, if both are
known and it is longer than nothing. -/
def transfer? (e : Event) (events : List Event) : Option (Int × Duration) :=
  match e.received?, firstTime? .retrieval .firstByte events with
  | some bytes, some first =>
    if first.isBefore e.time then some (bytes, e.time.since first) else none
  | _, _ => none

/-- The samples of a success are those of the events of its retrieval. -/
structure Reports (e : Event) (events : List Event) (updates : List Update) : Prop where
  candidates : Update.sampled .candidatesPerRequest updates
    = [(.int (counted .candidatesFound events), [])]
  filtered : Update.sampled .filteredPerRequest updates
    = [(.int (counted .candidatesFiltered events), [])]
  failures : Update.sampled .failuresPerRequest updates
    = [(.int (failedAttempts events), [])]
  duration : Update.sampled .dealDuration updates
    = (firstTime? .indexer .started events).toList.map fun start =>
        (.double (e.time.since start).toSeconds,
         Update.protocol (Transport.ofProvider e.provider).name)
  size : Update.sampled .dealSize updates
    = e.received?.toList.map fun bytes =>
        (.int bytes, Update.protocol (Transport.ofProvider e.provider).name)
  bandwidth : match e.transfer? events with
    | none => Update.sampled .bandwidth updates = []
    | some (bytes, span) => ∃ rate, Metering.transferRate bytes span.toSeconds = .ok rate ∧
        Update.sampled .bandwidth updates
          = [(.int rate, Update.protocol (Transport.ofProvider e.provider).name)]

end Event

namespace Metering

open Update (sampled)

/-- A success ends its retrieval. -/
theorem rule_success {e : Event} (hphase : e.phase = .retrieval) (hcode : e.code = .success) :
    rule e = .close (successUpdates e) := by
  unfold rule
  rw [hphase, hcode]
  rfl

theorem sampled_append (h : Histogram) (us vs : List Update) :
    sampled h (us ++ vs) = sampled h us ++ sampled h vs :=
  List.filterMap_append

theorem sampled_sinceStart (h h' : Histogram) (time : Timestamp) (attributes : Attributes)
    (start : Option Timestamp) :
    sampled h (sinceStart h' time attributes start)
      = if h' = h then
          start.toList.map fun start => (.double (time.since start).toSeconds, attributes)
        else [] := by
  cases start with
  | none => simp [sinceStart, sampled]
  | some start => by_cases hh : h' = h <;> simp [sinceStart, sampled, Update.seconds, hh]

/-- The head of a success has the duration and no other sample. -/
theorem sampled_successHead (h : Histogram) (e : Event) (p : Progress) :
    sampled h (successHead e p)
      = if .dealDuration = h then
          p.start.toList.map fun start =>
            (.double (e.time.since start).toSeconds,
             Update.protocol (Transport.ofProvider e.provider).name)
        else [] := by
  unfold successHead
  dsimp only
  rw [sampled_append, sampled_sinceStart]
  have hcounters : ∀ c d a b, sampled h [.count c a, .count d b] = [] := fun _ _ _ _ => rfl
  split <;> rw [hcounters] <;> rfl

/-- Without a fault, a success tells its size if it has one, and its rate if there was a transfer. -/
theorem successTransfer_cases {e : Event} {events : List Event} {p : Progress}
    (hsummary : Progress.Summary events p) (hfault : (successTransfer e p).2 = none) :
    ∃ rates, (successTransfer e p).1
        = (e.received?.toList.map fun bytes =>
            .whole .dealSize bytes (Update.protocol (Transport.ofProvider e.provider).name)) ++ rates ∧
      match e.transfer? events with
      | none => rates = []
      | some (bytes, span) => ∃ rate, transferRate bytes span.toSeconds = .ok rate ∧
          rates = [.whole .bandwidth rate
            (Update.protocol (Transport.ofProvider e.provider).name)] := by
  have hfirst := hsummary.firstByte
  unfold successTransfer at hfault ⊢
  unfold Event.transfer?
  rw [← hfirst]
  cases hreceived : e.received? with
  | none => exact ⟨[], rfl, rfl⟩
  | some bytes =>
      rw [hreceived] at hfault
      cases hbyte : p.firstByte with
      | none => exact ⟨[], rfl, rfl⟩
      | some first =>
          rw [hbyte] at hfault
          dsimp only at hfault ⊢
          rw [zero_lt_since] at hfault ⊢
          by_cases hbefore : first.isBefore e.time = true
          · rw [if_pos hbefore] at hfault ⊢
            rw [if_pos hbefore]
            cases hrate : transferRate bytes (e.time.since first).toSeconds with
            | error fault =>
                rw [hrate] at hfault
                cases hfault
            | ok rate => exact ⟨[_], rfl, rate, hrate, rfl⟩
          · rw [if_neg hbefore, if_neg hbefore]
            exact ⟨[], rfl, rfl⟩

/-- What a success tells that is not stopped. -/
theorem reports_successUpdates {e : Event} {events : List Event} {p : Progress}
    (hsummary : Progress.Summary events p) (hfault : (successUpdates e p).2 = none) :
    e.Reports events (successUpdates e p).1 := by
  have hcases := successTransfer_cases (e := e) hsummary
  unfold successUpdates at hfault ⊢
  rcases htransfer : successTransfer e p with ⟨transfer, fault⟩
  rw [htransfer] at hfault hcases
  cases fault with
  | some fault => cases hfault
  | none =>
      obtain ⟨rates, htold, hrates⟩ := hcases rfl
      obtain rfl : transfer = _ := htold
      have hsize : ∀ h, sampled h (e.received?.toList.map fun bytes =>
          .whole .dealSize bytes (Update.protocol (Transport.ofProvider e.provider).name))
            = if .dealSize = h then
                e.received?.toList.map fun bytes =>
                  (.int bytes, Update.protocol (Transport.ofProvider e.provider).name)
              else [] := by
        intro h
        cases e.received? with
        | none => simp [sampled]
        | some bytes => by_cases hh : Histogram.dealSize = h <;> simp [sampled, Update.whole, hh]
      have hrate : ∀ {h}, h ≠ .bandwidth → sampled h rates = [] := by
        intro h hh
        cases hbytes : e.transfer? events with
        | none =>
            rw [hbytes] at hrates
            rw [hrates]
            rfl
        | some transfer =>
            rw [hbytes] at hrates
            obtain ⟨rate, -, rfl⟩ := hrates
            simp [sampled, Update.whole, Ne.symm hh]
      have hall : ∀ h, sampled h (successHead e p ++ ((e.received?.toList.map fun bytes =>
            .whole .dealSize bytes (Update.protocol (Transport.ofProvider e.provider).name)) ++ rates)
            ++ perRequest p.candidates p.filtered p.failures) = _ := fun h => by
        rw [sampled_append, sampled_append, sampled_append, sampled_successHead, hsize]
      refine ⟨?_, ?_, ?_, ?_, ?_, ?_⟩
      · rw [hall, hrate (by decide), ← hsummary.candidates]
        rfl
      · rw [hall, hrate (by decide), ← hsummary.filtered]
        rfl
      · rw [hall, hrate (by decide), ← hsummary.failures]
        rfl
      · rw [hall, hrate (by decide), hsummary.start]
        simp [perRequest, sampled, Update.whole]
      · rw [hall, hrate (by decide)]
        simp [perRequest, sampled, Update.whole]
      · rw [hall]
        cases hbytes : e.transfer? events with
        | none =>
            rw [hbytes] at hrates
            rw [hrates]
            rfl
        | some transfer =>
            rw [hbytes] at hrates
            obtain ⟨rate, hok, rfl⟩ := hrates
            exact ⟨rate, hok, rfl⟩

end Metering

end RetrievalTelemetry
