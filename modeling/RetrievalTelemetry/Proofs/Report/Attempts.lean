/-
Successes and attempts in a report.

A retrieval counts as an attempt over a transport if any event outside the indexer phase went over
it, and as a success over the transport of its earliest success.  The phase of that success is
not looked at.  So a success that is reported in the indexer phase can count without an attempt:
such a retrieval is a stray.  Strays are the only reason for more successes than attempts.
-/
import RetrievalTelemetry.Proofs.Report.Facts
import RetrievalTelemetry.Proofs.Report.Totals

namespace RetrievalTelemetry

namespace Event

/-- Whether some of the events of a retrieval is an attempt over a transport. -/
def anyTries (t : Transport) (events : List Event) : Bool := events.any (tries t)

/-- Whether a retrieval with these events succeeded over a transport. -/
def successOver (t : Transport) (events : List Event) : Bool :=
  (earliest? (events.filter isSuccess)).any fun s => Transport.ofProvider s.provider = t

/-- A success over a transport that was never tried was reported by the indexer. -/
theorem exists_indexer_success {t : Transport} {events : List Event}
    (hsuccess : successOver t events = true) (htries : anyTries t events = false) :
    ∃ e ∈ events, e.code = .success ∧ e.phase = .indexer := by
  unfold successOver at hsuccess
  cases he : earliest? (events.filter isSuccess) with
  | none =>
      rw [he] at hsuccess
      cases hsuccess
  | some e =>
      rw [he] at hsuccess
      have hover : Transport.ofProvider e.provider = t := by simpa using hsuccess
      obtain ⟨hmem, hcode⟩ := List.mem_filter.mp (earliest?_spec he).1
      refine ⟨e, hmem, by simpa [isSuccess] using hcode, ?_⟩
      have hnot := List.any_eq_false.mp htries e hmem
      by_contra hphase
      exact hnot (by simp [tries, hphase, hover])

end Event

namespace Report

open Event (ids ofRetrieval anyTries successOver)

/-- The retrievals that succeeded over a transport; events name only two of them. -/
def successes (r : Report) : Transport → Nat
  | .bitswap => r.bitswapSuccesses
  | .graphsync => r.graphsyncSuccesses
  | .http => 0

/-- The retrievals that tried a transport. -/
def attempts (r : Report) : Transport → Nat
  | .bitswap => r.attemptedBitswap
  | .graphsync => r.attemptedGraphsync
  | .http => 0

/-- The retrievals that succeeded over a transport without an attempt over it. -/
def strays (t : Transport) (log : List Event) : Nat :=
  (ids log).countP fun id =>
    successOver t (ofRetrieval id log) && !anyTries t (ofRetrieval id log)

/-- The retrievals that tried a transport and did not succeed over it. -/
def unsuccessful (t : Transport) (log : List Event) : Nat :=
  (ids log).countP fun id =>
    anyTries t (ofRetrieval id log) && !successOver t (ofRetrieval id log)

theorem ofProvider_ne_http (provider : String) : Transport.ofProvider provider ≠ .http := by
  unfold Transport.ofProvider
  split <;> simp

/-- The successes of a report, counted in its log. -/
theorem successes_eq {log : List Event} {r : Report} (h : Report.ofLog log = .ok r)
    (t : Transport) : r.successes t = (ids log).countP fun id => successOver t (ofRetrieval id log) := by
  have htotals := totals_ofLog h
  have hcount : ((RetrievalFacts.ofLog log).map (·.2)).countP (RetrievalFacts.succeeded t)
      = (ids log).countP fun id => successOver t (ofRetrieval id log) :=
    RetrievalFacts.countP_ofLog log fun events f hf => by
      rw [RetrievalFacts.succeeded, hf.success, successOver]
  rw [← hcount]
  cases t with
  | bitswap => exact htotals.bitswapSuccesses
  | graphsync => exact htotals.graphsyncSuccesses
  | http =>
      refine (List.countP_eq_zero.mpr fun f _ => ?_).symm
      simp [RetrievalFacts.succeeded, ofProvider_ne_http]

/-- The attempts of a report, counted in its log. -/
theorem attempts_eq {log : List Event} {r : Report} (h : Report.ofLog log = .ok r)
    (t : Transport) : r.attempts t = (ids log).countP fun id => anyTries t (ofRetrieval id log) := by
  have htotals := totals_ofLog h
  cases t with
  | bitswap =>
      exact htotals.attemptedBitswap.trans
        (RetrievalFacts.countP_ofLog log fun events f hf => hf.bitswap)
  | graphsync =>
      exact htotals.attemptedGraphsync.trans
        (RetrievalFacts.countP_ofLog log fun events f hf => hf.graphsync)
  | http =>
      refine (List.countP_eq_zero.mpr fun id _ => ?_).symm
      simp [anyTries, Event.tries, ofProvider_ne_http]

/-- What passes one of two tests is what passes both and what passes it alone. -/
theorem countP_split {α : Type} (p q : α → Bool) (l : List α) :
    l.countP p = (l.countP fun a => p a && q a) + l.countP fun a => p a && !q a := by
  rw [List.countP_eq_countP_filter_add l p q, List.countP_filter, List.countP_filter]

/-- If no success is reported by the indexer, there are no strays. -/
theorem strays_eq_zero {log : List Event} (h : ∀ e ∈ log, e.code = .success → e.phase ≠ .indexer)
    (t : Transport) : strays t log = 0 := by
  refine List.countP_eq_zero.mpr fun id _ hstray => ?_
  obtain ⟨hsuccess, htries⟩ := (Bool.and_eq_true _ _).mp hstray
  obtain ⟨e, he, hcode, hphase⟩ :=
    Event.exists_indexer_success hsuccess (by simpa using htries)
  exact h e (List.mem_of_mem_filter he) hcode hphase

/-- Successes and the attempts that did not succeed are attempts and strays.  So there are no more
successes than attempts exactly if there are no more strays than attempts that did not succeed, and
there are none at all if no success is reported by the indexer. -/
theorem successes_le_attempts_iff {log : List Event} {r : Report} (h : Report.ofLog log = .ok r)
    (t : Transport) :
    r.successes t + unsuccessful t log = r.attempts t + strays t log ∧
      (r.successes t ≤ r.attempts t ↔ strays t log ≤ unsuccessful t log) ∧
      ((∀ e ∈ log, e.code = .success → e.phase ≠ .indexer) →
        strays t log = 0 ∧ r.successes t ≤ r.attempts t) := by
  have hsuccesses := successes_eq h t
  have hattempts := attempts_eq h t
  rw [countP_split _ (fun id => anyTries t (ofRetrieval id log))] at hsuccesses
  rw [countP_split _ (fun id => successOver t (ofRetrieval id log))] at hattempts
  have hboth : ((ids log).countP fun id =>
        anyTries t (ofRetrieval id log) && successOver t (ofRetrieval id log))
      = (ids log).countP fun id =>
        successOver t (ofRetrieval id log) && anyTries t (ofRetrieval id log) := by
    simp only [Bool.and_comm]
  rw [hboth] at hattempts
  have hsum : r.successes t + unsuccessful t log = r.attempts t + strays t log := by
    unfold unsuccessful strays
    omega
  refine ⟨hsum, ?_, fun hphase => ?_⟩
  · constructor
    · intro hle
      omega
    · intro hle
      omega
  · have hzero := strays_eq_zero hphase t
    exact ⟨hzero, by omega⟩

/-- One success in the indexer phase is a success over bitswap without an attempt. -/
theorem success_without_attempt :
    let e : Event :=
      { retrieval := ⟨1⟩, instanceId := "i", cid := "c", provider := "Bitswap", phase := .indexer
        phaseStart := ⟨0, 0⟩, code := .success, time := ⟨0, 0⟩, raw := .null }
    (Report.ofLog [e]).map (fun r => (r.bitswapSuccesses, r.attemptedBitswap)) = .ok (1, 0) :=
  rfl

/-- A stray is outweighed by an attempt that did not succeed; without the stray there is a success
for the attempt. -/
theorem successes_le_attempts_iff_stray :
    let e : Event :=
      { retrieval := ⟨1⟩, instanceId := "i", cid := "c", provider := "Bitswap", phase := .indexer
        phaseStart := ⟨0, 0⟩, code := .success, time := ⟨0, 0⟩, raw := .null }
    let log := [e, { e with retrieval := ⟨2⟩, phase := .retrieval, code := .started }]
    let log' := [{ e with phase := .retrieval }]
    (∃ r, Report.ofLog log = .ok r ∧ strays .bitswap log = 1 ∧ unsuccessful .bitswap log = 1 ∧
      r.successes .bitswap + unsuccessful .bitswap log
        = r.attempts .bitswap + strays .bitswap log ∧
      r.successes .bitswap ≤ r.attempts .bitswap) ∧
    ∃ r', Report.ofLog log' = .ok r' ∧ r'.successes .bitswap = 1 ∧
      r'.successes .bitswap ≤ r'.attempts .bitswap := by
  intro e log log'
  obtain ⟨r, hr⟩ : ∃ r, Report.ofLog log = .ok r := ⟨_, rfl⟩
  obtain ⟨hsum, hle, -⟩ := successes_le_attempts_iff hr .bitswap
  have hstrays : strays .bitswap log = 1 := by decide +kernel
  have hunsuccessful : unsuccessful .bitswap log = 1 := by decide +kernel
  refine ⟨⟨r, hr, hstrays, hunsuccessful, hsum, hle.mpr (by omega)⟩, ⟨_, rfl, rfl, ?_⟩⟩
  have hphase : ∀ x ∈ log', x.code = .success → x.phase ≠ .indexer := by
    intro x hx _
    obtain rfl := List.mem_singleton.mp hx
    simp
  exact ((successes_le_attempts_iff rfl .bitswap).2.2 hphase).2

end Report

end RetrievalTelemetry
