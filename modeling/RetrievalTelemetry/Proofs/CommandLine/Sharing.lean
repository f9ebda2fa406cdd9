/-
A report and a wipe while a recorder goes on storing events.

The command that reports on a log and wipes it has two transactions: one reads all events, the other
deletes all events.  Nothing keeps others from storing events in between.  So the command and the
recorder take turns in any order here, each turn being one transaction.

Events are told apart by how far the command was when they were committed: before it had read the
log, between reading and wiping, or behind that.  `Accounted` says where the events of each kind are.
Events of the first kind are in the report and those of the last kind in the log, but events of
the second kind are deleted without having been in the report.
-/
import RetrievalTelemetry.CommandLine.Basic
import RetrievalTelemetry.Proofs.EventLog.History
import RetrievalTelemetry.Proofs.Report.Existence

namespace RetrievalTelemetry.CommandLine

open EventLog (Holds)

/-! ### Turns -/

/-- How far a command has come that reports on a log and wipes it. -/
inductive Stage where
  /-- The log is open and not yet read. -/
  | opened
  /-- The report is there, and the log is not yet wiped. -/
  | reported (report : Report)
  /-- The log was wiped of a number of events. -/
  | wiped (report : Report) (count : Nat)
  /-- The command has ended early, with a report or without one. -/
  | stopped (report : Option Report) (ending : Ending)

/-- A moment as the two transactions of a command see it. -/
inductive Moment where
  | before
  | between
  | behind
deriving DecidableEq

namespace Stage

def moment : Stage → Moment
  | opened => .before
  | reported _ => .between
  | wiped .. => .behind
  | stopped .. => .behind

def isWiped : Stage → Bool
  | wiped .. => true
  | _ => false

/-- The report, once there is one. -/
def report? : Stage → Option Report
  | opened => none
  | reported report => some report
  | wiped report _ => some report
  | stopped report _ => report

theorem moment_of_report {stage : Stage} {report : Report} (h : stage.report? = some report) :
    stage.moment ≠ .before := by
  cases stage with
  | opened => cases h
  | reported report => nofun
  | wiped report count => nofun
  | stopped report ending => nofun

/-- What the command answers in the end. -/
def result (world : World) (place : LogPlace) (json : Bool) (log : EventLog) (stage : Stage) :
    Result :=
  let printed := stage.report?.elim "" (reportText json)
  match stage with
  | wiped _ count =>
    { out := printed
      notes := "Wiped " ++ toString count ++ " events from the event log.\n"
      world := world.saveLog place log }
  | stopped _ ending => { ending := ending, out := printed, world := world }
  | _ => { out := printed, world := world }

end Stage

/-- A log that a recorder and a command share. -/
structure Shared where
  log : EventLog
  stage : Stage := .opened

/-- Whose turn it is. -/
inductive Turn where
  /-- The recorder tries to store a batch of events. -/
  | recorder (batch : List Event)
  /-- The command reads the log and reports on it, or it wipes the log. -/
  | command

namespace Shared

/-- The next transaction of the command. -/
def command (place : LogPlace) (s : Shared) : Shared :=
  match s.stage with
  | .opened =>
    match s.log.fetchEvents with
    | .error e => { s with stage := .stopped none (.failed (.log e)) }
    | .ok events =>
      match Report.ofLog events with
      | .error e => { s with stage := .stopped none (.halted (.arithmetic e)) }
      | .ok report => { s with stage := .reported report }
  | .reported report =>
    match wiped place s.log with
    | .error e => { s with stage := .stopped (some report) (.failed (.log e)) }
    | .ok (count, log) => { log := log, stage := .wiped report count }
  | _ => s

/-- The log after the recorder tried to store a batch, and the events that it committed. -/
def record (log : EventLog) (batch : List Event) : EventLog × List Event :=
  match log.insertEvents batch with
  | .error _ => (log, [])
  | .ok (_, log) => (log, batch)

def turn (place : LogPlace) (s : Shared) : Turn → Shared
  | .recorder batch => { s with log := (record s.log batch).1 }
  | .command => s.command place

def run (place : LogPlace) (s : Shared) (turns : List Turn) : Shared :=
  turns.foldl (turn place) s

/-- The events that a turn commits. -/
def commits (s : Shared) : Turn → List Event
  | .recorder batch => (record s.log batch).2
  | .command => []

/-- The events that are committed at a moment. -/
def committed (place : LogPlace) (m : Moment) (s : Shared) : List Turn → List Event
  | [] => []
  | t :: rest =>
    (if s.stage.moment = m then s.commits t else []) ++ committed place m (s.turn place t) rest

@[simp]
theorem stage_recorder (place : LogPlace) (s : Shared) (batch : List Event) :
    (s.turn place (.recorder batch)).stage = s.stage := rfl

@[simp]
theorem log_recorder (place : LogPlace) (s : Shared) (batch : List Event) :
    (s.turn place (.recorder batch)).log = (record s.log batch).1 := rfl

@[simp]
theorem commits_recorder (s : Shared) (batch : List Event) :
    s.commits (.recorder batch) = (record s.log batch).2 := rfl

end Shared

/-! ### A command on its own -/

/-- Without a recorder, a command that is to wipe the log takes its two turns at once. -/
theorem reportOn_eq_run {w : World} {g : Given} {settings : Settings} {url : String}
    {place : LogPlace} {log : EventLog} {events : List Event}
    (hsettings : loadSettings w g (overrides none g) = .ok settings)
    (hurl : urlOf settings = some url) (hopen : openPlace w url = .ok (place, log))
    (hheld : Holds log events) (hwipe : g.has "--wipe" = true) :
    let s := ({ log := log } : Shared).run place [.command, .command]
    reportOn w g = s.stage.result (w.saveLog place log) place (g.has "--json") s.log := by
  unfold reportOn settle Shared.run
  simp only [hsettings, hurl, hopen, hheld.fetchEvents, hwipe, bind, Except.bind, List.foldl_cons,
    List.foldl_nil, Shared.turn, Shared.command, if_true]
  cases Report.ofLog (events.map Event.inUtc) with
  | error e => rfl
  | ok report =>
      unfold wipe
      cases wiped place log with
      | error e => rfl
      | ok stored => rfl

/-- A command that can open its log halts exactly if the numbers of the log are not representable, and
then it leaves the log as it was.  So it halts again every time it is tried, and never comes to wipe
the log. -/
theorem reportOn_halts_iff {w : World} {g : Given} {settings : Settings} {url : String}
    {place : LogPlace} {log : EventLog} {events : List Event}
    (hsettings : loadSettings w g (overrides none g) = .ok settings)
    (hurl : urlOf settings = some url) (hopen : openPlace w url = .ok (place, log))
    (hheld : Holds log events) :
    let facts := (RetrievalFacts.ofLog events).map (·.2)
    ((∃ mishap, (reportOn w g).ending = .halted mishap) ↔ ¬Report.Representable facts) ∧
      (¬Report.Representable facts → (reportOn w g).world = w.saveLog place log) := by
  intro facts
  unfold reportOn settle
  simp only [hsettings, hurl, hopen, hheld.fetchEvents, bind, Except.bind, Report.ofLog_inUtc]
  rcases Report.ofLog_cases events with ⟨⟨report, hreport⟩, hfits⟩ | ⟨hfail, hfits⟩
  · rw [hreport]
    refine ⟨iff_of_false ?_ (not_not_intro hfits), fun h => absurd hfits h⟩
    rintro ⟨mishap, hhalted⟩
    dsimp only at hhalted
    split at hhalted
    · unfold wipe at hhalted
      split at hhalted <;> cases hhalted
    · cases hhalted
  · rw [hfail]
    exact ⟨iff_of_true ⟨_, rfl⟩ hfits, fun _ => rfl⟩

/-! ### The accounts -/

/-- Where the events are that were committed at the three moments. -/
structure Accounted (s : Shared) (events : Moment → List Event) : Prop where
  held : Holds s.log
    (if s.stage.isWiped then events .behind
      else events .before ++ events .between ++ events .behind)
  reported : ∀ report, s.stage.report? = some report → Report.ofLog (events .before) = .ok report
  counted : ∀ report count, s.stage = .wiped report count →
    count = (events .before ++ events .between).length
  /-- Nothing was committed at moments that are still to come. -/
  unread : s.stage.moment = .before → events .between = []
  ongoing : s.stage.moment ≠ .behind → events .behind = []

namespace Accounted

variable {s : Shared} {events : Moment → List Event}

/-- A log that is opened holds what was committed before. -/
theorem start {log : EventLog} {held : List Event} (h : Holds log held) :
    Accounted { log := log } fun m => if m = .before then held else [] where
  held := by
    simpa [Stage.isWiped] using h
  reported := by
    intro report hreport
    cases hreport
  counted := by
    intro report count hstage
    cases hstage
  unread := fun _ => rfl
  ongoing := fun _ => rfl

/-- What the recorder commits is held behind what was held. -/
theorem holds_record {log : EventLog} {held : List Event} (h : Holds log held)
    (batch : List Event) :
    Holds (Shared.record log batch).1 (held ++ (Shared.record log batch).2) := by
  unfold Shared.record
  cases hstored : log.insertEvents batch with
  | error e =>
      rw [List.append_nil]
      exact h
  | ok stored => exact h.insertEvents hstored

/-- A log that is wiped held as many events as the answer says, and holds none any more. -/
theorem holds_wiped {place : LogPlace} {log log' : EventLog} {held : List Event} {count : Nat}
    (h : Holds log held) (hwiped : wiped place log = .ok (count, log')) :
    count = held.length ∧ Holds log' [] := by
  have hstored : log.wipeEvents = .ok (count, log') := by
    unfold wiped at hwiped
    split at hwiped
    · cases hwiped
    · exact hwiped
  have hstep : log.step .wipe = .ok log' := by
    show log.wipeEvents.map _ = _
    rw [hstored]
    rfl
  refine ⟨?_, h.step hstep⟩
  obtain ⟨rows, hrows, -, hread⟩ := h.rows
  have hlength : rows.length = held.length := by
    have hmapped := congrArg List.length hread
    rwa [List.length_map, List.length_map] at hmapped
  unfold EventLog.wipeEvents EventLog.openTables at hstored
  simp only [h.isOpen, if_true, bind, Except.bind, hrows, Except.ok.injEq, Prod.mk.injEq] at hstored
  rw [← hstored.1, hlength]

/-- The recorder adds to the events of the moment. -/
theorem recorder (h : Accounted s events) (place : LogPlace) (batch : List Event) :
    Accounted (s.turn place (.recorder batch)) fun m =>
      events m ++ if s.stage.moment = m then s.commits (.recorder batch) else [] where
  held := by
    have hheld := holds_record h.held batch
    have hunread := h.unread
    have hongoing := h.ongoing
    obtain ⟨log, stage⟩ := s
    rw [Shared.stage_recorder, Shared.log_recorder, Shared.commits_recorder]
    cases stage with
    | opened =>
        have hbetween : events .between = [] := hunread rfl
        have hbehind : events .behind = [] := hongoing nofun
        simpa [Stage.isWiped, Stage.moment, hbetween, hbehind] using hheld
    | reported report =>
        have hbehind : events .behind = [] := hongoing nofun
        simpa [Stage.isWiped, Stage.moment, hbehind] using hheld
    | wiped report count => simpa [Stage.isWiped, Stage.moment] using hheld
    | stopped report ending => simpa [Stage.isWiped, Stage.moment] using hheld
  reported := by
    intro report hreport
    rw [Shared.stage_recorder] at hreport
    rw [if_neg (Stage.moment_of_report hreport), List.append_nil]
    exact h.reported report hreport
  counted := by
    intro report count hstage
    have hmoment : s.stage.moment = .behind := congrArg Stage.moment hstage
    rw [hmoment, if_neg nofun, if_neg nofun, List.append_nil, List.append_nil]
    exact h.counted report count hstage
  unread := by
    intro hbefore
    have hmoment : s.stage.moment = .before := hbefore
    rw [hmoment, if_neg nofun, List.append_nil]
    exact h.unread hmoment
  ongoing := by
    intro hbehind
    have hmoment : s.stage.moment ≠ .behind := hbehind
    rw [if_neg hmoment, List.append_nil]
    exact h.ongoing hmoment

/-- The command moves no event from one moment to another: it reports on what was committed before, and
wipes what was committed up to then. -/
theorem command (h : Accounted s events) (place : LogPlace) :
    Accounted (s.command place) events := by
  have hheld := h.held
  have hreported := h.reported
  have hunread := h.unread
  have hongoing := h.ongoing
  obtain ⟨log, stage⟩ := s
  cases stage with
  | opened =>
      have hbetween : events .between = [] := hunread rfl
      have hbehind : events .behind = [] := hongoing nofun
      have hread : log.fetchEvents = .ok ((events .before).map Event.inUtc) := by
        have hfetched := hheld.fetchEvents
        simpa [Stage.isWiped, hbetween, hbehind] using hfetched
      unfold Shared.command
      rw [hread]
      dsimp only
      rw [Report.ofLog_inUtc]
      cases hreport : Report.ofLog (events .before) with
      | error e =>
          exact ⟨hheld, nofun, nofun, nofun, fun _ => hbehind⟩
      | ok report =>
          refine ⟨hheld, ?_, nofun, nofun, fun _ => hbehind⟩
          intro shown hshown
          obtain rfl := Option.some.inj hshown
          exact hreport
  | reported report =>
      have hbehind : events .behind = [] := hongoing nofun
      unfold Shared.command
      dsimp only
      cases hwiped : wiped place log with
      | error e => exact ⟨hheld, hreported, nofun, nofun, fun _ => hbehind⟩
      | ok stored =>
          obtain ⟨hcount, hempty⟩ := holds_wiped hheld hwiped
          refine ⟨?_, hreported, ?_, nofun, fun _ => hbehind⟩
          · show Holds stored.2 (events .behind)
            rw [hbehind]
            exact hempty
          · rintro shown count ⟨rfl, rfl⟩
            rw [hcount]
            simp [Stage.isWiped, hbehind]
  | wiped report count => exact h
  | stopped report ending => exact h

theorem turn (h : Accounted s events) (place : LogPlace) (t : Turn) :
    Accounted (s.turn place t) fun m =>
      events m ++ if s.stage.moment = m then s.commits t else [] := by
  cases t with
  | recorder batch => exact h.recorder place batch
  | command =>
      have hsame : (fun m => events m ++ if s.stage.moment = m then s.commits .command else [])
          = events := by
        funext m
        show (events m ++ if s.stage.moment = m then [] else []) = events m
        rw [ite_self, List.append_nil]
      rw [hsame]
      exact h.command place

theorem run (h : Accounted s events) (place : LogPlace) (turns : List Turn) :
    Accounted (s.run place turns) fun m => events m ++ s.committed place m turns := by
  induction turns generalizing s events with
  | nil =>
      have hsame : (fun m => events m ++ s.committed place m []) = events := by
        funext m
        exact List.append_nil _
      rw [hsame]
      exact h
  | cons t rest ih =>
      have hrest := ih (h.turn place t)
      simp only [List.append_assoc] at hrest
      exact hrest

end Accounted

/-- A command that reports on a log and wipes it, and a recorder that goes on storing events, in any
order of their transactions.  If the log is wiped in the end, the events that were committed before
the command read the log are those of the report, the events that were committed behind the wipe are
the log, and just the events in between are gone: they are counted as wiped, but no report was made of
them.  If the log is not wiped, all events are still there. -/
theorem events_accounted (steps : List LogStep) (place : LogPlace) (turns : List Turn) :
    let start : Shared := { log := EventLog.empty.after steps }
    let before := EventLog.sinceWipe (EventLog.empty.succeeded steps)
      ++ start.committed place .before turns
    let between := start.committed place .between turns
    let behind := start.committed place .behind turns
    let s := start.run place turns
    (∀ report count, s.stage = .wiped report count →
      Report.ofLog before = .ok report ∧ count = (before ++ between).length ∧
        s.log.fetchEvents = .ok (behind.map Event.inUtc)) ∧
      (s.stage.isWiped = false →
        s.log.fetchEvents = .ok ((before ++ between ++ behind).map Event.inUtc)) := by
  intro start before between behind s
  have haccounted := (Accounted.start (EventLog.holds_after steps)).run place turns
  have hheld := haccounted.held.fetchEvents
  refine ⟨?_, ?_⟩
  · intro report count hstage
    have hwiped : s.stage.isWiped = true := by rw [hstage]; rfl
    refine ⟨haccounted.reported report ?_, haccounted.counted report count hstage, ?_⟩
    · show s.stage.report? = _
      rw [hstage]
      rfl
    · rw [if_pos hwiped] at hheld
      exact hheld
  · intro hkept
    rw [if_neg (by rw [hkept]; exact Bool.false_ne_true)] at hheld
    exact hheld

/-- Three retrievals that are started: one before the command reads the log, one before it wipes the log,
and one behind that. -/
theorem events_accounted_three :
    let started : Nat → Event := fun id =>
      { retrieval := ⟨id⟩, instanceId := "i", cid := "c", provider := "p", phase := .retrieval
        phaseStart := ⟨0, 0⟩, code := .started, time := ⟨0, 0⟩, raw := .null }
    let start : Shared := { log := EventLog.empty.after [] }
    let s := start.run (.file "events.db" .full)
      [.recorder [started 1], .command, .recorder [started 2], .command, .recorder [started 3]]
    ∃ report, s.stage = .wiped report 2 ∧ Report.ofLog [started 1] = .ok report ∧
      s.log.fetchEvents = .ok [(started 3).inUtc] := by
  intro started start s
  have hwiped : s.stage.isWiped = true := by decide +kernel
  obtain ⟨haccount, -⟩ := events_accounted [] (.file "events.db" .full)
    [.recorder [started 1], .command, .recorder [started 2], .command, .recorder [started 3]]
  cases hstage : s.stage with
  | wiped report count =>
      obtain ⟨hreport, hcount, hfetched⟩ := haccount report count hstage
      obtain rfl : count = 2 := by with_unfolding_all exact hcount
      exact ⟨report, rfl, by with_unfolding_all exact hreport, by with_unfolding_all exact hfetched⟩
  | _ =>
      rw [hstage] at hwiped
      cases hwiped

/-- The start of a retrieval that is committed between reading and wiping: it is neither in the log nor
in the report, which counts one retrieval and not two. -/
theorem event_lost_in_between :
    let started : Nat → Event := fun id =>
      { retrieval := ⟨id⟩, instanceId := "i", cid := "c", provider := "p", phase := .retrieval
        phaseStart := ⟨0, 0⟩, code := .started, time := ⟨0, 0⟩, raw := .null }
    let place : LogPlace := .file "events.db" .full
    let start : Shared := { log := EventLog.empty.after [.insertEvents [started 1]] }
    let turns : List Turn := [.command, .recorder [started 2], .command]
    let s := start.run place turns
    start.committed place .between turns = [started 2] ∧ s.log.fetchEvents = .ok [] ∧
      ∃ report, s.stage = .wiped report 2 ∧ report.retrievals = 1 := by
  intro started place start turns s
  have hstage : (match s.stage with
      | .wiped report count => count = 2 && report.retrievals = 1
      | _ => false) = true := by
    decide +kernel
  split at hstage
  · rename_i report count hwiped
    obtain ⟨hcount, hretrievals⟩ := (Bool.and_eq_true _ _).mp hstage
    obtain rfl := of_decide_eq_true hcount
    have hheld : Holds s.log [] := by
      with_unfolding_all exact ⟨rfl, [], rfl, List.Pairwise.nil, rfl⟩
    refine ⟨by with_unfolding_all rfl, hheld.fetchEvents, report, hwiped, ?_⟩
    exact of_decide_eq_true hretrievals
  · cases hstage

end RetrievalTelemetry.CommandLine
