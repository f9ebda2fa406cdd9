/-
The report and the offsets of its events.

A report compares points in time and takes the spans between them, and neither depends on the
offset that a point is shown with.  So the report on a log is the report on the same events in UTC.
Each step of the report is shown to commute with `inUtc`; the facts of a retrieval hold
events themselves, so they are taken along.
-/
import RetrievalTelemetry.Proofs.Report.Facts

namespace RetrievalTelemetry

/-- The same event with its times shown in UTC. -/
def Event.inUtc (e : Event) : Event :=
  { e with phaseStart := e.phaseStart.toUtc, time := e.time.toUtc }

namespace Event

theorem earlierOf_inUtc (best : Option Event) (e : Event) :
    earlierOf (best.map inUtc) e.inUtc = (earlierOf best e).map inUtc := by
  cases best with
  | none => rfl
  | some b =>
      have hbefore : e.inUtc.time.isBefore b.inUtc.time = e.time.isBefore b.time := rfl
      simp only [earlierOf, Option.map_some, hbefore]
      split
      · rfl
      · rfl

theorem earliest?_inUtc (events : List Event) :
    earliest? (events.map inUtc) = (earliest? events).map inUtc := by
  induction events using List.reverseRecOn with
  | nil => rfl
  | append_singleton front e ih =>
      rw [List.map_append, List.map_singleton, earliest?_concat, ih, earlierOf_inUtc,
        earliest?_concat]

end Event

namespace RetrievalFacts

/-- The same facts with all times shown in UTC. -/
def inUtc (f : RetrievalFacts) : RetrievalFacts :=
  { f with
    begin := f.begin.toUtc
    success := f.success.map Event.inUtc
    firstBytes := f.firstBytes.map Event.inUtc }

theorem ofEvent_inUtc (e : Event) : ofEvent e.inUtc = (ofEvent e).inUtc := rfl

theorem noteTransport_inUtc (f : RetrievalFacts) (e : Event) :
    f.inUtc.noteTransport e.inUtc = (f.noteTransport e).inUtc := by
  have hphase : e.inUtc.phase = e.phase := rfl
  have hprovider : e.inUtc.provider = e.provider := rfl
  unfold noteTransport
  rw [hphase, hprovider]
  split
  · rfl
  · split
    · rfl
    · rfl

theorem noteCode_inUtc (f : RetrievalFacts) (e : Event) :
    f.inUtc.noteCode e.inUtc = (f.noteCode e).inUtc := by
  have hcode : e.inUtc.code = e.code := rfl
  unfold noteCode
  rw [hcode]
  split
  · cases hsuccess : f.success with
    | none => simp [inUtc, hsuccess]
    | some earlier =>
        have hbefore : e.inUtc.time.isBefore earlier.inUtc.time = e.time.isBefore earlier.time :=
          rfl
        simp only [inUtc, hsuccess, Option.map_some, hbefore]
        split
        · rfl
        · rw [hsuccess]
          rfl
  · simp [inUtc]
  · rfl

theorem note_inUtc (f : RetrievalFacts) (e : Event) :
    f.inUtc.note e.inUtc = (f.note e).inUtc := by
  have hbefore : e.inUtc.time.isBefore f.inUtc.begin = e.time.isBefore f.begin := rfl
  unfold note
  rw [hbefore]
  split
  · have hbegin : ({ f.inUtc with begin := e.inUtc.time } : RetrievalFacts)
        = ({ f with begin := e.time } : RetrievalFacts).inUtc := rfl
    dsimp only
    rw [hbegin, noteTransport_inUtc, noteCode_inUtc]
  · dsimp only
    rw [noteTransport_inUtc, noteCode_inUtc]

/-- A look-up in a list with other values finds the other value. -/
theorem lookup_map_snd {α β γ : Type} [BEq α] (g : β → γ) (key : α) (l : List (α × β)) :
    (l.map fun x => (x.1, g x.2)).lookup key = (l.lookup key).map g := by
  induction l with
  | nil => rfl
  | cons x rest ih =>
      rw [List.map_cons, List.lookup_cons, List.lookup_cons]
      split
      · rfl
      · exact ih

theorem putField_map_snd {α β γ : Type} [BEq α] (g : β → γ) (key : α) (value : β)
    (l : List (α × β)) :
    putField key (g value) (l.map fun x => (x.1, g x.2))
      = (putField key value l).map fun x => (x.1, g x.2) := by
  induction l with
  | nil => rfl
  | cons x rest ih =>
      rw [List.map_cons, putField, putField]
      split
      · rfl
      · rw [ih]
        rfl

theorem ofLog_inUtc (events : List Event) :
    ofLog (events.map Event.inUtc) = (ofLog events).map fun x => (x.1, x.2.inUtc) := by
  have hgeneral : ∀ all : List (Uuid × RetrievalFacts),
      (events.map Event.inUtc).foldl
          (fun all e => putField e.retrieval (((all.lookup e.retrieval).getD (ofEvent e)).note e) all)
          (all.map fun x => (x.1, x.2.inUtc))
        = (events.foldl
            (fun all e => putField e.retrieval (((all.lookup e.retrieval).getD (ofEvent e)).note e) all)
            all).map fun x => (x.1, x.2.inUtc) := by
    induction events with
    | nil => intro all; rfl
    | cons e rest ih =>
        intro all
        have hid : e.inUtc.retrieval = e.retrieval := rfl
        have hfacts : ((all.lookup e.retrieval).map inUtc).getD (ofEvent e.inUtc)
            = ((all.lookup e.retrieval).getD (ofEvent e)).inUtc := by
          rw [ofEvent_inUtc, Option.getD_map]
        rw [List.map_cons, List.foldl_cons, List.foldl_cons, hid, lookup_map_snd, hfacts,
          note_inUtc, putField_map_snd]
        exact ih _
  exact hgeneral []

theorem firstByteOf_inUtc (f : RetrievalFacts) (success : Event) :
    f.inUtc.firstByteOf success.inUtc = (f.firstByteOf success).map Event.inUtc := by
  have hfilter : f.inUtc.firstBytes.filter (fun e => e.provider = success.inUtc.provider)
      = (f.firstBytes.filter fun e => e.provider = success.provider).map Event.inUtc := by
    show (f.firstBytes.map Event.inUtc).filter _ = _
    rw [List.filter_map]
    rfl
  show Event.earliest? _ = (Event.earliest? _).map Event.inUtc
  rw [hfilter, Event.earliest?_inUtc]

end RetrievalFacts

namespace SuccessTotals

theorem addFirstByte_inUtc (totals : SuccessTotals) (f : RetrievalFacts) (success : Event) :
    totals.addFirstByte f.inUtc success.inUtc = totals.addFirstByte f success := by
  have hreceived : success.inUtc.received? = success.received? := rfl
  unfold addFirstByte
  rw [RetrievalFacts.firstByteOf_inUtc, hreceived]
  cases f.firstByteOf success with
  | none => rfl
  | some first => rfl

theorem add_inUtc (totals : SuccessTotals) (f : RetrievalFacts) :
    totals.add f.inUtc = totals.add f := by
  have hsuccess : f.inUtc.success = f.success.map Event.inUtc := rfl
  unfold add
  rw [hsuccess]
  cases f.success with
  | none => rfl
  | some success =>
      have hprovider : success.inUtc.provider = success.provider := rfl
      have hreceived : success.inUtc.received? = success.received? := rfl
      simp only [Option.map_some, hprovider, hreceived, addFirstByte_inUtc]

end SuccessTotals

/-- The report does not depend on the offsets that times are shown with. -/
theorem Report.ofLog_inUtc (events : List Event) :
    Report.ofLog (events.map Event.inUtc) = Report.ofLog events := by
  have hfacts : (RetrievalFacts.ofLog (events.map Event.inUtc)).map (·.2)
      = ((RetrievalFacts.ofLog events).map (·.2)).map RetrievalFacts.inUtc := by
    rw [RetrievalFacts.ofLog_inUtc, List.map_map, List.map_map]
    rfl
  have htotals : ∀ (l : List RetrievalFacts) (totals : SuccessTotals),
      (l.map RetrievalFacts.inUtc).foldlM SuccessTotals.add totals
        = l.foldlM SuccessTotals.add totals := by
    intro l totals
    rw [List.foldlM_map]
    simp only [SuccessTotals.add_inUtc]
  have hcount : ∀ (l : List RetrievalFacts) (p : RetrievalFacts → Bool),
      (∀ f, p f.inUtc = p f) → (l.map RetrievalFacts.inUtc).countP p = l.countP p := by
    intro l p hp
    rw [List.countP_map]
    exact List.countP_congr fun f _ => by rw [Function.comp_apply, hp]
  unfold Report.ofLog
  simp only [hfacts, htotals, List.length_map]
  rw [hcount _ _ fun _ => rfl, hcount _ _ fun _ => rfl, hcount _ _ fun _ => rfl,
    hcount _ _ fun _ => rfl, hcount _ _ fun _ => rfl]

end RetrievalTelemetry
