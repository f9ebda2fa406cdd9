/-
To which transport the first byte of a record is put down.

The pass over the attempts keeps the fastest one so far, and there is none at first.  What it has
in the end can be said without the pass: of the attempts that gave a byte at all it is the first of
the fastest.  There is one such attempt if any gave a byte, so the rule picks out one label for
every record, and attempts that gave none make no difference to it.

The induction is on the attempts from their end, since the pass takes the last one last.
-/
import RetrievalTelemetry.Proofs.Metering.Account

namespace RetrievalTelemetry

/-! ### The fastest attempt -/

/-- Whether the first byte of an attempt took any time; otherwise none arrived. -/
def Attempt.gaveByte (a : Attempt) : Bool := a.firstByte.isPositive

/-- Of the attempts that gave a byte, this one is the first of the fastest. -/
def Attempt.IsFastest (attempts : List (String × Attempt)) (a : Attempt) : Prop :=
  ∃ front provider back, attempts = front ++ (provider, a) :: back ∧ a.gaveByte = true ∧
    (∀ b ∈ front, b.2.gaveByte = true → a.firstByte.micros < b.2.firstByte.micros) ∧
    ∀ b ∈ back, b.2.gaveByte = true → a.firstByte.micros ≤ b.2.firstByte.micros

/-- The rule for the transport of the first byte: that of the fastest attempt, or the one that
delivered if no attempt gave a byte or the fastest one names no transport. -/
structure Record.PutsFirstByteTo (r : Record) (label : String) : Prop where
  fastest : ∀ a, Attempt.IsFastest r.attempts a →
    label = if a.transport = "" then Transport.label r.transport else Transport.label a.transport
  noByte : (∀ a ∈ r.attempts, a.2.gaveByte = false) → label = Transport.label r.transport

/-- Only an empty name has an empty label. -/
theorem Transport.label_eq_empty_iff {codec : String} : label codec = "" ↔ codec = "" := by
  unfold label
  cases h : ofMulticodec? codec with
  | none => rfl
  | some t =>
      have hname : t.name ≠ "" := by cases t <;> decide
      refine iff_of_false hname ?_
      rintro rfl
      cases h

namespace Attempt

variable {attempts : List (String × Attempt)} {a : Attempt}

/-- A later attempt without a byte, or with one that took no less time, changes nothing. -/
theorem IsFastest.concat (h : IsFastest attempts a) {x : String × Attempt}
    (hx : x.2.gaveByte = true → a.firstByte.micros ≤ x.2.firstByte.micros) :
    IsFastest (attempts ++ [x]) a := by
  obtain ⟨front, provider, back, rfl, hgave, hfront, hback⟩ := h
  refine ⟨front, provider, back ++ [x], by simp, hgave, hfront, ?_⟩
  exact List.forall_mem_append.mpr ⟨hback, List.forall_mem_singleton.mpr hx⟩

/-- A later attempt that is faster than all others is the fastest. -/
theorem isFastest_concat_self {x : String × Attempt} (hgave : x.2.gaveByte = true)
    (hfaster : ∀ b ∈ attempts, b.2.gaveByte = true → x.2.firstByte.micros < b.2.firstByte.micros) :
    IsFastest (attempts ++ [x]) x.2 :=
  ⟨attempts, x.1, [], rfl, hgave, hfaster, fun _ hb => absurd hb List.not_mem_nil⟩

/-- No attempt with a byte is faster than the fastest. -/
theorem IsFastest.le (h : IsFastest attempts a) {b : String × Attempt} (hb : b ∈ attempts)
    (hgave : b.2.gaveByte = true) : a.firstByte.micros ≤ b.2.firstByte.micros := by
  obtain ⟨front, provider, back, rfl, -, hfront, hback⟩ := h
  rcases List.mem_append.mp hb with hb | hb
  · exact (hfront b hb hgave).le
  · rcases List.mem_cons.mp hb with rfl | hb
    · exact Int.le_refl _
    · exact hback b hb hgave

/-- What the pass has when it went through some attempts: none if no attempt gave a byte so far. -/
def Leads (attempts : List (String × Attempt)) : Option Attempt → Prop
  | none => ∀ b ∈ attempts, b.2.gaveByte = false
  | some a => IsFastest attempts a

/-- One more attempt. -/
theorem Leads.faster {best : Option Attempt} (h : Leads attempts best) (x : String × Attempt) :
    Leads (attempts ++ [x]) (Metering.faster best x.2) := by
  unfold Metering.faster
  cases hgave : x.2.firstByte.isPositive with
  | false =>
      rw [if_neg Bool.false_ne_true]
      cases best with
      | none => exact List.forall_mem_append.mpr ⟨h, List.forall_mem_singleton.mpr hgave⟩
      | some a =>
          refine IsFastest.concat h fun hx => ?_
          rw [gaveByte, hgave] at hx
          cases hx
  | true =>
      rw [if_pos rfl]
      cases best with
      | none =>
          refine isFastest_concat_self hgave fun b hb hgaveb => ?_
          rw [h b hb] at hgaveb
          cases hgaveb
      | some a =>
          have ha : IsFastest attempts a := h
          dsimp only
          by_cases hless : x.2.firstByte.micros < a.firstByte.micros
          · rw [if_pos hless]
            exact isFastest_concat_self hgave fun b hb hgaveb => hless.trans_le (ha.le hb hgaveb)
          · rw [if_neg hless]
            exact ha.concat fun _ => Int.not_lt.mp hless

/-- The whole pass. -/
theorem leads_fastest (r : Record) : Leads r.attempts (Metering.fastest r) := by
  unfold Metering.fastest
  generalize r.attempts = attempts
  induction attempts using List.reverseRecOn with
  | nil => exact fun _ h => absurd h List.not_mem_nil
  | append_singleton attempts x ih =>
      rw [List.map_append, List.map_singleton, List.foldl_append, List.foldl_cons, List.foldl_nil]
      exact ih.faster x

/-- Of two attempts in their order, the later one is not the fastest beside the earlier one. -/
theorem isFastest_unique_of_le {front front' back back' : List (String × Attempt)}
    {provider provider' : String} {a a' : Attempt}
    (hsplit : front ++ (provider, a) :: back = front' ++ (provider', a') :: back')
    (hlength : front.length ≤ front'.length) (hgave : a.gaveByte = true)
    (hgave' : a'.gaveByte = true)
    (hback : ∀ b ∈ back, b.2.gaveByte = true → a.firstByte.micros ≤ b.2.firstByte.micros)
    (hfront' : ∀ b ∈ front', b.2.gaveByte = true → a'.firstByte.micros < b.2.firstByte.micros) :
    a = a' := by
  obtain ⟨between, hfront, hrest⟩ : ∃ between, front' = front ++ between ∧
      (provider, a) :: back = between ++ (provider', a') :: back' := by
    rcases List.append_eq_append_iff.mp hsplit with ⟨m, hm, hrest⟩ | ⟨m, hm, hrest⟩
    · exact ⟨m, hm, hrest⟩
    · have hnil : m = [] := by
        rw [hm, List.length_append] at hlength
        exact List.eq_nil_of_length_eq_zero (by omega)
      rw [hnil, List.nil_append] at hrest
      rw [hnil, List.append_nil] at hm
      exact ⟨[], by rw [hm, List.append_nil], hrest.symm⟩
  cases between with
  | nil =>
      rw [List.nil_append] at hrest
      exact congrArg Prod.snd (List.cons.inj hrest).1
  | cons b between =>
      obtain ⟨hb, hbetween⟩ := List.cons.inj hrest
      have hbefore := hfront' (provider, a) (by simp [hfront, hb]) hgave
      have hbehind := hback (provider', a') (by simp [hbetween]) hgave'
      exact absurd hbefore (Int.not_lt.mpr hbehind)

theorem IsFastest.unique {a' : Attempt} (h : IsFastest attempts a) (h' : IsFastest attempts a') :
    a = a' := by
  obtain ⟨front, provider, back, hsplit, hgave, hfront, hback⟩ := h
  obtain ⟨front', provider', back', hsplit', hgave', hfront', hback'⟩ := h'
  rcases Nat.le_total front.length front'.length with hlength | hlength
  · exact isFastest_unique_of_le (hsplit.symm.trans hsplit') hlength hgave hgave' hback hfront'
  · exact (isFastest_unique_of_le (hsplit'.symm.trans hsplit) hlength hgave' hgave hback'
      hfront).symm

end Attempt

namespace Metering

open Update (added sampled added_append)

variable (names : Names)

/-- Attempts that gave no byte do not take part in the pass. -/
theorem foldl_faster_filter (attempts : List (String × Attempt)) (best : Option Attempt) :
    ((attempts.filter fun b => b.2.gaveByte).map (·.2)).foldl faster best
      = (attempts.map (·.2)).foldl faster best := by
  rw [List.foldl_map, List.foldl_map, List.foldl_filter]
  refine congrArg (fun step => List.foldl step best attempts) ?_
  funext best x
  unfold faster Attempt.gaveByte
  split <;> rfl

/-- The label of the model is the one of the rule, and no other one is. -/
theorem putsFirstByteTo_iff (r : Record) (label : String) :
    r.PutsFirstByteTo label ↔ label = firstByteLabel r := by
  have hleads := Attempt.leads_fastest r
  unfold firstByteLabel
  cases hfastest : fastest r with
  | none =>
      rw [hfastest] at hleads
      refine ⟨fun h => h.noByte hleads, fun h => ⟨fun a ha => ?_, fun _ => h⟩⟩
      obtain ⟨front, provider, back, hsplit, hgave, -⟩ := ha
      have hnone := hleads (provider, a) (by simp [hsplit])
      rw [hnone] at hgave
      cases hgave
  | some a =>
      rw [hfastest] at hleads
      have ha : Attempt.IsFastest r.attempts a := hleads
      simp only [Transport.label_eq_empty_iff]
      refine ⟨fun h => h.fastest a ha, fun h => ⟨fun a' ha' => ?_, fun hnone => ?_⟩⟩
      · rw [ha'.unique ha]
        exact h
      · obtain ⟨front, provider, back, hsplit, hgave, -⟩ := ha
        have hgave' := hnone (provider, a) (by simp [hsplit])
        rw [hgave] at hgave'
        cases hgave'

/-! ### What is told of the first byte -/

theorem added_firstByte (r : Record) :
    added .firstByte (record names r) = added .firstByte (recordFirstByteUpdates r) := by
  have hattempts : added .firstByte (attemptsUpdates names [] r.attempts) = [] :=
    Update.added_eq_nil fun u hu => by rw [isAttempt_attempts names _ _ u hu]; nofun
  have hindexer : added .firstByte (indexerUpdates r) = [] := by
    unfold indexerUpdates
    split_ifs <;> rfl
  have hsuccess : added .firstByte (successCounter (providerTags names r.provider)
      (Transport.label r.transport)) = [] := by
    unfold successCounter
    split <;> rfl
  have hending : added .firstByte (endingUpdates names r) = [] := by
    rw [added_ending, hsuccess]
    split_ifs <;> rfl
  have hrequest : ∀ us, added .firstByte (.count .requests :: us) = added .firstByte us :=
    fun _ => rfl
  rw [record_eq, hrequest, added_append, added_append, hattempts, hending, between, added_append,
    hindexer, List.nil_append, List.nil_append, List.append_nil]

theorem sampled_firstByte (r : Record) :
    sampled .timeToFirstByte (record names r)
      = sampled .timeToFirstByte (recordFirstByteUpdates r) := by
  have hattempts : sampled .timeToFirstByte (attemptsUpdates names [] r.attempts) = [] :=
    Update.sampled_eq_nil _ (isAttempt_attempts names _ _)
  have hindexer : sampled .timeToFirstByte (indexerUpdates r) = [] := by
    unfold indexerUpdates
    split_ifs <;> rfl
  have hsuccess : sampled .timeToFirstByte (successCounter (providerTags names r.provider)
      (Transport.label r.transport)) = [] := by
    unfold successCounter
    split <;> rfl
  have hcount : ∀ c a us,
      sampled .timeToFirstByte (.count c a :: us) = sampled .timeToFirstByte us :=
    fun _ _ _ => rfl
  have hending : sampled .timeToFirstByte (endingUpdates names r) = [] := by
    rw [ending_eq]
    split
    · rw [hcount, sampled_append, hsuccess]
      rfl
    · split <;> rfl
  rw [record_eq, hcount, sampled_append, sampled_append, hattempts, hending, between, sampled_append,
    hindexer, List.nil_append, List.nil_append, List.append_nil]

/-- The first byte of a record is told once, by the counter and by the histogram, if it took any
time.  Both name the same transport, the one that the rule picks out.  Attempts that gave no byte
make no difference, nor do the names of the providers. -/
theorem firstByte_told (r : Record) :
    ∃ label, (∀ l, r.PutsFirstByteTo l ↔ l = label) ∧
      added .firstByte (record names r)
        = (if 0 < r.firstByte.micros then [(1, Update.protocol label)] else []) ∧
      sampled .timeToFirstByte (record names r)
        = (if 0 < r.firstByte.micros then
            [(.double r.firstByte.toSeconds, Update.protocol label)] else []) ∧
      ∀ names' attempts,
        (attempts.filter fun b => b.2.gaveByte) = (r.attempts.filter fun b => b.2.gaveByte) →
        added .firstByte (record names' { r with attempts := attempts })
            = added .firstByte (record names r) ∧
          sampled .timeToFirstByte (record names' { r with attempts := attempts })
            = sampled .timeToFirstByte (record names r) := by
  refine ⟨firstByteLabel r, putsFirstByteTo_iff r, ?_, ?_, fun names' attempts hsame => ?_⟩
  · rw [added_firstByte]
    unfold recordFirstByteUpdates Duration.isPositive
    by_cases h : 0 < r.firstByte.micros <;> simp [h, added, Update.count, Update.seconds]
  · rw [sampled_firstByte]
    unfold recordFirstByteUpdates Duration.isPositive
    by_cases h : 0 < r.firstByte.micros <;> simp [h, sampled, Update.count, Update.seconds]
  · have hfastest : fastest { r with attempts := attempts } = fastest r := by
      unfold fastest
      rw [← foldl_faster_filter, hsame, foldl_faster_filter]
    have hlabel : firstByteLabel { r with attempts := attempts } = firstByteLabel r := by
      unfold firstByteLabel
      rw [hfastest]
    have htold : recordFirstByteUpdates { r with attempts := attempts }
        = recordFirstByteUpdates r := by
      unfold recordFirstByteUpdates
      rw [hlabel]
    rw [added_firstByte, added_firstByte, sampled_firstByte, sampled_firstByte, htold]
    exact ⟨rfl, rfl⟩

end Metering

end RetrievalTelemetry
