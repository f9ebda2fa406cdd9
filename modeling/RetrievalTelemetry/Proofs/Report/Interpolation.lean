/-
Interpolation between neighbours of a sorted sample.

For a fraction between zero and one the position in the sample is between the first rank and the
last one, because both are doubles and rounding passes none.  So its whole part is a rank, and so is
the next one unless that part is the last.  The value is between the two neighbours if their
difference is a finite double.  Two neighbours can be so far apart that it is not; then the value is a
NaN or infinite.

The values depend on the numbers in the sample only.  Their order is lost in sorting, but for zeros
of different signs, and which zero is met shows for a negative zero as the fraction only.
-/
import RetrievalTelemetry.Proofs.Binary64.Zeros
import RetrievalTelemetry.Proofs.Report.Percentile
import RetrievalTelemetry.Proofs.Report.Rank

namespace RetrievalTelemetry.Binary64

/-! ### Between two doubles -/

variable {low high weight : Binary64}

/-- The rounded difference of doubles is a zero, or it rounds a multiple of the least value. -/
theorem IsDouble.sub_cases (hlow : low.IsDouble) (hhigh : high.IsDouble)
    (hle : low.toRat ≤ high.toRat) :
    (∃ b, high.sub low = zero b) ∨
      ∃ num den k : Nat, 0 < den ∧ high.sub low = ofRatio false num den ∧
        (num / den : Rat) = high.toRat - low.toRat ∧ (num / den : Rat) = k * 2 ^ minExponent := by
  obtain ⟨k, hk⟩ := hhigh.exists_multiple
  obtain ⟨l, hl⟩ := hlow.exists_multiple
  have hnonneg : 0 ≤ high.toRat - low.toRat := sub_nonneg.mpr hle
  have hvalue : high.toRat + low.neg.toRat = high.toRat - low.toRat := by
    rw [toRat_neg, sub_eq_add_neg]
  cases high with
  | finite a m e =>
      cases low with
      | finite b n f =>
          have hsub : (finite a m e).sub (finite b n f)
              = if m = 0 ∧ n = 0 then zero (a && !b)
                else ofRat ((finite a m e).toRat + (finite b n f).neg.toRat) := rfl
          rw [hsub]
          split
          · exact Or.inl ⟨_, rfl⟩
          · rw [hvalue]
            set q := (finite a m e).toRat - (finite b n f).toRat with hq
            have hratio : (q.num.natAbs / q.den : Rat) = q := by
              rw [natAbs_num_div_den, abs_of_nonneg hnonneg]
            have hmultiple : q = ((k - l : Int) : Rat) * 2 ^ minExponent := by
              rw [hq, hk, hl, Int.cast_sub, sub_mul]
            have hcount : 0 ≤ k - l := by
              have hpos : (0 : Rat) < 2 ^ minExponent := by positivity
              have hcast : (0 : Rat) ≤ ((k - l : Int) : Rat) :=
                nonneg_of_mul_nonneg_left (hmultiple ▸ hnonneg) hpos
              exact_mod_cast hcast
            refine Or.inr ⟨q.num.natAbs, q.den, (k - l).toNat, q.den_pos, ?_, hratio, ?_⟩
            · rw [ofRat, decide_eq_false (not_lt.mpr hnonneg)]
            · rw [hratio, hmultiple, ← Int.cast_natCast, Int.toNat_of_nonneg hcount]
      | _ => exact hlow.elim
  | _ => exact hhigh.elim

/-- A part of a finite difference is between zero and the difference. -/
theorem IsDouble.part_between (hlow : low.IsDouble) (hhigh : high.IsDouble)
    (hle : low.toRat ≤ high.toRat) (hweight : weight.IsDouble) (hnonneg : 0 ≤ weight.toRat)
    (hone : weight.toRat ≤ 1 - unitBelowOne) (hfinite : (high.sub low).isFinite = true) :
    Between 0 (high.toRat - low.toRat) ((high.sub low).mul weight) := by
  rcases hlow.sub_cases hhigh hle with ⟨b, hzero⟩ | ⟨num, den, k, hden, hround, hvalue, hmultiple⟩
  · have hproduct : (zero b).toRat * weight.toRat = 0 := by
      rw [zero, toRat_finite_zero, zero_mul]
    have hpart := (isDouble_zero b).mul_between hweight isValue_zero isValue_zero hproduct.ge
      hproduct.le
    rw [hzero]
    exact ⟨hpart.isDouble, hpart.low, hpart.high.trans (sub_nonneg.mpr hle)⟩
  · rw [← hvalue]
    exact Binary64.part_between hden hmultiple hround.symm hfinite hweight hnonneg hone

/-- A double and a part of the finite difference to a greater one are between the two. -/
theorem IsDouble.interpolated_between (hlow : low.IsDouble) (hhigh : high.IsDouble)
    (hle : low.toRat ≤ high.toRat) (hweight : weight.IsDouble) (hnonneg : 0 ≤ weight.toRat)
    (hone : weight.toRat ≤ 1 - unitBelowOne) (hfinite : (high.sub low).isFinite = true) :
    Between low.toRat high.toRat (low.add ((high.sub low).mul weight)) := by
  have hpart := hlow.part_between hhigh hle hweight hnonneg hone hfinite
  have hpartLow := hpart.low
  have hpartHigh := hpart.high
  exact hlow.add_between hpart.isDouble hlow.isValue hhigh.isValue (by linarith) (by linarith)

theorem isFinite_mul {x y : Binary64} (hx : x.isFinite = false) : (x.mul y).isFinite = false := by
  cases x with
  | finite => cases hx
  | nan => rfl
  | infinity a =>
      cases y with
      | finite b n f =>
          rw [mul]
          split <;> rfl
      | _ => rfl

theorem isFinite_add {x y : Binary64} (hy : y.isFinite = false) : (x.add y).isFinite = false := by
  cases y with
  | finite => cases hy
  | nan => cases x <;> rfl
  | infinity b =>
      cases x with
      | infinity a => cases a <;> cases b <;> rfl
      | _ => rfl

/-- Between two doubles there is nothing infinite. -/
theorem IsDouble.isFinite_of_le {x : Binary64} (hlow : low.IsDouble) (hhigh : high.IsDouble)
    (h : low.le x = true) (h' : x.le high = true) : x.isFinite = true := by
  cases low with
  | finite a m e =>
      cases high with
      | finite b n f =>
          cases x with
          | finite => rfl
          | nan => cases h
          | infinity c => cases c <;> simp [le, compare?] at h h'
      | _ => exact hhigh.elim
  | _ => exact hlow.elim

/-- The interpolated value is between two doubles exactly if their difference is finite. -/
theorem IsDouble.interpolated_iff (hlow : low.IsDouble) (hhigh : high.IsDouble)
    (hle : low.toRat ≤ high.toRat) (hweight : weight.IsDouble) (hnonneg : 0 ≤ weight.toRat)
    (hone : weight.toRat ≤ 1 - unitBelowOne) :
    (high.sub low).isFinite = true ↔
      low.le (low.add ((high.sub low).mul weight)) = true ∧
        (low.add ((high.sub low).mul weight)).le high = true := by
  constructor
  · intro hfinite
    have hbetween := hlow.interpolated_between hhigh hle hweight hnonneg hone hfinite
    exact ⟨(hlow.le_iff hbetween.isDouble).mpr hbetween.low,
      (hbetween.isDouble.le_iff hhigh).mpr hbetween.high⟩
  · rintro ⟨hle', hle''⟩
    by_contra hinfinite
    have hresult := isFinite_add (x := low)
      (isFinite_mul (y := weight) (Bool.eq_false_iff.mpr hinfinite))
    rw [hlow.isFinite_of_le hhigh hle' hle''] at hresult
    cases hresult

/-- With a weight that has no sign, the value is no negative zero. -/
theorem IsDouble.interpolated_ne_zero (hlow : low.IsDouble) (hhigh : high.IsDouble)
    (hle : low.toRat ≤ high.toRat) (hweight : weight.IsDouble) (hnonneg : 0 ≤ weight.toRat)
    (hone : weight.toRat ≤ 1 - unitBelowOne) (hsign : weight.isNegative = false) :
    low.add ((high.sub low).mul weight) ≠ zero true := by
  intro h
  cases hfinite : (high.sub low).isFinite with
  | false =>
      have hresult := isFinite_add (x := low) (isFinite_mul (y := weight) hfinite)
      rw [h] at hresult
      cases hresult
  | true =>
      have hpart := hlow.part_between hhigh hle hweight hnonneg hone hfinite
      obtain ⟨rfl, hzero⟩ := hlow.eq_zero_of_add hpart.isDouble h
      have hdifference := hhigh.isNegative_sub hlow hle (Or.inr rfl)
      have hproduct := isNegative_mul hfinite hweight.isFinite
      rw [hzero, hdifference, hsign] at hproduct
      cases hproduct

end RetrievalTelemetry.Binary64

namespace RetrievalTelemetry.Percentile

open Binary64 (ofInt zero IsDouble Between IsValue SameNumber maxExact unitBelowOne)

/-! ### Positions of fractions -/

/-- A double between zero and one. -/
structure IsFraction (f : Binary64) : Prop where
  isDouble : f.IsDouble
  nonneg : (zero false).le f = true
  le_one : f.le (ofInt 1) = true

variable {ordered : List Binary64} {f : Binary64}

theorem IsFraction.toRat_nonneg (hf : IsFraction f) : 0 ≤ f.toRat := by
  have hle := ((Binary64.isDouble_zero false).le_iff hf.isDouble).mp hf.nonneg
  rwa [zero, Binary64.toRat_finite_zero] at hle

theorem IsFraction.toRat_le_one (hf : IsFraction f) : f.toRat ≤ 1 := by
  obtain ⟨hone, hvalue⟩ := Binary64.isDouble_ofInt (n := 1) (by decide)
  have hle := (hf.isDouble.le_iff hone).mp hf.le_one
  rwa [Nat.cast_one] at hvalue hle

/-- Such a double has no sign, unless it is the negative zero. -/
theorem IsFraction.isNegative (hf : IsFraction f) (hne : f ≠ zero true) : f.isNegative = false := by
  refine Bool.eq_false_iff.mpr fun hneg => ?_
  have hzero : f.toRat = 0 := by
    refine le_antisymm ?_ hf.toRat_nonneg
    cases f with
    | finite b m e =>
        obtain rfl : b = true := hneg
        exact neg_nonpos.mpr (Binary64.scaled_nonneg m e)
    | _ => exact hf.isDouble.elim
  have hsame := hf.isDouble.eq_zero hzero
  rw [hneg] at hsame
  exact hne hsame

/-- Where a fraction stands in a sample. -/
def position (ordered : List Binary64) (f : Binary64) : Binary64 := f.mul (lastRank ordered)

theorem lastRank_eq (hne : ordered ≠ []) : lastRank ordered = ofInt (ordered.length - 1 : Nat) := by
  have hpos : 0 < ordered.length := List.length_pos_iff.mpr hne
  unfold lastRank
  congr 1
  omega

/-- The last rank of a sample is a double, if the sample is not too long. -/
theorem isDouble_lastRank (hne : ordered ≠ []) (hlength : ordered.length ≤ maxExact) :
    (lastRank ordered).IsDouble ∧ (lastRank ordered).toRat = (ordered.length - 1 : Nat) := by
  rw [lastRank_eq hne]
  exact Binary64.isDouble_ofInt (by omega)

/-- The position of a fraction is a double from zero to the last rank. -/
theorem IsFraction.position_between (hf : IsFraction f) (hne : ordered ≠ [])
    (hlength : ordered.length ≤ maxExact) :
    Between 0 (ordered.length - 1 : Nat) (position ordered f) := by
  obtain ⟨hlast, hvalue⟩ := isDouble_lastRank hne hlength
  have hnonneg : 0 ≤ (lastRank ordered).toRat := hvalue ▸ Nat.cast_nonneg _
  refine hf.isDouble.mul_between hlast Binary64.isValue_zero
    (Binary64.isValue_natCast (by omega)) (mul_nonneg hf.toRat_nonneg hnonneg) ?_
  rw [← hvalue]
  exact mul_le_of_le_one_left hnonneg hf.toRat_le_one

/-- The rank of a position that is not negative is its whole part. -/
theorem rank_eq_floor {x : Binary64} (hx : x.IsDouble) (h : 0 ≤ x.toRat) :
    rank x = .ok ⌊x.toRat⌋ := by
  have htruncate : x.truncate? = some ⌊x.toRat⌋ := by
    unfold Binary64.truncate? Binary64.toRat?
    rw [if_pos hx.isFinite, Option.map_some, Int.tdiv_eq_ediv_of_nonneg (Rat.num_nonneg.mpr h),
      Rat.floor_def']
  unfold rank
  rw [htruncate]

theorem IsFraction.isNegative_position (hf : IsFraction f) (hzero : f ≠ zero true)
    (hne : ordered ≠ []) (hlength : ordered.length ≤ maxExact) :
    (position ordered f).isNegative = false := by
  obtain ⟨hlast, -⟩ := isDouble_lastRank hne hlength
  have hsign : (lastRank ordered).isNegative = false := by
    rw [lastRank_eq hne]
    exact Binary64.isNegative_ofInt _
  unfold position
  rw [Binary64.isNegative_mul hf.isDouble.isFinite hlast.isFinite, hf.isNegative hzero, hsign]
  rfl

/-! ### Neighbours -/

/-- The value for a fraction of a sorted sample is read between two neighbours. -/
structure Interpolates (ordered : List Binary64) (f result : Binary64) (lower upper : Nat)
    (low high : Binary64) : Prop where
  lower_eq : rank (position ordered f) = .ok (lower : Int)
  upper_eq : upper = min (lower + 1) (ordered.length - 1)
  lower_le : lower ≤ upper
  upper_le : upper ≤ lower + 1
  upper_lt : upper < ordered.length
  low_eq : ordered[lower]? = some low
  high_eq : ordered[upper]? = some high
  result_eq : result = low.add ((high.sub low).mul ((position ordered f).sub (ofInt lower)))
  /-- The value is not beyond the neighbours, unless their difference is not finite. -/
  between : (high.sub low).isFinite = true ↔ low.le result = true ∧ result.le high = true
  /-- A negative zero comes from a negative zero as the fraction only. -/
  signed : f ≠ zero true → result ≠ zero true

theorem valueAt_of_getElem? {i : Nat} {x : Binary64} (h : ordered[i]? = some x) :
    valueAt ordered i = .ok x := by
  unfold valueAt
  have hneg : ¬((i : Int) < 0) := by omega
  simp only [if_neg hneg, Int.toNat_natCast, h]

/-- The neighbours are in order. -/
theorem le_of_sorted (hdoubles : ∀ x ∈ ordered, x.IsDouble)
    (hsorted : ordered.Pairwise fun a b => a.rank ≤ b.rank) {i j : Nat} (hij : i ≤ j)
    {low high : Binary64} (hlow : ordered[i]? = some low) (hhigh : ordered[j]? = some high) :
    low.toRat ≤ high.toRat := by
  rcases Nat.eq_or_lt_of_le hij with rfl | hlt
  · rw [Option.some.inj (hlow.symm.trans hhigh)]
  · have hlow' := hdoubles low (List.mem_of_getElem? hlow)
    have hhigh' := hdoubles high (List.mem_of_getElem? hhigh)
    obtain ⟨hi, rfl⟩ := List.getElem?_eq_some_iff.mp hlow
    obtain ⟨hj, rfl⟩ := List.getElem?_eq_some_iff.mp hhigh
    have hrank := List.pairwise_iff_getElem.mp hsorted i j hi hj hlt
    exact (hlow'.le_iff hhigh').mp ((Binary64.le_iff hlow'.isNaN hhigh'.isNaN).mpr hrank)

/-- A fraction of a sorted sample has a value. -/
theorem IsFraction.interpolates (hf : IsFraction f) (hne : ordered ≠ [])
    (hlength : ordered.length ≤ maxExact) (hdoubles : ∀ x ∈ ordered, x.IsDouble)
    (hsorted : ordered.Pairwise fun a b => a.rank ≤ b.rank) :
    ∃ result, interpolate ordered f = .ok result ∧
      ∃ lower upper low high, Interpolates ordered f result lower upper low high := by
  have hpos : 0 < ordered.length := List.length_pos_iff.mpr hne
  have hposition := hf.position_between hne hlength
  have hrank := rank_eq_floor hposition.isDouble hposition.low
  have hmax : (position ordered f).toRat ≤ maxExact := by
    refine hposition.high.trans ?_
    exact_mod_cast (Nat.sub_le _ _).trans hlength
  obtain ⟨hweight, hvalue⟩ := hposition.isDouble.sub_floor hposition.low hmax
  obtain ⟨-, hone⟩ := hposition.isDouble.isValue.fract hposition.low
  have hnonneg := Int.fract_nonneg (position ordered f).toRat
  have hfloor := Int.floor_le (position ordered f).toRat
  obtain ⟨lower, hlower⟩ := Int.eq_ofNat_of_zero_le (Int.floor_nonneg.mpr hposition.low)
  rw [← hvalue] at hone hnonneg
  rw [hlower] at hrank hweight hone hnonneg hfloor
  have hle : lower ≤ ordered.length - 1 := by exact_mod_cast hfloor.trans hposition.high
  obtain ⟨hwhole, hwholeValue⟩ := Binary64.isDouble_ofInt (n := lower) (by omega)
  have hsign : f ≠ zero true → ((position ordered f).sub (ofInt lower)).isNegative = false :=
    fun hzero => hposition.isDouble.isNegative_sub hwhole (hwholeValue ▸ hfloor)
      (Or.inl (hf.isNegative_position hzero hne hlength))
  set upper := min (lower + 1) (ordered.length - 1) with hupper
  obtain ⟨low, hlow⟩ : ∃ low, ordered[lower]? = some low :=
    ⟨_, List.getElem?_eq_getElem (by omega)⟩
  obtain ⟨high, hhigh⟩ : ∃ high, ordered[upper]? = some high :=
    ⟨_, List.getElem?_eq_getElem (by omega)⟩
  have hlow' := hdoubles low (List.mem_of_getElem? hlow)
  have hhigh' := hdoubles high (List.mem_of_getElem? hhigh)
  have horder := le_of_sorted hdoubles hsorted (by omega) hlow hhigh
  refine ⟨low.add ((high.sub low).mul ((position ordered f).sub (ofInt lower))), ?_, lower, upper,
    low, high,
    { lower_eq := hrank
      upper_eq := hupper
      lower_le := by omega
      upper_le := by omega
      upper_lt := by omega
      low_eq := hlow
      high_eq := hhigh
      result_eq := rfl
      between := hlow'.interpolated_iff hhigh' horder hweight hnonneg hone
      signed := fun hzero =>
        hlow'.interpolated_ne_zero hhigh' horder hweight hnonneg hone (hsign hzero) }⟩
  have hlast : min ((lower : Int) + 1) (ordered.length - 1) = (upper : Nat) := by omega
  have hposition' : f.mul (ofInt ((ordered.length : Int) - 1)) = position ordered f := rfl
  unfold interpolate
  simp only [bind, Except.bind, hposition', hrank, hlast, valueAt_of_getElem? hlow,
    valueAt_of_getElem? hhigh]

/-! ### The same numbers in another order -/

/-- What is read at the same place of samples with the same ranks. -/
theorem sameNumber_of_ranks {ordered' : List Binary64}
    (hranks : ordered.map Binary64.rank = ordered'.map Binary64.rank)
    (hdoubles : ∀ x ∈ ordered, x.IsDouble) (hdoubles' : ∀ x ∈ ordered', x.IsDouble) {i : Nat}
    {x x' : Binary64} (hx : ordered[i]? = some x) (hx' : ordered'[i]? = some x') :
    SameNumber x x' := by
  have hd := hdoubles x (List.mem_of_getElem? hx)
  have hd' := hdoubles' x' (List.mem_of_getElem? hx')
  have hrank := congrArg (·[i]?) hranks
  simp only [List.getElem?_map, hx, hx', Option.map_some, Option.some.injEq] at hrank
  refine hd.sameNumber hd' ((hd.eq_iff hd').mp ?_)
  exact (Binary64.eq_iff hd.isNaN hd'.isNaN).mpr hrank

/-- Samples with the same ranks have the same values. -/
theorem Interpolates.sameNumber {ordered' : List Binary64}
    (hranks : ordered.map Binary64.rank = ordered'.map Binary64.rank)
    (hdoubles : ∀ x ∈ ordered, x.IsDouble) (hdoubles' : ∀ x ∈ ordered', x.IsDouble)
    {r r' low low' high high' : Binary64} {lower lower' upper upper' : Nat}
    (h : Interpolates ordered f r lower upper low high)
    (h' : Interpolates ordered' f r' lower' upper' low' high') : SameNumber r r' := by
  have hlength : ordered.length = ordered'.length := by
    simpa using congrArg List.length hranks
  have hposition : position ordered f = position ordered' f := by
    unfold position lastRank
    rw [hlength]
  obtain rfl : lower = lower' := by
    have hlower := h.lower_eq
    rw [hposition, h'.lower_eq] at hlower
    exact_mod_cast (Except.ok.inj hlower).symm
  obtain rfl : upper = upper' := by rw [h.upper_eq, h'.upper_eq, hlength]
  have hlow := sameNumber_of_ranks hranks hdoubles hdoubles' h.low_eq h'.low_eq
  have hhigh := sameNumber_of_ranks hranks hdoubles hdoubles' h.high_eq h'.high_eq
  rw [h.result_eq, h'.result_eq, hposition]
  exact hlow.add ((hhigh.sub hlow).mul_right _)

/-- Sorting leaves nothing of the order but which zero comes first. -/
theorem map_rank_sorted {sample sample' : List Binary64} (hperm : sample.Perm sample')
    (h : ∀ x ∈ sample, x.isNaN = false) :
    (sorted sample).map Binary64.rank = (sorted sample').map Binary64.rank := by
  have h' : ∀ x ∈ sample', x.isNaN = false := fun x hx => h x (hperm.mem_iff.mpr hx)
  have hsort : (sorted sample).Perm (sorted sample') :=
    (List.mergeSort_perm ..).trans (hperm.trans (List.mergeSort_perm ..).symm)
  refine (hsort.map Binary64.rank).eq_of_pairwise (fun a b _ _ hab hba => le_antisymm hab hba) ?_ ?_
  · exact List.pairwise_map.mpr (pairwise_sorted h)
  · exact List.pairwise_map.mpr (pairwise_sorted h')

/-! ### Percentiles of doubles -/

/-- If every element of a list has a result, the list has the results of its elements. -/
theorem forall₂_of_mapM {α β ε : Type} {g : α → Except ε β} {P : α → β → Prop} {l : List α}
    (h : ∀ a ∈ l, ∃ b, g a = .ok b ∧ P a b) :
    ∃ bs, l.mapM g = .ok bs ∧ List.Forall₂ P l bs := by
  induction l with
  | nil => exact ⟨[], rfl, .nil⟩
  | cons a rest ih =>
      obtain ⟨b, hb, hP⟩ := h a List.mem_cons_self
      obtain ⟨bs, hbs, hrest⟩ := ih fun a' ha' => h a' (List.mem_cons_of_mem a ha')
      exact ⟨b :: bs, by rw [List.mapM_cons, hb, hbs]; rfl, .cons hP hrest⟩

/-- What is read for a fraction of a sample. -/
def IsRead (sample : List Binary64) (f result : Binary64) : Prop :=
  ∃ lower upper low high, Interpolates (sorted sample) f result lower upper low high

variable {sample fractions : List Binary64}

theorem forall₂_isRead (hne : sample ≠ []) (hlength : sample.length ≤ maxExact)
    (hdoubles : ∀ x ∈ sample, x.IsDouble) (hfractions : ∀ f ∈ fractions, IsFraction f) :
    ∃ results, ofSample sample fractions = .ok results ∧
      List.Forall₂ (IsRead sample) fractions results := by
  have hsorted := pairwise_sorted fun x hx => (hdoubles x hx).isNaN
  have hdoubles' : ∀ x ∈ sorted sample, x.IsDouble :=
    fun x hx => hdoubles x (List.mem_mergeSort.mp hx)
  have hlength' : (sorted sample).length ≤ maxExact := (length_sorted sample).le.trans hlength
  have hne' : sorted sample ≠ [] := fun hnil =>
    hne (List.length_eq_zero_iff.mp ((length_sorted sample).symm.trans (congrArg _ hnil)))
  unfold ofSample
  rw [if_neg (by rwa [List.isEmpty_iff])]
  exact forall₂_of_mapM fun f hf =>
    (hfractions f hf).interpolates hne' hlength' hdoubles' hsorted

/-- Values of one sample, read in two orders. -/
theorem sameNumbers_of_perm {sample' : List Binary64} (hperm : sample.Perm sample')
    (hdoubles : ∀ x ∈ sample, x.IsDouble) {results : List Binary64}
    (h : List.Forall₂ (IsRead sample) fractions results) :
    ∀ {results' : List Binary64}, List.Forall₂ (IsRead sample') fractions results' →
      List.Forall₂ SameNumber results results' ∧ (zero true ∉ fractions → results' = results) := by
  have hranks := map_rank_sorted hperm fun x hx => (hdoubles x hx).isNaN
  induction h with
  | nil =>
      intro results' h'
      cases h'
      exact ⟨.nil, fun _ => rfl⟩
  | cons hread _ ih =>
      intro results' h'
      cases h' with
      | cons hread' hrest' =>
          obtain ⟨lower, upper, low, high, hr⟩ := hread
          obtain ⟨lower', upper', low', high', hr'⟩ := hread'
          obtain ⟨hsames, hequal⟩ := ih hrest'
          have hsame := hr.sameNumber hranks
            (fun x hx => hdoubles x (List.mem_mergeSort.mp hx))
            (fun x hx => hdoubles x (hperm.mem_iff.mpr (List.mem_mergeSort.mp hx))) hr'
          refine ⟨.cons hsame hsames, fun hzero => ?_⟩
          obtain ⟨hfirst, hrest⟩ := not_or.mp (List.mem_cons.not.mp hzero)
          rw [hequal hrest]
          rcases hsame with rfl | ⟨a, b, rfl, rfl⟩
          · rfl
          · -- Two zeros are equal here, since neither is the negative one.
            cases a with
            | true => exact absurd rfl (hr.signed (Ne.symm hfirst))
            | false =>
                cases b with
                | true => exact absurd rfl (hr'.signed (Ne.symm hfirst))
                | false => rfl

/-- A sample of doubles that is not empty and not longer than two to the power of 53 has a value for
each fraction between zero and one.  It is read between two neighbours of the sorted sample, and it
is not beyond them exactly if their difference is finite.  Another order of the sample gives the same
numbers, and the same zeros too unless a fraction is the negative zero. -/
theorem ofSample_between_neighbours (hne : sample ≠ []) (hlength : sample.length ≤ maxExact)
    (hdoubles : ∀ x ∈ sample, x.IsDouble) (hfractions : ∀ f ∈ fractions, IsFraction f) :
    (sorted sample).Perm sample ∧ ((sorted sample).Pairwise fun a b => a.le b = true) ∧
      ∃ results, ofSample sample fractions = .ok results ∧
        List.Forall₂ (IsRead sample) fractions results ∧
        ∀ sample', sample.Perm sample' →
          ∃ results', ofSample sample' fractions = .ok results' ∧
            List.Forall₂ SameNumber results results' ∧
            (zero true ∉ fractions → results' = results) := by
  have hsorted := pairwise_sorted fun x hx => (hdoubles x hx).isNaN
  have hmem : ∀ x ∈ sorted sample, x.isNaN = false :=
    fun x hx => (hdoubles x (List.mem_mergeSort.mp hx)).isNaN
  refine ⟨List.mergeSort_perm .., hsorted.imp_of_mem fun ha hb hab =>
    (Binary64.le_iff (hmem _ ha) (hmem _ hb)).mpr hab, ?_⟩
  obtain ⟨results, hresults, hread⟩ := forall₂_isRead hne hlength hdoubles hfractions
  refine ⟨results, hresults, hread, fun sample' hperm => ?_⟩
  obtain ⟨results', hresults', hread'⟩ := forall₂_isRead
    (fun hnil => hne (hnil ▸ hperm).eq_nil) (hperm.length_eq ▸ hlength)
    (fun x hx => hdoubles x (hperm.mem_iff.mpr hx)) hfractions
  exact ⟨results', hresults', sameNumbers_of_perm hperm hdoubles hread hread'⟩

theorem sorted_of_pairwise (h : sample.Pairwise fun a b => b.lt a = false) :
    sorted sample = sample :=
  List.mergeSort_of_pairwise (h.imp fun hab => by rw [hab]; rfl)

/-- Four values in any order, with both ends and the middle. -/
theorem ofSample_between_four_neighbours :
    let sample := [ofInt 1, ofInt 2, ofInt 3, ofInt 4]
    let fractions := [zero false, Binary64.ofRatio false 1 2, ofInt 1]
    let results := [ofInt 1, Binary64.ofRatio false 5 2, ofInt 4]
    ofSample sample fractions = .ok results ∧
      ∀ sample', sample.Perm sample' → ofSample sample' fractions = .ok results := by
  intro sample fractions results
  have hsorted : sorted sample = sample := sorted_of_pairwise (by decide +kernel)
  have hresults : ofSample sample fractions = .ok results := by
    show fractions.mapM (interpolate (sorted sample)) = .ok results
    rw [hsorted]
    clear hsorted
    revert sample fractions results
    decide +kernel
  obtain ⟨-, -, values, hvalues, -, hperms⟩ := @ofSample_between_neighbours sample fractions
    (by decide) (by decide) (by decide +kernel)
    (List.forall_mem_cons.mpr ⟨⟨by decide +kernel, by decide +kernel, by decide +kernel⟩,
      List.forall_mem_cons.mpr ⟨⟨by decide +kernel, by decide +kernel, by decide +kernel⟩,
        List.forall_mem_singleton.mpr ⟨by decide +kernel, by decide +kernel, by decide +kernel⟩⟩⟩)
  obtain rfl : values = results := Except.ok.inj (hvalues.symm.trans hresults)
  refine ⟨hresults, fun sample' hperm => ?_⟩
  obtain ⟨results', hresults', -, hequal⟩ := hperms sample' hperm
  rw [hresults', hequal (by decide +kernel)]

/-- The two values are farther apart than the greatest double, and the fraction zero gives a NaN and
not the smaller of them. -/
theorem nan_between_distant_neighbours :
    let x := Binary64.finite false 0x11ccf385ebc8a0 971
    x.IsDouble ∧ x.neg.IsDouble ∧ IsFraction (zero false) ∧
      ofSample [x.neg, x] [zero false] = .ok [.nan] ∧ x.neg.le .nan = false := by
  intro x
  have hsorted : sorted [x.neg, x] = [x.neg, x] := sorted_of_pairwise (by decide +kernel)
  refine ⟨by decide +kernel, by decide +kernel,
    ⟨by decide +kernel, by decide +kernel, by decide +kernel⟩, ?_, rfl⟩
  show [zero false].mapM (interpolate (sorted [x.neg, x])) = .ok [.nan]
  rw [hsorted]
  clear hsorted
  revert x
  decide +kernel

end RetrievalTelemetry.Percentile
