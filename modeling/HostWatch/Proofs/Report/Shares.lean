import HostWatch.Proofs.Number.Words
import HostWatch.Report.Share
import Mathlib.Data.List.Forall2

namespace HostWatch

/-- The sum of two words, or the greatest word where the sum is past it. -/
def addSaturating (n m : UInt64) : UInt64 :=
  if n.toNat + m.toNat < UInt64.size then n + m else UInt64.ofNat (UInt64.size - 1)

theorem toNat_addSaturating (n m : UInt64) :
    (addSaturating n m).toNat = min (n.toNat + m.toNat) (UInt64.size - 1) := by
  unfold addSaturating
  by_cases fits : n.toNat + m.toNat < UInt64.size
  · have precise : (n + m).toNat = n.toNat + m.toNat := by
      rw [UInt64.toNat_add]
      exact Nat.mod_eq_of_lt fits
    rw [if_pos fits, precise]
    omega
  · have greatest : (UInt64.ofNat (UInt64.size - 1)).toNat = UInt64.size - 1 := by decide
    rw [if_neg fits, greatest]
    omega

theorem toNat_foldl_addSaturating (n : UInt64) (ms : List UInt64) :
    (ms.foldl addSaturating n).toNat =
      min (n.toNat + (ms.map UInt64.toNat).sum) (UInt64.size - 1) := by
  induction ms generalizing n with
  | nil =>
    have small := n.toNat_lt_size
    simp only [List.foldl_nil, List.map_nil, List.sum_nil]
    omega
  | cons m ms ih =>
    rw [List.foldl_cons, ih, toNat_addSaturating, List.map_cons, List.sum_cons]
    omega

def growth (prev curr : List UInt64) : Nat :=
  (List.zipWith (fun p c => c.toNat - p.toNat) prev curr).sum

namespace Counters

variable {prev curr : Counters}

def active (c : Counters) : List UInt64 :=
  [c.userNorm, c.userNice, c.kernel, c.ioWait, c.irq, c.softIrq]

def all (c : Counters) : List UInt64 :=
  [c.userNorm, c.userNice, c.kernel, c.idle, c.ioWait, c.irq, c.softIrq]

theorem sum_all (c : Counters) : (c.all.map UInt64.toNat).sum = c.sum := by
  simp only [all, List.map_cons, List.map_nil, List.sum_cons, List.sum_nil, sum]
  omega

theorem total_eq_foldl (c : Counters) : c.total = (c.all.foldl addSaturating 0).toNat := by
  rw [toNat_foldl_addSaturating, c.sum_all, UInt64.toNat_zero, Nat.zero_add]
  rfl

theorem total_of_sum_lt {c : Counters} (fits : c.sum < UInt64.size) : c.total = c.sum := by
  unfold total
  omega

/-- Counters that have only grown: their sums differ by what each of them has grown. -/
theorem growth_of_le (grown : List.Forall₂ (· ≤ ·) prev.all curr.all) :
    prev.sum + growth prev.all curr.all = curr.sum ∧
      growth prev.active curr.active + (curr.idle.toNat - prev.idle.toNat) =
        growth prev.all curr.all := by
  simp only [all, List.forall₂_cons, List.Forall₂.nil, UInt64.le_iff_toNat_le] at grown
  obtain ⟨norm, nice, kernel, idle, ioWait, irq, softIrq, -⟩ := grown
  simp only [growth, all, active, sum, List.zipWith_cons_cons, List.zipWith_nil_left,
    List.sum_cons, List.sum_nil]
  omega

end Counters

namespace Share

open Number

theorem log2_lt {n : Nat} (word : n < UInt64.size) :
    (Nat.log2 n : Int) < Format.double.maxExponent := by
  have short : Nat.log2 n < 64 := by
    by_cases zero : n = 0
    · rw [zero]
      decide
    · exact (Nat.log2_lt zero).mpr word
  have top : Format.double.maxExponent = 971 := by decide
  omega

/-- A part of a whole is a percentage from nothing to a hundred, after all rounding. -/
theorem percent_le {s : Share} (within : s.part ≤ s.whole) (word : s.whole < UInt64.size) :
    ∃ m e, s.percent.value = .finite false m e ∧
      Binary.numerator m e ≤ 100 * Binary.denominator e := by
  unfold percent
  by_cases nothing : s.whole = 0
  · rw [if_pos nothing]
    exact ⟨0, Format.single.minExponent, by decide, by decide⟩
  rw [if_neg nothing]
  have units := Format.holdsUnits_double
  obtain ⟨a, e, part, isPart⟩ := Format.ofNat_eq units (log2_lt (within.trans_lt word))
  obtain ⟨b, g, whole, isWhole⟩ := Format.ofNat_eq units (log2_lt word)
  have ordered : nearest 53 s.part ≤ nearest 53 s.whole := nearest_mono (by decide) within
  -- a whole that is not nothing is not rounded to nothing, so the quotient is a number
  have some : 0 < nearest 53 s.whole := by
    have one : nearest 53 1 = 1 := nearest_of_short (by decide)
    have grown : nearest 53 1 ≤ nearest 53 s.whole :=
      nearest_mono (by decide) (Nat.one_le_iff_ne_zero.mpr nothing)
    omega
  have pos : 0 < Binary.numerator b g := by
    rw [isWhole]
    exact Nat.mul_pos some (Format.denominator_pos g)
  have le : Binary.numerator a e * Binary.denominator g ≤
      Binary.denominator e * Binary.numerator b g := by
    rw [isPart, isWhole, Nat.mul_comm (Binary.denominator e), Nat.mul_right_comm]
    exact Nat.mul_le_mul_right _ (Nat.mul_le_mul_right _ ordered)
  obtain ⟨q, h, quotient, atMostOne⟩ := Binary.div_le_one units pos le
  obtain ⟨c, k, hundred, isHundred⟩ := Format.ofNat_eq units (n := 100) (log2_lt (by decide))
  have atMostHundred : Binary.numerator c k ≤ 100 * Binary.denominator k := by
    have exactly : nearest 53 100 = 100 := nearest_of_short (by decide)
    exact Nat.le_of_eq (isHundred.trans (by rw [← exactly]; rfl))
  have unit : Binary.numerator q h ≤ 1 * Binary.denominator h := by
    rwa [Nat.one_mul]
  obtain ⟨m, j, product, scaled⟩ := Binary.mul_le units (by decide) unit atMostHundred
  dsimp only
  rw [part, whole, quotient, hundred, product]
  exact Single.value_le (by decide) scaled

/-- The shares of which percentages are shown. -/
inductive Shown : Share → Prop where
  | sinceStart (c : Counters) : Shown c.busy
  | between (prev curr : Counters) : Shown (Counters.busySince prev curr)
  | memory (m : MemoryReport) : Shown m.usedShare

theorem Shown.bounds {s : Share} (h : s.Shown) : s.part ≤ s.whole ∧ s.whole < UInt64.size := by
  have greatest (c : Counters) : c.total < UInt64.size := by
    have pos : 0 < UInt64.size := by decide
    unfold Counters.total
    omega
  cases h with
  | sinceStart c => exact ⟨Nat.sub_le _ _, greatest c⟩
  | between prev curr => exact ⟨Nat.sub_le _ _, (Nat.sub_le _ _).trans_lt (greatest curr)⟩
  | memory m => exact ⟨Nat.sub_le _ _, m.total.toNat_lt_size⟩

end Share

namespace Counters

variable {prev curr : Counters}

/-- Between two snapshots all differences are those of whole numbers, the idle time being cut to the
time that passed. -/
theorem busySince_eq (prev curr : Counters) :
    let s := busySince prev curr
    (s.whole : Int) = max 0 (curr.total - prev.total : Int) ∧
      (s.part : Int) =
        s.whole - max 0 (min (curr.idle.toNat - prev.idle.toNat : Int) s.whole) := by
  intro s
  have whole : s.whole = curr.total - prev.total := rfl
  have part : s.part = s.whole - min (curr.idle.toNat - prev.idle.toNat) s.whole := rfl
  omega

/-- Where all counters have only grown and none of the sums is cut, a share is what they have grown
by. -/
theorem busySince_of_le (grown : List.Forall₂ (· ≤ ·) prev.all curr.all)
    (fits : curr.sum < UInt64.size) :
    busySince prev curr = ⟨growth prev.active curr.active, growth prev.all curr.all⟩ := by
  obtain ⟨sums, parts⟩ := growth_of_le grown
  have first : prev.total = prev.sum := total_of_sum_lt (by omega)
  have second : curr.total = curr.sum := total_of_sum_lt fits
  have whole : curr.total - prev.total = growth prev.all curr.all := by omega
  unfold busySince
  dsimp only
  rw [whole]
  congr 1
  omega

end Counters

/-- Every share is one of whole numbers in order, differences of counters being cut to what can be,
and its percentage lies between nothing and a hundred. -/
theorem shares_exact :
    (∀ c : Counters, c.total = (c.all.foldl addSaturating 0).toNat ∧ c.idle.toNat ≤ c.total ∧
      c.busy.whole = c.total ∧ (c.busy.part : Int) = c.total - c.idle.toNat) ∧
    (∀ prev curr : Counters, let s := Counters.busySince prev curr
      (s.whole : Int) = max 0 (curr.total - prev.total : Int) ∧
      (s.part : Int) = s.whole - max 0 (min (curr.idle.toNat - prev.idle.toNat : Int) s.whole) ∧
      (List.Forall₂ (· ≤ ·) prev.all curr.all → curr.sum < UInt64.size →
        s.part = growth prev.active curr.active ∧ s.whole = growth prev.all curr.all)) ∧
    (∀ m : MemoryReport, m.usedShare.whole = m.total.toNat ∧
      (m.usedShare.part : Int) = max 0 (m.total.toNat - m.available.toNat : Int)) ∧
    ∀ s : Share, s.Shown →
      s.part ≤ s.whole ∧ (s.whole = 0 → s.percent = ⟨0⟩) ∧
      (0 < s.whole → let f := Number.Format.double
        s.percent = .ofBinary (((f.ofNat s.part).div f (f.ofNat s.whole)).mul f (f.ofNat 100))) ∧
      ∃ m e, s.percent.value = .finite false m e ∧
        Number.Binary.numerator m e ≤ 100 * Number.Binary.denominator e := by
  refine ⟨fun c => ?_, fun prev curr => ?_, fun m => ?_, fun s shown => ?_⟩
  · have below := c.idle_le_total
    have part : c.busy.part = c.total - c.idle.toNat := rfl
    exact ⟨c.total_eq_foldl, below, rfl, by omega⟩
  · obtain ⟨whole, part⟩ := Counters.busySince_eq prev curr
    refine ⟨whole, part, fun grown fits => ?_⟩
    rw [Counters.busySince_of_le grown fits]
    exact ⟨rfl, rfl⟩
  · have part : m.usedShare.part = m.total.toNat - m.available.toNat := rfl
    exact ⟨rfl, by omega⟩
  · obtain ⟨within, word⟩ := shown.bounds
    refine ⟨within, fun nothing => if_pos nothing, fun some => ?_, Share.percent_le within word⟩
    exact if_neg (Nat.pos_iff_ne_zero.mp some)

/-- Two snapshots of which the second adds up to just the greatest word, and two of which the second
has started anew. -/
theorem shares_of_snapshots :
    let prev : Counters := { userNorm := 10, idle := 90 }
    let curr : Counters := { userNorm := 20, idle := 100, softIrq := 18446744073709551495 }
    List.Forall₂ (· ≤ ·) prev.all curr.all ∧ curr.sum < UInt64.size ∧
      (Counters.busySince prev curr).part = 18446744073709551505 ∧
      (Counters.busySince prev curr).whole = 18446744073709551515 ∧
      (Counters.busySince curr prev).whole = 0 ∧ (Counters.busySince curr prev).percent = ⟨0⟩ := by
  intro prev curr
  have grown : List.Forall₂ (· ≤ ·) prev.all curr.all := by decide
  have fits : curr.sum < UInt64.size := by decide
  obtain ⟨-, between, -, shown⟩ := shares_exact
  obtain ⟨-, -, exactly⟩ := between prev curr
  obtain ⟨part, whole⟩ := exactly grown fits
  have active : growth prev.active curr.active = 18446744073709551505 := by decide
  have all : growth prev.all curr.all = 18446744073709551515 := by decide
  have back : (Counters.busySince curr prev).whole = 0 := by decide
  have zero := (shown _ (.between curr prev)).2.1 back
  exact ⟨grown, fits, part.trans active, whole.trans all, back, zero⟩

end HostWatch
