import HostWatch.Address.Punycode
import Mathlib.Data.List.TakeWhile
import Mathlib.Tactic.Ring

namespace HostWatch.Address.Punycode

section Numbers

variable {bias k weight n : Nat}

theorem digit?_digitChar {d : Nat} (h : d < base) : digit? (digitChar d) = some d := by
  have all : ∀ d ∈ List.range base, digit? (digitChar d) = some d := by decide
  exact all d (List.mem_range.mpr h)

/-- The weights that come up: powers of the greatest factor, until the thresholds have grown to
their greatest. -/
def Weighs (bias k weight : Nat) : Prop := (∃ j, weight = 35 ^ j) ∨ bias + greatestThreshold ≤ k

/-- Whatever the thresholds are, the weights for a number below `35 ^ 6` stay within a word. -/
theorem Weighs.next (weighs : Weighs bias k weight) (more : threshold bias k ≤ n)
    (fits : n * weight < 35 ^ 6) : weight * (base - threshold bias k) < bound ∧
      Weighs bias (k + base) (weight * (base - threshold bias k)) := by
  have pos := threshold_pos bias k
  have size : bound = 4294967296 := rfl
  have width : base = 36 := rfl
  rcases weighs with ⟨j, rfl⟩ | late
  · have small : j < 6 := by
      refine (Nat.pow_lt_pow_iff_right (show 1 < 35 by omega)).mp (lt_of_le_of_lt ?_ fits)
      exact Nat.le_mul_of_pos_left _ (by omega)
    have grown : 35 ^ j * 35 ≤ 35 ^ 6 := by
      rw [← Nat.pow_succ]
      exact Nat.pow_le_pow_right (by omega) small
    have step : 35 ^ j * (base - threshold bias k) ≤ 35 ^ j * 35 :=
      Nat.mul_le_mul_left _ (by omega)
    refine ⟨by omega, ?_⟩
    by_cases early : k ≤ bias + 1
    · have least : threshold bias k = 1 := by
        unfold threshold leastThreshold greatestThreshold
        omega
      refine Or.inl ⟨j + 1, ?_⟩
      rw [least, Nat.pow_succ]
      rfl
    · refine Or.inr ?_
      unfold greatestThreshold
      omega
  · have greatest : threshold bias k = 26 := by
      unfold threshold leastThreshold greatestThreshold at *
      omega
    refine ⟨?_, Or.inr (by omega)⟩
    have step : weight * (base - threshold bias k) ≤ weight * n :=
      Nat.mul_le_mul_left _ (by omega)
    rw [Nat.mul_comm weight n] at step
    omega

theorem readNumber_last {d sum : Nat} {c : Char} (digit : digit? c = some d)
    (within : sum + d * weight < bound) (last : d < threshold bias k) (cs : List Char) :
    readNumber bias k weight sum (c :: cs) = some (sum + d * weight, cs) := by
  simp only [readNumber, digit, bind, Option.bind_some, guard, within, last, if_true, pure]

theorem readNumber_more {d sum : Nat} {c : Char} (digit : digit? c = some d)
    (within : sum + d * weight < bound) (more : threshold bias k ≤ d)
    (goes_on : weight * (base - threshold bias k) < bound) (cs : List Char) :
    readNumber bias k weight sum (c :: cs) = readNumber bias (k + base)
      (weight * (base - threshold bias k)) (sum + d * weight) cs := by
  simp only [readNumber, digit, bind, Option.bind_some, guard, within, if_true, pure,
    Nat.not_lt.mpr more, if_false, goes_on]

/-- The digits of a number: it is a digit itself, or a digit and a smaller number come of it. -/
theorem writeNumber_cases (bias k n : Nat) :
    (n < threshold bias k ∧ writeNumber bias k n = [digitChar n]) ∨
      ∃ d q, threshold bias k ≤ d ∧ d < base ∧ q < n ∧
        n = d + q * (base - threshold bias k) ∧
        writeNumber bias k n = digitChar d :: writeNumber bias (k + base) q := by
  have pos := threshold_pos bias k
  have most := threshold_le bias k
  have width : base = 36 := rfl
  by_cases last : n < threshold bias k
  · refine Or.inl ⟨last, ?_⟩
    rw [writeNumber]
    exact if_pos last
  · refine Or.inr ⟨threshold bias k + (n - threshold bias k) % (base - threshold bias k),
      (n - threshold bias k) / (base - threshold bias k), by omega, ?_, ?_, ?_, ?_⟩
    · have low := Nat.mod_lt (n - threshold bias k) (show 0 < base - threshold bias k by omega)
      omega
    · have less := Nat.div_le_self (n - threshold bias k) (base - threshold bias k)
      omega
    · have parts := Nat.mod_add_div' (n - threshold bias k) (base - threshold bias k)
      omega
    · rw [writeNumber]
      exact if_neg last

theorem readNumber_writeNumber {sum : Nat} (weighs : Weighs bias k weight)
    (fits : sum + n * weight < 35 ^ 6) (rest : List Char) :
    readNumber bias k weight sum (writeNumber bias k n ++ rest) =
      some (sum + n * weight, rest) := by
  have size : bound = 4294967296 := rfl
  have width : base = 36 := rfl
  induction n using Nat.strongRecOn generalizing k weight sum with
  | ind n ih =>
    rcases writeNumber_cases bias k n with
      ⟨last, written⟩ | ⟨d, q, more, digit, less, value, written⟩
    · have most := threshold_le bias k
      have digit : digit? (digitChar n) = some n := digit?_digitChar (by omega)
      rw [written]
      exact readNumber_last digit (by omega) last rest
    · obtain ⟨goes_on, weighs'⟩ := weighs.next (n := n) (by omega) (by omega)
      have total : d * weight + q * (weight * (base - threshold bias k)) = n * weight := by
        rw [value]
        ring
      rw [written, List.cons_append,
        readNumber_more (digit?_digitChar digit) (by omega) more goes_on,
        ih q less weighs' (by omega), Nat.add_assoc, total]

theorem mem_writeNumber {c : Char} (mem : c ∈ writeNumber bias k n) :
    ∃ d < base, c = digitChar d := by
  have width : base = 36 := rfl
  induction n using Nat.strongRecOn generalizing k with
  | ind n ih =>
    rcases writeNumber_cases bias k n with ⟨last, written⟩ | ⟨d, q, -, digit, less, -, written⟩
    · have most := threshold_le bias k
      exact ⟨n, by omega, List.mem_singleton.mp (written ▸ mem)⟩
    · rcases List.mem_cons.mp (written ▸ mem) with rfl | mem
      · exact ⟨d, digit, rfl⟩
      · exact ih q less mem

theorem writeNumber_ne_nil : writeNumber bias k n ≠ [] := by
  rcases writeNumber_cases bias k n with ⟨-, written⟩ | ⟨d, q, -, -, -, -, written⟩
  all_goals simp [written]

end Numbers

section Labels

theorem char?_toNat (c : Char) : char? c.toNat = some c := by
  have scalar : c.toNat < 0xD800 ∨ 0xDFFF < c.toNat ∧ c.toNat < 0x110000 := c.valid
  rw [char?, if_pos scalar, Char.ofNat_toNat]

theorem insertAll_writeNumber {bias m i due r : Nat} {label : List Char} {c : Char}
    (from_ : m ≤ c.toNat) (place : r ≤ label.length) (short : label.length ≤ 1000)
    (sum : due + i = (c.toNat - m) * (label.length + 1) + r) (more : List Char) :
    insertAll bias m i label (writeNumber bias base due ++ more) =
      insertAll (adapt due (label.length + 1) (i = 0)) c.toNat (r + 1) (label.insertIdx r c)
        more := by
  have fits : i + due < 35 ^ 6 := by
    have highest : c.toNat < 0x110000 := by
      rcases c.valid with low | ⟨-, high⟩
      · exact Nat.lt_trans low (by decide)
      · exact high
    have most : (c.toNat - m) * (label.length + 1) ≤ 0x110000 * 1001 :=
      Nat.mul_le_mul (by omega) (by omega)
    omega
  have read : readNumber bias base 1 i (writeNumber bias base due ++ more) =
      some (i + due, more) := by
    have weighs : Weighs bias base 1 := Or.inl ⟨0, rfl⟩
    simpa using readNumber_writeNumber weighs (by simpa using fits) more
  have whole : i + due = r + (label.length + 1) * (c.toNat - m) := by
    rw [Nat.add_comm i, sum, Nat.add_comm, Nat.mul_comm]
  have quotient : (i + due) / (label.length + 1) = c.toNat - m := by
    rw [whole, Nat.add_mul_div_left _ _ (by omega), Nat.div_eq_of_lt (by omega), Nat.zero_add]
  have remainder : (i + due) % (label.length + 1) = r := by
    rw [whole, Nat.add_mul_mod_self_left, Nat.mod_eq_of_lt (by omega)]
  have some_ : writeNumber bias base due ≠ [] := writeNumber_ne_nil
  obtain ⟨d, ds, digits⟩ := List.exists_cons_of_ne_nil some_
  rw [digits, List.cons_append] at read ⊢
  rw [insertAll]
  split
  next none => rw [read] at none; cases none
  next n cs found =>
    rw [read] at found
    obtain ⟨rfl, rfl⟩ := Prod.mk.inj (Option.some.inj found)
    simp only [quotient, remainder, Nat.add_sub_cancel' from_, char?_toNat,
      Nat.add_sub_cancel_left]

theorem insertIdx_length_append (before after : List Char) (c : Char) :
    (before ++ after).insertIdx before.length c = before ++ c :: after := by
  induction before <;> simp [*]

/-- The reader of what has been written so far holds `label`, and the number that is due takes it to
code point `n` and place `r`. -/
def Caught (ascii : List Char) (n r : Nat) (label : List Char) (p : Progress) : Prop :=
  p.done = label.length ∧ ascii.length ≤ p.done ∧
    ∃ m i, m ≤ n ∧ p.due + i = (n - m) * (p.done + 1) + r ∧ (i = 0 ↔ p.done = ascii.length) ∧
      ∀ more, insertAll initialBias firstCodePoint 0 ascii (p.digits ++ more) =
        insertAll p.bias m i label more

variable {ascii label : List Char} {n r : Nat} {p : Progress}

theorem Caught.skip (caught : Caught ascii n r label p) :
    Caught ascii n (r + 1) label { p with due := p.due + 1 } := by
  obtain ⟨done, least, m, i, from_, due, first, read⟩ := caught
  exact ⟨done, least, m, i, from_, by dsimp only; omega, first, read⟩

theorem Caught.insert {c : Char} (caught : Caught ascii c.toNat r label p)
    (place : r ≤ label.length) (short : label.length ≤ 1000) :
    Caught ascii c.toNat (r + 1) (label.insertIdx r c)
      { digits := p.digits ++ writeNumber p.bias base p.due
        due := 0
        bias := adapt p.due (p.done + 1) (p.done = ascii.length)
        done := p.done + 1 } := by
  obtain ⟨done, least, m, i, from_, due, first, read⟩ := caught
  refine ⟨?_, by dsimp only; omega, c.toNat, r + 1, le_rfl, by simp, ?_, fun more => ?_⟩
  · rw [List.length_insertIdx_of_le_length place, done]
  · dsimp only
    omega
  · dsimp only
    rw [List.append_assoc, read, insertAll_writeNumber from_ place short (done ▸ due) more, done]
    congr 2
    rw [← done, decide_eq_decide]
    exact first

theorem Caught.wrap (caught : Caught ascii n label.length label p) :
    Caught ascii (n + 1) 0 label { p with due := p.due + 1 } := by
  obtain ⟨done, least, m, i, from_, due, first, read⟩ := caught
  have step : n + 1 - m = (n - m) + 1 := by omega
  refine ⟨done, least, m, i, by omega, ?_, first, read⟩
  dsimp only
  rw [step, Nat.add_mul, Nat.one_mul]
  omega

/-- Each code point has as many places as there are before, between and after the characters. -/
theorem Caught.advance (caught : Caught ascii n 0 label p) {m : Nat} (later : n ≤ m) :
    Caught ascii m 0 label { p with due := p.due + (m - n) * (p.done + 1) } := by
  obtain ⟨done, least, l, i, from_, due, first, read⟩ := caught
  have step : m - l = (n - l) + (m - n) := by omega
  refine ⟨done, least, l, i, by omega, ?_, first, read⟩
  dsimp only
  rw [step, Nat.add_mul]
  omega

/-- What has been read of a label while the characters of code point `n` are written and the pass
is between two parts of it. -/
def soFar (n : Nat) (before after : List Char) : List Char :=
  before.filter (·.toNat ≤ n) ++ after.filter (·.toNat < n)

theorem Caught.pass {before after : List Char} {c : Char}
    (caught : Caught ascii n (before.filter (·.toNat ≤ n)).length (soFar n before (c :: after)) p)
    (short : (before ++ c :: after).length ≤ 1000) :
    Caught ascii n ((before ++ [c]).filter (·.toNat ≤ n)).length (soFar n (before ++ [c]) after)
      (p.pass ascii.length n c) := by
  unfold Progress.pass
  rcases Nat.lt_trichotomy c.toNat n with less | same | greater
  · have kept : soFar n (before ++ [c]) after = soFar n before (c :: after) := by
      simp [soFar, less, less.le]
    have place : ((before ++ [c]).filter (·.toNat ≤ n)).length =
        (before.filter (·.toNat ≤ n)).length + 1 := by simp [less.le]
    rw [kept, place, if_pos less]
    exact caught.skip
  · subst same
    have put : soFar c.toNat (before ++ [c]) after =
        (soFar c.toNat before (c :: after)).insertIdx
          (before.filter (·.toNat ≤ c.toNat)).length c := by
      simp [soFar, insertIdx_length_append]
    have place : ((before ++ [c]).filter (·.toNat ≤ c.toNat)).length =
        (before.filter (·.toNat ≤ c.toNat)).length + 1 := by simp
    rw [put, place, if_neg (Nat.lt_irrefl _), if_pos rfl]
    refine caught.insert ?_ ?_
    · simp [soFar]
    · have front := List.length_filter_le (fun d : Char => decide (d.toNat ≤ c.toNat)) before
      have back := List.length_filter_le (fun d : Char => decide (d.toNat < c.toNat)) (c :: after)
      simp only [List.length_append, soFar] at short ⊢
      omega
  · have kept : soFar n (before ++ [c]) after = soFar n before (c :: after) := by
      have above : ¬ c.toNat ≤ n := by omega
      have above' : ¬ c.toNat < n := by omega
      simp [soFar, above, above']
    have place : ((before ++ [c]).filter (·.toNat ≤ n)).length =
        (before.filter (·.toNat ≤ n)).length := by
      have above : ¬ c.toNat ≤ n := by omega
      simp [above]
    rw [kept, place, if_neg (by omega), if_neg (by omega)]
    exact caught

/-- A pass over the rest of a label writes all characters of the code point that are in it. -/
theorem Caught.passes {before after : List Char}
    (caught : Caught ascii n (before.filter (·.toNat ≤ n)).length (soFar n before after) p)
    (short : (before ++ after).length ≤ 1000) :
    Caught ascii n ((before ++ after).filter (·.toNat ≤ n)).length
      ((before ++ after).filter (·.toNat ≤ n)) (after.foldl (Progress.pass ascii.length n) p) := by
  induction after generalizing before p with
  | nil => simpa [soFar] using caught
  | cons c after ih =>
    have others := ih (caught.pass short) (by simpa using short)
    simpa using others

theorem mem_insertOnce {m n : Nat} {ms : List Nat} : m ∈ insertOnce n ms ↔ m = n ∨ m ∈ ms := by
  induction ms with
  | nil => simp [insertOnce]
  | cons k ms ih =>
    unfold insertOnce
    split
    · simp
    · split
      next same => simp [same]
      next => simp [ih, or_left_comm]

theorem pairwise_insertOnce {n : Nat} {ms : List Nat} (ascending : ms.Pairwise (· < ·)) :
    (insertOnce n ms).Pairwise (· < ·) := by
  induction ms with
  | nil => simp [insertOnce]
  | cons k ms ih =>
    obtain ⟨least, ascending⟩ := List.pairwise_cons.mp ascending
    unfold insertOnce
    split
    next less =>
      refine List.pairwise_cons.mpr ⟨fun m mem => ?_, List.pairwise_cons.mpr ⟨least, ascending⟩⟩
      rcases List.mem_cons.mp mem with rfl | mem
      · exact less
      · exact less.trans (least m mem)
    · split
      · exact List.pairwise_cons.mpr ⟨least, ascending⟩
      · refine List.pairwise_cons.mpr ⟨fun m mem => ?_, ih ascending⟩
        rcases mem_insertOnce.mp mem with rfl | mem
        · omega
        · exact least m mem

theorem insertAll_writeAll {ns : List Nat} (short : label.length ≤ 1000)
    (caught : Caught ascii n 0 (label.filter (·.toNat < n)) p) (ascending : ns.Pairwise (· < ·))
    (bounded : ∀ m ∈ ns, n ≤ m) (all : ∀ c ∈ label, c.toNat < n ∨ c.toNat ∈ ns) :
    insertAll initialBias firstCodePoint 0 ascii (writeAll label ascii.length n ns p).digits =
      some label := by
  induction ns generalizing n p with
  | nil =>
    obtain ⟨-, -, m, i, -, -, -, read⟩ := caught
    have whole : label.filter (·.toNat < n) = label := by simpa using all
    have last := read []
    rwa [List.append_nil, whole, insertAll] at last
  | cons m ns ih =>
    obtain ⟨least, ascending⟩ := List.pairwise_cons.mp ascending
    have from_ : n ≤ m := bounded m List.mem_cons_self
    have below : label.filter (·.toNat < n) = label.filter (·.toNat < m) := by
      refine List.filter_congr fun c mem => ?_
      rw [decide_eq_decide]
      rcases all c mem with less | listed
      · omega
      · rcases List.mem_cons.mp listed with same | listed
        · omega
        · have := least _ listed
          omega
    have begun : Caught ascii m (([] : List Char).filter (·.toNat ≤ m)).length (soFar m [] label)
        { p with due := p.due + (m - n) * (p.done + 1) } := by
      rw [below] at caught
      exact caught.advance from_
    have passed := (begun.passes short).wrap
    have upTo : label.filter (·.toNat ≤ m) = label.filter (·.toNat < m + 1) :=
      List.filter_congr fun c _ => decide_eq_decide.mpr (by omega)
    rw [List.nil_append, upTo] at passed
    refine ih passed ascending (fun k mem => least k mem) fun c mem => ?_
    rcases all c mem with less | listed
    · exact Or.inl (by omega)
    · exact (List.mem_cons.mp listed).imp_left (by omega)

theorem sorted_insertOnce (ns : List Nat) : (ns.foldr insertOnce []).Pairwise (· < ·) ∧
    ∀ n, n ∈ ns.foldr insertOnce [] ↔ n ∈ ns := by
  induction ns with
  | nil => simp
  | cons m ns ih =>
    refine ⟨pairwise_insertOnce ih.1, fun n => ?_⟩
    rw [List.foldr_cons, mem_insertOnce, ih.2, List.mem_cons]

def numbers (label : List Char) : List Char :=
  let ascii := label.filter (·.toNat < firstCodePoint)
  let others := (label.filter (firstCodePoint ≤ ·.toNat)).map Char.toNat
  (writeAll label ascii.length firstCodePoint (others.foldr insertOnce [])
    ⟨[], 0, initialBias, ascii.length⟩).digits

theorem insertAll_numbers (short : label.length ≤ 1000) :
    insertAll initialBias firstCodePoint 0 (label.filter (·.toNat < firstCodePoint))
      (numbers label) = some label := by
  obtain ⟨ascending, listed⟩ :=
    sorted_insertOnce ((label.filter (firstCodePoint ≤ ·.toNat)).map Char.toNat)
  refine insertAll_writeAll short ?_ ascending ?_ ?_
  · exact ⟨rfl, le_rfl, firstCodePoint, 0, le_rfl, by simp, by simp, fun more => rfl⟩
  · intro n mem
    obtain ⟨c, high, rfl⟩ := List.mem_map.mp ((listed n).mp mem)
    simpa using (List.mem_filter.mp high).2
  · intro c mem
    refine (Nat.lt_or_ge c.toNat firstCodePoint).imp_right fun high => ?_
    exact (listed _).mpr (List.mem_map_of_mem (List.mem_filter.mpr ⟨mem, by simpa using high⟩))

theorem mem_pass {c d : Char} {k : Nat} (mem : d ∈ (p.pass k n c).digits) :
    d ∈ p.digits ∨ ∃ x < base, d = digitChar x := by
  unfold Progress.pass at mem
  split at mem
  · exact Or.inl mem
  · split at mem
    · exact (List.mem_append.mp mem).imp_right mem_writeNumber
    · exact Or.inl mem

theorem mem_writeAll {d : Char} {k : Nat} {ns : List Nat}
    (mem : d ∈ (writeAll label k n ns p).digits) : d ∈ p.digits ∨ ∃ x < base, d = digitChar x := by
  have fold (cs : List Char) (m : Nat) (p : Progress)
      (mem : d ∈ (cs.foldl (Progress.pass k m) p).digits) :
      d ∈ p.digits ∨ ∃ x < base, d = digitChar x := by
    induction cs generalizing p with
    | nil => exact Or.inl mem
    | cons c cs ih => exact (ih _ mem).elim mem_pass Or.inr
  induction ns generalizing n p with
  | nil => exact Or.inl mem
  | cons m ns ih => exact (ih mem).elim (fold label m _) Or.inr

theorem mem_numbers {d : Char} (mem : d ∈ numbers label) : ∃ x < base, d = digitChar x := by
  rcases mem_writeAll mem with none | digit
  · cases none
  · exact digit

theorem encode_eq (label : List Char) : encode label =
    label.filter (·.toNat < firstCodePoint) ++
      ((if (label.filter (·.toNat < firstCodePoint)).isEmpty then [] else ['-']) ++
        numbers label) := List.append_assoc _ _ _

theorem cutHyphen_encode (label : List Char) :
    cutHyphen (encode label) = (label.filter (·.toNat < firstCodePoint), numbers label) := by
  have plain : ∀ d ∈ (numbers label).reverse, decide (d ≠ '-') = true := by
    have all : ∀ x < base, digitChar x ≠ '-' := by decide
    intro d mem
    obtain ⟨x, digit, rfl⟩ := mem_numbers (List.mem_reverse.mp mem)
    exact decide_eq_true (all x digit)
  rw [encode_eq]
  generalize label.filter (·.toNat < firstCodePoint) = ascii
  cases ascii with
  | nil =>
    have after : (numbers label).reverse.takeWhile (· ≠ '-') = (numbers label).reverse :=
      List.takeWhile_eq_self_iff.mpr plain
    simp only [cutHyphen, List.isEmpty_nil, if_true, List.nil_append, after, List.reverse_reverse,
      Nat.sub_self, Nat.zero_sub, List.take_zero]
  | cons c ascii =>
    have after : ((c :: ascii) ++ (['-'] ++ numbers label)).reverse.takeWhile (· ≠ '-') =
        (numbers label).reverse := by
      rw [List.reverse_append, List.reverse_append, List.append_assoc,
        List.takeWhile_append_of_pos plain]
      simp
    have before : ((c :: ascii) ++ (['-'] ++ numbers label)).take
        (((c :: ascii) ++ (['-'] ++ numbers label)).length - (numbers label).length - 1) =
        c :: ascii := by
      have size : ((c :: ascii) ++ (['-'] ++ numbers label)).length - (numbers label).length - 1 =
          (c :: ascii).length := by
        simp only [List.length_append, List.length_cons, List.length_nil]
        omega
      rw [size, List.take_left]
    simp only [cutHyphen, List.isEmpty_cons, Bool.false_eq_true, if_false, after,
      List.reverse_reverse, before]

theorem decode?_encode (short : label.length ≤ 1000) : decode? (encode label) = some label := by
  have ascii : (label.filter (·.toNat < firstCodePoint)).all (·.toNat < firstCodePoint) = true := by
    simp
  simp only [decode?, cutHyphen_encode, ascii, if_true, insertAll_numbers short]

theorem ascii_of_digit? {c : Char} {d : Nat} (digit : digit? c = some d) : c.toNat < 0x80 := by
  have upTo {top : Char} (h : c ≤ top) (low : top.toNat < 0x80) : c.toNat < 0x80 :=
    Nat.lt_of_le_of_lt h low
  unfold digit? at digit
  split at digit
  next h => exact upTo h.2 (by decide)
  split at digit
  next h => exact upTo h.2 (by decide)
  split at digit
  next h => exact upTo h.2 (by decide)
  cases digit

theorem ascii_of_readNumber {bias k weight sum total : Nat} {cs rest : List Char}
    (read : readNumber bias k weight sum cs = some (total, rest)) :
    ∃ taken, cs = taken ++ rest ∧ ∀ c ∈ taken, c.toNat < 0x80 := by
  induction cs generalizing k weight sum with
  | nil => cases read
  | cons c cs ih =>
    obtain ⟨d, digit, read⟩ := Option.bind_eq_some_iff.mp read
    obtain ⟨-, -, read⟩ := Option.bind_eq_some_iff.mp read
    dsimp only at read
    by_cases last : d < threshold bias k
    · rw [if_pos last] at read
      cases read
      exact ⟨[c], rfl, by simpa using ascii_of_digit? digit⟩
    · rw [if_neg last] at read
      obtain ⟨-, -, read⟩ := Option.bind_eq_some_iff.mp read
      obtain ⟨taken, rfl, plain⟩ := ih read
      exact ⟨c :: taken, rfl, by simpa using ⟨ascii_of_digit? digit, plain⟩⟩

theorem ascii_of_insertAll {bias m i : Nat} {cs out : List Char}
    (read : insertAll bias m i label cs = some out) : ∀ c ∈ cs, c.toNat < 0x80 := by
  fun_induction insertAll bias m i label cs with
  | case1 => simp
  | case2 => cases read
  | case3 => cases read
  | case4 bias m i label c rest n cs found length m' x valid smaller ih =>
    obtain ⟨taken, parts, plain⟩ := ascii_of_readNumber found
    rw [parts]
    intro d mem
    exact (List.mem_append.mp mem).elim (plain d) (ih read d)

theorem mem_cutHyphen {cs : List Char} {c : Char} (mem : c ∈ cs) :
    c ∈ (cutHyphen cs).1 ∨ c = '-' ∨ c ∈ (cutHyphen cs).2 := by
  have parts : (cs.reverse.dropWhile (· ≠ '-')).reverse ++
      (cs.reverse.takeWhile (· ≠ '-')).reverse = cs := by
    rw [← List.reverse_append, List.takeWhile_append_dropWhile, List.reverse_reverse]
  have hyphen : ∀ d ∈ (cs.reverse.dropWhile (· ≠ '-')).head?, d = '-' := fun d first => by
    have ended := List.head?_dropWhile_not (fun c : Char => decide (c ≠ '-')) cs.reverse
    rw [Option.mem_def.mp first] at ended
    simpa using ended
  unfold cutHyphen
  dsimp only
  split
  · exact Or.inr (Or.inr mem)
  · generalize cs.reverse.takeWhile (· ≠ '-') = after at parts
    generalize cs.reverse.dropWhile (· ≠ '-') = front at parts hyphen
    subst parts
    refine (List.mem_append.mp mem).elim (fun mem => ?_) (fun mem => Or.inr (Or.inr mem))
    cases front with
    | nil => cases mem
    | cons d front =>
      obtain rfl := hyphen d rfl
      have size : ((('-' :: front).reverse ++ after.reverse).length - after.reverse.length - 1) =
          front.reverse.length := by
        simp only [List.length_append, List.length_reverse, List.length_cons]
        omega
      rw [size]
      rcases List.mem_append.mp (List.reverse_cons ▸ mem) with mem | mem
      · exact Or.inl (by simpa using mem)
      · exact Or.inr (Or.inl (List.mem_singleton.mp mem))

theorem ascii_of_decode? {cs out : List Char} (read : decode? cs = some out) :
    ∀ c ∈ cs, c.toNat < 0x80 := by
  unfold decode? at read
  dsimp only at read
  split at read
  next ascii =>
    intro c mem
    rcases mem_cutHyphen mem with front | rfl | back
    · exact of_decide_eq_true (List.all_eq_true.mp ascii c front)
    · decide
    · exact ascii_of_insertAll read c back
  next => cases read

end Labels

end HostWatch.Address.Punycode
