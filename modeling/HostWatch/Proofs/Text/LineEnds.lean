import HostWatch.Text.Plain
import Mathlib.Data.List.Basic

namespace HostWatch.Text.Plain

section Unescaped

theorem commandLength_eq_zero {c : Char} (other : c ≠ escape) (cs : List Char) :
    commandLength (c :: cs) = 0 := by
  unfold commandLength
  split
  next head => exact absurd (List.cons.inj head).1 other
  next => rfl

theorem controlLength_eq_zero {c : Char} (other : c ≠ escape) (cs : List Char) :
    controlLength (c :: cs) = 0 := by
  unfold controlLength
  split
  next head => exact absurd (List.cons.inj head).1 other
  next => rfl

theorem applicationLength_eq_zero {c : Char} (other : c ≠ escape) (cs : List Char) :
    applicationLength (c :: cs) = 0 := by
  unfold applicationLength
  split
  next head => exact absurd (List.cons.inj head).1 other
  next => rfl

/-- Where every sequence begins with an escape, a text without escapes is left as it is. -/
theorem strip_of_unescaped {measure : List Char → Nat}
    (finds : ∀ c, c ≠ escape → ∀ cs, measure (c :: cs) = 0) {cs : List Char}
    (unescaped : escape ∉ cs) : strip measure 0 cs = cs := by
  induction cs with
  | nil => rfl
  | cons c cs ih =>
    have other : c ≠ escape := fun eq => unescaped (eq ▸ List.mem_cons_self)
    have later := ih fun mem => unescaped (List.mem_cons_of_mem c mem)
    simp only [strip, finds c other, later]

theorem mem_of_mem_foldLineEnds {c : Char} {cs : List Char} (mem : c ∈ foldLineEnds cs) :
    c ∈ cs := by
  fun_induction foldLineEnds cs with
  | case1 => cases mem
  | case2 cs ih =>
    rcases List.mem_cons.mp mem with rfl | mem
    · simp
    · simp [ih mem]
  | case3 d cs _ ih =>
    rcases List.mem_cons.mp mem with rfl | mem
    · simp
    · simp [ih mem]

theorem ofChars_of_unescaped {cs : List Char} (unescaped : escape ∉ cs) :
    ofChars cs = (foldLineEnds cs).filter (· ≠ bell) := by
  have folded : escape ∉ foldLineEnds cs := fun mem => unescaped (mem_of_mem_foldLineEnds mem)
  simp only [ofChars]
  rw [strip_of_unescaped (fun _ other => commandLength_eq_zero other) folded,
    strip_of_unescaped (fun _ other => controlLength_eq_zero other) folded,
    strip_of_unescaped (fun _ other => applicationLength_eq_zero other) folded]

end Unescaped

section Pieces

/-- Whether a line end begins at the end of one text and ends at the beginning of another. -/
def CutsLineEnd (front back : List Char) : Prop :=
  front.getLast? = some '\r' ∧ back.head? = some '\n'

instance (front back : List Char) : Decidable (CutsLineEnd front back) :=
  inferInstanceAs (Decidable (_ ∧ _))

def cutLineEnds : List (List Char) → Nat
  | [] => 0
  | piece :: pieces => (if CutsLineEnd piece pieces.flatten then 1 else 0) + cutLineEnds pieces

theorem foldLineEnds_cons {c : Char} {cs : List Char}
    (whole : ¬ (c = '\r' ∧ cs.head? = some '\n')) :
    foldLineEnds (c :: cs) = c :: foldLineEnds cs := by
  rw [foldLineEnds]
  rintro cs rfl rfl
  exact whole ⟨rfl, rfl⟩

theorem foldLineEnds_append {front back : List Char} (whole : ¬ CutsLineEnd front back) :
    foldLineEnds (front ++ back) = foldLineEnds front ++ foldLineEnds back := by
  fun_induction foldLineEnds front with
  | case1 => rfl
  | case2 cs ih =>
    have later : ¬ CutsLineEnd cs back := by
      cases cs with
      | nil => simp [CutsLineEnd]
      | cons d ds => simpa [CutsLineEnd] using whole
    simp [foldLineEnds, ih later]
  | case3 c cs other ih =>
    cases cs with
    | nil =>
      have apart : ¬ (c = '\r' ∧ back.head? = some '\n') := by simpa [CutsLineEnd] using whole
      simp [foldLineEnds_cons apart, foldLineEnds]
    | cons d ds =>
      have later : ¬ CutsLineEnd (d :: ds) back := by simpa [CutsLineEnd] using whole
      have apart : ¬ (c = '\r' ∧ (d :: ds ++ back).head? = some '\n') := by
        rintro ⟨rfl, next⟩
        obtain rfl : d = '\n' := by simpa using next
        exact other ds rfl rfl
      rw [List.cons_append, foldLineEnds_cons apart, ih later, List.cons_append]

theorem foldLineEnds_cut (front back : List Char) :
    foldLineEnds (front ++ ['\r']) = foldLineEnds front ++ ['\r'] ∧
      foldLineEnds (front ++ ['\r'] ++ '\n' :: back) =
        foldLineEnds front ++ foldLineEnds ('\n' :: back) := by
  have single : foldLineEnds ['\r'] = ['\r'] := by decide
  have feed : foldLineEnds ('\n' :: back) = '\n' :: foldLineEnds back :=
    foldLineEnds_cons (by simp)
  constructor
  · rw [foldLineEnds_append (by simp [CutsLineEnd]), single]
  · rw [List.append_assoc, foldLineEnds_append (by simp [CutsLineEnd]), feed]
    rfl

theorem count_foldLineEnds_append (front back : List Char) :
    (foldLineEnds front).count '\r' + (foldLineEnds back).count '\r' =
      (foldLineEnds (front ++ back)).count '\r' + if CutsLineEnd front back then 1 else 0 := by
  by_cases cut : CutsLineEnd front back
  · obtain ⟨front, rfl⟩ := List.getLast?_eq_some_iff.mp cut.1
    obtain ⟨back, rfl⟩ := List.head?_eq_some_iff.mp cut.2
    obtain ⟨alone, joined⟩ := foldLineEnds_cut front back
    rw [if_pos cut, alone, joined, List.count_append, List.count_append, List.count_singleton_self]
    omega
  · rw [if_neg cut, foldLineEnds_append cut, List.count_append, Nat.add_zero]

theorem count_flatten_foldLineEnds (pieces : List (List Char)) :
    (pieces.map foldLineEnds).flatten.count '\r' =
      (foldLineEnds pieces.flatten).count '\r' + cutLineEnds pieces := by
  induction pieces with
  | nil => rfl
  | cons piece pieces ih =>
    have border := count_foldLineEnds_append piece pieces.flatten
    rw [List.map_cons, List.flatten_cons, List.count_append, ih, List.flatten_cons, cutLineEnds]
    omega

theorem flatten_foldLineEnds {pieces : List (List Char)} (whole : cutLineEnds pieces = 0) :
    (pieces.map foldLineEnds).flatten = foldLineEnds pieces.flatten := by
  induction pieces with
  | nil => rfl
  | cons piece pieces ih =>
    obtain ⟨border, later⟩ := Nat.add_eq_zero_iff.mp whole
    have uncut : ¬ CutsLineEnd piece pieces.flatten := by simpa using border
    rw [List.map_cons, List.flatten_cons, ih later, List.flatten_cons, foldLineEnds_append uncut]

theorem filter_foldLineEnds (cs : List Char) :
    (foldLineEnds cs).filter (· ≠ '\r') = cs.filter (· ≠ '\r') := by
  fun_induction foldLineEnds cs with
  | case1 => rfl
  | case2 cs ih => simpa [List.filter_cons] using ih
  | case3 c cs _ ih => rw [List.filter_cons, List.filter_cons, ih]

theorem filter_flatten_foldLineEnds (pieces : List (List Char)) :
    (pieces.map foldLineEnds).flatten.filter (· ≠ '\r') =
      (foldLineEnds pieces.flatten).filter (· ≠ '\r') := by
  rw [filter_foldLineEnds, List.filter_flatten, List.filter_flatten, List.map_map]
  exact congrArg List.flatten (List.map_congr_left fun piece _ => filter_foldLineEnds piece)

variable {pieces : List (List Char)}

theorem map_ofChars_of_unescaped (unescaped : escape ∉ pieces.flatten) :
    (pieces.map ofChars).flatten =
      (pieces.map foldLineEnds).flatten.filter (· ≠ bell) := by
  rw [List.filter_flatten, List.map_map]
  refine congrArg List.flatten (List.map_congr_left fun piece mem => ?_)
  exact ofChars_of_unescaped fun found => unescaped (List.mem_flatten.mpr ⟨piece, mem, found⟩)

/-- Every line end that is cut leaves one carriage return in the plain text of the pieces. -/
theorem count_map_ofChars (unescaped : escape ∉ pieces.flatten) :
    (pieces.map ofChars).flatten.count '\r' =
      (ofChars pieces.flatten).count '\r' + cutLineEnds pieces := by
  rw [map_ofChars_of_unescaped unescaped, ofChars_of_unescaped unescaped,
    List.count_filter (by decide), List.count_filter (by decide), count_flatten_foldLineEnds]

theorem filter_map_ofChars (unescaped : escape ∉ pieces.flatten) :
    (pieces.map ofChars).flatten.filter (· ≠ '\r') =
      (ofChars pieces.flatten).filter (· ≠ '\r') := by
  have same := congrArg (List.filter (· ≠ bell)) (filter_flatten_foldLineEnds pieces)
  rw [map_ofChars_of_unescaped unescaped, ofChars_of_unescaped unescaped]
  rwa [List.filter_comm, List.filter_comm (· ≠ bell)] at same

/-- Made piece by piece, the plain text is that of the whole just when no line end is cut. -/
theorem map_ofChars_eq_iff (unescaped : escape ∉ pieces.flatten) :
    (pieces.map ofChars).flatten = ofChars pieces.flatten ↔ cutLineEnds pieces = 0 := by
  constructor
  · intro same
    have counted := count_map_ofChars unescaped
    rw [same] at counted
    omega
  · intro whole
    rw [map_ofChars_of_unescaped unescaped, ofChars_of_unescaped unescaped,
      flatten_foldLineEnds whole]

end Pieces

end HostWatch.Text.Plain
