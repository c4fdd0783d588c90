import HostWatch.Text.Blank

namespace HostWatch.Text

/-- A run of characters that are not blank. -/
structure IsWord (word : List Char) : Prop where
  filled : word ≠ []
  solid : ∀ c ∈ word, isBlank c = false

/-- A text consists of some words with blanks around them. -/
inductive CutInto : List (List Char) → List Char → Prop
  | blanks {gap : List Char} : (∀ c ∈ gap, isBlank c = true) → CutInto [] gap
  | last {gap word : List Char} : (∀ c ∈ gap, isBlank c = true) → IsWord word →
      CutInto [word] (gap ++ word)
  | more {gap word rest : List Char} {words : List (List Char)} {c : Char} :
      (∀ c ∈ gap, isBlank c = true) → IsWord word → isBlank c = true → CutInto words rest →
      CutInto (word :: words) (gap ++ (word ++ c :: rest))

variable {gap run word rest cs : List Char} {words : List (List Char)} {c : Char}

theorem CutInto.cons_blank (cut : CutInto words cs) (blank : isBlank c = true) :
    CutInto words (c :: cs) := by
  have wider {gap : List Char} (blanks : ∀ c ∈ gap, isBlank c = true) :
      ∀ d ∈ c :: gap, isBlank d = true := List.forall_mem_cons.mpr ⟨blank, blanks⟩
  cases cut with
  | blanks gap => exact .blanks (wider gap)
  | last gap word => exact .last (wider gap) word
  | more gap word next rest => exact .more (wider gap) word next rest

theorem wordsFrom_gap (blanks : ∀ c ∈ gap, isBlank c = true) (rest : List Char) :
    wordsFrom [] (gap ++ rest) = wordsFrom [] rest := by
  induction gap with
  | nil => rfl
  | cons c gap ih =>
    obtain ⟨blank, blanks⟩ := List.forall_mem_cons.mp blanks
    rw [List.cons_append, wordsFrom, if_pos blank]
    exact ih blanks

theorem wordsFrom_solid (solid : ∀ c ∈ word, isBlank c = false) (run rest : List Char) :
    wordsFrom run (word ++ rest) = wordsFrom (word.reverse ++ run) rest := by
  induction word generalizing run with
  | nil => rfl
  | cons c word ih =>
    obtain ⟨first, solid⟩ := List.forall_mem_cons.mp solid
    rw [List.cons_append, wordsFrom, if_neg (by simp [first]), ih solid, List.reverse_cons,
      List.append_assoc]
    rfl

theorem wordsFrom_ended (filled : run ≠ []) (blank : isBlank c = true) (rest : List Char) :
    wordsFrom run (c :: rest) = run.reverse :: wordsFrom [] rest := by
  rw [wordsFrom, if_pos blank, if_neg (by simpa using filled)]

theorem CutInto.wordsOf_eq (cut : CutInto words cs) : wordsOf cs = words := by
  unfold wordsOf
  induction cut with
  | @blanks gap blanks =>
    rw [← List.append_nil gap, wordsFrom_gap blanks]
    rfl
  | @last gap word blanks isWord =>
    rw [wordsFrom_gap blanks, ← List.append_nil word, wordsFrom_solid isWord.solid]
    simp [wordsFrom, isWord.filled]
  | @more gap word rest words c blanks isWord blank cut ih =>
    rw [wordsFrom_gap blanks, wordsFrom_solid isWord.solid, List.append_nil,
      wordsFrom_ended (by simpa using isWord.filled) blank, List.reverse_reverse, ih]

/-- What is read of a text, and what was read before it, is cut into the words that are told. -/
theorem cutInto_wordsFrom (solid : ∀ c ∈ run, isBlank c = false) (cs : List Char) :
    CutInto (wordsFrom run cs) (run.reverse ++ cs) := by
  have isWord {run : List Char} (solid : ∀ c ∈ run, isBlank c = false) (filled : run ≠ []) :
      IsWord run.reverse := ⟨by simpa using filled, by simpa using solid⟩
  have none : ∀ c ∈ ([] : List Char), isBlank c = true := by simp
  -- `run` is the word that has begun, backwards; between words it is empty
  induction cs generalizing run with
  | nil =>
    rw [List.append_nil]
    by_cases empty : run = []
    · rw [empty]
      exact .blanks none
    · rw [wordsFrom, if_neg (by simpa using empty)]
      exact .last none (isWord solid empty)
  | cons c cs ih =>
    by_cases blank : isBlank c = true
    · by_cases empty : run = []
      · rw [empty, wordsFrom, if_pos blank]
        exact (@ih [] (by simp)).cons_blank blank
      · rw [wordsFrom_ended empty blank]
        exact .more none (isWord solid empty) blank (@ih [] (by simp))
    · have longer := @ih (c :: run)
        (List.forall_mem_cons.mpr ⟨by simpa using blank, solid⟩)
      rw [wordsFrom, if_neg blank]
      simpa using longer

theorem cutInto_iff : CutInto words cs ↔ wordsOf cs = words := by
  constructor
  · exact CutInto.wordsOf_eq
  · rintro rfl
    exact @cutInto_wordsFrom [] (by simp) cs

end HostWatch.Text
