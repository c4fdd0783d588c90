import HostWatch.Console.Command
import HostWatch.Proofs.Number.Naturals
import HostWatch.Proofs.Text.Words

namespace HostWatch.Command

/-- The words of a command, all of them. -/
inductive Worded : Command → List String → Prop
  | kill {name value : String} {pid : UInt32} : name ∈ ["kill", "k"] →
      Number.Spells pid.toNat value → Worded (.kill pid) [name, value]
  | target {name value : String} {i : Nat} : name ∈ ["target", "t"] → Number.Spells i value →
      i ≤ Number.maxWord64 → Worded (.target i) [name, value]
  | processes {name : String} : name ∈ ["procs", "p"] → Worded .processes [name]
  | quit {name : String} : name ∈ ["quit", "q", "exit"] → Worded .quit [name]

/-- What a line says by all of its words. -/
inductive Says (line : String) : Option Command → Prop
  | nothing : Text.words line = [] → Says line none
  | command {c : Command} : Worded c (Text.words line) → Says line (some c)
  | unknown : Text.words line ≠ [] → (∀ c, ¬ Worded c (Text.words line)) →
      Says line (some (.unknown (Text.trim line)))

def Surplus (c : Command) (line : String) : Prop :=
  ∃ name value more rest, Text.words line = name :: value :: more :: rest ∧ Worded c [name, value]

section

variable {line name value : String} {rest : List String} {c : Command}

theorem ofLine?_of_pair (words : Text.words line = name :: value :: rest)
    (worded : Worded c [name, value]) : ofLine? line = some c := by
  unfold ofLine?
  rw [words]
  cases worded with
  | @kill _ _ pid known spells =>
    have named : name = "kill" ∨ name = "k" := by simpa using known
    have fits : pid.toNat ≤ Number.maxWord32 := Nat.le_of_lt_succ pid.toNat_lt
    simp only [if_pos named, Number.natural?_eq_some.mpr ⟨spells, fits⟩, UInt32.ofNat_toNat]
  | target known spells fits =>
    have named : name = "target" ∨ name = "t" := by simpa using known
    have other : ¬ (name = "kill" ∨ name = "k") := by rcases named with rfl | rfl <;> decide
    simp only [if_neg other, if_pos named, Number.natural?_eq_some.mpr ⟨spells, fits⟩]

theorem ofLine?_of_single (words : Text.words line = [name]) (worded : Worded c [name]) :
    ofLine? line = some c := by
  unfold ofLine?
  rw [words]
  cases worded with
  | processes known =>
    have named : name = "procs" ∨ name = "p" := by simpa using known
    simp only [if_pos named]
  | quit known =>
    have named : name = "quit" ∨ name = "q" ∨ name = "exit" := by simpa using known
    have other : ¬ (name = "procs" ∨ name = "p") := by rcases named with rfl | rfl | rfl <;> decide
    simp only [if_neg other, if_pos named]

theorem ofLine?_of_worded (worded : Worded c (Text.words line)) : ofLine? line = some c := by
  generalize words : Text.words line = ws at worded
  cases worded with
  | kill known spells => exact ofLine?_of_pair words (.kill known spells)
  | target known spells fits => exact ofLine?_of_pair words (.target known spells fits)
  | processes known => exact ofLine?_of_single words (.processes known)
  | quit known => exact ofLine?_of_single words (.quit known)

theorem Surplus.ofLine? (surplus : Surplus c line) : ofLine? line = some c := by
  obtain ⟨name, value, more, rest, words, worded⟩ := surplus
  exact ofLine?_of_pair words worded

theorem Surplus.not_worded (surplus : Surplus c line) (d : Command) :
    ¬ Worded d (Text.words line) := by
  obtain ⟨name, value, more, rest, words, -⟩ := surplus
  rw [words]
  intro worded
  cases worded

/-- A line that is a command is one by all of its words, or by the two that others follow. -/
theorem ofLine?_cases (line : String) :
    Text.words line = [] ∧ ofLine? line = none ∨
      (∃ c, ofLine? line = some c ∧ (Worded c (Text.words line) ∨ Surplus c line)) ∨
      Text.words line ≠ [] ∧ ofLine? line = some (.unknown (Text.trim line)) := by
  cases words : Text.words line with
  | nil => exact Or.inl ⟨rfl, by simp [ofLine?, words]⟩
  | cons name rest =>
    right
    -- names that want a number are unknown alone, and names that want none are unknown with more
    cases rest with
    | nil =>
      by_cases processes : name = "procs" ∨ name = "p"
      · have worded : Worded .processes [name] := .processes (by simpa using processes)
        exact Or.inl ⟨_, ofLine?_of_single words worded, Or.inl worded⟩
      by_cases quit : name = "quit" ∨ name = "q" ∨ name = "exit"
      · have worded : Worded .quit [name] := .quit (by simpa using quit)
        exact Or.inl ⟨_, ofLine?_of_single words worded, Or.inl worded⟩
      · exact Or.inr ⟨by simp, by simp only [ofLine?, words, if_neg processes, if_neg quit]⟩
    | cons value rest =>
      have pair {c : Command} (worded : Worded c [name, value]) :
          ∃ c, ofLine? line = some c ∧ (Worded c (name :: value :: rest) ∨ Surplus c line) := by
        refine ⟨c, ofLine?_of_pair words worded, ?_⟩
        cases rest with
        | nil => exact Or.inl worded
        | cons more rest => exact Or.inr ⟨name, value, more, rest, words, worded⟩
      by_cases kill : name = "kill" ∨ name = "k"
      · cases read : Number.natural? Number.maxWord32 value with
        | none => exact Or.inr ⟨by simp, by simp only [ofLine?, words, if_pos kill, read]⟩
        | some n =>
          obtain ⟨spells, fits⟩ := Number.natural?_eq_some.mp read
          have stored : (UInt32.ofNat n).toNat = n :=
            UInt32.toNat_ofNat_of_lt' (Nat.lt_succ_of_le fits)
          have worded : Worded (.kill (UInt32.ofNat n)) [name, value] :=
            .kill (by simpa using kill) (stored.symm ▸ spells)
          exact Or.inl (pair worded)
      by_cases target : name = "target" ∨ name = "t"
      · cases read : Number.natural? Number.maxWord64 value with
        | none =>
          exact Or.inr ⟨by simp, by simp only [ofLine?, words, if_neg kill, if_pos target, read]⟩
        | some n =>
          obtain ⟨spells, fits⟩ := Number.natural?_eq_some.mp read
          exact Or.inl (pair (.target (by simpa using target) spells fits))
      · exact Or.inr ⟨by simp, by simp only [ofLine?, words, if_neg kill, if_neg target]⟩

theorem says_ofLine? (whole : ∀ c, ¬ Surplus c line) : Says line (ofLine? line) := by
  by_cases command : ∃ c, Worded c (Text.words line)
  · obtain ⟨c, worded⟩ := command
    rw [ofLine?_of_worded worded]
    exact .command worded
  · have none (c : Command) : ¬ Worded c (Text.words line) := fun worded => command ⟨c, worded⟩
    rcases ofLine?_cases line with ⟨words, eq⟩ | ⟨c, -, worded | surplus⟩ | ⟨words, eq⟩
    · rw [eq]
      exact .nothing words
    · exact absurd worded (none c)
    · exact absurd surplus (whole c)
    · rw [eq]
      exact .unknown words none

theorem Says.unique {r r' : Option Command} (said : Says line r) (said' : Says line r') :
    r = r' := by
  have worded_filled {c : Command} (worded : Worded c (Text.words line)) :
      Text.words line ≠ [] := by
    intro empty
    rw [empty] at worded
    cases worded
  cases said with
  | nothing empty =>
    cases said' with
    | nothing => rfl
    | command worded => exact absurd empty (worded_filled worded)
    | unknown filled => exact absurd empty filled
  | command worded =>
    cases said' with
    | nothing empty => exact absurd empty (worded_filled worded)
    | command worded' =>
      rw [← ofLine?_of_worded worded, ofLine?_of_worded worded']
    | unknown _ none => exact absurd worded (none _)
  | unknown filled none =>
    cases said' with
    | nothing empty => exact absurd empty filled
    | command worded => exact absurd worded (none _)
    | unknown => rfl

theorem Surplus.said (surplus : Surplus c line) :
    Says line (some (.unknown (Text.trim line))) := by
  have filled : Text.words line ≠ [] := by
    obtain ⟨name, value, more, rest, words, -⟩ := surplus
    simp [words]
  exact .unknown filled surplus.not_worded

end

/-- A line is read as what all of its words say just where no more words follow a complete command
of two; those that do are not seen. -/
theorem line_read_whole_iff (line : String) :
    (∀ words, Text.CutInto words line.toList ↔ Text.words line = words.map String.ofList) ∧
      ((∀ r, ofLine? line = r ↔ Says line r) ↔ ∀ c, ¬ Surplus c line) ∧
      ∀ c, Surplus c line →
        ofLine? line = some c ∧ Says line (some (.unknown (Text.trim line))) := by
  refine ⟨fun words => ?_, ⟨fun reads c surplus => ?_, fun whole r => ?_⟩,
    fun c surplus => ⟨surplus.ofLine?, surplus.said⟩⟩
  · rw [Text.cutInto_iff, Text.words, List.map_inj_right fun _ _ => String.ofList_inj.mp]
  · have known := (reads _).mpr surplus.said
    rw [surplus.ofLine?] at known
    obtain ⟨name, value, more, rest, -, worded⟩ := surplus
    obtain rfl := Option.some.inj known
    cases worded
  · have said : Says line (ofLine? line) := says_ofLine? whole
    constructor
    · rintro rfl
      exact said
    · exact said.unique

/-- The same process named alone, behind other blanks and with a sign, and before a further word. -/
theorem kill_lines_with_and_without_surplus :
    let line := "\u2003k\t+0042\n"
    let longer := "kill 42\u200343"
    ((∀ c, ¬ Surplus c line) ∧ ofLine? line = some (.kill 42) ∧ Says line (some (.kill 42))) ∧
      Surplus (.kill 42) longer ∧ ofLine? longer = some (.kill 42) ∧
      Says longer (some (.unknown longer)) := by
  intro line longer
  have words : Text.words line = ["k", "+0042"] := by decide
  have whole (c : Command) : ¬ Surplus c line := by
    rintro ⟨name, value, more, rest, other, -⟩
    rw [words] at other
    cases other
  have read : ofLine? line = some (.kill 42) := by decide
  have surplus : Surplus (.kill 42) longer := ⟨"kill", "42", "43", [], by decide,
    .kill (by decide) ⟨['4', '2'], by decide, by simp, by decide, by decide⟩⟩
  have trimmed : Text.trim longer = longer := by decide
  obtain ⟨taken, unknown⟩ := (line_read_whole_iff longer).2.2 _ surplus
  rw [trimmed] at unknown
  exact ⟨⟨whole, read, ((line_read_whole_iff line).2.1.mpr whole _).mp read⟩, surplus, taken,
    unknown⟩

/-- A word behind a complete command is not seen, and the process is killed. -/
theorem surplus_word_unseen :
    Text.words "kill 42 extra" = ["kill", "42", "extra"] ∧
      ofLine? "kill 42 extra" = some (.kill 42) ∧ ¬ Says "kill 42 extra" (some (.kill 42)) := by
  refine ⟨by decide, by decide, fun said => ?_⟩
  cases said with
  | command worded =>
    have words : Text.words "kill 42 extra" = ["kill", "42", "extra"] := by decide
    rw [words] at worded
    cases worded

end HostWatch.Command
