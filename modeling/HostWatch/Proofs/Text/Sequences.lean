import HostWatch.Proofs.Text.LineEnds

namespace HostWatch.Text.Plain

/-- The families of control sequences. -/
inductive Family where
  | command
  | control
  | application
  deriving DecidableEq, Repr

namespace Family

def mark : Family → Char
  | command => ']'
  | control => '['
  | application => '_'

def measure : Family → List Char → Nat
  | command => commandLength
  | control => controlLength
  | application => applicationLength

def terminator : List Char := [escape, '\\']

inductive Sequence : Family → List Char → Prop where
  | command {code payload ending : List Char} (digits : ∀ c ∈ code, isDigit c)
      (some_ : code ≠ []) (few : code.length ≤ 4) (plain : ∀ c ∈ payload, isPayload c)
      (ends : ending = [bell] ∨ ending = terminator) :
      Sequence command (escape :: ']' :: (code ++ ';' :: (payload ++ ending)))
  | control {parameters intermediates : List Char} {last : Char}
      (first : ∀ c ∈ parameters, isParameter c) (second : ∀ c ∈ intermediates, isIntermediate c)
      (final : isFinal last) :
      Sequence control (escape :: '[' :: (parameters ++ (intermediates ++ [last])))
  | application (payload : List Char) :
      Sequence application (escape :: '_' :: (payload ++ terminator))

end Family

open Family (terminator Sequence)

section Measures

variable {f : Family} {c : Char} {cs rest : List Char}

theorem Family.measure_eq_zero (other : ¬ [escape, f.mark] <+: cs) : f.measure cs = 0 := by
  have starts {d : Char} (tail : List Char) (same : d = f.mark) :
      [escape, f.mark] <+: escape :: d :: tail := by
    rw [same]
    exact ⟨tail, rfl⟩
  cases f with
  | command =>
    change commandLength cs = 0
    unfold commandLength
    split
    · exact absurd (starts _ rfl) other
    · rfl
  | control =>
    change controlLength cs = 0
    unfold controlLength
    split
    · exact absurd (starts _ rfl) other
    · rfl
  | application =>
    change applicationLength cs = 0
    unfold applicationLength
    split
    · exact absurd (starts _ rfl) other
    · rfl

theorem run_append {p : Char → Bool} (all : ∀ c ∈ cs, p c) (stops : ∀ c ∈ rest.head?, ¬ p c) :
    run p (cs ++ rest) = cs.length := by
  have none : rest.takeWhile p = [] := by
    cases rest with
    | nil => rfl
    | cons c rest => exact List.takeWhile_cons_of_neg (stops c rfl)
  rw [run, List.takeWhile_append_of_pos all, none, List.append_nil]

theorem commandLength_eq {code payload ending : List Char} (digits : ∀ c ∈ code, isDigit c)
    (some_ : code ≠ []) (few : code.length ≤ 4) (plain : ∀ c ∈ payload, isPayload c)
    (ends : ending = [bell] ∨ ending = terminator) (rest : List Char) :
    commandLength (escape :: ']' :: (code ++ ';' :: (payload ++ (ending ++ rest)))) =
      2 + code.length + 1 + payload.length + ending.length := by
  have coded : run isDigit (code ++ ';' :: (payload ++ (ending ++ rest))) = code.length :=
    run_append digits (by rintro c ⟨⟩; decide)
  have paid : run isPayload (payload ++ (ending ++ rest)) = payload.length := by
    refine run_append plain ?_
    rcases ends with rfl | rfl
    · rintro c ⟨⟩; decide
    · rintro c ⟨⟩; decide
  have pos : 0 < code.length := List.length_pos_iff.mpr some_
  have fits : ¬ (code.length = 0 ∨ 4 < code.length) := by omega
  change (if run isDigit _ = 0 ∨ 4 < run isDigit _ then 0 else _) = _
  simp only [coded, if_neg fits, List.drop_left, paid]
  rcases ends with rfl | rfl
  · rfl
  · rfl

theorem le_of_isIntermediate (h : isIntermediate c) : 0x20 ≤ c.toNat ∧ c.toNat ≤ 0x2F := by
  have between : ' ' ≤ c ∧ c ≤ '/' := of_decide_eq_true h
  exact ⟨UInt32.le_iff_toNat_le.mp between.1, UInt32.le_iff_toNat_le.mp between.2⟩

theorem le_of_isFinal (h : isFinal c) : 0x40 ≤ c.toNat := by
  have between : '@' ≤ c ∧ c ≤ '~' := of_decide_eq_true h
  exact UInt32.le_iff_toNat_le.mp between.1

theorem le_of_isParameter (h : isParameter c) : 0x30 ≤ c.toNat ∧ c.toNat ≤ 0x3F := by
  simp only [isParameter, Bool.or_eq_true, decide_eq_true_eq] at h
  rcases h with (digit | rfl) | rfl
  · have between : '0' ≤ c ∧ c ≤ '9' := of_decide_eq_true digit
    have low : 0x30 ≤ c.toNat := UInt32.le_iff_toNat_le.mp between.1
    have high : c.toNat ≤ 0x39 := UInt32.le_iff_toNat_le.mp between.2
    omega
  · decide
  · decide

/-- The three classes of characters of a control sequence have nothing in common, so that each run
ends where the grammar ends it. -/
theorem controlLength_eq {parameters intermediates : List Char} {last : Char}
    (first : ∀ c ∈ parameters, isParameter c) (second : ∀ c ∈ intermediates, isIntermediate c)
    (final : isFinal last) (rest : List Char) :
    controlLength (escape :: '[' :: (parameters ++ (intermediates ++ last :: rest))) =
      2 + parameters.length + intermediates.length + 1 := by
  have high := le_of_isFinal final
  have led : run isParameter (parameters ++ (intermediates ++ last :: rest)) =
      parameters.length := by
    refine run_append first fun c head parameter => ?_
    have bounds := le_of_isParameter parameter
    cases intermediates with
    | nil =>
      obtain rfl : last = c := Option.some.inj head
      omega
    | cons d _ =>
      obtain rfl : d = c := Option.some.inj head
      have bounds' := le_of_isIntermediate (second d List.mem_cons_self)
      omega
  have between : run isIntermediate (intermediates ++ last :: rest) = intermediates.length := by
    refine run_append second ?_
    rintro c ⟨⟩ intermediate
    have bounds := le_of_isIntermediate intermediate
    omega
  have after : (parameters ++ (intermediates ++ last :: rest)).drop
      (parameters.length + intermediates.length) = last :: rest := by
    rw [← List.drop_drop, List.drop_left, List.drop_left]
  change controlLength ('\x1b' :: '[' :: _) = _
  simp only [controlLength, led, List.drop_left, between, after, final, if_true]

theorem throughTerminator_eq {payload : List Char} (unescaped : escape ∉ payload)
    (rest : List Char) :
    throughTerminator (payload ++ (terminator ++ rest)) = payload.length + 2 := by
  induction payload with
  | nil => rfl
  | cons c payload ih =>
    simp only [List.mem_cons, not_or] at unescaped
    have later := ih unescaped.2
    rw [List.cons_append, throughTerminator]
    · rw [later]
      rfl
    · intro _ same _
      exact unescaped.1 same.symm

theorem applicationLength_eq {payload : List Char} (unescaped : escape ∉ payload)
    (rest : List Char) :
    applicationLength (escape :: '_' :: (payload ++ (terminator ++ rest))) =
      2 + payload.length + 2 := by
  change applicationLength ('\x1b' :: '_' :: _) = _
  simp only [applicationLength, throughTerminator_eq unescaped]
  omega

end Measures

section Strip

variable {f : Family} {measure : List Char → Nat} {cs rest : List Char}

theorem strip_skipped (cs rest : List Char) :
    strip measure cs.length (cs ++ rest) = strip measure 0 rest := by
  induction cs with
  | nil => rfl
  | cons c cs ih => rw [List.length_cons, List.cons_append, strip, ih]

theorem strip_found (found : measure (cs ++ rest) = cs.length) :
    strip measure 0 (cs ++ rest) = strip measure 0 rest := by
  cases cs with
  | nil => rfl
  | cons c cs =>
    rw [List.cons_append] at found ⊢
    rw [strip, found, List.length_cons]
    exact strip_skipped cs rest

theorem strip_kept {c : Char} (kept : measure (c :: cs) = 0) :
    strip measure 0 (c :: cs) = c :: strip measure 0 cs := by
  rw [strip, kept]

theorem strip_unescaped (unescaped : escape ∉ cs) (rest : List Char) :
    strip f.measure 0 (cs ++ rest) = cs ++ strip f.measure 0 rest := by
  induction cs with
  | nil => rfl
  | cons c cs ih =>
    simp only [List.mem_cons, not_or] at unescaped
    have kept : f.measure (c :: (cs ++ rest)) = 0 :=
      f.measure_eq_zero fun start => unescaped.1 (List.cons_prefix_cons.mp start).1
    rw [List.cons_append, strip_kept kept, ih unescaped.2]
    rfl

theorem strip_other {k : Char} (other : k ≠ f.mark) (rest : List Char) :
    strip f.measure 0 (escape :: k :: rest) = escape :: strip f.measure 0 (k :: rest) := by
  refine strip_kept (f.measure_eq_zero fun start => ?_)
  have second := (List.cons_prefix_cons.mp start).2
  exact other (List.cons_prefix_cons.mp second).1.symm

/-- Whatever begins with another mark and has escapes nowhere else than in a terminator stays. -/
theorem strip_foreign {k : Char} {inside ending : List Char} (other : k ≠ f.mark)
    (plain : k ≠ escape) (unescaped : escape ∉ inside) (ends : ending = [] ∨ ending = terminator)
    (rest : List Char) :
    strip f.measure 0 (escape :: k :: (inside ++ ending) ++ rest) =
      escape :: k :: (inside ++ ending) ++ strip f.measure 0 rest := by
  have front : escape ∉ k :: inside := by
    simp only [List.mem_cons, not_or]
    exact ⟨plain.symm, unescaped⟩
  have back : strip f.measure 0 (ending ++ rest) = ending ++ strip f.measure 0 rest := by
    rcases ends with rfl | rfl
    · rfl
    · have slash : '\\' ≠ f.mark := by cases f <;> decide
      have single : escape ∉ ['\\'] := by decide
      change strip f.measure 0 (escape :: '\\' :: rest) = _
      rw [strip_other slash]
      exact congrArg (escape :: ·) (strip_unescaped single rest)
  have whole := strip_unescaped (f := f) front (ending ++ rest)
  rw [back] at whole
  simp only [List.cons_append, List.append_assoc] at whole ⊢
  rw [strip_other other, whole]

end Strip

section Fold

variable {f : Family} {cs : List Char}

theorem foldLineEnds_of_not_mem (absent : '\r' ∉ cs) : foldLineEnds cs = cs := by
  induction cs with
  | nil => rfl
  | cons c cs ih =>
    simp only [List.mem_cons, not_or] at absent
    have whole : ¬ (c = '\r' ∧ cs.head? = some '\n') := fun both => absent.1 both.1.symm
    rw [foldLineEnds_cons whole, ih absent.2]

theorem foldLineEnds_between {front inside ending : List Char} (absent : '\r' ∉ front)
    (absent' : '\r' ∉ ending) (starts : ending.head? ≠ some '\n') :
    foldLineEnds (front ++ (inside ++ ending)) = front ++ (foldLineEnds inside ++ ending) := by
  have first : ¬ CutsLineEnd front (inside ++ ending) :=
    fun cut => absent (List.mem_of_getLast? cut.1)
  have second : ¬ CutsLineEnd inside ending := fun cut => starts cut.2
  rw [foldLineEnds_append first, foldLineEnds_append second, foldLineEnds_of_not_mem absent,
    foldLineEnds_of_not_mem absent']

theorem closing_ending {ending : List Char} (ends : ending = [bell] ∨ ending = terminator) :
    '\r' ∉ ending ∧ ending.head? ≠ some '\n' ∧ ∃ c, ending.getLast? = some c ∧ c ≠ '\r' := by
  rcases ends with rfl | rfl
  · exact ⟨by decide, by decide, bell, rfl, by decide⟩
  · exact ⟨by decide, by decide, '\\', rfl, by decide⟩

theorem Family.Sequence.folded (formed : Sequence .command cs) :
    Sequence .command (foldLineEnds cs) := by
  cases formed with
  | @command code payload ending digits some_ few plain ends =>
    have absent : '\r' ∉ escape :: ']' :: (code ++ [';']) := by
      intro mem
      simp only [List.mem_cons, List.mem_append, List.not_mem_nil, or_false] at mem
      rcases mem with mem | mem | mem | mem
      · cases mem
      · cases mem
      · exact absurd (digits _ mem) (by decide)
      · cases mem
    obtain ⟨absent', starts, -⟩ := closing_ending ends
    have same : foldLineEnds (escape :: ']' :: (code ++ [';']) ++ (payload ++ ending)) = _ :=
      foldLineEnds_between absent absent' starts
    simp only [List.cons_append, List.append_assoc, List.nil_append] at same
    rw [same]
    exact .command digits some_ few (fun c mem => plain c (mem_of_mem_foldLineEnds mem)) ends

theorem Family.Sequence.not_mem_return (formed : Sequence .control cs) : '\r' ∉ cs := by
  cases formed with
  | @control parameters intermediates last first second final =>
    intro mem
    simp only [List.mem_cons, List.mem_append, List.not_mem_nil, or_false] at mem
    rcases mem with mem | mem | mem | mem | rfl
    · cases mem
    · cases mem
    · exact absurd (first _ mem) (by decide)
    · exact absurd (second _ mem) (by decide)
    · exact absurd final (by decide)

end Fold

section Sequences

variable {cs : List Char}

theorem Family.mark_ne {f g : Family} (other : g ≠ f) : g.mark ≠ f.mark := by
  cases f <;> cases g <;> simp_all [Family.mark]

/-- A sequence that its own family measures in full, with escapes at its two ends only: it is taken
by the pass of its family and stays in the others. -/
theorem strip_sequence {g : Family} {inside ending : List Char} (unescaped : escape ∉ inside)
    (ends : ending = [] ∨ ending = terminator) (written : cs = escape :: g.mark :: (inside ++ ending))
    (f : Family) (rest : List Char) (measured : g.measure (cs ++ rest) = cs.length) :
    strip f.measure 0 (cs ++ rest) =
      (if some g = some f then [] else cs) ++ strip f.measure 0 rest := by
  by_cases own : g = f
  · subst own
    rw [if_pos rfl, List.nil_append]
    exact strip_found measured
  · have foreign : some g ≠ some f := fun same => own (Option.some.inj same)
    have plain : g.mark ≠ escape := by cases g <;> decide
    rw [if_neg foreign, written]
    exact strip_foreign (Family.mark_ne own) plain unescaped ends rest

theorem strip_command (formed : Sequence .command cs) (f : Family) (rest : List Char) :
    strip f.measure 0 (cs ++ rest) =
      (if some Family.command = some f then [] else cs) ++ strip f.measure 0 rest := by
  cases formed with
  | @command code payload ending digits some_ few plain ends =>
    have first : escape ∉ code ++ ';' :: payload := by
      intro mem
      simp only [List.mem_append, List.mem_cons] at mem
      rcases mem with mem | mem | mem
      · exact absurd (digits _ mem) (by decide)
      · cases mem
      · exact absurd (plain _ mem) (by decide)
    have measured : Family.command.measure
        (escape :: ']' :: (code ++ ';' :: (payload ++ ending)) ++ rest) =
          (escape :: ']' :: (code ++ ';' :: (payload ++ ending))).length := by
      have length := commandLength_eq digits some_ few plain ends rest
      simp only [Family.measure, List.cons_append, List.append_assoc, List.length_cons,
        List.length_append] at length ⊢
      omega
    rcases ends with rfl | rfl
    · have unescaped : escape ∉ code ++ ';' :: payload ++ [bell] := by
        intro mem
        rcases List.mem_append.mp mem with mem | mem
        · exact first mem
        · exact absurd mem (by decide)
      exact strip_sequence (g := .command) unescaped (.inl rfl) (by simp [Family.mark]) f rest
        measured
    · exact strip_sequence (g := .command) first (.inr rfl) (by simp [Family.mark]) f rest measured

theorem strip_control (formed : Sequence .control cs) (f : Family) (rest : List Char) :
    strip f.measure 0 (cs ++ rest) =
      (if some Family.control = some f then [] else cs) ++ strip f.measure 0 rest := by
  cases formed with
  | @control parameters intermediates last first second final =>
    have unescaped : escape ∉ parameters ++ (intermediates ++ [last]) := by
      intro mem
      simp only [List.mem_append, List.mem_singleton] at mem
      rcases mem with mem | mem | rfl
      · exact absurd (first _ mem) (by decide)
      · exact absurd (second _ mem) (by decide)
      · exact absurd final (by decide)
    refine strip_sequence (g := .control) unescaped (.inl rfl) (by simp [Family.mark]) f rest ?_
    have length := controlLength_eq first second final rest
    simp only [Family.measure, List.cons_append, List.append_assoc, List.nil_append,
      List.length_cons, List.length_append, List.length_nil] at length ⊢
    omega

theorem strip_application {payload : List Char} (unescaped : escape ∉ payload) (f : Family)
    (rest : List Char) :
    strip f.measure 0 (escape :: '_' :: (payload ++ terminator) ++ rest) =
      (if some Family.application = some f then [] else escape :: '_' :: (payload ++ terminator)) ++
        strip f.measure 0 rest := by
  refine strip_sequence (g := .application) unescaped (.inr rfl) rfl f rest ?_
  have length := applicationLength_eq unescaped rest
  simp only [Family.measure, List.cons_append, List.append_assoc, List.length_cons,
    List.length_append] at length ⊢
  refine length.trans ?_
  change _ = payload.length + 2 + 1 + 1
  omega

end Sequences

/-- A part of the output of a terminal. -/
inductive Token where
  | ordinary (c : Char) (plain : c ≠ escape ∧ c ≠ Plain.bell ∧ c ≠ '\r')
  | bell
  | lineEnd
  | command (cs : List Char) (formed : Sequence .command cs)
  | control (cs : List Char) (formed : Sequence .control cs)
  | application (payload : List Char) (unescaped : escape ∉ payload)

namespace Token

def text : Token → List Char
  | ordinary c _ => [c]
  | bell => [Plain.bell]
  | lineEnd => ['\r', '\n']
  | command cs _ => cs
  | control cs _ => cs
  | application payload _ => escape :: '_' :: (payload ++ terminator)

def kept : Token → List Char
  | ordinary c _ => [c]
  | lineEnd => ['\n']
  | bell => []
  | command _ _ => []
  | control _ _ => []
  | application _ _ => []

def family : Token → Option Family
  | command _ _ => some .command
  | control _ _ => some .control
  | application _ _ => some .application
  | ordinary _ _ => none
  | bell => none
  | lineEnd => none

def folded : Token → Token
  | ordinary c plain => ordinary c plain
  | bell => bell
  | lineEnd => ordinary '\n' (by decide)
  | command cs formed => command (foldLineEnds cs) formed.folded
  | control cs formed => control cs formed
  | application payload unescaped =>
    application (foldLineEnds payload) fun mem => unescaped (mem_of_mem_foldLineEnds mem)

theorem text_folded (t : Token) : t.folded.text = foldLineEnds t.text := by
  cases t with
  | ordinary c plain =>
    have absent : '\r' ∉ [c] := fun mem => plain.2.2 (List.mem_singleton.mp mem).symm
    exact (foldLineEnds_of_not_mem absent).symm
  | bell => decide
  | lineEnd => decide
  | command cs formed => rfl
  | control cs formed => exact (foldLineEnds_of_not_mem formed.not_mem_return).symm
  | application payload unescaped =>
    have front : '\r' ∉ [escape, '_'] := by decide
    have back : '\r' ∉ terminator := by decide
    exact (foldLineEnds_between front back (by decide)).symm

theorem not_return_last (t : Token) : t.text.getLast? ≠ some '\r' := by
  cases t with
  | ordinary c plain => simpa [text] using plain.2.2
  | bell => decide
  | lineEnd => decide
  | command cs formed =>
    cases formed with
    | @command code payload ending digits some_ few plain ends =>
      obtain ⟨-, -, c, last, other⟩ := closing_ending ends
      have ended : text (.command _ (.command digits some_ few plain ends)) =
          escape :: ']' :: (code ++ ';' :: payload) ++ ending := by simp [text]
      rw [ended, List.getLast?_append, last]
      exact fun same => other (Option.some.inj same)
  | control cs formed =>
    exact fun last => formed.not_mem_return (List.mem_of_getLast? last)
  | application payload unescaped =>
    have ended : text (.application payload unescaped) =
        escape :: '_' :: payload ++ terminator := rfl
    rw [ended, List.getLast?_append]
    exact fun same => absurd (Option.some.inj same) (by decide)

theorem family_folded (t : Token) : t.folded.family = t.family := by
  cases t <;> rfl

theorem strip_text (t : Token) (f : Family) (rest : List Char) :
    strip f.measure 0 (t.text ++ rest) =
      (if t.family = some f then [] else t.text) ++ strip f.measure 0 rest := by
  cases t with
  | ordinary c plain =>
    have unescaped : escape ∉ [c] := fun mem => plain.1 (List.mem_singleton.mp mem).symm
    exact strip_unescaped unescaped rest
  | bell => exact strip_unescaped (by decide) rest
  | lineEnd => exact strip_unescaped (by decide) rest
  | command cs formed => exact strip_command formed f rest
  | control cs formed => exact strip_control formed f rest
  | application payload unescaped => exact strip_application unescaped f rest

end Token

def textOf (tokens : List Token) : List Char := tokens.flatMap Token.text

section Passes

variable {f : Family} {rest : List Char}

theorem foldLineEnds_textOf (tokens : List Token) (rest : List Char) :
    foldLineEnds (textOf tokens ++ rest) = textOf (tokens.map Token.folded) ++ foldLineEnds rest := by
  induction tokens with
  | nil => rfl
  | cons t tokens ih =>
    have border : ¬ CutsLineEnd t.text (textOf tokens ++ rest) :=
      fun cut => t.not_return_last cut.1
    have parts : textOf (t :: tokens) = t.text ++ textOf tokens := rfl
    have parts' : textOf ((t :: tokens).map Token.folded) =
      t.folded.text ++ textOf (tokens.map Token.folded) := rfl
    rw [parts, parts', List.append_assoc, foldLineEnds_append border, ih, t.text_folded,
      List.append_assoc]

theorem strip_textOf (f : Family) (tokens : List Token) (rest : List Char) :
    strip f.measure 0 (textOf tokens ++ rest) =
      textOf (tokens.filter fun t => t.family ≠ some f) ++ strip f.measure 0 rest := by
  induction tokens with
  | nil => rfl
  | cons t tokens ih =>
    have parts : textOf (t :: tokens) = t.text ++ textOf tokens := rfl
    rw [parts, List.append_assoc, t.strip_text, ih]
    by_cases own : t.family = some f
    · simp [own]
    · simp [own, textOf]

theorem kept_eq (t : Token) :
    t.kept = if t.family = none then t.folded.text.filter (· ≠ bell) else [] := by
  cases t with
  | ordinary c plain => simp [Token.kept, Token.family, Token.folded, Token.text, plain.2.1]
  | bell => decide
  | lineEnd => decide
  | command cs formed => rfl
  | control cs formed => rfl
  | application payload unescaped => rfl

theorem filter_textOf (tokens : List Token) :
    (textOf ((tokens.map Token.folded).filter fun t => t.family = none)).filter (· ≠ bell) =
      tokens.flatMap Token.kept := by
  induction tokens with
  | nil => rfl
  | cons t tokens ih =>
    rw [List.flatMap_cons, ← ih, kept_eq, List.map_cons, List.filter_cons, t.family_folded]
    by_cases plain : t.family = none
    · simp [plain, textOf]
    · simp [plain]

/-- Of any parts, whatever comes after them, plain text keeps what is ordinary. -/
theorem ofChars_textOf (tokens : List Token) (rest : List Char) :
    ofChars (textOf tokens ++ rest) = tokens.flatMap Token.kept ++ ofChars rest := by
  have families (t : Token) : (decide (t.family ≠ some .application) &&
      (decide (t.family ≠ some .control) && decide (t.family ≠ some .command))) =
        decide (t.family = none) := by
    cases t <;> rfl
  have commands := strip_textOf .command (tokens.map Token.folded) (foldLineEnds rest)
  have controls := strip_textOf .control
    ((tokens.map Token.folded).filter fun t => t.family ≠ some .command)
  have applications := strip_textOf .application
    (((tokens.map Token.folded).filter fun t => t.family ≠ some .command).filter
      fun t => t.family ≠ some .control)
  simp only [Family.measure] at commands controls applications
  simp only [ofChars, foldLineEnds_textOf, commands, controls, applications, List.filter_append]
  simp only [List.filter_filter, families, filter_textOf]

end Passes

/-- Plain text of parts and then anything at all is what is kept of the parts and then the plain
text of the rest: the parts neither reach into the rest nor lend it anything. -/
theorem plain_textOf_append (tokens : List Token) (rest : String) :
    plain (String.ofList (textOf tokens) ++ rest) =
      String.ofList (tokens.flatMap Token.kept) ++ plain rest := by
  have listed : (String.ofList (textOf tokens) ++ rest).toList = textOf tokens ++ rest.toList := by
    rw [String.toList_append, String.toList_ofList]
  rw [plain, plain, listed, ofChars_textOf, String.ofList_append]

/-- A title, colours and a line end, and then a sequence that is cut off. -/
example : plain "\x1b]0;~\x07\x1b[1;31mls\x1b[0m\r\n\x1b[3" = "ls\n\x1b[3" := by
  decide

end HostWatch.Text.Plain
