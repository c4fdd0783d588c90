import HostWatch.Proofs.Json.Records

namespace HostWatch.Json

open Text.Utf8 (encode)

variable {α β : Type}

def Refuses (r : Read α) (cs : List Char) : Prop := ∀ p, ∃ e, r ⟨encode cs, p⟩ = .error e

section Steps

variable {r r' : Read α} {f : α → Read β} {v : α} {cs cs' rest : List Char}

theorem refuses_fail (p : Problem) (cs : List Char) : Refuses (Read.fail p : Read α) cs :=
  fun _ => ⟨_, rfl⟩

theorem refuses_failPending (p : Problem) (cs : List Char) :
    Refuses (Read.failPending p : Read α) cs := fun _ => ⟨_, rfl⟩

theorem Refuses.bind (h : Refuses r cs) (f : α → Read β) : Refuses (r >>= f) cs := by
  intro p
  obtain ⟨e, refused⟩ := h p
  refine ⟨e, ?_⟩
  change (r ⟨encode cs, p⟩).bind (fun q => f q.1 q.2) = _
  rw [refused]
  rfl

theorem ComesTo.refuses (h : ComesTo r cs r' cs') (h' : Refuses r' cs') : Refuses r cs := by
  intro p
  obtain ⟨p', same⟩ := h p
  obtain ⟨e, refused⟩ := h' p'
  exact ⟨e, same.trans refused⟩

theorem Reads.refuses (h : Reads r cs v rest) (h' : Refuses (f v) rest) : Refuses (r >>= f) cs :=
  (h.comesTo f).refuses h'

theorem refuses_get {f : Cursor → Read β} (h : ∀ p, Refuses (f ⟨encode cs, p⟩) cs) :
    Refuses (get >>= f) cs := by
  intro p
  exact h p p

theorem Refuses.settling {settle : Cursor → Cursor} (h : Refuses r cs) :
    Refuses (Read.settling settle r) cs := by
  intro p
  obtain ⟨e, refused⟩ := h p
  unfold Read.settling
  rw [refused]
  cases e with
  | settled fault => exact ⟨_, rfl⟩
  | pending problem raised => exact ⟨_, rfl⟩

theorem Refuses.inList (h : Refuses r cs) : Refuses (inList r) ('[' :: cs) :=
  (reads_advance rfl).refuses (h.settling.bind _)

theorem Refuses.inObject (h : Refuses r cs) : Refuses (inObject r) ('\x7b' :: cs) :=
  (reads_advance rfl).refuses (h.settling.bind _)

theorem Refuses.readAll (h : Refuses r cs) : ∃ fault, readAll r (encode cs) = .error fault := by
  obtain ⟨e, refused⟩ := h .start
  have first : r.run (Cursor.ofBytes (encode cs)) = .error e := refused
  simp only [Json.readAll, StateT.run_bind, first]
  cases e with
  | settled fault => exact ⟨_, rfl⟩
  | pending problem raised => exact ⟨_, rfl⟩

end Steps

section Numbers

variable {n bound : Nat} {gap rest : List Char}

theorem absorb_past (ds : List Char) (n : Nat) (small : n ≤ Number.maxWord64)
    (past : Number.maxWord64 < Nat.ofDigitChars 10 ds n) :
    (Numeral.absorb n (ds.map fun d => d.toNat - '0'.toNat)).2 ≠ 0 := by
  induction ds generalizing n with
  | nil =>
    have value : Nat.ofDigitChars 10 [] n = n := rfl
    omega
  | cons d ds ih =>
    have step : Nat.ofDigitChars 10 (d :: ds) n =
        Nat.ofDigitChars 10 ds (n * 10 + (d.toNat - '0'.toNat)) := by
      rw [Nat.mul_comm]
      rfl
    rw [step] at past
    rw [List.map_cons, Numeral.absorb]
    by_cases still : n * 10 + (d.toNat - '0'.toNat) ≤ Number.maxWord64
    · rw [if_pos still]
      exact ih _ still past
    · rw [if_neg still]
      exact Nat.succ_ne_zero _

theorem Numeral.scaled_cases (positive : Bool) (significand : Nat) (exponent : Int) :
    (∃ v, scaled positive significand exponent = pure v) ∨
      scaled positive significand exponent = Read.fail .numberOutOfRange := by
  unfold scaled
  dsimp only
  split
  · exact Or.inl ⟨_, rfl⟩
  split
  · split
    · exact Or.inl ⟨_, rfl⟩
    · exact Or.inr rfl
  · split
    · exact Or.inr rfl
    · exact Or.inl ⟨_, rfl⟩

/-- A natural number past 64 bits is read as a value of double precision, if at all. -/
theorem Numeral.ofDigits_of_past (past : Number.maxWord64 < n) :
    (∃ v, ofDigits n = pure (.float v)) ∨ ofDigits n = Read.fail .numberOutOfRange := by
  have value : Nat.ofDigitChars 10 (Nat.toDigits 10 n) 0 = n := Nat.ofDigitChars_ten_toDigits
  have counted := absorb_past (Nat.toDigits 10 n) 0 (Nat.zero_le _) (value.symm ▸ past)
  unfold ofDigits
  rw [if_pos counted]
  rcases scaled_cases true _ _ with ⟨v, eq⟩ | eq
  · rw [eq]
    exact Or.inl ⟨v, rfl⟩
  · rw [eq]
    exact Or.inr rfl

/-- A natural number past its bound is refused, whether it is past 64 bits or not. -/
theorem refuses_natural (past : bound < n) (wanted : String) (blank : Blank gap)
    (ends : endsNumber rest) :
    Refuses (natural bound wanted) (gap ++ ((toString n).toList ++ rest)) := by
  refine ((comesTo_numeral n wanted blank ends).bind _).refuses ?_
  by_cases fits : n ≤ Number.maxWord64
  · -- within 64 bits it is read as itself, and the field turns it down
    have large : ¬ n ≤ bound := Nat.not_le_of_lt past
    rw [Numeral.ofDigits_of_fits fits]
    refine (reads_pure _ rest).refuses ?_
    simp only [Numeral.natural?, large, if_false]
    exact refuses_fail _ rest
  · rcases Numeral.ofDigits_of_past (Nat.lt_of_not_le fits) with ⟨v, eq⟩ | eq
    · rw [eq]
      exact (reads_pure _ rest).refuses (refuses_fail _ rest)
    · rw [eq]
      exact (refuses_fail _ rest).bind _

end Numbers

/-- A reader refuses some characters wherever these stand. -/
structure Refused (r : Read α) (w : List Char) : Prop where
  starts : Starts w
  refuses : ∀ gap rest, Blank gap → Closes rest → Refuses r (gap ++ (w ++ rest))

/-- A reader takes a value from some characters if a condition holds, and refuses them otherwise. -/
structure Decides (good : Prop) (r : Read α) (w : List Char) (v : α) : Prop where
  takes : good → Takes r w v
  refused : ¬ good → Refused r w

section Values

variable {good good' : Prop} {r : Read α} {w : List Char} {v : α}

theorem refused_enclosed {f : Option Char → Read α} {c d : Char} {ws : List Char}
    (opening : c = '[' ∨ c = '\x7b')
    (inside : ∀ rest, Refuses (f (some c)) (c :: (ws ++ d :: rest))) :
    Refused (Read.token >>= f) (c :: (ws ++ [d])) := by
  have plain := plain_of_opening opening
  refine ⟨⟨c, _, rfl, plain⟩, fun gap rest blank _ => ?_⟩
  rw [List.cons_append, List.append_assoc]
  exact (reads_token blank plain.1 plain.2.1).refuses (inside rest)

theorem Takes.decides (h : Takes r w v) (holds : good) : Decides good r w v :=
  ⟨fun _ => h, fun bad => absurd holds bad⟩

theorem Decides.starts (h : Decides good r w v) : Starts w := by
  by_cases holds : good
  · exact (h.takes holds).starts
  · exact (h.refused holds).starts

theorem Decides.congr (h : Decides good r w v) (same : good ↔ good') : Decides good' r w v :=
  ⟨fun holds => h.takes (same.mpr holds), fun bad => h.refused fun holds => bad (same.mp holds)⟩

theorem Decides.map (h : Decides good r w v) (f : α → β) :
    Decides good (do return f (← r)) w (f v) := by
  refine ⟨fun holds => (h.takes holds).map f, fun bad => ⟨h.starts, ?_⟩⟩
  intro gap rest blank closed
  exact ((h.refused bad).refuses gap rest blank closed).bind _

theorem decides_natural {n bound : Nat} (h : SpellsNatural n w) (fits : bound ≤ Number.maxWord64)
    (wanted : String) : Decides (n ≤ bound) (natural bound wanted) w n := by
  refine ⟨fun small => takes_natural h small fits wanted, fun large => ⟨h.starts, ?_⟩⟩
  intro gap rest blank closed
  cases h
  exact refuses_natural (Nat.lt_of_not_le large) wanted blank closed.endsNumber

theorem SpellsText.refused {l : Language} {bs : List UInt8} (h : SpellsText l bs)
    (refused : ∀ w, l w → Refused r w) : ∃ fault, Json.readAll r bs = .error fault := by
  obtain ⟨gap, w, gap', blank, spelled, blank', rfl⟩ := h
  have closed : Closes gap' := by
    have ended : Closes [] := nofun
    simpa using ended.gap blank'
  exact ((refused w spelled).refuses gap gap' blank closed).readAll

theorem SpellsText.decides {l : Language} {bs : List UInt8} (h : SpellsText l bs)
    (decides : ∀ w, l w → Decides good r w v) :
    (good → Json.readAll r bs = .ok v) ∧ (¬ good → ∃ fault, Json.readAll r bs = .error fault) :=
  ⟨fun holds => h.readAll fun w spelled => (decides w spelled).takes holds,
    fun bad => h.refused fun w spelled => (decides w spelled).refused bad⟩

end Values

section Lists

variable {δ : Type} {item : Read α} {language : δ → Language} {good : δ → Prop} {value : δ → α}
  {ds : List δ} {first : Bool} {ws rest : List Char}

theorem Series.refuses_items (h : Series first (ds.map language) ws)
    (each : ∀ d ∈ ds, ∀ w, language d w → Decides (good d) item w (value d))
    (bad : ¬ ∀ d ∈ ds, good d) (fuel : Nat) :
    Refuses (items item fuel first) (ws ++ ']' :: rest) := by
  induction ds generalizing first ws fuel with
  | nil => exact absurd nofun bad
  | cons d ds ih =>
    rw [List.map_cons] at h
    obtain ⟨here, others⟩ := List.forall_mem_cons.mp each
    cases fuel with
    | zero => exact refuses_fail _ _
    | succ fuel =>
      cases h with
      | @part _ _ _ lead w ws leads spelled series =>
        have decided := here w spelled
        have closed := series.closes (closes_listEnd rest)
        rw [List.append_assoc, List.append_assoc]
        refine (decided.starts.reads_moreItems leads _).refuses ?_
        simp only [if_true]
        by_cases holds : good d
        · have bad' : ¬ ∀ d ∈ ds, good d :=
            fun all => bad (List.forall_mem_cons.mpr ⟨holds, all⟩)
          refine ((decided.takes holds).reads [] _ isGap_nil closed).refuses ?_
          exact (ih series others bad' fuel).bind _
        · exact ((decided.refused holds).refuses [] _ isGap_nil closed).bind _

theorem decides_list {w : List Char} (h : SpellsList (ds.map language) w)
    (each : ∀ d ∈ ds, ∀ w, language d w → Decides (good d) item w (value d)) :
    Decides (∀ d ∈ ds, good d) (list item) w (ds.map value) := by
  refine ⟨fun all => ?_, fun bad => ?_⟩
  · refine takes_list h (List.forall₂_map_left_iff.mpr (List.forall₂_map_right_iff.mpr ?_))
    refine List.forall₂_same.mpr fun d mem w spelled => ?_
    exact (each d mem w spelled).takes (all d mem)
  · obtain ⟨ws, series, rfl⟩ := h
    refine refused_enclosed (Or.inl rfl) fun rest => Refuses.inList (refuses_get fun _ => ?_)
    exact series.refuses_items each bad _

end Lists

end HostWatch.Json
