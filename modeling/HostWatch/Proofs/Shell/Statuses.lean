import HostWatch.Proofs.Shell.Tenure

namespace HostWatch

namespace LimitedFeed

variable {α : Type} {limit : Nat}

/-- A feed that was empty keeps the last entries that come in and counts those before them. -/
theorem pushAll_eq (room : 0 < limit) (entries : List α) :
    entries.foldl (fun f a => f.push limit a) ({} : LimitedFeed α) =
      ⟨entries.length - limit, entries.drop (entries.length - limit)⟩ := by
  induction entries using List.reverseRecOn with
  | nil => simp
  | append_singleton entries a ih =>
    rw [List.foldl_append, ih, List.foldl_cons, List.foldl_nil]
    simp only [push, List.length_drop, List.length_append, List.length_singleton]
    by_cases full : limit ≤ entries.length
    -- a full feed gives up its oldest entry, which is one more that is dropped
    · have more : entries.length + 1 - limit = entries.length - limit + 1 := by omega
      have kept : entries.length + 1 - limit ≤ entries.length := by omega
      rw [if_neg (by omega), List.tail_drop, List.drop_append_of_le_length kept, more]
    · have none : entries.length - limit = 0 := by omega
      have none' : entries.length + 1 - limit = 0 := by omega
      rw [if_pos (by omega), none, none', List.drop_zero, List.drop_zero]

theorem items_of_room {entries : List α} (room : entries.length ≤ limit) :
    items ⟨entries.length - limit, entries.drop (entries.length - limit)⟩ =
      entries.map .entry := by
  have none : entries.length - limit = 0 := by omega
  simp [items, none]

theorem items_of_loss {entries : List α} (loss : limit < entries.length) :
    items ⟨entries.length - limit, entries.drop (entries.length - limit)⟩ =
      .lagged (entries.length - limit) ::
        (entries.drop (entries.length - limit)).map .entry := by
  have some : entries.length - limit ≠ 0 := by omega
  simp [items, some]

theorem getLast?_items (room : 0 < limit) {entries : List α} (some : entries ≠ []) :
    (items ⟨entries.length - limit, entries.drop (entries.length - limit)⟩).getLast? =
      entries.getLast?.map .entry := by
  obtain ⟨front, last, rfl⟩ := (List.eq_nil_or_concat entries).resolve_left some
  have kept : ¬ front.length + 1 ≤ front.length + 1 - limit := by omega
  simp [items, List.getLast?_append, List.getLast?_map, List.getLast?_drop, kept]

end LimitedFeed

namespace Session

/-- The value that an input gives to the connection, if it comes in time. -/
def Input.status? : Input → Option Connection
  | .reconnect _ => some .connecting
  | .close => some (.closed 1000 "Normal closure")
  | .event _ e => e.status?
  | _ => none

def Input.isStatusSubscription : Input → Bool
  | .subscribeStatus => true
  | _ => false

def Input.readsStatus (k : Nat) : Input → Bool
  | .readStatus n => n = k
  | _ => false

/-- Whether nothing is left to read for a reader of statuses, of whom there were `count` before: it
has subscribed just now or has just read. -/
def Input.emptiesStatus (k count : Nat) : Input → Prop
  | .subscribeStatus => k = count
  | .readStatus n => n = k ∧ k < count
  | _ => False

section Step

variable {s : Session}

/-- What a step announces is the value that an input gives to the connection: a close without a link
and a report of another attempt give it none. -/
theorem announced_eq (s : Session) (i : Input) :
    ∃ assigned : Option Connection, s.announced i = assigned.toList ∧
      ∀ status, assigned = some status ↔ i.status? = some status ∧
        (i.isClose = true → s.current.isSome) ∧
        ∀ epoch e, i = .event epoch e → epoch = s.epoch := by
  cases i with
  | reconnect url => exact ⟨some .connecting, rfl, by simp [Input.status?, Input.isClose]⟩
  | close =>
    cases used : s.current with
    | none => exact ⟨none, by simp [announced, used], by simp [Input.isClose]⟩
    | some e =>
      refine ⟨some (.closed 1000 "Normal closure"), ?_, by simp [Input.status?]⟩
      simp [announced, used, normalClosure, closeReason]
  | event epoch e =>
    by_cases present : s.epoch = epoch
    · refine ⟨e.status?, by simp [announced, present], ?_⟩
      simp [Input.status?, Input.isClose, present]
    · refine ⟨none, by simp [announced, present], ?_⟩
      simp [eq_comm (a := epoch), present]
  | _ => exact ⟨none, rfl, by simp [Input.status?]⟩

theorem step_connection (h : s.Coherent) (accepts : Nat → Bool) (i : Input) :
    (s.step accepts i).2.1.state.connection =
      (s.announced i).getLast?.getD s.state.connection := by
  have becomes := h.becomes accepts i
  generalize (s.step accepts i).2.1 = t at becomes
  cases becomes with
  | connected url => rfl
  | closed => cases hc : s.current <;> simp [close, announced, announce, hc]
  | submitted line =>
    obtain ⟨mark, eq⟩ := s.submit_marks accepts line
    simp [eq, write, announced]
  | heard e =>
    rw [heard_connection]
    cases e <;> simp [announced, LinkEvent.status?]
  | aside other unheard _ =>
    cases i with
    | reconnect url => cases other
    | close => cases other
    | event epoch e =>
      have past : s.epoch ≠ epoch := fun eq => unheard e (eq ▸ rfl)
      simp [announced, past]
    | _ => rfl

variable {k : Nat} {feed : LimitedFeed Connection}

theorem step_statusFeed (h : s.Coherent) (accepts : Nat → Bool) {i : Input}
    (there : s.statusFeeds[k]? = some feed) (unread : i.readsStatus k = false) :
    (s.step accepts i).2.1.statusFeeds[k]? =
      some ((s.announced i).foldl (fun f c => f.push statusLimit c) feed) := by
  rw [step_statusFeeds h]
  cases i with
  | subscribeStatus =>
    have bound : k < s.statusFeeds.length := (List.getElem?_eq_some_iff.mp there).1
    simp [List.getElem?_append_left bound, there, announced]
  | readStatus n =>
    have other : n ≠ k := by simpa [Input.readsStatus] using unread
    simp [there, other, announced]
  | _ => simp [there]

theorem step_statusFeeds_length (h : s.Coherent) (accepts : Nat → Bool) (i : Input) :
    (s.step accepts i).2.1.statusFeeds.length =
      s.statusFeeds.length + if i.isStatusSubscription then 1 else 0 := by
  rw [step_statusFeeds h]
  cases i <;> simp [Input.isStatusSubscription]

theorem step_emptied (h : s.Coherent) (accepts : Nat → Bool) {i : Input}
    (empties : i.emptiesStatus k s.statusFeeds.length) :
    (s.step accepts i).2.1.statusFeeds[k]? = some {} := by
  rw [step_statusFeeds h]
  cases i with
  | subscribeStatus =>
    obtain rfl : k = s.statusFeeds.length := empties
    exact List.getElem?_concat_length
  | readStatus n =>
    obtain ⟨rfl, bound⟩ : n = k ∧ k < s.statusFeeds.length := empties
    simp [List.getElem?_eq_getElem bound]
  | _ => exact empties.elim

end Step

namespace Course

def statuses (c : Course) : List Move → List Connection
  | [] => []
  | m :: ms => c.session.announced m.input ++ (c.next m).statuses ms

variable {c : Course} {k : Nat} {feed : LimitedFeed Connection}

theorem statuses_append (c : Course) (ms later : List Move) :
    c.statuses (ms ++ later) = c.statuses ms ++ (c.run ms).statuses later := by
  induction ms generalizing c with
  | nil => rfl
  | cons m ms ih => rw [List.cons_append, statuses, statuses, ih, run_cons, List.append_assoc]

theorem run_connection (h : c.session.Coherent) (ms : List Move) :
    (c.run ms).session.state.connection =
      (c.statuses ms).getLast?.getD c.session.state.connection := by
  induction ms generalizing c with
  | nil => rfl
  | cons m ms ih =>
    have first : (c.next m).session.state.connection = _ := step_connection h _ _
    rw [run_cons, ih (h.step _ _), first, statuses, List.getLast?_append]
    cases ((c.next m).statuses ms).getLast? <;> rfl

theorem run_statusFeed (h : c.session.Coherent) (there : c.session.statusFeeds[k]? = some feed)
    {ms : List Move} (unread : ∀ m ∈ ms, m.input.readsStatus k = false) :
    (c.run ms).session.statusFeeds[k]? =
      some ((c.statuses ms).foldl (fun f status => f.push statusLimit status) feed) := by
  induction ms generalizing c feed with
  | nil => exact there
  | cons m ms ih =>
    have first : (c.next m).session.statusFeeds[k]? = _ :=
      step_statusFeed h _ there (unread m List.mem_cons_self)
    rw [run_cons, ih (h.step _ _) first fun m' mem => unread m' (.tail m mem), statuses,
      List.foldl_append]

theorem statusFeeds_run (ms : List Move) :
    (({} : Course).run ms).session.statusFeeds.length =
      ms.countP (·.input.isStatusSubscription) := by
  induction ms using List.reverseRecOn with
  | nil => rfl
  | append_singleton ms m ih =>
    have last : ((({} : Course).run ms).next m).session.statusFeeds.length = _ :=
      step_statusFeeds_length (coherent_run ms) _ _
    rw [run_append_singleton, last, ih, List.countP_append, List.countP_singleton]

theorem answer_readStatus (there : c.session.statusFeeds[k]? = some feed)
    (accepts : Nat → List SessionAct → Bool) :
    (c.answer ⟨accepts, .readStatus k⟩).1 = .statuses feed.items := by
  simp [answer, Session.step, readStatus, there, LimitedFeed.drain]

/-- A reader for whom nothing was left to read finds the last of what has been announced since, and
how much of it is lost. -/
theorem run_emptied {before during : List Move} {first : Move}
    (empties : first.input.emptiesStatus k (before.countP (·.input.isStatusSubscription)))
    (unread : ∀ m ∈ during, m.input.readsStatus k = false) :
    let begun := ({} : Course).run (before ++ [first])
    let missed := begun.statuses during
    (begun.run during).session.statusFeeds[k]? =
      some ⟨missed.length - statusLimit, missed.drop (missed.length - statusLimit)⟩ := by
  intro begun missed
  have empty : begun.session.statusFeeds[k]? = some {} := by
    rw [← statusFeeds_run before] at empties
    simp only [begun, run_append_singleton]
    exact step_emptied (coherent_run before) _ empties
  rw [run_statusFeed (coherent_run _) empty unread]
  exact congrArg some (LimitedFeed.pushAll_eq (by decide) missed)

/-- What is announced is what moves give to the connection and nothing else, and who reads the
statuses ends with the one shown, however far behind. -/
theorem statuses_mirror_connection (ms : List Move) :
    let c := ({} : Course).run ms
    let announced := ({} : Course).statuses
    (∀ m : Move, ∃ assigned : Option Connection,
      (∀ status, assigned = some status ↔ m.input.status? = some status ∧
        (m.input.isClose = true → ∃ epoch, InUse epoch ms) ∧
        ∀ epoch e, m.input = .event epoch e → epoch = turns ms) ∧
      (c.next m).session.state.connection = assigned.getD c.session.state.connection ∧
      announced (ms ++ [m]) = announced ms ++ assigned.toList) ∧
    c.session.state.connection = (announced ms).getLast?.getD .connecting ∧
    ∀ before first during k, ms = before ++ [first] ++ during →
      first.input.emptiesStatus k (before.countP (·.input.isStatusSubscription)) →
      (∀ m ∈ during, m.input.readsStatus k = false) →
      ∃ missed, announced ms = announced (before ++ [first]) ++ missed ∧
        ∀ accepts, ∃ items, (c.answer ⟨accepts, .readStatus k⟩).1 = .statuses items ∧
          (missed.length ≤ 16 → items = missed.map .entry) ∧
          (16 < missed.length → items =
            .lagged (missed.length - 16) :: (missed.drop (missed.length - 16)).map .entry) ∧
          (missed ≠ [] → items.getLast? = some (.entry c.session.state.connection)) ∧
          (missed = [] → c.session.state.connection =
            (({} : Course).run (before ++ [first])).session.state.connection) := by
  intro c announced
  refine ⟨fun m => ?_, run_connection coherent_initial ms, ?_⟩
  · obtain ⟨assigned, eq, assigned_iff⟩ := announced_eq c.session m.input
    refine ⟨assigned, fun status => ?_, ?_, ?_⟩
    · have used : c.session.current.isSome ↔ ∃ epoch, InUse epoch ms := by
        simp only [Option.isSome_iff_exists, ← current_iff_inUse, c]
      rw [assigned_iff, used, epoch_run]
    · have given : (c.next m).session.state.connection = _ :=
        step_connection (coherent_run ms) _ _
      rw [given, eq]
      cases assigned <;> rfl
    · have grows : announced (ms ++ [m]) = announced ms ++ c.statuses [m] := statuses_append _ _ _
      rw [grows, statuses, statuses, List.append_nil, eq]
  · intro before first during k split empties unread
    let begun := ({} : Course).run (before ++ [first])
    let missed := begun.statuses during
    have whole : c = begun.run during := by simp only [c, begun, split, run_append]
    have feed : c.session.statusFeeds[k]? =
        some ⟨missed.length - 16, missed.drop (missed.length - 16)⟩ := by
      rw [whole]
      exact run_emptied empties unread
    have shown : c.session.state.connection =
        missed.getLast?.getD begun.session.state.connection := by
      rw [whole, run_connection (coherent_run _)]
    refine ⟨missed, by rw [split]; exact statuses_append _ _ _, fun accepts => ?_⟩
    refine ⟨_, answer_readStatus feed accepts, LimitedFeed.items_of_room,
      LimitedFeed.items_of_loss, fun some => ?_, fun none => ?_⟩
    · obtain ⟨last, eq⟩ := Option.isSome_iff_exists.mp (List.getLast?_isSome.mpr some)
      rw [LimitedFeed.getLast?_items (by decide) some, shown, eq]
      rfl
    · rw [shown, none]
      rfl

/-- Eighteen statuses are announced before the first reader comes to them. A report of the third
attempt and a close of what is closed are not among them. -/
theorem statuses_of_slow_reader :
    let before : List Move := [.accepted (.reconnect shellUrl)]
    let first : Move := .accepted .subscribeStatus
    let during : List Move := List.replicate 16 (.accepted (.reconnect shellUrl)) ++
      [.accepted (.event 17 .opened), .accepted (.event 3 (.failed "late")), .accepted .close,
        .accepted .close]
    let c := ({} : Course).run (before ++ [first] ++ during)
    let missed : List Connection :=
      List.replicate 16 .connecting ++ [.opened, .closed 1000 "Normal closure"]
    ({} : Course).statuses (before ++ [first] ++ during) = .connecting :: missed ∧
      (c.answer (.accepted (.readStatus 0))).1 =
        .statuses (.lagged 2 :: (missed.drop 2).map .entry) ∧
      c.session.state.connection = .closed 1000 "Normal closure" := by
  intro before first during c missed
  obtain ⟨-, shown, readers⟩ := statuses_mirror_connection (before ++ [first] ++ during)
  have whole : ({} : Course).statuses (before ++ [first] ++ during) = .connecting :: missed := by
    decide
  have unread : ∀ m ∈ during, m.input.readsStatus 0 = false := by decide
  obtain ⟨missed', split, reads⟩ := readers before first during 0 rfl rfl unread
  have same : missed' = missed := (List.cons.inj (whole.symm.trans split)).2.symm
  obtain ⟨items, answer, -, loss, -⟩ := reads fun _ _ => true
  subst same
  have lagged : items = .lagged 2 :: (missed.drop 2).map .entry := loss (by decide)
  exact ⟨whole, lagged ▸ answer, shown.trans (by rw [whole]; rfl)⟩

end Course

end Session

end HostWatch
