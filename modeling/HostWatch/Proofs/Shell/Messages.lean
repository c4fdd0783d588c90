import HostWatch.Proofs.Shell.Tenure
import HostWatch.Proofs.Shell.Transcript

namespace HostWatch

def Session.Answer.texts : Session.Answer → List String
  | .messages texts => texts
  | _ => []

namespace Session

def Input.isSubscription : Input → Bool
  | .subscribeMessages => true
  | _ => false

def Input.reads (n : Nat) : Input → Bool
  | .readMessages k => k = n
  | _ => false

def Input.leaves (n : Nat) : Input → Bool
  | .leaveMessages k => k = n
  | _ => false

/-- What is done by or for others than the reader of a feed of messages. -/
def Input.isOthers (n : Nat) : Input → Bool
  | .subscribeStatus | .readStatus _ | .subscribeMessages => true
  | .readMessages k | .leaveMessages k => k ≠ n
  | _ => false

section Step

variable {s : Session} {n : Nat} {unread : List String}

/-- A feed that is not left is emptied when it is read, and else takes up what the present attempt
reports. -/
theorem step_feed (h : s.Coherent) (accepts : Nat → Bool) {i : Input}
    (live : s.messageFeeds[n]? = some ⟨true, unread⟩) (stays : i.leaves n = false) :
    (s.step accepts i).2.1.messageFeeds[n]? =
      some ⟨true, if i.reads n then [] else unread ++ (i.textOf? s.epoch).toList⟩ := by
  rw [step_messageFeeds h]
  cases i with
  | subscribeMessages =>
    have bound : n < s.messageFeeds.length := (List.getElem?_eq_some_iff.mp live).1
    simp [List.getElem?_append_left bound, live, Input.reads, Input.textOf?]
  | readMessages k =>
    by_cases own : k = n <;>
      simp [live, own, Input.reads, Input.textOf?, LosslessFeed.drain]
  | leaveMessages k =>
    have other : k ≠ n := by simpa [Input.leaves] using stays
    simp [live, other, Input.reads, Input.textOf?]
  | event epoch e =>
    cases e with
    | message raw =>
      by_cases current : s.epoch = epoch <;>
        simp [live, delivered, current, eq_comm (a := epoch), Input.reads, Input.textOf?,
          LosslessFeed.push]
    | _ => simp [live, delivered, Input.reads, Input.textOf?]
  | _ => simp [live, delivered, Input.reads, Input.textOf?]

theorem step_reading (accepts : Nat → Bool) {i : Input}
    (live : s.messageFeeds[n]? = some ⟨true, unread⟩) (reads : i.reads n = true) :
    (s.step accepts i).1.texts = unread := by
  cases i with
  | readMessages k =>
    obtain rfl : k = n := by simpa [Input.reads] using reads
    simp [Session.step, readMessages, live, LosslessFeed.drain, Answer.texts]
  | _ => cases reads

theorem step_messageFeeds_length (h : s.Coherent) (accepts : Nat → Bool) (i : Input) :
    (s.step accepts i).2.1.messageFeeds.length =
      s.messageFeeds.length + if i.isSubscription then 1 else 0 := by
  rw [step_messageFeeds h]
  cases i <;> simp [Input.isSubscription]

end Step

theorem Input.textOf?_eq_some {i : Input} {epoch : Nat} {raw : String} :
    i.textOf? epoch = some raw ↔ i = .event epoch (.message raw) := by
  cases i with
  | event other e =>
    cases e with
    | message text => by_cases same : other = epoch <;> simp [Input.textOf?, same]
    | _ => simp [Input.textOf?]
  | _ => simp [Input.textOf?]

theorem Input.of_isOthers {n : Nat} {i : Input} (others : i.isOthers n = true) :
    i.isTurn = false ∧ i.reads n = false ∧ i.leaves n = false ∧
      ∀ epoch, i.textOf? epoch = none := by
  cases i <;>
    simp_all [Input.isOthers, Input.isTurn, Input.reads, Input.leaves, Input.textOf?]

namespace Course

/-- The feed of a reader of messages, by the number of subscriptions before its own. -/
def feed (c : Course) (n : Nat) : Option (LosslessFeed String) := c.session.messageFeeds[n]?

def reading (n : Nat) (c : Course) (m : Move) : List (List String) :=
  if m.input.reads n then [(c.answer m).1.texts] else []

def readings (n : Nat) (c : Course) : List Move → List (List String)
  | [] => []
  | m :: ms => c.reading n m ++ (c.next m).readings n ms

variable {c d : Course} {n : Nat} {unread : List String}

theorem feed_next (h : c.session.Coherent) {m : Move} (live : c.feed n = some ⟨true, unread⟩)
    (stays : m.input.leaves n = false) :
    (c.next m).feed n = some ⟨true, if m.input.reads n then []
      else unread ++ (m.input.textOf? c.session.epoch).toList⟩ := step_feed h _ live stays

theorem reading_eq (live : c.feed n = some ⟨true, unread⟩) (m : Move) :
    c.reading n m = if m.input.reads n then [unread] else [] := by
  unfold reading
  cases reads : m.input.reads n with
  | false => rfl
  | true => exact congrArg ([·]) (step_reading _ live reads)

theorem feeds_run (ms : List Move) :
    (({} : Course).run ms).session.messageFeeds.length =
      ms.countP (·.input.isSubscription) := by
  induction ms using List.reverseRecOn with
  | nil => rfl
  | append_singleton ms m ih =>
    have last : ((({} : Course).run ms).next m).session.messageFeeds.length = _ :=
      step_messageFeeds_length (coherent_run ms) _ _
    rw [run_append_singleton, last, ih, List.countP_append, List.countP_singleton]

theorem feed_of_subscription (ms : List Move) (accepts : Nat → List SessionAct → Bool) :
    ((({} : Course).run ms).next ⟨accepts, .subscribeMessages⟩).feed
      (ms.countP (·.input.isSubscription)) = some {} := by
  rw [← feeds_run ms]
  exact List.getElem?_concat_length

/-- What was read and what is unread make up all the messages so far, in their order. -/
theorem run_feed (h : c.session.Coherent) (live : c.feed n = some ⟨true, unread⟩) {ms : List Move}
    (stays : ∀ m ∈ ms, m.input.leaves n = false) :
    ∃ rest, (c.run ms).feed n = some ⟨true, rest⟩ ∧
      (c.readings n ms).flatten ++ rest = unread ++ texts c.session.epoch ms := by
  induction ms generalizing c unread with
  | nil => exact ⟨unread, live, by simp [readings, texts]⟩
  | cons m ms ih =>
    have epoch : (c.next m).session.epoch = _ := step_epoch h _ _
    have first := feed_next h live (stays m List.mem_cons_self)
    obtain ⟨rest, last, eq⟩ := ih (h.step _ _) first fun m' mem => stays m' (.tail m mem)
    refine ⟨rest, last, ?_⟩
    rw [readings, reading_eq live, List.flatten_append, List.append_assoc, eq, epoch, texts]
    cases reads : m.input.reads n with
    | false => simp
    -- the reader takes all that was unread, and a move that reads reports nothing
    | true =>
      have silent : m.input.textOf? c.session.epoch = none := by
        cases call : m.input with
        | readMessages k => rfl
        | _ => simp [call, Input.reads] at reads
      simp [silent]

theorem run_without_others (hc : c.session.Coherent) (hd : d.session.Coherent)
    (epoch : c.session.epoch = d.session.epoch) (live : c.feed n = some ⟨true, unread⟩)
    (same : d.feed n = some ⟨true, unread⟩) {ms : List Move}
    (stays : ∀ m ∈ ms, m.input.leaves n = false) :
    let own := ms.filter (!·.input.isOthers n)
    c.readings n ms = d.readings n own ∧ (c.run ms).feed n = (d.run own).feed n := by
  induction ms generalizing c d unread with
  | nil => exact ⟨rfl, live.trans same.symm⟩
  | cons m ms ih =>
    intro own
    have stays' : ∀ m' ∈ ms, m'.input.leaves n = false := fun m' mem => stays m' (.tail m mem)
    have first := feed_next hc live (stays m List.mem_cons_self)
    have turned : (c.next m).session.epoch = _ := step_epoch hc _ _
    cases others : m.input.isOthers n with
    -- while others move the second run stands still: epoch and feed stay as they are
    | true =>
      have eq : own = ms.filter (!·.input.isOthers n) := by simp [own, others]
      obtain ⟨turn, reads, -, silent⟩ := Input.of_isOthers others
      rw [reads, silent, if_neg Bool.false_ne_true, Option.toList_none, List.append_nil] at first
      rw [turn, if_neg Bool.false_ne_true, Nat.add_zero, epoch] at turned
      rw [eq, readings, reading_eq live, reads, run_cons]
      exact ih (hc.step _ _) hd turned first same stays'
    | false =>
      have eq : own = m :: ms.filter (!·.input.isOthers n) := by simp [own, others]
      have first' := feed_next hd same (stays m List.mem_cons_self)
      have turned' : (d.next m).session.epoch = _ := step_epoch hd _ _
      rw [← epoch] at first' turned'
      obtain ⟨later, last⟩ :=
        ih (hc.step _ _) (hd.step _ _) (turned.trans turned'.symm) first first' stays'
      rw [eq, readings, readings, reading_eq live, reading_eq same, later]
      exact ⟨rfl, last⟩

theorem texts_append (epoch : Nat) (ms later : List Move) :
    texts epoch (ms ++ later) = texts epoch ms ++ texts (epoch + turns ms) later := by
  induction ms generalizing epoch with
  | nil => rfl
  | cons m ms ih =>
    rw [List.cons_append, texts, texts, ih, List.append_assoc, turns, turns, List.countP_cons,
      Nat.add_assoc, Nat.add_comm (ms.countP _)]

theorem mem_texts (h : c.session.Coherent) {raw : String} {ms : List Move} :
    raw ∈ texts c.session.epoch ms ↔
      Once (fun past m => m.input = .event (c.run past).session.epoch (.message raw)) ms := by
  induction ms using List.reverseRecOn with
  | nil => simp [texts]
  | append_singleton ms m ih =>
    rw [once_append_singleton, ← ih, texts_append, List.mem_append, or_comm, run_epoch h,
      ← Input.textOf?_eq_some]
    simp [texts]

/-- Whoever subscribes to the messages gets all that the present attempts report from then on, each
once and in order, whatever other subscribers do. -/
theorem messages_lossless (before during : List Move)
    (accepts : Nat → List SessionAct → Bool) :
    let n := before.countP (·.input.isSubscription)
    let begun := (({} : Course).run before).next ⟨accepts, .subscribeMessages⟩
    (∀ m ∈ during, m.input.leaves n = false) →
      (∃ unread, (begun.run during).feed n = some ⟨true, unread⟩ ∧
        (begun.readings n during).flatten ++ unread = texts (turns before) during) ∧
      (∀ raw, raw ∈ texts (turns before) during ↔
        Once (fun past m => m.input = .event (begun.run past).session.epoch (.message raw))
          during) ∧
      ∀ others : List Move,
        others.filter (!·.input.isOthers n) = during.filter (!·.input.isOthers n) →
          begun.readings n others = begun.readings n during ∧
            (begun.run others).feed n = (begun.run during).feed n := by
  intro n begun stays
  have coherent : begun.session.Coherent := (coherent_run before).step _ _
  have empty : begun.feed n = some {} := feed_of_subscription before accepts
  have epoch : begun.session.epoch = turns before := epoch_run before
  refine ⟨?_, fun raw => ?_, fun others same => ?_⟩
  · simpa [epoch] using run_feed coherent empty stays
  · rw [← epoch]
    exact mem_texts coherent
  · have stays' : ∀ m ∈ others, m.input.leaves n = false := by
      intro m mem
      cases others' : m.input.isOthers n with
      | true => exact (Input.of_isOthers others').2.2.1
      | false =>
        have kept : m ∈ others.filter (!·.input.isOthers n) := by simp [mem, others']
        exact stays m (List.mem_filter.mp (same ▸ kept)).1
    obtain ⟨read, left⟩ := run_without_others coherent coherent rfl empty empty stays
    obtain ⟨read', left'⟩ := run_without_others coherent coherent rfl empty empty stays'
    rw [same] at read' left'
    exact ⟨read'.trans read.symm, left'.trans left.symm⟩

/-- The second reader gets the empty message and that of the second attempt, although the first
one leaves and the first attempt reports late; and so it would if the first one stayed. -/
theorem messages_of_second_reader :
    let before : List Move := [.accepted (.reconnect shellUrl), .accepted .subscribeMessages,
      .accepted (.event 1 (.message "early"))]
    let heard : List Move := [.accepted (.readMessages 1), .accepted (.reconnect shellUrl),
      .accepted (.event 1 (.message "late")), .accepted (.event 2 (.message "\x1b[2Jhi"))]
    let during : List Move :=
      .accepted (.event 1 (.message "")) :: .accepted (.leaveMessages 0) :: heard
    let others : List Move := .accepted (.event 1 (.message "")) :: heard
    let begun := (({} : Course).run before).next (.accepted .subscribeMessages)
    begun.readings 1 during = [[""]] ∧
      (begun.run during).feed 1 = some ⟨true, ["\x1b[2Jhi"]⟩ ∧
      (begun.run others).feed 1 = (begun.run during).feed 1 ∧
      ¬ Once (fun past m => m.input = .event (begun.run past).session.epoch (.message "late"))
        during := by
  intro before heard during others begun
  have stays : ∀ m ∈ during, m.input.leaves 1 = false := by decide
  obtain ⟨⟨unread, left, whole⟩, origin, alone⟩ :=
    messages_lossless before during (fun _ _ => true) stays
  have read : begun.readings 1 during = [[""]] := by decide
  have messages : texts (turns before) during = ["", "\x1b[2Jhi"] := by decide
  have rest : unread = ["\x1b[2Jhi"] := by
    have split : (begun.readings 1 during).flatten ++ unread = ["", "\x1b[2Jhi"] :=
      whole.trans messages
    rw [read] at split
    exact (List.cons.inj split).2
  refine ⟨read, rest ▸ left, (alone others rfl).2, fun once => ?_⟩
  have late : "late" ∈ texts (turns before) during := (origin "late").mpr once
  rw [messages] at late
  exact absurd late (by decide)

end Course

end Session

end HostWatch
