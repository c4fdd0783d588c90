import HostWatch.Proofs.Watch.Twins

namespace HostWatch

namespace Script

/-- After how long the host replies to its question about a topic, when `k` others have been asked
about it: the last delay is repeated, and a host that has no reply at all sends that at once. -/
def delay (s : Script) (k : Nat) (topic : Topic) : Nat :=
  let rs := s.replies topic
  rs[min k (rs.length - 1)]?.elim 0 (·.delay)

/-- The longest delay of the replies that are `k`th about their topics. -/
def slowest (s : Script) (k : Nat) : Nat := (Topic.all.map (s.delay k)).foldr max 0

theorem delay_le_slowest (s : Script) (k : Nat) (topic : Topic) : s.delay k topic ≤ s.slowest k := by
  cases topic <;> simp only [slowest, Topic.all, List.map_cons, List.map_nil, List.foldr_cons,
    List.foldr_nil] <;> omega

theorem slowest_le {s : Script} {k bound : Nat} (h : ∀ topic, s.delay k topic ≤ bound) :
    s.slowest k ≤ bound := by
  have cpu := h .cpu
  have memory := h .memory
  have processes := h .processes
  have outside := h .outside
  simp only [slowest, Topic.all, List.map_cons, List.map_nil, List.foldr_cons, List.foldr_nil]
  omega

theorem delay_zero (s : Script) (topic : Topic) :
    s.delay 0 topic = (next (s.replies topic)).1.delay := by
  unfold delay
  match s.replies topic with
  | [] => rfl
  | [_] => rfl
  | _ :: _ :: _ => rfl

theorem delay_drop (s : Script) (about topic : Topic) (k : Nat) :
    (s.drop about).delay k topic = s.delay (k + if topic = about then 1 else 0) topic := by
  unfold delay
  rw [replies_drop]
  split
  next eq =>
    subst eq
    match s.replies topic with
    | [] => rfl
    | [r] => simp [next]
    | r :: r' :: rs =>
      have places : min (k + 1) (rs.length + 1) = min k rs.length + 1 := by omega
      simp [next, places]
  next => rfl

theorem delay_dropKill (s : Script) (topic : Topic) (k : Nat) :
    s.dropKill.delay k topic = s.delay k topic := by
  cases topic <;> rfl

end Script

/-- What settles when the rounds of a run begin: how long its loop rests, what its host replies, and
when the loop begins. -/
structure Timetable where
  interval : Interval
  script : Script
  begins : Nat

namespace Timetable

/-- When a round begins, the first one being the `0`th: the second one as soon as all of the first
has arrived, and every other one an interval after all of the round before has arrived. -/
def round (tt : Timetable) : Nat → Nat
  | 0 => tt.begins
  | 1 => tt.begins + tt.script.slowest 0
  | k + 2 => tt.round (k + 1) + tt.script.slowest (k + 1) + tt.interval.millis

variable (tt : Timetable)

theorem arrived_le_round (k : Nat) : tt.round k + tt.script.slowest k ≤ tt.round (k + 1) := by
  match k with
  | 0 => exact Nat.le_refl _
  | k + 1 => exact Nat.le_add_right _ _

theorem round_mono {k k' : Nat} (le : k ≤ k') : tt.round k ≤ tt.round k' := by
  induction le with
  | refl => exact Nat.le_refl _
  | @step k' _ ih =>
    have next := tt.arrived_le_round k'
    exact Nat.le_trans ih (Nat.le_trans (Nat.le_add_right _ _) next)

theorem begins_le_round (k : Nat) : tt.begins + k * tt.interval.millis ≤ tt.round (k + 1) := by
  induction k with
  | zero => simp [round]
  | succ k ih =>
    rw [round, Nat.succ_mul]
    omega

end Timetable

end HostWatch
