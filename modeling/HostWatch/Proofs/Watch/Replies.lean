import HostWatch.Watch.Telemetry
import Mathlib.Data.List.Induction

namespace HostWatch

open Number (Single)

/-- What a facet shows after some replies: nothing yet, or the last one. -/
def Facet.ofReplies {α : Type} (rs : List (Except Error α)) : Facet α :=
  match rs.getLast? with
  | none => .loading
  | some (.ok v) => .success v
  | some (.error e) => .failed ("Error: " ++ e.message)

def successes {α : Type} (rs : List (Except Error α)) : List α := rs.filterMap Except.toOption

/-- The load that the last of some snapshots shows against the one before it, if there is one. -/
def lastLoad (cs : List Counters) : Option Single :=
  cs.getLast?.map (·.load cs.dropLast.getLast?)

abbrev Replies := (topic : Topic) → List (Except Error topic.Report)

/-- The replies about memory. A report of no memory at all counts as a failure. -/
def Replies.ofMemory (rs : Replies) : List (Except Error MemoryReport) :=
  (rs .memory).map (·.bind Telemetry.withMemory)

def Telemetry.ofReplies (rs : Replies) : Telemetry where
  cpu := .ofReplies (rs .cpu)
  memory := .ofReplies rs.ofMemory
  processes := .ofReplies (rs .processes)
  outside := .ofReplies (rs .outside)
  cpuPercent := lastLoad ((successes (rs .cpu)).map (·.full))
  cpuTemperature := (successes (rs .cpu)).getLast?.bind (·.temperature)
  outsideTemperature := (successes (rs .outside)).getLast?
  memoryPercent := (successes rs.ofMemory).getLast?.map (·.usedShare.percent)
  memoryUse := (successes rs.ofMemory).getLast?.map (·.usedAndTotal)
  lastCounters := ((successes (rs .cpu)).map (·.full)).getLast?

/-- What a run hears from its host: a reply, or that it has agreed to kill a process. -/
inductive Note where
  | reply (topic : Topic) (reply : Except Error topic.Report)
  | killed (pid : UInt32)

namespace Note

def about : (topic : Topic) → Note → Option (Except Error topic.Report)
  | .cpu, .reply .cpu r => some r
  | .memory, .reply .memory r => some r
  | .processes, .reply .processes r => some r
  | .outside, .reply .outside r => some r
  | _, _ => none

def killing (pids : List UInt32) : Note → List UInt32
  | .killed pid => insertAscending pid pids
  | .reply .processes (.ok ps) => pids.filter ps.lists
  | .reply _ _ => pids

end Note

def repliesIn (notes : List Note) : Replies := fun topic => notes.filterMap (Note.about topic)

def Telemetry.ofNotes (notes : List Note) : Telemetry :=
  { ofReplies (repliesIn notes) with killing := notes.foldl Note.killing [] }

section Facet

variable {α : Type} (rs : List (Except Error α))

@[simp] theorem Facet.ofReplies_ok (v : α) : Facet.ofReplies (rs ++ [.ok v]) = .success v := by
  simp [Facet.ofReplies]

@[simp] theorem Facet.ofReplies_error (e : Error) :
    Facet.ofReplies (rs ++ [.error e]) = Telemetry.failure e := by
  simp [Facet.ofReplies, Telemetry.failure]

@[simp] theorem successes_ok (v : α) : successes (rs ++ [.ok v]) = successes rs ++ [v] := by
  simp [successes, Except.toOption]

@[simp] theorem successes_error (e : Error) : successes (rs ++ [.error e]) = successes rs := by
  simp [successes, Except.toOption]

end Facet

@[simp] theorem lastLoad_append (cs : List Counters) (c : Counters) :
    lastLoad (cs ++ [c]) = some (c.load cs.getLast?) := by
  simp [lastLoad]

@[simp] theorem repliesIn_same (notes : List Note) (topic : Topic) (r : Except Error topic.Report) :
    repliesIn (notes ++ [.reply topic r]) topic = repliesIn notes topic ++ [r] := by
  unfold repliesIn
  rw [List.filterMap_append]
  cases topic <;> rfl

theorem repliesIn_other (notes : List Note) {topic other : Topic} (h : other ≠ topic)
    (r : Except Error topic.Report) :
    repliesIn (notes ++ [.reply topic r]) other = repliesIn notes other := by
  unfold repliesIn
  rw [List.filterMap_append]
  cases topic <;> cases other <;> first | exact absurd rfl h | exact List.append_nil _

@[simp] theorem repliesIn_killed (notes : List Note) (pid : UInt32) :
    repliesIn (notes ++ [.killed pid]) = repliesIn notes := by
  funext topic
  unfold repliesIn
  rw [List.filterMap_append]
  cases topic <;> exact List.append_nil _

namespace Telemetry

theorem ofNotes_reply (notes : List Note) (topic : Topic) (r : Except Error topic.Report) :
    ofNotes (notes ++ [.reply topic r]) = (ofNotes notes).take topic r := by
  have other {t : Topic} (h : t ≠ topic) := repliesIn_other notes h r
  cases topic with
  | cpu =>
    cases r <;> simp [ofNotes, ofReplies, Replies.ofMemory, other, Note.killing, take, takeCpu]
  | memory =>
    have same : Note.killing (notes.foldl Note.killing []) (.reply .memory r) =
      notes.foldl Note.killing [] := rfl
    cases h : r.bind withMemory <;>
      simp [ofNotes, ofReplies, Replies.ofMemory, other, same, take, takeMemory, h]
  | processes =>
    cases r <;>
      simp [ofNotes, ofReplies, Replies.ofMemory, other, Note.killing, take, takeProcesses]
  | outside =>
    cases r <;> simp [ofNotes, ofReplies, Replies.ofMemory, other, Note.killing, take, takeOutside]

theorem ofNotes_killed (notes : List Note) (pid : UInt32) :
    ofNotes (notes ++ [.killed pid]) = (ofNotes notes).takeKill pid := by
  simp [ofNotes, Note.killing, takeKill]

theorem await_ofNotes {notes : List Note} (none : ∀ topic, repliesIn notes topic = [])
    (topic : Topic) : (ofNotes notes).await topic = ofNotes notes := by
  cases topic <;> simp [ofNotes, ofReplies, Replies.ofMemory, none, await, Facet.ofReplies]

/-- What is known, apart from the generation and the target, comes from some notes. -/
def ComesFrom (t : Telemetry) (notes : List Note) : Prop :=
  t = { ofNotes notes with generation := t.generation, target := t.target }

theorem comesFrom_nil (g : Nat) (target : Target) : (fresh g target).ComesFrom [] := rfl

section Change

variable {t : Telemetry} {notes : List Note}

theorem ComesFrom.unique {t' : Telemetry} (h : t.ComesFrom notes) (h' : t'.ComesFrom notes)
    (generation : t'.generation = t.generation) (target : t'.target = t.target) : t' = t := by
  rw [h, h', generation, target]

theorem ComesFrom.take (h : t.ComesFrom notes) (topic : Topic) (r : Except Error topic.Report) :
    (t.take topic r).ComesFrom (notes ++ [.reply topic r]) := by
  unfold ComesFrom
  rw [ofNotes_reply, h]
  cases topic with
  | memory =>
    simp only [Telemetry.take, takeMemory]
    cases r.bind withMemory <;> rfl
  | _ => cases r <;> rfl

theorem ComesFrom.takeKill (h : t.ComesFrom notes) (pid : UInt32) :
    (t.takeKill pid).ComesFrom (notes ++ [.killed pid]) := by
  unfold ComesFrom
  rw [ofNotes_killed, h]
  rfl

theorem ComesFrom.await (h : t.ComesFrom notes) (none : ∀ topic, repliesIn notes topic = [])
    (topic : Topic) : (t.await topic).ComesFrom notes := by
  unfold ComesFrom
  rw [h]
  nth_rewrite 2 [← await_ofNotes none topic]
  cases topic <;> rfl

end Change

end Telemetry

end HostWatch
