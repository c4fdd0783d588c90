import HostWatch.Console.Arguments
import HostWatch.Proofs.Number.Naturals
import Mathlib.Data.List.Perm.Basic
import Mathlib.Data.List.Nodup

namespace HostWatch.Arguments

/-- What a command line can ask for. -/
inductive Part where
  | address (text : String)
  | target (index : Nat)
  | add (text : String)
  | interval (seconds : Nat)
  | terminal
  | demo
  | dryRun
  deriving DecidableEq, Repr

namespace Part

/-- The words that write a part. An address does not begin like an option, and a number fits a
word; a host that is made known is taken as it is where it stands alone. -/
inductive Spelled : Part → List String → Prop
  | address {text : String} : text.toList.head? ≠ some '-' → Spelled (.address text) [text]
  | target {option v : String} {n : Nat} : option ∈ ["--target", "-T"] → Number.Spells n v →
      n ≤ Number.maxWord64 → Spelled (.target n) [option, v]
  | targetJoined {v : String} {n : Nat} : Number.Spells n v → n ≤ Number.maxWord64 →
      Spelled (.target n) ["--target=" ++ v]
  | add (text : String) : Spelled (.add text) ["--add", text]
  | addJoined {text : String} : text ≠ "" → Spelled (.add text) ["--add=" ++ text]
  | interval {option v : String} {n : Nat} : option ∈ ["--interval", "-i"] → Number.Spells n v →
      n ≤ Number.maxWord64 → Spelled (.interval n) [option, v]
  | intervalJoined {v : String} {n : Nat} : Number.Spells n v → n ≤ Number.maxWord64 →
      Spelled (.interval n) ["--interval=" ++ v]
  | terminal : Spelled .terminal ["--terminal"]
  | demo : Spelled .demo ["--demo"]
  | dryRun : Spelled .dryRun ["--dry-run"]

def Writable : Part → Prop
  | .address text => text.toList.head? ≠ some '-'
  | .target n | .interval n => n ≤ Number.maxWord64
  | _ => True

theorem writable_iff (part : Part) : part.Writable ↔ ∃ words, part.Spelled words := by
  constructor
  · intro writable
    cases part with
    | address text => exact ⟨_, .address writable⟩
    | target n => exact ⟨_, .targetJoined (Number.spells_toString n) writable⟩
    | add text => exact ⟨_, .add text⟩
    | interval n => exact ⟨_, .intervalJoined (Number.spells_toString n) writable⟩
    | terminal => exact ⟨_, .terminal⟩
    | demo => exact ⟨_, .demo⟩
    | dryRun => exact ⟨_, .dryRun⟩
  · rintro ⟨words, spelled⟩
    cases spelled <;> first | assumption | exact trivial

end Part

def put (a : Arguments) : Part → Arguments
  | .address text => { a with address := some text }
  | .target n => { a with target := some n }
  | .add text => { a with add := some text }
  | .interval n => { a with interval := some n }
  | .terminal => { a with terminal := true }
  | .demo => { a with demo := true }
  | .dryRun => { a with dryRun := true }

def parts (a : Arguments) : List Part :=
  [a.address.map .address, a.target.map .target, a.add.map .add, a.interval.map .interval,
    Option.guard (fun _ => a.terminal) .terminal, Option.guard (fun _ => a.demo) .demo,
    Option.guard (fun _ => a.dryRun) .dryRun].filterMap id

section Reading

variable {program : String} {a : Arguments} {rest : List String} {n : Nat} {v : String}

theorem number_eq_ok (option : String) (spells : Number.Spells n v) (fits : n ≤ Number.maxWord64) :
    number option v = .ok n := by
  unfold number
  rw [Number.natural?_eq_some.mpr ⟨spells, fits⟩]

theorem after?_append (start v : String) : after? start (start ++ v) = some v := by
  have begins : start.toList.isPrefixOf (start ++ v).toList = true := by
    rw [List.isPrefixOf_iff_prefix, String.toList_append]
    exact List.prefix_append _ _
  rw [after?, if_pos begins, String.toList_append, List.drop_left, String.ofList_toList]

/-- A word that begins otherwise is not the beginning with something behind it. -/
theorem append_ne {start word : String} (v : String) (other : after? start word = none) :
    start ++ v ≠ word := by
  rintro rfl
  rw [after?_append] at other
  cases other

/-- What begins with a dash is nowhere to be found at the beginning of a text without one. -/
theorem after?_of_plain {start text : String} (dash : start.toList.head? = some '-')
    (plain : text.toList.head? ≠ some '-') : after? start text = none := by
  obtain ⟨tail, eq⟩ := List.head?_eq_some_iff.mp dash
  unfold after?
  rw [if_neg]
  intro begins
  obtain ⟨more, same⟩ := List.isPrefixOf_iff_prefix.mp begins
  rw [eq] at same
  exact plain (by rw [← same]; rfl)

theorem not_mem_of_plain {text : String} {options : List String}
    (plain : text.toList.head? ≠ some '-')
    (dashes : ∀ option ∈ options, option.toList.head? = some '-') : text ∉ options :=
  fun mem => plain (dashes text mem)

def openOptions : List String := ["--target", "-T", "--interval", "-i", "--add"]

def flags : List String := ["-h", "--help", "--terminal", "--demo", "--dry-run"]

theorem takeAll_alone {arg : String} (alone : arg ∉ openOptions) :
    takeAll program a (arg :: rest) = (single program a arg).bind (takeAll program · rest) := by
  simp only [openOptions, List.mem_cons, List.not_mem_nil, or_false, not_or] at alone
  obtain ⟨target, target', interval, interval', add⟩ := alone
  rw [takeAll.eq_def]
  simp only [target, target', interval, interval', add, or_self, if_false]
  rfl

theorem ne_flags {arg : String} (unflagged : arg ∉ flags) :
    arg ≠ "-h" ∧ arg ≠ "--help" ∧ arg ≠ "--terminal" ∧ arg ≠ "--demo" ∧ arg ≠ "--dry-run" := by
  simpa [flags] using unflagged

theorem single_address {text : String} (plain : text.toList.head? ≠ some '-')
    (free : a.address = none) : single program a text = .ok (a.put (.address text)) := by
  obtain ⟨help, help', terminal, demo, dryRun⟩ := ne_flags (not_mem_of_plain plain (by decide))
  have target : after? "--target=" text = none := after?_of_plain rfl plain
  have interval : after? "--interval=" text = none := after?_of_plain rfl plain
  have add : after? "--add=" text = none := after?_of_plain rfl plain
  have dash : after? "-" text = none := after?_of_plain rfl plain
  simp only [single, help, help', terminal, demo, dryRun, or_self, if_false, target, interval, add,
    dash, free, Option.isSome_none, Bool.false_eq_true, put]

/-- A text that goes on behind a beginning is none of some words that do not begin so. -/
theorem append_not_mem (start v : String) {words : List String}
    (others : ∀ word ∈ words, after? start word = none) : start ++ v ∉ words :=
  fun mem => append_ne v (others _ mem) rfl

theorem single_target (spells : Number.Spells n v) (fits : n ≤ Number.maxWord64) :
    single program a ("--target=" ++ v) = .ok (a.put (.target n)) := by
  obtain ⟨help, help', terminal, demo, dryRun⟩ :=
    ne_flags (append_not_mem "--target=" v (by decide))
  simp only [single, help, help', terminal, demo, dryRun, or_self, if_false,
    after?_append "--target=", number_eq_ok "--target" spells fits]
  rfl

theorem single_interval (spells : Number.Spells n v) (fits : n ≤ Number.maxWord64) :
    single program a ("--interval=" ++ v) = .ok (a.put (.interval n)) := by
  obtain ⟨help, help', terminal, demo, dryRun⟩ :=
    ne_flags (append_not_mem "--interval=" v (by decide))
  have target : after? "--target=" ("--interval=" ++ v) = none := by simp [after?]
  simp only [single, help, help', terminal, demo, dryRun, or_self, if_false, target,
    after?_append "--interval=", number_eq_ok "--interval" spells fits]
  rfl

theorem single_add {text : String} (filled : text ≠ "") :
    single program a ("--add=" ++ text) = .ok (a.put (.add text)) := by
  obtain ⟨help, help', terminal, demo, dryRun⟩ :=
    ne_flags (append_not_mem "--add=" text (by decide))
  have target : after? "--target=" ("--add=" ++ text) = none := by simp [after?]
  have interval : after? "--interval=" ("--add=" ++ text) = none := by simp [after?]
  simp only [single, help, help', terminal, demo, dryRun, or_self, if_false, target, interval,
    after?_append "--add=", String.isEmpty_iff, filled, put]

theorem takeAll_target {option : String} (known : option ∈ ["--target", "-T"])
    (spells : Number.Spells n v) (fits : n ≤ Number.maxWord64) :
    takeAll program a (option :: v :: rest) = takeAll program (a.put (.target n)) rest := by
  have chosen : option = "--target" ∨ option = "-T" := by simpa using known
  rw [takeAll, if_pos chosen, number_eq_ok option spells fits]
  rfl

theorem takeAll_interval {option : String} (known : option ∈ ["--interval", "-i"])
    (spells : Number.Spells n v) (fits : n ≤ Number.maxWord64) :
    takeAll program a (option :: v :: rest) = takeAll program (a.put (.interval n)) rest := by
  have chosen : option = "--interval" ∨ option = "-i" := by simpa using known
  have other : ¬ (option = "--target" ∨ option = "-T") := by
    rcases chosen with rfl | rfl <;> decide
  rw [takeAll, if_neg other, if_pos chosen, number_eq_ok option spells fits]
  rfl

/-- What follows the option is taken as it is, even where it looks like an option. -/
theorem takeAll_add (text : String) :
    takeAll program a ("--add" :: text :: rest) = takeAll program (a.put (.add text)) rest := by
  simp [takeAll, put]

/-- The words that write a part enter it, unless a second address is to be entered. -/
theorem takeAll_spelled {part : Part} {words : List String} (spelled : part.Spelled words)
    (free : ∀ text, part = .address text → a.address = none) :
    takeAll program a (words ++ rest) = takeAll program (a.put part) rest := by
  have alone {arg : String} {b : Arguments} (closed : arg ∉ openOptions)
      (taken : single program a arg = .ok b) :
      takeAll program a (arg :: rest) = takeAll program b rest := by
    rw [takeAll_alone closed, taken]
    rfl
  cases spelled with
  | address plain =>
    exact alone (not_mem_of_plain plain (by decide)) (single_address plain (free _ rfl))
  | target known spells fits => exact takeAll_target known spells fits
  | targetJoined spells fits =>
    exact alone (append_not_mem "--target=" _ (by decide)) (single_target spells fits)
  | add text => exact takeAll_add text
  | addJoined filled =>
    exact alone (append_not_mem "--add=" _ (by decide)) (single_add filled)
  | interval known spells fits => exact takeAll_interval known spells fits
  | intervalJoined spells fits =>
    exact alone (append_not_mem "--interval=" _ (by decide))
      (single_interval spells fits)
  | terminal => exact alone (by decide) rfl
  | demo => exact alone (by decide) rfl
  | dryRun => exact alone (by decide) rfl

/-- A line that writes parts of different kinds enters them from the left, whatever follows it. -/
theorem takeAll_flatten {parts : List Part} {pieces : List (List String)}
    (spelled : List.Forall₂ Part.Spelled parts pieces) (apart : (parts.map Part.ctorIdx).Nodup)
    (free : ∀ text, .address text ∈ parts → a.address = none) :
    takeAll program a (pieces.flatten ++ rest) = takeAll program (parts.foldl put a) rest := by
  induction spelled generalizing a with
  | nil => rfl
  | @cons part words parts pieces first later ih =>
    obtain ⟨new, apart⟩ := List.nodup_cons.mp apart
    rw [List.flatten_cons, List.append_assoc, List.foldl_cons, takeAll_spelled first]
    · refine ih apart fun text mem => ?_
      -- the first part is no address, since it is of another kind than this one
      have kept : (a.put part).address = a.address := by
        cases part with
        | address other => exact absurd (List.mem_map_of_mem mem) new
        | _ => rfl
      exact kept.trans (free text (List.mem_cons_of_mem _ mem))
    · rintro text rfl
      exact free text List.mem_cons_self

end Reading

section Order

variable {a : Arguments}

theorem put_comm {x y : Part} (apart : x.ctorIdx ≠ y.ctorIdx) :
    (a.put x).put y = (a.put y).put x := by
  cases x <;> cases y <;> first | rfl | exact absurd rfl apart

theorem foldl_put_perm {order parts : List Part} (perm : order.Perm parts)
    (apart : (order.map Part.ctorIdx).Nodup) : order.foldl put a = parts.foldl put a := by
  refine perm.foldl_eq' (fun x memx y memy b => ?_) a
  by_cases same : x = y
  · rw [same]
  · exact put_comm fun kind => same (List.inj_on_of_nodup_map apart memx memy kind)

theorem parts_apart (a : Arguments) : (a.parts.map Part.ctorIdx).Nodup := by
  unfold parts
  rw [List.Nodup, List.pairwise_map, List.pairwise_filterMap]
  simp [Part.ctorIdx, Option.guard]

theorem foldl_put_parts (a : Arguments) : a.parts.foldl put {} = a := by
  obtain ⟨address, target, add, interval, terminal, demo, dryRun⟩ := a
  cases address <;> cases target <;> cases add <;> cases interval <;> cases terminal <;>
    cases demo <;> cases dryRun <;> rfl

end Order

/-- The ways of writing a part come to the same wherever an argument begins, also where a second
address is refused. -/
theorem takeAll_spellings {program : String} {a : Arguments} {part : Part}
    {words words' : List String} (spelled : part.Spelled words) (spelled' : part.Spelled words')
    (rest : List String) :
    takeAll program a (words ++ rest) = takeAll program a (words' ++ rest) := by
  cases part with
  | address text =>
    cases spelled
    cases spelled'
    rfl
  | _ => rw [takeAll_spelled spelled (by simp), takeAll_spelled spelled' (by simp)]

theorem exists_pieces {order : List Part} (writable : ∀ part ∈ order, part.Writable) :
    ∃ pieces, List.Forall₂ Part.Spelled order pieces := by
  induction order with
  | nil => exact ⟨[], .nil⟩
  | cons part order ih =>
    obtain ⟨can, others⟩ := List.forall_mem_cons.mp writable
    obtain ⟨words, first⟩ := part.writable_iff.mp can
    obtain ⟨pieces, later⟩ := ih others
    exact ⟨words :: pieces, .cons first later⟩

/-- Arguments are read back from every line that spells their parts, in any order and each part in
any of its ways. -/
theorem arguments_read_back (program : String) {a : Arguments}
    (writable : ∀ part ∈ a.parts, part.Writable) {order : List Part} (perm : order.Perm a.parts) :
    (∃ pieces, List.Forall₂ Part.Spelled order pieces) ∧
      (∀ pieces, List.Forall₂ Part.Spelled order pieces →
        parse (program :: pieces.flatten) = .ok a) ∧
      (∀ (b : Arguments) (part : Part) (words words' rest : List String),
        part.Spelled words → part.Spelled words' →
          takeAll program b (words ++ rest) = takeAll program b (words' ++ rest)) ∧
      ∀ (b : Arguments) (text : String) (rest : List String),
        takeAll program b ("--add" :: text :: rest) =
          takeAll program { b with add := some text } rest := by
  have apart : (order.map Part.ctorIdx).Nodup := (perm.map _).nodup_iff.mpr a.parts_apart
  refine ⟨?_, fun pieces spelled => ?_, fun b part words words' rest spelled spelled' =>
    takeAll_spellings spelled spelled' rest, fun b text rest => takeAll_add text⟩
  · exact exists_pieces fun part mem => writable part (perm.mem_iff.mp mem)
  · have entered : takeAll program {} (pieces.flatten ++ []) =
        takeAll program (order.foldl put {}) [] := takeAll_flatten spelled apart (by simp)
    rw [List.append_nil, foldl_put_perm perm apart, foldl_put_parts] at entered
    exact entered

/-- A host that looks like an option is made known, a number has a plus sign and a zero before it,
and the address stands in the middle. -/
theorem reads_odd_command_line :
    let a : Arguments :=
      { address := some "pi.local:8080", target := some 2, add := some "--target=",
        interval := some 7, dryRun := true }
    let order : List Part :=
      [.interval 7, .address "pi.local:8080", .add "--target=", .dryRun, .target 2]
    (∀ part ∈ a.parts, part.Writable) ∧ order.Perm a.parts ∧
      parse ["pimon", "--interval=+07", "pi.local:8080", "--add", "--target=", "--dry-run", "-T",
        "2"] = .ok a := by
  intro a order
  have writable : ∀ part ∈ a.parts, part.Writable := by
    intro part mem
    have cases : part = .address "pi.local:8080" ∨ part = .target 2 ∨ part = .add "--target=" ∨
        part = .interval 7 ∨ part = .dryRun := by simpa [a, parts, Option.guard] using mem
    rcases cases with rfl | rfl | rfl | rfl | rfl <;> simp [Part.Writable, Number.maxWord64]
  have perm : order.Perm a.parts := by decide
  have spelled : List.Forall₂ Part.Spelled order
      [["--interval=" ++ "+07"], ["pi.local:8080"], ["--add", "--target="], ["--dry-run"],
        ["-T", "2"]] :=
    .cons (.intervalJoined ⟨['0', '7'], by decide, by simp, by decide, by decide⟩ (by decide)) <|
    .cons (.address (by decide)) <| .cons (.add _) <| .cons .dryRun <|
    .cons (.target (by decide) ⟨['2'], by decide, by simp, by decide, by decide⟩ (by decide)) .nil
  exact ⟨writable, perm, (arguments_read_back "pimon" writable perm).2.1 _ spelled⟩

end HostWatch.Arguments
