import HostWatch.Address.Host
import Mathlib.Data.List.Forall2
import Mathlib.Data.Option.Basic

namespace HostWatch.Address

theorem mapM_eq_some {α β : Type} {f : α → Option β} {as : List α} {bs : List β} :
    as.mapM f = some bs ↔ List.Forall₂ (fun a b => f a = some b) as bs := by
  induction as generalizing bs with
  | nil => simp [eq_comm]
  | cons a as ih =>
    rw [List.mapM_cons, List.forall₂_cons_left_iff]
    simp only [Option.bind_eq_bind, Option.bind_eq_some_iff, Option.pure_def, Option.some.injEq, ih]
    constructor
    · rintro ⟨b, first, bs', rest, rfl⟩
      exact ⟨b, bs', first, rest, rfl⟩
    · rintro ⟨b, bs', first, rest, rfl⟩
      exact ⟨b, first, bs', rest, rfl⟩

theorem related_of_mem_left {α β : Type} {R : α → β → Prop} {as : List α} {bs : List β}
    (related : List.Forall₂ R as bs) {a : α} (mem : a ∈ as) : ∃ b ∈ bs, R a b := by
  induction related with
  | nil => cases mem
  | @cons a' b as bs h _ ih =>
    rcases List.mem_cons.mp mem with rfl | mem
    · exact ⟨b, List.mem_cons_self, h⟩
    · obtain ⟨b', mem, h⟩ := ih mem
      exact ⟨b', List.mem_cons_of_mem b mem, h⟩

theorem related_of_mem_right {α β : Type} {R : α → β → Prop} {as : List α} {bs : List β}
    (related : List.Forall₂ R as bs) {b : β} (mem : b ∈ bs) : ∃ a ∈ as, R a b :=
  related_of_mem_left related.flip mem

theorem mem_intercalate {sep c : Char} {parts : List (List Char)}
    (mem : c ∈ List.intercalate [sep] parts) : c = sep ∨ ∃ part ∈ parts, c ∈ part := by
  induction parts with
  | nil => cases mem
  | cons part parts ih =>
    cases parts with
    | nil => exact Or.inr ⟨part, List.mem_singleton_self part, by simpa using mem⟩
    | cons next parts =>
      rw [List.intercalate_cons_cons, List.mem_append, List.mem_append] at mem
      rcases mem with (mem | mem) | mem
      · exact Or.inr ⟨part, List.mem_cons_self, mem⟩
      · exact Or.inl (List.mem_singleton.mp mem)
      · refine (ih mem).imp_right fun ⟨other, listed, mem⟩ => ?_
        exact ⟨other, List.mem_cons_of_mem _ listed, mem⟩

theorem intercalate_cons (sep part : List Char) (parts : List (List Char)) :
    ∃ more, List.intercalate sep (part :: parts) = part ++ more := by
  cases parts with
  | nil => exact ⟨[], by simp⟩
  | cons next parts =>
    exact ⟨_, by rw [List.intercalate_cons_cons, List.append_assoc]⟩

/-- Reading digits one after another gives the number that was written with them. -/
theorem foldlM_toDigits {base : Nat} {f : Nat → Char → Option Nat} (large : 1 < base)
    (digit : ∀ n d, d < base → f n d.digitChar = some (n * base + d)) (n : Nat) :
    (Nat.toDigits base n).foldlM f 0 = some n := by
  induction n using Nat.strongRecOn with
  | ind n ih =>
    rcases Nat.lt_or_ge n base with small | more
    · rw [Nat.toDigits_of_lt_base small]
      simp [digit 0 n small]
    · have less : n / base < n := Nat.div_lt_self (by omega) large
      rw [Nat.toDigits_of_base_le large more, List.foldlM_append, ih _ less]
      simp [digit _ _ (Nat.mod_lt n (show 0 < base by omega)), Nat.div_add_mod']

theorem mem_toDigits {base n : Nat} {c : Char} (large : 1 < base) (mem : c ∈ Nat.toDigits base n) :
    ∃ d < base, c = d.digitChar := by
  induction n using Nat.strongRecOn with
  | ind n ih =>
    rcases Nat.lt_or_ge n base with small | more
    · rw [Nat.toDigits_of_lt_base small] at mem
      exact ⟨n, small, List.mem_singleton.mp mem⟩
    · have less : n / base < n := Nat.div_lt_self (by omega) large
      rw [Nat.toDigits_of_base_le large more] at mem
      rcases List.mem_append.mp mem with mem | mem
      · exact ih _ less mem
      · exact ⟨n % base, Nat.mod_lt n (by omega), List.mem_singleton.mp mem⟩

theorem hexDigit?_digitChar {d : Nat} (h : d < 16) : Number.hexDigit? d.digitChar = some d := by
  have all : ∀ d < 16, Number.hexDigit? (Nat.digitChar d) = some d := by decide
  exact all d h

namespace Ipv4

theorem cut_eq_splitOn (sep : Char) (cs : List Char) : cut sep cs = cs.splitOn sep := by
  induction cs with
  | nil => rfl
  | cons c cs ih =>
    rw [List.splitOn_cons_eq_if_modifyHead, cut, ih]
    simp only [beq_iff_eq]
    split
    · rfl
    · have some_ := List.splitOn_ne_nil sep cs
      cases same : cs.splitOn sep with
      | nil => exact absurd same some_
      | cons part parts => rfl

def bytes (address : UInt32) : List Nat :=
  let n := address.toNat
  [n / weight 3, n / weight 2 % 256, n / weight 1 % 256, n % 256]

theorem toList_text (address : UInt32) :
    (text address).toList = List.intercalate ['.'] ((bytes address).map (Nat.toDigits 10)) := by
  unfold text bytes
  rw [String.toList_intercalate, List.map_map]
  congr 1
  refine List.map_congr_left fun n _ => ?_
  rw [Function.comp_apply, Nat.toString_eq_ofList_toDigits, String.toList_ofList]

theorem bytes_lt {address : UInt32} {n : Nat} (mem : n ∈ bytes address) : n < 256 := by
  have top : address.toNat < 4294967296 := address.toNat_lt
  have weights : weight 3 = 16777216 ∧ weight 2 = 65536 ∧ weight 1 = 256 := by decide
  simp only [bytes, weights, List.mem_cons, List.not_mem_nil, or_false] at mem
  omega

theorem number?_toDigits {n : Nat} (small : n < 256) : number? (Nat.toDigits 10 n) = some n := by
  have all : ∀ n < 256, number? (Nat.toDigits 10 n) = some n := by decide +kernel
  exact all n small

theorem mem_text {address : UInt32} {c : Char} (mem : c ∈ (text address).toList) :
    c = '.' ∨ ∃ d < 10, c = Nat.digitChar d := by
  rw [toList_text] at mem
  refine (mem_intercalate mem).imp_right fun ⟨part, listed, mem⟩ => ?_
  obtain ⟨n, -, rfl⟩ := List.mem_map.mp listed
  exact mem_toDigits (by decide) mem

theorem parts_text (address : UInt32) :
    parts (text address).toList = (bytes address).map (Nat.toDigits 10) := by
  have plain : ∀ part ∈ (bytes address).map (Nat.toDigits 10), '.' ∉ part := by
    intro part mem dot
    obtain ⟨n, -, rfl⟩ := List.mem_map.mp mem
    have digit := Nat.isDigit_of_mem_toDigits (by decide) (by decide) dot
    cases digit
  have parts_ := List.splitOn_intercalate '.' plain (by simp [bytes])
  unfold parts
  rw [cut_eq_splitOn, toList_text, parts_]
  simp [bytes]

theorem endsInNumber_text (address : UInt32) : endsInNumber (text address).toList := by
  have last : number? (Nat.toDigits 10 (address.toNat % 256)) = some (address.toNat % 256) :=
    number?_toDigits (Nat.mod_lt _ (by decide))
  simp [endsInNumber, parts_text, bytes, last]

theorem ofName?_text (address : UInt32) : ofName? (text address).toList = some address := by
  have top : address.toNat < 4294967296 := address.toNat_lt
  have weights : weight 3 = 16777216 ∧ weight 2 = 65536 ∧ weight 1 = 256 := by decide
  have numbers : ((bytes address).map (Nat.toDigits 10)).mapM number? = some (bytes address) := by
    rw [mapM_eq_some, List.forall₂_map_left_iff, List.forall₂_same]
    exact fun n mem => number?_toDigits (bytes_lt mem)
  have sum : ((address.toNat / weight 3 * 256 + address.toNat / weight 2 % 256) * 256 +
      address.toNat / weight 1 % 256) * weight 1 + address.toNat % 256 = address.toNat := by
    simp only [weights]
    omega
  obtain ⟨first, second, third, last⟩ : address.toNat / weight 3 ≤ 255 ∧
      address.toNat / weight 2 % 256 ≤ 255 ∧ address.toNat / weight 1 % 256 ≤ 255 ∧
      address.toNat % 256 < weight 1 := by
    simp only [weights]
    omega
  unfold ofName?
  rw [parts_text, numbers]
  have whole := congrArg UInt32.ofNat sum
  rw [UInt32.ofNat_toNat] at whole
  simp [bytes, guard, first, second, third, last, whole, -UInt32.ofNat_add, -UInt32.ofNat_mul]

end Ipv4

namespace Ipv6

def hex (x : UInt16) : List Char := Nat.toDigits 16 x.toNat

theorem mem_hex {x : UInt16} {c : Char} (mem : c ∈ hex x) : c ≠ ':' ∧ c ≠ '.' ∧ c ≠ ']' := by
  have all : ∀ d < 16, Nat.digitChar d ≠ ':' ∧ Nat.digitChar d ≠ '.' ∧ Nat.digitChar d ≠ ']' := by
    decide
  obtain ⟨d, digit, rfl⟩ := mem_toDigits (by decide) mem
  exact all d digit

theorem toList_piecesText (xs : List UInt16) :
    (piecesText xs).toList = List.intercalate [':'] (xs.map hex) := by
  unfold piecesText
  rw [String.toList_intercalate, List.map_map]
  congr 1
  exact List.map_congr_left fun x _ => by simp [Number.lowerHex, hex]

theorem piece?_hex (x : UInt16) : piece? (hex x) = some x := by
  have read := foldlM_toDigits (f := fun n c => (Number.hexDigit? c).map (n * 16 + ·))
    (show 1 < 16 by decide) (fun n d digit => by simp [hexDigit?_digitChar digit]) x.toNat
  have some_ : hex x ≠ [] := Nat.toDigits_ne_nil
  have short : (hex x).length ≤ 4 :=
    (Nat.length_toDigits_le_iff (by decide) (by decide)).mpr x.toNat_lt
  have short' : ¬ 4 < (hex x).length := by omega
  have fits : ¬ ((hex x).isEmpty = true ∨ 4 < (hex x).length) := by simp [some_, short']
  rw [piece?, if_neg fits]
  unfold hex
  rw [read, Option.map_some, UInt16.ofNat_toNat]

theorem pieces?_hex (xs : List UInt16) : pieces? (xs.map hex) = some xs := by
  induction xs with
  | nil => rfl
  | cons x xs ih =>
    cases xs with
    | nil =>
      have plain : '.' ∉ hex x := fun mem => (mem_hex mem).2.1 rfl
      simp [pieces?, plain, piece?_hex]
    | cons y ys =>
      rw [List.map_cons] at ih
      simp [pieces?, piece?_hex, ih]

theorem parts_go (run cs : List Char) :
    parts.go run cs = cs.splitOnPPrepend (· == ':') run := by
  induction cs generalizing run with
  | nil => rfl
  | cons c cs ih =>
    rw [List.splitOnPPrepend_cons_eq_if, ← List.splitOnPPrepend_nil_right, ← ih, ← ih]
    by_cases colon : c = ':'
    · subst colon
      rfl
    · simp [parts.go, colon]

theorem parts_eq_splitOn {cs : List Char} (some_ : cs ≠ []) : parts cs = cs.splitOn ':' := by
  rw [parts, if_neg (by simpa using some_), parts_go]
  rfl

theorem parts_pieces (xs : List UInt16) :
    parts (List.intercalate [':'] (xs.map hex)) = xs.map hex := by
  cases xs with
  | nil => rfl
  | cons x xs =>
    have plain : ∀ part ∈ (x :: xs).map hex, ':' ∉ part := by
      intro part mem colon
      obtain ⟨y, -, rfl⟩ := List.mem_map.mp mem
      exact (mem_hex colon).1 rfl
    have some_ : List.intercalate [':'] ((x :: xs).map hex) ≠ [] := by
      have first : hex x ≠ [] := Nat.toDigits_ne_nil
      obtain ⟨more, begun⟩ := intercalate_cons [':'] (hex x) (xs.map hex)
      rw [List.map_cons, begun]
      exact List.append_ne_nil_of_left_ne_nil first more
    rw [parts_eq_splitOn some_, List.splitOn_intercalate ':' plain (by simp)]

theorem gap?_append {part : List Char} (plain : ':' ∉ part) (rest : List Char) :
    gap? (part ++ rest) = (gap? rest).map fun q => (part ++ q.1, q.2) := by
  induction part with
  | nil => simp
  | cons c part ih =>
    simp only [List.mem_cons, not_or] at plain
    rw [List.cons_append, gap?, ih plain.2, Option.map_map]
    · rfl
    · exact fun _ same => absurd same.symm plain.1

theorem gap?_pieces (xs : List UInt16) (rest : List Char) :
    gap? (List.intercalate [':'] (xs.map hex) ++ rest) =
      (gap? rest).map fun q => (List.intercalate [':'] (xs.map hex) ++ q.1, q.2) := by
  induction xs with
  | nil => simp
  | cons x xs ih =>
    have plain (x : UInt16) : ':' ∉ hex x := fun colon => (mem_hex colon).1 rfl
    cases xs with
    | nil => simpa using gap?_append (plain x) rest
    | cons y ys =>
      have first : hex y ≠ [] := Nat.toDigits_ne_nil
      obtain ⟨c, cs, digits⟩ := List.exists_cons_of_ne_nil first
      have other : c ≠ ':' := fun colon => plain y (by simp [digits, colon])
      have after (more : List Char) (start : ∃ ds, more = c :: ds) :
          gap? (':' :: more) = (gap? more).map fun q => (':' :: q.1, q.2) := by
        obtain ⟨ds, rfl⟩ := start
        rw [gap?]
        rintro ds' - same
        exact other (List.cons.inj same).1
      have start : ∃ ds, List.intercalate [':'] ((y :: ys).map hex) ++ rest = c :: ds := by
        obtain ⟨more, begun⟩ := intercalate_cons [':'] (hex y) (ys.map hex)
        exact ⟨cs ++ more ++ rest, by rw [List.map_cons, begun, digits]; simp⟩
      simp only [List.map_cons, List.intercalate_cons_cons, List.append_assoc] at ih start ⊢
      rw [gap?_append (plain x), List.singleton_append, after _ start, ih, Option.map_map,
        Option.map_map]
      rfl

theorem longestRun_le (xs : List UInt16) :
    (longestRun xs).2 ≤ zeros (xs.drop (longestRun xs).1) := by
  have fold (is : List Nat) (best : Nat × Nat) (h : best.2 ≤ zeros (xs.drop best.1)) :
      (is.foldl (fun best i => let n := zeros (xs.drop i); if best.2 < n then (i, n) else best)
        best).2 ≤ zeros (xs.drop (is.foldl (fun best i =>
          let n := zeros (xs.drop i); if best.2 < n then (i, n) else best) best).1) := by
    induction is generalizing best with
    | nil => exact h
    | cons i is ih =>
      refine ih _ ?_
      dsimp only
      split
      · exact Nat.le_refl _
      · exact h
  exact fold _ _ (Nat.zero_le _)

theorem eq_of_zeros {n : Nat} {xs : List UInt16} (run : n ≤ zeros xs) :
    xs = List.replicate n 0 ++ xs.drop n := by
  induction n generalizing xs with
  | zero => rfl
  | succ n ih =>
    cases xs with
    | nil => cases run
    | cons x xs =>
      have zero : x = 0 := by
        by_contra other
        simp [zeros, other] at run
      subst zero
      have others : n ≤ zeros xs := by simpa [zeros] using run
      rw [List.replicate_succ, List.cons_append, List.drop_succ_cons, ← ih others]

theorem ofText?_text {xs : List UInt16} (eight : xs.length = 8) :
    ofText? (text xs).toList = some xs := by
  have run := longestRun_le xs
  unfold text
  generalize longestRun xs = best at run
  obtain ⟨start, n⟩ := best
  dsimp only at run ⊢
  split
  · have none : gap? (piecesText xs).toList = none := by
      have whole := gap?_pieces xs []
      rw [List.append_nil] at whole
      rw [toList_piecesText, whole]
      rfl
    rw [ofText?, none, toList_piecesText, parts_pieces, pieces?_hex]
    simp [eight]
  next many =>
    have plain : '.' ∉ List.intercalate [':'] ((xs.take start).map hex) := by
      intro dot
      rcases mem_intercalate dot with same | ⟨part, listed, mem⟩
      · cases same
      · obtain ⟨x, -, rfl⟩ := List.mem_map.mp listed
        exact (mem_hex mem).2.1 rfl
    have filled : xs = xs.take start ++ (List.replicate n 0 ++ xs.drop (start + n)) := by
      rw [← List.drop_drop, ← eq_of_zeros run, List.take_append_drop]
    have lengths : xs.length =
        (xs.take start).length + (n + (xs.drop (start + n)).length) := by
      have same := congrArg List.length filled
      rwa [List.length_append, List.length_append, List.length_replicate] at same
    have written : (piecesText (xs.take start) ++ "::" ++ piecesText (xs.drop (start + n))).toList =
        List.intercalate [':'] ((xs.take start).map hex) ++
          ':' :: ':' :: List.intercalate [':'] ((xs.drop (start + n)).map hex) := by
      simp [toList_piecesText]
    have few : (xs.take start).length + (xs.drop (start + n)).length ≤ 7 := by omega
    have missing : 8 - (xs.take start).length - (xs.drop (start + n)).length = n := by omega
    rw [ofText?, written, gap?_pieces]
    simp only [gap?, Option.map_some, List.append_nil, plain, not_false_eq_true, guard, if_true,
      parts_pieces, pieces?_hex, few, missing, bind, Option.bind_some, pure, Option.some.injEq]
    rw [List.append_assoc, ← filled]

theorem mem_text {xs : List UInt16} {c : Char} (mem : c ∈ (text xs).toList) :
    c = ':' ∨ ∃ d < 16, c = Nat.digitChar d := by
  have pieces (xs : List UInt16) (mem : c ∈ (piecesText xs).toList) :
      c = ':' ∨ ∃ d < 16, c = Nat.digitChar d := by
    rw [toList_piecesText] at mem
    refine (mem_intercalate mem).imp_right fun ⟨part, listed, mem⟩ => ?_
    obtain ⟨x, -, rfl⟩ := List.mem_map.mp listed
    exact mem_toDigits (by decide) mem
  unfold text at mem
  dsimp only at mem
  split at mem
  · exact pieces _ mem
  · rw [String.toList_append, String.toList_append, List.mem_append, List.mem_append] at mem
    rcases mem with (mem | mem) | mem
    · exact pieces _ mem
    · exact Or.inl (by simpa using mem)
    · exact pieces _ mem

theorem length_of_ofText? {cs : List Char} {xs : List UInt16} (read : ofText? cs = some xs) :
    xs.length = 8 := by
  unfold ofText? at read
  split at read
  · obtain ⟨-, eight⟩ := Option.filter_eq_some_iff.mp read
    exact of_decide_eq_true eight
  · obtain ⟨-, -, read⟩ := Option.bind_eq_some_iff.mp read
    obtain ⟨ys, -, read⟩ := Option.bind_eq_some_iff.mp read
    obtain ⟨zs, -, read⟩ := Option.bind_eq_some_iff.mp read
    obtain ⟨_, few, read⟩ := Option.bind_eq_some_iff.mp read
    have few := (Option.guard_eq_some' _).mp few
    cases read
    simp only [List.length_append, List.length_replicate]
    omega

end Ipv6

end HostWatch.Address
