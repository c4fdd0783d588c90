import HostWatch.Hosts.File
import HostWatch.Proofs.Json.Literal

namespace HostWatch

open Json

namespace KnownHosts

theorem written_address : Written Json.text fun s => (stringLiteral s).toList where
  begins s := ⟨'"', _, toList_stringLiteral s, rfl, by decide, by decide⟩
  reads s rest := by
    have read := reads_text s isGap_nil rest
    rwa [List.nil_append] at read

theorem endsNumber_comma (cs : List Char) : endsNumber (',' :: cs) := by
  rintro c ⟨⟩
  decide

theorem endsNumber_line (cs : List Char) : endsNumber ('\n' :: cs) := by
  rintro c ⟨⟩
  decide

theorem reads_shape (k : KnownHosts) : Reads shape.read k.text.toList k [] := by
  have space : ∀ c ∈ [' '], isGap c := by simp [isGap]
  have line := isGap_newLine 1
  let close := (newLine 0).toList ++ ['\x7d']
  let third := [','] ++ (newLine 1).toList ++
    (memberChars "version" (toString k.version.toNat) ++ close)
  let second := [','] ++ (newLine 1).toList ++
    (memberChars "selected" (toString k.selected.toNat) ++ third)
  let first := [] ++ (newLine 1).toList ++
    (memberChars "targets" (listLiteral 1 (k.addresses.map stringLiteral)) ++ second)
  -- from the end of the object back to its first member
  have closes {fuel : Nat} : Reads
      (shape.named (fuel + 1) ["version", "selected", "targets"] false k) close k ['\x7d'] :=
    Shape.reads_end (isGap_newLine 0) (by simp [shape, Field.lenient]) []
  have version {fuel : Nat} : Reads (shape.named (fuel + 2) ["selected", "targets"] false
      { addresses := k.addresses, selected := k.selected }) third k ['\x7d'] := by
    have small : k.version.toNat ≤ Number.maxWord32 := Nat.le_pred_of_lt k.version.toNat_lt
    have ends : endsNumber close := endsNumber_line _
    have entered := (reads_natural small (by decide) "u32" space ends).enter "version"
      (fun (k : KnownHosts) n => { k with version := UInt32.ofNat n })
      (x := { addresses := k.addresses, selected := k.selected })
    rw [UInt32.ofNat_toNat] at entered
    exact Shape.reads_memberChars false line rfl (by decide) entered closes
  have selected {fuel : Nat} : Reads
      (shape.named (fuel + 3) ["targets"] false { addresses := k.addresses }) second k
      ['\x7d'] := by
    have small : k.selected.toNat ≤ Number.maxWord64 := Nat.le_pred_of_lt k.selected.toNat_lt
    have ends : endsNumber third := endsNumber_comma _
    have entered := (reads_natural small (by decide) "u64" space ends).enter "selected"
      (fun (k : KnownHosts) n => { k with selected := UInt64.ofNat n })
      (x := { addresses := k.addresses })
    rw [UInt64.ofNat_toNat] at entered
    exact Shape.reads_memberChars false line rfl (by decide) entered version
  have addresses {fuel : Nat} : Reads (shape.named (fuel + 4) [] true {}) first k ['\x7d'] := by
    have entered := (reads_list written_address 1 k.addresses space second).enter "targets"
      (fun (k : KnownHosts) as => { k with addresses := as }) (x := {})
    exact Shape.reads_memberChars true line rfl (by decide) entered selected
  have layout : k.text.toList = '\x7b' :: first := by
    unfold text
    rw [toList_objectLiteral_cons]
    simp [first, second, third, close]
  rw [layout]
  refine (reads_token isGap_nil rfl (by decide)).bind
    (Reads.inObject (reads_get fun p => ?_))
  have long : 3 ≤ first.length := by
    have gap : (newLine 1).toList.length = 3 := by simp [newLine]
    simp only [first, List.length_append, gap]
    omega
  have whole := length_le_encode first
  obtain ⟨fuel, enough⟩ : ∃ fuel, (Text.Utf8.encode first).length + 1 = fuel + 4 :=
    ⟨(Text.Utf8.encode first).length - 3, by omega⟩
  rw [enough]
  exact addresses

theorem ofBytes?_text (k : KnownHosts) : ofBytes? (Text.Utf8.bytesOf k.text) = some k := by
  have read := readAll_of_reads k.reads_shape isGap_nil
  unfold ofBytes? Text.Utf8.bytesOf
  rw [Text.Utf8.strict?_encode, read]
  rfl

end KnownHosts

namespace HostsPlace

/-- Hosts that have been saved are loaded again just as they were, whatever their addresses are made
of and whatever the file held before. Saving fails only where there can be no file. -/
theorem load_saved (k : KnownHosts) (p : HostsPlace) :
    (∀ p', p.save k = .ok p' → p'.load = k) ∧ (p ≠ .blocked → ∃ p', p.save k = .ok p') := by
  cases p with
  | blocked =>
    refine ⟨fun p' saved => ?_, fun free => absurd rfl free⟩
    cases saved
  | «open» file =>
    refine ⟨fun p' saved => ?_, fun _ => ⟨_, rfl⟩⟩
    cases saved
    change (KnownHosts.ofBytes? (Text.Utf8.bytesOf k.text)).getD {} = k
    rw [k.ofBytes?_text]
    rfl

/-- Among the addresses are an empty one and one with quotes, a backslash and a control character. -/
theorem loads_escaped_addresses :
    let k : KnownHosts := ⟨["", "a\"b\\c\x01", "höst\n"], 18446744073709551615, 4294967295⟩
    (HostsPlace.open none).save k = .ok (.open (some (Text.Utf8.bytesOf k.text))) ∧
      (HostsPlace.open (some (Text.Utf8.bytesOf k.text))).load = k := by
  intro k
  have saved : (HostsPlace.open none).save k =
      .ok (.open (some (Text.Utf8.bytesOf k.text))) := rfl
  exact ⟨saved, (load_saved k (.open none)).1 _ saved⟩

end HostsPlace

end HostWatch
