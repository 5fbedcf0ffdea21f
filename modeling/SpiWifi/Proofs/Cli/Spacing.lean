import SpiWifi.Proofs.Cli.RoundTrip

/-!
# White space in hexadecimal arguments

White space put into a hexadecimal text does not change what is read from it, as long as the marks in
front stay in front: they are dropped before the white space is. Put before a mark or into one, it
leaves the mark among the digits, and the text is not read at all.
-/

namespace SpiWifi.Cli

open Text (isBlank)
open Text.Hex (Spells)

/-- The second text is the first one with white space put in, anywhere. -/
inductive Spaced : List Char → List Char → Prop
  | nil : Spaced [] []
  | keep {cs ds : List Char} (c : Char) (rest : Spaced cs ds) : Spaced (c :: cs) (c :: ds)
  | blank {cs ds : List Char} {c : Char} (blank : isBlank c) (rest : Spaced cs ds) :
      Spaced cs (c :: ds)

theorem Spaced.refl (cs : List Char) : Spaced cs cs := by
  induction cs with
  | nil => exact .nil
  | cons c _ ih => exact .keep c ih

theorem Spaced.inked_eq {cs ds : List Char} (h : Spaced cs ds) : inked ds = inked cs := by
  induction h with
  | nil => rfl
  | keep c _ ih =>
    rw [inked, inked, List.filter_cons, List.filter_cons]
    exact if_congr Iff.rfl (congrArg (c :: ·) ih) ih
  | blank blank _ ih =>
    rw [inked, List.filter_cons_of_neg (by simp [blank])]
    exact ih

theorem inked_marks_append (k : Nat) (cs : List Char) :
    inked (marks k ++ cs) = marks k ++ inked cs := by
  induction k with
  | zero => rfl
  | succ k ih => rw [marks_succ_append, inked_mark, ih, marks_succ_append]

theorem marks_add (j k : Nat) : marks (j + k) = marks j ++ marks k := by
  rw [marks, ← List.replicate_append_replicate, List.flatten_append]
  rfl

theorem length_marks (k : Nat) : (marks k).length = 2 * k := by
  simp [marks, Nat.mul_comm]

theorem ascii_marks {k : Nat} {c : Char} (h : c ∈ marks k) : c.toNat < 128 := by
  obtain ⟨mark, hmark, hc⟩ := List.mem_flatten.mp h
  obtain ⟨-, rfl⟩ := List.mem_replicate.mp hmark
  have ascii : ∀ d ∈ ['0', 'x'], d.toNat < 128 := by simp
  exact ascii c hc

/-- A mark that is not dropped is taken for two digits, and the second is none. -/
theorem hexBytes_of_mark {text : String} {k : Nat} {digits : List Char} {bytes : Bytes}
    (spelled : Spells digits bytes)
    (h : inked (dropMarks text.toList) = '0' :: 'x' :: (marks k ++ digits)) :
    hexBytes text = .error (.badHex text (.badDigit 0x78 1)) := by
  have ascii : ∀ c ∈ '0' :: 'x' :: (marks k ++ digits), c.toNat < 128 := by
    rw [List.forall_mem_cons, List.forall_mem_cons, List.forall_mem_append]
    exact ⟨by decide, by decide, fun _ => ascii_marks, spelled.ascii⟩
  -- an odd number of digits would be reported before any that is none
  have even : ('0' :: 'x' :: (marks k ++ digits)).length % 2 = 0 := by
    simp only [List.length_cons, List.length_append, length_marks, spelled.length_eq]
    omega
  have hdecode : Text.Hex.decode (Text.Utf8.encode (String.ofList ('0' :: 'x' :: (marks k ++ digits))))
      = .error (.badDigit 0x78 1) := by
    rw [Text.Hex.encode_ascii ascii, Text.Hex.decode, List.length_map, even]
    rfl
  rw [inked] at h
  rw [hexBytes, h, hdecode]

/-- The marks of the text are still in front, so the digits behind them are the same. -/
theorem hexBytes_of_spaced {text spaced : String} {bytes : Bytes} (read : hexBytes text = .ok bytes)
    (h : Spaced text.toList spaced.toList) (front : marks (markCount text.toList) <+: spaced.toList) :
    hexBytes spaced = .ok bytes := by
  obtain ⟨rest, hrest⟩ := front
  have hinked := h.inked_eq
  rw [← hrest, ← marks_append_dropMarks text.toList, inked_marks_append, inked_marks_append,
    marks_append_dropMarks] at hinked
  refine hexBytes_eq_ok_iff.mpr ⟨_, rest, hrest.symm, ?_⟩
  rw [List.append_cancel_left hinked]
  exact hexBytes_eq_ok_iff_spells.mp read

/-- Fewer marks are in front than before, so at least one is among the digits. -/
theorem hexBytes_of_moved_mark {text spaced : String} {bytes : Bytes}
    (read : hexBytes text = .ok bytes) (h : Spaced text.toList spaced.toList)
    (moved : ¬ marks (markCount text.toList) <+: spaced.toList) :
    hexBytes spaced = .error (.badHex spaced (.badDigit 0x78 1)) := by
  have fewer : markCount spaced.toList < markCount text.toList := by
    by_contra hle
    apply moved
    rw [← marks_append_dropMarks spaced.toList, ← Nat.add_sub_of_le (Nat.le_of_not_lt hle), marks_add,
      List.append_assoc]
    exact List.prefix_append _ _
  obtain ⟨k, hk⟩ := Nat.exists_eq_add_of_lt fewer
  have hinked := h.inked_eq
  rw [← marks_append_dropMarks text.toList, ← marks_append_dropMarks spaced.toList,
    inked_marks_append, inked_marks_append, hk, Nat.add_assoc, marks_add, List.append_assoc] at hinked
  exact hexBytes_of_mark (hexBytes_eq_ok_iff_spells.mp read) (List.append_cancel_left hinked)

theorem quoted_x : Text.Quoted.char 'x' = "'x'" := by
  have visible : Text.isVisible 'x' = true := by decide +kernel
  have plain : Text.Quoted.escape '\'' 'x' = "x" := by
    unfold Text.Quoted.escape
    rw [if_neg (by decide)]
    exact if_pos visible
  rw [Text.Quoted.char, plain]
  rfl

theorem message_of_mark (text : String) : (CliError.badHex text (.badDigit 0x78 1)).message =
    "bad hex '" ++ text ++ "': Invalid character 'x' at position 1" := by
  have hfault : Text.Hex.Fault.message (.badDigit 0x78 1) =
      "Invalid character 'x' at position 1" := by
    change "Invalid character " ++ Text.Quoted.char 'x' ++ " at position " ++ toString 1 = _
    rw [quoted_x]
    rfl
  have quoted : "bad hex " ++ ("'" ++ text ++ "'") ++ ": " = "bad hex '" ++ text ++ "': " := by
    simp [← String.toList_inj]
  have joined : "': " ++ "Invalid character 'x' at position 1" =
      "': Invalid character 'x' at position 1" := rfl
  change "bad hex " ++ ("'" ++ text ++ "'") ++ ": " ++ Text.Hex.Fault.message (.badDigit 0x78 1) = _
  rw [hfault, quoted, String.append_assoc, joined]

/-- With white space put in, a text that is read as bytes is read as the same bytes, and decoded
alike, if its marks stay in front, as they always do where it has none. Otherwise it is not read, and
decoding says so. -/
theorem decode_spaced {text spaced : String} {bytes : Bytes} (read : hexBytes text = .ok bytes)
    (h : Spaced text.toList spaced.toList) :
    (marks (markCount text.toList) <+: spaced.toList →
      hexBytes spaced = .ok bytes ∧
      ∀ reply json, decode spaced reply json = decode text reply json) ∧
    (¬ marks (markCount text.toList) <+: spaced.toList →
      hexBytes spaced = .error (.badHex spaced (.badDigit 0x78 1)) ∧
      ∀ reply json, decode spaced reply json =
        .failed "" ("bad hex '" ++ spaced ++ "': Invalid character 'x' at position 1")) := by
  constructor
  · intro front
    have spacedRead := hexBytes_of_spaced read h front
    refine ⟨spacedRead, fun reply json => ?_⟩
    rw [decode, decode, decodeFrame, decodeFrame, spacedRead, read]
  · intro moved
    have spacedRead := hexBytes_of_moved_mark read h moved
    refine ⟨spacedRead, fun reply json => ?_⟩
    rw [decode, decodeFrame, spacedRead, ← message_of_mark]
    rfl

/-- White space among and behind the digits. -/
theorem decode_spaced_digits :
    hexBytes "0xe03700ee" = .ok [0xe0, 0x37, 0x00, 0xee] ∧
    hexBytes "0xe0 37\t0 0ee\n" = .ok [0xe0, 0x37, 0x00, 0xee] ∧
    decode "0xe0 37\t0 0ee\n" false false = decode "0xe03700ee" false false := by
  have read : hexBytes "0xe03700ee" = .ok [0xe0, 0x37, 0x00, 0xee] := by rfl
  have put : Spaced ['0', 'x', 'e', '0', '3', '7', '0', '0', 'e', 'e']
      ['0', 'x', 'e', '0', ' ', '3', '7', '\t', '0', ' ', '0', 'e', 'e', '\n'] :=
    .keep _ <| .keep _ <| .keep _ <| .keep _ <| .blank rfl <| .keep _ <| .keep _ <| .blank rfl <|
      .keep _ <| .blank rfl <| .keep _ <| .keep _ <| .keep _ <| .blank rfl .nil
  have spaced : Spaced "0xe03700ee".toList "0xe0 37\t0 0ee\n".toList := put
  obtain ⟨same, decoded⟩ := (decode_spaced read spaced).1 (by decide)
  exact ⟨read, same, decoded false false⟩

/-- White space before the mark: the same digits are not read any more. -/
theorem blank_before_mark :
    Spaced "0xe03700ee".toList " 0xe03700ee".toList ∧
    hexBytes "0xe03700ee" = .ok [0xe0, 0x37, 0x00, 0xee] ∧
    hexBytes " 0xe03700ee" = .error (.badHex " 0xe03700ee" (.badDigit 0x78 1)) ∧
    (decode "0xe03700ee" false false).exit = 0 ∧ (decode " 0xe03700ee" false false).exit = 1 := by
  have put : Spaced "0xe03700ee".toList (' ' :: "0xe03700ee".toList) := .blank rfl (.refl _)
  have read : hexBytes "0xe03700ee" = .ok (frameWith false .getFwVersion []).bytes := by rfl
  have unread : hexBytes " 0xe03700ee" = .error (.badHex " 0xe03700ee" (.badDigit 0x78 1)) := by rfl
  have fits := (fits_frameWith_iff false .getFwVersion []).mpr (by decide)
  refine ⟨put, by rfl, unread, ?_, ?_⟩
  · rw [decode_of_hexBytes fits read]
    rfl
  · rw [decode, decodeFrame, unread]
    rfl

end SpiWifi.Cli
