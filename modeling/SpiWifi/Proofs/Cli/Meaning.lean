import Mathlib.Data.List.TakeWhile
import SpiWifi.Proofs.Cli.HexText
import SpiWifi.Proofs.Text.Dotted
import SpiWifi.Proofs.Wire.Commands

/-!
# What arguments mean

An argument calls a command by its name or by its opcode, with or without the reply bit. It denotes
the bytes of a parameter either by hexadecimal digits or by a kind and a value: a number in so many
bytes, the highest first, an address, or a text in UTF-8. Exactly these arguments are taken, and each
for what it means.
-/

namespace SpiWifi.Cli

open Text.Numeral (IsNumeral)

/-- The argument stands for the command. -/
inductive Calls : String → Command → Prop
  | name {name : String} {c : Command} (named : Command.Named name.toList c) : Calls name c
  | opcode {mark digits : String} {n : Nat} {c : Command} (marked : mark ∈ ["0x", "0X"])
      (numeral : IsNumeral 16 digits.toList n) (range : n < 2 ^ 8)
      (code : c.opcode.toNat = n % 2 ^ 7) : Calls (mark ++ digits) c

/-- The argument stands for the bytes of a parameter. -/
inductive Denotes : String → Bytes → Prop
  | hex {text : String} {bytes : Bytes} (plain : ':' ∉ text.toList)
      (digits : HexText text.toList bytes) : Denotes text bytes
  | u8 {value : String} {n : Nat} (numeral : IsNumeral 10 value.toList n) (range : n < 2 ^ 8) :
      Denotes ("u8:" ++ value) [UInt8.ofNat n]
  | u16 {value : String} {n : Nat} (numeral : IsNumeral 10 value.toList n) (range : n < 2 ^ 16) :
      Denotes ("u16:" ++ value) [UInt8.ofNat (n / 2 ^ 8), UInt8.ofNat n]
  | u32 {value : String} {n : Nat} (numeral : IsNumeral 10 value.toList n) (range : n < 2 ^ 32) :
      Denotes ("u32:" ++ value)
        [UInt8.ofNat (n / 2 ^ 24), UInt8.ofNat (n / 2 ^ 16), UInt8.ofNat (n / 2 ^ 8), UInt8.ofNat n]
  | ip (address : Ipv4) :
      Denotes ("ip:" ++ address.toText) [address.a, address.b, address.c, address.d]
  | str (text : String) : Denotes ("str:" ++ text) text.toUTF8.data.toList

theorem splitColon_of_plain {cs : List Char} (h : ':' ∉ cs) : splitColon cs = none := by
  have hdrop : cs.dropWhile (· != ':') = [] :=
    List.dropWhile_eq_nil_iff.mpr fun c hc => by simpa using ne_of_mem_of_not_mem hc h
  rw [splitColon, hdrop]

theorem splitColon_append {kind value : List Char} (h : ':' ∉ kind) :
    splitColon (kind ++ ':' :: value) = some (kind, value) := by
  have plain : ∀ c ∈ kind, (c != ':') = true := fun c hc => by
    simpa using ne_of_mem_of_not_mem hc h
  rw [splitColon, List.dropWhile_append_of_pos plain, List.takeWhile_append_of_pos plain]
  simp

theorem numberBytes_eq_ok_iff {argument : String} {limit : Nat} {write : Nat → Bytes}
    {value : List Char} {bytes : Bytes} :
    numberBytes argument limit write value = .ok bytes ↔
      ∃ n, IsNumeral 10 value n ∧ n ≤ limit ∧ bytes = write n := by
  unfold numberBytes
  constructor
  · intro h
    split at h
    · next n hread =>
      obtain ⟨hn, hle⟩ := (Text.Numeral.read_eq_ok_iff (by decide)).mp hread
      cases h
      exact ⟨n, hn, hle, rfl⟩
    · cases h
  · rintro ⟨n, hn, hle, rfl⟩
    rw [(Text.Numeral.read_eq_ok_iff (by decide)).mpr ⟨hn, hle⟩]

theorem addressBytes_eq_ok_iff {argument : String} {value : List Char} {bytes : Bytes} :
    addressBytes argument value = .ok bytes ↔
      ∃ ip : Ipv4, String.ofList value = ip.toText ∧ bytes = ip.octets := by
  unfold addressBytes
  constructor
  · intro h
    split at h
    · next ip hip =>
      cases h
      exact ⟨ip, Ipv4.ofText?_eq_some_iff.mp hip, rfl⟩
    · cases h
  · rintro ⟨ip, hip, rfl⟩
    rw [Ipv4.ofText?_eq_some_iff.mpr hip]

theorem ofU16BE_ofNat {n : Nat} (h : n < 2 ^ 16) :
    Bytes.ofU16BE (UInt16.ofNat n) = [UInt8.ofNat (n / 2 ^ 8), UInt8.ofNat n] := by
  rw [Bytes.ofU16BE, UInt16.toNat_ofNat', Nat.mod_eq_of_lt h, Bytes.low_eq_ofNat, Bytes.low_eq_ofNat]
  rfl

theorem ofU32BE_ofNat {n : Nat} (h : n < 2 ^ 32) :
    Bytes.ofU32BE (UInt32.ofNat n) = [UInt8.ofNat (n / 2 ^ 24), UInt8.ofNat (n / 2 ^ 16),
      UInt8.ofNat (n / 2 ^ 8), UInt8.ofNat n] := by
  rw [Bytes.ofU32BE, UInt32.toNat_ofNat', Nat.mod_eq_of_lt h]
  simp only [Bytes.low_eq_ofNat]
  rfl

theorem parameterBytes_of_kind {argument : String} (kind value : String) (plain : ':' ∉ kind.toList)
    (h : argument.toList = kind.toList ++ ':' :: value.toList) :
    parameterBytes argument = kindBytes argument kind value.toList := by
  rw [parameterBytes, h, splitColon_append plain]
  dsimp only
  rw [String.ofList_toList]

/-- What is taken for a kind and a value is denoted by the two. -/
theorem denotes_of_kindBytes {argument kind value : String} {bytes : Bytes}
    (h : kindBytes argument kind value.toList = .ok bytes) : Denotes (kind ++ ":" ++ value) bytes := by
  unfold kindBytes at h
  split_ifs at h with hu8 hu16 hu32 hip hstr
  · obtain ⟨n, hn, hle, rfl⟩ := numberBytes_eq_ok_iff.mp h
    exact hu8 ▸ .u8 hn (Nat.lt_succ_of_le hle)
  · obtain ⟨n, hn, hle, rfl⟩ := numberBytes_eq_ok_iff.mp h
    have range : n < 2 ^ 16 := Nat.lt_succ_of_le hle
    rw [ofU16BE_ofNat range]
    exact hu16 ▸ .u16 hn range
  · obtain ⟨n, hn, hle, rfl⟩ := numberBytes_eq_ok_iff.mp h
    have range : n < 2 ^ 32 := Nat.lt_succ_of_le hle
    rw [ofU32BE_ofNat range]
    exact hu32 ▸ .u32 hn range
  · obtain ⟨ip, haddress, rfl⟩ := addressBytes_eq_ok_iff.mp h
    rw [String.ofList_toList] at haddress
    exact hip ▸ haddress ▸ .ip ip
  · cases h
    rw [String.ofList_toList]
    exact hstr ▸ .str value

theorem Denotes.taken {argument : String} {bytes : Bytes} (h : Denotes argument bytes) :
    parameterBytes argument = .ok bytes := by
  cases h with
  | hex plain digits =>
    rw [parameterBytes, splitColon_of_plain plain]
    exact hexBytes_eq_ok_iff.mpr digits
  | @u8 value n numeral range =>
    rw [parameterBytes_of_kind "u8" value (by decide) (by simp), kindBytes, if_pos rfl]
    exact numberBytes_eq_ok_iff.mpr ⟨n, numeral, Nat.le_of_lt_succ range, rfl⟩
  | @u16 value n numeral range =>
    rw [parameterBytes_of_kind "u16" value (by decide) (by simp), kindBytes, if_neg (by decide),
      if_pos rfl, ← ofU16BE_ofNat range]
    exact numberBytes_eq_ok_iff.mpr ⟨n, numeral, Nat.le_of_lt_succ range, rfl⟩
  | @u32 value n numeral range =>
    rw [parameterBytes_of_kind "u32" value (by decide) (by simp), kindBytes, if_neg (by decide),
      if_neg (by decide), if_pos rfl, ← ofU32BE_ofNat range]
    exact numberBytes_eq_ok_iff.mpr ⟨n, numeral, Nat.le_of_lt_succ range, rfl⟩
  | ip address =>
    rw [parameterBytes_of_kind "ip" address.toText (by decide) (by simp), kindBytes,
      if_neg (by decide), if_neg (by decide), if_neg (by decide), if_pos rfl]
    exact addressBytes_eq_ok_iff.mpr ⟨address, String.ofList_toList, rfl⟩
  | str text =>
    rw [parameterBytes_of_kind "str" text (by decide) (by simp), kindBytes, if_neg (by decide),
      if_neg (by decide), if_neg (by decide), if_neg (by decide), if_pos rfl, String.ofList_toList]
    rfl

/-- An argument is taken just for the bytes that it denotes. -/
theorem parameterBytes_eq_ok_iff {argument : String} {bytes : Bytes} :
    parameterBytes argument = .ok bytes ↔ Denotes argument bytes := by
  refine ⟨fun h => ?_, Denotes.taken⟩
  by_cases colon : ':' ∈ argument.toList
  · obtain ⟨kind, value, hargument, hkind⟩ := List.eq_append_cons_of_mem colon
    have hparts : argument = String.ofList kind ++ ":" ++ String.ofList value := by
      rw [← String.toList_inj]
      simp [hargument]
    rw [parameterBytes_of_kind (String.ofList kind) (String.ofList value) (by simpa using hkind)
      (by simpa using hargument)] at h
    exact hparts ▸ denotes_of_kindBytes h
  · rw [parameterBytes, splitColon_of_plain colon] at h
    exact .hex colon (hexBytes_eq_ok_iff.mp h)

theorem and_127_eq_iff {n : Nat} (h : n < 2 ^ 8) {b : UInt8} :
    b = UInt8.ofNat n &&& 0x7f ↔ b.toNat = n % 2 ^ 7 := by
  have hmask : (UInt8.ofNat n &&& 0x7f).toNat = n % 2 ^ 7 := by
    rw [UInt8.toNat_and, Text.Utf8.toNat_ofNat_of_lt h]
    exact Nat.and_two_pow_sub_one_eq_mod n 7
  rw [← hmask]
  exact UInt8.toNat_inj.symm

theorem commandOfOpcode_eq_ok_iff {name : String} {digits : List Char} {c : Command} :
    commandOfOpcode name digits = .ok c ↔
      ∃ n, IsNumeral 16 digits n ∧ n < 2 ^ 8 ∧ c.opcode.toNat = n % 2 ^ 7 := by
  unfold commandOfOpcode
  constructor
  · intro h
    split at h
    · cases h
    · next n hread =>
      obtain ⟨hn, hle⟩ := (Text.Numeral.read_eq_ok_iff (by decide)).mp hread
      have range : n < 2 ^ 8 := Nat.lt_succ_of_le hle
      split at h
      · next d hd =>
        cases h
        exact ⟨n, hn, range, (and_127_eq_iff range).mp (Command.ofOpcode?_eq_some_iff.mp hd)⟩
      · cases h
  · rintro ⟨n, hn, range, code⟩
    have hle : n ≤ Text.Numeral.maxU8 := Nat.le_of_lt_succ range
    rw [(Text.Numeral.read_eq_ok_iff (by decide)).mpr ⟨hn, hle⟩]
    dsimp only
    rw [Command.ofOpcode?_eq_some_iff.mpr ((and_127_eq_iff range).mpr code)]

theorem calls_of_opcode {name : String} (mark : String) {digits : List Char} {c : Command}
    (marked : mark ∈ ["0x", "0X"]) (hname : name.toList = mark.toList ++ digits)
    (h : commandOfOpcode name digits = .ok c) : Calls name c := by
  obtain ⟨n, numeral, range, code⟩ := commandOfOpcode_eq_ok_iff.mp h
  have hparts : name = mark ++ String.ofList digits := by
    rw [← String.toList_inj, hname, String.toList_append, String.toList_ofList]
  rw [hparts]
  exact .opcode marked (by rwa [String.toList_ofList]) range code

/-- An argument is taken just for the command that it calls. -/
theorem commandOf_eq_ok_iff {name : String} {c : Command} : commandOf name = .ok c ↔ Calls name c := by
  constructor
  · intro h
    unfold commandOf at h
    split at h
    · next digits hname => exact calls_of_opcode "0x" (by simp) (by simpa using hname) h
    · next digits hname => exact calls_of_opcode "0X" (by simp) (by simpa using hname) h
    · split at h
      · next d hd =>
        cases h
        exact .name (Command.ofName?_eq_some_iff.mp hd)
      · cases h
  · intro h
    cases h with
    | name named =>
      unfold commandOf
      split
      · next digits hname =>
        rw [hname] at named
        exact absurd named Command.not_named_zero
      · next digits hname =>
        rw [hname] at named
        exact absurd named Command.not_named_zero
      · rw [Command.ofName?_eq_some_iff.mpr named]
    | @opcode mark digits n _ marked numeral range code =>
      have hcode : ∀ name, commandOfOpcode name digits.toList = .ok c :=
        fun name => commandOfOpcode_eq_ok_iff.mpr ⟨n, numeral, range, code⟩
      simp only [List.mem_cons, List.not_mem_nil, or_false] at marked
      rcases marked with rfl | rfl
      · simp [commandOf, String.toList_append, hcode]
      · simp [commandOf, String.toList_append, hcode]

end SpiWifi.Cli
