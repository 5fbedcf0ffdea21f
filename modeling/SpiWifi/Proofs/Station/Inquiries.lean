import SpiWifi.Proofs.Device.Replies
import SpiWifi.Proofs.Link.Questions
import SpiWifi.Proofs.Station.Stages

/-!
# What the host learns about networks

The device tells the joined network, and each network of its table by its index, when it is asked with
one byte for a parameter. It looks the answer up and changes nothing but its record of commands, so the
host reads back what the device has, be it text, an address or a number in the device's byte order.
-/

namespace SpiWifi

open Device

theorem Bytes.u32LE?_ofU32LE (v : UInt32) : (ofU32LE v).u32LE? = some v := by
  have hv := v.toNat_lt
  refine congrArg some (UInt32.toNat.inj ?_)
  rw [joinU32]
  simp only [toNat_low, UInt32.toNat_ofNat']
  omega

/-- The name of a network as the host learns it, cut to what is reported. -/
def Device.AccessPoint.shownName (n : AccessPoint) : String :=
  Text.Utf8.decodeLossy ((Text.Utf8.encode n.ssid).take ssidMax)

theorem Slot.text_holding (size : Nat) (p : Bytes) :
    (Slot.holding (size + 1) p).text = Text.Utf8.decodeLossy (p.take size) := by
  have hbytes : (Slot.holding (size + 1) p).bytes = p.take size := by
    rw [(Slot.holding_holds _ _).bytes, Nat.add_sub_cancel, List.take_eq_take_iff]
    omega
  rw [Slot.text, hbytes]

namespace Device

/-- To the command with this byte the device answers these bytes, and nothing else changes. -/
def State.Tells (s : State) (c : Command) (b : UInt8) (p : Bytes) : Prop :=
  (serve c ⟨[[b]]⟩).run (s.recorded c) = (some ((Frame.reply c).withParam p), s.recorded c)

theorem fits_value (c : Command) {p : Bytes} (h : p.length ≤ 6) :
    ((Frame.reply c).withParam p).Fits := by
  rw [Frame.fits_iff_size, Frame.maxParamsSize]
  simp only [Frame.paramsSize_withParam, Frame.paramsSize_reply]
  cases (Frame.reply c).width <;> simp only [Width.lengthSize] <;> omega

theorem length_value_le (c : Command) {p : Bytes} (h : p.length ≤ 6) :
    ((Frame.reply c).withParam p).bytes.length ≤ 12 := by
  rw [Frame.length_bytes, Frame.encodedLength_eq, Frame.headSize]
  simp only [Frame.paramsSize_withParam, Frame.paramsSize_reply]
  cases (Frame.reply c).width <;> simp only [Width.lengthSize] <;> omega

section
variable {s : State}

theorem tells_joined {n : AccessPoint} (h : s.radio.network = some n) (b : UInt8) :
    s.Tells .getCurrSsid b (Text.Utf8.encode n.ssid) ∧
    s.Tells .getCurrBssid b n.bssid ∧
    s.Tells .getCurrRssi b (Bytes.ofU32LE n.rssi.toUInt32) ∧
    s.Tells .getCurrEnct b [n.encryption] := by
  have hsame (c : Command) : (s.recorded c).radio.network = some n := h
  refine ⟨?_, ?_, ?_, ?_⟩
  all_goals
    unfold State.Tells serve
    refine (Serving.run_get_bind _ _).trans ?_
    simp only [hsame]
    rfl

theorem tells_indexed {n : AccessPoint} {b : UInt8} (h : s.networks[b.toNat]? = some n) :
    s.Tells .getIdxRssi b (Bytes.ofU32LE n.rssi.toUInt32) ∧
    s.Tells .getIdxEnct b [n.encryption] ∧
    s.Tells .getIdxBssid b n.bssid ∧
    s.Tells .getIdxChannel b [n.channel] := by
  have hsame (c : Command) : (s.recorded c).networks[b.toNat]? = some n := h
  refine ⟨?_, ?_, ?_, ?_⟩
  all_goals
    unfold State.Tells serve networkReply
    refine (Serving.run_need_bind (a := b) rfl _ _).trans ?_
    refine (Serving.run_get_bind _ _).trans ?_
    simp only [hsame]
    rfl

end

end Device

namespace Link

theorem call_tells {l : Link Line} {c : Command} {b : UInt8} {p : Bytes}
    (carries : l.Carries c 8 ((Frame.reply c).withParam p).bytes.length)
    (tells : l.device.Tells c b p) (fits : ((Frame.reply c).withParam p).Fits) (size : Nat) :
    ∃ l', (call ((Frame.command c).withU8 b) [Slot.forValue size]).run l =
        (.ok (1, [Slot.holding (size + 1) p]), l') ∧
      Questioned c (·.recorded c) 1 l l' := by
  have hlength : ((Frame.command c).withU8 b).bytes.length = 8 := length_about c ⟨b⟩
  have houtcome := call_value_outcome ⟨rfl, rfl⟩ (about_fits c ⟨b⟩) tells fits size
  have hasked := questioned_of_request (·.recorded c) ⟨rfl, rfl⟩ (about_fits c ⟨b⟩)
    (by rw [length_about]; exact carries.asks) tells fits [Slot.forValue size]
  rw [← link_call] at hasked
  rw [length_about] at houtcome
  exact ⟨_, houtcome.run carries, hasked⟩

end Link

namespace Host

/-- The host learns a value by one question, which leaves the device as it was. -/
structure Learns (c : Command) (host : Host Line) {α : Type} (a : α)
    (outcome : Except NetError α × Host Line) : Prop where
  value : outcome.1 = .ok a
  asked : Link.Questioned c (·.recorded c) 1 host.link outcome.2.link

section
variable {c : Command} {b : UInt8} {p : Bytes} {host : Host Line} {α β : Type} {a : α}

theorem Learns.map {x : HostM Line α} (h : Learns c host a (x.run host)) (g : α → β) :
    Learns c host (g a) ((do return g (← x) : HostM Line β).run host) := by
  have hrun : (do return g (← x) : HostM Line β).run host = (.ok (g a), (x.run host).2) := by
    refine (run_bind _ _ _).trans ?_
    rw [show x.run host = (.ok a, (x.run host).2) from Prod.ext h.value rfl]
    rfl
  rw [hrun]
  exact ⟨rfl, h.asked⟩

variable (carries : host.link.Carries c 8 ((Frame.reply c).withParam p).bytes.length)
  (tells : host.link.device.Tells c b p) (fits : ((Frame.reply c).withParam p).Fits)
include carries tells fits

theorem expectReply_learns {size : Nat} {read : Slot → Option α}
    (known : read (Slot.holding (size + 1) p) = some a) :
    Learns c host a
      ((expectReply c (Link.readValue size read ((Frame.command c).withU8 b))).run host) := by
  obtain ⟨l, hcall, hasked⟩ := Link.call_tells carries tells fits size
  have hread : (Link.readValue size read ((Frame.command c).withU8 b)).run host.link =
      (.ok (some a), l) := by
    rw [Link.readValue, Link.run_bind_of_ok hcall, ← known]
    rfl
  rw [expectReply, run_bind, run_ask_of_ok hread]
  exact ⟨rfl, hasked⟩

theorem readMac_learns (six : p.length = macLength) :
    Learns c host p ((readMac c ((Frame.command c).withU8 b)).run host) := by
  obtain ⟨l, hcall, hasked⟩ := Link.call_tells carries tells fits macLength
  have hbytes : (Slot.holding (macLength + 1) p).bytes = p := Slot.bytes_holding (Nat.le_of_eq six)
  rw [readMac, run_bind, run_ask_of_ok hcall]
  dsimp only
  rw [if_pos (by rw [Slot.length, hbytes, six]), hbytes]
  exact ⟨rfl, hasked⟩

end

/-- A text is cut to what its slot keeps. -/
theorem currentSsid_learns {host : Host Line} {p : Bytes}
    (carries : host.link.Carries .getCurrSsid 8
      ((Frame.reply .getCurrSsid).withParam p).bytes.length)
    (tells : host.link.device.Tells .getCurrSsid fillerByte p)
    (fits : ((Frame.reply .getCurrSsid).withParam p).Fits) :
    Learns .getCurrSsid host (Text.Utf8.decodeLossy (p.take ssidMax)) (currentSsid.run host) := by
  obtain ⟨l, hcall, hasked⟩ := Link.call_tells carries tells fits ssidMax
  rw [currentSsid, run_bind, filler, run_ask_of_ok hcall, ← Slot.text_holding]
  exact ⟨rfl, hasked⟩

section
variable {c : Command} {b : UInt8} {host : Host Line} (faithful : host.link.Faithful 12)
include faithful

theorem readByte_learns {v : UInt8} (tells : host.link.device.Tells c b [v]) :
    Learns c host v ((expectReply c (Link.readU8 ((Frame.command c).withU8 b))).run host) :=
  expectReply_learns (faithful.carries c (Nat.le_of_ble_eq_true rfl)
    (length_value_le c (Nat.le_of_ble_eq_true rfl))) tells (fits_value c (Nat.le_of_ble_eq_true rfl))
    rfl

theorem readSigned_learns {v : Int32}
    (tells : host.link.device.Tells c b (Bytes.ofU32LE v.toUInt32)) :
    Learns c host v ((do
      return (← expectReply c (Link.readU32LE ((Frame.command c).withU8 b))).toInt32 :
        HostM Line Int32).run host) := by
  have known : Slot.u32LE? (Slot.holding (4 + 1) (Bytes.ofU32LE v.toUInt32)) = some v.toUInt32 := by
    rw [Slot.u32LE?, Slot.bytes_holding (Nat.le_refl 4), Bytes.u32LE?_ofU32LE]
  have hlearns := (expectReply_learns (faithful.carries c (Nat.le_of_ble_eq_true rfl)
    (length_value_le c (Nat.le_of_ble_eq_true rfl))) tells (fits_value c (Nat.le_of_ble_eq_true rfl))
    known).map UInt32.toInt32
  rwa [Int32.toInt32_toUInt32] at hlearns

theorem readAddress_learns {p : Bytes} (tells : host.link.device.Tells c b p)
    (six : p.length = macLength) :
    Learns c host p ((readMac c ((Frame.command c).withU8 b)).run host) :=
  readMac_learns (faithful.carries c (Nat.le_of_ble_eq_true rfl)
    (length_value_le c (Nat.le_of_eq six))) tells (fits_value c (Nat.le_of_eq six)) six

end

end Host

end SpiWifi
