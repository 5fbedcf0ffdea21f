import SpiWifi.Device.Surroundings
import SpiWifi.Proofs.Device.Serving
import SpiWifi.Proofs.Link.Exchange
import SpiWifi.Proofs.Wire.Commands
import SpiWifi.Proofs.Wire.RoundTrip
import SpiWifi.Proofs.Wire.Slots

/-!
# The link is transparent

A request over the emulated device does what handing the frame to the device does, and its outcome
says what became of the reply: refused, lost on the way, too long for a frame, or delivered into the
slots. The command is written and read back with the width of its request, the reply with the width
of its reply, and both sides take these from the same opcode.
-/

namespace SpiWifi

open Reader

namespace Bytes

theorem fit_of_le {n : Nat} {bytes : Bytes} (h : bytes.length ≤ n) :
    fit n bytes = bytes ++ zeros (n - bytes.length) := by
  rw [fit, List.take_of_length_le h]

end Bytes

namespace Device

namespace Line

section
variable {tx : Bytes} {f : Frame} (sent : Frame.decodeCommand tx = .ok f) {s s' : State}
include sent

theorem execute_of_refused (h : handle f s = (none, s')) :
    execute tx s = ([Marker.error], s') := by
  simp only [execute, sent, h]

theorem execute_of_served {reply : Frame} (h : handle f s = (some reply, s')) :
    execute tx s = answer f.command? reply s' := by
  simp only [execute, sent, h]

end

section
variable {c : Command} {s : State} {reply : Frame}

theorem answer_of_lost (h : 0 < s.lossesLeft c) :
    answer (some c) reply s = ([], s.loseReplies c (s.lossesLeft c - 1)) := by
  obtain ⟨n, hn, hleft⟩ := State.lost_of_lossesLeft_pos h
  simp only [answer, Option.bind_some, hn, Option.map_some, hleft, Nat.add_sub_cancel,
    State.loseReplies]

theorem answer_of_encode {bytes : Bytes} (h : s.lossesLeft c = 0)
    (hencode : reply.encode = .ok bytes) : answer (some c) reply s = (bytes, s) := by
  rcases State.lost_of_lossesLeft_eq_zero h with hc | hc <;>
    simp only [answer, Option.bind_some, hc, Option.map_none, Option.map_some, hencode]

theorem answer_of_encode_error {e : ProtocolError} (h : s.lossesLeft c = 0)
    (hencode : reply.encode = .error e) : answer (some c) reply s = ([Marker.error], s) := by
  rcases State.lost_of_lossesLeft_eq_zero h with hc | hc <;>
    simp only [answer, Option.bind_some, hc, Option.map_none, Option.map_some, hencode]

end

end Line

end Device

namespace Link

open Device

section
variable {settings : LinkSettings} (budget : 1 ≤ settings.startBudget.toNat) (opcode : UInt8)
  (w : Width) (slots : List Slot)
include budget

theorem readReply_error_marker {size : Nat} (hsize : 1 ≤ size) :
    (readReply settings opcode w slots (Bytes.fit size [Marker.error])).1 =
      .error (.protocol .deviceError) := by
  have hm : FirstMarker settings.startBudget.toNat Marker.error
      (Bytes.fit size [Marker.error]) (Bytes.zeros (size - 1)) := by
    refine ⟨[], budget, Quiet.nil, ?_⟩
    rw [Bytes.fit_of_le hsize]
    rfl
  simp only [readReply]
  rw [ReplyReader.parse_of_opening_error
    (ReplyReader.opening_on_of_start_error (start_on_error hm))]

omit budget in
theorem readReply_silence (size : Nat) :
    (readReply settings opcode w slots (Bytes.fit size [])).1 =
      .error (.protocol (.missingStart settings.startBudget.toNat)) := by
  have hq : Quiet ((Bytes.fit size []).take settings.startBudget.toNat) := by
    intro b hb
    rw [Bytes.fit_of_le (Nat.zero_le _)] at hb
    rw [(List.mem_replicate.mp (List.mem_of_mem_take hb)).2]
    decide
  simp only [readReply]
  rw [ReplyReader.parse_of_opening_error
    (ReplyReader.opening_on_of_start_error (start_on_quiet hq))]

/-- A reply that fits a frame and carries the expected header goes into the slots, if it came in
whole. -/
theorem readReply_whole {reply : Frame} (fits : reply.Fits)
    (hheader : reply.header = opcode ||| replyBit) {size : Nat}
    (hsize : reply.bytes.length ≤ size) :
    readReply settings opcode reply.width slots (Bytes.fit size reply.bytes) =
      (.ok ⟨min reply.params.length slots.length,
        ((stored (slots.map Slot.clear) reply.params).take
          (min reply.params.length slots.length)).any Slot.isTruncated⟩,
      stored (slots.map Slot.clear) reply.params) := by
  obtain ⟨k, ha⟩ := fits.announces budget Quiet.nil (Bytes.zeros (size - reply.bytes.length))
  rw [List.nil_append, ← Bytes.fit_of_le hsize, hheader,
    ← ReplyReader.expectedHeader_ofOpcode opcode reply.width] at ha
  have hparse := ReplyReader.parse_of_stop
    (r := { ReplyReader.ofOpcode opcode reply.width with
      budget := settings.startBudget.toNat }) slots ha (stop_on_stop k _)
  simp only [readReply, hparse]

theorem readReply_bytes {reply : Frame} (fits : reply.Fits)
    (hheader : reply.header = opcode ||| replyBit) {size : Nat} (hsize : 252 ≤ size) :
    readReply settings opcode reply.width slots (Bytes.fit size reply.bytes) =
      (.ok ⟨min reply.params.length slots.length,
        ((stored (slots.map Slot.clear) reply.params).take
          (min reply.params.length slots.length)).any Slot.isTruncated⟩,
      stored (slots.map Slot.clear) reply.params) :=
  readReply_whole budget opcode slots fits hheader (Nat.le_trans fits.length_bytes_le hsize)

end

theorem outgoing_of_encode {settings : LinkSettings} (size : 252 ≤ settings.maxFrameSize.toNat)
    {f : Frame} {tx : Bytes} (h : f.encode = .ok tx) : settings.outgoing f = .ok tx := by
  obtain ⟨fits, rfl⟩ := Frame.encode_ok_iff.mp h
  have hle := Nat.le_trans fits.length_bytes_le size
  rw [LinkSettings.outgoing, h]
  exact if_neg (Nat.not_lt.mpr hle)

/-- The device is served the very frame that the host sends. -/
theorem decodeCommand_of_encode {f : Frame} {tx : Bytes} (h : f.encode = .ok tx)
    (width : f.width = Frame.requestWidthOf f.header) : Frame.decodeCommand tx = .ok f := by
  obtain ⟨fits, rfl⟩ := Frame.encode_ok_iff.mp h
  have hdecode := fits.decodeBy_bytes Frame.requestWidthOf width (by decide) Quiet.nil []
  rwa [List.nil_append, List.append_nil] at hdecode

/-- The host expects the reply with the header and the width that the device gives it. -/
theorem reply_expected {f reply : Frame} {s s' : State} (h : handle f s = (some reply, s')) :
    ∃ c, f.command? = some c ∧ reply.header = f.opcode ||| replyBit ∧
      replyWidth f = reply.width := by
  obtain ⟨c, hc, hheader, hwidth⟩ := handle_some h
  refine ⟨c, hc, ?_, ?_⟩
  · rw [hheader, Command.ofOpcode?_eq_some_iff.mp hc]
    rfl
  · rw [replyWidth, hc, hwidth]
    rfl

/-- A request over the emulated device against the device itself. Its state becomes what serving
the frame makes of it, and one loss is used up if the reply is lost. The outcome is the error marker
where the frame is refused or its reply does not fit a frame, silence where the reply is lost, and
otherwise the reply in the slots, each parameter as far as its slot goes. In every case the device
holds no bytes afterwards, and the completion of the transfer was consumed. -/
theorem request_transparent (l : Link Line) (ready : l.initialized = true)
    (size : 252 ≤ l.settings.maxFrameSize.toNat) (budget : 1 ≤ l.settings.startBudget.toNat)
    {f : Frame} {tx : Bytes} (encodes : f.encode = .ok tx)
    (width : f.width = (f.command?.map Command.requestWidth).getD .narrow) (slots : List Slot) :
    let ((result, after), l') := (request f slots).run l
    (match handle f l.transport.state with
      | (none, s) =>
        result = .error (.protocol .deviceError) ∧ l'.transport.state = s
      | (some reply, s) => ∃ c, f.command? = some c ∧
        if 0 < l.transport.state.lossesLeft c then
          result = .error (.protocol (.missingStart l.settings.startBudget.toNat)) ∧
          l'.transport.state = s.loseReplies c (l.transport.state.lossesLeft c - 1)
        else
          l'.transport.state = s ∧
          match reply.encode with
          | .error _ => result = .error (.protocol .deviceError)
          | .ok _ => ShowsParams reply.params slots after ∧ ∃ truncated,
            result = .ok ⟨min reply.params.length slots.length, truncated⟩ ∧
            (truncated = true ↔ ∃ (i : Nat) (p : Bytes) (new : Slot),
              reply.params[i]? = some p ∧ after[i]? = some new ∧ new.bytes ≠ p)) ∧
    l'.transport.pending = [] ∧ l'.signals.transferDone = .lowered ∧ l'.initialized = true := by
  have hstart : tx.head? = some Marker.start := by
    obtain ⟨_, rfl⟩ := Frame.encode_ok_iff.mp encodes
    rfl
  have hsize : 252 ≤ l.settings.replySize l.settings.maxFrameSize.toNat := by
    simp only [LinkSettings.replySize, Frame.maxSize]
    omega
  have hsent := decodeCommand_of_encode encodes width
  rw [request_device ready (outgoing_of_encode size encodes) hstart]
  rcases hexecute : Line.execute tx l.transport.state with ⟨answer, next⟩
  rcases hread : readReply l.settings f.opcode (replyWidth f) slots
    (Bytes.fit (l.settings.replySize l.settings.maxFrameSize.toNat) answer) with ⟨result, after⟩
  refine ⟨?_, rfl, rfl, ready⟩
  have hmarker : answer = [Marker.error] → result = .error (.protocol .deviceError) := by
    rintro rfl
    rw [← readReply_error_marker budget f.opcode (replyWidth f) slots
      (Nat.le_trans (by decide) hsize), hread]
  rcases hserved : handle f l.transport.state with ⟨_ | reply, s⟩
  · cases hexecute.symm.trans (Line.execute_of_refused hsent hserved)
    exact ⟨hmarker rfl, rfl⟩
  · obtain ⟨c, hc, hheader, hwidth⟩ := reply_expected hserved
    have hanswer := hexecute.symm.trans (Line.execute_of_served hsent hserved)
    rw [hc] at hanswer
    refine ⟨c, hc, ?_⟩
    rw [← lossesLeft_of_handle hserved c]
    split
    · next lost =>
      cases hanswer.trans (Line.answer_of_lost lost)
      refine ⟨?_, rfl⟩
      rw [← readReply_silence f.opcode (replyWidth f) slots, hread]
    · next kept =>
      have hnone := Nat.eq_zero_of_not_pos kept
      cases hencode : reply.encode with
      | error e =>
        cases hanswer.trans (Line.answer_of_encode_error hnone hencode)
        exact ⟨rfl, hmarker rfl⟩
      | ok bytes =>
        cases hanswer.trans (Line.answer_of_encode hnone hencode)
        obtain ⟨fits, rfl⟩ := Frame.encode_ok_iff.mp hencode
        rw [hwidth, readReply_bytes budget f.opcode slots fits hheader hsize] at hread
        cases hread
        have hshows := stored_clear_shows slots reply.params
        exact ⟨rfl, hshows, _, rfl, hshows.any_truncated_iff⟩

/-- The three addresses of a new device, read into two slots of which the first is too small. -/
theorem request_transparent_addresses :
    let l : Link Line := { new Line.new .instant with initialized := true }
    let f : Frame := .command .getIpAddr
    let ((result, after), l') := (request f [.empty 3, .empty 5]).run l
    result = .ok ⟨2, true⟩ ∧ after.map Slot.bytes = [[192, 168], [255, 255, 255, 0]] ∧
      l'.transport.pending = [] := by
  intro l f
  have encodes : f.encode = .ok f.bytes :=
    Frame.encode_ok_iff.mpr ⟨(Frame.excess?_eq_none_iff f).mp (by decide), rfl⟩
  have width : f.width = (f.command?.map Command.requestWidth).getD .narrow := by decide
  have h := request_transparent l rfl (by decide) (by decide) encodes width [.empty 3, .empty 5]
  have hknown : f.command? = some .getIpAddr := by decide
  have hserved : (handle f l.transport.state).1 =
      some ⟨0xa1, .narrow, [[192, 168, 1, 100], [255, 255, 255, 0], [192, 168, 1, 1]]⟩ := by
    decide
  have hkept : l.transport.state.lossesLeft .getIpAddr = 0 := rfl
  clear_value l f
  rcases hrun : (request f [.empty 3, .empty 5]).run l with ⟨⟨result, after⟩, l'⟩
  rcases hstep : handle f l.transport.state with ⟨reply, s⟩
  rw [hrun, hstep] at h
  rw [hstep] at hserved
  cases hserved
  obtain ⟨⟨c, hc, houtcome⟩, hpending, -, -⟩ := h
  cases hknown.symm.trans hc
  rw [if_neg (by rw [hkept]; decide), Frame.encode_ok_iff.mpr
    ⟨(Frame.excess?_eq_none_iff _).mp (by decide), rfl⟩] at houtcome
  obtain ⟨-, ⟨hlen, hshows⟩, truncated, rfl, htruncated⟩ := houtcome
  match after, hlen with
  | [first, second], _ =>
    have hfirst : first.bytes = [192, 168] := ((hshows 0 _ _ rfl rfl).1 _ rfl).bytes
    have hsecond : second.bytes = [255, 255, 255, 0] := ((hshows 1 _ _ rfl rfl).1 _ rfl).bytes
    have hcut : truncated = true :=
      htruncated.mpr ⟨0, _, first, rfl, rfl, by rw [hfirst]; decide⟩
    rw [hcut]
    refine ⟨rfl, ?_, hpending⟩
    rw [List.map_cons, List.map_cons, List.map_nil, hfirst, hsecond]

end Link

end SpiWifi
