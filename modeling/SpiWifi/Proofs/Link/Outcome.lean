import SpiWifi.Proofs.Socket.Connecting

/-!
# What becomes of a request

A request over the emulated device has few outcomes, whatever the settings of the link and whichever
replies are still to be lost. A frame that is too long for the link is not sent, and nothing happens.
Any other frame reaches the device, which is reset before if that is due. Whether the host then reads
the reply depends on three things: no reply to the command is to be lost, the reply is not longer than
a transfer, and at least one byte is searched for its beginning. A reply that is cut short is never
read, because its last byte is its end marker. In every case the device knows what serving made of its
state, but for the number of replies still to be lost.
-/

namespace SpiWifi

open Device Reader

namespace Link

theorem readReply_cut {settings : LinkSettings} {opcode : UInt8} {slots : List Slot} {reply : Frame}
    (fits : reply.Fits) (hheader : reply.header = opcode ||| replyBit) {size : Nat}
    (cut : size < reply.bytes.length ∨ settings.startBudget.toNat = 0) :
    ∃ e after, readReply settings opcode reply.width slots (Bytes.fit size reply.bytes) =
      (.error e, after) := by
  rcases hread : readReply settings opcode reply.width slots (Bytes.fit size reply.bytes) with
    ⟨e | count, after⟩
  · exact ⟨e, after, rfl⟩
  · exfalso
    let r : ReplyReader := { ReplyReader.ofOpcode opcode reply.width with
      budget := settings.startBudget.toNat }
    have hok : ∃ n, (r.parse slots (Bytes.fit size reply.bytes)).result = .ok n := by
      simp only [readReply] at hread
      split at hread
      · cases hread
      · next n hn => exact ⟨n, hn⟩
    obtain ⟨n, hok⟩ := hok
    obtain ⟨ps, k, rest, ha⟩ := ReplyReader.announces_of_parse_ok hok
    have hbudget : 1 ≤ settings.startBudget.toNat := by
      obtain ⟨filler, -, hlen, -⟩ := ha
      exact Nat.lt_of_le_of_lt (Nat.zero_le _) hlen
    rcases cut with hlt | hnone
    · -- the frame ends where its end marker stands, so nothing of it can be missing
      have hfit : Bytes.fit size reply.bytes = reply.bytes.take size := by
        rw [Bytes.fit, show size - reply.bytes.length = 0 by omega]
        exact List.append_nil _
      rw [hfit, show r.expectedHeader = reply.header from
        (ReplyReader.expectedHeader_ofOpcode opcode reply.width).trans hheader.symm] at ha
      have hcut := ha.append (reply.bytes.drop size)
      obtain ⟨k', hwhole⟩ := fits.announces hbudget Quiet.nil []
      rw [List.take_append_drop, List.append_assoc, List.cons_append] at hcut
      rw [List.nil_append, List.append_nil] at hwhole
      have hread : (frame settings.startBudget.toNat fun _ => reply.width).on reply.bytes =
          (.ok ⟨reply.header, reply.width, ps⟩, rest ++ reply.bytes.drop size) :=
        frame_on_of_stop hcut
      have hrest : rest ++ reply.bytes.drop size = [] :=
        congrArg Prod.snd (hread.symm.trans (frame_on_of_stop hwhole))
      have hdrop := List.drop_eq_nil_iff.mp (List.append_eq_nil_iff.mp hrest).2
      omega
    · omega

end Link

namespace Device

/-- What no socket request changes: the state but for its sockets and its records of commands and
replies. -/
def State.rest (s : State) : State :=
  { s with sockets := Vector.replicate socketCount Socket.free, received := [], lost := [] }

/-- The state once the last reply went out or was lost. -/
structure State.Replied (s s' : State) : Prop where
  same : s' = { s with lost := s'.lost }
  losses : ∀ c, s'.lossesLeft c ≤ s.lossesLeft c

theorem State.Replied.refl (s : State) : s.Replied s := ⟨rfl, fun _ => Nat.le_refl _⟩

theorem State.loseReplies_replied (s : State) (c : Command) :
    s.Replied (s.loseReplies c (s.lossesLeft c - 1)) := by
  refine ⟨rfl, fun c' => ?_⟩
  by_cases hc : c' = c
  · subst hc
    simp only [loseReplies, lossesLeft, Table.get?_set_self, Option.getD_some]
    omega
  · simp only [loseReplies, lossesLeft, Table.get?_set_ne hc, Nat.le_refl]

theorem Line.execute_replied {tx : Bytes} {f : Frame} {s s' : State} {reply : Option Frame}
    (sent : Frame.decodeCommand tx = .ok f) (h : handle f s = (reply, s')) :
    s'.Replied (Line.execute tx s).2 := by
  cases reply with
  | none =>
    rw [execute_of_refused sent h]
    exact .refl s'
  | some reply =>
    obtain ⟨c, hc, -⟩ := handle_some h
    rw [execute_of_served sent h, hc]
    rcases Nat.eq_zero_or_pos (s'.lossesLeft c) with hkept | hlost
    · cases hencode : reply.encode with
      | error e =>
        rw [answer_of_encode_error hkept hencode]
        exact .refl s'
      | ok bytes =>
        rw [answer_of_encode hkept hencode]
        exact .refl s'
    · rw [answer_of_lost hlost]
      exact s'.loseReplies_replied c

end Device

namespace Link

/-- The device as the next request finds it: after the reset that is due. -/
def device (l : Link Line) : State := l.ensureReset.transport.state

/-- A socket as the next request finds it. -/
def found (l : Link Line) (i : Fin socketCount) : Device.Socket := l.device.sockets.get i

section
variable {l : Link Line}

theorem device_of_initialized (h : l.initialized = true) : l.device = l.transport.state := by
  rw [device, ensureReset_of_initialized h]

theorem found_of_initialized (h : l.initialized = true) (i : Fin socketCount) :
    l.found i = l.socketAt i := by
  rw [found, device_of_initialized h]
  rfl

theorem found_of_uninitialized (h : l.initialized = false) (i : Fin socketCount) :
    l.found i = Socket.free := by
  obtain ⟨d, signals, settings, initialized, patience⟩ := l
  cases h
  exact get_replicate _ _

theorem initialized_of_reserved {i : Fin socketCount} (h : (l.found i).reserved = true) :
    l.initialized = true := by
  cases hinit : l.initialized with
  | true => rfl
  | false =>
    rw [found_of_uninitialized hinit] at h
    cases h

theorem ensureReset_initialized (l : Link Line) : l.ensureReset.initialized = true := by
  obtain ⟨d, signals, settings, initialized, patience⟩ := l
  cases initialized <;> rfl

theorem device_leaving (l : Link Line) (s : State) : (l.ensureReset.leaving s).device = s :=
  device_of_initialized (ensureReset_initialized l)

theorem found_leaving (l : Link Line) (s : State) (i : Fin socketCount) :
    (l.ensureReset.leaving s).found i = s.sockets.get i := by rw [found, device_leaving]

theorem found_told (h : l.initialized = true) (f : State → State) (i : Fin socketCount) :
    (l.onTransport (Line.onState f)).found i = (f l.transport.state).sockets.get i :=
  @found_of_initialized (l.onTransport (Line.onState f)) h i

/-- Before the first transaction the device forgets whatever happens to its sockets. -/
theorem found_told_before (h : l.initialized = false) (f : State → State) (i : Fin socketCount) :
    (l.onTransport (Line.onState f)).found i = l.found i := by
  rw [found_of_uninitialized h]
  exact @found_of_uninitialized (l.onTransport (Line.onState f)) h i

/-- The settings let a request and a reply of these lengths through, and no reply to the command is
to be lost. -/
structure Carries (l : Link Line) (c : Command) (asks answers : Nat) : Prop where
  asks : asks ≤ l.settings.maxFrameSize.toNat
  answers : answers ≤ l.settings.maxFrameSize.toNat
  budget : 1 ≤ l.settings.startBudget.toNat
  kept : l.device.lossesLeft c = 0

variable {f : Frame}

theorem request_of_outgoing_error {e : ProtocolError} (hout : l.settings.outgoing f = .error e)
    (slots : List Slot) : (request f slots).run l = ((.error (.protocol e), slots), l) := by
  rw [run_request, run_send, hout]

theorem request_of_outgoing {tx : Bytes} (hout : l.settings.outgoing f = .ok tx)
    (slots : List Slot) :
    (request f slots).run l =
      (readReply l.settings f.opcode (replyWidth f) slots
        (Bytes.fit (l.settings.replySize l.settings.maxFrameSize.toNat)
          (Line.execute tx l.device).1),
      l.ensureReset.leaving (Line.execute tx l.device).2) := by
  rw [run_request, send_device hout (head?_of_outgoing hout)]
  dsimp only
  rw [run_receive, fetch_device, ensureReset_settings]
  obtain ⟨d, signals, settings, initialized, patience⟩ := l
  cases initialized <;> rfl

theorem outgoing_of_fits (fits : f.Fits) (h : f.bytes.length ≤ l.settings.maxFrameSize.toNat) :
    l.settings.outgoing f = .ok f.bytes := by
  rw [LinkSettings.outgoing, Frame.encode_ok_iff.mpr ⟨fits, rfl⟩]
  exact if_neg (Nat.not_lt.mpr h)

theorem outgoing_of_long (fits : f.Fits) (h : l.settings.maxFrameSize.toNat < f.bytes.length) :
    l.settings.outgoing f =
      .error (.frameTooLarge f.bytes.length l.settings.maxFrameSize.toNat) := by
  rw [LinkSettings.outgoing, Frame.encode_ok_iff.mpr ⟨fits, rfl⟩]
  exact if_pos h

variable {c : Command} {s : State}

/-- Whatever comes of a request, either it was not sent, or the device was left as serving left
it. -/
theorem request_effect (hf : IsRequestFor c f) {reply : Option Frame}
    (served : (serve c ⟨f.params⟩).run (l.device.recorded c) = (reply, s)) (slots : List Slot) :
    ((request f slots).run l).2 = l ∨
      ∃ s', s.Replied s' ∧ ((request f slots).run l).2 = l.ensureReset.leaving s' := by
  cases hout : l.settings.outgoing f with
  | error e => exact Or.inl (by rw [request_of_outgoing_error hout])
  | ok tx =>
    have hsent := decodeCommand_of_encode (encode_of_outgoing hout) hf.width
    have hhandle := (handle_of_request hf l.device).trans served
    rw [request_of_outgoing hout]
    exact Or.inr ⟨_, Line.execute_replied hsent hhandle, rfl⟩

/-- A request uses up no losses but those of its own command. -/
theorem lossesLeft_request (hf : IsRequestFor c f) {c' : Command} (hne : c' ≠ c)
    (slots : List Slot) :
    ((request f slots).run l).2.device.lossesLeft c' = l.device.lossesLeft c' := by
  cases hout : l.settings.outgoing f with
  | error e => rw [request_of_outgoing_error hout]
  | ok tx =>
    have hsent := decodeCommand_of_encode (encode_of_outgoing hout) hf.width
    rw [request_of_outgoing hout, device_leaving]
    rcases hhandle : handle f l.device with ⟨_ | reply, served⟩
    · rw [Line.execute_of_refused hsent hhandle]
      exact lossesLeft_of_handle hhandle c'
    · rw [Line.execute_of_served hsent hhandle, hf.command?, ← lossesLeft_of_handle hhandle c']
      rcases Nat.eq_zero_or_pos (served.lossesLeft c) with hkept | hlost
      · cases hencode : reply.encode with
        | error e => rw [Line.answer_of_encode_error hkept hencode]
        | ok bytes => rw [Line.answer_of_encode hkept hencode]
      · rw [Line.answer_of_lost hlost]
        simp only [State.loseReplies, State.lossesLeft, Table.get?_set_ne hne]

/-- A request that is served uses up one loss of its own command, if one is due. -/
theorem lossesLeft_served (hf : IsRequestFor c f) (fits : f.Fits)
    (asks : f.bytes.length ≤ l.settings.maxFrameSize.toNat) {reply : Frame}
    (replyFits : reply.Fits)
    (served : (serve c ⟨f.params⟩).run (l.device.recorded c) = (some reply, s))
    (slots : List Slot) :
    ((request f slots).run l).2.device.lossesLeft c = l.device.lossesLeft c - 1 := by
  have hhandle := (handle_of_request hf l.device).trans served
  have hsent := decodeCommand_of_encode (Frame.encode_ok_iff.mpr ⟨fits, rfl⟩) hf.width
  rw [request_of_outgoing (outgoing_of_fits fits asks), device_leaving,
    Line.execute_of_served hsent hhandle, hf.command?, ← lossesLeft_of_handle hhandle c]
  rcases Nat.eq_zero_or_pos (s.lossesLeft c) with hkept | hlost
  · rw [Line.answer_of_encode hkept (Frame.encode_ok_iff.mpr ⟨replyFits, rfl⟩), hkept]
  · rw [Line.answer_of_lost hlost]
    simp only [State.loseReplies, State.lossesLeft, Table.get?_set_self, Option.getD_some]

/-- What a request whose frames have these lengths gives: if it was sent, the device was left as
serving left it, and the value is there just if both frames get through. -/
structure Outcome (l : Link Line) (c : Command) (asks answers : Nat) (s : State) {α : Type} (a : α)
    (result : Except LinkError α × Link Line) : Prop where
  unsent : l.settings.maxFrameSize.toNat < asks → result.2 = l
  sent : asks ≤ l.settings.maxFrameSize.toNat →
    ∃ s', s.Replied s' ∧ result.2 = l.ensureReset.leaving s'
  carried : l.Carries c asks answers → result.1 = .ok a
  failed : ¬ l.Carries c asks answers → ∃ e, result.1 = .error e

namespace Outcome

variable {asks answers : Nat} {α β : Type} {a b : α} {result : Except LinkError α × Link Line}

theorem of_ok (h : Outcome l c asks answers s a result) (hok : result.1 = .ok b) :
    b = a ∧ l.Carries c asks answers := by
  by_cases hc : l.Carries c asks answers
  · exact ⟨Except.ok.inj (hok.symm.trans (h.carried hc)), hc⟩
  · obtain ⟨e, he⟩ := h.failed hc
    cases hok.symm.trans he

theorem map (h : Outcome l c asks answers s a result) (g : α → β) :
    Outcome l c asks answers s (g a) (result.1.map g, result.2) where
  unsent := h.unsent
  sent := h.sent
  carried hc := by rw [h.carried hc]; rfl
  failed hc := by
    obtain ⟨e, he⟩ := h.failed hc
    exact ⟨e, by rw [he]; rfl⟩

end Outcome

/-- A request with the slots it filled as its value. -/
def answer (f : Frame) (slots : List Slot) (l : Link Line) :
    Except LinkError (Reply × List Slot) × Link Line :=
  match (request f slots).run l with
  | ((.error e, _), l) => (.error e, l)
  | ((.ok reply, slots), l) => (.ok (reply, slots), l)

section
variable (hf : IsRequestFor c f) (fits : f.Fits) {reply : Frame}
  (served : (serve c ⟨f.params⟩).run (l.device.recorded c) = (some reply, s))
  (replyFits : reply.Fits) (slots : List Slot)
include hf fits served replyFits

theorem execute_of_carried (hc : l.Carries c f.bytes.length reply.bytes.length) :
    Line.execute f.bytes l.device = (reply.bytes, s) := by
  have hhandle := (handle_of_request hf l.device).trans served
  have hsent := decodeCommand_of_encode (Frame.encode_ok_iff.mpr ⟨fits, rfl⟩) hf.width
  rw [Line.execute_of_served hsent hhandle, hf.command?]
  exact Line.answer_of_encode ((lossesLeft_of_handle hhandle c).trans hc.kept)
    (Frame.encode_ok_iff.mpr ⟨replyFits, rfl⟩)

theorem readReply_of_carried (hc : l.Carries c f.bytes.length reply.bytes.length) :
    ∃ truncated, readReply l.settings f.opcode (replyWidth f) slots
        (Bytes.fit (l.settings.replySize l.settings.maxFrameSize.toNat)
          (Line.execute f.bytes l.device).1) =
      (.ok ⟨min reply.params.length slots.length, truncated⟩,
        stored (slots.map Slot.clear) reply.params) := by
  obtain ⟨-, -, hheader, hwidth⟩ := reply_expected ((handle_of_request hf l.device).trans served)
  have hsize : reply.bytes.length ≤ l.settings.replySize l.settings.maxFrameSize.toNat := by
    have := replyFits.length_bytes_le
    have := hc.answers
    simp only [LinkSettings.replySize, Frame.maxSize]
    omega
  rw [execute_of_carried hf fits served replyFits hc, hwidth,
    readReply_whole hc.budget f.opcode slots replyFits hheader hsize]
  exact ⟨_, rfl⟩

theorem readReply_of_not_carried (hasks : f.bytes.length ≤ l.settings.maxFrameSize.toNat)
    (hc : ¬ l.Carries c f.bytes.length reply.bytes.length) :
    ∃ e after, readReply l.settings f.opcode (replyWidth f) slots
        (Bytes.fit (l.settings.replySize l.settings.maxFrameSize.toNat)
          (Line.execute f.bytes l.device).1) = (.error e, after) := by
  have hhandle := (handle_of_request hf l.device).trans served
  have hsent := decodeCommand_of_encode (Frame.encode_ok_iff.mpr ⟨fits, rfl⟩) hf.width
  obtain ⟨-, -, hheader, hwidth⟩ := reply_expected hhandle
  rw [Line.execute_of_served hsent hhandle, hf.command?, hwidth]
  rcases Nat.eq_zero_or_pos (s.lossesLeft c) with hkept | hlost
  · rw [Line.answer_of_encode hkept (Frame.encode_ok_iff.mpr ⟨replyFits, rfl⟩)]
    refine readReply_cut replyFits hheader ?_
    by_contra hwhole
    rw [not_or, Nat.not_lt] at hwhole
    refine hc ⟨hasks, Nat.le_trans hwhole.1 ?_, Nat.pos_of_ne_zero hwhole.2,
      (lossesLeft_of_handle hhandle c).symm.trans hkept⟩
    simp only [LinkSettings.replySize]
    omega
  · rw [Line.answer_of_lost hlost]
    have hsilence : (readReply l.settings f.opcode reply.width slots
        (Bytes.fit (l.settings.replySize l.settings.maxFrameSize.toNat) [])).1 = .error _ :=
      readReply_silence f.opcode reply.width slots _
    exact ⟨_, _, Prod.ext hsilence rfl⟩

/-- A request whose command is served. The value is what the slots then hold. -/
theorem request_outcome :
    ∃ truncated, Outcome l c f.bytes.length reply.bytes.length s
      ((⟨min reply.params.length slots.length, truncated⟩ : Reply),
        stored (slots.map Slot.clear) reply.params)
      (answer f slots l) := by
  unfold answer
  by_cases hlong : l.settings.maxFrameSize.toNat < f.bytes.length
  · rw [request_of_outgoing_error (outgoing_of_long fits hlong)]
    exact ⟨false, fun _ => rfl, fun hle => absurd hlong (Nat.not_lt.mpr hle),
      fun hc => absurd hlong (Nat.not_lt.mpr hc.asks), fun _ => ⟨_, rfl⟩⟩
  · have hasks : f.bytes.length ≤ l.settings.maxFrameSize.toNat := Nat.not_lt.mp hlong
    have hsent := decodeCommand_of_encode (Frame.encode_ok_iff.mpr ⟨fits, rfl⟩) hf.width
    have heffect := Line.execute_replied hsent ((handle_of_request hf l.device).trans served)
    rw [request_of_outgoing (outgoing_of_fits fits hasks)]
    by_cases hc : l.Carries c f.bytes.length reply.bytes.length
    · obtain ⟨truncated, hread⟩ := readReply_of_carried hf fits served replyFits slots hc
      rw [hread]
      exact ⟨truncated, fun hlt => absurd hlt hlong, fun _ => ⟨_, heffect, rfl⟩, fun _ => rfl,
        fun hnot => absurd hc hnot⟩
    · obtain ⟨e, after, hread⟩ := readReply_of_not_carried hf fits served replyFits slots hasks hc
      rw [hread]
      exact ⟨false, fun hlt => absurd hlt hlong, fun _ => ⟨_, heffect, rfl⟩,
        fun hyes => absurd hyes hc, fun _ => ⟨e, rfl⟩⟩

end

end

end Link

end SpiWifi
