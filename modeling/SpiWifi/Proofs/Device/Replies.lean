import SpiWifi.Proofs.Board.Basic
import SpiWifi.Proofs.Device.Sockets
import SpiWifi.Proofs.Text.Utf8
import SpiWifi.Proofs.Wire.Sizes

/-!
# Replies that fit

A reply carries what the device knows: received bytes, names of networks, its firmware version.
Received bytes and the names found by a scan are cut to what fits a frame; the name of the joined
network came in through a frame, and what a frame brought in goes out in one. So each reply that
the device builds can be sent, and an error marker only ever answers what was rejected.
-/

namespace SpiWifi

namespace Device

/-- The most bytes of text that a reply can carry. -/
def longestText : Nat := 247

/-- What the device may be asked for fits a reply. -/
structure State.Sendable (s : State) : Prop where
  firmware : (Text.Utf8.encode s.firmware).length ≤ longestText
  mac : s.mac.length = 6
  networks : ∀ n ∈ s.networks, n.bssid.length = 6
  joined : ∀ n, s.radio.network = some n →
    n.bssid.length = 6 ∧ (Text.Utf8.encode n.ssid).length ≤ longestText

/-- Parameters as they can come in through a frame. -/
def Params.Short (p : Params) : Prop := ∀ b ∈ p.list, b.length ≤ longestText

theorem Params.Short.text {p : Params} (short : p.Short) {i : Nat} {t : String}
    (h : p.text i = some t) : (Text.Utf8.encode t).length ≤ longestText := by
  obtain ⟨b, hb, ht⟩ := Option.bind_eq_some_iff.mp h
  rw [Text.Utf8.encode_of_decode? ht]
  exact short b (List.mem_of_getElem? hb)

@[simp] theorem AccessPoint.length_bssidOf (ssid : String) : (bssidOf ssid).length = 6 := by
  simp [bssidOf]

namespace State.Sendable

theorem initial : State.initial.Sendable where
  firmware := by decide
  mac := rfl
  networks n hn := absurd hn List.not_mem_nil
  joined n hn := nomatch hn

variable {s s' : State}

/-- Only four fields matter. -/
theorem of_eq (h : s.Sendable) (firmware : s'.firmware = s.firmware) (mac : s'.mac = s.mac)
    (networks : s'.networks = s.networks) (radio : s'.radio.network = s.radio.network) :
    s'.Sendable where
  firmware := firmware ▸ h.firmware
  mac := mac ▸ h.mac
  networks := networks ▸ h.networks
  joined := radio ▸ h.joined

theorem modifySocket (h : s.Sendable) (i : Fin socketCount) (f : Socket → Socket) :
    (s.modifySocket i f).Sendable := h.of_eq rfl rfl rfl rfl

theorem onSocket (h : s.Sendable) (raw : UInt8) (f : Socket → Socket) :
    (s.onSocket raw f).Sendable := by
  unfold State.onSocket
  split
  · exact h.modifySocket _ _
  · exact h

theorem reserve (h : s.Sendable) : s.reserve.2.Sendable := by
  unfold State.reserve
  split
  · exact h.of_eq rfl rfl rfl rfl
  · exact h

theorem listen (h : s.Sendable) (i : Fin socketCount) (port : UInt16) (mode : UInt8) :
    (s.listen i port mode).Sendable := h.modifySocket _ _

theorem connectSlot (h : s.Sendable) (i : Fin socketCount) (peer : Endpoint) (mode : UInt8) :
    (s.connectSlot i peer mode).2.Sendable := by
  rw [State.connectSlot_eq]
  exact h.modifySocket _ _

theorem stopSlot (h : s.Sendable) (i : Fin socketCount) : (s.stopSlot i).Sendable := by
  rw [State.stopSlot_eq]
  exact h.modifySocket _ _

theorem available (h : s.Sendable) (i : Fin socketCount) : (s.available i).2.Sendable := by
  rw [State.available_eq]
  exact h.modifySocket _ _

theorem sendStream (h : s.Sendable) (i : Fin socketCount) (data : Bytes) :
    (s.sendStream i data).2.Sendable := by
  rw [State.sendStream_eq]
  exact h.modifySocket _ _

theorem pollStatus (h : s.Sendable) : s.pollStatus.2.Sendable := by
  unfold State.pollStatus
  split
  · exact h
  · exact h.of_eq rfl rfl rfl rfl

theorem disconnect (h : s.Sendable) : s.disconnect.Sendable where
  firmware := h.firmware
  mac := h.mac
  networks := h.networks
  joined _ hn := nomatch hn

theorem scanResults (h : s.Sendable) (reply : Frame) : (s.scanResults reply).2.Sendable := by
  unfold State.scanResults
  split
  · exact h.of_eq rfl rfl rfl rfl
  · exact h

/-- Only a network of the table can be joined, and its name is the one that was asked for. -/
theorem join (h : s.Sendable) {ssid : String}
    (short : (Text.Utf8.encode ssid).length ≤ longestText) (secret : Option Bytes) :
    (s.join ssid secret).Sendable := by
  refine ⟨h.firmware, h.mac, h.networks, fun n hn => ?_⟩
  simp only [State.join] at hn
  split at hn
  · next found hfind =>
    split at hn
    · cases hn
      have hname : n.ssid = ssid := by simpa using List.find?_some hfind
      exact ⟨h.networks n (List.mem_of_find?_eq_some hfind), hname ▸ short⟩
    · cases hn
  · cases hn

theorem startAccessPoint (h : s.Sendable) {ssid : String}
    (short : (Text.Utf8.encode ssid).length ≤ longestText) (channel : UInt8)
    (secret : Option Bytes) : (s.startAccessPoint ssid channel secret).Sendable := by
  refine ⟨h.firmware, h.mac, h.networks, fun n hn => ?_⟩
  cases hn
  exact ⟨AccessPoint.length_bssidOf ssid, short⟩

end State.Sendable

namespace Serving

variable {α β : Type}

/-- From a sendable state the computation leads to one, and every value that it gives satisfies a
condition. -/
def Ensures (x : Serving α) (post : α → Prop) : Prop :=
  ∀ s : State, s.Sendable → (x.run s).2.Sendable ∧ ∀ a, (x.run s).1 = some a → post a

namespace Ensures

variable {post : α → Prop}

theorem pure {a : α} (h : post a) : Ensures (pure a : Serving α) post := by
  intro s hs
  refine ⟨hs, fun b hb => ?_⟩
  cases hb
  exact h

theorem need (x : Option α) : Ensures (need x) (x = some ·) := by
  intro s hs
  exact ⟨hs, fun a ha => ha⟩

theorem slot (raw : UInt8) : Ensures (slot raw) fun _ => True := by
  intro s hs
  exact ⟨hs, fun _ _ => trivial⟩

theorem get : Ensures (get : Serving State) State.Sendable := by
  intro s hs
  refine ⟨hs, fun a ha => ?_⟩
  cases ha
  exact hs

theorem modify {f : State → State} (h : ∀ s : State, s.Sendable → (f s).Sendable) :
    Ensures (modify f : Serving Unit) fun _ => True := by
  intro s hs
  exact ⟨h s hs, fun _ _ => trivial⟩

theorem modifyGet {f : State → α × State}
    (h : ∀ s : State, s.Sendable → (f s).2.Sendable ∧ post (f s).1) :
    Ensures (modifyGet f : Serving α) post := by
  intro s hs
  refine ⟨(h s hs).1, fun a ha => ?_⟩
  cases ha
  exact (h s hs).2

theorem update {f : State → α × State} (h : ∀ s : State, s.Sendable → (f s).2.Sendable) :
    Ensures (MonadState.modifyGet f : Serving α) fun _ => True :=
  modifyGet fun s hs => ⟨h s hs, trivial⟩

theorem bind {x : Serving α} {k : α → Serving β} {after : β → Prop} (hx : Ensures x post)
    (hk : ∀ a, post a → Ensures (k a) after) : Ensures (x >>= k) after := by
  intro s hs
  obtain ⟨hs', hpost⟩ := hx s hs
  rw [run_bind]
  rcases h : x.run s with ⟨_ | a, s'⟩
  · rw [h] at hs'
    exact ⟨hs', fun _ hb => nomatch hb⟩
  · rw [h] at hs' hpost
    exact hk a (hpost a rfl) s' hs'

end Ensures

end Serving

open Serving

theorem reply_fits (c : Command) : (Frame.reply c).Fits := by
  rw [Frame.fits_iff_size]
  simp

section
variable {s : State} (hs : s.Sendable)
include hs

theorem macReply_fits : ((Frame.reply .getMacAddr).withParam s.mac).Fits := by
  rw [Frame.fits_iff_size]
  simp [hs.mac, Frame.maxParamsSize, Command.replyWidth, Width.lengthSize]

theorem firmwareReply_fits :
    ((Frame.reply .getFwVersion).withParam (Text.Utf8.encode s.firmware)).Fits := by
  have hlength := hs.firmware
  rw [longestText] at hlength
  rw [Frame.fits_iff_size]
  simp [Frame.maxParamsSize, Command.replyWidth, Width.lengthSize]
  omega

theorem nameReply_fits :
    ((Frame.reply .getCurrSsid).withParam
      (Text.Utf8.encode ((s.radio.network.map AccessPoint.ssid).getD ""))).Fits := by
  have hlength : (Text.Utf8.encode ((s.radio.network.map AccessPoint.ssid).getD "")).length ≤
      longestText := by
    cases hn : s.radio.network with
    | none => exact Nat.zero_le _
    | some n => exact (hs.joined n hn).2
  rw [longestText] at hlength
  rw [Frame.fits_iff_size]
  simp [Frame.maxParamsSize, Command.replyWidth, Width.lengthSize]
  omega

theorem addressReply_fits :
    ((Frame.reply .getCurrBssid).withParam
      ((s.radio.network.map AccessPoint.bssid).getD (Bytes.zeros 6))).Fits := by
  have hlength : ((s.radio.network.map AccessPoint.bssid).getD (Bytes.zeros 6)).length = 6 := by
    cases hn : s.radio.network with
    | none => rfl
    | some n => exact (hs.joined n hn).1
  rw [Frame.fits_iff_size]
  simp [hlength, Frame.maxParamsSize, Command.replyWidth, Width.lengthSize]

end

/-- Names are added only as long as the reply fits. -/
theorem addNames_fits {reply : Frame} (h : reply.Fits) (networks : List AccessPoint) :
    (State.addNames reply networks).Fits := by
  induction networks generalizing reply with
  | nil => exact h
  | cons n rest ih =>
    rw [State.addNames]
    split
    · exact h
    · next hsize =>
      refine ih (Frame.fits_iff_size.mpr ?_)
      rw [Frame.encodedLength_eq, Frame.headSize, Frame.maxSize] at hsize
      rw [Frame.maxParamsSize]
      omega

theorem scanResults_fits {reply : Frame} (h : reply.Fits) (s : State) :
    (s.scanResults reply).1.Fits := by
  unfold State.scanResults
  split
  · exact h
  · exact addNames_fits h _

theorem replyWith_fits {α : Type} {reply : Frame} (h : reply.Fits) {add : Frame → α → Frame}
    (hadd : ∀ v, (add reply v).Fits) (x : Option α) : (replyWith reply add x).Fits := by
  cases x with
  | none => exact h
  | some v => exact hadd v

theorem startServer_ensures (p : Params) : Ensures (startServer p) fun _ => True := by
  unfold startServer
  refine Ensures.bind (Ensures.need _) fun offset _ => Ensures.bind (Ensures.need _) fun port _ =>
    Ensures.bind (Ensures.need _) fun mode _ => Ensures.bind (Ensures.need _) fun raw _ => ?_
  split
  · exact Ensures.pure trivial
  · exact Ensures.bind (Ensures.modify fun s hs => hs.listen _ _ _) fun _ _ => Ensures.pure trivial

theorem startClient_ensures (p : Params) : Ensures (startClient p) fun _ => True := by
  unfold startClient
  refine Ensures.bind (Ensures.need _) fun target _ => Ensures.bind (Ensures.need _) fun ip _ =>
    Ensures.bind (Ensures.need _) fun port _ => Ensures.bind (Ensures.need _) fun raw _ =>
    Ensures.bind (Ensures.need _) fun mode _ => Ensures.bind Ensures.get fun s _ => ?_
  dsimp only
  split
  · exact Ensures.update fun s hs => hs.connectSlot _ _ _
  · exact Ensures.pure trivial

theorem networkReply_ensures (p : Params) {reply : Frame} (h : reply.Fits)
    {add : AccessPoint → Frame} (hadd : ∀ n, n.bssid.length = 6 → (add n).Fits) :
    Ensures (networkReply p reply add) Frame.Fits := by
  refine Ensures.bind (Ensures.need _) fun index _ => Ensures.bind Ensures.get fun s hs => ?_
  split
  · next n hn => exact Ensures.pure (hadd n (hs.networks n (List.mem_of_getElem? hn)))
  · exact Ensures.pure h

theorem getDatabuf_ensures (p : Params) : Ensures (serve .getDatabufTcp p) Frame.Fits := by
  unfold serve
  refine Ensures.bind (Ensures.need _) fun want _ => Ensures.bind (Ensures.need _) fun raw _ =>
    Ensures.bind (Ensures.slot _) fun i _ =>
    Ensures.bind (Ensures.modify fun s hs => hs.modifySocket _ _) fun _ _ =>
    Ensures.bind Ensures.get fun s _ => ?_
  dsimp only
  split
  · exact Ensures.pure (reply_fits _)
  · refine Ensures.bind (Ensures.modify fun s hs => hs.modifySocket _ _) fun _ _ => Ensures.pure ?_
    refine bulkReply_fits ?_
    rw [List.length_take]
    omega

/-- A command whose parameters are as short as a frame brings them in keeps the state sendable, and
its reply fits. -/
theorem serve_ensures (c : Command) {p : Params} (short : p.Short) :
    Ensures (serve c p) Frame.Fits := by
  cases c
  case getDatabufTcp => exact getDatabuf_ensures p
  all_goals
    unfold serve
    dsimp only
    repeat' with_reducible first
      | refine Ensures.bind (Ensures.need _) fun _ _ => ?_
      | refine Ensures.bind (Ensures.slot _) fun _ _ => ?_
      | refine Ensures.bind Ensures.get fun _ _ => ?_
      | refine Ensures.bind (startServer_ensures p) fun _ _ => ?_
      | refine Ensures.bind (startClient_ensures p) fun _ _ => ?_
      | refine networkReply_ensures p ?_ fun _ _ => ?_
      | refine Ensures.bind (Ensures.modify fun s hs => ?_) fun _ _ => ?_
      | refine Ensures.bind (Ensures.update fun s hs => ?_) fun _ _ => ?_
      | refine Ensures.modifyGet fun s hs => ⟨?_, ?_⟩
      | refine Ensures.pure ?_
      | split
  -- what is left are the changes of the state, then the replies
  all_goals first
    | exact hs.of_eq rfl rfl rfl rfl
    | exact hs.join (short.text ‹_›) _
    | exact hs.startAccessPoint (short.text ‹_›) _ _
    | exact hs.stopSlot _
    | exact hs.disconnect
    | exact hs.reserve
    | exact hs.available _
    | exact hs.sendStream _ _
    | exact hs.pollStatus
    | exact hs.scanResults _
    | exact macReply_fits ‹_›
    | exact nameReply_fits ‹_›
    | exact addressReply_fits ‹_›
    | exact firmwareReply_fits ‹_›
    | exact scanResults_fits (reply_fits _) _
    | refine replyWith_fits (reply_fits _) (fun v => Frame.fits_iff_size.mpr ?_) _
    | refine Frame.fits_iff_size.mpr ?_
  all_goals
    simp [ack, Frame.maxParamsSize, Command.replyWidth, Width.lengthSize, *]

/-- So does a whole command frame. -/
theorem handle_ensures {f : Frame} (short : (Params.mk f.params).Short) {s : State}
    (hs : s.Sendable) :
    (handle f s).2.Sendable ∧ ∀ reply, (handle f s).1 = some reply → reply.Fits := by
  unfold handle
  split
  · exact ⟨hs, fun _ h => nomatch h⟩
  · next c _ =>
    exact serve_ensures c short { s with received := c :: s.received } (hs.of_eq rfl rfl rfl rfl)

section
variable {f : Frame} {tx : Bytes} (hf : f.encode = .ok tx)
include hf

/-- What the device reads from a frame that was written is short, whatever width it reads with. -/
theorem short_of_decode {g : Frame} (hg : Frame.decodeCommand tx = .ok g) :
    (Params.mk g.params).Short := by
  obtain ⟨fits, rfl⟩ := Frame.encode_ok_iff.mp hf
  exact fun b hb => fits.length_le_of_decode hg hb

end

theorem answer_sendable {s : State} (hs : s.Sendable) (c : Option Command) (reply : Frame) :
    (Line.answer c reply s).2.Sendable := by
  unfold Line.answer
  split
  · exact hs.of_eq rfl rfl rfl rfl
  · split
    · exact hs
    · exact hs

theorem execute_sendable {f : Frame} {tx : Bytes} (hf : f.encode = .ok tx) {s : State}
    (hs : s.Sendable) : (Line.execute tx s).2.Sendable := by
  cases hg : Frame.decodeCommand tx with
  | error e =>
    unfold Line.execute
    rw [hg]
    exact hs
  | ok g =>
    obtain ⟨hs', -⟩ := handle_ensures (short_of_decode hf hg) hs
    rcases hrun : handle g s with ⟨_ | reply, s'⟩
    · rw [hrun] at hs'
      rw [Line.execute_of_refused hg hrun]
      exact hs'
    · rw [hrun] at hs'
      rw [Line.execute_of_served hg hrun]
      exact answer_sendable hs' _ _

/-- What the device lives through: frames that are written to it, resets, and what is done to it
from outside. -/
inductive Deed where
  | transfer (f : Frame)
  | reset
  | happens (h : Happening)
  | addNetwork (n : AccessPoint)
  | setScanLatency (polls : Nat)
  | setJoinLatency (polls : Nat)
  | setFirmware (version : String)

namespace Deed

/-- The state after it. A frame that breaks a limit of the format is never written. -/
def apply (e : Deed) (s : State) : State :=
  match e with
  | transfer f =>
    match f.encode with
    | .ok tx => (Line.execute tx s).2
    | .error _ => s
  | reset => (Line.setReset false { Line.new with state := s }).state
  | happens h => h.apply s
  | addNetwork n => s.addNetwork n
  | setScanLatency polls => { s with scanLatency := polls }
  | setJoinLatency polls => { s with joinLatency := polls }
  | setFirmware version => { s with firmware := version }

/-- The hardware address of a network has six bytes, and the firmware version fits a reply. -/
def Allowed : Deed → Prop
  | addNetwork n => n.bssid.length = 6
  | setFirmware version => (Text.Utf8.encode version).length ≤ longestText
  | _ => True

instance (e : Deed) : Decidable e.Allowed := by
  unfold Allowed
  cases e <;> infer_instance

end Deed

namespace State.Sendable

variable {s : State} (hs : s.Sendable)
include hs

theorem injectConnection (port : UInt16) (peer : Endpoint) (data : Bytes) :
    (s.injectConnection port peer data).2.Sendable := by
  have hreserve := hs.reserve
  unfold State.injectConnection
  split
  · exact hs
  · rcases hres : s.reserve with ⟨raw, s'⟩
    rw [hres] at hreserve
    dsimp only
    split
    · exact hreserve
    · exact hreserve.of_eq rfl rfl rfl rfl

theorem happens (h : Happening) : (h.apply s).Sendable := by
  cases h with
  | connection port peer data => exact hs.injectConnection port peer data
  | push raw data => exact hs.onSocket _ _
  | pushDatagram raw sender data => exact hs.onSocket _ _
  | closeRemote raw => exact hs.onSocket _ _
  | _ => exact hs.of_eq rfl rfl rfl rfl

theorem apply {e : Deed} (allowed : e.Allowed) : (e.apply s).Sendable := by
  cases e with
  | transfer f =>
    unfold Deed.apply
    dsimp only
    split
    · next tx hf => exact execute_sendable hf hs
    · exact hs
  | reset => exact hs.of_eq rfl rfl rfl rfl
  | happens h => exact hs.happens h
  | addNetwork n =>
    refine ⟨hs.firmware, hs.mac, fun m hm => ?_, hs.joined⟩
    rcases List.mem_append.mp hm with hm | hm
    · exact hs.networks m hm
    · cases List.mem_singleton.mp hm
      exact allowed
  | setScanLatency polls => exact hs.of_eq rfl rfl rfl rfl
  | setJoinLatency polls => exact hs.of_eq rfl rfl rfl rfl
  | setFirmware version => exact ⟨allowed, hs.mac, hs.networks, hs.joined⟩

end State.Sendable

def State.after (s : State) : List Deed → State
  | [] => s
  | e :: rest => (e.apply s).after rest

theorem State.Sendable.after {s : State} (hs : s.Sendable) {deeds : List Deed}
    (allowed : ∀ e ∈ deeds, e.Allowed) : (s.after deeds).Sendable := by
  induction deeds generalizing s with
  | nil => exact hs
  | cons e rest ih =>
    rw [List.forall_mem_cons] at allowed
    exact ih (hs.apply allowed.1) allowed.2

end Device

end SpiWifi
