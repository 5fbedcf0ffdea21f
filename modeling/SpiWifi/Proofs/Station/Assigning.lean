import SpiWifi.Proofs.Station.Inquiries

/-!
# Settings of the station

Six calls set something on the device: addresses, name servers, the host name, and the mode or the value
of a pin. A count in the request says which of several addresses are meant, and two calls write the value
of a pin. Whatever the sequence of such calls, each setting has the value of the last call that reached
the device and covers it, and nothing else is changed. The host reads the addresses back in another order
than it sends them.
-/

namespace SpiWifi

open Device

/-- A call that sets something on the device. -/
inductive SettingCall where
  | ipConfig (valid : UInt8) (ip gateway subnet : Ipv4)
  | dns (valid : UInt8) (dns1 dns2 : Ipv4)
  | hostname (name : String)
  | pinMode (pin mode : UInt8)
  | digitalWrite (pin : UInt8) (on : Bool)
  | analogWrite (pin value : UInt8)
  deriving DecidableEq

namespace SettingCall

def run : SettingCall → HostM Line Unit
  | ipConfig valid ip gateway subnet => Host.setIpConfig valid ip gateway subnet
  | dns valid dns1 dns2 => Host.setDns valid dns1 dns2
  | hostname name => Host.setHostname name
  | pinMode pin mode => Host.pinMode pin mode
  | digitalWrite pin on => Host.digitalWrite pin on
  | analogWrite pin value => Host.analogWrite pin value

def command : SettingCall → Command
  | ipConfig .. => .setIpConfig
  | dns .. => .setDnsConfig
  | hostname .. => .setHostname
  | pinMode .. => .setPinMode
  | digitalWrite .. => .setDigitalWrite
  | analogWrite .. => .setAnalogWrite

def params : SettingCall → List Bytes
  | ipConfig valid ip gateway subnet => [[valid], ip.octets, gateway.octets, subnet.octets]
  | dns valid dns1 dns2 => [[valid], dns1.octets, dns2.octets]
  | hostname name => [Text.Utf8.encode name]
  | pinMode pin mode => [[pin], [mode]]
  | digitalWrite pin on => [[pin], [if on then 1 else 0]]
  | analogWrite pin value => [[pin], [value]]

def frame (call : SettingCall) : Frame := call.params.foldl Frame.withParam (Frame.command call.command)

theorem run_eq (call : SettingCall) :
    call.run = Host.expectAck call.command fun f => call.params.foldl Frame.withParam f := by
  cases call <;> rfl

/-- The frame of the call encodes, and a transfer takes it. -/
def Encodes (settings : LinkSettings) (call : SettingCall) : Prop :=
  (settings.outgoing call.frame).toBool = true

instance (settings : LinkSettings) (call : SettingCall) : Decidable (call.Encodes settings) :=
  inferInstanceAs (Decidable (_ = _))

def ip? : SettingCall → Option Ipv4
  | ipConfig valid ip _ _ => if 1 ≤ valid then some ip else none
  | _ => none

def gateway? : SettingCall → Option Ipv4
  | ipConfig valid _ gateway _ => if 2 ≤ valid then some gateway else none
  | _ => none

def subnet? : SettingCall → Option Ipv4
  | ipConfig valid _ _ subnet => if 3 ≤ valid then some subnet else none
  | _ => none

def dns1? : SettingCall → Option Ipv4
  | dns valid dns1 _ => if 1 ≤ valid then some dns1 else none
  | _ => none

def dns2? : SettingCall → Option Ipv4
  | dns valid _ dns2 => if 2 ≤ valid then some dns2 else none
  | _ => none

def hostname? : SettingCall → Option String
  | hostname name => some name
  | _ => none

/-- The mode that the call sets of a pin. -/
def mode? (p : UInt8) : SettingCall → Option UInt8
  | pinMode pin mode => if pin = p then some mode else none
  | _ => none

def value? (p : UInt8) : SettingCall → Option UInt8
  | digitalWrite pin on => if pin = p then some (if on then 1 else 0) else none
  | analogWrite pin value => if pin = p then some value else none
  | _ => none

/-- The pin that the call is about. -/
def pin? : SettingCall → Option UInt8
  | pinMode pin _ => some pin
  | digitalWrite pin _ => some pin
  | analogWrite pin _ => some pin
  | _ => none

/-- What the last call that covers a setting gives it, or what it was at first. -/
def latest {α : Type} (cover : SettingCall → Option α) (calls : List SettingCall) (first : α) : α :=
  (calls.filterMap cover).getLast?.getD first

theorem latest_cons {α : Type} (cover : SettingCall → Option α) (call : SettingCall)
    (calls : List SettingCall) (first : α) :
    latest cover (call :: calls) first = latest cover calls ((cover call).getD first) := by
  simp only [latest, List.filterMap_cons]
  cases hcall : cover call with
  | none => rfl
  | some a =>
    simp only [Option.getD_some]
    cases hrest : calls.filterMap cover with
    | nil => rfl
    | cons b rest => simp [List.getLast?_cons]

end SettingCall

namespace Device

/-- The state but for its records of commands and replies. -/
def State.unrecorded (s : State) : State := { s with received := [], lost := [] }

def State.untouched (s : State) : State :=
  { s.unrecorded with
    ip := .unspecified
    subnet := .unspecified
    gateway := .unspecified
    dns1 := .unspecified
    dns2 := .unspecified
    hostname := ""
    pins := [] }

/-- A pin as it is read and written; one that was never set has zeros. -/
def State.pin (s : State) (p : UInt8) : Pin := (s.pins.get? p).getD ⟨0, 0⟩

end Device

namespace SettingCall

/-- What the device becomes by the call. -/
def apply (s : State) : SettingCall → State
  | ipConfig valid ip gateway subnet =>
    { s with
      ip := if 1 ≤ valid then ip else s.ip
      gateway := if 2 ≤ valid then gateway else s.gateway
      subnet := if 3 ≤ valid then subnet else s.subnet }
  | dns valid dns1 dns2 =>
    { s with
      dns1 := if 1 ≤ valid then dns1 else s.dns1
      dns2 := if 2 ≤ valid then dns2 else s.dns2 }
  | hostname name => { s with hostname := name }
  | pinMode pin mode => s.setPin pin fun old => { old with mode := mode }
  | digitalWrite pin on => s.setPin pin fun old => { old with value := if on then 1 else 0 }
  | analogWrite pin value => s.setPin pin fun old => { old with value := value }

theorem run_serve (call : SettingCall) (s : State) :
    (serve call.command ⟨call.params⟩).run s = (some (ack call.command true), call.apply s) := by
  cases call with
  | ipConfig valid ip gateway subnet =>
    unfold serve
    refine (Serving.run_need_bind (a := valid) rfl _ _).trans ?_
    by_cases h1 : 1 ≤ valid <;> by_cases h2 : 2 ≤ valid <;> by_cases h3 : 3 ≤ valid <;>
      simp only [apply, h1, h2, h3, if_true, if_false] <;> rfl
  | dns valid dns1 dns2 =>
    unfold serve
    refine (Serving.run_need_bind (a := valid) rfl _ _).trans ?_
    by_cases h1 : 1 ≤ valid <;> by_cases h2 : 2 ≤ valid <;>
      simp only [apply, h1, h2, if_true, if_false] <;> rfl
  | hostname name =>
    unfold serve
    exact Serving.run_need_bind (Text.Utf8.decode?_encode name) _ s
  | pinMode pin mode => rfl
  | digitalWrite pin on => rfl
  | analogWrite pin value => rfl

/-- A setting that each call either covers or leaves alone has the value of the last call that covers
it. -/
theorem foldl_apply_latest {α : Type} {view : State → α} {cover : SettingCall → Option α}
    (step : ∀ call s, view (apply s call) = (cover call).getD (view s)) (calls : List SettingCall)
    (s : State) : view (calls.foldl apply s) = latest cover calls (view s) := by
  induction calls generalizing s with
  | nil => rfl
  | cons call rest ih => rw [List.foldl_cons, ih, step, latest_cons]

section
variable (call : SettingCall) (s : State)

theorem getD_ite {α : Type} (c : Prop) [Decidable c] (a b : α) :
    (if c then some a else none).getD b = if c then a else b := by
  split <;> rfl

theorem ip_apply : (apply s call).ip = (ip? call).getD s.ip := by
  cases call <;> simp [apply, ip?, getD_ite, State.setPin]

theorem gateway_apply : (apply s call).gateway = (gateway? call).getD s.gateway := by
  cases call <;> simp [apply, gateway?, getD_ite, State.setPin]

theorem subnet_apply : (apply s call).subnet = (subnet? call).getD s.subnet := by
  cases call <;> simp [apply, subnet?, getD_ite, State.setPin]

theorem dns1_apply : (apply s call).dns1 = (dns1? call).getD s.dns1 := by
  cases call <;> simp [apply, dns1?, getD_ite, State.setPin]

theorem dns2_apply : (apply s call).dns2 = (dns2? call).getD s.dns2 := by
  cases call <;> simp [apply, dns2?, getD_ite, State.setPin]

theorem hostname_apply : (apply s call).hostname = (hostname? call).getD s.hostname := by
  cases call <;> rfl

theorem pin_setPin (pin p : UInt8) (f : Pin → Pin) :
    (s.setPin pin f).pin p = if pin = p then f (s.pin p) else s.pin p := by
  unfold State.setPin State.pin
  split
  · next hpin => rw [hpin, Table.get?_set_self, Option.getD_some]
  · next hpin => rw [Table.get?_set_ne (Ne.symm hpin)]

theorem mode_apply (p : UInt8) :
    ((apply s call).pin p).mode = (mode? p call).getD (s.pin p).mode := by
  cases call with
  | ipConfig | dns | hostname => rfl
  | pinMode | digitalWrite | analogWrite =>
    simp only [apply, pin_setPin, mode?]
    split <;> rfl

theorem value_apply (p : UInt8) :
    ((apply s call).pin p).value = (value? p call).getD (s.pin p).value := by
  cases call with
  | ipConfig | dns | hostname => rfl
  | pinMode | digitalWrite | analogWrite =>
    simp only [apply, pin_setPin, value?]
    split <;> rfl

theorem isSome_setPin (pin p : UInt8) (f : Pin → Pin) :
    ((s.setPin pin f).pins.get? p).isSome ↔ (s.pins.get? p).isSome ∨ pin = p := by
  unfold State.setPin
  by_cases hpin : pin = p
  · simp [hpin]
  · simp [Table.get?_set_ne (Ne.symm hpin), hpin]

theorem isSome_apply (p : UInt8) :
    ((apply s call).pins.get? p).isSome ↔ (s.pins.get? p).isSome ∨ pin? call = some p := by
  cases call with
  | ipConfig | dns | hostname => simp [apply, pin?]
  | pinMode | digitalWrite | analogWrite =>
    simp only [apply, isSome_setPin, pin?, Option.some.injEq]

theorem untouched_apply : (apply s call).untouched = s.untouched := by
  cases call <;> rfl

theorem unrecorded_apply : (apply s call).unrecorded = apply s.unrecorded call := by
  cases call <;> rfl

end

/-- The device has an entry for a pin once some call was about it. -/
theorem isSome_foldl_apply (calls : List SettingCall) (s : State) (p : UInt8) :
    ((calls.foldl apply s).pins.get? p).isSome ↔
      (s.pins.get? p).isSome ∨ ∃ call ∈ calls, pin? call = some p := by
  induction calls generalizing s with
  | nil => simp
  | cons call rest ih =>
    rw [List.foldl_cons, ih, isSome_apply, List.exists_mem_cons_iff, or_assoc]

theorem untouched_foldl_apply (calls : List SettingCall) (s : State) :
    (calls.foldl apply s).untouched = s.untouched := by
  induction calls generalizing s with
  | nil => rfl
  | cons call rest ih => rw [List.foldl_cons, ih, untouched_apply]

/-- The host after these calls, whatever each of them returned. -/
def runAll (calls : List SettingCall) (host : Host Line) : Host Line :=
  calls.foldl (fun host call => (call.run.run host).2) host

section
variable {host : Host Line} {call : SettingCall}

theorem state_run (call : SettingCall) (host : Host Line) :
    (call.run.run host).2 = { host with link := ((Link.ack call.frame).run host.link).2 } := by
  have hask := Host.state_ask (Link.ack call.frame) host
  rw [run_eq, Host.run_expectAck]
  rcases hrun : (Host.ask (Link.ack call.frame)).run host with ⟨e | acknowledged, after⟩
  all_goals
    rw [hrun] at hask
    rw [show (Host.ask (Link.ack (call.params.foldl Frame.withParam
      (Frame.command call.command)))).run host = _ from hrun]
    exact hask

/-- A call that does not encode fails, and nothing has happened. -/
theorem run_of_not_encodes (h : ¬ call.Encodes host.link.settings) :
    ∃ e, call.run.run host = (.error (.link (.protocol e)), host) := by
  cases hout : host.link.settings.outgoing call.frame with
  | ok tx => exact absurd (congrArg Except.toBool hout) h
  | error e =>
    have hack : (Link.ack call.frame).run host.link = (.error (.protocol e), host.link) := by
      rw [Link.ack, Link.run_map fun answer => answer == some ackByte, Link.readU8, Link.readValue,
        Link.run_bind, Link.run_call, Link.request_of_outgoing_error hout]
      rfl
    refine ⟨e, ?_⟩
    rw [run_eq, Host.run_expectAck, Host.run_ask]
    rw [show (Link.ack (call.params.foldl Frame.withParam (Frame.command call.command))).run
      host.link = _ from hack]

/-- A call that encodes reaches the device. -/
theorem run_of_encodes (h : call.Encodes host.link.settings) :
    Link.Becomes State.unrecorded (apply host.link.device.unrecorded call) host.link
      (call.run.run host).2.link := by
  obtain ⟨tx, hout⟩ : ∃ tx, host.link.settings.outgoing call.frame = .ok tx := by
    cases hout : host.link.settings.outgoing call.frame with
    | ok tx => exact ⟨tx, rfl⟩
    | error e => cases (congrArg Except.toBool hout).symm.trans h
  have fits : call.frame.Fits := (Frame.encode_ok_iff.mp (encode_of_outgoing hout)).1
  have asks : call.frame.bytes.length ≤ host.link.settings.maxFrameSize.toNat := by
    by_contra hlong
    cases hout.symm.trans (Link.outgoing_of_long fits (Nat.not_le.mp hlong))
  have request : IsRequestFor call.command call.frame := by
    cases call <;> exact ⟨rfl, rfl⟩
  have params : call.frame.params = call.params := by cases call <;> rfl
  have served := call.run_serve (host.link.device.recorded call.command)
  rw [← params] at served
  obtain ⟨s', hreplied, hlink⟩ := (Link.ack_outcome request fits served).sent asks
  have hbecomes : Link.Becomes State.unrecorded _ host.link _ :=
    .of_served served hreplied hlink fun _ => rfl
  rw [unrecorded_apply] at hbecomes
  rw [state_run]
  exact hbecomes

/-- After a sequence of calls the device is as if just those that encode had been applied to it. -/
theorem runAll_becomes (calls : List SettingCall) (host : Host Line) :
    Link.Becomes State.unrecorded
      ((calls.filter (·.Encodes host.link.settings)).foldl apply host.link.device.unrecorded)
      host.link (runAll calls host).link ∧
    runAll calls host = { host with link := (runAll calls host).link } := by
  induction calls generalizing host with
  | nil => exact ⟨.refl _ host.link, rfl⟩
  | cons call rest ih =>
    have hstate := state_run call host
    obtain ⟨hrest, hhost⟩ := ih (call.run.run host).2
    have hall : runAll (call :: rest) host = runAll rest (call.run.run host).2 := rfl
    rw [hall]
    constructor
    · by_cases h : call.Encodes host.link.settings
      · have hcall := run_of_encodes h
        rw [hcall.settings, hcall.seen] at hrest
        rw [List.filter_cons_of_pos (by simpa using h), List.foldl_cons]
        exact hcall.trans hrest
      · obtain ⟨e, hcall⟩ := run_of_not_encodes h
        rw [hcall] at hrest ⊢
        rw [List.filter_cons_of_neg (by simpa using h)]
        exact hrest
    · rw [hhost, hstate]

end

end SettingCall

namespace Device

theorem run_serve_addresses (b : UInt8) (s : State) :
    (serve .getIpAddr ⟨[[b]]⟩).run s =
      (some ((((Frame.reply .getIpAddr).withIpv4 s.ip).withIpv4 s.subnet).withIpv4 s.gateway), s) :=
  rfl

end Device

namespace Host

theorem networkData_faithful {host : Host Line} (faithful : host.link.Faithful 20) :
    (networkData.run host).1 =
      .ok ⟨host.link.device.ip, host.link.device.subnet, host.link.device.gateway⟩ := by
  have served := run_serve_addresses fillerByte (host.link.device.recorded .getIpAddr)
  have replyFits (ip subnet gateway : Ipv4) : ((((Frame.reply .getIpAddr).withIpv4 ip).withIpv4
      subnet).withIpv4 gateway).Fits := by
    simp only [Frame.fits_iff_size, Frame.paramsSize_withIpv4, Frame.width_withIpv4]
    decide
  have answers (ip subnet gateway : Ipv4) : ((((Frame.reply .getIpAddr).withIpv4 ip).withIpv4
      subnet).withIpv4 gateway).bytes.length ≤ 20 := by
    simp only [Frame.length_bytes, Frame.encodedLength_eq, Frame.paramsSize_withIpv4,
      Frame.width_withIpv4]
    decide
  have houtcome := Link.call_outcome (f := filler .getIpAddr) ⟨rfl, rfl⟩ (Link.about_fits _ _) served
    (replyFits _ _ _) (List.replicate 3 (Slot.forValue 4))
  have hasks : (filler .getIpAddr).bytes.length = 8 := Link.length_about .getIpAddr ⟨fillerByte⟩
  rw [hasks] at houtcome
  have hcall := houtcome.run (faithful.carries _ (by omega) (answers _ _ _))
  rw [networkData, run_bind, run_ask_of_ok hcall]
  rfl

open SettingCall in
/-- Whatever was called in whatever order, each setting reads back as it was last set. -/
theorem settings_read_back (host : Host Line) (calls : List SettingCall) :
    let sent := calls.filter (·.Encodes host.link.settings)
    let before := host.link.device
    let after := runAll calls host
    let now := after.link.device
    let ip := latest ip? sent before.ip
    let subnet := latest subnet? sent before.subnet
    let gateway := latest gateway? sent before.gateway
    (host.link.Faithful 20 →
      (networkData.run after).1 = .ok ⟨ip, subnet, gateway⟩ ∧ (localIp.run after).1 = .ok ip ∧
      (subnetMask.run after).1 = .ok subnet ∧ (gatewayIp.run after).1 = .ok gateway) ∧
    now.ip = ip ∧ now.subnet = subnet ∧ now.gateway = gateway ∧
    now.dns1 = latest dns1? sent before.dns1 ∧ now.dns2 = latest dns2? sent before.dns2 ∧
    now.hostname = latest hostname? sent before.hostname ∧
    (∀ p, now.pin p =
        ⟨latest (mode? p) sent (before.pin p).mode, latest (value? p) sent (before.pin p).value⟩ ∧
      ((now.pins.get? p).isSome ↔
        (before.pins.get? p).isSome ∨ ∃ call ∈ sent, call.pin? = some p)) ∧
    now.untouched = before.untouched ∧
    after = { host with link := after.link } ∧ after.link.settings = host.link.settings ∧
    ∀ call : SettingCall, ¬ call.Encodes host.link.settings →
      ∃ e, call.run.run host = (.error (.link (.protocol e)), host) := by
  intro sent before after now ip subnet gateway
  obtain ⟨hbecomes, hhost⟩ := runAll_becomes calls host
  have hnow : now.unrecorded = sent.foldl apply before.unrecorded := hbecomes.seen
  have hview {α : Type} (view : State → α) (kept : ∀ s, view s.unrecorded = view s) :
      view now = view (sent.foldl apply before.unrecorded) := by
    rw [← kept now, hnow]
  have hlatest {α : Type} (view : State → α) {cover : SettingCall → Option α}
      (kept : ∀ s, view s.unrecorded = view s)
      (step : ∀ call s, view (apply s call) = (cover call).getD (view s)) :
      view now = latest cover sent (view before) := by
    rw [hview view kept, foldl_apply_latest step, kept]
  have hip : now.ip = ip := hlatest State.ip (fun _ => rfl) ip_apply
  have hsubnet : now.subnet = subnet := hlatest State.subnet (fun _ => rfl) subnet_apply
  have hgateway : now.gateway = gateway := hlatest State.gateway (fun _ => rfl) gateway_apply
  refine ⟨fun faithful => ?_, hip, hsubnet, hgateway, hlatest State.dns1 (fun _ => rfl) dns1_apply,
    hlatest State.dns2 (fun _ => rfl) dns2_apply,
    hlatest State.hostname (fun _ => rfl) hostname_apply, fun p => ⟨?_, ?_⟩, ?_, hhost,
    hbecomes.settings, fun call => run_of_not_encodes⟩
  · have hdata := networkData_faithful (hbecomes.faithful faithful)
    rw [show (runAll calls host).link.device = now from rfl, hip, hsubnet, hgateway] at hdata
    refine ⟨hdata, ?_, ?_, ?_⟩
    · rw [localIp, run_map, hdata]
      rfl
    · rw [subnetMask, run_map, hdata]
      rfl
    · rw [gatewayIp, run_map, hdata]
      rfl
  · have hmode : (now.pin p).mode = _ :=
      hlatest (fun s => (s.pin p).mode) (fun _ => rfl) fun call s => mode_apply call s p
    have hvalue : (now.pin p).value = _ :=
      hlatest (fun s => (s.pin p).value) (fun _ => rfl) fun call s => value_apply call s p
    rw [← hmode, ← hvalue]
  · rw [hview (fun s => (s.pins.get? p).isSome) fun _ => rfl]
    exact isSome_foldl_apply sent before.unrecorded p
  · rw [hview State.untouched fun _ => rfl, untouched_foldl_apply]
    rfl

open SettingCall in
/-- The second address replaces the first, but not its gateway and mask; the second name is too long to
be sent; and what is written to a pin leaves its mode. -/
theorem settings_read_back_in_part :
    let host : Host Line := Host.new (Link.new Line.new .standard) .standard .standard
    let after := runAll [.ipConfig 3 ⟨10, 0, 0, 2⟩ ⟨10, 0, 0, 1⟩ ⟨255, 0, 0, 0⟩,
      .ipConfig 1 ⟨10, 0, 0, 9⟩ ⟨9, 9, 9, 9⟩ ⟨8, 8, 8, 8⟩, .hostname "door",
      .hostname (String.ofList (List.replicate 300 'x')), .pinMode 4 1, .digitalWrite 4 true,
      .analogWrite 4 128] host
    (networkData.run after).1 = .ok ⟨⟨10, 0, 0, 9⟩, ⟨255, 0, 0, 0⟩, ⟨10, 0, 0, 1⟩⟩ ∧
    after.link.device.hostname = "door" ∧ after.link.device.pin 4 = ⟨1, 128⟩ := by
  intro host after
  have faithful : host.link.Faithful 20 := ⟨by decide, by decide, fun _ => rfl⟩
  obtain ⟨hread, -, -, -, -, -, hname, hpins, -⟩ := settings_read_back host
    [.ipConfig 3 ⟨10, 0, 0, 2⟩ ⟨10, 0, 0, 1⟩ ⟨255, 0, 0, 0⟩,
      .ipConfig 1 ⟨10, 0, 0, 9⟩ ⟨9, 9, 9, 9⟩ ⟨8, 8, 8, 8⟩, .hostname "door",
      .hostname (String.ofList (List.replicate 300 'x')), .pinMode 4 1, .digitalWrite 4 true,
      .analogWrite 4 128]
  refine ⟨(hread faithful).1.trans ?_, hname.trans ?_, (hpins 4).1.trans ?_⟩
  · decide +kernel
  · decide +kernel
  · decide +kernel

end Host

end SpiWifi
