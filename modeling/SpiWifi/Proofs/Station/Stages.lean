import SpiWifi.Proofs.Socket.Stages
import SpiWifi.Station.Operations

/-!
# Station operations, stage by stage

What each station operation does, as one equation over any transport: a join sends its settings and
then polls the status, a scan is started and then polls for names. No request of these touches the
budgets of the host, and only a list of names that arrives changes what the host remembers.
-/

namespace SpiWifi

def statusOf : Except LinkError (Option UInt8) → StationStatus
  | .ok (some raw) => .ofRaw raw
  | _ => .noModule

def nameSlots : List Slot := List.replicate networksMax (Slot.forValue ssidMax)

namespace Host

variable {τ α : Type}

/-- Whatever comes of a request, it changes nothing of the host but its link. -/
theorem state_ask (x : LinkM τ α) (host : Host τ) :
    ((ask x).run host).2 = { host with link := (x.run host.link).2 } := by
  rw [run_ask]
  rcases x.run host.link with ⟨e | a, link⟩ <;> rfl

variable [Transport τ]

theorem run_expectAck (c : Command) (add : Frame → Frame) (host : Host τ) :
    (expectAck c add).run host = match (ask (Link.ack (add (Frame.command c)))).run host with
      | (.error e, host) => (.error e, host)
      | (.ok acknowledged, host) =>
        (if acknowledged then .ok () else .error (.rejected c), host) := by
  unfold expectAck
  rw [run_bind]
  rcases (ask (Link.ack (add (Frame.command c)))).run host with ⟨e | _ | _, host⟩ <;> rfl

theorem connectionStatus_eq (host : Host τ) :
    connectionStatus host =
      (statusOf ((Link.readU8 (Frame.command .getConnStatus)).run host.link).1,
        { host with link := ((Link.readU8 (Frame.command .getConnStatus)).run host.link).2 }) := by
  simp only [connectionStatus, bind, StateT.bind, run_attempt]
  rcases (Link.readU8 (Frame.command .getConnStatus)).run host.link with
    ⟨e | _ | raw, link⟩ <;> rfl

theorem run_joinBy (settings : HostM τ Unit) (host : Host τ) :
    (joinBy settings).run host = match settings.run host with
      | (.error e, host) => (.error e, host)
      | (.ok _, host) => (.ok (awaitJoin host).1, (awaitJoin host).2) := by
  unfold joinBy
  rw [run_bind]
  rcases settings.run host with ⟨e | _, host⟩ <;> rfl

theorem run_fetchScanResults (host : Host τ) :
    fetchScanResults.run host =
      match (Link.call (Frame.command .scanNetworks) nameSlots).run host.link with
      | (.error e, link) => (.error (.link e), { host with link := link })
      | (.ok (count, slots), link) =>
        (.ok count, { host with
          link := link
          memory := { host.memory with networks := (slots.take count).map Slot.text } }) := by
  unfold fetchScanResults nameSlots
  rw [run_bind, run_ask]
  rcases (Link.call (Frame.command .scanNetworks)
    (List.replicate networksMax (Slot.forValue ssidMax))).run host.link with
    ⟨e | ⟨count, slots⟩, link⟩ <;> rfl

/-- A scan that could not be started finds nothing; any other is a poll for names. -/
theorem scanNetworks_eq (host : Host τ) :
    scanNetworks host = match startScan.run host with
      | (.error _, started) => (0, started)
      | (.ok _, started) =>
        ((pollFor fetchScanResults.run foundAnswer started.station.scanAttempts.toNat started).1.getD 0,
          (pollFor fetchScanResults.run foundAnswer started.station.scanAttempts.toNat started).2) := by
  simp only [scanNetworks, bind, StateT.bind]
  rcases startScan.run host with ⟨e | _, started⟩ <;> rfl

end Host

end SpiWifi
