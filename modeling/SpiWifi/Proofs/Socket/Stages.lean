import SpiWifi.Proofs.Link.Stages
import SpiWifi.Proofs.Polling
import SpiWifi.Socket.Stream

/-!
# Socket operations, stage by stage

What each part of a socket operation does, as one equation over any transport: it goes on with what
the part before it gave, or stops at that part's fault and leaves the host as the fault left it. A
part that polls is the poll, and what the operation makes of its end.
-/

namespace SpiWifi

theorem Link.run_call {τ : Type} [Transport τ] (f : Frame) (slots : List Slot) (l : Link τ) :
    (call f slots).run l =
      match (request f slots).run l with
      | ((.error e, _), l) => (.error e, l)
      | ((.ok reply, slots), l) => (.ok (reply.count, slots), l) := by
  rcases h : (request f slots).run l with ⟨⟨e | reply, filled⟩, l'⟩ <;>
    simp only [StateT.run] at h <;> simp only [call, ExceptT.run, h]

namespace Host

variable {τ α β : Type}

theorem run_bind (x : HostM τ α) (k : α → HostM τ β) (host : Host τ) :
    (x >>= k).run host = match x.run host with
      | (.error e, host) => (.error e, host)
      | (.ok a, host) => (k a).run host := by
  simp only [bind, ExceptT.bind, ExceptT.mk, ExceptT.run, StateT.bind]
  rcases x host with ⟨_ | a, host⟩ <;> rfl

theorem run_always (x : StateM (Host τ) α) (host : Host τ) :
    (always x).run host = (.ok (x host).1, (x host).2) := rfl

theorem run_ask (x : LinkM τ α) (host : Host τ) :
    (ask x).run host = match x.run host.link with
      | (.error e, link) => (.error (.link e), { host with link := link })
      | (.ok a, link) => (.ok a, { host with link := link }) := by
  simp only [ask, onLink, ExceptT.run]
  rcases x host.link with ⟨_ | a, link⟩ <;> rfl

theorem run_ask_of_ok {x : LinkM τ α} {host : Host τ} {a : α} {link : Link τ}
    (h : x.run host.link = (.ok a, link)) :
    (ask x).run host = (.ok a, { host with link := link }) := by
  rw [run_ask, h]

theorem run_attempt (x : LinkM τ α) (host : Host τ) :
    attempt x host = ((x.run host.link).1, { host with link := (x.run host.link).2 }) := rfl

/-- A request is one of the link, so the settings of the host stay. -/
theorem sockets_of_ask {x : LinkM τ α} {host after : Host τ} {answer : Except NetError α}
    (h : (ask x).run host = (answer, after)) : after.sockets = host.sockets := by
  rw [run_ask] at h
  rcases hrun : x.run host.link with ⟨e | a, link⟩
  all_goals
    rw [hrun] at h
    cases h
    rfl

variable [Transport τ]

theorem sockets_of_acquire {host after : Host τ} {answer : Except NetError SocketHandle}
    (h : acquire.run host = (answer, after)) : after.sockets = host.sockets := by
  unfold acquire at h
  rw [run_bind] at h
  rcases hasked : (ask Link.getSocket).run host with ⟨e | socket, asked⟩
  · rw [hasked] at h
    cases h
    exact sockets_of_ask hasked
  · rw [hasked] at h
    dsimp only at h
    split at h
    all_goals
      cases h
      exact sockets_of_ask hasked

theorem run_awaitConnected (socket : SocketHandle) (host : Host τ) :
    (awaitConnected socket).run host =
      match pollFor (attempt (Link.clientState socket)) connectedAnswer
        host.sockets.connectAttempts.toNat host with
      | (some _, after) => (.ok socket, after)
      | (none, after) => (.error (.connectTimeout socket host.sockets.connectAttempts),
          after.closeCache socket) := by
  unfold awaitConnected
  refine (run_bind _ _ _).trans ?_
  refine (run_bind _ _ _).trans ?_
  simp only [run_always]
  rcases pollFor (attempt (Link.clientState socket)) connectedAnswer
    host.sockets.connectAttempts.toNat host with ⟨_ | _, after⟩ <;> rfl

theorem run_connectBy (start : SocketHandle → LinkM τ Bool) (host : Host τ) :
    (connectBy start).run host = match acquire.run host with
      | (.error e, host) => (.error e, host)
      | (.ok socket, host) =>
        match (ask (start socket)).run host with
        | (.error e, host) => (.error e, host)
        | (.ok acknowledged, host) =>
          if acknowledged then (awaitConnected socket).run host
          else (.error (.rejected .startClientTcp), host) := by
  unfold connectBy
  rw [run_bind]
  rcases acquire.run host with ⟨e | socket, acquired⟩
  · rfl
  · dsimp only
    rw [run_bind]
    rcases (ask (start socket)).run acquired with ⟨e | _ | _, started⟩ <;> rfl

section
variable {socket : SocketHandle} {host : Host τ}

theorem run_write_invalid (h : socket.isValid = false) (data : Bytes) :
    (write socket data).run host = (.error .invalidSocket, host) := by
  unfold write
  simp only [h, Bool.not_false, if_true]
  rfl

theorem run_write_empty (h : socket.isValid = true) :
    (write socket []).run host = (.error .emptyPayload, host) := by
  unfold write
  simp only [h, Bool.not_true, Bool.false_eq_true, if_false]
  rfl

/-- A write hands over what one frame carries, and polls for delivery if some of it was accepted. -/
theorem run_write (h : socket.isValid = true) {data : Bytes} (hdata : data ≠ []) :
    (write socket data).run host =
      match (ask (Link.sendData socket (data.take chunkMax))).run host with
      | (.error e, host) => (.error e, host)
      | (.ok accepted, sent) =>
        if accepted = 0 then (.error (.sendRejected socket), sent)
        else
          match pollFor (attempt (Link.checkDataSent socket)) deliveredAnswer
            sent.sockets.confirmAttempts.toNat sent with
          | (some _, host) => (.ok accepted.toNat, host)
          | (none, host) =>
            (.error (.sendUnconfirmed socket sent.sockets.confirmAttempts), host) := by
  have hfull : data.isEmpty = false := by
    rw [Bool.eq_false_iff]
    exact fun hempty => hdata (List.isEmpty_iff.mp hempty)
  unfold write
  simp only [h, hfull, Bool.not_true, Bool.false_eq_true, if_false, run_bind]
  rcases (ask (Link.sendData socket (data.take chunkMax))).run host with ⟨e | accepted, sent⟩
  · rfl
  · dsimp only
    by_cases hnone : accepted = 0
    · rw [if_pos hnone, if_pos hnone]
      rfl
    · rw [if_neg hnone, if_neg hnone]
      refine (run_bind _ _ _).trans ?_
      refine (run_bind _ _ _).trans ?_
      simp only [run_always]
      rcases pollFor (attempt (Link.checkDataSent socket)) deliveredAnswer
        sent.sockets.confirmAttempts.toNat sent with ⟨_ | _, last⟩ <;> rfl

theorem tryStop_of_invalid (h : socket.isValid = false) :
    (tryStop socket).run host = (.error .invalidSocket, host) := by
  simp only [tryStop, h, Bool.false_eq_true, if_false]
  rfl

/-- Whatever comes of the request to stop, what decides is the poll after it. -/
theorem run_stopAndWait (socket : SocketHandle) (host : Host τ) :
    (stopAndWait socket).run host =
      match pollFor (attempt (Link.clientState socket)) closedAnswer
        host.sockets.stopAttempts.toNat (attempt (Link.stopClient socket) host).2 with
      | (some _, after) => (.ok (), after)
      | (none, after) => (.error (.closeTimeout socket host.sockets.stopAttempts), after) := by
  rw [stopAndWait]
  refine (run_bind _ _ _).trans ?_
  simp only [run_always]
  rcases hstopped : attempt (Link.stopClient socket) host with ⟨answer, stopped⟩
  have hsettings : stopped.sockets = host.sockets := by
    rw [run_attempt] at hstopped
    rw [← (Prod.mk.inj hstopped).2]
  rw [← hsettings]
  refine (run_bind _ _ _).trans ?_
  refine (run_bind _ _ _).trans ?_
  simp only [run_always]
  rcases pollFor (attempt (Link.clientState socket)) closedAnswer
    stopped.sockets.stopAttempts.toNat stopped with ⟨_ | _, after⟩ <;> rfl

/-- The cache is freed at last, however the poll ended. -/
theorem run_tryStop (h : socket.isValid = true) (host : Host τ) :
    (tryStop socket).run host =
      (((stopAndWait socket).run host).1, ((stopAndWait socket).run host).2.closeCache socket) := by
  simp only [tryStop, h, if_true]
  rfl

end

end Host

namespace Stream

variable {τ : Type} [Transport τ] (s : Stream) (host : Host τ)

theorem stop_of_invalid (h : s.socket.isValid = false) : stop (s, host) = (.ok (), s, host) := by
  simp only [stop, h, Bool.false_eq_true, if_false]

/-- The handle is dropped, whatever comes of the stop. -/
theorem stop_of_valid (h : s.socket.isValid = true) :
    stop (s, host) = (((Host.tryStop s.socket).run host).1, { s with socket := .none },
      ((Host.tryStop s.socket).run host).2) := by
  simp only [stop, h, if_true]
  rfl

/-- A connection that is opened is stopped first, and holds what opening gives. -/
theorem run_connectBy (connect : HostM τ SocketHandle) :
    let stopped := (stop (s, host)).2
    connectBy connect (s, host) = match connect.run stopped.2 with
      | (.ok socket, after) => (.ok (), { stopped.1 with socket := socket }, after)
      | (.error e, after) => (.error e, stopped.1, after) := by
  rcases hstop : stop (s, host) with ⟨result, stopped, middle⟩
  rcases hconnect : connect.run middle with ⟨e | socket, after⟩
  all_goals
    simp only [ExceptT.run] at hconnect
    simp only [connectBy, hstop, ExceptT.run, hconnect]

end Stream

end SpiWifi
