import SpiWifi.Device.Surroundings
import SpiWifi.Proofs.Socket.Connecting

/-!
# Conversations

Any number of clients connect over one host to one emulated device. Their peers push bytes and close
while the clients read, look and ask in any order. Of every client a run remembers what its reads
returned and what its peer pushed, so that the two can be compared.
-/

namespace SpiWifi

open Device

/-- The host after something happened to the device from outside. -/
def Host.told (host : Host Line) (f : State → State) : Host Line :=
  { host with link := host.link.onTransport (Line.onState f) }

/-- A client with what a run has seen of it. -/
structure Client where
  stream : Stream
  /-- The socket on which it connected. -/
  home : SocketHandle
  /-- What its reads returned. -/
  returned : Bytes
  /-- What its peer pushed since it connected. -/
  pushed : Bytes
  /-- Whether its peer closed since it connected. -/
  closed : Bool

def bytesRead : Except StreamError Bytes → Bytes
  | .ok bytes => bytes
  | .error _ => []

/-- What may happen in a conversation. Clients go by their place in the order of connecting, peers by
the socket that they talk to. -/
inductive TcpEvent where
  | connect (ip : Ipv4) (port : UInt16)
  | push (raw : UInt8) (data : Bytes)
  | closeRemote (raw : UInt8)
  | read (client size : Nat)
  | available (client : Nat)
  | peek (client : Nat)
  | connected (client : Nat)
  deriving DecidableEq

/-- A peer closes and then pushes. -/
def TcpEvent.clashes : TcpEvent → TcpEvent → Bool
  | .closeRemote raw, .push raw' _ => raw = raw'
  | _, _ => false

/-- A host and its clients, in the middle of a conversation. -/
structure Conversation where
  host : Host Line
  clients : List Client

namespace Conversation

def start (link : Link Line) (sockets : SocketSettings) (station : StationSettings) :
    Conversation :=
  ⟨Host.new link sockets station, []⟩

def tell (s : Conversation) (f : State → State) (note : Client → Client) : Conversation :=
  ⟨s.host.told f, s.clients.map note⟩

/-- A client does something that may return bytes. Without such a client nothing happens. -/
def act {α : Type} (s : Conversation) (k : Nat) (x : StateM (Stream × Host Line) α)
    (bytes : α → Bytes) : Conversation :=
  match s.clients[k]? with
  | none => s
  | some c =>
    let (answer, stream, host) := x.run (c.stream, s.host)
    ⟨host, s.clients.set k { c with stream := stream, returned := c.returned ++ bytes answer }⟩

/-- A new client connects on a stream of its own; it takes part if that succeeds. -/
def connect (s : Conversation) (ip : Ipv4) (port : UInt16) : Conversation :=
  match (Stream.connect ip port .tcp).run.run (Stream.idle, s.host) with
  | (.ok (), stream, host) => ⟨host, s.clients ++ [⟨stream, stream.socket, [], [], false⟩]⟩
  | (.error _, _, host) => ⟨host, s.clients⟩

def step (s : Conversation) : TcpEvent → Conversation
  | .connect ip port => s.connect ip port
  | .push raw data =>
    s.tell (fun device => device.pushIncoming raw data) fun c =>
      if c.home.raw = raw then { c with pushed := c.pushed ++ data } else c
  | .closeRemote raw =>
    s.tell (fun device => device.closeRemote raw) fun c =>
      if c.home.raw = raw then { c with closed := true } else c
  | .read k n => s.act k (Stream.receive n).run bytesRead
  | .available k => s.act k Stream.available fun _ => []
  | .peek k => s.act k Stream.peek fun _ => []
  | .connected k => s.act k Stream.connected fun _ => []

def run (s : Conversation) : List TcpEvent → Conversation
  | [] => s
  | e :: rest => (s.step e).run rest

/-- Nobody pushes to a client's socket once the peer there has closed. -/
def Allows (s : Conversation) : TcpEvent → Prop
  | .push raw _ => ∀ c ∈ s.clients, c.home.raw = raw → c.closed = false
  | _ => True

def Orderly (s : Conversation) : List TcpEvent → Prop
  | [] => True
  | e :: rest => s.Allows e ∧ (s.step e).Orderly rest

/-- What a read of a client would give. -/
def readAnswer (s : Conversation) (k n : Nat) : Option (Except StreamError Bytes) :=
  s.clients[k]?.map fun c => ((Stream.receive n).run.run (c.stream, s.host)).1

def peekAnswer (s : Conversation) (k : Nat) : Option (Option UInt8) :=
  s.clients[k]?.map fun c => (Stream.peek.run (c.stream, s.host)).1

theorem act_of_client {α : Type} {s : Conversation} {k : Nat} {c : Client}
    (hk : s.clients[k]? = some c) (x : StateM (Stream × Host Line) α) (bytes : α → Bytes) :
    s.act k x bytes =
      let result := x.run (c.stream, s.host)
      ⟨result.2.2, s.clients.set k
        { c with stream := result.2.1, returned := c.returned ++ bytes result.1 }⟩ := by
  simp only [act, hk]
  rfl

theorem getElem?_act {α : Type} {s : Conversation} {k : Nat} {c : Client}
    (hk : s.clients[k]? = some c) (x : StateM (Stream × Host Line) α) (bytes : α → Bytes) (j : Nat) :
    (s.act k x bytes).clients[j]? =
      let result := x.run (c.stream, s.host)
      if k = j then some { c with stream := result.2.1, returned := c.returned ++ bytes result.1 }
      else s.clients[j]? := by
  rw [act_of_client hk]
  dsimp only
  rw [List.getElem?_set, if_pos (List.getElem?_eq_some_iff.mp hk).1]

theorem connect_eq (s : Conversation) (ip : Ipv4) (port : UInt16) :
    s.connect ip port =
      match (Host.tryConnect ip port .tcp).run s.host with
      | (.ok socket, host) => ⟨host, s.clients ++ [⟨.ofHandle socket, socket, [], [], false⟩]⟩
      | (.error _, host) => ⟨host, s.clients⟩ := by
  have hrun := Stream.idle.run_connectBy s.host (Host.tryConnect ip port .tcp)
  rw [Stream.stop_of_invalid .idle s.host rfl] at hrun
  simp only [connect, Stream.connect, ExceptT.run, StateT.run, hrun]
  rcases Host.tryConnect ip port .tcp s.host with ⟨e | socket, host⟩ <;> rfl

/-- More may have been pushed to the client since, and an end stays an end. -/
structure Follows (c c' : Client) : Prop where
  pushed : c.pushed <+: c'.pushed
  ended : c.stream.socket = .none → c'.stream.socket = .none

section
variable {s : Conversation} {k : Nat} {c : Client} (hk : s.clients[k]? = some c)
include hk

theorem act_follows {α : Type} (j : Nat) (x : StateM (Stream × Host Line) α) (bytes : α → Bytes)
    (ends : ∀ (stream : Stream) (host : Host Line), stream.socket = .none →
      ∃ a, x.run (stream, host) = (a, stream, host)) :
    ∃ c', (s.act j x bytes).clients[k]? = some c' ∧ Follows c c' ∧
      ((j = k → ∀ a, bytes a = []) → c'.returned = c.returned) := by
  cases hj : s.clients[j]? with
  | none =>
    rw [act, hj]
    exact ⟨c, hk, ⟨List.prefix_refl _, id⟩, fun _ => rfl⟩
  | some d =>
    rw [getElem?_act hj]
    dsimp only
    by_cases hjk : j = k
    · subst hjk
      cases hk.symm.trans hj
      rw [if_pos rfl]
      refine ⟨_, rfl, ⟨List.prefix_refl _, fun hnone => ?_⟩, fun hbytes => ?_⟩
      · obtain ⟨a, hrun⟩ := ends c.stream s.host hnone
        dsimp only
        rw [hrun]
        exact hnone
      · dsimp only
        rw [hbytes rfl, List.append_nil]
    · rw [if_neg hjk]
      exact ⟨c, hk, ⟨List.prefix_refl _, id⟩, fun _ => rfl⟩

theorem tell_follows (f : State → State) (note : Client → Client) (hnote : Follows c (note c)) :
    ∃ c', (s.tell f note).clients[k]? = some c' ∧ Follows c c' ∧
      ((note c).returned = c.returned → c'.returned = c.returned) := by
  refine ⟨note c, ?_, hnote, id⟩
  rw [tell, List.getElem?_map, hk]
  rfl

/-- Only its own reads return bytes to a client. -/
theorem step_follows (e : TcpEvent) :
    ∃ c', (s.step e).clients[k]? = some c' ∧ Follows c c' ∧
      ((∀ n, e ≠ .read k n) → c'.returned = c.returned) := by
  have hlooks : ∀ {α : Type} (j : Nat) (x : StateM (Stream × Host Line) α),
      (∀ (stream : Stream) (host : Host Line), stream.socket = .none →
        ∃ a, x.run (stream, host) = (a, stream, host)) →
      ∃ c', (s.act j x fun _ => []).clients[k]? = some c' ∧ Follows c c' ∧
        ((∀ n, e ≠ .read k n) → c'.returned = c.returned) := by
    intro α j x ends
    obtain ⟨c', hc', hfollows, hreturned⟩ := act_follows hk j x (fun _ => []) ends
    exact ⟨c', hc', hfollows, fun _ => hreturned fun _ _ => rfl⟩
  cases e with
  | connect ip port =>
    refine ⟨c, ?_, ⟨List.prefix_refl _, id⟩, fun _ => rfl⟩
    rw [step, connect_eq]
    rcases (Host.tryConnect ip port .tcp).run s.host with ⟨e | socket, host⟩
    · exact hk
    · exact (List.getElem?_append_left (List.getElem?_eq_some_iff.mp hk).1).trans hk
  | push raw data =>
    obtain ⟨c', hc', hfollows, hreturned⟩ := tell_follows hk
      (fun device => device.pushIncoming raw data)
      (fun c => if c.home.raw = raw then { c with pushed := c.pushed ++ data } else c) (by
        split
        · exact ⟨List.prefix_append _ _, id⟩
        · exact ⟨List.prefix_refl _, id⟩)
    exact ⟨c', hc', hfollows, fun _ => hreturned (by split <;> rfl)⟩
  | closeRemote raw =>
    obtain ⟨c', hc', hfollows, hreturned⟩ := tell_follows hk
      (fun device => device.closeRemote raw)
      (fun c => if c.home.raw = raw then { c with closed := true } else c) (by
        split <;> exact ⟨List.prefix_refl _, id⟩)
    exact ⟨c', hc', hfollows, fun _ => hreturned (by split <;> rfl)⟩
  | read j n =>
    obtain ⟨c', hc', hfollows, hreturned⟩ := act_follows hk j (Stream.receive n).run bytesRead
      fun _ host hnone => ⟨_, Stream.receive_of_ended hnone host n⟩
    refine ⟨c', hc', hfollows, fun hother => hreturned fun hjk => ?_⟩
    rw [hjk] at hother
    exact absurd rfl (hother n)
  | available j => exact hlooks j _ fun _ host hnone => ⟨_, Stream.available_of_ended hnone host⟩
  | peek j => exact hlooks j _ fun _ host hnone => ⟨_, Stream.peek_of_ended hnone host⟩
  | connected j => exact hlooks j _ fun _ host hnone => ⟨_, Stream.connected_of_ended hnone host⟩

theorem run_follows (events : List TcpEvent) :
    ∃ c', (s.run events).clients[k]? = some c' ∧ Follows c c' ∧
      ((∀ n, .read k n ∉ events) → c'.returned = c.returned) := by
  induction events generalizing s c with
  | nil => exact ⟨c, hk, ⟨List.prefix_refl _, id⟩, fun _ => rfl⟩
  | cons e rest ih =>
    obtain ⟨middle, hmiddle, hfirst, hreturned⟩ := step_follows hk e
    obtain ⟨last, hlast, hrest, hkept⟩ := ih hmiddle
    refine ⟨last, hlast, ⟨hfirst.pushed.trans hrest.pushed, fun h => hrest.ended (hfirst.ended h)⟩,
      fun hunread => ?_⟩
    rw [hkept fun n hn => hunread n (List.mem_cons_of_mem _ hn)]
    exact hreturned fun n hn => hunread n (hn ▸ List.mem_cons_self)

end

theorem closed_of_step {s : Conversation} {e : TcpEvent} {c : Client}
    (hmem : c ∈ (s.step e).clients) (hclosed : c.closed = true) :
    e = .closeRemote c.home.raw ∨ ∃ d ∈ s.clients, d.home = c.home ∧ d.closed = true := by
  have hact : ∀ {α : Type} (k : Nat) (x : StateM (Stream × Host Line) α) (bytes : α → Bytes),
      c ∈ (s.act k x bytes).clients → ∃ d ∈ s.clients, d.home = c.home ∧ d.closed = true := by
    intro α k x bytes hmem
    cases hk : s.clients[k]? with
    | none =>
      rw [act, hk] at hmem
      exact ⟨c, hmem, rfl, hclosed⟩
    | some d =>
      rw [act_of_client hk] at hmem
      rcases List.mem_or_eq_of_mem_set hmem with hmem | rfl
      · exact ⟨c, hmem, rfl, hclosed⟩
      · exact ⟨d, List.mem_of_getElem? hk, rfl, hclosed⟩
  cases e with
  | connect ip port =>
    rw [step, connect_eq] at hmem
    generalize (Host.tryConnect ip port .tcp).run s.host = result at hmem
    rcases result with ⟨e | socket, host⟩
    · exact Or.inr ⟨c, hmem, rfl, hclosed⟩
    · rcases List.mem_append.mp hmem with hmem | hmem
      · exact Or.inr ⟨c, hmem, rfl, hclosed⟩
      · cases List.mem_singleton.mp hmem
        cases hclosed
  | push raw data =>
    obtain ⟨d, hd, rfl⟩ := List.mem_map.mp hmem
    refine Or.inr ⟨d, hd, ?_⟩
    split at hclosed
    · next hraw => exact ⟨by rw [if_pos hraw], hclosed⟩
    · next hraw => exact ⟨by rw [if_neg hraw], hclosed⟩
  | closeRemote raw =>
    obtain ⟨d, hd, rfl⟩ := List.mem_map.mp hmem
    split at hclosed
    · next hraw =>
      left
      rw [if_pos hraw, hraw]
    · next hraw =>
      rw [if_neg hraw]
      exact Or.inr ⟨d, hd, rfl, hclosed⟩
  | read k n => exact Or.inr (hact k _ _ hmem)
  | available k => exact Or.inr (hact k _ _ hmem)
  | peek k => exact Or.inr (hact k _ _ hmem)
  | connected k => exact Or.inr (hact k _ _ hmem)

/-- A run is orderly if no peer in it closes and then pushes. -/
theorem orderly_of_pairwise {s : Conversation} {events : List TcpEvent}
    (h : events.Pairwise fun e e' => e.clashes e' = false)
    (before : ∀ c ∈ s.clients, c.closed = true → ∀ data, .push c.home.raw data ∉ events) :
    s.Orderly events := by
  induction events generalizing s with
  | nil => trivial
  | cons e rest ih =>
    obtain ⟨hfirst, hrest⟩ := List.pairwise_cons.mp h
    refine ⟨?_, ih hrest fun c hc hclosed data hpush => ?_⟩
    · cases e with
      | push raw data =>
        rintro c hc rfl
        refine Bool.eq_false_iff.mpr fun hclosed => ?_
        exact before c hc hclosed data List.mem_cons_self
      | _ => trivial
    · rcases closed_of_step hc hclosed with rfl | ⟨d, hd, hhome, hdone⟩
      · have hclash := hfirst _ hpush
        simp [TcpEvent.clashes] at hclash
      · rw [← hhome] at hpush
        exact before d hd hdone data (List.mem_cons_of_mem _ hpush)

end Conversation

end SpiWifi
