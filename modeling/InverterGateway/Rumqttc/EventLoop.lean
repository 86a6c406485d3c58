/-
# Rumqttc.EventLoop — the connection and the queues around a session

The event loop owns the session state, the client's request channel, the list of
pending requests from before the connection was lost, and the network
connection, here its number.  Its `poll` suspends at every network operation, so
it is not one function: the functions below are the pieces between two
suspensions, and the bridge's step relation puts them in order.
-/
import InverterGateway.Rumqttc.State

namespace InverterGateway.Rumqttc

set_option autoImplicit false

structure EventLoop where
  state : MqttState
  /-- Requests in the channel, oldest first. -/
  requests : List Request
  pending : List Request
  network : Option Nat

namespace EventLoop

/-- The library's default number of publishes in flight. -/
def defaultInflight : Nat := 100

/-- Packets handled in one bulk read at most. -/
def maxReadb : Nat := 9

def new : EventLoop := ⟨.new defaultInflight false, [], [], none⟩

/-- Acknowledgements wait for the retransmission. -/
def keepsOnClean : Request → Bool
  | .pubAck _ => false
  | _ => true

/-- `EventLoop::clean`, with the request of a blocked sender that the drain may
pull into the channel: everything unsent or unacknowledged becomes pending. -/
def clean (e : EventLoop) (pulled : List Request) : EventLoop where
  state := e.state.clean
  requests := []
  pending := e.pending ++ e.state.unacknowledged ++ (e.requests ++ pulled).filter keepsOnClean
  network := none

/-- A new connection; a clean session discards what is pending. -/
def connect (e : EventLoop) (sessionPresent : Bool) (connection : Nat) : EventLoop :=
  { e with
    pending := if sessionPresent then e.pending else []
    network := some connection }

/-- Whether `select` takes requests: pending ones always, new ones while the
flow control allows. -/
def takesRequests (e : EventLoop) : Bool :=
  !e.pending.isEmpty ||
    (!decide (e.state.maxInflight ≤ e.state.inflight) && e.state.collision.isNone)

/-- `next_request`: pending requests first. -/
def nextRequest (e : EventLoop) : Option (Request × EventLoop) :=
  match e.pending, e.requests with
  | request :: rest, _ => some (request, { e with pending := rest })
  | [], request :: rest => some (request, { e with requests := rest })
  | [], [] => none

def setState (e : EventLoop) (state : MqttState) : EventLoop := { e with state := state }

/-- Without pending requests, `select` takes new ones only while nothing collides. -/
theorem takesRequests_new {e : EventLoop} (none_pending : e.pending = [])
    (takes : e.takesRequests = true) : e.state.collision = none := by
  simp only [takesRequests, none_pending, List.isEmpty_nil, Bool.not_true, Bool.false_or,
    Bool.and_eq_true, Option.isNone_iff_eq_none] at takes
  exact takes.2

/-- Without pending requests, the next one is the channel's first. -/
theorem nextRequest_new {e rest : EventLoop} {request : Request} (none_pending : e.pending = [])
    (next : e.nextRequest = some (request, rest)) :
    e.requests = request :: rest.requests ∧ rest.pending = [] := by
  obtain ⟨state, requests, pending, network⟩ := e
  obtain rfl : pending = [] := none_pending
  cases requests with
  | nil => cases next
  | cons first others =>
      cases next
      exact ⟨rfl, rfl⟩

/-- Taking a request leaves the session and the connection alone. -/
theorem nextRequest_frame {e rest : EventLoop} {request : Request}
    (next : e.nextRequest = some (request, rest)) :
    rest.state = e.state ∧ rest.network = e.network := by
  unfold nextRequest at next
  split at next <;> cases next <;> exact ⟨rfl, rfl⟩

end EventLoop

end InverterGateway.Rumqttc
