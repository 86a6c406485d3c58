/-
# Rumqttc.Packet — MQTT packets, client requests and events

The packets, requests and events of the MQTT client library, with the fields the
session state and the gateway read.  A publish carries one field the library
does not have: `origin` records where it came from, is read by no function of
the model, and lets a statement follow one message through every queue.
-/
import InverterGateway.Theory.Text

namespace InverterGateway.Rumqttc

open InverterGateway.Theory

set_option autoImplicit false

/-! ## Packets -/

inductive QoS where
  | atMostOnce
  | atLeastOnce
  | exactlyOnce
  deriving DecidableEq

/-- Where a publish came from: read on a broker connection, built for an accepted
command, or sent by the gateway itself. -/
inductive Origin where
  | broker (connection : Nat)
  | command (id : Nat)
  | keepalive
  deriving DecidableEq

/-- A publish; packet identifier 0 is not assigned yet. -/
structure Publish where
  qos : QoS
  topic : String
  pkid : Nat
  payload : ByteArray
  origin : Origin

def Publish.new (topic : String) (qos : QoS) (payload : ByteArray) (origin : Origin) : Publish :=
  ⟨qos, topic, 0, payload, origin⟩

structure Subscribe where
  pkid : Nat
  filters : List String

structure Unsubscribe where
  pkid : Nat
  topics : List String

inductive Packet where
  | connect
  | connAck
  | publish (p : Publish)
  | pubAck (pkid : Nat)
  | pubRec (pkid : Nat)
  | pubRel (pkid : Nat)
  | pubComp (pkid : Nat)
  | subscribe (s : Subscribe)
  | subAck
  | unsubscribe (u : Unsubscribe)
  | unsubAck
  | pingReq
  | pingResp
  | disconnect

/-- The requests a session handles; the library's other ones are never made. -/
inductive Request where
  | publish (p : Publish)
  | pubAck (pkid : Nat)
  | pubRec (pkid : Nat)
  | pubRel (pkid : Nat)
  | pingReq
  | subscribe (s : Subscribe)
  | unsubscribe (u : Unsubscribe)
  | disconnect

/-! ## Events -/

/-- A note on what the session sent or waits for. -/
inductive Outgoing where
  | publish (pkid : Nat)
  | subscribe (pkid : Nat)
  | unsubscribe (pkid : Nat)
  | pubAck (pkid : Nat)
  | pubRec (pkid : Nat)
  | pubRel (pkid : Nat)
  | pubComp (pkid : Nat)
  | pingReq
  | disconnect
  | awaitAck (pkid : Nat)

inductive Event where
  | incoming (p : Packet)
  | outgoing (o : Outgoing)

/-- A packet as it comes off the given connection. -/
def Packet.readOn (connection : Nat) : Packet → Packet
  | .publish p => .publish { p with origin := .broker connection }
  | p => p

/-! ## Whose message it is -/

/-- Whether a publish carries the command of this number. -/
def Publish.carries (p : Publish) (k : Nat) : Bool := decide (p.origin = .command k)

def Packet.carries (packet : Packet) (k : Nat) : Bool :=
  match packet with
  | .publish p => p.carries k
  | _ => false

def Request.carries (request : Request) (k : Nat) : Bool :=
  match request with
  | .publish p => p.carries k
  | _ => false

theorem Packet.carries_iff {packet : Packet} {k : Nat} :
    packet.carries k = true ↔ ∃ p, packet = .publish p ∧ p.origin = .command k := by
  cases packet <;> simp [Packet.carries, Publish.carries]

/-! ## What the client checks -/

/-- `valid_topic`: no wildcards. -/
def validTopic (topic : String) : Bool :=
  !(Text.containsChar topic '+' || Text.containsChar topic '#')

/-- `valid_filter`: wildcards fill a whole level, and `#` only the last. -/
def validFilter (filter : String) : Bool :=
  !filter.isEmpty &&
    match (Text.split filter '/').reverse with
    | [] => true
    | last :: hierarchy =>
        !(last.utf8ByteSize != 1 && (Text.containsChar last '#' || Text.containsChar last '+')) &&
          hierarchy.all fun entry => !Text.containsChar entry '#' &&
            !(decide (1 < entry.utf8ByteSize) && Text.containsChar entry '+')

/-- The levels of a filter against those of a topic: `+` takes one level, `#` the rest. -/
def matchLevels : List String → List String → Bool
  | [], topics => topics.isEmpty
  | f :: filters, topics =>
      if f = "#" then true
      else
        match topics with
        | [] => false
        | t :: topics =>
            if t = "#" then false
            else if f = "+" ∨ f = t then matchLevels filters topics
            else false

/-- Whether a subscription to a filter takes a topic: the levels match, and a filter
that starts with a wildcard takes no topic that starts with a dollar sign. -/
def topicMatches (topic filter : String) : Bool :=
  !(Text.startsWith topic "$" && (Text.startsWith filter "+" || Text.startsWith filter "#")) &&
    matchLevels (Text.split filter '/') (Text.split topic '/')

/-- `AsyncClient::publish`: the request it sends, if it accepts the topic. -/
def publishRequest (topic : String) (qos : QoS) (payload : ByteArray) (origin : Origin) :
    Option Request :=
  if validTopic topic then some (.publish (.new topic qos payload origin)) else none

/-- `AsyncClient::subscribe`. -/
def subscribeRequest (filter : String) : Option Request :=
  if validFilter filter then some (.subscribe ⟨0, [filter]⟩) else none

/-- A plain or single-level step of the match. -/
theorem matchLevels_cons {f t : String} (filters topics : List String) (filter : f ≠ "#")
    (topic : t ≠ "#") (same : f = "+" ∨ f = t) :
    matchLevels (f :: filters) (t :: topics) = matchLevels filters topics := by
  simp only [matchLevels, if_neg filter, if_neg topic, if_pos same]

theorem matchLevels_hash (filters topics : List String) :
    matchLevels ("#" :: filters) topics = true := by
  cases topics <;> simp only [matchLevels, if_true]

/-- Common first levels match, wildcards or not. -/
theorem matchLevels_append (common : List String) {filters topics : List String}
    (rest : matchLevels filters topics = true) :
    matchLevels (common ++ filters) (common ++ topics) = true := by
  induction common with
  | nil => exact rest
  | cons level levels ih =>
      rw [List.cons_append, List.cons_append]
      by_cases hash : level = "#"
      · rw [hash]
        exact matchLevels_hash _ _
      · rw [matchLevels_cons _ _ hash hash (Or.inr rfl)]
        exact ih

theorem validTopic_append {s t : String} :
    validTopic (s ++ t) = true ↔ validTopic s = true ∧ validTopic t = true := by
  have absent : ∀ u : String, validTopic u = true ↔ '+' ∉ u.toList ∧ '#' ∉ u.toList := by
    intro u
    simp [validTopic, Text.containsChar]
  rw [absent, absent, absent, String.toList_append, List.mem_append, List.mem_append]
  tauto

end InverterGateway.Rumqttc
