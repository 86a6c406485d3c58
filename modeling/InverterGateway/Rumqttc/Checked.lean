/-
# Rumqttc.Checked — the session on the integers and tables the library has

`MqttState` counts in natural numbers and stores past nothing.  The library counts
in `u16`, indexes a vector and sets bits of fixed-capacity sets: each of these
stops, or wraps, outside its range.  The functions below are the handlers with
every such operation checked, `none` where one leaves its range; a session on
which they agree with the handlers of `Rumqttc.State` never gets there.

`Flight` is what makes them agree: the window's counter never runs behind what
waits for an acknowledgement (`counted`), so an accepted acknowledgement finds it
positive, and everything the session may index by lies inside its tables.
-/
import InverterGateway.Rumqttc.EventLoop

namespace InverterGateway.Rumqttc

set_option autoImplicit false

/-! ## Operations with a range -/

/-- The number of values of a `u16`. -/
def u16Size : Nat := 2 ^ 16

def addU16 (a b : Nat) : Option Nat := if a + b < u16Size then some (a + b) else none

def subU16 (a b : Nat) : Option Nat := if b ≤ a then some (a - b) else none

/-- `table[i] = value`. -/
def store {α : Type} (table : List α) (i : Nat) (value : α) : Option (List α) :=
  if i < table.length then some (table.set i value) else none

/-- `FixedBitSet::set`, on a set of the given capacity. -/
def setBit (capacity : Nat) (bits : Nat → Bool) (bit : Nat) (enabled : Bool) :
    Option (Nat → Bool) :=
  if bit < capacity then some fun n => if n = bit then enabled else bits n else none

theorem addU16_of_lt {a b : Nat} (fits : a + b < u16Size) : addU16 a b = some (a + b) :=
  if_pos fits

theorem subU16_of_le {a b : Nat} (fits : b ≤ a) : subU16 a b = some (a - b) := if_pos fits

theorem store_of_lt {α : Type} {table : List α} {i : Nat} (value : α) (inside : i < table.length) :
    store table i value = some (table.set i value) := if_pos inside

theorem setBit_insert {capacity bit : Nat} (bits : Nat → Bool) (inside : bit < capacity) :
    setBit capacity bits bit true = some fun n => n == bit || bits n := by
  rw [setBit, if_pos inside]
  refine congrArg some (funext fun n => ?_)
  by_cases same : n = bit
  · rw [if_pos same, beq_iff_eq.2 same, Bool.true_or]
  · rw [if_neg same, beq_eq_false_iff_ne.2 same, Bool.false_or]

theorem setBit_remove {capacity bit : Nat} (bits : Nat → Bool) (inside : bit < capacity) :
    setBit capacity bits bit false = some fun n => n != bit && bits n := by
  rw [setBit, if_pos inside]
  refine congrArg some (funext fun n => ?_)
  by_cases same : n = bit
  · rw [if_pos same, same, bne_self_eq_false, Bool.false_and]
  · rw [if_neg same, bne_iff_ne.2 same, Bool.true_and]

namespace MqttState

/-! ## The handlers -/

def nextPkidChecked (s : MqttState) : Option (MqttState × Nat) :=
  (addU16 s.lastPkid 1).map fun pkid =>
    ({ s with lastPkid := if pkid = s.maxInflight then 0 else pkid }, pkid)

def assignPkidChecked (s : MqttState) (pkid : Nat) : Option (MqttState × Nat) :=
  if pkid = 0 then s.nextPkidChecked else some (s, pkid)

def outgoingPublishChecked (s : MqttState) (publish : Publish) : Option (MqttState × Outcome) :=
  if publish.qos = .atMostOnce then some (s.emit (.publish publish.pkid) (.publish publish))
  else do
    let (s, pkid) ← s.assignPkidChecked publish.pkid
    let publish := { publish with pkid := pkid }
    match s.outgoingPub[publish.pkid]? with
    | none => some (s, .error (.unsolicited publish.pkid))
    | some (some _) =>
        some ({ s with
          collision := some publish
          events := s.events ++ [.outgoing (.awaitAck publish.pkid)] }, .ok none)
    | some none =>
        let table ← store s.outgoingPub publish.pkid (some publish)
        let inflight ← addU16 s.inflight 1
        some (emit { s with outgoingPub := table, inflight := inflight }
          (.publish publish.pkid) (.publish publish))

def outgoingPubrelChecked (s : MqttState) (pkid : Nat) : Option (MqttState × Outcome) := do
  let (s, pkid) ← s.assignPkidChecked pkid
  let released ← setBit (s.maxInflight + 1) s.outgoingRel pkid true
  let inflight ← addU16 s.inflight 1
  some (emit { s with outgoingRel := released, inflight := inflight } (.pubRel pkid) (.pubRel pkid))

def outgoingSubscribeChecked (s : MqttState) (subscription : Subscribe) :
    Option (MqttState × Outcome) :=
  if subscription.filters.isEmpty then some (s, .error .emptySubscription)
  else s.nextPkidChecked.map fun drawn =>
    drawn.1.emit (.subscribe drawn.2) (.subscribe { subscription with pkid := drawn.2 })

def outgoingUnsubscribeChecked (s : MqttState) (unsub : Unsubscribe) :
    Option (MqttState × Outcome) :=
  s.nextPkidChecked.map fun drawn =>
    drawn.1.emit (.unsubscribe drawn.2) (.unsubscribe { unsub with pkid := drawn.2 })

/-- `handle_outgoing_packet`; the handlers of the other requests do no arithmetic. -/
def handleOutgoingChecked (s : MqttState) : Request → Option (MqttState × Outcome)
  | .publish publish => s.outgoingPublishChecked publish
  | .pubRel pkid => s.outgoingPubrelChecked pkid
  | .subscribe subscription => s.outgoingSubscribeChecked subscription
  | .unsubscribe unsub => s.outgoingUnsubscribeChecked unsub
  | request => some (s.handleOutgoing request)

def handleIncomingPublishChecked (s : MqttState) (publish : Publish) :
    Option (MqttState × Outcome) :=
  match publish.qos with
  | .exactlyOnce => do
      let received ← setBit u16Size s.incomingPub publish.pkid true
      let s := { s with incomingPub := received }
      if s.manualAcks then some (s, .ok none)
      else some (s.emit (.pubRec publish.pkid) (.pubRec publish.pkid))
  | _ => some (s.handleIncomingPublish publish)

def handleIncomingPubackChecked (s : MqttState) (pkid : Nat) : Option (MqttState × Outcome) :=
  match s.outgoingPub[pkid]? with
  | none => some (s, .error (.unsolicited pkid))
  | some none => some ({ s with lastPuback := pkid }, .error (.unsolicited pkid))
  | some (some _) => do
      let inflight ← subU16 s.inflight 1
      let s :=
        { s with
          lastPuback := pkid
          outgoingPub := s.outgoingPub.set pkid none
          inflight := inflight }
      match s.checkCollision pkid with
      | none => some (s, .ok none)
      | some publish =>
          let table ← store s.outgoingPub publish.pkid (some publish)
          let inflight ← addU16 s.inflight 1
          some (emit
            { s with
              collision := none
              collisionPingCount := 0
              outgoingPub := table
              inflight := inflight }
            (.publish publish.pkid) (.publish publish))

def handleIncomingPubrecChecked (s : MqttState) (pkid : Nat) : Option (MqttState × Outcome) :=
  match s.outgoingPub[pkid]? with
  | some (some _) => do
      let released ← setBit (s.maxInflight + 1) s.outgoingRel pkid true
      some (emit { s with outgoingPub := s.outgoingPub.set pkid none, outgoingRel := released }
        (.pubRel pkid) (.pubRel pkid))
  | _ => some (s, .error (.unsolicited pkid))

def handleIncomingPubrelChecked (s : MqttState) (pkid : Nat) : Option (MqttState × Outcome) :=
  if s.incomingPub pkid then
    (setBit u16Size s.incomingPub pkid false).map fun received =>
      emit { s with incomingPub := received } (.pubComp pkid) (.pubComp pkid)
  else some (s, .error (.unsolicited pkid))

def handleIncomingPubcompChecked (s : MqttState) (pkid : Nat) : Option (MqttState × Outcome) :=
  if s.outgoingRel pkid then do
    let released ← setBit (s.maxInflight + 1) s.outgoingRel pkid false
    let inflight ← subU16 s.inflight 1
    let s := { s with outgoingRel := released, inflight := inflight }
    match s.checkCollision pkid with
    | none => some (s, .ok none)
    | some publish =>
        some (emit { s with collision := none, collisionPingCount := 0 } (.publish publish.pkid)
          (.publish publish))
  else some (s, .error (.unsolicited pkid))

def reactChecked (s : MqttState) : Packet → Option (MqttState × Outcome)
  | .publish publish => s.handleIncomingPublishChecked publish
  | .pubAck pkid => s.handleIncomingPubackChecked pkid
  | .pubRec pkid => s.handleIncomingPubrecChecked pkid
  | .pubRel pkid => s.handleIncomingPubrelChecked pkid
  | .pubComp pkid => s.handleIncomingPubcompChecked pkid
  | packet => some (s.react packet)

/-- `handle_incoming_packet`. -/
def handleIncomingChecked (s : MqttState) (packet : Packet) : Option (MqttState × Outcome) :=
  reactChecked { s with events := s.events ++ [.incoming packet] } packet

/-- `MqttState::clean`: the table is split behind the last acknowledged identifier. -/
def cleanChecked (s : MqttState) : Option (MqttState × List Request) :=
  if s.lastPuback + 1 ≤ s.outgoingPub.length then some (s.clean, s.unacknowledged) else none

/-! ## What the window counts -/

/-- The publishes that wait for their first acknowledgement. -/
def awaiting (s : MqttState) : Nat := s.outgoingPub.countP Option.isSome

/-- What the window counts beyond the publishes and the releases that wait. -/
def slack (s : MqttState) : Int := s.inflight - (s.awaiting + s.releases.length)

theorem countP_take {table : List (Option Publish)} {n : Nat} {p : Publish}
    (held : table[n]? = some (some p)) :
    (table.set n none).countP Option.isSome + 1 = table.countP Option.isSome := by
  obtain ⟨inside, value⟩ := List.getElem?_eq_some_iff.1 held
  have here : 0 < table.countP Option.isSome :=
    List.countP_pos_iff.2 ⟨some p, List.mem_of_getElem? held, rfl⟩
  rw [List.countP_set inside, value]
  simp only [Option.isSome_some, Option.isSome_none, if_true, Bool.false_eq_true, if_false]
  omega

theorem countP_put {table : List (Option Publish)} {n : Nat} (free : table[n]? = some none)
    (p : Publish) :
    (table.set n (some p)).countP Option.isSome = table.countP Option.isSome + 1 := by
  obtain ⟨inside, value⟩ := List.getElem?_eq_some_iff.1 free
  rw [List.countP_set inside, value]
  simp only [Option.isSome_some, Option.isSome_none, if_true, Bool.false_eq_true, if_false]
  omega

theorem length_filter_remove {bound bit : Nat} {bits : Nat → Bool} (inside : bit < bound)
    (enabled : bits bit = true) :
    ((List.range bound).filter fun n => n != bit && bits n).length + 1 =
      ((List.range bound).filter bits).length := by
  have found : bit ∈ (List.range bound).filter bits :=
    List.mem_filter.2 ⟨List.mem_range.2 inside, enabled⟩
  have erased : ((List.range bound).filter bits).erase bit =
      (List.range bound).filter fun n => n != bit && bits n := by
    rw [List.Nodup.erase_eq_filter (List.nodup_range.filter bits), List.filter_filter]
  rw [← erased, List.length_erase_of_mem found]
  have some_enabled : 0 < ((List.range bound).filter bits).length := List.length_pos_of_mem found
  omega

theorem length_filter_insert {bound bit : Nat} (bits : Nat → Bool) (inside : bit < bound) :
    ((List.range bound).filter fun n => n == bit || bits n).length =
      ((List.range bound).filter bits).length + if bits bit then 0 else 1 := by
  cases already : bits bit with
  | true =>
      have same : (fun n => n == bit || bits n) = bits := funext fun n => by
        by_cases here : n = bit
        · rw [here, already, Bool.or_true]
        · rw [beq_eq_false_iff_ne.2 here, Bool.false_or]
      rw [same]
      rfl
  | false =>
      have enabled : (bit == bit || bits bit) = true := by
        rw [beq_self_eq_true, Bool.true_or]
      have removed :
          ((List.range bound).filter fun n => n != bit && (n == bit || bits n)).length + 1 =
          ((List.range bound).filter fun n => n == bit || bits n).length :=
        length_filter_remove inside enabled
      have same : (fun n => n != bit && (n == bit || bits n)) = bits := funext fun n => by
        by_cases here : n = bit
        · rw [here, bne_self_eq_false, Bool.false_and, already]
        · rw [bne_iff_ne.2 here, beq_eq_false_iff_ne.2 here, Bool.true_and, Bool.false_or]
      rw [same] at removed
      exact removed.symm

/-! ## The invariant of a flight -/

/-- A publish that a table of this bound can hold. -/
structure Tracked (bound : Nat) (p : Publish) : Prop where
  inside : p.pkid ≤ bound
  named : p.pkid ≠ 0
  acked : p.qos ≠ .atMostOnce

structure Flight (s : MqttState) : Prop where
  sized : s.Sized
  words : s.maxInflight < u16Size
  /-- Each occupied slot holds the publish with its identifier. -/
  own : ∀ n p, s.outgoingPub[n]? = some (some p) → p.pkid = n ∧ Tracked s.maxInflight p
  released : ∀ n, s.outgoingRel n = true → n ≤ s.maxInflight
  acked : s.lastPuback ≤ s.maxInflight
  collided : ∀ p, s.collision = some p → Tracked s.maxInflight p
  counted : 0 ≤ s.slack

theorem new_flight {maxInflight : Nat} (some : 0 < maxInflight) (words : maxInflight < u16Size)
    (manualAcks : Bool) : (new maxInflight manualAcks).Flight := by
  have empty : (new maxInflight manualAcks).awaiting = 0 := by
    simp [awaiting, new, List.countP_replicate]
  refine ⟨new_sized some manualAcks, words, ?_, ?_, Nat.zero_le _, ?_, ?_⟩
  · intro n p held
    exact absurd held ((new_idle maxInflight manualAcks).slot n p)
  · exact fun n released => absurd released Bool.false_ne_true
  · exact fun p collided => absurd collided (Option.some_ne_none p).symm
  · have none_released : (new maxInflight manualAcks).releases = [] := by simp [releases, new]
    rw [slack, empty, none_released]
    exact le_refl 0

/-- A slot of the table is one of an identifier in range. -/
theorem Flight.slot_le {s : MqttState} (flight : s.Flight) {n : Nat} {slot : Option Publish}
    (found : s.outgoingPub[n]? = some slot) : n ≤ s.maxInflight := by
  have inside := (List.getElem?_eq_some_iff.1 found).1
  rw [flight.sized.slots] at inside
  omega

/-- Something waits only if the window counts it. -/
theorem Flight.inflight_pos {s : MqttState} (flight : s.Flight)
    (waits : 0 < s.awaiting + s.releases.length) : 1 ≤ s.inflight := by
  have counted := flight.counted
  rw [slack] at counted
  omega

theorem Flight.awaiting_pos {s : MqttState} {n : Nat} {p : Publish}
    (held : s.outgoingPub[n]? = some (some p)) : 0 < s.awaiting :=
  List.countP_pos_iff.2 ⟨some p, List.mem_of_getElem? held, rfl⟩

theorem Flight.releases_pos {s : MqttState} (flight : s.Flight) {n : Nat}
    (released : s.outgoingRel n = true) : 0 < s.releases.length :=
  List.length_pos_of_mem (List.mem_filter.2
    ⟨List.mem_range.2 (Nat.lt_add_one_of_le (flight.released n released)), released⟩)

/-- A freed slot holds nothing, and the others what they held. -/
theorem held_of_take {table : List (Option Publish)} {n m : Nat} {p : Publish}
    (held : (table.set n none)[m]? = some (some p)) : table[m]? = some (some p) := by
  by_cases same : n = m
  · rw [same, List.getElem?_set_self'] at held
    cases here : table[m]? with
    | none => rw [here] at held; cases held
    | some slot => rw [here] at held; cases held
  · rwa [List.getElem?_set_ne same] at held

/-- A filled slot holds its publish, and the others what they held. -/
theorem held_of_put {table : List (Option Publish)} {n m : Nat} {p q : Publish}
    (held : (table.set n (some q))[m]? = some (some p)) :
    (m = n ∧ p = q) ∨ table[m]? = some (some p) := by
  by_cases same : n = m
  · rw [same, List.getElem?_set_self'] at held
    cases here : table[m]? with
    | none => rw [here] at held; cases held
    | some slot =>
        rw [here] at held
        exact Or.inl ⟨same.symm, (Option.some.inj (Option.some.inj held)).symm⟩
  · rw [List.getElem?_set_ne same] at held
    exact Or.inr held

/-! ## The moves of a flight -/

/-- A publish enters its slot. -/
theorem Flight.put {s : MqttState} (flight : s.Flight) {p : Publish}
    (free : s.outgoingPub[p.pkid]? = some none) (named : p.pkid ≠ 0) (acked : p.qos ≠ .atMostOnce) :
    Flight { s with
      outgoingPub := s.outgoingPub.set p.pkid (some p), inflight := s.inflight + 1 } ∧
      slack { s with
        outgoingPub := s.outgoingPub.set p.pkid (some p), inflight := s.inflight + 1 } = s.slack := by
  have balance : slack { s with
      outgoingPub := s.outgoingPub.set p.pkid (some p), inflight := s.inflight + 1 } = s.slack := by
    have filled := countP_put free p
    simp only [slack, awaiting, releases, filled]
    omega
  refine ⟨⟨⟨?_, flight.sized.next⟩, flight.words, ?_, flight.released, flight.acked,
    flight.collided, ?_⟩, balance⟩
  · rw [List.length_set]
    exact flight.sized.slots
  · intro n q held
    rcases held_of_put held with ⟨rfl, rfl⟩ | before
    · exact ⟨rfl, flight.slot_le free, named, acked⟩
    · exact flight.own n q before
  · rw [balance]
    exact flight.counted

/-- An acknowledged publish leaves its slot, and the window. -/
theorem Flight.take {s : MqttState} (flight : s.Flight) {n : Nat} {p : Publish}
    (held : s.outgoingPub[n]? = some (some p)) :
    Flight { s with
      lastPuback := n, outgoingPub := s.outgoingPub.set n none, inflight := s.inflight - 1 } ∧
      slack { s with
        lastPuback := n, outgoingPub := s.outgoingPub.set n none, inflight := s.inflight - 1 } =
        s.slack := by
  have positive := flight.inflight_pos (by have := Flight.awaiting_pos held; omega)
  have balance : slack { s with
      lastPuback := n, outgoingPub := s.outgoingPub.set n none, inflight := s.inflight - 1 } =
      s.slack := by
    have freed := countP_take held
    simp only [slack, awaiting, releases]
    omega
  refine ⟨⟨⟨?_, flight.sized.next⟩, flight.words, ?_, flight.released, flight.slot_le held,
    flight.collided, ?_⟩, balance⟩
  · rw [List.length_set]
    exact flight.sized.slots
  · exact fun m q still => flight.own m q (held_of_take still)
  · rw [balance]
    exact flight.counted

/-- A received publish leaves its slot and waits for its release: the window keeps
counting it, once more if a release of that identifier was waiting already. -/
theorem Flight.receive {s : MqttState} (flight : s.Flight) {n : Nat} {p : Publish}
    (held : s.outgoingPub[n]? = some (some p)) :
    Flight { s with
      outgoingPub := s.outgoingPub.set n none, outgoingRel := fun m => m == n || s.outgoingRel m } ∧
      slack { s with
        outgoingPub := s.outgoingPub.set n none
        outgoingRel := fun m => m == n || s.outgoingRel m } =
        s.slack + if s.outgoingRel n then 1 else 0 := by
  have balance : slack { s with
      outgoingPub := s.outgoingPub.set n none, outgoingRel := fun m => m == n || s.outgoingRel m } =
      s.slack + if s.outgoingRel n then 1 else 0 := by
    have freed := countP_take held
    have inserted := length_filter_insert s.outgoingRel (Nat.lt_add_one_of_le (flight.slot_le held))
    simp only [slack, awaiting, releases]
    cases already : s.outgoingRel n with
    | true =>
        rw [if_pos already] at inserted
        simp only [if_true]
        omega
    | false =>
        rw [if_neg (by rw [already]; exact Bool.false_ne_true)] at inserted
        simp only [Bool.false_eq_true, if_false]
        omega
  refine ⟨⟨⟨?_, flight.sized.next⟩, flight.words, ?_, ?_, flight.acked, flight.collided, ?_⟩,
    balance⟩
  · rw [List.length_set]
    exact flight.sized.slots
  · exact fun m q still => flight.own m q (held_of_take still)
  · intro m released
    rcases Bool.or_eq_true_iff.1 released with same | before
    · rw [beq_iff_eq.1 same]
      exact flight.slot_le held
    · exact flight.released m before
  · rw [balance]
    have counted := flight.counted
    split <;> omega

/-- A completed release leaves the window. -/
theorem Flight.complete {s : MqttState} (flight : s.Flight) {n : Nat}
    (released : s.outgoingRel n = true) :
    Flight { s with
      outgoingRel := fun m => m != n && s.outgoingRel m, inflight := s.inflight - 1 } ∧
      slack { s with
        outgoingRel := fun m => m != n && s.outgoingRel m, inflight := s.inflight - 1 } = s.slack := by
  have positive := flight.inflight_pos (by have := flight.releases_pos released; omega)
  have balance : slack { s with
      outgoingRel := fun m => m != n && s.outgoingRel m, inflight := s.inflight - 1 } = s.slack := by
    have removed := length_filter_remove (Nat.lt_add_one_of_le (flight.released n released)) released
    simp only [slack, awaiting, releases]
    omega
  refine ⟨⟨⟨flight.sized.slots, flight.sized.next⟩, flight.words, flight.own, ?_, flight.acked,
    flight.collided, ?_⟩, balance⟩
  · exact fun m still => flight.released m (Bool.and_eq_true_iff.1 still).2
  · rw [balance]
    exact flight.counted

/-- The counters and tables are what they were. -/
theorem Flight.noted {s : MqttState} (flight : s.Flight) (events : List Event) :
    Flight { s with events := events } ∧ slack { s with events := events } = s.slack :=
  ⟨⟨⟨flight.sized.slots, flight.sized.next⟩, flight.words, flight.own, flight.released, flight.acked,
    flight.collided, flight.counted⟩, rfl⟩

theorem Flight.resolved {s : MqttState} (flight : s.Flight) :
    Flight { s with collision := none, collisionPingCount := 0 } :=
  ⟨⟨flight.sized.slots, flight.sized.next⟩, flight.words, flight.own, flight.released, flight.acked,
    nofun, flight.counted⟩

theorem checkCollision_pkid {s : MqttState} {pkid : Nat} {publish : Publish}
    (hit : s.checkCollision pkid = some publish) : publish.pkid = pkid :=
  beq_iff_eq.1 (Option.filter_eq_some_iff.1 hit).2

/-! ## Receiving keeps the flight -/

/-- The packet acknowledges a publish whose identifier has a release waiting
already, which only happens once the identifier is used again too early. -/
def repeats (s : MqttState) : Packet → Bool
  | .pubRec pkid => s.outgoingPub[pkid]?.join.isSome && s.outgoingRel pkid
  | _ => false

theorem handleIncomingPuback_flight {s : MqttState} (flight : s.Flight) (pkid : Nat) :
    (s.handleIncomingPuback pkid).1.Flight ∧ (s.handleIncomingPuback pkid).1.slack = s.slack := by
  simp only [handleIncomingPuback]
  split
  · exact ⟨flight, rfl⟩
  · rename_i found
    exact ⟨⟨⟨flight.sized.slots, flight.sized.next⟩, flight.words, flight.own, flight.released,
      flight.slot_le found, flight.collided, flight.counted⟩, rfl⟩
  · rename_i held
    obtain ⟨taken, balance⟩ := flight.take held
    split
    · exact ⟨taken, balance⟩
    · rename_i publish hit
      -- the collided publish moves into the slot that was just freed
      have tracked := taken.collided publish (checkCollision_eq_some hit)
      have free : (s.outgoingPub.set pkid none)[publish.pkid]? = some none := by
        rw [checkCollision_pkid hit, List.getElem?_set_self (List.getElem?_eq_some_iff.1 held).1]
      obtain ⟨put, same⟩ := taken.resolved.put free tracked.named tracked.acked
      obtain ⟨noted, kept⟩ := put.noted (s.events ++ [.outgoing (.publish publish.pkid)])
      exact ⟨noted, kept.trans (same.trans balance)⟩

theorem repeats_held {s : MqttState} {pkid : Nat} {p : Publish}
    (held : s.outgoingPub[pkid]? = some (some p)) :
    s.repeats (.pubRec pkid) = s.outgoingRel pkid := by
  rw [repeats, held, Option.join_some, Option.isSome_some, Bool.true_and]

theorem repeats_free {s : MqttState} {pkid : Nat}
    (unheld : ∀ p, s.outgoingPub[pkid]? ≠ some (some p)) : s.repeats (.pubRec pkid) = false := by
  rw [repeats]
  cases found : s.outgoingPub[pkid]? with
  | none => rfl
  | some slot =>
      cases slot with
      | none => rfl
      | some p => exact absurd found (unheld p)

theorem handleIncomingPubrec_flight {s : MqttState} (flight : s.Flight) (pkid : Nat) :
    (s.handleIncomingPubrec pkid).1.Flight ∧
      (s.handleIncomingPubrec pkid).1.slack =
        s.slack + if s.repeats (.pubRec pkid) then 1 else 0 := by
  simp only [handleIncomingPubrec]
  split
  · rename_i held
    obtain ⟨received, balance⟩ := flight.receive held
    obtain ⟨noted, kept⟩ := received.noted (s.events ++ [.outgoing (.pubRel pkid)])
    rw [repeats_held held]
    exact ⟨noted, kept.trans balance⟩
  · rename_i unheld
    rw [repeats_free unheld]
    exact ⟨flight, (add_zero _).symm⟩

theorem handleIncomingPubcomp_flight {s : MqttState} (flight : s.Flight) (pkid : Nat) :
    (s.handleIncomingPubcomp pkid).1.Flight ∧ (s.handleIncomingPubcomp pkid).1.slack = s.slack := by
  simp only [handleIncomingPubcomp]
  split
  · rename_i released
    obtain ⟨completed, balance⟩ := flight.complete released
    split
    · exact ⟨completed, balance⟩
    · rename_i publish hit
      obtain ⟨noted, kept⟩ :=
        completed.resolved.noted (s.events ++ [.outgoing (.publish publish.pkid)])
      exact ⟨noted, kept.trans balance⟩
  · exact ⟨flight, rfl⟩

theorem handleIncomingPublish_flight {s : MqttState} (flight : s.Flight) (publish : Publish) :
    (s.handleIncomingPublish publish).1.Flight ∧
      (s.handleIncomingPublish publish).1.slack = s.slack := by
  have received : Flight { s with incomingPub := fun n => n == publish.pkid || s.incomingPub n } :=
    ⟨⟨flight.sized.slots, flight.sized.next⟩, flight.words, flight.own, flight.released, flight.acked,
      flight.collided, flight.counted⟩
  simp only [handleIncomingPublish]
  cases publish.qos with
  | atMostOnce => exact ⟨flight, rfl⟩
  | atLeastOnce =>
      dsimp only
      split
      · exact ⟨flight, rfl⟩
      · exact flight.noted _
  | exactlyOnce =>
      dsimp only
      split
      · exact ⟨received, rfl⟩
      · exact received.noted _

/-- **Receiving keeps the flight**, and the window counts too much by one more
exactly when the packet repeats. -/
theorem handleIncoming_flight {s : MqttState} (flight : s.Flight) (packet : Packet) :
    (s.handleIncoming packet).1.Flight ∧
      (s.handleIncoming packet).1.slack = s.slack + if s.repeats packet then 1 else 0 := by
  obtain ⟨noted, -⟩ := flight.noted (s.events ++ [.incoming packet])
  have even : ∀ t : MqttState, t.Flight ∧ t.slack = s.slack →
      t.Flight ∧ t.slack = s.slack + if false then 1 else 0 := fun t kept =>
    ⟨kept.1, kept.2.trans (add_zero _).symm⟩
  cases packet with
  | publish publish => exact even _ (handleIncomingPublish_flight noted publish)
  | pubAck pkid => exact even _ (handleIncomingPuback_flight noted pkid)
  | pubRec pkid => exact handleIncomingPubrec_flight noted pkid
  | pubComp pkid => exact even _ (handleIncomingPubcomp_flight noted pkid)
  | pubRel pkid =>
      refine even _ ?_
      simp only [handleIncoming, react, handleIncomingPubrel]
      split
      · exact ⟨⟨⟨noted.sized.slots, noted.sized.next⟩, noted.words, noted.own, noted.released,
          noted.acked, noted.collided, noted.counted⟩, rfl⟩
      · exact ⟨noted, rfl⟩
  | pingResp =>
      exact even _ ⟨⟨⟨noted.sized.slots, noted.sized.next⟩, noted.words, noted.own, noted.released,
        noted.acked, noted.collided, noted.counted⟩, rfl⟩
  | _ => exact even _ ⟨noted, rfl⟩

/-! ## Sending keeps the flight -/

/-- A release to send names a slot of the table, or waits for an identifier. -/
def Fits (bound : Nat) : Request → Prop
  | .pubRel pkid => pkid ≤ bound
  | _ => True

/-- The request releases an identifier that has a release waiting already. -/
def resends (s : MqttState) : Request → Bool
  | .pubRel pkid => s.outgoingRel (s.assignPkid pkid).2
  | _ => false

theorem Flight.assignPkid {s : MqttState} (flight : s.Flight) (pkid : Nat) :
    (s.assignPkid pkid).1.Flight ∧ (s.assignPkid pkid).1.slack = s.slack := by
  have sized := flight.sized.assignPkid pkid
  unfold MqttState.assignPkid at sized ⊢
  split at sized
  · rename_i fresh
    rw [if_pos fresh]
    exact ⟨⟨sized, flight.words, flight.own, flight.released, flight.acked, flight.collided,
      flight.counted⟩, rfl⟩
  · rename_i named
    rw [if_neg named]
    exact ⟨flight, rfl⟩

/-- An assigned identifier is one, and lies in the table if a kept one does. -/
theorem assignPkid_range {s : MqttState} (sized : s.Sized) (pkid : Nat) :
    (s.assignPkid pkid).2 ≠ 0 ∧
      (pkid ≤ s.maxInflight → (s.assignPkid pkid).2 ≤ s.maxInflight) ∧
      (s.assignPkid pkid).1.maxInflight = s.maxInflight := by
  have next := sized.next
  unfold MqttState.assignPkid
  split
  · exact ⟨Nat.succ_ne_zero _, fun _ => next, rfl⟩
  · rename_i named
    exact ⟨named, id, rfl⟩

theorem Flight.collide {s : MqttState} (flight : s.Flight) {p : Publish}
    (tracked : Tracked s.maxInflight p) (events : List Event) :
    Flight { s with collision := some p, events := events } :=
  ⟨⟨flight.sized.slots, flight.sized.next⟩, flight.words, flight.own, flight.released, flight.acked,
    fun _ same => Option.some.inj same ▸ tracked, flight.counted⟩

theorem outgoingPublish_flight {s : MqttState} (flight : s.Flight) (publish : Publish) :
    (s.outgoingPublish publish).1.Flight ∧ (s.outgoingPublish publish).1.slack = s.slack := by
  unfold outgoingPublish
  split
  · exact flight.noted _
  · rename_i acked
    obtain ⟨assigned, same⟩ := flight.assignPkid publish.pkid
    have named := (assignPkid_range flight.sized publish.pkid).1
    dsimp only
    split
    · exact ⟨assigned, same⟩
    · rename_i held
      exact ⟨assigned.collide (p := { publish with pkid := _ })
        ⟨assigned.slot_le held, named, acked⟩ _, same⟩
    · rename_i free
      obtain ⟨put, kept⟩ :=
        assigned.put (p := { publish with pkid := (s.assignPkid publish.pkid).2 }) free named acked
      obtain ⟨noted, kept'⟩ := put.noted _
      exact ⟨noted, kept'.trans (kept.trans same)⟩

/-- A release enters the window. -/
theorem Flight.release {s : MqttState} (flight : s.Flight) {n : Nat} (inside : n ≤ s.maxInflight) :
    Flight { s with
      outgoingRel := fun m => m == n || s.outgoingRel m, inflight := s.inflight + 1 } ∧
      slack { s with
        outgoingRel := fun m => m == n || s.outgoingRel m, inflight := s.inflight + 1 } =
        s.slack + if s.outgoingRel n then 1 else 0 := by
  have balance : slack { s with
      outgoingRel := fun m => m == n || s.outgoingRel m, inflight := s.inflight + 1 } =
      s.slack + if s.outgoingRel n then 1 else 0 := by
    have inserted := length_filter_insert s.outgoingRel (Nat.lt_add_one_of_le inside)
    simp only [slack, awaiting, releases]
    cases already : s.outgoingRel n with
    | true =>
        rw [if_pos already] at inserted
        simp only [if_true]
        omega
    | false =>
        rw [if_neg (by rw [already]; exact Bool.false_ne_true)] at inserted
        simp only [Bool.false_eq_true, if_false]
        omega
  refine ⟨⟨⟨flight.sized.slots, flight.sized.next⟩, flight.words, flight.own, ?_, flight.acked,
    flight.collided, ?_⟩, balance⟩
  · intro m released
    rcases Bool.or_eq_true_iff.1 released with same | before
    · rw [beq_iff_eq.1 same]
      exact inside
    · exact flight.released m before
  · rw [balance]
    have counted := flight.counted
    split <;> omega

theorem outgoingPing_flight {s : MqttState} (flight : s.Flight) :
    s.outgoingPing.1.Flight ∧ s.outgoingPing.1.slack = s.slack := by
  have counted : s.countCollisionPing.Flight ∧ s.countCollisionPing.slack = s.slack := by
    unfold countCollisionPing
    split
    · exact ⟨⟨⟨flight.sized.slots, flight.sized.next⟩, flight.words, flight.own, flight.released,
        flight.acked, flight.collided, flight.counted⟩, rfl⟩
    · exact ⟨flight, rfl⟩
  obtain ⟨kept, same⟩ := counted
  unfold outgoingPing
  dsimp only
  split
  · exact ⟨kept, same⟩
  split
  · exact ⟨kept, same⟩
  · exact ⟨⟨⟨kept.sized.slots, kept.sized.next⟩, kept.words, kept.own, kept.released, kept.acked,
      kept.collided, kept.counted⟩, same⟩

/-- **Sending keeps the flight**, and the window counts too much by one more
exactly when a waiting release is sent again. -/
theorem handleOutgoing_flight {s : MqttState} (flight : s.Flight) {request : Request}
    (fits : Fits s.maxInflight request) :
    (s.handleOutgoing request).1.Flight ∧
      (s.handleOutgoing request).1.slack = s.slack + if s.resends request then 1 else 0 := by
  have even : ∀ t : MqttState, t.Flight ∧ t.slack = s.slack →
      t.Flight ∧ t.slack = s.slack + if false then 1 else 0 := fun t kept =>
    ⟨kept.1, kept.2.trans (add_zero _).symm⟩
  obtain ⟨drawn, same⟩ := flight.assignPkid 0
  cases request with
  | publish publish => exact even _ (outgoingPublish_flight flight publish)
  | pingReq => exact even _ (outgoingPing_flight flight)
  | pubRel pkid =>
      obtain ⟨assigned, kept⟩ := flight.assignPkid pkid
      obtain ⟨-, inside, bound⟩ := assignPkid_range flight.sized pkid
      obtain ⟨released, balance⟩ := assigned.release (n := (s.assignPkid pkid).2)
        (by rw [bound]; exact inside fits)
      obtain ⟨noted, kept'⟩ := released.noted _
      refine ⟨noted, kept'.trans (balance.trans ?_)⟩
      have rels : (s.assignPkid pkid).1.outgoingRel = s.outgoingRel := by
        unfold MqttState.assignPkid
        split <;> rfl
      rw [kept, rels]
      rfl
  | subscribe subscription =>
      refine even _ ?_
      simp only [handleOutgoing, outgoingSubscribe]
      split
      · exact ⟨flight, rfl⟩
      · obtain ⟨noted, kept⟩ := drawn.noted _
        exact ⟨noted, kept.trans same⟩
  | unsubscribe unsub =>
      obtain ⟨noted, kept⟩ := drawn.noted _
      exact even _ ⟨noted, kept.trans same⟩
  | _ => exact even _ (flight.noted _)

theorem clean_flight {s : MqttState} (flight : s.Flight) :
    s.clean.Flight ∧ s.clean.slack = 0 := by
  have empty : s.clean.awaiting = 0 := by
    rw [awaiting, List.countP_eq_zero]
    intro slot found
    rw [s.clean_idle.slots slot found]
    exact Bool.false_ne_true
  have none_released : s.clean.releases = [] := by simp [releases, clean]
  have balance : s.clean.slack = 0 := by
    rw [slack, empty, none_released]
    rfl
  refine ⟨⟨flight.sized.clean, flight.words, ?_, ?_, flight.acked, flight.collided, ?_⟩, balance⟩
  · exact fun n p held => absurd held (s.clean_idle.slot n p)
  · exact fun n released => absurd released Bool.false_ne_true
  · rw [balance]

/-- What a session hands back when it is cleaned fits a session of its size. -/
theorem unacknowledged_fits {s : MqttState} (flight : s.Flight) {request : Request}
    (found : request ∈ s.unacknowledged) : Fits s.maxInflight request := by
  rcases List.mem_append.1 found with publish | release
  · obtain ⟨slot, -, same⟩ := List.mem_filterMap.1 publish
    obtain ⟨p, -, rfl⟩ := Option.map_eq_some_iff.1 same
    trivial
  · obtain ⟨pkid, released, rfl⟩ := List.mem_map.1 release
    exact flight.released pkid (List.mem_filter.1 released).2

/-! ## The window's counter -/

/-- Receiving never raises the counter. -/
theorem handleIncoming_inflight {s : MqttState} (flight : s.Flight) (packet : Packet) :
    (s.handleIncoming packet).1.inflight ≤ s.inflight := by
  cases packet with
  | pubAck pkid =>
      simp only [handleIncoming, react, handleIncomingPuback]
      split
      · exact le_refl _
      · exact le_refl _
      · rename_i held
        have positive := flight.inflight_pos (by have := Flight.awaiting_pos held; omega)
        split
        · exact Nat.sub_le _ _
        · show s.inflight - 1 + 1 ≤ s.inflight
          omega
  | pubComp pkid =>
      simp only [handleIncoming, react, handleIncomingPubcomp]
      split
      · split <;> exact Nat.sub_le _ _
      · exact le_refl _
  | publish publish =>
      simp only [handleIncoming, react, handleIncomingPublish]
      cases publish.qos with
      | atMostOnce => exact le_refl _
      | atLeastOnce => dsimp only; split <;> exact le_refl _
      | exactlyOnce => dsimp only; split <;> exact le_refl _
  | pubRec pkid =>
      simp only [handleIncoming, react, handleIncomingPubrec]
      split <;> exact le_refl _
  | pubRel pkid =>
      simp only [handleIncoming, react, handleIncomingPubrel]
      split <;> exact le_refl _
  | _ => exact le_refl _

theorem assignPkid_inflight (s : MqttState) (pkid : Nat) :
    (s.assignPkid pkid).1.inflight = s.inflight := by
  unfold assignPkid
  split <;> rfl

theorem outgoingPing_inflight (s : MqttState) :
    (s.handleOutgoing .pingReq).1.inflight = s.inflight := by
  have counted : s.countCollisionPing.inflight = s.inflight := by
    unfold countCollisionPing
    split <;> rfl
  simp only [handleOutgoing, outgoingPing]
  split
  · exact counted
  split <;> exact counted

/-- Sending raises the counter by one at most. -/
theorem handleOutgoing_inflight (s : MqttState) (request : Request) :
    (s.handleOutgoing request).1.inflight ≤ s.inflight + 1 := by
  cases request with
  | publish publish =>
      simp only [handleOutgoing, outgoingPublish]
      split
      · exact Nat.le_succ _
      split
      · exact (s.assignPkid_inflight _).le.trans (Nat.le_succ _)
      · exact (s.assignPkid_inflight _).le.trans (Nat.le_succ _)
      · exact Nat.succ_le_succ (s.assignPkid_inflight _).le
  | pubRel pkid => exact Nat.succ_le_succ (s.assignPkid_inflight _).le
  | pingReq => exact s.outgoingPing_inflight.le.trans (Nat.le_succ _)
  | subscribe subscription =>
      simp only [handleOutgoing, outgoingSubscribe]
      split <;> exact Nat.le_succ _
  | _ => exact Nat.le_succ _

theorem handleIncoming_maxInflight (s : MqttState) (packet : Packet) :
    (s.handleIncoming packet).1.maxInflight = s.maxInflight := by
  cases packet with
  | pubAck pkid =>
      simp only [handleIncoming, react, handleIncomingPuback]
      split
      · rfl
      · rfl
      · split <;> rfl
  | pubComp pkid =>
      simp only [handleIncoming, react, handleIncomingPubcomp]
      split
      · split <;> rfl
      · rfl
  | publish publish =>
      simp only [handleIncoming, react, handleIncomingPublish]
      cases publish.qos with
      | atMostOnce => rfl
      | atLeastOnce => dsimp only; split <;> rfl
      | exactlyOnce => dsimp only; split <;> rfl
  | pubRec pkid =>
      simp only [handleIncoming, react, handleIncomingPubrec]
      split <;> rfl
  | pubRel pkid =>
      simp only [handleIncoming, react, handleIncomingPubrel]
      split <;> rfl
  | _ => rfl

theorem assignPkid_maxInflight (s : MqttState) (pkid : Nat) :
    (s.assignPkid pkid).1.maxInflight = s.maxInflight := by
  unfold assignPkid
  split <;> rfl

theorem handleOutgoing_maxInflight (s : MqttState) (request : Request) :
    (s.handleOutgoing request).1.maxInflight = s.maxInflight := by
  cases request with
  | publish publish =>
      simp only [handleOutgoing, outgoingPublish]
      split
      · rfl
      split <;> exact s.assignPkid_maxInflight _
  | pubRel pkid => exact s.assignPkid_maxInflight _
  | pingReq =>
      have counted : s.countCollisionPing.maxInflight = s.maxInflight := by
        unfold countCollisionPing
        split <;> rfl
      simp only [handleOutgoing, outgoingPing]
      split
      · exact counted
      split <;> exact counted
  | subscribe subscription =>
      simp only [handleOutgoing, outgoingSubscribe]
      split <;> rfl
  | _ => rfl

/-! ## No operation leaves its range -/

theorem nextPkidChecked_eq {s : MqttState} (flight : s.Flight) :
    s.nextPkidChecked = some s.nextPkid := by
  have next := flight.sized.next
  have words := flight.words
  rw [nextPkidChecked, addU16_of_lt (by omega)]
  rfl

theorem assignPkidChecked_eq {s : MqttState} (flight : s.Flight) (pkid : Nat) :
    s.assignPkidChecked pkid = some (s.assignPkid pkid) := by
  unfold assignPkidChecked assignPkid
  split
  · exact nextPkidChecked_eq flight
  · rfl

theorem outgoingPublishChecked_eq {s : MqttState} (flight : s.Flight)
    (room : s.inflight + 1 < u16Size) (publish : Publish) :
    s.outgoingPublishChecked publish = some (s.outgoingPublish publish) := by
  have counter : (s.assignPkid publish.pkid).1.inflight = s.inflight := s.assignPkid_inflight _
  unfold outgoingPublishChecked outgoingPublish
  split
  · rfl
  · rw [assignPkidChecked_eq flight]
    simp only [Option.bind_eq_bind, Option.bind_some]
    cases found : (s.assignPkid publish.pkid).1.outgoingPub[(s.assignPkid publish.pkid).2]? with
    | none => rfl
    | some slot =>
        cases slot with
        | some p => rfl
        | none =>
            dsimp only
            rw [store_of_lt _ (List.getElem?_eq_some_iff.1 found).1, addU16_of_lt (by omega)]
            rfl

theorem outgoingPubrelChecked_eq {s : MqttState} (flight : s.Flight)
    (room : s.inflight + 1 < u16Size) {pkid : Nat} (inside : pkid ≤ s.maxInflight) :
    s.outgoingPubrelChecked pkid = some (s.outgoingPubrel pkid) := by
  have counter : (s.assignPkid pkid).1.inflight = s.inflight := s.assignPkid_inflight _
  obtain ⟨-, within, bound⟩ := assignPkid_range flight.sized pkid
  rw [outgoingPubrelChecked, assignPkidChecked_eq flight]
  simp only [Option.bind_eq_bind, Option.bind_some]
  rw [setBit_insert _ (by rw [bound]; exact Nat.lt_add_one_of_le (within inside)),
    addU16_of_lt (by omega)]
  rfl

/-- **Sending stays in range** while the counter has room for one more. -/
theorem handleOutgoingChecked_eq {s : MqttState} (flight : s.Flight)
    (room : s.inflight + 1 < u16Size) {request : Request} (fits : Fits s.maxInflight request) :
    s.handleOutgoingChecked request = some (s.handleOutgoing request) := by
  cases request with
  | publish publish => exact outgoingPublishChecked_eq flight room publish
  | pubRel pkid => exact outgoingPubrelChecked_eq flight room fits
  | subscribe subscription =>
      simp only [handleOutgoingChecked, outgoingSubscribeChecked, handleOutgoing, outgoingSubscribe,
        nextPkidChecked_eq flight]
      cases subscription.filters.isEmpty with
      | true => rfl
      | false => rfl
  | unsubscribe unsub =>
      simp only [handleOutgoingChecked, outgoingUnsubscribeChecked, handleOutgoing,
        outgoingUnsubscribe, nextPkidChecked_eq flight]
      rfl
  | _ => rfl

theorem handleIncomingPubackChecked_eq {s : MqttState} (flight : s.Flight)
    (room : s.inflight < u16Size) (pkid : Nat) :
    s.handleIncomingPubackChecked pkid = some (s.handleIncomingPuback pkid) := by
  unfold handleIncomingPubackChecked handleIncomingPuback
  cases found : s.outgoingPub[pkid]? with
  | none => rfl
  | some slot =>
      cases slot with
      | none => rfl
      | some p =>
          have positive := flight.inflight_pos (by have := Flight.awaiting_pos found; omega)
          dsimp only
          rw [subU16_of_le positive]
          simp only [Option.bind_eq_bind, Option.bind_some]
          cases hit : checkCollision { s with
            lastPuback := pkid
            outgoingPub := s.outgoingPub.set pkid none
            inflight := s.inflight - 1 } pkid with
          | none => rfl
          | some publish =>
              have inside := (flight.collided publish (checkCollision_eq_some hit)).inside
              have slots := flight.sized.slots
              dsimp only
              rw [store_of_lt _ (by rw [List.length_set]; omega), addU16_of_lt (by omega)]
              rfl

theorem handleIncomingPubrecChecked_eq {s : MqttState} (flight : s.Flight) (pkid : Nat) :
    s.handleIncomingPubrecChecked pkid = some (s.handleIncomingPubrec pkid) := by
  unfold handleIncomingPubrecChecked handleIncomingPubrec
  cases found : s.outgoingPub[pkid]? with
  | none => rfl
  | some slot =>
      cases slot with
      | none => rfl
      | some p =>
          dsimp only
          rw [setBit_insert _ (Nat.lt_add_one_of_le (flight.slot_le found))]
          rfl

theorem handleIncomingPubcompChecked_eq {s : MqttState} (flight : s.Flight) (pkid : Nat) :
    s.handleIncomingPubcompChecked pkid = some (s.handleIncomingPubcomp pkid) := by
  unfold handleIncomingPubcompChecked handleIncomingPubcomp
  cases released : s.outgoingRel pkid with
  | false => rfl
  | true =>
      have positive := flight.inflight_pos (by have := flight.releases_pos released; omega)
      rw [if_pos rfl, if_pos rfl,
        setBit_remove _ (Nat.lt_add_one_of_le (flight.released pkid released)), subU16_of_le positive]
      simp only [Option.bind_eq_bind, Option.bind_some]
      cases hit : checkCollision { s with
        outgoingRel := fun n => n != pkid && s.outgoingRel n
        inflight := s.inflight - 1 } pkid with
      | none => rfl
      | some publish => rfl

end MqttState

/-- The identifier a packet carries is a `u16`. -/
def Packet.Word : Packet → Prop
  | .publish p => p.pkid < u16Size
  | .pubRel pkid => pkid < u16Size
  | _ => True

namespace MqttState

/-- **Receiving stays in range**: whatever the packet, no counter runs below zero
and no table is indexed outside. -/
theorem handleIncomingChecked_eq {s : MqttState} (flight : s.Flight) (room : s.inflight < u16Size)
    {packet : Packet} (word : packet.Word) :
    s.handleIncomingChecked packet = some (s.handleIncoming packet) := by
  obtain ⟨noted, -⟩ := flight.noted (s.events ++ [.incoming packet])
  cases packet with
  | publish publish =>
      simp only [handleIncomingChecked, reactChecked, handleIncomingPublishChecked, handleIncoming,
        react]
      cases received : publish.qos with
      | exactlyOnce =>
          dsimp only
          rw [setBit_insert _ word]
          simp only [Option.bind_eq_bind, Option.bind_some, handleIncomingPublish, received]
          split <;> rfl
      | _ => rfl
  | pubAck pkid => exact handleIncomingPubackChecked_eq noted room pkid
  | pubRec pkid => exact handleIncomingPubrecChecked_eq noted pkid
  | pubComp pkid => exact handleIncomingPubcompChecked_eq noted pkid
  | pubRel pkid =>
      simp only [handleIncomingChecked, reactChecked, handleIncomingPubrelChecked, handleIncoming,
        react, handleIncomingPubrel]
      cases s.incomingPub pkid with
      | false => rfl
      | true =>
          rw [if_pos rfl, if_pos rfl, setBit_remove _ word]
          rfl
  | _ => rfl

theorem cleanChecked_eq {s : MqttState} (flight : s.Flight) :
    s.cleanChecked = some (s.clean, s.unacknowledged) := by
  have slots := flight.sized.slots
  have acked := flight.acked
  exact if_pos (by omega)

end MqttState

end InverterGateway.Rumqttc
