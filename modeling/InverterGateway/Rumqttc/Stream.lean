/-
# Rumqttc.Stream — packets out of a connection

What the client reads from its connection does not depend on how the bytes
arrive: the packets, and the error that ends them, are those of the whole stream
(`decode_chunks`), and a run of packets that one side writes is the run of
packets that the other side reads (`written_read`).  A packet that was read can
be written and read again (`read_again`).
-/
import InverterGateway.Theory.Framing
import InverterGateway.Rumqttc.RoundTrip

namespace InverterGateway.Rumqttc.Wire

set_option autoImplicit false

open InverterGateway.Theory
open InverterGateway.Theory.Reader

/-! ## What more bytes change -/

/-- The length waits for its next byte, is malformed whatever follows, or is read
and stays. -/
theorem lengthFrom_cases (b : Bytes) : ∀ {j : Nat} (len len_len : Nat), j < 4 →
    lengthFrom len len_len (7 * j) b = .error (.insufficientBytes 1) ∨
    (∀ x, lengthFrom len len_len (7 * j) (b ++ x) = .error .malformedRemainingLength) ∨
    ∃ n v, v + 128 ^ j ≤ len + 128 ^ 4 ∧
      ∀ x, lengthFrom len len_len (7 * j) (b ++ x) = .ok (n, v) := by
  induction b with
  | nil => exact fun _ _ _ => .inl rfl
  | cons byte rest ih =>
      intro j len len_len place
      have digit := Nat.mod_lt byte.toNat (show 0 < 128 by decide)
      have value : len + ((byte.toNat &&& 0x7F) <<< (7 * j)) + 128 ^ j ≤ len + 128 ^ (j + 1) := by
        rw [and_127, Nat.shiftLeft_eq, Nat.pow_mul]
        interval_cases j <;> omega
      have top : 128 ^ (j + 1) ≤ 128 ^ 4 := Nat.pow_le_pow_right (by decide) place
      by_cases stop : byte.toNat &&& 0x80 = 0
      · refine .inr (.inr ⟨len_len + 1, len + ((byte.toNat &&& 0x7F) <<< (7 * j)),
          value.trans (Nat.add_le_add_left top len), fun x => ?_⟩)
        rw [List.cons_append, lengthFrom, if_pos stop]
      · by_cases last : 7 * j + 7 > 21
        · refine .inr (.inl fun x => ?_)
          rw [List.cons_append, lengthFrom, if_neg stop, if_pos last]
        · have go : ∀ x, lengthFrom len len_len (7 * j) (byte :: rest ++ x) = lengthFrom
              (len + ((byte.toNat &&& 0x7F) <<< (7 * j))) (len_len + 1) (7 * (j + 1))
              (rest ++ x) := by
            intro x
            rw [List.cons_append, lengthFrom, if_neg stop, if_neg last]
            rfl
          rcases ih (len + ((byte.toNat &&& 0x7F) <<< (7 * j))) (len_len + 1)
            (show j + 1 < 4 by omega) with starved | malformed | ⟨n, v, bound, read⟩
          · have whole := go []
            rw [List.append_nil, List.append_nil] at whole
            exact .inl (whole.trans starved)
          · exact .inr (.inl fun x => (go x).trans (malformed x))
          · exact .inr (.inr ⟨n, v, by omega, fun x => (go x).trans (read x)⟩)

/-- A header that was parsed. -/
structure FixedHeader.Parsed (h : FixedHeader) : Prop where
  some : 0 < h.frameLength
  counted : h.remaining_len ≤ 268435455

theorem parseFixedHeader_cases (b : Bytes) :
    (∃ n, 0 < n ∧ parseFixedHeader b = .error (.insufficientBytes n) ∧ ∀ x : Bytes, x.length < n →
      parseFixedHeader (b ++ x) = .error (.insufficientBytes (n - x.length))) ∨
    (∀ x, parseFixedHeader (b ++ x) = .error .malformedRemainingLength) ∨
    ∃ h : FixedHeader, h.Parsed ∧ ∀ x, parseFixedHeader (b ++ x) = .ok h := by
  rcases b with _ | ⟨byte1, _ | ⟨second, rest⟩⟩
  · refine .inl ⟨2, by decide, rfl, fun x short => ?_⟩
    rcases x with _ | ⟨c, _ | ⟨d, x⟩⟩
    · rfl
    · rfl
    · simp only [List.length_cons] at short
      omega
  · refine .inl ⟨1, by decide, rfl, fun x short => ?_⟩
    obtain rfl : x = [] := List.length_eq_zero_iff.1 (by omega)
    rfl
  · have go : ∀ x, parseFixedHeader (byte1 :: second :: rest ++ x) =
        (lengthFrom 0 0 (7 * 0) (second :: rest ++ x) >>= fun l => pure (.new byte1 l.1 l.2)) :=
      fun _ => rfl
    rcases lengthFrom_cases (second :: rest) (j := 0) 0 0 (by decide) with
      starved | malformed | ⟨n, v, bound, read⟩
    · have whole := go []
      rw [List.append_nil, List.append_nil, starved] at whole
      refine .inl ⟨1, by decide, whole, fun x short => ?_⟩
      obtain rfl : x = [] := List.length_eq_zero_iff.1 (by omega)
      rw [List.append_nil]
      exact whole
    · refine .inr (.inl fun x => ?_)
      rw [go, malformed x]
      rfl
    · refine .inr (.inr ⟨.new byte1 n v, ⟨?_, ?_⟩, fun x => ?_⟩)
      · show 0 < n + 1 + v
        omega
      · show v ≤ _
        omega
      · rw [go, read x]
        rfl

/-- **What `check` says stands**: a frame that has arrived stays, an error that is
no lack of bytes stays, and what is lacking is lacking. -/
theorem check_cases (b : Bytes) (max : Nat) :
    (∃ n, 0 < n ∧ check b max = .error (.insufficientBytes n) ∧ ∀ x : Bytes, x.length < n →
      check (b ++ x) max = .error (.insufficientBytes (n - x.length))) ∨
    (∃ e, (∀ n, e ≠ .insufficientBytes n) ∧ ∀ x, check (b ++ x) max = .error e) ∨
    ∃ h : FixedHeader, h.Parsed ∧ h.remaining_len ≤ max ∧ h.frameLength ≤ b.length ∧
      ∀ x, check (b ++ x) max = .ok h := by
  have go : ∀ x, check (b ++ x) max = (parseFixedHeader (b ++ x) >>= fun h =>
      if h.remaining_len > max then .error (.payloadSizeLimitExceeded h.remaining_len)
      else if (b ++ x).length < h.frameLength then
        .error (.insufficientBytes (h.frameLength - (b ++ x).length))
      else .ok h) := by
    intro x
    unfold check
    cases parseFixedHeader (b ++ x) with
    | error e => rfl
    | ok h =>
        show (if h.remaining_len > max then _ else _) = if h.remaining_len > max then _ else _
        split
        · rfl
        · show (if (b ++ x).length < h.frameLength then _ else _) = _
          split <;> rfl
  have whole := go []
  rw [List.append_nil] at whole
  rcases parseFixedHeader_cases b with ⟨n, some, starved, more⟩ | malformed | ⟨h, parsed, read⟩
  · refine .inl ⟨n, some, ?_, fun x short => ?_⟩
    · rw [whole, starved]
      rfl
    · rw [go, more x short]
      rfl
  · refine .inr (.inl ⟨.malformedRemainingLength, fun _ other => (by cases other), fun x => ?_⟩)
    rw [go, malformed x]
    rfl
  · have here : ∀ x, check (b ++ x) max =
        if h.remaining_len > max then .error (.payloadSizeLimitExceeded h.remaining_len)
        else if (b ++ x).length < h.frameLength then
          .error (.insufficientBytes (h.frameLength - (b ++ x).length))
        else .ok h := fun x => by rw [go, read x]; rfl
    by_cases large : h.remaining_len > max
    · refine .inr (.inl ⟨.payloadSizeLimitExceeded h.remaining_len,
        fun _ other => (by cases other), fun x => ?_⟩)
      rw [here, if_pos large]
    · by_cases lacking : b.length < h.frameLength
      · refine .inl ⟨h.frameLength - b.length, by omega, ?_, fun x short => ?_⟩
        · have now := here []
          rwa [List.append_nil, if_neg large, if_pos lacking] at now
        · have fewer : (b ++ x).length < h.frameLength := by rw [List.length_append]; omega
          rw [here, if_neg large, if_pos fewer, List.length_append, Nat.sub_add_eq]
      · refine .inr (.inr ⟨h, parsed, by omega, by omega, fun x => ?_⟩)
        rw [here, if_neg large, if_neg (by rw [List.length_append]; omega)]

/-! ## A frame that is wrong stays wrong -/

/-- An error that more bytes do not mend. -/
def Lasting (e : Error) : Prop := ∀ n, e ≠ .insufficientBytes n

theorem readU8_refuses : Refuses readU8 Lasting := by
  rintro (_ | ⟨byte, b⟩) e ⟨⟩ n other
  cases other

theorem readU16_refuses : Refuses readU16 Lasting := by
  rintro (_ | ⟨high, _ | ⟨low, b⟩⟩) e ⟨⟩ n other
  all_goals cases other

theorem lift_refuses {α : Type} {x : Except Error α} (each : ∀ e, x = .error e → Lasting e) :
    Refuses (liftM x : Read α) Lasting := by
  intro b e ran
  cases x with
  | error e' =>
      cases ran
      exact each e rfl
  | ok a => cases ran

theorem refuseIf_refuses {condition : Prop} [Decidable condition] {e : Error} (lasting : Lasting e) :
    Refuses (refuseIf condition e) Lasting := by
  unfold refuseIf
  split
  · exact .fail lasting
  · exact .pure

theorem readMqttBytes_refuses : Refuses readMqttBytes Lasting := by
  refine readU16_refuses.bind fun len b e ran n other => ?_
  unfold splitTo at ran
  split at ran
  · cases ran
    cases other
  · cases ran

theorem readMqttString_refuses : Refuses readMqttString Lasting := by
  refine readMqttBytes_refuses.bind fun bytes => lift_refuses fun e failed n other => ?_
  cases text : fromUtf8 bytes with
  | none =>
      rw [text] at failed
      cases failed
      cases other
  | some s =>
      rw [text] at failed
      cases failed

theorem qos_refuses (num : UInt8) : Refuses (liftM (Wire.qos num) : Read QoS) Lasting := by
  refine lift_refuses fun e failed n other => ?_
  unfold Wire.qos at failed
  split at failed <;> cases failed
  cases other

theorem readCredential_refuses (connect_flags flag : UInt8) :
    Refuses (readCredential connect_flags flag) Lasting := by
  unfold readCredential
  split
  · exact .pure
  · exact readMqttString_refuses

theorem Connect.read_refuses : Refuses Connect.read Lasting := by
  have level : ∀ level, Refuses (liftM (Protocol.ofLevel level) : Read Protocol) Lasting := by
    refine fun level => lift_refuses fun e failed n other => ?_
    unfold Protocol.ofLevel at failed
    split at failed <;> cases failed
    cases other
  have will : ∀ connect_flags, Refuses (LastWill.read connect_flags) Lasting := by
    intro connect_flags
    unfold LastWill.read
    split
    · exact (refuseIf_refuses fun _ other => (by cases other)).bind fun _ => .pure
    · refine readMqttString_refuses.bind fun _ => readMqttBytes_refuses.bind fun _ => ?_
      exact (qos_refuses _).bind fun _ => .pure
  have login : ∀ connect_flags, Refuses (Login.read connect_flags) Lasting := fun connect_flags =>
    (readCredential_refuses _ _).bind fun _ => (readCredential_refuses _ _).bind fun _ => .pure
  refine readMqttString_refuses.bind fun _ => readU8_refuses.bind fun _ => ?_
  refine (refuseIf_refuses fun _ other => (by cases other)).bind fun _ => (level _).bind fun _ => ?_
  refine readU8_refuses.bind fun _ => readU16_refuses.bind fun _ => ?_
  exact readMqttString_refuses.bind fun _ => (will _).bind fun _ => (login _).bind fun _ => .pure

theorem Publish.read_refuses (byte1 : UInt8) : Refuses (Publish.read byte1) Lasting := by
  have identifier : ∀ qos, Refuses (readIdentifier qos) Lasting := by
    intro qos
    unfold readIdentifier
    split
    · exact .pure
    · exact readU16_refuses.bind fun _ =>
        (refuseIf_refuses fun _ other => (by cases other)).bind fun _ => .pure
  refine (qos_refuses _).bind fun _ => readMqttString_refuses.bind fun _ => ?_
  refine (identifier _).bind fun _ => Refuses.bind ?_ fun _ => .pure
  rintro b e ⟨⟩

theorem Packet.readBody_refuses (h : FixedHeader) (packet_type : PacketType) :
    Refuses (Packet.readBody h packet_type) Lasting := by
  have mapped : ∀ {α : Type} {r : Read α} (f : α → Packet), Refuses r Lasting →
      Refuses (f <$> r) Lasting := by
    intro α r f refuses
    rw [← bind_pure_comp]
    exact refuses.bind fun _ => .pure
  cases packet_type with
  | connect => exact mapped _ Connect.read_refuses
  | connAck =>
      refine mapped _ (readU8_refuses.bind fun _ => readU8_refuses.bind fun code => ?_)
      refine (lift_refuses fun e failed n other => ?_).bind fun _ => .pure
      unfold connectReturn at failed
      split at failed <;> cases failed
      cases other
  | publish => exact mapped _ (Publish.read_refuses _)
  | pubAck => exact mapped _ readU16_refuses
  | pubRec => exact mapped _ readU16_refuses
  | pubRel => exact mapped _ readU16_refuses
  | pubComp => exact mapped _ readU16_refuses
  | subscribe =>
      have filter : Refuses SubscribeFilter.read Lasting := readMqttString_refuses.bind fun _ =>
        readU8_refuses.bind fun _ => (qos_refuses _).bind fun _ => .pure
      exact mapped _ (readU16_refuses.bind fun _ => (many_refuses filter).bind fun _ =>
        (refuseIf_refuses fun _ other => (by cases other)).bind fun _ => .pure)
  | subAck =>
      have code : Refuses SubscribeReasonCode.read Lasting := by
        refine readU8_refuses.bind fun _ => lift_refuses fun e failed n other => ?_
        unfold SubscribeReasonCode.ofByte at failed
        split at failed <;> cases failed
        cases other
      refine mapped _ (readU16_refuses.bind fun _ => Refuses.bind ?_ fun _ => ?_)
      · rintro b e ⟨⟩
      · exact (refuseIf_refuses fun _ other => (by cases other)).bind fun _ =>
          (many_refuses code).bind fun _ => .pure
  | unsubscribe =>
      exact mapped _ (readU16_refuses.bind fun _ =>
        (many_refuses readMqttString_refuses).bind fun _ => .pure)
  | unsubAck =>
      exact mapped _ ((refuseIf_refuses fun _ other => (by cases other)).bind fun _ =>
        readU16_refuses)
  | pingReq => exact .pure
  | pingResp => exact .pure
  | disconnect => exact .pure

theorem Packet.ofFrame_lasting {h : FixedHeader} {packet : Bytes} {e : Error}
    (failed : Packet.ofFrame h packet = .error e) : Lasting e := by
  intro n other
  subst other
  unfold Packet.ofFrame at failed
  cases kind : h.packetType with
  | error e =>
      rw [kind] at failed
      cases failed
      unfold FixedHeader.packetType PacketType.ofNum at kind
      split at kind <;> cases kind
  | ok packet_type =>
      rw [kind] at failed
      have read : (if h.remaining_len = 0 then Packet.ofType packet_type
        else Prod.fst <$> Packet.readBody h packet_type (packet.drop h.fixed_header_len)) =
          .error (.insufficientBytes n) := failed
      split at read
      · cases packet_type <;> cases read
      · cases body : Packet.readBody h packet_type (packet.drop h.fixed_header_len) with
        | error e =>
            rw [body] at read
            cases read
            exact Packet.readBody_refuses h packet_type _ _ body n rfl
        | ok x =>
            rw [body] at read
            cases read

/-! ## The connection -/

/-- `Codec::decode`: a packet off the buffer, none yet, or an error. -/
def decode (max_incoming_size : Nat) (src : Bytes) : Verdict UInt8 Error Packet :=
  match Packet.read src max_incoming_size with
  | (.ok packet, rest) => .item packet rest
  | (.error (.insufficientBytes n), _) => .more n
  | (.error e, _) => .bad e

/-- The packets that a connection gives as its chunks arrive, until an error. -/
def decodeAll (max_incoming_size : Nat) (chunks : List Bytes) : List Packet × Feed UInt8 Error :=
  Framing.feedAll (decode max_incoming_size) chunks (.waiting [])

/-- `Network::write` of one packet after another into the buffer. -/
def writeAll (max_outgoing_size : Nat) : List Packet → Write Unit
  | [] => pure ()
  | p :: rest => do
      let _ ← p.write max_outgoing_size
      writeAll max_outgoing_size rest

/-- What a read did: nothing for want of bytes, or an answer that more bytes leave as it is. -/
theorem Packet.read_cases (b : Bytes) (max : Nat) :
    (∃ n, 0 < n ∧ Packet.read b max = (.error (.insufficientBytes n), b) ∧
      ∀ x : Bytes, x.length < n →
        Packet.read (b ++ x) max = (.error (.insufficientBytes (n - x.length)), b ++ x)) ∨
    (∃ e, Lasting e ∧ ∀ x, (Packet.read (b ++ x) max).1 = .error e) ∨
    ∃ p rest, rest.length < b.length ∧ ∀ x, Packet.read (b ++ x) max = (.ok p, rest ++ x) := by
  rcases check_cases b max with ⟨n, some, starved, more⟩ | ⟨e, lasting, refused⟩ |
      ⟨h, parsed, -, arrived, checked⟩
  · refine .inl ⟨n, some, by rw [Packet.read, starved], fun x short => ?_⟩
    rw [Packet.read, more x short]
  · exact .inr (.inl ⟨e, lasting, fun x => by rw [Packet.read, refused x]⟩)
  · have frame : ∀ x, Packet.read (b ++ x) max =
        (Packet.ofFrame h (b.take h.frameLength), b.drop h.frameLength ++ x) := by
      intro x
      rw [Packet.read, checked x]
      dsimp only
      rw [List.take_append_of_le_length arrived, List.drop_append_of_le_length arrived]
    cases packet : Packet.ofFrame h (b.take h.frameLength) with
    | error e =>
        exact .inr (.inl ⟨e, Packet.ofFrame_lasting packet, fun x => by rw [frame, packet]⟩)
    | ok p =>
        refine .inr (.inr ⟨p, b.drop h.frameLength, ?_, fun x => by rw [frame, packet]⟩)
        have some := parsed.some
        rw [List.length_drop]
        omega

theorem decode_bad {max : Nat} {b : Bytes} {e : Error} (lasting : Lasting e)
    (read : (Packet.read b max).1 = .error e) : decode max b = .bad e := by
  unfold decode
  split
  · rename_i same
    rw [same] at read
    cases read
  · rename_i n _ same
    rw [same] at read
    cases read
    exact absurd rfl (lasting n)
  · rename_i same
    rw [same] at read
    cases read
    rfl

theorem decode_lawful (max : Nat) : Framing.Lawful (decode max) := by
  have cases : ∀ b, (∃ n, 0 < n ∧ decode max b = .more n ∧ ∀ x : Bytes, x.length < n →
        ∃ m, decode max (b ++ x) = .more m) ∨
      (∃ e, ∀ x, decode max (b ++ x) = .bad e) ∨
      ∃ p rest, rest.length < b.length ∧ ∀ x, decode max (b ++ x) = .item p (rest ++ x) := by
    intro b
    rcases Packet.read_cases b max with ⟨n, some, starved, more⟩ | ⟨e, lasting, refused⟩ |
        ⟨p, rest, fewer, read⟩
    · refine .inl ⟨n, some, by rw [decode, starved], fun x short => ?_⟩
      exact ⟨n - x.length, by rw [decode, more x short]⟩
    · exact .inr (.inl ⟨e, fun x => decode_bad lasting (refused x)⟩)
    · exact .inr (.inr ⟨p, rest, fewer, fun x => by rw [decode, read x]⟩)
  have now : ∀ (b : Bytes) (v : Bytes → Verdict UInt8 Error Packet),
      (∀ x, decode max (b ++ x) = v x) → decode max b = v [] := by
    intro b v all
    have here := all []
    rwa [List.append_nil] at here
  refine ⟨?_, ?_, ?_, ?_⟩
  · intro b p rest x taken
    rcases cases b with ⟨n, -, starved, -⟩ | ⟨e, refused⟩ | ⟨p', rest', -, read⟩
    · cases starved.symm.trans taken
    · cases (now b _ refused).symm.trans taken
    · have same := (now b _ read).symm.trans taken
      rw [List.append_nil] at same
      cases same
      exact read x
  · intro b e x spoilt
    rcases cases b with ⟨n, -, starved, -⟩ | ⟨e', refused⟩ | ⟨p', rest', -, read⟩
    · cases starved.symm.trans spoilt
    · cases (now b _ refused).symm.trans spoilt
      exact refused x
    · cases (now b _ read).symm.trans spoilt
  · intro b p rest taken
    rcases cases b with ⟨n, -, starved, -⟩ | ⟨e, refused⟩ | ⟨p', rest', fewer, read⟩
    · cases starved.symm.trans taken
    · cases (now b _ refused).symm.trans taken
    · have same := (now b _ read).symm.trans taken
      rw [List.append_nil] at same
      cases same
      exact fewer
  · intro b n lacking
    rcases cases b with ⟨n', some, starved, more⟩ | ⟨e, refused⟩ | ⟨p', rest', -, read⟩
    · cases starved.symm.trans lacking
      exact ⟨some, more⟩
    · cases (now b _ refused).symm.trans lacking
    · cases (now b _ read).symm.trans lacking

theorem decode_nil (max : Nat) : decode max [] = .more 2 := rfl

/-- **A connection gives the same packets however its bytes arrive**: the packets,
what is left over and the error that ends them are those of the whole stream. -/
theorem decode_chunks (max : Nat) (chunks chunks' : List Bytes)
    (same : chunks.flatten = chunks'.flatten) : decodeAll max chunks = decodeAll max chunks' := by
  unfold decodeAll
  rw [Framing.feedAll_eq (decode_lawful max) chunks (decode_nil max), same,
    ← Framing.feedAll_eq (decode_lawful max) chunks' (decode_nil max)]

theorem decode_chunks_ping :
    decodeAll 10 [[0xC0], [0x00, 0xD0], [0x00]] = decodeAll 10 [[0xC0, 0x00, 0xD0, 0x00]] :=
  decode_chunks 10 _ _ rfl

/-- **What a frame is said to lack, it lacks**: as long as fewer bytes arrive than
were asked for, nothing is read, nothing is lost and the rest is asked for. -/
theorem read_starved (b : Bytes) (max n : Nat)
    (starved : (Packet.read b max).1 = .error (.insufficientBytes n)) :
    0 < n ∧ (Packet.read b max).2 = b ∧ ∀ x : Bytes, x.length < n →
      Packet.read (b ++ x) max = (.error (.insufficientBytes (n - x.length)), b ++ x) := by
  rcases Packet.read_cases b max with ⟨n', some, lacking, more⟩ | ⟨e, lasting, refused⟩ |
      ⟨p, rest, -, read⟩
  · rw [lacking] at starved
    cases starved
    exact ⟨some, by rw [lacking], more⟩
  · have now := refused []
    rw [List.append_nil, starved] at now
    cases now
    exact absurd rfl (lasting n)
  · have now := read []
    rw [List.append_nil] at now
    rw [now] at starved
    cases starved

theorem read_starved_publish :
    (Packet.read [0x30, 0x05, 0x00, 0x01] 100).2 = [0x30, 0x05, 0x00, 0x01] ∧
      Packet.read [0x30, 0x05, 0x00, 0x01, 0x61, 0x07] 100 =
        (.error (.insufficientBytes 1), [0x30, 0x05, 0x00, 0x01, 0x61, 0x07]) := by
  obtain ⟨-, kept, more⟩ := read_starved [0x30, 0x05, 0x00, 0x01] 100 3 (by decide +kernel)
  exact ⟨kept, more [0x61, 0x07] (by decide)⟩

/-! ## What was read, and what is written -/

theorem Packet.ofFrame_sound {h : FixedHeader} {frame : Bytes} {p : Packet}
    (whole : frame.length = h.frameLength) (read : Packet.ofFrame h frame = .ok p) :
    p.Sound ∧ p.len ≤ h.remaining_len := by
  unfold Packet.ofFrame at read
  cases kind : h.packetType with
  | error e =>
      rw [kind] at read
      cases read
  | ok packet_type =>
      rw [kind] at read
      have inside : (if h.remaining_len = 0 then Packet.ofType packet_type
        else Prod.fst <$> Packet.readBody h packet_type (frame.drop h.fixed_header_len)) =
          .ok p := read
      split at inside
      · cases packet_type <;> cases inside <;> exact ⟨trivial, Nat.zero_le _⟩
      · cases body : Packet.readBody h packet_type (frame.drop h.fixed_header_len) with
        | error e =>
            rw [body] at inside
            cases inside
        | ok x =>
            rw [body] at inside
            cases inside
            obtain ⟨w, shape, counted, sound⟩ := Packet.readBody_yields h packet_type _ _ _ body
            have lengths := congrArg List.length shape
            rw [List.length_drop, List.length_append, whole, FixedHeader.frameLength] at lengths
            exact ⟨sound, by omega⟩

/-- A packet that was read is well formed and within the limit. -/
theorem read_wellFormed {b rest : Bytes} {max : Nat} {p : Packet}
    (read : Packet.read b max = (.ok p, rest)) : p.WellFormed ∧ p.len ≤ max := by
  have now : ∀ {r : Except Error FixedHeader}, (∀ x, check (b ++ x) max = r) → check b max = r :=
    fun all => by
      have here := all []
      rwa [List.append_nil] at here
  rcases check_cases b max with ⟨n, -, starved, -⟩ | ⟨e, -, refused⟩ |
      ⟨h, parsed, allowed, arrived, checked⟩
  · rw [Packet.read, starved] at read
    cases read
  · rw [Packet.read, now refused] at read
    cases read
  · rw [Packet.read, now checked] at read
    obtain ⟨sound, counted⟩ :=
      Packet.ofFrame_sound (List.length_take_of_le arrived) (congrArg Prod.fst read)
    exact ⟨⟨sound, counted.trans parsed.counted⟩, counted.trans allowed⟩

/-- A well formed packet is written whole, and `write` returns its size. -/
theorem Packet.write_eq {p : Packet} (well : p.WellFormed) {max : Nat} (fits : p.size ≤ max)
    {buffer : Bytes} (place : ∀ c, p = .connect c → buffer = []) :
    p.write max buffer = (.ok p.size, buffer ++ p.encode) := by
  unfold Packet.write
  rw [(failIf_writes (Nat.not_lt.2 fits)).next, List.append_nil]
  by_cases connect : ∃ c, p = .connect c
  · obtain ⟨c, rfl⟩ := connect
    rw [place c rfl, List.nil_append]
    exact Connect.write_eq well.counted
  · exact Packet.writeBody_writes well (fun c same => connect ⟨c, same⟩) buffer

/-- **What was read can be written and read again**: whatever bytes a packet was
read from, it can be written, as many bytes as its size counts, and what is written
for it is read as this packet. -/
theorem read_again {b rest : Bytes} {max : Nat} {p : Packet}
    (read : Packet.read b max = (.ok p, rest)) : ∃ bytes,
      p.write p.size [] = (.ok p.size, bytes) ∧ bytes.length = p.size ∧
      ∀ more, Packet.read (bytes ++ more) max = (.ok p, more) := by
  obtain ⟨well, allowed⟩ := read_wellFormed read
  exact ⟨p.encode, Packet.write_eq well (Nat.le_refl _) fun _ _ => rfl, Packet.encode_size well,
    Packet.read_encode well allowed⟩

theorem read_again_publish : ∃ bytes,
    (Packet.publish ⟨false, .atMostOnce, true, "a", 0, [7, 8]⟩).write 7 [] = (.ok 7, bytes) ∧
      bytes.length = 7 ∧ ∀ more, Packet.read (bytes ++ more) 100 =
        (.ok (.publish ⟨false, .atMostOnce, true, "a", 0, [7, 8]⟩), more) := by
  have read : Packet.read [0x31, 0x85, 0x00, 0x00, 0x01, 0x61, 0x07, 0x08, 0xFF] 100 =
      (.ok (.publish ⟨false, .atMostOnce, true, "a", 0, [7, 8]⟩), [0xFF]) := by decide +kernel
  exact read_again read

/-- **A packet survives the wire if and only if it is well formed.** -/
theorem wellFormed_iff (p : Packet) :
    p.WellFormed ↔ ∃ max_outgoing max_incoming n bytes,
      p.write max_outgoing [] = (.ok n, bytes) ∧
        (Packet.read bytes max_incoming).1 = .ok p := by
  constructor
  · intro well
    have read := Packet.read_encode well (Nat.le_refl _) []
    rw [List.append_nil] at read
    exact ⟨p.size, p.len, p.size, p.encode,
      Packet.write_eq well (Nat.le_refl _) fun _ _ => rfl, congrArg Prod.fst read⟩
  · rintro ⟨_, max, _, bytes, -, read⟩
    exact (read_wellFormed (Prod.ext read rfl)).1

theorem write_next {max : Nat} {p : Packet} {rest : List Packet} (well : p.WellFormed)
    (fits : p.size ≤ max) {buffer : Bytes} (place : ∀ c, p = .connect c → buffer = []) :
    writeAll max (p :: rest) buffer = writeAll max rest (buffer ++ p.encode) :=
  write_bind (Packet.write_eq well fits place)

theorem writeAll_eq {max : Nat} {packets : List Packet} (well : ∀ p ∈ packets, p.WellFormed)
    (fits : ∀ p ∈ packets, p.size ≤ max) (none : ∀ p ∈ packets, ∀ c, p ≠ .connect c)
    (buffer : Bytes) :
    writeAll max packets buffer = (.ok (), buffer ++ packets.flatMap Packet.encode) := by
  induction packets generalizing buffer with
  | nil =>
      rw [List.flatMap_nil, List.append_nil]
      rfl
  | cons p rest ih =>
      rw [List.forall_mem_cons] at well fits none
      rw [write_next well.1 fits.1 fun c same => absurd same (none.1 c),
        ih well.2 fits.2 none.2, List.flatMap_cons, List.append_assoc]

/-- **What one side writes the other side reads.**  Well formed packets within the
limits of both sides, of which only the first may be a connect, are written into
the empty buffer of a connection; however their bytes arrive, as much of them as
has arrived gives the first of these packets and no error, and all of them give
all the packets and leave nothing. -/
theorem written_read {max_outgoing max_incoming : Nat} {packets : List Packet}
    (well : ∀ p ∈ packets, p.WellFormed) (sent : ∀ p ∈ packets, p.size ≤ max_outgoing)
    (accepted : ∀ p ∈ packets, p.len ≤ max_incoming)
    (first : ∀ p ∈ packets.tail, ∀ c, p ≠ .connect c) :
    ∃ bytes, writeAll max_outgoing packets [] = (.ok (), bytes) ∧
      ∀ chunks : List Bytes,
        (chunks.flatten <+: bytes → (decodeAll max_incoming chunks).1 <+: packets ∧
          ∃ left, (decodeAll max_incoming chunks).2 = .waiting left) ∧
        (chunks.flatten = bytes → decodeAll max_incoming chunks = (packets, .waiting [])) := by
  have written : writeAll max_outgoing packets [] = (.ok (), packets.flatMap Packet.encode) := by
    cases packets with
    | nil => rfl
    | cons p rest =>
        rw [List.forall_mem_cons] at well sent
        rw [write_next well.1 sent.1 fun _ _ => rfl, List.nil_append,
          writeAll_eq well.2 sent.2 first, List.flatMap_cons]
  have lawful := decode_lawful max_incoming
  have drained : Framing.drain (decode max_incoming) (packets.flatMap Packet.encode) =
      (packets, .waiting []) := by
    have whole := Framing.drain_written lawful Packet.encode (fun p listed rest => by
      show decode max_incoming (p.encode ++ rest) = .item p rest
      rw [decode, Packet.read_encode (well p listed) (accepted p listed)]) []
    rw [Framing.drain_more (decode_nil max_incoming)] at whole
    simpa only [List.append_nil] using whole
  refine ⟨_, written, fun chunks => ⟨?_, ?_⟩⟩
  · rintro ⟨x, rejoined⟩
    rw [← rejoined] at drained
    rw [decodeAll, Framing.feedAll_eq lawful chunks (decode_nil max_incoming), List.nil_append]
    have got := Framing.drain_prefix lawful (congrArg Prod.snd drained)
    rwa [drained] at got
  · intro arrived
    rw [decodeAll, Framing.feedAll_eq lawful chunks (decode_nil max_incoming), arrived,
      List.nil_append, drained]

/-- The first packets of a connection. -/
def greeting : List Packet :=
  [.connect ⟨.v4, 10, "gw", true, none, some ⟨"u", ""⟩⟩,
    .publish ⟨true, .atLeastOnce, false, "a/b", 1, [7, 8]⟩]

theorem greeting_wellFormed : ∀ p ∈ greeting, p.WellFormed := by
  have short : ∀ s ∈ ["gw", "u", "", "a/b"], (utf8 s).length < 65536 := by decide +kernel
  intro p listed
  rcases List.mem_pair.1 listed with rfl | rfl
  · refine ⟨⟨short _ (by decide), fun w none => (by cases none), ?_⟩, by decide +kernel⟩
    rintro _ ⟨⟩
    exact ⟨short _ (by decide), short _ (by decide), by decide +kernel⟩
  · exact ⟨⟨short _ (by decide), by decide⟩, by decide +kernel⟩

theorem written_read_greeting : ∃ bytes, writeAll 100 greeting [] = (.ok (), bytes) ∧
    decodeAll 100 (bytes.map fun byte => [byte]) = (greeting, .waiting []) := by
  have sent : ∀ p ∈ greeting, p.size ≤ 100 := by decide +kernel
  have accepted : ∀ p ∈ greeting, p.len ≤ 100 := by decide +kernel
  obtain ⟨bytes, written, read⟩ := written_read greeting_wellFormed sent accepted fun p listed c => by
    obtain rfl := List.mem_singleton.1 listed
    rintro ⟨⟩
  refine ⟨bytes, written, (read _).2 ?_⟩
  rw [← List.flatMap_def, List.flatMap_singleton']

end InverterGateway.Rumqttc.Wire
