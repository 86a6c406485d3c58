/-
# Rumqttc.Wire — MQTT 3.1.1 packets as bytes

The packet types of the MQTT client library with every field they carry, how
they are written into a buffer and how they are read from one.  A write that
fails leaves in the buffer what it had written; a read takes a whole frame off
the buffer before it looks inside.
-/
import InverterGateway.Theory.Reader
import InverterGateway.Rumqttc.Packet

namespace InverterGateway.Rumqttc.Wire

set_option autoImplicit false

open InverterGateway.Theory

abbrev Bytes := List UInt8

/-- The errors of reading and writing that version 3.1.1 uses. -/
inductive Error where
  | invalidConnectReturnCode (code : UInt8)
  | invalidProtocol
  | invalidProtocolLevel (level : UInt8)
  | incorrectPacketFormat
  | invalidPacketType (num : UInt8)
  | invalidQoS (qos : UInt8)
  | invalidSubscribeReasonCode (code : UInt8)
  | packetIdZero
  | payloadSizeIncorrect
  | payloadTooLong
  | payloadSizeLimitExceeded (size : Nat)
  | payloadRequired
  | topicNotUtf8
  | boundaryCrossed (len : Nat)
  | malformedPacket
  | malformedRemainingLength
  | emptySubscription
  | insufficientBytes (needed : Nat)
  | outgoingPacketTooLarge (pkt_size max : Nat)
  deriving DecidableEq

inductive PacketType where
  | connect
  | connAck
  | publish
  | pubAck
  | pubRec
  | pubRel
  | pubComp
  | subscribe
  | subAck
  | unsubscribe
  | unsubAck
  | pingReq
  | pingResp
  | disconnect
  deriving DecidableEq

inductive Protocol where
  | v4
  | v5
  deriving DecidableEq

/-! ## Packets -/

structure LastWill where
  topic : String
  message : Bytes
  qos : QoS
  retain : Bool
  deriving DecidableEq

structure Login where
  username : String
  password : String
  deriving DecidableEq

structure Connect where
  protocol : Protocol
  keep_alive : UInt16
  client_id : String
  clean_session : Bool
  last_will : Option LastWill
  login : Option Login
  deriving DecidableEq

inductive ConnectReturnCode where
  | success
  | refusedProtocolVersion
  | badClientId
  | serviceUnavailable
  | badUserNamePassword
  | notAuthorized
  deriving DecidableEq

structure ConnAck where
  session_present : Bool
  code : ConnectReturnCode
  deriving DecidableEq

structure Publish where
  dup : Bool
  qos : QoS
  retain : Bool
  topic : String
  pkid : UInt16
  payload : Bytes
  deriving DecidableEq

structure SubscribeFilter where
  path : String
  qos : QoS
  deriving DecidableEq

structure Subscribe where
  pkid : UInt16
  filters : List SubscribeFilter
  deriving DecidableEq

inductive SubscribeReasonCode where
  | success (qos : QoS)
  | failure
  deriving DecidableEq

structure SubAck where
  pkid : UInt16
  return_codes : List SubscribeReasonCode
  deriving DecidableEq

structure Unsubscribe where
  pkid : UInt16
  topics : List String
  deriving DecidableEq

inductive Packet where
  | connect (c : Connect)
  | connAck (c : ConnAck)
  | publish (p : Publish)
  | pubAck (pkid : UInt16)
  | pubRec (pkid : UInt16)
  | pubRel (pkid : UInt16)
  | pubComp (pkid : UInt16)
  | subscribe (s : Subscribe)
  | subAck (s : SubAck)
  | unsubscribe (u : Unsubscribe)
  | unsubAck (pkid : UInt16)
  | pingReq
  | pingResp
  | disconnect
  deriving DecidableEq

/-! ## Sizes -/

/-- The number of bytes of a string. -/
def utf8 (s : String) : Bytes := s.toByteArray.data.toList

def LastWill.len (w : LastWill) : Nat := 2 + (utf8 w.topic).length + 2 + w.message.length

def Login.len (l : Login) : Nat :=
  (if l.username.isEmpty then 0 else 2 + (utf8 l.username).length) +
    if l.password.isEmpty then 0 else 2 + (utf8 l.password).length

def Connect.len (c : Connect) : Nat :=
  2 + 4 + 1 + 1 + 2 + (2 + (utf8 c.client_id).length) + (c.last_will.map LastWill.len).getD 0 +
    (c.login.map Login.len).getD 0

def Publish.len (p : Publish) : Nat :=
  let len := 2 + (utf8 p.topic).length + p.payload.length
  if p.qos ≠ .atMostOnce ∧ p.pkid ≠ 0 then len + 2 else len

def SubscribeFilter.len (f : SubscribeFilter) : Nat := 2 + (utf8 f.path).length + 1

def Subscribe.len (s : Subscribe) : Nat := 2 + (s.filters.map SubscribeFilter.len).sum

def SubAck.len (s : SubAck) : Nat := 2 + s.return_codes.length

def Unsubscribe.len (u : Unsubscribe) : Nat :=
  2 + (u.topics.map fun t => (utf8 t).length + 2).sum

/-- The remaining length of a packet: all that follows the fixed header. -/
def Packet.len : Packet → Nat
  | .connect c => c.len
  | .connAck _ => 1 + 1
  | .publish p => p.len
  | .pubAck _ | .pubRec _ | .pubRel _ | .pubComp _ => 2
  | .subscribe s => s.len
  | .subAck s => s.len
  | .unsubscribe u => u.len
  | .unsubAck _ => 2
  | .pingReq | .pingResp | .disconnect => 0

/-- `len_len`: the bytes that a remaining length takes. -/
def lenLen (len : Nat) : Nat :=
  if len ≥ 2097152 then 4
  else if len ≥ 16384 then 3
  else if len ≥ 128 then 2
  else 1

def Packet.size : Packet → Nat
  | .unsubAck _ => 4
  | .pingReq | .pingResp | .disconnect => 2
  | p => 1 + lenLen p.len + p.len

/-! ## Writing -/

/-- Write into a buffer, or fail and leave what was written. -/
abbrev Write := ExceptT Error (StateM Bytes)

/-- An early return with an error. -/
def failIf (condition : Prop) [Decidable condition] (e : Error) : Write Unit :=
  if condition then throw e else pure ()

def putSlice (bytes : Bytes) : Write Unit := modify (· ++ bytes)

def putU8 (byte : UInt8) : Write Unit := putSlice [byte]

/-- The two bytes of a number, the high one first. -/
def bigEndian (n : UInt16) : Bytes := [UInt8.ofNat (n.toNat / 256), UInt8.ofNat n.toNat]

def putU16 (n : UInt16) : Write Unit := putSlice (bigEndian n)

/-- `write_mqtt_bytes`; the length is cut to sixteen bits. -/
def writeMqttBytes (bytes : Bytes) : Write Unit := do
  putU16 (UInt16.ofNat bytes.length)
  putSlice bytes

def writeMqttString (string : String) : Write Unit := writeMqttBytes (utf8 string)

/-- The loop of `write_remaining_length`: seven bits a byte, the low ones first. -/
def lengthBytes (x : Nat) : Bytes :=
  if x / 128 > 0 then (UInt8.ofNat (x % 128) ||| 128) :: lengthBytes (x / 128)
  else [UInt8.ofNat (x % 128)]
termination_by x
decreasing_by omega

def writeRemainingLength (len : Nat) : Write Nat := do
  failIf (len > 268435455) .payloadTooLong
  putSlice (lengthBytes len)
  return (lengthBytes len).length

/-- `qos as u8` -/
def qosByte : QoS → UInt8
  | .atMostOnce => 0
  | .atLeastOnce => 1
  | .exactlyOnce => 2

/-- `flag as u8` -/
def flagByte (flag : Bool) : UInt8 := if flag then 1 else 0

/-- The flags that `LastWill::write` returns. -/
def LastWill.flags (w : LastWill) : UInt8 :=
  (0x04 : UInt8) ||| (qosByte w.qos <<< 3) ||| (if w.retain then (0x20 : UInt8) else 0)

def LastWill.write (w : LastWill) : Write UInt8 := do
  writeMqttString w.topic
  writeMqttBytes w.message
  return w.flags

/-- A user name or a password and its flag, unless it is empty. -/
def writeCredential (string : String) (flag : UInt8) : Write UInt8 :=
  if string.isEmpty then pure 0
  else do
    writeMqttString string
    return flag

def Login.write (l : Login) : Write UInt8 := do
  let username ← writeCredential l.username 0x80
  let password ← writeCredential l.password 0x40
  return username ||| password

/-- The flags of what is there. -/
def writeOption {α : Type} (write : α → Write UInt8) : Option α → Write UInt8
  | some a => write a
  | none => pure 0

def Protocol.level : Protocol → UInt8
  | .v4 => 0x04
  | .v5 => 0x05

/-- `connect_flags` before the will and the login. -/
def Connect.cleanFlag (c : Connect) : UInt8 := if c.clean_session then 0x02 else 0

/-- The flags are written last, at a place counted from the start of the buffer. -/
def Connect.write (c : Connect) : Write Nat := do
  putU8 0x10
  let count ← writeRemainingLength c.len
  writeMqttString "MQTT"
  putU8 c.protocol.level
  let flags_index := 1 + count + 2 + 4 + 1
  putU8 c.cleanFlag
  putU16 c.keep_alive
  writeMqttString c.client_id
  let will ← writeOption LastWill.write c.last_will
  let login ← writeOption Login.write c.login
  modify fun buffer => buffer.set flags_index (c.cleanFlag ||| will ||| login)
  return 1 + count + c.len

def ConnectReturnCode.byte : ConnectReturnCode → UInt8
  | .success => 0
  | .refusedProtocolVersion => 1
  | .badClientId => 2
  | .serviceUnavailable => 3
  | .badUserNamePassword => 4
  | .notAuthorized => 5

def ConnAck.write (c : ConnAck) : Write Nat := do
  putU8 0x20
  let count ← writeRemainingLength 2
  putU8 (flagByte c.session_present)
  putU8 c.code.byte
  return 1 + count + 2

/-- The first byte of a publish. -/
def Publish.byte (p : Publish) : UInt8 :=
  (0x30 : UInt8) ||| flagByte p.retain ||| (qosByte p.qos <<< 1) ||| (flagByte p.dup <<< 3)

/-- The packet identifier, where the quality of service asks for one. -/
def Publish.writeIdentifier (p : Publish) : Write Unit :=
  if p.qos = .atMostOnce then pure ()
  else do
    failIf (p.pkid = 0) .packetIdZero
    putU16 p.pkid

def Publish.write (p : Publish) : Write Nat := do
  putU8 p.byte
  let count ← writeRemainingLength p.len
  writeMqttString p.topic
  p.writeIdentifier
  putSlice p.payload
  return 1 + count + p.len

/-- `PubAck::write`, `PubRec::write`, `PubRel::write` and `PubComp::write`: a
packet identifier after the given first byte. -/
def writePkid (byte : UInt8) (pkid : UInt16) : Write Nat := do
  putU8 byte
  let count ← writeRemainingLength 2
  putU16 pkid
  return 1 + count + 2

def SubscribeFilter.write (f : SubscribeFilter) : Write Unit := do
  writeMqttString f.path
  putU8 (qosByte f.qos)

def Subscribe.write (s : Subscribe) : Write Nat := do
  putU8 0x82
  let remaining_len_bytes ← writeRemainingLength s.len
  putU16 s.pkid
  s.filters.forM SubscribeFilter.write
  return 1 + remaining_len_bytes + s.len

def SubscribeReasonCode.byte : SubscribeReasonCode → UInt8
  | .success qos => qosByte qos
  | .failure => 0x80

def SubAck.write (s : SubAck) : Write Nat := do
  putU8 0x90
  let remaining_len_bytes ← writeRemainingLength s.len
  putU16 s.pkid
  putSlice (s.return_codes.map SubscribeReasonCode.byte)
  return 1 + remaining_len_bytes + s.len

def Unsubscribe.write (u : Unsubscribe) : Write Nat := do
  putU8 0xA2
  let remaining_len_bytes ← writeRemainingLength u.len
  putU16 u.pkid
  u.topics.forM writeMqttString
  return 1 + remaining_len_bytes + u.len

/-- `UnsubAck::write` -/
def writeUnsubAck (pkid : UInt16) : Write Nat := do
  putSlice [0xB0, 0x02]
  putU16 pkid
  return 4

/-- `PingReq::write`, `PingResp::write` and `Disconnect::write`. -/
def writeEmpty (byte : UInt8) : Write Nat := do
  putSlice [byte, 0x00]
  return 2

def Packet.writeBody : Packet → Write Nat
  | .connect c => c.write
  | .connAck c => c.write
  | .publish p => p.write
  | .pubAck pkid => writePkid 0x40 pkid
  | .pubRec pkid => writePkid 0x50 pkid
  | .pubRel pkid => writePkid 0x62 pkid
  | .pubComp pkid => writePkid 0x70 pkid
  | .subscribe s => s.write
  | .subAck s => s.write
  | .unsubscribe u => u.write
  | .unsubAck pkid => writeUnsubAck pkid
  | .pingReq => writeEmpty 0xC0
  | .pingResp => writeEmpty 0xD0
  | .disconnect => writeEmpty 0xE0

def Packet.write (p : Packet) (max_size : Nat) : Write Nat := do
  failIf (p.size > max_size) (.outgoingPacketTooLarge p.size max_size)
  p.writeBody

/-! ## Fixed headers -/

structure FixedHeader where
  byte1 : UInt8
  fixed_header_len : Nat
  remaining_len : Nat

def FixedHeader.new (byte1 : UInt8) (remaining_len_len remaining_len : Nat) : FixedHeader :=
  ⟨byte1, remaining_len_len + 1, remaining_len⟩

def PacketType.ofNum (num : UInt8) : Except Error PacketType :=
  match num.toNat with
  | 1 => .ok .connect
  | 2 => .ok .connAck
  | 3 => .ok .publish
  | 4 => .ok .pubAck
  | 5 => .ok .pubRec
  | 6 => .ok .pubRel
  | 7 => .ok .pubComp
  | 8 => .ok .subscribe
  | 9 => .ok .subAck
  | 10 => .ok .unsubscribe
  | 11 => .ok .unsubAck
  | 12 => .ok .pingReq
  | 13 => .ok .pingResp
  | 14 => .ok .disconnect
  | _ => .error (.invalidPacketType num)

def FixedHeader.packetType (h : FixedHeader) : Except Error PacketType :=
  PacketType.ofNum (h.byte1 >>> 4)

def FixedHeader.frameLength (h : FixedHeader) : Nat := h.fixed_header_len + h.remaining_len

/-- The loop of `length`. -/
def lengthFrom (len len_len shift : Nat) : Bytes → Except Error (Nat × Nat)
  | [] => .error (.insufficientBytes 1)
  | byte :: rest =>
      let len := len + ((byte.toNat &&& 0x7F) <<< shift)
      if byte.toNat &&& 0x80 = 0 then .ok (len_len + 1, len)
      else if shift + 7 > 21 then .error .malformedRemainingLength
      else lengthFrom len (len_len + 1) (shift + 7) rest

def length (stream : Bytes) : Except Error (Nat × Nat) := lengthFrom 0 0 0 stream

def parseFixedHeader : Bytes → Except Error FixedHeader
  | byte1 :: second :: rest => do
      let (len_len, len) ← length (second :: rest)
      return .new byte1 len_len len
  | stream => .error (.insufficientBytes (2 - stream.length))

/-- `check`: the fixed header, when the whole frame has arrived. -/
def check (stream : Bytes) (max_packet_size : Nat) : Except Error FixedHeader := do
  let fixed_header ← parseFixedHeader stream
  if fixed_header.remaining_len > max_packet_size then
    throw (.payloadSizeLimitExceeded fixed_header.remaining_len)
  if stream.length < fixed_header.frameLength then
    throw (.insufficientBytes (fixed_header.frameLength - stream.length))
  return fixed_header

/-! ## Reading -/

/-- Read off the bytes of one frame. -/
abbrev Read := Reader UInt8 Error

/-- An early return with an error. -/
def refuseIf (condition : Prop) [Decidable condition] (e : Error) : Read Unit :=
  if condition then throw e else pure ()

def readU8 : Read UInt8
  | byte :: rest => .ok (byte, rest)
  | [] => .error .malformedPacket

def readU16 : Read UInt16
  | high :: low :: rest => .ok (UInt16.ofNat (256 * high.toNat + low.toNat), rest)
  | _ => .error .malformedPacket

/-- `stream.split_to(len)` after the check of its length. -/
def splitTo (len : Nat) : Read Bytes := fun stream =>
  if len > stream.length then .error (.boundaryCrossed len)
  else .ok (stream.take len, stream.drop len)

def readMqttBytes : Read Bytes := do
  let len ← readU16
  splitTo len.toNat

/-- `String::from_utf8` -/
def fromUtf8 (bytes : Bytes) : Option String := String.fromUTF8? ⟨bytes.toArray⟩

def readMqttString : Read String := do
  let s ← readMqttBytes
  liftM ((fromUtf8 s).elim (.error .topicNotUtf8) .ok : Except Error String)

def qos (num : UInt8) : Except Error QoS :=
  match num.toNat with
  | 0 => .ok .atMostOnce
  | 1 => .ok .atLeastOnce
  | 2 => .ok .exactlyOnce
  | _ => .error (.invalidQoS num)

def LastWill.read (connect_flags : UInt8) : Read (Option LastWill) :=
  if connect_flags &&& 0x04 = 0 then do
    refuseIf (connect_flags &&& 0x38 ≠ 0) .incorrectPacketFormat
    return none
  else do
    let topic ← readMqttString
    let message ← readMqttBytes
    let qos ← liftM (Wire.qos ((connect_flags &&& 0x18) >>> 3))
    return some ⟨topic, message, qos, connect_flags &&& 0x20 ≠ 0⟩

/-- A user name or a password, when its flag is set. -/
def readCredential (connect_flags flag : UInt8) : Read String :=
  if connect_flags &&& flag = 0 then pure "" else readMqttString

def Login.read (connect_flags : UInt8) : Read (Option Login) := do
  let username ← readCredential connect_flags 0x80
  let password ← readCredential connect_flags 0x40
  return if username.isEmpty && password.isEmpty then none else some ⟨username, password⟩

def Protocol.ofLevel (level : UInt8) : Except Error Protocol :=
  match level.toNat with
  | 4 => .ok .v4
  | 5 => .ok .v5
  | _ => .error (.invalidProtocolLevel level)

def Connect.read : Read Connect := do
  let protocol_name ← readMqttString
  let protocol_level ← readU8
  refuseIf (protocol_name ≠ "MQTT") .invalidProtocol
  let protocol ← liftM (Protocol.ofLevel protocol_level)
  let connect_flags ← readU8
  let keep_alive ← readU16
  let client_id ← readMqttString
  let last_will ← LastWill.read connect_flags
  let login ← Login.read connect_flags
  return ⟨protocol, keep_alive, client_id, connect_flags &&& 0x02 ≠ 0, last_will, login⟩

def connectReturn (num : UInt8) : Except Error ConnectReturnCode :=
  match num.toNat with
  | 0 => .ok .success
  | 1 => .ok .refusedProtocolVersion
  | 2 => .ok .badClientId
  | 3 => .ok .serviceUnavailable
  | 4 => .ok .badUserNamePassword
  | 5 => .ok .notAuthorized
  | _ => .error (.invalidConnectReturnCode num)

def ConnAck.read : Read ConnAck := do
  let flags ← readU8
  let return_code ← readU8
  let code ← liftM (connectReturn return_code)
  return ⟨flags &&& 0x01 = 1, code⟩

/-- The rest of the frame is the payload. -/
def readRest : Read Bytes := fun stream => .ok (stream, [])

/-- The packet identifier, where the quality of service asks for one. -/
def readIdentifier (qos : QoS) : Read UInt16 :=
  if qos = .atMostOnce then pure 0
  else do
    let pkid ← readU16
    refuseIf (pkid = 0) .packetIdZero
    return pkid

def Publish.read (byte1 : UInt8) : Read Publish := do
  let qos ← liftM (Wire.qos ((byte1 &&& 0x06) >>> 1))
  let topic ← readMqttString
  let pkid ← readIdentifier qos
  let payload ← readRest
  return ⟨byte1 &&& 0x08 ≠ 0, qos, byte1 &&& 0x01 ≠ 0, topic, pkid, payload⟩

def SubscribeFilter.read : Read SubscribeFilter := do
  let path ← readMqttString
  let options ← readU8
  let qos ← liftM (Wire.qos (options &&& 0x03))
  return ⟨path, qos⟩

def Subscribe.read : Read Subscribe := do
  let pkid ← readU16
  let filters ← Reader.many SubscribeFilter.read
  refuseIf (filters = []) .emptySubscription
  return ⟨pkid, filters⟩

/-- `SubscribeReasonCode::try_from` -/
def SubscribeReasonCode.ofByte (value : UInt8) : Except Error SubscribeReasonCode :=
  match value.toNat with
  | 0 => .ok (.success .atMostOnce)
  | 1 => .ok (.success .atLeastOnce)
  | 2 => .ok (.success .exactlyOnce)
  | 128 => .ok .failure
  | _ => .error (.invalidSubscribeReasonCode value)

def SubscribeReasonCode.read : Read SubscribeReasonCode := do
  let return_code ← readU8
  liftM (SubscribeReasonCode.ofByte return_code)

/-- `bytes.has_remaining()` -/
def hasRemaining : Read Bool := fun stream => .ok (!stream.isEmpty, stream)

def SubAck.read : Read SubAck := do
  let pkid ← readU16
  let remaining ← hasRemaining
  refuseIf (remaining = false) .malformedPacket
  let return_codes ← Reader.many SubscribeReasonCode.read
  return ⟨pkid, return_codes⟩

/-- The topics take the rest of the frame: `remaining_len - 2` bytes. -/
def Unsubscribe.read : Read Unsubscribe := do
  let pkid ← readU16
  let topics ← Reader.many readMqttString
  return ⟨pkid, topics⟩

/-- `UnsubAck::read` -/
def readUnsubAck (h : FixedHeader) : Read UInt16 := do
  refuseIf (h.remaining_len ≠ 2) .payloadSizeIncorrect
  readU16

/-- The packet in a frame, when the fixed header is cut off. -/
def Packet.readBody (h : FixedHeader) (packet_type : PacketType) : Read Packet :=
  match packet_type with
  | .connect => .connect <$> Connect.read
  | .connAck => .connAck <$> ConnAck.read
  | .publish => .publish <$> Publish.read h.byte1
  | .pubAck => .pubAck <$> readU16
  | .pubRec => .pubRec <$> readU16
  | .pubRel => .pubRel <$> readU16
  | .pubComp => .pubComp <$> readU16
  | .subscribe => .subscribe <$> Subscribe.read
  | .subAck => .subAck <$> SubAck.read
  | .unsubscribe => .unsubscribe <$> Unsubscribe.read
  | .unsubAck => .unsubAck <$> readUnsubAck h
  | .pingReq => pure .pingReq
  | .pingResp => pure .pingResp
  | .disconnect => pure .disconnect

/-- The packets without payload. -/
def Packet.ofType : PacketType → Except Error Packet
  | .pingReq => .ok .pingReq
  | .pingResp => .ok .pingResp
  | .disconnect => .ok .disconnect
  | _ => .error .payloadRequired

/-- The packet in a frame. -/
def Packet.ofFrame (h : FixedHeader) (packet : Bytes) : Except Error Packet := do
  let packet_type ← h.packetType
  if h.remaining_len = 0 then Packet.ofType packet_type
  else Prod.fst <$> Packet.readBody h packet_type (packet.drop h.fixed_header_len)

/-- `Packet::read`: the packet at the front of the stream, and what is left. -/
def Packet.read (stream : Bytes) (max_size : Nat) : Except Error Packet × Bytes :=
  match check stream max_size with
  | .error e => (.error e, stream)
  | .ok h => (Packet.ofFrame h (stream.take h.frameLength), stream.drop h.frameLength)

end InverterGateway.Rumqttc.Wire
