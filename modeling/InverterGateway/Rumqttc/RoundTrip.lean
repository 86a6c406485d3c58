/-
# Rumqttc.RoundTrip — packets survive the wire

`Packet.WellFormed` is what a packet must be for its bytes to stand for it.
A well formed packet is read back from what was written for it, whatever
follows, and every packet that is read is well formed (`wellFormed_iff`).
-/
import InverterGateway.Rumqttc.Wire
import Mathlib.Tactic.IntervalCases

namespace InverterGateway.Rumqttc.Wire

set_option autoImplicit false

open InverterGateway.Theory
open InverterGateway.Theory.Reader

/-! ## Bits -/

theorem and_127 (n : Nat) : n &&& 0x7F = n % 128 := Nat.and_two_pow_sub_one_eq_mod n 7

theorem and_128 (byte : UInt8) : byte.toNat &&& 0x80 = 0 ↔ byte.toNat < 128 := by
  have all : ∀ n : Fin 256, n.val &&& 0x80 = 0 ↔ n.val < 128 := by decide +kernel
  exact all ⟨byte.toNat, byte.toNat_lt⟩

theorem low_digit {n : Nat} (small : n < 128) : (UInt8.ofNat n).toNat = n := by
  rw [UInt8.toNat_ofNat']
  omega

theorem high_digit {n : Nat} (small : n < 128) : (UInt8.ofNat n ||| 128).toNat = n + 128 := by
  have all : ∀ n : Fin 128, (UInt8.ofNat n.val ||| 128).toNat = n.val + 128 := by decide
  exact all ⟨n, small⟩

/-! ## The remaining length -/

/-- **The remaining length is read back**, as the digits that are left from the
place where the reader stands. -/
theorem lengthFrom_lengthBytes (x : Nat) : ∀ {j : Nat} (len len_len : Nat) (rest : Bytes), j < 4 →
    x < 128 ^ (4 - j) → lengthFrom len len_len (7 * j) (lengthBytes x ++ rest) =
      .ok (len_len + (lengthBytes x).length, len + x * 128 ^ j) := by
  induction x using Nat.strongRecOn with
  | _ x ih =>
      intro j len len_len rest place bound
      rw [lengthBytes]
      split
      · rename_i more
        have digit := Nat.mod_lt x (show 0 < 128 by decide)
        have further : j < 3 := by
          by_contra last
          obtain rfl : j = 3 := by omega
          omega
        rw [List.cons_append, lengthFrom, high_digit digit, and_127]
        have continues : ¬ (x % 128 + 128) &&& 128 = 0 := by
          rw [← high_digit digit, and_128, high_digit digit]
          omega
        rw [if_neg continues, if_neg (by omega), show 7 * j + 7 = 7 * (j + 1) by omega,
          ih (x / 128) (by omega) _ _ rest (by omega) (by interval_cases j <;> omega),
          List.length_cons]
        congr 2
        · omega
        · interval_cases j <;> omega
      · rename_i last
        have small : x < 128 := by omega
        rw [Nat.mod_eq_of_lt small, List.cons_append, lengthFrom, low_digit small, and_127]
        have stops : x &&& 128 = 0 := by
          rw [← low_digit small, and_128, low_digit small]
          exact small
        rw [if_pos stops, List.length_singleton, Nat.mod_eq_of_lt small, Nat.shiftLeft_eq,
          Nat.pow_mul]

theorem length_lengthBytes {x : Nat} (bound : x ≤ 268435455) (rest : Bytes) :
    length (lengthBytes x ++ rest) = .ok ((lengthBytes x).length, x) := by
  have read := lengthFrom_lengthBytes x (j := 0) 0 0 rest (by omega) (by omega)
  rwa [Nat.zero_add, Nat.zero_add, Nat.pow_zero, Nat.mul_one] at read

/-- The digits are as many as `len_len` counts. -/
theorem lengthBytes_length {x : Nat} (bound : x ≤ 268435455) :
    (lengthBytes x).length = lenLen x := by
  have step : ∀ x, 128 ≤ x → (lengthBytes x).length = (lengthBytes (x / 128)).length + 1 := by
    intro x more
    rw [lengthBytes, if_pos (by omega), List.length_cons]
  have stop : ∀ x, x < 128 → (lengthBytes x).length = 1 := by
    intro x less
    rw [lengthBytes, if_neg (by omega), List.length_singleton]
  unfold lenLen
  split
  · rw [step x (by omega), step _ (by omega), step _ (by omega), stop _ (by omega)]
  split
  · rw [step x (by omega), step _ (by omega), stop _ (by omega)]
  split
  · rw [step x (by omega), stop _ (by omega)]
  · rw [stop x (by omega)]

/-! ## Numbers, strings and bytes -/

theorem fromUtf8_eq {bytes : Bytes} {s : String} : fromUtf8 bytes = some s ↔ bytes = utf8 s := by
  unfold fromUtf8 String.fromUTF8? utf8
  constructor
  · intro decoded
    split at decoded
    · cases decoded
      rfl
    · cases decoded
  · rintro rfl
    rw [Array.toArray_toList, dif_pos s.isValidUTF8]
    rfl

/-- Bytes after their length. -/
def prefixed (bytes : Bytes) : Bytes := bigEndian (UInt16.ofNat bytes.length) ++ bytes

theorem readU8_reads (byte : UInt8) : Reads readU8 [byte] byte := fun _ => rfl

theorem readU16_reads (n : UInt16) : Reads readU16 (bigEndian n) n := by
  intro rest
  have bound := n.toNat_lt
  show Except.ok (UInt16.ofNat _, rest) = _
  rw [UInt8.toNat_ofNat', UInt8.toNat_ofNat',
    show 256 * (n.toNat / 256 % 2 ^ 8) + n.toNat % 2 ^ 8 = n.toNat by omega, UInt16.ofNat_toNat]

theorem splitTo_reads (bytes : Bytes) : Reads (splitTo bytes.length) bytes bytes := by
  intro rest
  rw [splitTo, if_neg (by rw [List.length_append]; omega), List.take_left, List.drop_left]

theorem readMqttBytes_reads {bytes : Bytes} (short : bytes.length < 65536) :
    Reads readMqttBytes (prefixed bytes) bytes := by
  refine (readU16_reads _).bind ?_
  rw [UInt16.toNat_ofNat_of_lt' short]
  exact splitTo_reads bytes

theorem readMqttString_reads {s : String} (short : (utf8 s).length < 65536) :
    Reads readMqttString (prefixed (utf8 s)) s := by
  refine (readMqttBytes_reads short).map ?_
  rw [fromUtf8_eq.2 rfl]
  exact .pure s

theorem lift_reads {α : Type} {x : Except Error α} {a : α} (given : x = .ok a) :
    Reads (liftM x : Read α) [] a := by
  intro rest
  rw [given]
  rfl

theorem prefixed_length (bytes : Bytes) : (prefixed bytes).length = 2 + bytes.length := by
  rw [prefixed, List.length_append]
  rfl

/-! ## What a writer appends -/

/-- Whatever is in the buffer, the writer appends `out` and returns `a`. -/
def Writes {α : Type} (m : Write α) (out : Bytes) (a : α) : Prop :=
  ∀ buffer : Bytes, m buffer = (.ok a, buffer ++ out)

theorem Writes.pure {α : Type} (a : α) : Writes (pure a) [] a := by
  intro buffer
  rw [List.append_nil]
  rfl

theorem Writes.bind {α γ : Type} {m : Write α} {f : α → Write γ} {out out' : Bytes} {a : α} {c : γ}
    (first : Writes m out a) (second : Writes (f a) out' c) :
    Writes (m >>= f) (out ++ out') c := by
  intro buffer
  show ExceptT.bindCont f (m buffer).1 (m buffer).2 = _
  rw [first buffer, ← List.append_assoc]
  exact second (buffer ++ out)

theorem putSlice_writes (bytes : Bytes) : Writes (putSlice bytes) bytes () := fun _ => rfl

theorem putU8_writes (byte : UInt8) : Writes (putU8 byte) [byte] () := putSlice_writes _

theorem putU16_writes (n : UInt16) : Writes (putU16 n) (bigEndian n) () := putSlice_writes _

theorem write_bind {α γ : Type} {m : Write α} {f : α → Write γ} {buffer buffer' : Bytes} {a : α}
    (ran : m buffer = (.ok a, buffer')) : (m >>= f) buffer = f a buffer' := by
  show ExceptT.bindCont f (m buffer).1 (m buffer).2 = _
  rw [ran]
  rfl

theorem Writes.next {α γ : Type} {m : Write α} {f : α → Write γ} {out : Bytes} {a : α}
    (first : Writes m out a) (buffer : Bytes) : (m >>= f) buffer = f a (buffer ++ out) :=
  write_bind (first buffer)

/-- A last step that writes nothing. -/
theorem Writes.map {α γ : Type} {m : Write α} {f : α → Write γ} {out : Bytes} {a : α} {c : γ}
    (first : Writes m out a) (second : Writes (f a) [] c) : Writes (m >>= f) out c := by
  have both := first.bind second
  rwa [List.append_nil] at both

theorem failIf_writes {condition : Prop} [Decidable condition] {e : Error} (passes : ¬ condition) :
    Writes (failIf condition e) [] () := by
  rw [failIf, if_neg passes]
  exact .pure ()

theorem writeMqttBytes_writes (bytes : Bytes) : Writes (writeMqttBytes bytes) (prefixed bytes) () :=
  (putSlice_writes _).bind (putSlice_writes _)

theorem writeMqttString_writes (s : String) :
    Writes (writeMqttString s) (prefixed (utf8 s)) () := writeMqttBytes_writes _

theorem writeRemainingLength_writes {len : Nat} (bound : len ≤ 268435455) :
    Writes (writeRemainingLength len) (lengthBytes len) (lenLen len) := by
  rw [← lengthBytes_length bound]
  exact (failIf_writes (Nat.not_lt.2 bound)).bind ((putSlice_writes _).map (.pure _))

theorem forM_writes {α : Type} {write : α → Write Unit} {bytes : α → Bytes} {values : List α}
    (each : ∀ a ∈ values, Writes (write a) (bytes a) ()) :
    Writes (values.forM write) (values.flatMap bytes) () := by
  induction values with
  | nil => exact .pure ()
  | cons a rest ih =>
      rw [List.forall_mem_cons] at each
      exact each.1.bind (ih each.2)

/-! ## The bytes of a packet -/

def LastWill.bytes (w : LastWill) : Bytes := prefixed (utf8 w.topic) ++ prefixed w.message

/-- An empty user name or password is left out. -/
def credential (s : String) : Bytes := if s.isEmpty then [] else prefixed (utf8 s)

def credentialFlag (s : String) (flag : UInt8) : UInt8 := if s.isEmpty then 0 else flag

def Login.bytes (l : Login) : Bytes := credential l.username ++ credential l.password

def Login.flags (l : Login) : UInt8 :=
  credentialFlag l.username 0x80 ||| credentialFlag l.password 0x40

def Connect.flags (c : Connect) : UInt8 :=
  c.cleanFlag ||| (c.last_will.map LastWill.flags).getD 0 ||| (c.login.map Login.flags).getD 0

def Connect.bytes (c : Connect) : Bytes :=
  prefixed (utf8 "MQTT") ++ ([c.protocol.level] ++ ([c.flags] ++ (bigEndian c.keep_alive ++
    (prefixed (utf8 c.client_id) ++ ((c.last_will.map LastWill.bytes).getD [] ++
      (c.login.map Login.bytes).getD [])))))

/-- The packet identifier of a publish. -/
def Publish.identifier (p : Publish) : Bytes := if p.qos = .atMostOnce then [] else bigEndian p.pkid

def SubscribeFilter.bytes (f : SubscribeFilter) : Bytes := prefixed (utf8 f.path) ++ [qosByte f.qos]

/-- What follows the fixed header. -/
def Packet.body : Packet → Bytes
  | .connect c => c.bytes
  | .connAck c => [flagByte c.session_present] ++ [c.code.byte]
  | .publish p => prefixed (utf8 p.topic) ++ (p.identifier ++ p.payload)
  | .pubAck pkid | .pubRec pkid | .pubRel pkid | .pubComp pkid | .unsubAck pkid => bigEndian pkid
  | .subscribe s => bigEndian s.pkid ++ s.filters.flatMap SubscribeFilter.bytes
  | .subAck s => bigEndian s.pkid ++ s.return_codes.map SubscribeReasonCode.byte
  | .unsubscribe u => bigEndian u.pkid ++ u.topics.flatMap fun t => prefixed (utf8 t)
  | .pingReq | .pingResp | .disconnect => []

def Packet.byte1 : Packet → UInt8
  | .connect _ => 0x10
  | .connAck _ => 0x20
  | .publish p => p.byte
  | .pubAck _ => 0x40
  | .pubRec _ => 0x50
  | .pubRel _ => 0x62
  | .pubComp _ => 0x70
  | .subscribe _ => 0x82
  | .subAck _ => 0x90
  | .unsubscribe _ => 0xA2
  | .unsubAck _ => 0xB0
  | .pingReq => 0xC0
  | .pingResp => 0xD0
  | .disconnect => 0xE0

def Packet.encode (p : Packet) : Bytes := [p.byte1] ++ (lengthBytes p.len ++ p.body)

/-! ## Well formed packets -/

/-- Bytes that sixteen bits can count. -/
def Short (bytes : Bytes) : Prop := bytes.length < 65536

structure LastWill.WellFormed (w : LastWill) : Prop where
  topic : Short (utf8 w.topic)
  message : Short w.message

structure Login.WellFormed (l : Login) : Prop where
  username : Short (utf8 l.username)
  password : Short (utf8 l.password)
  some : (l.username.isEmpty && l.password.isEmpty) = false

structure Connect.WellFormed (c : Connect) : Prop where
  client_id : Short (utf8 c.client_id)
  last_will : ∀ w, c.last_will = some w → w.WellFormed
  login : ∀ l, c.login = some l → l.WellFormed

structure Publish.WellFormed (p : Publish) : Prop where
  topic : Short (utf8 p.topic)
  pkid : p.qos = .atMostOnce ↔ p.pkid = 0

/-- What the fields of a packet must be. -/
def Packet.Sound : Packet → Prop
  | .connect c => c.WellFormed
  | .publish p => p.WellFormed
  | .subscribe s => s.filters ≠ [] ∧ ∀ f ∈ s.filters, Short (utf8 f.path)
  | .subAck s => s.return_codes ≠ []
  | .unsubscribe u => ∀ t ∈ u.topics, Short (utf8 t)
  | _ => True

structure Packet.WellFormed (p : Packet) : Prop where
  sound : p.Sound
  counted : p.len ≤ 268435455

theorem credential_length (s : String) :
    (credential s).length = if s.isEmpty then 0 else 2 + (utf8 s).length := by
  unfold credential
  split
  · rfl
  · exact prefixed_length _

theorem option_length {α : Type} {bytes : α → Bytes} {len : α → Nat}
    (each : ∀ a, (bytes a).length = len a) (o : Option α) :
    ((o.map bytes).getD []).length = (o.map len).getD 0 := by
  cases o with
  | none => rfl
  | some a => exact each a

theorem flatMap_length {α : Type} (bytes : α → Bytes) (len : α → Nat)
    (each : ∀ a, (bytes a).length = len a) (values : List α) :
    (values.flatMap bytes).length = (values.map len).sum := by
  rw [List.length_flatMap]
  congr 1
  exact List.map_congr_left fun a _ => each a

theorem LastWill.bytes_length (w : LastWill) : w.bytes.length = w.len := by
  rw [LastWill.bytes, List.length_append, prefixed_length, prefixed_length, LastWill.len]
  omega

theorem Login.bytes_length (l : Login) : l.bytes.length = l.len := by
  rw [Login.bytes, List.length_append, credential_length, credential_length, Login.len]

theorem Publish.identifier_length {p : Publish} (well : p.WellFormed) :
    (prefixed (utf8 p.topic) ++ (p.identifier ++ p.payload)).length = p.len := by
  rw [List.length_append, List.length_append, prefixed_length, Publish.identifier, Publish.len]
  by_cases once : p.qos = .atMostOnce
  · rw [if_pos once, if_neg fun both => both.1 once]
    rw [List.length_nil, Nat.zero_add, Nat.add_assoc]
  · rw [if_neg once, if_pos ⟨once, fun zero => once (well.pkid.2 zero)⟩]
    show 2 + _ + (2 + _) = _
    omega

/-- **The remaining length counts what follows the fixed header.** -/
theorem Packet.body_length {p : Packet} (sound : p.Sound) : p.body.length = p.len := by
  cases p with
  | connect c =>
      have will := option_length LastWill.bytes_length c.last_will
      have login := option_length Login.bytes_length c.login
      have name : (utf8 "MQTT").length = 4 := by decide +kernel
      show c.bytes.length = c.len
      rw [Connect.bytes, Connect.len]
      simp only [List.length_append, prefixed_length, List.length_singleton, will, login, name]
      show _ + (1 + (1 + (2 + _))) = _
      omega
  | publish p => exact Publish.identifier_length sound
  | subscribe s =>
      have filters := flatMap_length SubscribeFilter.bytes SubscribeFilter.len
        (fun f => by rw [SubscribeFilter.bytes, List.length_append, prefixed_length]; rfl) s.filters
      show (bigEndian s.pkid ++ _).length = s.len
      rw [List.length_append, filters]
      rfl
  | subAck s =>
      show (bigEndian s.pkid ++ _).length = 2 + _
      rw [List.length_append, List.length_map]
      rfl
  | unsubscribe u =>
      have topics := flatMap_length (fun t => prefixed (utf8 t)) (fun t => (utf8 t).length + 2)
        (fun t => by rw [prefixed_length, Nat.add_comm]) u.topics
      show (bigEndian u.pkid ++ _).length = u.len
      rw [List.length_append, topics]
      rfl
  | connAck c => rfl
  | pubAck pkid => rfl
  | pubRec pkid => rfl
  | pubRel pkid => rfl
  | pubComp pkid => rfl
  | unsubAck pkid => rfl
  | pingReq => rfl
  | pingResp => rfl
  | disconnect => rfl

/-! ## Every packet is written -/

theorem writeCredential_writes (s : String) (flag : UInt8) :
    Writes (writeCredential s flag) (credential s) (credentialFlag s flag) := by
  unfold writeCredential credential credentialFlag
  split
  · exact .pure 0
  · exact (writeMqttBytes_writes _).map (.pure flag)

theorem Login.write_writes (l : Login) : Writes l.write l.bytes l.flags :=
  (writeCredential_writes _ _).bind ((writeCredential_writes _ _).map (.pure _))

theorem LastWill.write_writes (w : LastWill) : Writes w.write w.bytes w.flags :=
  (writeMqttBytes_writes _).bind ((writeMqttBytes_writes _).map (.pure _))

theorem writeOption_writes {α : Type} {write : α → Write UInt8} {bytes : α → Bytes}
    {flags : α → UInt8} (each : ∀ a, Writes (write a) (bytes a) (flags a)) (o : Option α) :
    Writes (writeOption write o) ((o.map bytes).getD []) ((o.map flags).getD 0) := by
  cases o with
  | none => exact .pure 0
  | some a => exact each a

theorem Publish.writeIdentifier_writes {p : Publish} (well : p.WellFormed) :
    Writes p.writeIdentifier p.identifier () := by
  unfold Publish.writeIdentifier Publish.identifier
  split
  · exact .pure ()
  · rename_i once
    exact (failIf_writes fun zero => once (well.pkid.2 zero)).bind (putSlice_writes _)

theorem set_between (before after : Bytes) (old new : UInt8) :
    (before ++ ([old] ++ after)).set before.length new = before ++ ([new] ++ after) := by
  rw [List.set_append_right _ _ (Nat.le_refl _), Nat.sub_self]
  rfl

/-- A connect is written into an empty buffer: its flags are put in last, at
their place from the start of the buffer. -/
theorem Connect.write_eq {c : Connect} (bound : c.len ≤ 268435455) :
    c.write [] = (.ok (1 + lenLen c.len + c.len), (Packet.connect c).encode) := by
  unfold Connect.write
  rw [(putU8_writes _).next, (writeRemainingLength_writes bound).next,
    (writeMqttString_writes _).next, (putU8_writes _).next, (putU8_writes _).next,
    (putU16_writes _).next, (writeMqttString_writes _).next,
    (writeOption_writes LastWill.write_writes _).next,
    (writeOption_writes Login.write_writes _).next]
  show (Except.ok (1 + lenLen c.len + c.len), List.set _ (1 + lenLen c.len + 2 + 4 + 1) c.flags) = _
  have name : (utf8 "MQTT").length = 4 := by decide +kernel
  have start : ([0x10] ++ (lengthBytes c.len ++ (prefixed (utf8 "MQTT") ++
      [c.protocol.level]))).length = 1 + lenLen c.len + 2 + 4 + 1 := by
    simp only [List.length_append, List.length_singleton, prefixed_length, name,
      lengthBytes_length bound]
    omega
  have placed := set_between ([0x10] ++ (lengthBytes c.len ++ (prefixed (utf8 "MQTT") ++
    [c.protocol.level]))) (bigEndian c.keep_alive ++ (prefixed (utf8 c.client_id) ++
      ((c.last_will.map LastWill.bytes).getD [] ++ (c.login.map Login.bytes).getD [])))
    c.cleanFlag c.flags
  rw [start] at placed
  simp only [List.append_assoc, List.nil_append] at placed ⊢
  rw [placed]
  rfl

/-- **Every other well formed packet is written whole behind what is there.** -/
theorem Packet.writeBody_writes {p : Packet} (well : p.WellFormed)
    (other : ∀ c, p ≠ .connect c) : Writes p.writeBody p.encode p.size := by
  have pkid : ∀ (byte : UInt8) (pkid : UInt16), Writes (writePkid byte pkid)
      ([byte] ++ (lengthBytes 2 ++ bigEndian pkid)) (1 + lenLen 2 + 2) := fun byte pkid =>
    (putSlice_writes _).bind ((writeRemainingLength_writes (by omega)).bind
      ((putSlice_writes _).map (.pure _)))
  have empty : ∀ byte : UInt8, Writes (writeEmpty byte) ([byte] ++ (lengthBytes 0 ++ [])) 2 := by
    intro byte
    rw [lengthBytes, if_neg (by decide)]
    exact (putSlice_writes _).map (.pure 2)
  cases p with
  | connect c => exact absurd rfl (other c)
  | connAck c =>
      exact (putSlice_writes _).bind ((writeRemainingLength_writes (by omega)).bind
        ((putSlice_writes _).bind ((putSlice_writes _).map (.pure _))))
  | publish p =>
      exact (putSlice_writes _).bind ((writeRemainingLength_writes well.counted).bind
        ((writeMqttBytes_writes _).bind ((Publish.writeIdentifier_writes well.sound).bind
          ((putSlice_writes _).map (.pure _)))))
  | pubAck n => exact pkid 0x40 n
  | pubRec n => exact pkid 0x50 n
  | pubRel n => exact pkid 0x62 n
  | pubComp n => exact pkid 0x70 n
  | subscribe s =>
      exact (putSlice_writes _).bind ((writeRemainingLength_writes well.counted).bind
        ((putSlice_writes _).bind ((forM_writes fun f _ => (writeMqttBytes_writes _).bind
          (putSlice_writes _)).map (.pure _))))
  | subAck s =>
      exact (putSlice_writes _).bind ((writeRemainingLength_writes well.counted).bind
        ((putSlice_writes _).bind ((putSlice_writes _).map (.pure _))))
  | unsubscribe u =>
      exact (putSlice_writes _).bind ((writeRemainingLength_writes well.counted).bind
        ((putSlice_writes _).bind ((forM_writes fun t _ => writeMqttBytes_writes _).map
          (.pure _))))
  | unsubAck n =>
      have digits : lengthBytes 2 = [2] := by
        rw [lengthBytes, if_neg (by decide)]
        rfl
      have written : Writes (writeUnsubAck n) ([0xB0, 0x02] ++ bigEndian n) 4 :=
        (putSlice_writes _).bind ((putU16_writes n).map (.pure 4))
      rw [Packet.encode, show Packet.len (.unsubAck n) = 2 from rfl, digits]
      exact written
  | pingReq => exact empty 0xC0
  | pingResp => exact empty 0xD0
  | disconnect => exact empty 0xE0

/-! ## Every packet is read back -/

theorem refuseIf_reads {condition : Prop} [Decidable condition] {e : Error}
    (passes : ¬ condition) : Reads (refuseIf condition e) [] () := by
  rw [refuseIf, if_neg passes]
  exact .pure ()

theorem readCredential_reads {s : String} {connect_flags flag : UInt8} (short : Short (utf8 s))
    (set : connect_flags &&& flag = 0 ↔ s.isEmpty = true) :
    Reads (readCredential connect_flags flag) (credential s) s := by
  unfold readCredential credential
  by_cases empty : s.isEmpty = true
  · rw [if_pos (set.2 empty), if_pos empty, String.isEmpty_iff.1 empty]
    exact .pure ""
  · rw [if_neg fun zero => empty (set.1 zero), if_neg empty]
    exact readMqttString_reads short

/-- What the flags of a connect say: whether the session is clean, the quality of
service and the retain flag of a will, and what the login has. -/
structure FlagsOf (connect_flags : UInt8) (clean : Bool) (will : Option (QoS × Bool))
    (username password : Bool) : Prop where
  clean : decide (connect_flags &&& 0x02 ≠ 0) = clean
  none : will = none → connect_flags &&& 0x04 = 0 ∧ connect_flags &&& 0x38 = 0
  some : ∀ q r, will = some (q, r) → connect_flags &&& 0x04 ≠ 0 ∧
    Wire.qos ((connect_flags &&& 0x18) >>> 3) = .ok q ∧ decide (connect_flags &&& 0x20 ≠ 0) = r
  username : connect_flags &&& 0x80 = 0 ↔ username = true
  password : connect_flags &&& 0x40 = 0 ↔ password = true

theorem flagsOf (clean : Bool) (will : Option (QoS × Bool)) (username password : Bool) :
    FlagsOf ((if clean then (0x02 : UInt8) else 0) |||
      (will.map fun w => (0x04 : UInt8) ||| (qosByte w.1 <<< 3) |||
        (if w.2 then (0x20 : UInt8) else 0)).getD 0 |||
      ((if username then (0 : UInt8) else 0x80) ||| (if password then (0 : UInt8) else 0x40)))
      clean will username password := by
  rcases will with _ | ⟨q, r⟩
  · cases clean <;> cases username <;> cases password <;>
      exact ⟨by decide, fun _ => by decide, fun _ _ other => (by cases other), by decide, by decide⟩
  · cases q <;> cases r <;> cases clean <;> cases username <;> cases password <;>
      exact ⟨by decide, fun other => (by cases other),
        fun _ _ same => (by cases same; decide), by decide, by decide⟩

/-- The user name and the password that a connect sends. -/
def Connect.credentials (c : Connect) : String × String :=
  (c.login.map fun l => (l.username, l.password)).getD ("", "")

theorem Connect.flagsOf (c : Connect) :
    FlagsOf c.flags c.clean_session (c.last_will.map fun w => (w.qos, w.retain))
      c.credentials.1.isEmpty c.credentials.2.isEmpty := by
  have all := Wire.flagsOf c.clean_session (c.last_will.map fun w => (w.qos, w.retain))
    c.credentials.1.isEmpty c.credentials.2.isEmpty
  have will : ((c.last_will.map fun w => (w.qos, w.retain)).map fun w => (0x04 : UInt8) |||
      (qosByte w.1 <<< 3) ||| (if w.2 then (0x20 : UInt8) else 0)).getD 0 =
      (c.last_will.map LastWill.flags).getD 0 := by
    rw [Option.map_map]
    rfl
  have login : ((if c.credentials.1.isEmpty then (0 : UInt8) else 0x80) |||
      (if c.credentials.2.isEmpty then (0 : UInt8) else 0x40)) =
      (c.login.map Login.flags).getD 0 := by
    unfold Connect.credentials
    cases c.login with
    | none => rfl
    | some l => rfl
  rw [will, login] at all
  exact all

theorem LastWill.read_reads {o : Option LastWill} (well : ∀ w, o = some w → w.WellFormed)
    {connect_flags : UInt8} {clean username password : Bool}
    (flags : FlagsOf connect_flags clean (o.map fun w => (w.qos, w.retain)) username password) :
    Reads (LastWill.read connect_flags) ((o.map LastWill.bytes).getD []) o := by
  unfold LastWill.read
  cases o with
  | none =>
      obtain ⟨zero, zeros⟩ := flags.none rfl
      rw [if_pos zero]
      exact (refuseIf_reads (not_not.2 zeros)).map (.pure none)
  | some w =>
      obtain ⟨set, level, retain⟩ := flags.some _ _ rfl
      obtain ⟨topic, message⟩ := well w rfl
      rw [if_neg set]
      refine (readMqttString_reads topic).bind ((readMqttBytes_reads message).map ?_)
      refine (lift_reads level).map ?_
      rw [retain]
      exact .pure (some w)

theorem Login.read_reads {o : Option Login} (well : ∀ l, o = some l → l.WellFormed)
    {connect_flags : UInt8} {clean : Bool} {will : Option (QoS × Bool)}
    (flags : FlagsOf connect_flags clean will
      ((o.map fun l => (l.username, l.password)).getD ("", "")).1.isEmpty
      ((o.map fun l => (l.username, l.password)).getD ("", "")).2.isEmpty) :
    Reads (Login.read connect_flags) ((o.map Login.bytes).getD []) o := by
  unfold Login.read
  cases o with
  | none =>
      have short : Short (utf8 "") := show (utf8 "").length < 65536 by decide +kernel
      refine (readCredential_reads short flags.username).bind ?_
      exact (readCredential_reads short flags.password).map (.pure none)
  | some l =>
      obtain ⟨username, password, some⟩ := well l rfl
      refine (readCredential_reads username flags.username).bind ?_
      refine (readCredential_reads password flags.password).map ?_
      rw [some]
      exact .pure (Option.some l)

theorem Protocol.ofLevel_level (p : Protocol) : Protocol.ofLevel p.level = .ok p := by
  cases p <;> rfl

theorem Connect.read_reads {c : Connect} (well : c.WellFormed) : Reads Connect.read c.bytes c := by
  have flags := c.flagsOf
  have name : Short (utf8 "MQTT") := show (utf8 "MQTT").length < 65536 by decide +kernel
  refine (readMqttString_reads name).bind ((readU8_reads _).bind ?_)
  refine (refuseIf_reads fun other => other rfl).bind ?_
  refine (lift_reads (Protocol.ofLevel_level _)).bind ((readU8_reads _).bind ?_)
  refine (readU16_reads _).bind ((readMqttString_reads well.client_id).bind ?_)
  refine (LastWill.read_reads well.last_will flags).bind ?_
  refine (Login.read_reads well.login flags).map ?_
  rw [flags.clean]
  exact .pure c

theorem ConnAck.read_reads (c : ConnAck) :
    Reads ConnAck.read ([flagByte c.session_present] ++ [c.code.byte]) c := by
  have known : connectReturn c.code.byte = .ok c.code := by cases c.code <;> rfl
  have flag : decide (flagByte c.session_present &&& 0x01 = 1) = c.session_present := by
    cases c.session_present <;> decide
  refine (readU8_reads _).bind ((readU8_reads _).map ((lift_reads known).map ?_))
  rw [flag]
  exact .pure c

/-- What the first byte of a publish says. -/
theorem Publish.byte_flags (p : Publish) :
    PacketType.ofNum (p.byte >>> 4) = .ok .publish ∧ Wire.qos ((p.byte &&& 0x06) >>> 1) = .ok p.qos ∧
      decide (p.byte &&& 0x08 ≠ 0) = p.dup ∧ decide (p.byte &&& 0x01 ≠ 0) = p.retain := by
  unfold Publish.byte
  generalize p.dup = dup
  generalize p.qos = qos
  generalize p.retain = retain
  cases dup <;> cases qos <;> cases retain <;>
    exact ⟨by decide, rfl, by decide, by decide⟩

theorem readIdentifier_reads {p : Publish} (well : p.WellFormed) :
    Reads (readIdentifier p.qos) p.identifier p.pkid := by
  unfold readIdentifier Publish.identifier
  split
  · rename_i once
    rw [well.pkid.1 once]
    exact .pure 0
  · rename_i once
    refine (readU16_reads _).map ?_
    exact (refuseIf_reads fun zero => once (well.pkid.2 zero)).map (.pure _)

theorem Publish.read_ends {p : Publish} (well : p.WellFormed) :
    Ends (Publish.read p.byte) (prefixed (utf8 p.topic) ++ (p.identifier ++ p.payload)) p := by
  obtain ⟨-, qos, dup, retain⟩ := p.byte_flags
  unfold Publish.read
  refine Reads.andEnds (w := []) (lift_reads qos) ((readMqttString_reads well.topic).andEnds ?_)
  refine (readIdentifier_reads well).andEnds ?_
  rw [dup, retain]
  exact Ends.bind rfl rfl

theorem SubscribeFilter.read_reads {f : SubscribeFilter} (short : Short (utf8 f.path)) :
    Reads SubscribeFilter.read f.bytes f := by
  have level : Wire.qos (qosByte f.qos &&& 0x03) = .ok f.qos := by cases f.qos <;> rfl
  refine (readMqttString_reads short).bind ((readU8_reads _).map ?_)
  exact (lift_reads level).map (.pure f)

theorem prefixed_ne_nil (bytes : Bytes) : prefixed bytes ≠ [] := List.cons_ne_nil _ _

theorem Subscribe.read_ends {s : Subscribe} (some : s.filters ≠ [])
    (short : ∀ f ∈ s.filters, Short (utf8 f.path)) :
    Ends Subscribe.read (bigEndian s.pkid ++ s.filters.flatMap SubscribeFilter.bytes) s := by
  refine (readU16_reads _).andEnds (Ends.bind (a := s.filters) ?_ ?_)
  · exact many_ends (fun f listed => SubscribeFilter.read_reads (short f listed))
      fun f _ => List.cons_ne_nil _ _
  · exact ((refuseIf_reads some).map (.pure s)).ends

theorem SubscribeReasonCode.read_reads (code : SubscribeReasonCode) :
    Reads SubscribeReasonCode.read [code.byte] code := by
  have known : SubscribeReasonCode.ofByte code.byte = .ok code := by
    rcases code with q | _
    · cases q <;> rfl
    · rfl
  exact (readU8_reads _).map (lift_reads known)

theorem SubAck.read_ends {s : SubAck} (some : s.return_codes ≠ []) :
    Ends SubAck.read (bigEndian s.pkid ++ s.return_codes.map SubscribeReasonCode.byte) s := by
  have full : (s.return_codes.map SubscribeReasonCode.byte).isEmpty = false := by
    rw [List.isEmpty_eq_false_iff]
    exact fun none => some (List.map_eq_nil_iff.1 none)
  refine (readU16_reads _).andEnds
    (bind_ok.2 ⟨true, s.return_codes.map SubscribeReasonCode.byte, ?_, ?_⟩)
  · rw [hasRemaining, full]
    rfl
  · refine bind_ok.2 ⟨(), _, refuseIf_reads (by decide) _, ?_⟩
    rw [← List.flatMap_pure_eq_map]
    have codes : Ends (many SubscribeReasonCode.read)
        (s.return_codes.flatMap fun code => [code.byte]) s.return_codes :=
      many_ends (fun code _ => SubscribeReasonCode.read_reads code) fun _ _ => List.cons_ne_nil _ _
    exact codes.bind rfl

theorem Unsubscribe.read_ends {u : Unsubscribe} (short : ∀ t ∈ u.topics, Short (utf8 t)) :
    Ends Unsubscribe.read (bigEndian u.pkid ++ u.topics.flatMap fun t => prefixed (utf8 t)) u := by
  refine (readU16_reads _).andEnds (Ends.bind (a := u.topics) ?_ rfl)
  exact many_ends (fun t listed => readMqttString_reads (short t listed)) fun _ _ =>
    prefixed_ne_nil _

/-! ## Frames -/

def Packet.type : Packet → PacketType
  | .connect _ => .connect
  | .connAck _ => .connAck
  | .publish _ => .publish
  | .pubAck _ => .pubAck
  | .pubRec _ => .pubRec
  | .pubRel _ => .pubRel
  | .pubComp _ => .pubComp
  | .subscribe _ => .subscribe
  | .subAck _ => .subAck
  | .unsubscribe _ => .unsubscribe
  | .unsubAck _ => .unsubAck
  | .pingReq => .pingReq
  | .pingResp => .pingResp
  | .disconnect => .disconnect

theorem Packet.packetType_eq (p : Packet) (len_len len : Nat) :
    (FixedHeader.new p.byte1 len_len len).packetType = .ok p.type := by
  show PacketType.ofNum (p.byte1 >>> 4) = _
  cases p with
  | publish p => exact p.byte_flags.1
  | _ =>
      simp only [Packet.byte1, Packet.type]
      decide

/-- **The body of a packet is read back.** -/
theorem Packet.readBody_ends {p : Packet} (sound : p.Sound) {h : FixedHeader}
    (first : h.byte1 = p.byte1) (remaining : h.remaining_len = p.len) :
    Ends (Packet.readBody h p.type) p.body p := by
  have mapped : ∀ {α : Type} {r : Read α} {w : Bytes} {a : α} (f : α → Packet), Ends r w a →
      Ends (f <$> r) w (f a) := by
    intro α r w a f ends
    rw [← bind_pure_comp]
    exact ends.bind rfl
  cases p with
  | connect c => exact mapped _ (Connect.read_reads sound).ends
  | connAck c => exact mapped _ (ConnAck.read_reads c).ends
  | publish p =>
      show Ends (Packet.publish <$> Publish.read h.byte1) _ _
      rw [first]
      exact mapped _ (Publish.read_ends sound)
  | pubAck pkid => exact mapped _ (readU16_reads pkid).ends
  | pubRec pkid => exact mapped _ (readU16_reads pkid).ends
  | pubRel pkid => exact mapped _ (readU16_reads pkid).ends
  | pubComp pkid => exact mapped _ (readU16_reads pkid).ends
  | subscribe s => exact mapped _ (Subscribe.read_ends sound.1 sound.2)
  | subAck s => exact mapped _ (SubAck.read_ends sound)
  | unsubscribe u => exact mapped _ (Unsubscribe.read_ends sound)
  | unsubAck pkid =>
      refine mapped _ (Reads.ends ?_)
      exact Reads.bind (w := []) (refuseIf_reads (not_not.2 remaining)) (readU16_reads pkid)
  | pingReq => rfl
  | pingResp => rfl
  | disconnect => rfl

/-- The fixed header of a packet. -/
def Packet.header (p : Packet) : FixedHeader := .new p.byte1 (lengthBytes p.len).length p.len

theorem Packet.encode_length {p : Packet} (sound : p.Sound) :
    p.encode.length = p.header.frameLength := by
  rw [Packet.encode, List.length_append, List.length_append, p.body_length sound]
  show 1 + _ = _ + 1 + p.len
  omega

/-- A packet takes the bytes that its size counts. -/
theorem Packet.encode_size {p : Packet} (well : p.WellFormed) : p.encode.length = p.size := by
  have counted : p.encode.length = 1 + lenLen p.len + p.len := by
    rw [Packet.encode, List.length_append, List.length_append, List.length_singleton,
      p.body_length well.sound, lengthBytes_length well.counted]
    omega
  rw [counted]
  -- the four fixed sizes are the general one
  cases p <;> rfl

theorem parseFixedHeader_encode {p : Packet} (well : p.WellFormed) (rest : Bytes) :
    parseFixedHeader (p.encode ++ rest) = .ok p.header := by
  have digits := length_lengthBytes well.counted (p.body ++ rest)
  obtain ⟨digit, others, shape⟩ : ∃ digit others, lengthBytes p.len = digit :: others := by
    rw [lengthBytes]
    split
    · exact ⟨_, _, rfl⟩
    · exact ⟨_, _, rfl⟩
  rw [Packet.encode, List.append_assoc, List.append_assoc]
  rw [shape, List.cons_append] at digits
  rw [shape]
  show (length (digit :: (others ++ (p.body ++ rest))) >>= _) = _
  rw [digits, Packet.header, shape]
  rfl

theorem check_encode {p : Packet} (well : p.WellFormed) {max : Nat} (allowed : p.len ≤ max)
    (rest : Bytes) : check (p.encode ++ rest) max = .ok p.header := by
  have arrived : p.header.frameLength ≤ (p.encode ++ rest).length := by
    rw [List.length_append, p.encode_length well.sound]
    omega
  unfold check
  rw [parseFixedHeader_encode well]
  show (if p.len > max then _ else _) = _
  rw [if_neg (Nat.not_lt.2 allowed)]
  show (if (p.encode ++ rest).length < _ then _ else _) = _
  rw [if_neg (Nat.not_lt.2 arrived)]
  rfl

/-- Only three packets have nothing behind the fixed header. -/
theorem Packet.ofType_type {p : Packet} (empty : p.len = 0) :
    Packet.ofType p.type = .ok p := by
  cases p with
  | pingReq => rfl
  | pingResp => rfl
  | disconnect => rfl
  | publish p =>
      simp only [Packet.len, Publish.len] at empty
      split at empty <;> omega
  | _ =>
      simp only [Packet.len, Connect.len, Subscribe.len, SubAck.len, Unsubscribe.len] at empty
      omega

theorem Packet.ofFrame_encode {p : Packet} (sound : p.Sound) :
    Packet.ofFrame p.header p.encode = .ok p := by
  have behind : p.encode.drop p.header.fixed_header_len = p.body := by
    rw [Packet.encode, ← List.append_assoc]
    refine List.drop_left' ?_
    rw [List.length_append, List.length_singleton, Nat.add_comm]
    rfl
  unfold Packet.ofFrame
  rw [Packet.header, p.packetType_eq]
  show (if p.len = 0 then _ else _) = _
  by_cases empty : p.len = 0
  · rw [if_pos empty]
    exact Packet.ofType_type empty
  · rw [if_neg empty]
    show Prod.fst <$> Packet.readBody p.header p.type (p.encode.drop p.header.fixed_header_len) = _
    have read : Packet.readBody p.header p.type p.body = .ok (p, []) :=
      Packet.readBody_ends sound rfl rfl
    rw [behind, read]
    rfl

/-- **A well formed packet is read back, and what follows it is left.** -/
theorem Packet.read_encode {p : Packet} (well : p.WellFormed) {max : Nat} (allowed : p.len ≤ max)
    (rest : Bytes) : Packet.read (p.encode ++ rest) max = (.ok p, rest) := by
  have frame : (p.encode ++ rest).take p.header.frameLength = p.encode := by
    rw [← p.encode_length well.sound, List.take_left]
  have left : (p.encode ++ rest).drop p.header.frameLength = rest := by
    rw [← p.encode_length well.sound, List.drop_left]
  unfold Packet.read
  rw [check_encode well allowed]
  dsimp only
  rw [frame, left, Packet.ofFrame_encode well.sound]

/-! ## Every packet that is read is well formed -/

theorem readU8_yields : Yields readU8 fun _ w => w.length = 1 := by
  rintro (_ | ⟨byte, b⟩) a rest ⟨⟩
  exact ⟨[byte], rfl, rfl⟩

theorem readU16_yields : Yields readU16 fun _ w => w.length = 2 := by
  rintro (_ | ⟨high, _ | ⟨low, b⟩⟩) a rest ⟨⟩
  exact ⟨[high, low], rfl, rfl⟩

theorem splitTo_yields (len : Nat) :
    Yields (splitTo len) fun bytes w => w = bytes ∧ bytes.length = len := by
  intro b bytes rest ran
  unfold splitTo at ran
  split at ran
  · cases ran
  · rename_i enough
    cases ran
    exact ⟨_, (List.take_append_drop len b).symm, rfl, List.length_take_of_le (by omega)⟩

theorem lift_yields {α : Type} (x : Except Error α) :
    Yields (liftM x : Read α) fun a w => x = .ok a ∧ w = [] := by
  intro b a rest ran
  cases x with
  | error e => cases ran
  | ok a' =>
      cases ran
      exact ⟨[], rfl, rfl, rfl⟩

theorem refuseIf_yields {condition : Prop} [Decidable condition] {e : Error} :
    Yields (refuseIf condition e) fun _ w => ¬ condition ∧ w = [] := by
  unfold refuseIf
  split
  · exact .fail
  · rename_i passes
    exact .pure ⟨passes, rfl⟩

theorem readMqttBytes_yields :
    Yields readMqttBytes fun bytes w => w.length = 2 + bytes.length ∧ Short bytes := by
  refine readU16_yields.bind fun len w two => (splitTo_yields _).mono ?_
  rintro bytes _ ⟨rfl, taken⟩
  exact ⟨by rw [List.length_append, two], lt_of_eq_of_lt taken len.toNat_lt⟩

theorem readMqttString_yields :
    Yields readMqttString fun s w => w.length = 2 + (utf8 s).length ∧ Short (utf8 s) := by
  refine readMqttBytes_yields.bind fun bytes w ⟨counted, short⟩ => (lift_yields _).mono ?_
  rintro s _ ⟨decoded, rfl⟩
  obtain rfl : bytes = utf8 s := by
    rw [← fromUtf8_eq]
    cases text : fromUtf8 bytes with
    | none =>
        rw [text] at decoded
        cases decoded
    | some s' =>
        rw [text] at decoded
        cases decoded
        rfl
  exact ⟨by rw [List.append_nil, counted], short⟩

theorem readCredential_yields (connect_flags flag : UInt8) :
    Yields (readCredential connect_flags flag) fun s w =>
      (credential s).length ≤ w.length ∧ Short (utf8 s) := by
  unfold readCredential
  split
  · exact .pure ⟨Nat.zero_le _, show (utf8 "").length < 65536 by decide +kernel⟩
  · refine readMqttString_yields.mono fun s w ⟨counted, short⟩ => ⟨?_, short⟩
    rw [credential_length]
    split <;> omega

theorem Login.read_yields (connect_flags : UInt8) :
    Yields (Login.read connect_flags) fun o w =>
      (o.map Login.len).getD 0 ≤ w.length ∧ ∀ l, o = some l → l.WellFormed := by
  refine (readCredential_yields _ _).bind fun username w ⟨one, short⟩ => ?_
  refine (readCredential_yields _ _).bind fun password v ⟨two, short'⟩ => .pure ?_
  simp only [List.append_nil, List.length_append]
  split
  · exact ⟨Nat.zero_le _, fun _ other => by cases other⟩
  · rename_i some
    refine ⟨?_, ?_⟩
    · rw [credential_length] at one two
      exact Nat.add_le_add one two
    · rintro _ ⟨⟩
      exact ⟨short, short', Bool.eq_false_iff.2 some⟩

theorem LastWill.read_yields (connect_flags : UInt8) :
    Yields (LastWill.read connect_flags) fun o w =>
      (o.map LastWill.len).getD 0 ≤ w.length ∧ ∀ l, o = some l → l.WellFormed := by
  unfold LastWill.read
  split
  · exact refuseIf_yields.bind fun _ w _ => .pure ⟨Nat.zero_le _, fun _ other => by cases other⟩
  · refine readMqttString_yields.bind fun topic w ⟨one, short⟩ => ?_
    refine readMqttBytes_yields.bind fun message v ⟨two, short'⟩ => ?_
    refine (lift_yields _).bind fun qos u ⟨_, nothing⟩ => .pure ⟨?_, ?_⟩
    · simp only [nothing, List.append_nil, List.length_append, Option.map_some, Option.getD_some,
        LastWill.len]
      omega
    · rintro _ ⟨⟩
      exact ⟨short, short'⟩

theorem Connect.read_yields :
    Yields Connect.read fun c w => c.len ≤ w.length ∧ c.WellFormed := by
  refine readMqttString_yields.bind fun name w₁ ⟨one, _⟩ => ?_
  refine readU8_yields.bind fun level w₂ two => ?_
  refine refuseIf_yields.bind fun _ w₃ ⟨named, _⟩ => ?_
  refine (lift_yields _).bind fun protocol w₄ _ => ?_
  refine readU8_yields.bind fun connect_flags w₅ five => ?_
  refine readU16_yields.bind fun keep_alive w₆ six => ?_
  refine readMqttString_yields.bind fun client_id w₇ ⟨seven, short⟩ => ?_
  refine (LastWill.read_yields _).bind fun last_will w₈ ⟨eight, wills⟩ => ?_
  refine (Login.read_yields _).bind fun login w₉ ⟨nine, logins⟩ => .pure ⟨?_, short, wills, logins⟩
  obtain rfl : name = "MQTT" := not_not.1 named
  have four : (utf8 "MQTT").length = 4 := by decide +kernel
  simp only [Connect.len, List.length_append, List.length_nil]
  omega

theorem readIdentifier_yields (qos : QoS) :
    Yields (readIdentifier qos) fun pkid w =>
      (if qos ≠ .atMostOnce ∧ pkid ≠ 0 then 2 else 0) ≤ w.length ∧
        (qos = .atMostOnce ↔ pkid = 0) := by
  unfold readIdentifier
  split
  · rename_i once
    exact .pure ⟨by rw [if_neg fun both => both.1 once]; exact Nat.zero_le _, by
      rw [once]
      exact ⟨fun _ => rfl, fun _ => rfl⟩⟩
  · rename_i once
    refine readU16_yields.bind fun pkid w two => refuseIf_yields.bind fun _ v ⟨assigned, _⟩ =>
      .pure ?_
    refine ⟨?_, fun same => absurd same once, fun zero => absurd zero assigned⟩
    rw [List.length_append, two]
    split <;> omega

theorem Publish.read_yields (byte1 : UInt8) :
    Yields (Publish.read byte1) fun p w => p.len ≤ w.length ∧ p.WellFormed := by
  refine (lift_yields _).bind fun qos w₁ _ => ?_
  refine readMqttString_yields.bind fun topic w₂ ⟨two, short⟩ => ?_
  refine (readIdentifier_yields _).bind fun pkid w₃ ⟨three, assigned⟩ => ?_
  intro b p rest ran
  obtain ⟨payload, mid, took, done⟩ := bind_ok.1 ran
  cases took
  cases done
  refine ⟨b, (List.append_nil b).symm, ?_, short, assigned⟩
  simp only [Publish.len, List.length_append]
  split at three
  · rename_i both
    rw [if_pos both]
    omega
  · rename_i both
    rw [if_neg both]
    omega

theorem SubscribeFilter.read_yields :
    Yields SubscribeFilter.read fun f w => f.len ≤ w.length ∧ Short (utf8 f.path) := by
  refine readMqttString_yields.bind fun path w ⟨one, short⟩ => ?_
  refine readU8_yields.bind fun options v two => ?_
  refine (lift_yields _).bind fun qos u _ => .pure ⟨?_, short⟩
  simp only [SubscribeFilter.len, List.length_append]
  omega

theorem Subscribe.read_yields : Yields Subscribe.read fun s w =>
    s.len ≤ w.length ∧ s.filters ≠ [] ∧ ∀ f ∈ s.filters, Short (utf8 f.path) := by
  refine readU16_yields.bind fun pkid w two => ?_
  refine (many_yields SubscribeFilter.read_yields).bind fun filters v ⟨total, short⟩ => ?_
  refine refuseIf_yields.bind fun _ u ⟨full, _⟩ => .pure ⟨?_, full, short⟩
  simp only [Subscribe.len, List.length_append]
  omega

theorem SubscribeReasonCode.read_yields :
    Yields SubscribeReasonCode.read fun _ w => 1 ≤ w.length := by
  refine readU8_yields.bind fun code w one => (lift_yields _).mono fun _ v _ => ?_
  rw [List.length_append, one]
  omega

theorem SubAck.read_yields :
    Yields SubAck.read fun s w => s.len ≤ w.length ∧ s.return_codes ≠ [] := by
  have codes : Yields (many SubscribeReasonCode.read) fun codes w => codes.length ≤ w.length := by
    have one : Yields SubscribeReasonCode.read fun _ w => 1 ≤ w.length ∧ True :=
      SubscribeReasonCode.read_yields.mono fun _ _ one => ⟨one, trivial⟩
    refine (many_yields one).mono ?_
    rintro codes w ⟨total, -⟩
    rwa [List.map_const', List.sum_replicate_nat, Nat.mul_one] at total
  refine readU16_yields.bind fun pkid w two => ?_
  intro b s rest ran
  obtain ⟨remaining, _, looked, checked⟩ := bind_ok.1 ran
  cases looked
  obtain ⟨_, mid, passed, reading⟩ := bind_ok.1 checked
  obtain ⟨_, rfl, full, rfl⟩ := refuseIf_yields _ _ _ passed
  obtain ⟨read, _, took, done⟩ := bind_ok.1 reading
  cases done
  obtain ⟨v, rfl, total⟩ := codes _ _ _ took
  refine ⟨v, rfl, ?_, many_ne_nil took (by simpa using full)⟩
  rw [List.length_append, two]
  exact Nat.add_le_add_left total 2

theorem Unsubscribe.read_yields : Yields Unsubscribe.read fun u w =>
    u.len ≤ w.length ∧ ∀ t ∈ u.topics, Short (utf8 t) := by
  have topic : Yields readMqttString fun t w => (utf8 t).length + 2 ≤ w.length ∧ Short (utf8 t) :=
    readMqttString_yields.mono fun t w ⟨counted, short⟩ => ⟨by omega, short⟩
  refine readU16_yields.bind fun pkid w two => ?_
  refine (many_yields topic).bind fun topics v ⟨total, short⟩ => .pure ⟨?_, short⟩
  simp only [Unsubscribe.len, List.length_append, List.length_nil]
  omega

/-- **A body that is read is that of a sound packet**, no longer than the frame. -/
theorem Packet.readBody_yields (h : FixedHeader) (packet_type : PacketType) :
    Yields (Packet.readBody h packet_type) fun p w => p.len ≤ w.length ∧ p.Sound := by
  have mapped : ∀ {α : Type} {r : Read α} {P : α → Bytes → Prop} (f : α → Packet), Yields r P →
      (∀ a w, P a w → (f a).len ≤ w.length ∧ (f a).Sound) →
      Yields (f <$> r) fun p w => p.len ≤ w.length ∧ p.Sound := by
    intro α r P f yields each
    rw [← bind_pure_comp]
    refine yields.bind fun a w held => .pure ?_
    rw [List.append_nil]
    exact each a w held
  have pkid : ∀ (f : UInt16 → Packet), (∀ n, (f n).len = 2 ∧ (f n).Sound) →
      Yields (f <$> readU16) fun p w => p.len ≤ w.length ∧ p.Sound := fun f each =>
    mapped f readU16_yields fun n w two => ⟨by rw [(each n).1, two], (each n).2⟩
  cases packet_type with
  | connect => exact mapped _ Connect.read_yields fun _ _ held => held
  | connAck =>
      have ack : Yields ConnAck.read fun _ w => 2 ≤ w.length := by
        refine readU8_yields.bind fun flags w one => readU8_yields.bind fun code v two => ?_
        refine (lift_yields _).bind fun _ u _ => .pure ?_
        simp only [List.length_append]
        omega
      exact mapped _ ack fun _ _ held => ⟨held, trivial⟩
  | publish => exact mapped _ (Publish.read_yields _) fun _ _ held => held
  | pubAck => exact pkid _ fun _ => ⟨rfl, trivial⟩
  | pubRec => exact pkid _ fun _ => ⟨rfl, trivial⟩
  | pubRel => exact pkid _ fun _ => ⟨rfl, trivial⟩
  | pubComp => exact pkid _ fun _ => ⟨rfl, trivial⟩
  | subscribe => exact mapped _ Subscribe.read_yields fun _ _ held => held
  | subAck => exact mapped _ SubAck.read_yields fun _ _ held => held
  | unsubscribe => exact mapped _ Unsubscribe.read_yields fun _ _ held => held
  | unsubAck =>
      have ack : Yields (readUnsubAck h) fun _ w => w.length = 2 := by
        refine refuseIf_yields.bind fun _ w ⟨_, nothing⟩ => ?_
        rw [nothing]
        exact readU16_yields
      exact mapped _ ack fun _ _ two => ⟨by rw [two]; exact Nat.le_refl _, trivial⟩
  | pingReq => exact .pure ⟨Nat.le_refl _, trivial⟩
  | pingResp => exact .pure ⟨Nat.le_refl _, trivial⟩
  | disconnect => exact .pure ⟨Nat.le_refl _, trivial⟩

end InverterGateway.Rumqttc.Wire
