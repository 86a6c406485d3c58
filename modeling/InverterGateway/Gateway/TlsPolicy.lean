/-
# Gateway.TlsPolicy — which certificates are strong enough

`strongCertificate` looks at the key of one parsed certificate and
`strongPemChain` at every certificate of a PEM input.  Parsing is a parameter:
`X509` says what the parser returns, and an RSA key is its modulus and exponent
bytes.  `strongCertificate_rsa` reads the verdict off the modulus as a number,
so neither leading zeros nor a missing bit of the top byte can change it.
-/
import InverterGateway.Theory.Bytes

namespace InverterGateway.Gateway

open InverterGateway.Theory

set_option autoImplicit false

/-! ## Certificates -/

abbrev Der := List UInt8

/-- The keys that the parser tells apart. -/
inductive PublicKey where
  | rsa (modulus exponent : List UInt8)
  | ec
  | unknown
  | other
  deriving DecidableEq

/-- The parts of a subject public key that the policy reads. -/
structure Spki where
  /-- `spki.algorithm.algorithm`, in dotted form. -/
  algorithm : String
  /-- `spki.algorithm.parameters`, when it is an object identifier. -/
  parameters : Option String
  /-- `spki.subject_public_key.data`. -/
  data : List UInt8
  /-- `spki.parsed()`. -/
  parsed : Option PublicKey
  deriving DecidableEq

/-- The certificate parser: what is left of the input and the public key. -/
structure X509 where
  fromDer : Der → Option (Der × Spki)
  /-- `RSAPublicKey::try_exponent`. -/
  tryExponent : List UInt8 → Option UInt64

/-- The parser reads an exponent as a big-endian number. -/
def X509.ReadsExponents (x509 : X509) : Prop :=
  ∀ exponent e, x509.tryExponent exponent = some e → e.toNat = Bytes.ofBE exponent

/-! ## The policy -/

/-- `invalid`. -/
def invalid : String :=
  "TLS certificate requires RSA >=2048 bits, P-256/P-384/P-521, or Ed25519"

/-- The named curves that are accepted. -/
def strongCurves : List String := ["1.2.840.10045.3.1.7", "1.3.132.0.34", "1.3.132.0.35"]

def ed25519 : String := "1.3.101.112"

/-- The verdict on one key. -/
def strongKey (x509 : X509) (spki : Spki) : PublicKey → Bool
  | .rsa modulus exponent =>
      decide (2048 ≤ Bytes.bitLength modulus) &&
        match x509.tryExponent exponent with
        | some e => decide (3 ≤ e.toNat) && decide (e.toNat % 2 = 1)
        | none => false
  | .ec =>
      match spki.parameters with
      | some oid => oid ∈ strongCurves
      | none => false
  | .unknown => spki.algorithm = ed25519 && spki.data.length = 32
  | .other => false

/-- `strong_certificate`. -/
def strongCertificate (x509 : X509) (der : Der) : Except String Unit :=
  if 65536 < der.length then .error invalid
  else
    match x509.fromDer der with
    | none => .error invalid
    | some (remaining, spki) =>
        if !remaining.isEmpty then .error invalid
        else
          match spki.parsed with
          | none => .error invalid
          | some key => if strongKey x509 spki key then .ok () else .error invalid

/-- The loop of `strong_pem_chain`, after `count` certificates. -/
def strongPemChainFrom (x509 : X509) (count : Nat) : List (Option Der) → Except String Nat
  | [] => .ok count
  | certificate :: rest =>
      if 16 < count + 1 then .error invalid
      else
        match certificate with
        | none => .error invalid
        | some der =>
            match strongCertificate x509 der with
            | .error error => .error error
            | .ok () => strongPemChainFrom x509 (count + 1) rest

/-- `strong_pem_chain`, over the certificates that the PEM reader yields. -/
def strongPemChain (x509 : X509) (pem : List (Option Der)) : Except String Unit :=
  match strongPemChainFrom x509 0 pem with
  | .error error => .error error
  | .ok count => if count = 0 then .error invalid else .ok ()

/-- `StrongServerVerifier::verify_server_cert`, after the ordinary verifier's answer. -/
def verifyServerCert {V : Type} (x509 : X509) (verified : Except String V) (endEntity : Der)
    (intermediates : List Der) : Except String V := do
  let verified ← verified
  if 15 < intermediates.length then throw invalid
  strongCertificate x509 endEntity
  intermediates.forM (strongCertificate x509)
  pure verified

/-! ## Verdicts -/

/-- A certificate that parses completely, with its public key. -/
structure X509.WellFormed (x509 : X509) (der : Der) (spki : Spki) (key : PublicKey) : Prop where
  bounded : der.length ≤ 65536
  parses : x509.fromDer der = some ([], spki)
  parsed : spki.parsed = some key

theorem strongCertificate_wellFormed {x509 : X509} {der : Der} {spki : Spki} {key : PublicKey}
    (formed : x509.WellFormed der spki key) :
    strongCertificate x509 der = .ok () ↔ strongKey x509 spki key = true := by
  have bounded : ¬ 65536 < der.length := Nat.not_lt.2 formed.bounded
  simp only [strongCertificate, if_neg bounded, formed.parses, formed.parsed, List.isEmpty_nil,
    Bool.not_true, Bool.false_eq_true, if_false]
  split
  · rename_i strong
    exact ⟨fun _ => strong, fun _ => rfl⟩
  · rename_i weak
    exact ⟨fun same => (by cases same), fun strong => absurd strong weak⟩

/-- What the policy asks of an RSA key.  `fits` means that `try_exponent` of the parser
succeeds: the exponent fits its integer type. -/
structure StrongRsa (x509 : X509) (modulus exponent : List UInt8) : Prop where
  modulus : 2 ^ 2047 ≤ Bytes.ofBE modulus
  fits : (x509.tryExponent exponent).isSome = true
  odd : Bytes.ofBE exponent % 2 = 1
  large : 3 ≤ Bytes.ofBE exponent

theorem strongKey_rsa {x509 : X509} (reads : x509.ReadsExponents) (spki : Spki)
    (modulus exponent : List UInt8) :
    strongKey x509 spki (.rsa modulus exponent) = true ↔ StrongRsa x509 modulus exponent := by
  have bits : decide (2048 ≤ Bytes.bitLength modulus) = true ↔ 2 ^ 2047 ≤ Bytes.ofBE modulus := by
    have next : 2048 ≤ Bytes.bitLength modulus ↔ 2047 < Bytes.bitLength modulus := Nat.succ_le_iff
    rw [decide_eq_true_eq, next, Bytes.lt_bitLength_iff]
  simp only [strongKey, Bool.and_eq_true, bits]
  cases found : x509.tryExponent exponent with
  | none =>
      refine ⟨fun both => (by cases both.2), fun strong => ?_⟩
      have fits := strong.fits
      rw [found] at fits
      cases fits
  | some e =>
      have value := reads exponent e found
      simp only [Bool.and_eq_true, decide_eq_true_eq, value]
      constructor
      · rintro ⟨modulus, large, odd⟩
        exact ⟨modulus, by rw [found]; rfl, odd, large⟩
      · intro strong
        exact ⟨strong.modulus, strong.large, strong.odd⟩

/-- The loop accepts a rest that stays within sixteen certificates, all strong. -/
theorem strongPemChainFrom_eq_ok (x509 : X509) (pem : List (Option Der)) (count total : Nat)
    (within : count ≤ 16) :
    strongPemChainFrom x509 count pem = .ok total ↔ total = count + pem.length ∧ total ≤ 16 ∧
      ∀ certificate ∈ pem, ∃ der, certificate = some der ∧ strongCertificate x509 der = .ok () := by
  induction pem generalizing count with
  | nil =>
      simp only [strongPemChainFrom, Except.ok.injEq, List.length_nil, Nat.add_zero,
        List.not_mem_nil, false_implies, implies_true, and_true]
      constructor
      · rintro rfl
        exact ⟨rfl, within⟩
      · exact fun both => both.1.symm
  | cons certificate rest ih =>
      by_cases full : 16 < count + 1
      · simp only [strongPemChainFrom, if_pos full]
        refine ⟨fun same => (by cases same), fun accepted => ?_⟩
        obtain ⟨same, bound, -⟩ := accepted
        rw [List.length_cons] at same
        omega
      · cases certificate with
        | none =>
            simp only [strongPemChainFrom, if_neg full]
            refine ⟨fun same => (by cases same), fun accepted => ?_⟩
            obtain ⟨der, same, -⟩ := accepted.2.2 none (List.mem_cons_self ..)
            cases same
        | some der =>
            cases verdict : strongCertificate x509 der with
            | error error =>
                simp only [strongPemChainFrom, if_neg full, verdict]
                refine ⟨fun same => (by cases same), fun accepted => ?_⟩
                obtain ⟨other, same, strong⟩ := accepted.2.2 (some der) (List.mem_cons_self ..)
                cases same
                rw [verdict] at strong
                cases strong
            | ok done =>
                simp only [strongPemChainFrom, if_neg full, verdict]
                rw [ih (count + 1) (Nat.le_of_not_lt full), List.length_cons, List.forall_mem_cons]
                constructor
                · rintro ⟨same, bound, strong⟩
                  exact ⟨by omega, bound, ⟨der, rfl, verdict⟩, strong⟩
                · rintro ⟨same, bound, -, strong⟩
                  exact ⟨by omega, bound, strong⟩

theorem strongPemChain_eq_ok (x509 : X509) (pem : List (Option Der)) :
    strongPemChain x509 pem = .ok () ↔ 1 ≤ pem.length ∧ pem.length ≤ 16 ∧
      ∀ certificate ∈ pem, ∃ der, certificate = some der ∧ strongCertificate x509 der = .ok () := by
  have loop := strongPemChainFrom_eq_ok x509 pem 0
  unfold strongPemChain
  cases run : strongPemChainFrom x509 0 pem with
  | error error =>
      refine ⟨fun same => (by cases same), fun accepted => ?_⟩
      have ok := (loop pem.length (Nat.zero_le _)).2 ⟨(Nat.zero_add _).symm, accepted.2.1, accepted.2.2⟩
      rw [run] at ok
      cases ok
  | ok count =>
      obtain ⟨same, bound, strong⟩ := (loop count (Nat.zero_le _)).1 run
      have same : count = pem.length := same.trans (Nat.zero_add _)
      subst same
      dsimp only
      by_cases empty : pem.length = 0
      · rw [if_pos empty]
        exact ⟨fun same => (by cases same), fun accepted => by omega⟩
      · rw [if_neg empty]
        exact ⟨fun _ => ⟨Nat.pos_of_ne_zero empty, bound, strong⟩, fun _ => rfl⟩

theorem forM_eq_ok (x509 : X509) (certificates : List Der) :
    certificates.forM (strongCertificate x509) = .ok () ↔
      ∀ der ∈ certificates, strongCertificate x509 der = .ok () := by
  induction certificates with
  | nil => exact ⟨fun _ _ found => absurd found List.not_mem_nil, fun _ => rfl⟩
  | cons der rest ih =>
      show (strongCertificate x509 der >>= fun _ => rest.forM (strongCertificate x509)) = .ok () ↔ _
      rw [List.forall_mem_cons, ← ih]
      cases strongCertificate x509 der with
      | error error => exact ⟨fun same => (by cases same), fun both => (by cases both.1)⟩
      | ok done => exact ⟨fun same => ⟨rfl, same⟩, And.right⟩

/-- The verifier passes on the ordinary verdict, for short chains of strong certificates. -/
theorem verifyServerCert_eq_ok {V : Type} (x509 : X509) (verified : Except String V) (v : V)
    (endEntity : Der) (intermediates : List Der) :
    verifyServerCert x509 verified endEntity intermediates = .ok v ↔ verified = .ok v ∧
      intermediates.length ≤ 15 ∧ ∀ der ∈ endEntity :: intermediates, strongCertificate x509 der = .ok () := by
  rw [List.forall_mem_cons, ← forM_eq_ok]
  unfold verifyServerCert
  cases verified with
  | error error => exact ⟨fun same => (by cases same), fun all => (by cases all.1)⟩
  | ok value =>
      by_cases long : 15 < intermediates.length
      · simp only [if_pos long]
        exact ⟨fun same => (by cases same), fun all => absurd all.2.1 (Nat.not_le.2 long)⟩
      · simp only [if_neg long]
        cases strongCertificate x509 endEntity with
        | error error => exact ⟨fun same => (by cases same), fun all => (by cases all.2.2.1)⟩
        | ok done =>
            cases intermediates.forM (strongCertificate x509) with
            | error error => exact ⟨fun same => (by cases same), fun all => (by cases all.2.2.2)⟩
            | ok others => exact ⟨fun same => ⟨same, Nat.le_of_not_lt long, rfl, rfl⟩, And.left⟩

/-- **Exact certificate strength.**  An RSA certificate is accepted exactly when
its modulus is at least `2 ^ 2047` and its exponent is odd and at least three,
however many zero bytes lead the modulus; and a PEM input exactly when it has
one to sixteen certificates that all parse and are strong. -/
theorem certificate_strength (x509 : X509) (reads : x509.ReadsExponents) :
    (∀ der spki modulus exponent, x509.WellFormed der spki (.rsa modulus exponent) →
      (strongCertificate x509 der = .ok () ↔ StrongRsa x509 modulus exponent) ∧
      (∀ der' spki' zeros, x509.WellFormed der' spki' (.rsa (List.replicate zeros 0 ++ modulus) exponent) →
        (strongCertificate x509 der' = .ok () ↔ strongCertificate x509 der = .ok ())) ∧
      (Bytes.ofBE modulus < 2 ^ 2047 → strongCertificate x509 der ≠ .ok ())) ∧
    ∀ pem, strongPemChain x509 pem = .ok () ↔ 1 ≤ pem.length ∧ pem.length ≤ 16 ∧
      ∀ certificate ∈ pem, ∃ der, certificate = some der ∧ strongCertificate x509 der = .ok () := by
  have verdict : ∀ {der spki modulus exponent}, x509.WellFormed der spki (.rsa modulus exponent) →
      (strongCertificate x509 der = .ok () ↔ StrongRsa x509 modulus exponent) :=
    fun formed => (strongCertificate_wellFormed formed).trans (strongKey_rsa reads _ _ _)
  refine ⟨fun der spki modulus exponent formed => ⟨verdict formed, ?_, ?_⟩, strongPemChain_eq_ok x509⟩
  · intro der' spki' zeros padded
    have same := Bytes.ofBE_replicate_append zeros modulus
    rw [verdict padded, verdict formed]
    constructor
    · intro strong
      exact ⟨same ▸ strong.modulus, strong.fits, strong.odd, strong.large⟩
    · intro strong
      exact ⟨same.symm ▸ strong.modulus, strong.fits, strong.odd, strong.large⟩
  · intro short accepted
    exact absurd ((verdict formed).1 accepted).modulus (Nat.not_le.2 short)

/-- A version 1 certificate up to the modulus of its 2048-bit key. -/
def certificateHead : Der :=
  [0x30, 0x82, 0x01, 0x73, 0x30, 0x82, 0x01, 0x5c, 0x02, 0x01, 0x01,
    0x30, 0x0d, 0x06, 0x09, 0x2a, 0x86, 0x48, 0x86, 0xf7, 0x0d, 0x01, 0x01, 0x0b, 0x05, 0x00,
    0x30, 0x00, 0x30, 0x1e, 0x17, 0x0d, 0x32, 0x36, 0x30, 0x31, 0x30, 0x31, 0x30, 0x30, 0x30, 0x30,
    0x30, 0x30, 0x5a, 0x17, 0x0d, 0x33, 0x36, 0x30, 0x31, 0x30, 0x31, 0x30, 0x30, 0x30, 0x30, 0x30,
    0x30, 0x5a, 0x30, 0x00, 0x30, 0x82, 0x01, 0x22, 0x30, 0x0d, 0x06, 0x09, 0x2a, 0x86, 0x48, 0x86,
    0xf7, 0x0d, 0x01, 0x01, 0x01, 0x05, 0x00, 0x03, 0x82, 0x01, 0x0f, 0x00, 0x30, 0x82, 0x01, 0x0a,
    0x02, 0x82, 0x01, 0x01]

/-- The exponent 65537 and an empty signature. -/
def certificateTail : Der :=
  [0x02, 0x03, 0x01, 0x00, 0x01, 0x30, 0x0d, 0x06, 0x09, 0x2a, 0x86, 0x48, 0x86, 0xf7, 0x0d, 0x01,
    0x01, 0x0b, 0x05, 0x00, 0x03, 0x02, 0x00, 0x00]

/-- The key of a certificate of this shape. -/
def shapedSpki (der : Der) : Spki where
  algorithm := "1.2.840.113549.1.1.1"
  parameters := none
  data := (der.drop 86).take 270
  parsed := some (.rsa ((der.drop 94).take 257) [0x01, 0x00, 0x01])

/-- The parser on certificates of this shape. -/
def shapedX509 : X509 where
  fromDer der :=
    if certificateHead.isPrefixOf der && der.length = 375 then some ([], shapedSpki der) else none
  tryExponent exponent :=
    if exponent.isEmpty || 8 < exponent.length then none
    else some (UInt64.ofNat (Bytes.ofBE exponent))

/-- The smallest odd modulus that passes, with its leading zero byte. -/
def smallestModulus : List UInt8 := [0x00, 0x80] ++ List.replicate 254 0 ++ [0x01]

theorem certificate_strength_smallest :
    strongCertificate shapedX509 (certificateHead ++ smallestModulus ++ certificateTail) = .ok () := by
  have reads : shapedX509.ReadsExponents := by
    intro exponent e found
    simp only [shapedX509] at found
    split at found
    · cases found
    · rename_i short
      simp only [Bool.or_eq_true, decide_eq_true_eq, not_or, Nat.not_lt] at short
      obtain rfl := Option.some.inj found
      have below := Bytes.ofBE_lt exponent
      have most : 2 ^ (8 * exponent.length) ≤ 2 ^ 64 := Nat.pow_le_pow_right (by decide) (by omega)
      exact UInt64.toNat_ofNat_of_lt' (Nat.lt_of_lt_of_le below most)
  have formed : shapedX509.WellFormed (certificateHead ++ smallestModulus ++ certificateTail)
      (shapedSpki (certificateHead ++ smallestModulus ++ certificateTail))
      (.rsa smallestModulus [0x01, 0x00, 0x01]) :=
    ⟨by decide +kernel, by decide +kernel, by decide +kernel⟩
  obtain ⟨verdict, -⟩ := (certificate_strength shapedX509 reads).1 _ _ _ _ formed
  refine verdict.2 ⟨?_, by decide, by decide, by decide⟩
  decide +kernel

end InverterGateway.Gateway
