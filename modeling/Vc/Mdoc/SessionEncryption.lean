import Vc.Sdjwtvc.Token

/-!
# Encryption of an mdoc session

`SessionEncryption` of the device and of the reader.  Each side counts what it encrypts and
what it decrypts in 32 bits.  Messages that are delivered in order are decrypted to what was
encrypted, however often the counters wrap around; a key meets no nonce twice exactly as long
as its owner has sent at most `2 ^ 32` messages.  A ciphertext that is rejected is counted too, and
the sides are out of step after it.

The two sides share no state, so an interleaving of their calls is given by the calls of each
side, in their order, and by which ciphertexts reach the other side.
-/

namespace Vc.Mdoc.Session

open Sdjwtvc List UInt8

/-! ## Key derivation

`hkdfDerive` and `hmacSHA256` beside HKDF of RFC 5869 and HMAC of RFC 2104, for any hash function
with sums of 32 bytes. -/

section Derivation

variable (sum256 : Bytes → { sum : Bytes // sum.length = 32 })

/-- The loop that fills `ipad` or `opad`. -/
def padWith (byte : UInt8) (key : Bytes) : Bytes :=
  (range 64).map fun i => key.getD i 0 ^^^ byte

def hmacSHA256 (key data : Bytes) : Bytes :=
  let key := if 64 < key.length then (sum256 key).1 else key
  let key := if key.length < 64 then key.rightpad 64 0 else key
  let innerHash := (sum256 (padWith 0x36 key ++ data)).1
  (sum256 (padWith 0x5c key ++ innerHash)).1

/-- One turn of the loop over `prev` and `okm`. -/
def expandRound (prk info : Bytes) (state : Bytes × Bytes) (i : Nat) : Bytes × Bytes :=
  let prev := hmacSHA256 sum256 prk (state.1 ++ info ++ [ofNat i])
  (prev, state.2 ++ prev)

/-- `hkdfDerive`; `none` where the last slice would be out of range. -/
def hkdfDerive (secret salt info : Bytes) (length : Nat) : Option Bytes :=
  let prk := hmacSHA256 sum256 salt secret
  let n := (length + 32 - 1) / 32
  let okm := ((range' 1 n).foldl (expandRound sum256 prk info) ([], [])).2
  if length ≤ okm.length then some (okm.take length) else none

/-- HMAC of RFC 2104, for blocks of 64 bytes. -/
def hmac (key text : Bytes) : Bytes :=
  let block := (if 64 < key.length then (sum256 key).1 else key).rightpad 64 0
  let xor (byte : UInt8) := block.map (· ^^^ byte)
  (sum256 (xor 0x5c ++ (sum256 (xor 0x36 ++ text)).1)).1

/-- The blocks `T(i)` of RFC 5869. -/
def hkdfBlock (prk info : Bytes) : Nat → Bytes
  | 0 => []
  | i + 1 => hmac sum256 prk (hkdfBlock prk info i ++ info ++ [ofNat (i + 1)])

/-- HKDF of RFC 5869: the first bytes of `T(1)`, `T(2)` and so on. -/
def hkdf (secret salt info : Bytes) (length : Nat) : Bytes :=
  let blocks := (range' 1 (length ⌈/⌉ 32)).map (hkdfBlock sum256 (hmac sum256 salt secret) info)
  blocks.flatten.take length

theorem padWith_eq {key : Bytes} (full : key.length = 64) (byte : UInt8) :
    padWith byte key = key.map (· ^^^ byte) := by
  refine ext_getElem (by simp [padWith, full]) fun i inside _ => ?_
  have within : i < key.length := by simpa [padWith, full] using inside
  simp [padWith, within]

theorem padded_eq (key : Bytes) :
    (if key.length < 64 then key.rightpad 64 0 else key) = key.rightpad 64 0 := by
  split_ifs with short
  · rfl
  · simp [rightpad, Nat.sub_eq_zero_of_le (not_lt.mp short)]

/-- A key of any length becomes the block that the standard asks for. -/
theorem hmacSHA256_eq (key data : Bytes) : hmacSHA256 sum256 key data = hmac sum256 key data := by
  have short : (if 64 < key.length then (sum256 key).1 else key).length ≤ 64 := by
    split_ifs with long
    · rw [(sum256 key).2]
      decide
    · exact not_lt.mp long
  have full := (length_rightpad (n := 64) (a := 0)).trans (max_eq_left short)
  simp only [hmacSHA256, hmac, padded_eq, padWith_eq full]

/-- After any number of turns `prev` is the last block, and `okm` has all blocks. -/
theorem foldl_expandRound (prk info : Bytes) (n : Nat) :
    (range' 1 n).foldl (expandRound sum256 prk info) ([], []) =
      (hkdfBlock sum256 prk info n, ((range' 1 n).map (hkdfBlock sum256 prk info)).flatten) := by
  induction n with
  | zero => rfl
  | succ n ih =>
    rw [range'_1_concat, foldl_concat, ih, map_append, flatten_append]
    simp [expandRound, hmacSHA256_eq, hkdfBlock, Nat.add_comm]

theorem length_blocks (prk info : Bytes) (n : Nat) :
    ((range' 1 n).map (hkdfBlock sum256 prk info)).flatten.length = 32 * n := by
  induction n with
  | zero => rfl
  | succ n ih =>
    have last : (hkdfBlock sum256 prk info (n + 1)).length = 32 := (sum256 _).2
    simp [range'_1_concat, ih, Nat.add_comm 1 n, last, mul_add]

/-- The hand-written derivation is HKDF with HMAC, for every length that HKDF has. -/
theorem hkdfDerive_eq (secret salt info : Bytes) (length : Fin 8161) :
    hkdfDerive sum256 secret salt info length = some (hkdf sum256 secret salt info length) ∧
      ∀ key data, hmacSHA256 sum256 key data = hmac sum256 key data := by
  refine ⟨?_, hmacSHA256_eq sum256⟩
  have enough : length.val ≤ 32 * ((length.val + 32 - 1) / 32) := by omega
  simp only [hkdfDerive, hkdf, hmacSHA256_eq, foldl_expandRound, length_blocks, if_pos enough]
  rfl

/-- One block is enough for a key. -/
theorem hkdfDerive_key (secret salt info : Bytes) :
    hkdfDerive sum256 secret salt info 32 =
      some (hmacSHA256 sum256 (hmacSHA256 sum256 salt secret) (info ++ [1])) := by
  have length : (hmacSHA256 sum256 (hmacSHA256 sum256 salt secret) (info ++ [1])).length = 32 :=
    (sum256 _).2
  simp [hkdfDerive, expandRound, length, take_of_length_le]

end Derivation

/-! ## Sessions -/

/-- Key agreement, the hash and the cipher. -/
structure Primitives (Private Public : Type) where
  publicKey : Private → Public
  ecdhSharedSecret : Private → Public → Bytes
  sum256 : Bytes → { sum : Bytes // sum.length = 32 }
  aes256GCMEncrypt : Bytes → Bytes → Bytes → Bytes
  aes256GCMDecrypt : Bytes → Bytes → Bytes → Except String Bytes

/-- The key for a label. -/
def Primitives.derive {Private Public : Type} (prims : Primitives Private Public)
    (secret salt : Bytes) (label : String) : Bytes :=
  (hkdfDerive prims.sum256 secret salt (bytes label) 32).getD []

/-- What is known of them. -/
structure Primitives.Lawful {Private Public : Type} (prims : Primitives Private Public) : Prop where
  agreement : ∀ first second, prims.ecdhSharedSecret first (prims.publicKey second) =
    prims.ecdhSharedSecret second (prims.publicKey first)
  opens : ∀ key nonce plaintext, key.length = 32 → nonce.length = 12 →
    prims.aes256GCMDecrypt key nonce (prims.aes256GCMEncrypt key nonce plaintext) = .ok plaintext
  separated : ∀ secret salt,
    prims.derive secret salt "SKReader" ≠ prims.derive secret salt "SKDevice"

structure SessionEncryption where
  skReader : Bytes
  skDevice : Bytes
  readerNonce : UInt32
  deviceNonce : UInt32
  isReader : Bool

def nonceBytes (nonce : UInt32) : Bytes :=
  replicate 8 0 ++ [ofNat (nonce.toNat / 2 ^ 24), ofNat (nonce.toNat / 2 ^ 16),
    ofNat (nonce.toNat / 2 ^ 8), ofNat nonce.toNat]

namespace SessionEncryption

variable (session : SessionEncryption)

/-- The key of one of the sides. -/
def key (ofReader : Bool) : Bytes :=
  if ofReader then session.skReader else session.skDevice

/-- The counter for the messages of one of the sides. -/
def nonce (ofReader : Bool) : UInt32 :=
  if ofReader then session.readerNonce else session.deviceNonce

/-- The counter for the messages of one of the sides is increased. -/
def advance (ofReader : Bool) : SessionEncryption :=
  if ofReader then { session with readerNonce := session.readerNonce + 1 }
  else { session with deviceNonce := session.deviceNonce + 1 }

end SessionEncryption

section Calls

variable {Private Public : Type} (prims : Primitives Private Public)

def newSessionEncryption (own : Private) (peer : Public) (sessionTranscript : Bytes)
    (isReader : Bool) : SessionEncryption :=
  let sharedSecret := prims.ecdhSharedSecret own peer
  { skReader := prims.derive sharedSecret sessionTranscript "SKReader"
    skDevice := prims.derive sharedSecret sessionTranscript "SKDevice"
    readerNonce := 1
    deviceNonce := 1
    isReader }

/-- `Encrypt`: the ciphertext, and the session afterwards. -/
def encrypt (session : SessionEncryption) (plaintext : Bytes) : Bytes × SessionEncryption :=
  (prims.aes256GCMEncrypt (session.key session.isReader)
      (nonceBytes (session.nonce session.isReader)) plaintext,
    session.advance session.isReader)

/-- `Decrypt`, with the key and the counter of the other side. -/
def decrypt (session : SessionEncryption) (ciphertext : Bytes) :
    Except String Bytes × SessionEncryption :=
  (prims.aes256GCMDecrypt (session.key !session.isReader)
      (nonceBytes (session.nonce !session.isReader)) ciphertext,
    session.advance !session.isReader)

/-! ## The calls of a side -/

/-- A call on a session. -/
inductive Call where
  | encrypt (plaintext : Bytes)
  | decrypt (ciphertext : Bytes)

/-- The plaintexts that are encrypted. -/
def plaintexts : List Call → List Bytes
  | [] => []
  | .encrypt plaintext :: calls => plaintext :: plaintexts calls
  | .decrypt _ :: calls => plaintexts calls

def ciphertexts : List Call → List Bytes
  | [] => []
  | .encrypt _ :: calls => ciphertexts calls
  | .decrypt ciphertext :: calls => ciphertext :: ciphertexts calls

/-- What the calls of `Encrypt` return, with the key and the nonce that each of them uses. -/
def sent : SessionEncryption → List Call → List (Bytes × Bytes × Bytes)
  | _, [] => []
  | session, .encrypt plaintext :: calls =>
    let (ciphertext, next) := encrypt prims session plaintext
    (ciphertext, session.key session.isReader, nonceBytes (session.nonce session.isReader)) ::
      sent next calls
  | session, .decrypt ciphertext :: calls => sent (decrypt prims session ciphertext).2 calls

/-- What the calls of `Decrypt` return. -/
def opened : SessionEncryption → List Call → List (Except String Bytes)
  | _, [] => []
  | session, .encrypt plaintext :: calls => opened (encrypt prims session plaintext).2 calls
  | session, .decrypt ciphertext :: calls =>
    let (result, next) := decrypt prims session ciphertext
    result :: opened next calls

/-- The message of a side with a number, and the key and the nonce that it uses. -/
def message (key : Bytes) (start : UInt32) (plaintext : Bytes × Nat) : Bytes × Bytes × Bytes :=
  let nonce := nonceBytes (start + UInt32.ofNat plaintext.2)
  (prims.aes256GCMEncrypt key nonce plaintext.1, key, nonce)

variable {prims}

section

variable (session : SessionEncryption)

include session

@[simp]
theorem SessionEncryption.isReader_advance (who : Bool) :
    (session.advance who).isReader = session.isReader := by
  cases who <;> rfl

@[simp]
theorem SessionEncryption.key_advance (who other : Bool) :
    (session.advance who).key other = session.key other := by
  cases who <;> cases other <;> rfl

@[simp]
theorem SessionEncryption.nonce_advance (who other : Bool) :
    (session.advance who).nonce other = session.nonce other + if other = who then 1 else 0 := by
  cases who <;> cases other <;> simp [advance, nonce]

/-- The messages of a side are numbered by its own counter. -/
theorem sent_eq (calls : List Call) :
    sent prims session calls = (plaintexts calls).zipIdx.map
      (message prims (session.key session.isReader) (session.nonce session.isReader)) := by
  induction calls generalizing session with
  | nil => rfl
  | cons call calls ih =>
    cases call with
    | encrypt plaintext =>
      simp [sent, plaintexts, ih, encrypt, message, zipIdx_succ, Function.comp_def,
        UInt32.add_assoc, UInt32.add_comm 1]
    | decrypt ciphertext => simp [sent, plaintexts, ih, decrypt]

/-- What a side receives is opened with its counter for the other side. -/
theorem opened_eq (calls : List Call) :
    opened prims session calls = (ciphertexts calls).zipIdx.map fun (ciphertext, number) =>
      prims.aes256GCMDecrypt (session.key !session.isReader)
        (nonceBytes (session.nonce (!session.isReader) + UInt32.ofNat number)) ciphertext := by
  induction calls generalizing session with
  | nil => rfl
  | cons call calls ih =>
    cases call with
    | encrypt plaintext => simp [opened, ciphertexts, ih, encrypt]
    | decrypt ciphertext =>
      simp [opened, ciphertexts, ih, decrypt, zipIdx_succ, Function.comp_def,
        UInt32.add_assoc, UInt32.add_comm 1]

end

/-- What is delivered in order is decrypted to what was encrypted. -/
theorem opened_of_delivered (lawful : prims.Lawful) {sender receiver : SessionEncryption}
    (key : receiver.key (!receiver.isReader) = sender.key sender.isReader)
    (nonce : receiver.nonce (!receiver.isReader) = sender.nonce sender.isReader)
    (length : (sender.key sender.isReader).length = 32)
    {calls calls' : List Call}
    (delivered : ciphertexts calls' <+: (sent prims sender calls).map (·.1)) :
    opened prims receiver calls' <+: (plaintexts calls).map .ok := by
  rw [prefix_iff_eq_take] at delivered
  rw [opened_eq, delivered, sent_eq, key, nonce, prefix_iff_eq_take]
  apply ext_getElem
  · simp
  · intro index _ _
    simp [message, lawful.opens _ (nonceBytes _) _ length rfl]

/-! ## Nonces -/

theorem nonceBytes_inj {first second : UInt32} (same : nonceBytes first = nonceBytes second) :
    first = second := by
  simp only [nonceBytes, append_cancel_left_eq, cons.injEq, and_true] at same
  obtain ⟨one, two, three, four⟩ := same
  have bytes (a b : Nat) (equal : ofNat a = ofNat b) : a % 256 = b % 256 := by
    simpa using congrArg toNat equal
  have bound := first.toNat_lt
  have bound' := second.toNat_lt
  have := bytes _ _ one
  have := bytes _ _ two
  have := bytes _ _ three
  have := bytes _ _ four
  exact UInt32.toNat_inj.mp (by omega)

/-- Two numbers of calls bring a counter to the same nonce. -/
theorem nonceBytes_counter_iff (start : UInt32) (first second : Nat) :
    nonceBytes (start + UInt32.ofNat first) = nonceBytes (start + UInt32.ofNat second) ↔
      first % 2 ^ 32 = second % 2 ^ 32 := by
  constructor
  · intro equal
    simpa using congrArg UInt32.toNat (UInt32.add_right_inj _ |>.mp (nonceBytes_inj equal))
  · intro equal
    rw [show UInt32.ofNat first = UInt32.ofNat second from
      UInt32.toNat_inj.mp (by simpa using equal)]

/-- A counter meets no nonce twice exactly as long as it has not come around. -/
theorem nodup_sent_iff (session : SessionEncryption) (calls : List Call) :
    ((sent prims session calls).map (·.2)).Nodup ↔ (plaintexts calls).length ≤ 2 ^ 32 := by
  have used : (sent prims session calls).map (·.2) =
      (range (plaintexts calls).length).map fun number =>
        (session.key session.isReader,
          nonceBytes (session.nonce session.isReader + UInt32.ofNat number)) := by
    rw [sent_eq, map_map, range_eq_range', ← zipIdx_map_snd, map_map]
    rfl
  rw [used, nodup_map_iff_inj_on nodup_range]
  simp only [mem_range, Prod.mk.injEq, true_and, nonceBytes_counter_iff]
  constructor
  · intro injective
    by_contra _
    have := injective 0 (by omega) (2 ^ 32) (by omega) (by omega)
    omega
  · intro bound first firstBound second secondBound equal
    omega

section New

variable (own : Private) (peer : Public) (sessionTranscript : Bytes) (isReader who : Bool)

theorem key_new : (newSessionEncryption prims own peer sessionTranscript isReader).key who =
    prims.derive (prims.ecdhSharedSecret own peer) sessionTranscript
      (if who then "SKReader" else "SKDevice") := by
  cases who <;> simp [newSessionEncryption, SessionEncryption.key]

theorem nonce_new : (newSessionEncryption prims own peer sessionTranscript isReader).nonce who =
    1 := by
  cases who <;> simp [newSessionEncryption, SessionEncryption.nonce]

theorem length_key_new :
    ((newSessionEncryption prims own peer sessionTranscript isReader).key who).length = 32 := by
  rw [key_new, Primitives.derive, hkdfDerive_key]
  exact (prims.sum256 _).2

end New

/-- Both sides derive the same keys. -/
theorem key_newSessionEncryption (lawful : prims.Lawful) (own peer : Private)
    (sessionTranscript : Bytes) (isReader isReader' who : Bool) :
    (newSessionEncryption prims own (prims.publicKey peer) sessionTranscript isReader).key who =
      (newSessionEncryption prims peer (prims.publicKey own) sessionTranscript isReader').key
        who := by
  rw [key_new, key_new, lawful.agreement]

/-- `NewSessionEncryptionDevice` and `NewSessionEncryptionReader` with matching keys: in every
exchange that delivers in order each message is decrypted to what was encrypted, and no key meets
a nonce twice exactly if neither side encrypts more than `2 ^ 32` messages. -/
theorem session_encryption_iff (lawful : prims.Lawful) (device reader : Private)
    (sessionTranscript : Bytes) (deviceCalls readerCalls : List Call) :
    let eDevice :=
      newSessionEncryption prims device (prims.publicKey reader) sessionTranscript false
    let eReader :=
      newSessionEncryption prims reader (prims.publicKey device) sessionTranscript true
    ciphertexts readerCalls <+: (sent prims eDevice deviceCalls).map (·.1) →
    ciphertexts deviceCalls <+: (sent prims eReader readerCalls).map (·.1) →
    ((opened prims eReader readerCalls <+: (plaintexts deviceCalls).map .ok ∧
        opened prims eDevice deviceCalls <+: (plaintexts readerCalls).map .ok ∧
        ((sent prims eDevice deviceCalls ++ sent prims eReader readerCalls).map (·.2)).Nodup) ↔
      (plaintexts deviceCalls).length ≤ 2 ^ 32 ∧ (plaintexts readerCalls).length ≤ 2 ^ 32) := by
  intro eDevice eReader toReader toDevice
  have keys : ∀ who, eReader.key who = eDevice.key who :=
    key_newSessionEncryption lawful reader device sessionTranscript true false
  have disjoint : ∀ first ∈ (sent prims eDevice deviceCalls).map (·.2),
      ∀ second ∈ (sent prims eReader readerCalls).map (·.2), first ≠ second := by
    simp only [sent_eq, map_map, mem_map]
    rintro _ ⟨_, _, rfl⟩ _ ⟨_, _, rfl⟩ same
    have sameKey : eDevice.key false = eReader.key true := (Prod.mk.inj same).1
    exact lawful.separated _ _ ((key_new _ _ _ _ true).symm.trans
      ((sameKey.trans (keys _)).symm.trans (key_new _ _ _ _ false)))
  rw [map_append, nodup_append, nodup_sent_iff, nodup_sent_iff]
  constructor
  · rintro ⟨_, _, device, reader, _⟩
    exact ⟨device, reader⟩
  · rintro ⟨device, reader⟩
    have nonces : ∀ who, eReader.nonce who = eDevice.nonce who :=
      fun who => (nonce_new _ _ _ _ who).trans (nonce_new _ _ _ _ who).symm
    exact ⟨opened_of_delivered lawful (keys _) (nonces _) (length_key_new ..) toReader,
      opened_of_delivered lawful (keys _).symm (nonces _).symm (length_key_new ..) toDevice,
      device, reader, disjoint⟩

/-! ## Rejected ciphertexts -/

theorem ciphertexts_append (calls calls' : List Call) :
    ciphertexts (calls ++ calls') = ciphertexts calls ++ ciphertexts calls' := by
  induction calls with
  | nil => rfl
  | cons call calls ih => cases call <;> simp [ciphertexts, ih]

/-- After any calls on two sessions with matching keys, the message of the peer that follows the
ones accepted so far is decrypted to what was encrypted exactly if the number of ciphertexts that
were rejected is a multiple of `2 ^ 32`: `Decrypt` counts those as well. -/
theorem next_opened_iff (lawful : prims.Lawful)
    (authentic : ∀ key nonce nonce' plaintext,
      prims.aes256GCMDecrypt key nonce' (prims.aes256GCMEncrypt key nonce plaintext) =
        .ok plaintext → nonce' = nonce)
    (own peer : Private) (sessionTranscript : Bytes) (isReader : Bool)
    (calls peerCalls : List Call) {ciphertext plaintext : Bytes} :
    let session :=
      newSessionEncryption prims own (prims.publicKey peer) sessionTranscript isReader
    let peerSession :=
      newSessionEncryption prims peer (prims.publicKey own) sessionTranscript !isReader
    let results := opened prims session calls
    ((sent prims peerSession peerCalls).map (·.1))[results.countP (·.isOk)]? = some ciphertext →
    (plaintexts peerCalls)[results.countP (·.isOk)]? = some plaintext →
    (opened prims session (calls ++ [.decrypt ciphertext]) = results ++ [.ok plaintext] ↔
      results.countP (¬·.isOk) % 2 ^ 32 = 0) := by
  intro session peerSession results genuine encrypted
  have keys : ∀ who, session.key who = peerSession.key who :=
    key_newSessionEncryption lawful own peer sessionTranscript isReader (!isReader)
  have counted : (ciphertexts calls).length =
      results.countP (·.isOk) + results.countP (¬·.isOk) := by
    rw [← length_eq_countP_add_countP]
    simp [results, opened_eq]
  have next : opened prims session (calls ++ [.decrypt ciphertext]) = results ++
      [prims.aes256GCMDecrypt (session.key !isReader)
        (nonceBytes (session.nonce (!isReader) + UInt32.ofNat (ciphertexts calls).length))
        ciphertext] := by
    simp [results, opened_eq, ciphertexts_append, ciphertexts, zipIdx_append]
    rfl
  have made : prims.aes256GCMEncrypt (peerSession.key !isReader) (nonceBytes
      (session.nonce (!isReader) + UInt32.ofNat (results.countP (·.isOk)))) plaintext =
      ciphertext := by
    have start : session.nonce (!isReader) = peerSession.nonce !isReader :=
      (nonce_new _ _ _ _ _).trans (nonce_new _ _ _ _ _).symm
    have role : peerSession.isReader = !isReader := rfl
    simpa [sent_eq, encrypted, message, start, role] using genuine
  rw [next, append_cancel_left_eq, cons.injEq, and_iff_left rfl, keys, ← made]
  constructor
  · intro same
    have := (nonceBytes_counter_iff _ _ _).mp (authentic _ _ _ _ same)
    omega
  · intro multiple
    rw [(nonceBytes_counter_iff _ _ (results.countP (·.isOk))).mpr (by omega)]
    exact lawful.opens _ _ _ (length_key_new _ _ _ _ _) rfl

/-- However messages are lost, repeated or reordered on the way: what a side has encrypted is opened
exactly where its number is that of the call, modulo `2 ^ 32`. -/
theorem delivered_opened_iff (lawful : prims.Lawful)
    (authentic : ∀ key nonce nonce' plaintext,
      prims.aes256GCMDecrypt key nonce' (prims.aes256GCMEncrypt key nonce plaintext) =
        .ok plaintext → nonce' = nonce) (sender receiver : SessionEncryption)
    (key : receiver.key (!receiver.isReader) = sender.key sender.isReader)
    (nonce : receiver.nonce (!receiver.isReader) = sender.nonce sender.isReader)
    (length : (sender.key sender.isReader).length = 32)
    (calls calls' : List Call) (call number : Nat) {plaintext : Bytes}
    (encrypted : (plaintexts calls)[number]? = some plaintext)
    (delivered : (ciphertexts calls')[call]? = ((sent prims sender calls).map (·.1))[number]?) :
    (opened prims receiver calls')[call]? = some (.ok plaintext) ↔
      call % 2 ^ 32 = number % 2 ^ 32 := by
  rw [opened_eq, ← nonceBytes_counter_iff (sender.nonce sender.isReader)]
  simp only [key, nonce, getElem?_map, getElem?_zipIdx, zero_add, delivered, sent_eq, map_map,
    encrypted, Option.map_some, Function.comp_apply, message, Option.some.injEq]
  constructor
  · exact authentic _ _ _ _
  · intro same
    rw [same]
    exact lawful.opens _ _ _ length rfl

end Calls

/-- Primitives that hide nothing; the sum repeats one byte, which sees the label. -/
def plainPrimitives : Primitives Nat Nat where
  publicKey := id
  ecdhSharedSecret own peer := [ofNat (own * peer)]
  sum256 data := ⟨replicate 32 (data.getD 66 0), length_replicate⟩
  aes256GCMEncrypt _ _ plaintext := plaintext
  aes256GCMDecrypt _ _ ciphertext := .ok ciphertext

theorem plainPrimitives_derive (secret salt : Bytes) (label : String) :
    plainPrimitives.derive secret salt label = replicate 32 ((bytes label ++ [1]).getD 2 0) := by
  have skip (byte : UInt8) (key data : Bytes) :
      (padWith byte key ++ data).getD 66 0 = data.getD 2 0 := by
    rw [getD_append_right _ _ _ _ (by simp [padWith]), padWith, length_map, length_range]
  have mac (key data : Bytes) :
      hmacSHA256 plainPrimitives.sum256 key data = replicate 32 (data.getD 2 0) := by
    simp only [hmacSHA256, plainPrimitives, skip]
    rfl
  rw [Primitives.derive, hkdfDerive_key, mac]
  rfl

theorem plainPrimitives_lawful : plainPrimitives.Lawful where
  agreement first second := congrArg (fun product => [ofNat product]) (Nat.mul_comm _ _)
  opens _ _ _ _ _ := rfl
  separated secret salt := by
    rw [plainPrimitives_derive, plainPrimitives_derive]
    decide

/-- A request and its answer. -/
theorem request_answered :
    let eDevice := newSessionEncryption plainPrimitives 2 3 [] false
    let eReader := newSessionEncryption plainPrimitives 3 2 [] true
    opened plainPrimitives eReader [.encrypt [7], .decrypt [8]] <+: [.ok [8]] ∧
      opened plainPrimitives eDevice [.decrypt [7], .encrypt [8]] <+: [.ok [7]] ∧
      ((sent plainPrimitives eDevice [.decrypt [7], .encrypt [8]] ++
        sent plainPrimitives eReader [.encrypt [7], .decrypt [8]]).map (·.2)).Nodup :=
  (session_encryption_iff plainPrimitives_lawful 2 3 [] [.decrypt [7], .encrypt [8]]
    [.encrypt [7], .decrypt [8]] ⟨[], rfl⟩ ⟨[], rfl⟩).mpr (by decide)

/-- The reader sends one message too many. -/
theorem nonce_used_again :
    ¬ ((sent plainPrimitives (newSessionEncryption plainPrimitives 3 2 [] true)
      (replicate (2 ^ 32 + 1) (.encrypt []))).map (·.2)).Nodup := by
  have all (count : Nat) : (plaintexts (replicate count (.encrypt []))).length = count := by
    induction count with
    | zero => rfl
    | succ count ih => rw [replicate_succ, plaintexts, length_cons, ih]
  rw [nodup_sent_iff, all]
  decide

/-- Primitives whose ciphertexts carry their nonce. -/
def sealingPrimitives : Primitives Nat Nat :=
  { plainPrimitives with
    aes256GCMEncrypt _ nonce plaintext := nonce ++ plaintext
    aes256GCMDecrypt _ nonce ciphertext :=
      if nonce <+: ciphertext then .ok (ciphertext.drop nonce.length)
      else .error "cipher: message authentication failed" }

theorem sealingPrimitives_lawful : sealingPrimitives.Lawful :=
  { plainPrimitives_lawful with opens _ _ _ _ _ := by simp [sealingPrimitives] }

/-- Where nothing was rejected, the second message is decrypted after the first. -/
theorem second_opened :
    opened sealingPrimitives (newSessionEncryption sealingPrimitives 3 2 [] true)
      [.decrypt (nonceBytes 1 ++ [8]), .encrypt [7], .decrypt (nonceBytes 2 ++ [9])] =
      [.ok [8], .ok [9]] := by
  refine (next_opened_iff sealingPrimitives_lawful ?_ 3 2 [] true
    [.decrypt (nonceBytes 1 ++ [8]), .encrypt [7]] [.encrypt [8], .encrypt [9]] rfl rfl).mpr rfl
  intro key nonce nonce' plaintext same
  simp only [sealingPrimitives] at same
  split_ifs at same with found
  rw [prefix_iff_eq_append, Except.ok.inj same] at found
  exact append_cancel_right found

/-- A message that is delivered again is not opened again. -/
theorem repeated_message_not_opened :
    (opened sealingPrimitives (newSessionEncryption sealingPrimitives 3 2 [] true)
      (replicate 2 (.decrypt (nonceBytes 1 ++ [8]))))[1]? ≠ some (.ok [8]) := by
  refine (delivered_opened_iff sealingPrimitives_lawful ?_
    (newSessionEncryption sealingPrimitives 2 3 [] false) _ rfl rfl rfl [.encrypt [8]] _ 1 0 rfl
    rfl).not.mpr (by decide)
  grind [sealingPrimitives, prefix_iff_eq_append, append_cancel_right_eq]

/-- The empty ciphertext is rejected, and then the first message of the device is as well. -/
theorem rejected_after_rejection :
    opened sealingPrimitives (newSessionEncryption sealingPrimitives 3 2 [] true) [.decrypt [],
      .decrypt (encrypt sealingPrimitives
        (newSessionEncryption sealingPrimitives 2 3 [] false) [8]).1] =
      replicate 2 (.error "cipher: message authentication failed") := by
  decide

end Vc.Mdoc.Session
