import Vc.Revocation.StatusListChecker

/-!
# The width of an entry

The draft packs statuses of 1, 2, 4 or 8 bits into bytes, the first status into
the least significant bits, and states the width in `bits`.  No reader looks at
`bits`: each of them takes the decompressed bytes for the statuses.  A list that is
not too large is therefore read as it was written exactly if its entries are bytes,
or if there is at most one of them.
-/

namespace Vc.Revocation

open Checks Entries Tokenstatuslist List StatusListChecker Nat Cbor Option

/-! ## Packing -/

/-- The widths of the draft. -/
inductive Width where
  | one
  | two
  | four
  | eight
  deriving DecidableEq

/-- The value of `bits`. -/
def Width.bits : Width → Nat
  | .one => 1
  | .two => 2
  | .four => 4
  | .eight => 8

/-- How many entries fit in a byte. -/
def Width.perByte (width : Width) : Nat :=
  8 / width.bits

theorem Width.bits_mul_perByte (width : Width) : width.bits * width.perByte = 8 := by
  cases width <;> rfl

theorem Width.perByte_pos (width : Width) : 0 < width.perByte := by
  cases width <;> decide

/-- The number that some entries make up, the first one in the least significant bits. -/
def packEntries (bits : Nat) : List UInt8 → Nat
  | [] => 0
  | status :: rest => status.toNat + 2 ^ bits * packEntries bits rest

/-- The byte array of the draft. -/
def pack (width : Width) (statuses : List UInt8) : List UInt8 :=
  (range ((statuses.length * width.bits + 7) / 8)).map fun position =>
    UInt8.ofNat (packEntries width.bits
      ((statuses.drop (position * width.perByte)).take width.perByte))

/-- The entry of the draft at an index. -/
def entryAt (width : Width) (packed : List UInt8) (index : Nat) : Option Nat :=
  packed[index / width.perByte]?.map fun byte =>
    byte.toNat / 2 ^ (width.bits * (index % width.perByte)) % 2 ^ width.bits

/-- Every status fits in an entry. -/
def Fits (width : Width) (statuses : List UInt8) : Prop :=
  ∀ status ∈ statuses, status.toNat < 2 ^ width.bits

instance (width : Width) (statuses : List UInt8) : Decidable (Fits width statuses) :=
  inferInstanceAs (Decidable (∀ _ ∈ _, _))

variable {statuses : List UInt8}

theorem packEntries_lt {bits : Nat} (fits : ∀ status ∈ statuses, status.toNat < 2 ^ bits) :
    packEntries bits statuses < 2 ^ (bits * statuses.length) := by
  induction statuses with
  | nil => simp [packEntries]
  | cons status rest ih =>
    obtain ⟨here, later⟩ := forall_mem_cons.mp fits
    have below := ih later
    calc packEntries bits (status :: rest)
        = status.toNat + 2 ^ bits * packEntries _ _ := rfl
      _ < 2 ^ bits * (packEntries _ _ + 1) := by rw [mul_succ]; omega
      _ ≤ 2 ^ bits * 2 ^ (bits * rest.length) := mul_le_mul_left _ below
      _ = 2 ^ (bits * (status :: rest).length) := by
          rw [← pow_add, length_cons, mul_succ, add_comm]

variable {index : Nat} {status : UInt8}

theorem packEntries_div {bits : Nat} (fits : ∀ status ∈ statuses, status.toNat < 2 ^ bits)
    (found : statuses[index]? = some status) :
    packEntries bits statuses / 2 ^ (bits * index) % 2 ^ bits = status.toNat := by
  induction statuses generalizing index with
  | nil => cases found
  | cons first rest ih =>
    obtain ⟨here, later⟩ := forall_mem_cons.mp fits
    cases index with
    | zero =>
      cases found
      rw [packEntries, Nat.mul_zero, pow_zero, Nat.div_one, Nat.add_mul_mod_self_left,
        Nat.mod_eq_of_lt here]
    | succ index =>
      have shifted : packEntries bits (first :: rest) / 2 ^ bits = packEntries bits rest := by
        rw [packEntries, Nat.add_mul_div_left _ _ (Nat.two_pow_pos _),
          Nat.div_eq_of_lt here, Nat.zero_add]
      rw [Nat.mul_succ, Nat.add_comm, pow_add, ← Nat.div_div_eq_div_mul, shifted]
      exact ih later found

theorem length_pack (width : Width) (statuses : List UInt8) :
    (pack width statuses).length = (statuses.length * width.bits + 7) / 8 := by
  rw [pack, length_map, length_range]

variable {width : Width}

theorem div_perByte_lt {count : Nat} (inside : index < count) :
    index / width.perByte < (count * width.bits + 7) / 8 := by
  cases width <;> simp [Width.perByte, Width.bits] <;> omega

/-- A reader of the draft finds every status that was packed. -/
theorem entryAt_pack (fits : Fits width statuses) (found : statuses[index]? = some status) :
    entryAt width (pack width statuses) index = some status.toNat := by
  obtain ⟨inside, _⟩ := List.getElem?_eq_some_iff.mp found
  have byte : (pack width statuses)[index / width.perByte]? = some (UInt8.ofNat
      (packEntries width.bits ((statuses.drop (index / width.perByte * width.perByte)).take
        width.perByte))) := by
    rw [pack, List.getElem?_map, List.getElem?_range (div_perByte_lt inside), map_some]
  have entries : ∀ entry ∈ (statuses.drop (index / width.perByte * width.perByte)).take
      width.perByte, entry.toNat < 2 ^ width.bits :=
    fun entry member => fits entry (mem_of_mem_drop (mem_of_mem_take member))
  have small : packEntries width.bits ((statuses.drop (index / width.perByte * width.perByte)).take
      width.perByte) < 2 ^ 8 := by
    refine (packEntries_lt entries).trans_le (Nat.pow_le_pow_right (by decide) ?_)
    rw [← width.bits_mul_perByte]
    exact Nat.mul_le_mul_left _ (length_take_le _ _)
  have here : ((statuses.drop (index / width.perByte * width.perByte)).take
      width.perByte)[index % width.perByte]? = some status := by
    rw [List.getElem?_take_of_lt (Nat.mod_lt _ width.perByte_pos), List.getElem?_drop,
      Nat.mul_comm, Nat.div_add_mod]
    exact found
  rw [entryAt, byte, map_some, UInt8.toNat_ofNat_of_lt' small, packEntries_div entries here]

theorem packEntries_singleton (bits : Nat) (status : UInt8) :
    packEntries bits [status] = status.toNat := by
  rw [packEntries, packEntries, mul_zero, add_zero]

/-- Entries of a byte are the bytes themselves. -/
theorem pack_eight (statuses : List UInt8) : pack .eight statuses = statuses := by
  refine ext_getElem ?_ fun index inside found => ?_
  · rw [length_pack, Width.bits]
    omega
  · have one : (statuses.drop (index * Width.eight.perByte)).take Width.eight.perByte =
        [statuses[index]] := by
      rw [show Width.eight.perByte = 1 from rfl, mul_one, drop_eq_getElem_cons,
        take_one, head?_cons, toList_some]
    simp only [pack, getElem_map, getElem_range, one, packEntries_singleton, UInt8.ofNat_toNat]

theorem pack_nil (width : Width) : pack width [] = [] := by
  cases width <;> rfl

/-- A single entry fills a byte of its own. -/
theorem pack_singleton (width : Width) (status : UInt8) : pack width [status] = [status] := by
  cases width <;> simp [pack, Width.bits, Width.perByte, packEntries_singleton]

/-! ## Lookups -/

/-- Every status is found at its index, and nothing is found behind the last one. -/
def ReadsBack (statuses : List UInt8) (lookup : Int → Except String UInt8) : Prop :=
  (∀ index status, statuses[index]? = some status → lookup (index : Nat) = .ok status) ∧
    ∀ index : Nat, statuses.length ≤ index → ∃ error, lookup index = .error error

/-- The limits of the code on a response and on the list that it carries. -/
def Fetchable (size : Nat) (packed : List UInt8) : Prop :=
  size ≤ maxStatusListSize ∧ packed.length ≤ maxDecompressedSize

/-- Each byte of a list that is admitted is taken for a status. -/
structure ReadsBytes (size : Nat) (packed : List UInt8) (lookup : Int → Except String UInt8) :
    Prop where
  found : Fetchable size packed → ∀ index status, packed[index]? = some status →
    lookup (index : Nat) = .ok status
  missing : ∀ index : Nat, packed.length ≤ index → ∃ error, lookup index = .error error
  large : ¬ Fetchable size packed → ∀ index : Nat, ∃ error, lookup index = .error error

variable {size : Nat} {lookup : Int → Except String UInt8}

theorem ReadsBytes.readsBack_iff (bytes : ReadsBytes size (pack width statuses) lookup) :
    ReadsBack statuses lookup ↔ statuses = [] ∨
      Fetchable size (pack width statuses) ∧ (width = .eight ∨ statuses.length ≤ 1) := by
  by_cases none : statuses = []
  · subst none
    rw [pack_nil] at bytes
    exact iff_of_true ⟨fun _ _ found => absurd found nofun,
      fun index _ => bytes.missing index (Nat.zero_le _)⟩ (.inl rfl)
  have nonempty : 0 < statuses.length := length_pos_iff.mpr none
  refine ⟨fun reads => .inr ⟨?_, ?_⟩, fun bytewise => ?_⟩
  · by_contra large
    obtain ⟨error, failed⟩ := bytes.large large 0
    rw [reads.1 0 statuses[0] (getElem?_eq_getElem _)] at failed
    exact absurd failed nofun
  · -- otherwise the last entry lies behind the last byte
    by_contra neither
    obtain ⟨narrow, several⟩ := not_or.mp neither
    have inside : statuses.length - 1 < statuses.length := by omega
    have fewer : (pack width statuses).length ≤ statuses.length - 1 := by
      rw [length_pack]
      cases width <;> simp [Width.bits] <;> first | omega | exact absurd rfl narrow
    obtain ⟨error, failed⟩ := bytes.missing _ fewer
    rw [reads.1 _ statuses[statuses.length - 1] (getElem?_eq_getElem _)] at failed
    exact absurd failed nofun
  · obtain ⟨small, bytewise⟩ := bytewise.resolve_left none
    have same : pack width statuses = statuses := by
      rcases bytewise with rfl | few
      · exact pack_eight _
      · match statuses, few with
        | [], _ => exact pack_nil _
        | [status], _ => exact pack_singleton _ _
    rw [same] at bytes small
    exact ⟨bytes.found small, bytes.missing⟩

/-! ## Tokens -/

section Tokens

variable {Key Body : Type} (c : StatusListChecker Key Body)

/-- A `status_list` member that carries a list in entries of the given width. -/
def CarriedInJSON (bits : Int) (packed : List UInt8) (members : Members) : Prop :=
  (∃ literal, members.lookup "bits" = some (.num literal) ∧ c.numbers.seconds literal = bits) ∧
    members.lookup "lst" = some (.str (compressAndEncode c.zlib packed))

/-- A `status_list` map that carries a list in entries of the given width. -/
def CarriedInCBOR (bits : Int) (packed : List UInt8) (entries : List (Item × Item)) : Prop :=
  ((entries.reverse.find? fun entry => asInt entry.1 = some 1).bind fun entry => asInt entry.2) =
      some bits ∧
    lstOf entries = some (c.zlib.compress packed)

/-- The response is an authentic token that carries a list in entries of the given width. -/
inductive Carries (now : Int) (resp : Response Body) (bits : Int) (packed : List UInt8) : Prop
  | jwt {token : Jwt} {members : Members}
      (routed : resp.contentType = mediaTypeJWT ∨
        resp.contentType ≠ mediaTypeCWT ∧ c.wire.startsAsSign1 resp.body = false)
      (accepted : c.jwtParse now resp.body = .ok token)
      (member : token.claims.lookup "status_list" = some (.obj members))
      (carried : CarriedInJSON c bits packed members)
  | cwt {protectedBytes payloadBytes signature : List UInt8} {headers claims : IntMap} {key : Key}
      {chunked : Bool} {entries : List (Item × Item)}
      (routed : resp.contentType = mediaTypeCWT ∨
        resp.contentType ≠ mediaTypeJWT ∧ c.wire.startsAsSign1 resp.body = true)
      (components : c.components (c.wire.bytes resp.body) =
        .ok (protectedBytes, payloadBytes, signature))
      (header : decodeIntMap c.cbor protectedBytes = .ok headers)
      (payload : decodeIntMap c.cbor payloadBytes = .ok claims)
      (resolved : c.resolveKey ((claims.lookup 1).bind asString |>.getD "")
        (kidOf headers) = .ok key)
      (accepted : c.verify1 protectedBytes payloadBytes signature key = .ok ())
      (member : claims.lookup 65534 = some (.map chunked entries))
      (carried : CarriedInCBOR c bits packed entries)

/-- The endpoint answers with a body. -/
structure Answered (uri : String) (resp : Response Body) : Prop where
  named : uri ≠ ""
  scheme : c.urlScheme uri = .ok "http" ∨ c.urlScheme uri = .ok "https"
  answered : c.httpGet uri = .ok resp
  ok : resp.statusCode = 200

/-- The endpoint answers with a body that is not too large. -/
structure Served (uri : String) (resp : Response Body) : Prop extends Answered c uri resp where
  size : c.wire.size resp.body ≤ maxStatusListSize

/-- The status code that `CheckStatus` finds for a reference. -/
def StatusListChecker.statusCodeAt (now : Int) (cache : Cache) (uri : String)
    (index : Int) : Except String UInt8 :=
  (c.checkStatus now cache (some ⟨"status_list", uri, index⟩)).map (·.statusCode)

/-- The readers, each at a token that carries a list in entries of the given width, with the size
of the response that the token is taken from. -/
inductive Reader (bits : Int) (packed : List UInt8) :
    Nat → (Int → Except String UInt8) → Prop
  | getStatusFromJWT {claims : JWTClaims}
      (width : claims.statusList.bits = bits)
      (lst : claims.statusList.lst = compressAndEncode c.zlib packed) :
      Reader bits packed 0 (getStatusFromJWT c.zlib claims)
  | getStatusFromCWT {claims : IntMap} {chunked : Bool} {entries : List (Item × Item)}
      (member : claims.lookup 65534 = some (.map chunked entries))
      (carried : CarriedInCBOR c bits packed entries) :
      Reader bits packed 0 (getStatusFromCWT c.zlib claims)
  | checkStatus {now : Int} {cache : Cache} {uri : String} {resp : Response Body}
      (uncached : cache uri = none)
      (answered : Answered c uri resp)
      (carries : Carries c now resp bits packed) :
      Reader bits packed (c.wire.size resp.body) (c.statusCodeAt now cache uri)

variable {c}

theorem getStatus_found
    (found : statuses[index]? = some status) : getStatus statuses index = .ok status := by
  rw [getStatus, if_neg (Int.natCast_nonneg _).not_gt, Int.toNat_natCast, found]

theorem getStatus_missing (missing : statuses.length ≤ index) :
    getStatus statuses index = .error "invalid status index: out of bounds" := by
  rw [getStatus, if_neg (Int.natCast_nonneg _).not_gt, Int.toNat_natCast, getElem?_eq_none missing]

variable {packed : List UInt8}

/-- A lookup in the list that decompression gives, with some wording for each failure. -/
theorem readsBytes_of_decompressed (zlib : Zlib)
    (ok : ∀ statuses, decompressStatuses zlib (zlib.compress packed) = .ok statuses →
      ∀ index : Nat, (∀ status, statuses[index]? = some status → lookup index = .ok status) ∧
        (statuses.length ≤ index → ∃ error, lookup index = .error error))
    (failed : ∀ error, decompressStatuses zlib (zlib.compress packed) = .error error →
      ∀ index : Nat, ∃ error, lookup index = .error error)
    (within : size ≤ maxStatusListSize) : ReadsBytes size packed lookup := by
  have result := decompressStatuses_compress zlib packed
  by_cases small : packed.length ≤ maxDecompressedSize
  · rw [if_pos small] at result
    exact ⟨fun _ index => (ok _ result _).1, fun index => (ok _ result _).2,
      fun large => absurd ⟨within, small⟩ large⟩
  · rw [if_neg small] at result
    exact ⟨fun fits => absurd fits.2 small, fun index _ => failed _ result _,
      fun _ => failed _ result⟩

variable {uri : String} {resp : Response Body}

theorem Answered.fetchStatusList (answered : Answered c uri resp) (now : Int) :
    c.fetchStatusList now uri =
      if c.wire.size resp.body ≤ maxStatusListSize then
        c.parseStatusListToken now resp.body resp.contentType
      else .error "status list response exceeds maximum size (10485760 bytes)" := by
  rcases answered.scheme with scheme | scheme <;> split_ifs with size <;>
    simp [StatusListChecker.fetchStatusList, scheme, answered.answered, answered.ok, size,
      require, Except.mapError, bind, Except.bind]

theorem Served.fetchStatusList (served : Served c uri resp) (now : Int) :
    c.fetchStatusList now uri = c.parseStatusListToken now resp.body resp.contentType := by
  rw [served.toAnswered.fetchStatusList, if_pos served.size]

variable {cache : Cache}

theorem statusCodeAt_uncached (named : uri ≠ "")
    (uncached : cache uri = none) (now : Int) (index : Nat) :
    c.statusCodeAt now cache uri index =
      match c.fetchStatusList now uri with
      | .error error => .error ("failed to get status list: " ++ error)
      | .ok statuses =>
        match statuses[index]? with
        | none => .error ("status index " ++ toString (index : Int) ++
            " out of range (list size: " ++ toString statuses.length ++ ")")
        | some status => .ok status := by
  cases fetched : c.fetchStatusList now uri with
  | error error =>
    simp [statusCodeAt, checkStatus, named, uncached, fetched,
      getStatusList, require, Except.mapError, Except.map, bind, Except.bind]
  | ok statuses =>
    cases found : statuses[index]? <;>
      simp [statusCodeAt, checkStatus, named, uncached,
        fetched, found, getStatusList, require, Except.mapError, Except.map,
        bind, Except.bind]

/-- A check over the endpoint's token reads the bytes that the token's parser decompresses. -/
theorem readsBytes_statusCodeAt {now : Int} (uncached : cache uri = none)
    (answered : Answered c uri resp)
    (parsed : c.parseStatusListToken now resp.body resp.contentType =
      decompressStatuses c.zlib (c.zlib.compress packed)) :
    ReadsBytes (c.wire.size resp.body) packed (c.statusCodeAt now cache uri) := by
  have fetched := answered.fetchStatusList now
  have failing : ∀ error, c.fetchStatusList now uri = .error error → ∀ index : Nat, ∃ error,
      c.statusCodeAt now cache uri index = .error error := by
    intro error failed index
    rw [statusCodeAt_uncached answered.named uncached, failed]
    exact ⟨_, rfl⟩
  by_cases within : c.wire.size resp.body ≤ maxStatusListSize
  · rw [if_pos within, parsed] at fetched
    refine readsBytes_of_decompressed c.zlib (fun statuses ok index => ⟨fun status found => ?_,
      fun missing => ?_⟩) (fun error failed => failing error (fetched.trans failed)) within
    · rw [statusCodeAt_uncached answered.named uncached, fetched, ok]
      simp [found]
    · rw [statusCodeAt_uncached answered.named uncached, fetched, ok]
      simp only [getElem?_eq_none missing]
      exact ⟨_, rfl⟩
  · rw [if_neg within] at fetched
    exact ⟨fun fits => absurd fits.1 within, fun index _ => failing _ fetched index,
      fun _ => failing _ fetched⟩

theorem readsBytes_getStatusFromJWT {claims : JWTClaims}
    (lst : claims.statusList.lst = compressAndEncode c.zlib packed) :
    ReadsBytes 0 packed (getStatusFromJWT c.zlib claims) := by
  refine readsBytes_of_decompressed c.zlib (fun statuses ok index => ⟨fun status found => ?_,
    fun missing => ?_⟩) (fun error failed index => ?_) (Nat.zero_le _)
  · rw [getStatusFromJWT, lst, compressAndEncode, decodeAndDecompress_encode, ok]
    exact getStatus_found found
  · rw [getStatusFromJWT, lst, compressAndEncode, decodeAndDecompress_encode, ok]
    exact ⟨_, getStatus_missing missing⟩
  · rw [getStatusFromJWT, lst, compressAndEncode, decodeAndDecompress_encode, failed]
    exact ⟨_, rfl⟩

variable {entries : List (Item × Item)} {bits : Int} {claims : IntMap} {chunked : Bool}

theorem readsBytes_getStatusFromCWT (member : claims.lookup 65534 = some (.map chunked entries))
    (carried : CarriedInCBOR c bits packed entries) :
    ReadsBytes 0 packed (getStatusFromCWT c.zlib claims) := by
  refine readsBytes_of_decompressed c.zlib (fun statuses ok index => ⟨fun status found => ?_,
    fun missing => ?_⟩) (fun error failed index => ?_) (Nat.zero_le _)
  · simp only [getStatusFromCWT, member, carried.2, ok]
    exact getStatus_found found
  · simp only [getStatusFromCWT, member, carried.2, ok]
    exact ⟨_, getStatus_missing missing⟩
  · simp only [getStatusFromCWT, member, carried.2, failed]
    exact ⟨_, rfl⟩

theorem Carries.parseStatusListToken {now : Int} (carries : Carries c now resp bits packed) :
    c.parseStatusListToken now resp.body resp.contentType =
      decompressStatuses c.zlib (c.zlib.compress packed) := by
  cases carries with
  | jwt routed accepted member carried =>
    rw [parseStatusListToken_jwt routed, parseJWTStatusList, accepted]
    simp only [Except.mapError, bind, Except.bind, member, carried.2]
    exact decodeAndDecompress_encode _ _
  | cwt routed components header payload resolved accepted member carried =>
    rw [parseStatusListToken_cwt routed, parseCWTStatusList, components]
    simp only [bind, Except.bind, header, payload, resolved, accepted, Except.mapError,
      statusListOf, member, carried.2]

theorem Reader.readsBytes (reader : Reader c bits packed size lookup) :
    ReadsBytes size packed lookup := by
  cases reader with
  | getStatusFromJWT _ lst => exact readsBytes_getStatusFromJWT lst
  | getStatusFromCWT member carried => exact readsBytes_getStatusFromCWT member carried
  | checkStatus uncached answered carries =>
    exact readsBytes_statusCodeAt uncached answered carries.parseStatusListToken

end Tokens

/-- A packed list holds its statuses for a reader of the draft.  Whichever reader of the source it
is, it finds them exactly if there are none, or if neither the response nor the decompressed list
is too large, and each of its entries is a byte of its own. -/
theorem readsBack_iff_bytewise {Key Body : Type} (c : StatusListChecker Key Body) (width : Width)
    (statuses : List UInt8) (fits : Fits width statuses) (size : Nat)
    (lookup : Int → Except String UInt8)
    (reader : Reader c width.bits (pack width statuses) size lookup) :
    (∀ index status, statuses[index]? = some status →
      entryAt width (pack width statuses) index = some status.toNat) ∧
    (ReadsBack statuses lookup ↔ statuses = [] ∨ (size ≤ maxStatusListSize ∧
      (pack width statuses).length ≤ maxDecompressedSize) ∧
      (width = .eight ∨ statuses.length ≤ 1)) :=
  ⟨fun _ _ found => entryAt_pack fits found, reader.readsBytes.readsBack_iff⟩

/-- A token of two revoked credentials, in entries of the given width. -/
def revokedPair (width : Width) : Jwt where
  header := [("alg", .str "ES256")]
  claims := [("iss", .str "https://issuer.example"), ("status_list", .obj [
    ("bits", .num (Numbers.unary.literal width.bits)),
    ("lst", .str (compressAndEncode .stored (pack width [1, 1])))])]
  signature := [(KeyKind.ecdsa .p256).code]

/-- The response of the endpoint of that token. -/
def pairResponse (width : Width) : Response (Jwt ⊕ List UInt8) :=
  ⟨200, mediaTypeJWT, .inl (revokedPair width)⟩

/-- The checker at that endpoint. -/
def pairChecker (width : Width) : StatusListChecker KeyKind (Jwt ⊕ List UInt8) :=
  .answering (.ecdsa .p256) (pairResponse width)

theorem pairChecker_reader (width : Width) :
    Reader (pairChecker width) width.bits (pack width [1, 1]) 0
      ((pairChecker width).statusCodeAt 0 (fun _ => none) "https://issuer.example/list") :=
  have answered : Answered (pairChecker width) "https://issuer.example/list"
      (pairResponse width) :=
    { named := by decide
      scheme := .inr rfl
      answered := rfl
      ok := rfl }
  have accepted : (pairChecker width).jwtParse 0 (pairResponse width).body =
      .ok (revokedPair width) := by cases width <;> rfl
  .checkStatus rfl answered
    (.jwt (.inl rfl) accepted rfl ⟨⟨_, rfl, Numbers.unary.exact _⟩, rfl⟩)

/-- Two revoked credentials are both found in a list of bytes, and not in a list of bits. -/
theorem revoked_pair_in_bytes :
    ReadsBack [1, 1]
      ((pairChecker .eight).statusCodeAt 0 (fun _ => none) "https://issuer.example/list") ∧
    ¬ ReadsBack [1, 1]
      ((pairChecker .one).statusCodeAt 0 (fun _ => none) "https://issuer.example/list") :=
  ⟨(readsBack_iff_bytewise _ .eight [1, 1] (by decide +kernel) _ _
      (pairChecker_reader .eight)).2.mpr
      (by decide),
    fun reads => absurd ((readsBack_iff_bytewise _ .one [1, 1] (by decide +kernel) _ _
      (pairChecker_reader .one)).2.mp reads) (by decide)⟩

/-- In a list of bits the first of them has an unknown status and the second one has none. -/
theorem revoked_pair_in_bits : Fits .one [1, 1] ∧ pack .one [1, 1] = [3] ∧
    ((pairChecker .one).checkStatus 0 (fun _ => none)
      (some ⟨"status_list", "https://issuer.example/list", 0⟩)).map (fun result =>
        (result.status, result.statusCode)) = .ok (.unknown, 3) ∧
    (pairChecker .one).statusCodeAt 0 (fun _ => none) "https://issuer.example/list" 1 =
      .error "status index 1 out of range (list size: 1)" := by
  decide +kernel

end Vc.Revocation
