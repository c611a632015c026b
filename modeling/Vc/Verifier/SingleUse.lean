import Vc.Concurrent.Pool
import Vc.Verifier.TokenGrant

/-!
# Reuse of an authorization code at the verifier

The grant marks the code as used and later writes back the session it has read
before.  That copy is not marked, so a grant that succeeds takes its own mark
away.  The main theorem says exactly when the code is used only once: when none
of the calls can be served at all.
-/

namespace Vc.Verifier

open Cache Concurrent OAuth2 MongoStore Provider Process Collection Record Option Protocol

/-! ## What a grant needs to succeed -/

namespace Provider

variable (provider : Provider)

/-- Nothing in the request or the session keeps the call from its tokens. -/
structure Serves (call : TokenCall) (authCtx : AuthorizationContext) (client : Client)
    (idToken : String) : Prop where
  authenticated :
    provider.authenticateClient call.request.clientID call.request.clientSecret = .ok client
  sameClient : authCtx.clientID = call.request.clientID
  sameRedirect : normalizeRedirectURI authCtx.redirectURI =
    normalizeRedirectURI call.request.redirectURI
  proved : authCtx.codeChallenge = "" ∨
    (validatePKCE provider.sha256 call.request.codeVerifier authCtx.codeChallenge
      authCtx.codeChallengeMethod).isOk = true
  identified : provider.generateIDToken authCtx client call.idTokenNow = some idToken
  accessible : provider.enableUserInfo = true →
    (provider.generateAccessToken (issued authCtx idToken) client call.accessTokenNow).isSome = true

variable {provider} {call : TokenCall} {authCtx : AuthorizationContext} {client : Client}

theorem checkRequest_eq_ok_iff :
    provider.checkRequest call authCtx = .ok client ↔
      provider.authenticateClient call.request.clientID call.request.clientSecret = .ok client ∧
        authCtx.clientID = call.request.clientID ∧
        normalizeRedirectURI authCtx.redirectURI = normalizeRedirectURI call.request.redirectURI ∧
        (authCtx.codeChallenge = "" ∨
          (validatePKCE provider.sha256 call.request.codeVerifier authCtx.codeChallenge
            authCtx.codeChallengeMethod).isOk = true) := by
  rw [checkRequest]
  cases provider.authenticateClient call.request.clientID call.request.clientSecret with
  | error error => cases error <;> simp
  | ok found =>
    split_ifs with clientID redirect proof
    · simp [clientID]
    · simp [redirect]
    · simp_all
    · by_contra _
      simp_all

theorem tokenResponse_isSome_iff {idToken : String} :
    (provider.tokenResponse call authCtx client idToken).isSome = true ↔
      (provider.enableUserInfo = true →
        (provider.generateAccessToken authCtx client call.accessTokenNow).isSome = true) := by
  rw [tokenResponse]
  by_cases userInfo : provider.enableUserInfo = true <;> simp [userInfo]

variable {response : TokenResponse}

theorem idToken_of_tokenResponse {idToken : String}
    (responded : provider.tokenResponse call authCtx client idToken = some response) :
    response.idToken = idToken := by
  rw [tokenResponse] at responded
  split_ifs at responded
  · obtain ⟨_, _, rfl⟩ := map_eq_some_iff.mp responded
    rfl
  · cases responded
    rfl

variable {updated : AuthorizationContext}

theorem of_issueTokens (issues : provider.issueTokens call authCtx = .ok (updated, response)) :
    ∃ client, provider.Serves call authCtx client response.idToken ∧
      updated = issued authCtx response.idToken := by
  rw [issueTokens] at issues
  cases checked : provider.checkRequest call authCtx with
  | error error => simp [checked] at issues
  | ok client =>
    cases identified : provider.generateIDToken authCtx client call.idTokenNow with
    | none => simp [checked, identified] at issues
    | some idToken =>
      cases responded : provider.tokenResponse call (issued authCtx idToken) client idToken with
      | none => simp [checked, identified, responded] at issues
      | some given =>
        simp only [checked, identified, responded, Except.ok.injEq, Prod.mk.injEq] at issues
        obtain ⟨rfl, rfl⟩ := issues
        obtain ⟨authenticated, sameClient, sameRedirect, proved⟩ :=
          checkRequest_eq_ok_iff.mp checked
        have accessible := tokenResponse_isSome_iff.mp (isSome_iff_exists.mpr ⟨given, responded⟩)
        rw [idToken_of_tokenResponse responded]
        exact ⟨client,
          ⟨authenticated, sameClient, sameRedirect, proved, identified, accessible⟩, rfl⟩

/-- A call gets its tokens issued exactly when it is served. -/
theorem issueTokens_iff_serves :
    (∃ response, provider.issueTokens call authCtx = .ok (updated, response)) ↔
      ∃ client idToken, provider.Serves call authCtx client idToken ∧
        updated = issued authCtx idToken := by
  constructor
  · rintro ⟨response, issues⟩
    obtain ⟨client, serves⟩ := of_issueTokens issues
    exact ⟨client, response.idToken, serves⟩
  · rintro ⟨client, idToken, serves, rfl⟩
    have checked := checkRequest_eq_ok_iff.mpr
      ⟨serves.authenticated, serves.sameClient, serves.sameRedirect, serves.proved⟩
    have responds : (provider.tokenResponse call (issued authCtx idToken) client
        idToken).isSome = true :=
      tokenResponse_isSome_iff.mpr serves.accessible
    obtain ⟨response, responded⟩ := isSome_iff_exists.mp responds
    exact ⟨response, by simp [issueTokens, checked, serves.identified, responded]⟩

/-- The call finds the session of its code unused and in time, and is served. -/
def Redeemable (provider : Provider) (call : TokenCall) (database : Database) : Prop :=
  ∃ record client idToken, call.request.code ≠ "" ∧
    database.findOne (has .code call.request.code) = some record ∧
    record.context.forfeited = false ∧ call.now ≤ record.context.codeExpiresAt ∧
    record.context.sessionID ≠ "" ∧
    provider.Serves call record.unmarshal client idToken ∧
    (issued record.unmarshal idToken).validate = true

end Provider

/-! ## A code that no call can redeem -/

variable {ι : Type} [DecidableEq ι] {provider : Provider} {bson : Bson} {code : String}
  {start : Database}

/-- The record with its code marked as used. -/
def marked (record : Record) : Record :=
  { record with context := record.context.forfeit }

/-- Up to now the session of the code has at most been marked. -/
def AtMostMarked (code : String) (start database : Database) : Prop :=
  database.findOne (has .code code) = start.findOne (has .code code) ∨
    database.findOne (has .code code) = (start.findOne (has .code code)).map marked

variable {database : Database}

section

variable (kept : AtMostMarked code start database)

include kept

/-- Marking any session, by whatever filter, goes no further. -/
theorem AtMostMarked.mark (filter : Record → Bool) :
    AtMostMarked code start (database.updateOne filter (updating .forfeit fun _ => rfl)) := by
  rw [AtMostMarked, findOne_updateOne fun _ => rfl]
  rcases kept with same | used
  · rw [same]
    cases start.findOne (has .code code) with
    | none => exact .inl rfl
    | some record =>
      simp only [map_some]
      split_ifs
      · exact .inr rfl
      · exact .inl rfl
  · rw [used]
    right
    cases start.findOne (has .code code) with
    | none => rfl
    | some record =>
      simp only [map_some]
      split_ifs <;> rfl

/-- A session that is found unmarked is the one that was there at the start. -/
theorem AtMostMarked.of_unused {record : Record}
    (found : database.findOne (has .code code) = some record)
    (unused : record.context.forfeited = false) :
    start.findOne (has .code code) = some record := by
  rcases kept with same | used
  · rw [← same, found]
  · rw [found] at used
    obtain ⟨original, _, rfl⟩ := map_eq_some_iff.mp used.symm
    exact absurd unused (by simp [marked, AuthorizationContext.forfeit])

/-- Marking keeps the session under which the code is found. -/
theorem AtMostMarked.sessionID :
    (database.findOne (has .code code)).map sessionID =
      (start.findOne (has .code code)).map sessionID := by
  rcases kept with same | used
  · rw [same]
  · rw [used, map_map]
    rfl

end

/-- No call writes the session back. -/
def unserved (code : String) (start : Database) : Protocol ι mongoInterface Database Unit where
  inv database _ _ := AtMostMarked code start database
  guard _ _ _ _ _ := True

/-- A call that stops in an error. -/
def Refused {γ : Type} (_ : γ) (result : Except TokenError TokenResponse) : Prop :=
  ∃ error, result = .error error

variable {call : TokenCall} {authCtx : AuthorizationContext}

theorem follows_issueAndUpdate (index : ι)
    (refused : ∀ updated response, provider.issueTokens call authCtx = .ok (updated, response) →
      updated.validate = false) :
    (unserved code start).Follows Database.execute index Refused
      ((provider.issueAndUpdate call authCtx).interpret (method bson)) () := by
  rw [issueAndUpdate]
  cases issues : provider.issueTokens call authCtx with
  | error error => exact ⟨_, rfl⟩
  | ok result =>
    have invalid := refused result.1 result.2 issues
    simp only [interpret_call, method, update, invalid, Bool.not_false]
    split_ifs <;> exact ⟨_, rfl⟩

theorem follows_redeem (index : ι)
    (refused : ∀ updated response, provider.issueTokens call authCtx = .ok (updated, response) →
      authCtx.sessionID ≠ "" → updated.validate = false) :
    (unserved code start).Follows Database.execute index Refused
      ((provider.redeem call authCtx).interpret (method bson)) () := by
  simp only [redeem, interpret_call, method, markCodeAsForfeited]
  split_ifs with noSession
  · exact ⟨_, rfl⟩
  · intro database trace ghosts kept _ _
    refine ⟨(), kept.mark _, ?_⟩
    cases (Database.execute (.updateOne _ _) database).1 with
    | zero =>
      intro later _ _ keptLater _ _
      refine ⟨(), keptLater, ?_⟩
      cases (Database.execute (.countDocuments _) later).1 <;> exact ⟨_, rfl⟩
    | succ _ =>
      exact follows_issueAndUpdate _ fun updated response issues =>
        refused _ _ issues noSession

theorem follows_unserved (index : ι) (presents : call.request.code = code)
    (refused : ¬ provider.Redeemable call start) :
    (unserved code start).Follows Database.execute index Refused
      (provider.mongoGrant bson call) () := by
  subst presents
  simp only [mongoGrant, handleAuthorizationCodeGrant, interpret_call,
    method, getByAuthorizationCode, getByField]
  split_ifs with noCode
  · exact ⟨_, rfl⟩
  · intro database trace ghosts kept _ _
    refine ⟨(), kept, ?_⟩
    simp only [Database.execute]
    cases found : database.findOne (has .code call.request.code) with
    | none => exact ⟨_, rfl⟩
    | some record =>
      simp only [bind_done]
      split_ifs with used late
      · exact ⟨_, rfl⟩
      · exact ⟨_, rfl⟩
      · refine follows_redeem _ fun updated response issues named => ?_
        obtain ⟨client, idToken, serves, rfl⟩ :=
          issueTokens_iff_serves.mp ⟨response, issues⟩
        have untouched : start.findOne (has .code call.request.code) = some record :=
          kept.of_unused found (by simpa using used)
        by_contra valid
        exact refused ⟨record, client, idToken, noCode, untouched, by simpa using used,
          Int.not_lt.mp late, named, serves, by simpa using valid⟩

/-! ## What the mark alone guarantees -/

/-- Some call has written its session back. -/
def WroteBack (trace : List (Entry ι mongoInterface)) : Prop :=
  ∃ entry ∈ trace, ∃ filter replacement upsert,
    entry.request = .replaceOne filter replacement upsert

omit [DecidableEq ι] in
@[simp]
theorem wroteBack_append (trace : List (Entry ι mongoInterface)) (entry : Entry ι mongoInterface) :
    WroteBack (trace ++ [entry]) ↔ WroteBack trace ∨ ∃ filter replacement upsert,
      entry.request = .replaceOne filter replacement upsert := by
  simp [WroteBack, or_and_right, exists_or]

/-- How far a call has come: it waits, it has read the session of the code, it
has read a session that was written back, or it has marked the code. -/
inductive Phase where
  | waiting
  | holding
  | stale
  | winner
  deriving DecidableEq

/-- One call has marked the code at most, and until a session is written back the
mark stays. -/
structure OneWinner (code : String) (start database : Database)
    (trace : List (Entry ι mongoInterface)) (phases : ι → Phase) : Prop where
  unique : ∀ first second, phases first = .winner → phases second = .winner → first = second
  stale : ∀ index, phases index = .stale → WroteBack trace
  kept : ¬ WroteBack trace → AtMostMarked code start database
  marked : ¬ WroteBack trace → ∀ index, phases index = .winner → ∀ record,
    database.findOne (has .code code) = some record → record.context.forfeited = true

/-- Codes are marked only before a session is written back. -/
def winners (code : String) (start : Database) : Protocol ι mongoInterface Database Phase where
  inv := OneWinner code start
  guard _ request _ trace _ :=
    ∀ filter update, request = .updateOne filter update → ¬ WroteBack trace

/-- Only a call that has marked the code gets tokens. -/
def OnlyWinner (phase : Phase) (result : Except TokenError TokenResponse) : Prop :=
  (∃ response, result = .ok response) → phase = .winner

variable {trace : List (Entry ι mongoInterface)} {entry : Entry ι mongoInterface}
  {phases : ι → Phase}

omit [DecidableEq ι] in
/-- A step that changes nothing. -/
theorem OneWinner.read (one : OneWinner code start database trace phases)
    (reads : ∀ filter replacement upsert, entry.request ≠ .replaceOne filter replacement upsert) :
    OneWinner code start database (trace ++ [entry]) phases := by
  have same : WroteBack (trace ++ [entry]) ↔ WroteBack trace := by simp [reads]
  exact ⟨one.unique, by simpa only [same] using one.stale, by simpa only [same] using one.kept,
    by simpa only [same] using one.marked⟩

variable {index : ι}

/-- A call that has read a session, before or after one was written back. -/
theorem OneWinner.hold (one : OneWinner code start database trace phases)
    {phase : Phase} (notWinner : phase ≠ .winner) (stale : phase = .stale → WroteBack trace) :
    OneWinner code start database trace (Function.update phases index phase) := by
  have winner : ∀ other, Function.update phases index phase other = .winner →
      phases other = .winner := by
    intro other
    rw [Function.update_apply]
    split_ifs
    · exact fun won => absurd won notWinner
    · exact id
  refine ⟨?_, ?_, one.kept, ?_⟩
  · exact fun first second won wonToo => one.unique first second (winner _ won) (winner _ wonToo)
  · intro other
    rw [Function.update_apply]
    split_ifs
    · exact stale
    · exact one.stale _
  · exact fun unwritten other won => one.marked unwritten _ (winner _ won)

/-- The mark goes through only if no call has made it before. -/
theorem OneWinner.mark (one : OneWinner code start database trace phases)
    (unwritten : ¬ WroteBack trace) {sessionID : String} {record : Record}
    (ofCode : (start.findOne (Record.has .code code)).map Record.sessionID = some sessionID)
    (found : database.findOne (fun other => other.isSession sessionID && other.notForfeited) =
      some record)
    (marks : ∀ filter replacement upsert, entry.request ≠ .replaceOne filter replacement upsert) :
    OneWinner code start
      (database.updateOne (fun other => other.isSession sessionID && other.notForfeited)
        (updating .forfeit fun _ => rfl))
      (trace ++ [entry]) (Function.update phases index .winner) := by
  rw [← (one.kept unwritten).sessionID] at ofCode
  obtain ⟨hit, hitFound, rfl⟩ := map_eq_some_iff.mp ofCode
  have stored := (lookup_of_findOne hitFound).1
  have search : database.findOne (fun other =>
      other.isSession hit.sessionID && other.notForfeited) = some hit ∧
        hit.context.forfeited = false := by
    have filtered := findOne_key_and database hit.sessionID notForfeited
    rw [stored, filter_some] at filtered
    have unused : hit.notForfeited = true := by
      by_contra used
      rw [if_neg used] at filtered
      exact nomatch found.symm.trans filtered
    rw [if_pos unused] at filtered
    exact ⟨filtered, by simpa [notForfeited] using unused⟩
  have noWinner : ∀ other, phases other ≠ .winner := by
    intro other won
    have used := one.marked unwritten other won hit hitFound
    rw [search.2] at used
    contradiction
  have same : WroteBack (trace ++ [entry]) ↔ WroteBack trace := by simp [marks]
  refine ⟨?_, ?_, fun _ => (one.kept unwritten).mark _, ?_⟩
  · intro first second
    simp only [Function.update_apply]
    split_ifs with isFirst isSecond isSecond
    · exact fun _ _ => isFirst.trans isSecond.symm
    · exact fun _ won => absurd won (noWinner _)
    · exact fun won => absurd won (noWinner first)
    · exact fun won => absurd won (noWinner first)
  · intro other
    rw [same, Function.update_apply]
    split_ifs
    · exact fun impossible => nomatch impossible
    · exact one.stale _
  · intro _ _ _ after foundAfter
    rw [findOne_updateOne fun _ => rfl, hitFound, search.1] at foundAfter
    simp only [map_some, some.injEq] at foundAfter
    rw [← foundAfter]
    rfl

/-- Issuing the tokens and writing the session back, by the call that has marked
the code. -/
theorem follows_issueAndUpdate_winner :
    (winners code start).Follows Database.execute index OnlyWinner
      ((provider.issueAndUpdate call authCtx).interpret (method bson)) .winner := by
  rw [issueAndUpdate]
  cases provider.issueTokens call authCtx with
  | error error => exact fun _ => rfl
  | ok result =>
    simp only [interpret_call, method, update]
    split_ifs
    · exact fun _ => rfl
    · exact fun _ => rfl
    · refine follows_call_of_keep fun database trace phases one _ _ => ⟨?_, ?_⟩
      · -- after a session has been written back nothing is promised of the database
        exact ⟨one.unique, fun _ _ => by simp, fun unwritten => absurd (by simp) unwritten,
          fun unwritten => absurd (by simp) unwritten⟩
      · cases (Database.execute (.replaceOne _ _ _) database).1 <;> exact fun _ => rfl

theorem follows_redeem_winner {phase : Phase} (read : phase = .stale ∨ phase = .holding ∧
      (start.findOne (Record.has .code code)).map Record.sessionID = some authCtx.sessionID) :
    (winners code start).Follows Database.execute index OnlyWinner
      ((provider.redeem call authCtx).interpret (method bson)) phase := by
  simp only [redeem, interpret_call, method, markCodeAsForfeited]
  split_ifs with noSession
  · rintro ⟨_, ⟨⟩⟩
  · intro database trace phases one current guarded
    have unwritten := guarded _ _ rfl
    rcases read with rfl | ⟨rfl, ofCode⟩
    · exact absurd (one.stale _ current) unwritten
    · simp only [Database.execute]
      cases found : database.findOne fun other =>
          other.isSession _ && other.notForfeited with
      | none =>
        rw [updateOne_of_findOne_none found]
        refine ⟨.holding, ?_, ?_⟩
        · rw [← current, Function.update_eq_self]
          exact one.read (by rintro _ _ _ ⟨⟩)
        · refine follows_call_of_keep fun later _ _ one _ _ =>
            ⟨one.read (by rintro _ _ _ ⟨⟩), ?_⟩
          cases (Database.execute (.countDocuments _) later).1 <;> rintro ⟨_, ⟨⟩⟩
      | some record =>
        refine ⟨.winner, one.mark unwritten ofCode found (by rintro _ _ _ ⟨⟩), ?_⟩
        exact follows_issueAndUpdate_winner

theorem follows_winner (index : ι) (presents : call.request.code = code) :
    (winners code start).Follows Database.execute index OnlyWinner (provider.mongoGrant bson call)
      .waiting := by
  subst presents
  simp only [mongoGrant, handleAuthorizationCodeGrant, interpret_call,
    method, getByAuthorizationCode, getByField]
  split_ifs with noCode
  · rintro ⟨_, ⟨⟩⟩
  · intro database trace phases one current _
    simp only [Database.execute]
    cases found : database.findOne (has .code call.request.code) with
    | none =>
      refine ⟨.waiting, ?_, by rintro ⟨_, ⟨⟩⟩⟩
      rw [← current, Function.update_eq_self]
      exact one.read (by rintro _ _ _ ⟨⟩)
    | some record =>
      obtain ⟨phase, notWinner, stale, read⟩ : ∃ phase : Phase, phase ≠ .winner ∧
          (phase = .stale → WroteBack trace) ∧ (phase = .stale ∨ phase = .holding ∧
            (start.findOne (has .code call.request.code)).map sessionID =
              some record.unmarshal.sessionID) := by
        by_cases written : WroteBack trace
        · exact ⟨.stale, by decide, fun _ => written, .inl rfl⟩
        · refine ⟨.holding, by decide, by rintro ⟨⟩, .inr ⟨rfl, ?_⟩⟩
          rw [← (one.kept written).sessionID, found]
          rfl
      refine ⟨phase, (one.hold notWinner stale).read (by rintro _ _ _ ⟨⟩), ?_⟩
      simp only [bind_done]
      split_ifs
      · rintro ⟨_, ⟨⟩⟩
      · rintro ⟨_, ⟨⟩⟩
      · exact follows_redeem_winner read

/-! ## Single use -/

variable (provider bson)

/-- The pool in which these calls are about to be served. -/
def grants (database : Database) (calls : ι → TokenCall) :
    Pool ι mongoInterface Database (Except TokenError TokenResponse) :=
  .initial database fun index => provider.mongoGrant bson (calls index)

/-- However the calls interleave, one of them gets tokens at most; once it has
them the session stays marked, and a call that starts later is refused. -/
structure SingleUse (code : String) (database : Database) (calls : ι → TokenCall) : Prop where
  atMostOne : ∀ pool, FreeRun Database.execute (grants provider bson database calls) pool →
    ∀ first second response response', pool.Returned first (.ok response) →
      pool.Returned second (.ok response') → first = second
  staysMarked : ∀ pool, FreeRun Database.execute (grants provider bson database calls) pool →
    ∀ index response, pool.Returned index (.ok response) →
      ∀ record, pool.shared.findOne (has .code code) = some record →
        record.context.forfeited = true
  laterRefused : ∀ pool later, FreeRun Database.execute (grants provider bson database calls) pool →
    FreeRun Database.execute pool later →
    ∀ index response, pool.Returned index (.ok response) →
      ∀ other, pool.processes other = provider.mongoGrant bson (calls other) →
        ∀ outcome, later.Returned other outcome → outcome = .error .invalidGrant

variable {provider bson} {calls : ι → TokenCall}
  {pool : Pool ι mongoInterface Database (Except TokenError TokenResponse)}

/-- Where no call is redeemable, none returns tokens. -/
theorem not_returned_ok (presents : ∀ index, (calls index).request.code = code)
    (refused : ∀ index, ¬ provider.Redeemable (calls index) database)
    (run : FreeRun Database.execute (grants provider bson database calls) pool)
    (index : ι) (response : TokenResponse) : ¬ pool.Returned index (.ok response) := by
  have initially : (unserved code database).Holds Database.execute (fun _ => Refused)
      (grants provider bson database calls) fun _ => () :=
    ⟨.inl rfl, fun index => follows_unserved index (presents index) (refused index)⟩
  obtain ⟨ghosts, holds⟩ := run.follows (fun _ _ _ _ _ _ _ _ => trivial) initially
  intro returned
  obtain ⟨error, impossible⟩ := holds.returned returned
  exact nomatch impossible

variable {record : Record}

theorem execute_getByAuthorizationCode
    (hasCode : code ≠ "") (found : database.findOne (has .code code) = some record) :
    execute bson (.getByAuthorizationCode code) database = (.ok record.unmarshal, database) := by
  simp [execute, method, getByAuthorizationCode, getByField, find, Database.execute, hasCode, found]

theorem execute_markCodeAsForfeited
    (named : record.sessionID ≠ "") (stored : database.lookup record.sessionID = some record)
    (unused : record.context.forfeited = false) :
    execute bson (.markCodeAsForfeited record.unmarshal.sessionID) database =
      (.ok (), database.write (marked record)) := by
  change execute bson (.markCodeAsForfeited record.sessionID) database = _
  have markable : database.findOne (fun other =>
      other.isSession record.sessionID && other.notForfeited) = some record := by
    have search := findOne_key_and database record.sessionID notForfeited
    rw [stored, filter_some, if_pos (by simp [notForfeited, unused])] at search
    exact search
  simp only [execute, method, markCodeAsForfeited, if_neg named,
    run_call, Database.execute, markable, updateOne_of_findOne markable]
  rfl

theorem execute_update {old : Record} {doc : AuthorizationContext}
    (named : doc.sessionID ≠ "") (valid : doc.validate = true)
    (stored : database.lookup doc.sessionID = some old) :
    execute bson (.update doc) database = (.ok (), database.write (bson.marshal doc)) := by
  have replaceable : Database.replaced database (fun _ => true) (bson.marshal doc) = some old := by
    have search := findOne_key_and database doc.sessionID fun _ => true
    rw [stored] at search
    exact search
  simp only [execute, method, update, replace,
    if_neg named, valid, Bool.not_true, Bool.false_eq_true, if_false, run_call,
    Database.execute, replaceable]
  rfl

/-- The steps of a grant on a session that is stored as it has been read. -/
theorem run_redeem {call : TokenCall} {idToken : String} {response : TokenResponse}
    (stored : database.lookup record.sessionID = some record) (named : record.sessionID ≠ "")
    (unused : record.context.forfeited = false)
    (issues : provider.issueTokens call record.unmarshal =
      .ok (issued record.unmarshal idToken, response))
    (valid : (issued record.unmarshal idToken).validate = true) :
    (provider.redeem call record.unmarshal).run (execute bson) database =
      (.ok response, (database.write (marked record)).write
        (bson.marshal (issued record.unmarshal idToken))) := by
  have markedStored : (database.write (marked record)).lookup
      (issued record.unmarshal idToken).sessionID = some (marked record) :=
    (lookup_write ..).trans (if_pos rfl)
  have named' : (issued record.unmarshal idToken).sessionID ≠ "" := named
  rw [redeem, run_call, execute_markCodeAsForfeited named stored unused]
  simp only [issueAndUpdate, issues]
  rw [run_call, execute_update named' valid markedStored]
  rfl

/-- A redeemable call that is served alone gets tokens, and the session it writes
back is not marked. -/
theorem run_of_redeemable {call : TokenCall} (redeemable : provider.Redeemable call database) :
    ∃ response record,
      ((provider.mongoGrant bson call).run Database.execute database).1 = .ok response ∧
      ((provider.mongoGrant bson call).run Database.execute database).2.findOne
        (has .code call.request.code) = some record ∧
      record.context.forfeited = false := by
  obtain ⟨record, client, idToken, hasCode, found, unused, timely, named, serves, valid⟩ :=
    redeemable
  obtain ⟨response, issues⟩ := issueTokens_iff_serves.mpr ⟨client, idToken, serves, rfl⟩
  have stored := (lookup_of_findOne found).1
  have final : (provider.mongoGrant bson call).run Database.execute database =
      (.ok response, (database.write (marked record)).write
        (bson.marshal (issued record.unmarshal idToken))) := by
    rw [mongoGrant, run_interpret]
    change (provider.handleAuthorizationCodeGrant call).run (execute bson) database = _
    have inTime : ¬ call.now > record.unmarshal.codeExpiresAt := Int.not_lt.mpr timely
    rw [handleAuthorizationCodeGrant, run_call, execute_getByAuthorizationCode hasCode found]
    simp only [unmarshal_forfeited, unused, if_neg inTime]
    exact run_redeem stored named unused issues valid
  have accepted := (lookup_of_findOne found).2
  have foundMarked : (database.write (marked record)).findOne
      (has .code call.request.code) = some (marked record) :=
    findOne_write_of_findOne found rfl accepted
  refine ⟨response, bson.marshal (issued record.unmarshal idToken), ?_, ?_, unused⟩
  · rw [final]
  · rw [final]
    exact findOne_write_of_findOne foundMarked rfl accepted

/-- The pool in which such a call has been served while the others wait. -/
theorem redeemable_returns {index : ι} (presents : (calls index).request.code = code)
    (redeemable : provider.Redeemable (calls index) database) :
    ∃ pool response record, FreeRun Database.execute (grants provider bson database calls) pool ∧
      pool.Returned index (.ok response) ∧
      pool.shared.findOne (has .code code) = some record ∧
      record.context.forfeited = false := by
  obtain ⟨response, record, returns, found, unmarked⟩ :=
    run_of_redeemable redeemable
  obtain ⟨pool, run, returned, shared, _⟩ :=
    FreeRun.alone Database.execute (grants provider bson database calls) index
  refine ⟨pool, response, record, run, returned.trans (congrArg _ returns), ?_, unmarked⟩
  rw [shared, ← presents]
  exact found

/-- Steps that mark a code only as long as no session has been written back. -/
def MarksFirst (pool : Pool ι mongoInterface Database (Except TokenError TokenResponse))
    (index : ι) : Prop :=
  ∀ filter update next, pool.processes index = .call (.updateOne filter update) next →
    ¬ WroteBack pool.trace

theorem at_most_one_of_marksFirst (presents : ∀ index, (calls index).request.code = code)
    (run : Run Database.execute MarksFirst (grants provider bson database calls) pool)
    {first second : ι} {response response' : TokenResponse}
    (returned : pool.Returned first (.ok response))
    (returnedToo : pool.Returned second (.ok response')) : first = second := by
  have initially : (winners code database).Holds Database.execute (fun _ => OnlyWinner)
      (grants provider bson database calls) fun _ => .waiting :=
    ⟨⟨fun _ _ => nofun, fun _ => nofun, fun _ => .inl rfl, fun _ _ => nofun⟩,
      fun index => follows_winner index (presents index)⟩
  have admits : ∀ (pool : Pool ι mongoInterface Database _) phases index request next,
      (winners code database).Holds Database.execute (fun _ => OnlyWinner) pool phases →
      pool.processes index = .call request next → MarksFirst pool index →
      (winners code database).guard index request pool.shared pool.trace phases := by
    intro pool phases index request next _ pending first filter update isUpdate
    subst isUpdate
    exact first filter _ next pending
  obtain ⟨phases, holds⟩ := run.follows admits initially
  exact holds.1.unique _ _ (holds.returned returned ⟨_, rfl⟩) (holds.returned returnedToo ⟨_, rfl⟩)

/-- The code is used once at most, and its session stays marked, exactly when no
call can redeem the code at all.  It is the writing back that takes the mark away:
in the runs in which every mark is made before, one call gets tokens at most. -/
theorem single_use_iff_not_redeemable {code : String} {database : Database}
    {calls : ι → TokenCall} (presents : ∀ index, (calls index).request.code = code) :
    (SingleUse provider bson code database calls ↔
      ∀ index, ¬ provider.Redeemable (calls index) database) ∧
    ∀ pool, Run Database.execute MarksFirst (grants provider bson database calls) pool →
      ∀ first second response response', pool.Returned first (.ok response) →
        pool.Returned second (.ok response') → first = second := by
  refine ⟨⟨?_, ?_⟩, ?_⟩
  · intro single index redeemable
    obtain ⟨pool, response, record, run, returned, found, unmarked⟩ :=
      redeemable_returns (presents index) redeemable
    have isMarked := single.staysMarked pool run index response returned record found
    rw [unmarked] at isMarked
    contradiction
  · intro refused
    refine ⟨?_, ?_, ?_⟩
    · intro pool run first _ response _ returned
      exact absurd returned (not_returned_ok presents refused run first response)
    · intro pool run index response returned
      exact absurd returned (not_returned_ok presents refused run _ _)
    · intro pool _ run _ index response returned
      exact absurd returned (not_returned_ok presents refused run _ _)
  · intro pool run first second response response' returned returnedToo
    exact at_most_one_of_marksFirst presents run returned returnedToo

/-! ### A code that is redeemed twice -/

/-- A provider without user info, whose tokens all read alike. -/
def plainProvider : Provider where
  issuer := "https://op"
  idTokenDuration := 600
  accessTokenDuration := 600
  enableUserInfo := false
  subjectType := "public"
  subjectSalt := "salt"
  staticClients := [⟨"rp", "secret", ""⟩]
  getByClientID _ := some none
  passwordMatches _ _ := false
  sha256 text := text
  makeJWT _ _ := some "jwt"

/-- The session of the code `code`, marked or not. -/
def codeSession (forfeited : Bool) : Database :=
  (empty : Database).write
    { context :=
        { sessionID := "session", clientID := "rp", code := "code", codeExpiresAt := 100,
          redirectURI := "https://rp/cb", forfeited } }

/-- The request of the client that the code was issued to. -/
def codeCall : TokenCall where
  request :=
    { code := "code", redirectURI := "https://rp/cb", clientID := "rp", clientSecret := "secret" }
  now := 50

/-- Two calls, one after the other, both get tokens. -/
theorem code_redeemed_twice :
    ∃ pool response, FreeRun Database.execute
        (grants plainProvider .lossless (codeSession false) fun _ : Bool => codeCall) pool ∧
      pool.Returned false (.ok response) ∧ pool.Returned true (.ok response) ∧
      (pool.shared.findOne (has .code "code")).map (·.context.forfeited) = some false :=
  ⟨_, _, FreeRun.schedule _ _ [false, false, false, true, true, true], rfl, rfl, by decide⟩

/-- The theorem at a session that is already marked. -/
theorem marked_code_single_use :
    SingleUse plainProvider .lossless "code" (codeSession true) fun _ : Bool => codeCall := by
  have presents : ∀ _ : Bool, codeCall.request.code = "code" := fun _ => rfl
  refine (single_use_iff_not_redeemable presents).1.mpr ?_
  rintro _ ⟨record, client, idToken, _, found, unused, _⟩
  have isMarked : ((codeSession true).findOne (has .code codeCall.request.code)).map
      (·.context.forfeited) = some true := by
    decide
  rw [found, map_some, unused] at isMarked
  exact nomatch isMarked

end Vc.Verifier
