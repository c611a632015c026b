import Vc.Cache.MemoryContract
import Vc.Cache.MongoContract

/-!
# Accounting of pre-authorized redemptions

Five calls share the members that limit how often a pre-authorized code can be
used: redemption, transaction-code attempts, the two ways to forfeit a code,
and consent.  Every sequence of these calls keeps the limits, whichever store
serves them.

`AccountingStep` says once what such a call can do; the bounds, the growth of
the counters and the effect of every answer are read off it.
-/

namespace Vc.Cache

open List Except Int

def StoreCall.IsAccounting : StoreCall → Prop
  | .redeemPreAuthorizedCode _ _ | .consumeTXCodeAttempt _ | .forfeitAuthorizationCode _
  | .markCodeAsForfeited _ | .consent _ => True
  | _ => False

namespace AuthorizationContext

/-- Distinct redeemers, at most `maxPreAuthRedeemers` of them, and at most
`maxTXCodeAttempts` transaction-code attempts. -/
structure WithinBounds (doc : AuthorizationContext) : Prop where
  distinct : doc.redeemedBy.Nodup
  redeemers : doc.redeemedBy.length ≤ maxPreAuthRedeemers
  attempts : doc.txCodeAttempts ≤ maxTXCodeAttempts

/-- The redeemers and the attempts only grow, and a forfeited code stays so. -/
structure Grows (before after : AuthorizationContext) : Prop where
  redeemers : before.redeemedBy <+: after.redeemedBy
  attempts : before.txCodeAttempts ≤ after.txCodeAttempts
  forfeited : before.forfeited → after.forfeited

theorem Grows.refl (doc : AuthorizationContext) : doc.Grows doc :=
  ⟨prefix_refl _, le_refl _, id⟩

theorem Grows.trans {first second third : AuthorizationContext}
    (left : first.Grows second) (right : second.Grows third) : first.Grows third where
  redeemers := left.redeemers.trans right.redeemers
  attempts := le_trans left.attempts right.attempts
  forfeited := right.forfeited ∘ left.forfeited

end AuthorizationContext

/-- What a call does to one context, by its answer.  A successful redemption or
attempt finds its own context unforfeited and leaves every other one alone; a
failing call changes nothing, except that exceeding the attempts forfeits. -/
def Effect : (call : StoreCall) → Except StoreError call.Result →
    AuthorizationContext → AuthorizationContext → Prop
  | .redeemPreAuthorizedCode _ dpopThumbprint, .ok result, before, after =>
    if result.sessionID = before.sessionID then
      before.forfeited = false ∧ dpopThumbprint ∉ before.redeemedBy ∧
        after = before.redeem dpopThumbprint ∧ result = after
    else after = before
  | .consumeTXCodeAttempt _, .ok result, before, after =>
    if result.sessionID = before.sessionID then
      before.forfeited = false ∧ after = before.attempt ∧ result = after
    else after = before
  | _, .ok _, _, _ => True
  | _, .error .txCodeAttemptsExceeded, before, after => after = before ∨ after = before.forfeit
  | _, .error _, before, after => after = before

/-- One call on one context: the bounds are kept, the counters grow, and the
answer tells the effect. -/
structure Accounted (call : StoreCall) (answer : Except StoreError call.Result)
    (before after : AuthorizationContext) : Prop where
  bounds : after.WithinBounds
  grows : before.Grows after
  effect : Effect call answer before after

namespace ContractStore

variable {σ : Type} (store : ContractStore σ)

def documents (state : σ) : Documents :=
  (store.reading state).byID

/-- The state after a sequence of calls. -/
def after (calls : List StoreCall) (state : σ) : σ :=
  calls.foldl (fun state call => (store.execute call state).2) state

/-- Every sequence of accounting calls keeps the accounts of every context, and
so does every accounting call made after it.  A call that answers that the
attempts are exceeded forfeits the context of the code, which was not forfeited. -/
def KeepsAccounts : Prop :=
  ∀ (start : σ) (calls : List StoreCall), (∀ call ∈ calls, call.IsAccounting) →
    (∀ id first, store.documents start id = some first → first.WithinBounds →
      ∃ before, store.documents (store.after calls start) id = some before ∧
        before.WithinBounds ∧ first.Grows before ∧
        ∀ call, call.IsAccounting →
          ∃ after, store.documents (store.execute call (store.after calls start)).2 id =
              some after ∧
            Accounted call (store.execute call (store.after calls start)).1 before after) ∧
    ∀ code, (store.execute (.consumeTXCodeAttempt code) (store.after calls start)).1 =
        .error .txCodeAttemptsExceeded →
      ∃ id doc, (store.reading (store.after calls start)).byAttempt code = some doc ∧
        store.documents (store.after calls start) id = some doc ∧ doc.forfeited = false ∧
        store.documents
          (store.execute (.consumeTXCodeAttempt code) (store.after calls start)).2 id =
            some doc.forfeit

end ContractStore

/-! ## What an accounting call can do -/

/-- The decisions that an accounting call can come to. -/
inductive AccountingStep (reading : Reading) : (call : StoreCall) → Decision call.Result → Prop
  | refuse (call : StoreCall) : AccountingStep reading call refuse
  | redeem {doc : AuthorizationContext} (code dpopThumbprint : String)
      (stored : reading.byID doc.sessionID = some doc) (active : doc.forfeited = false)
      (fresh : dpopThumbprint ∉ doc.redeemedBy)
      (room : doc.redeemedBy.length < maxPreAuthRedeemers) :
      AccountingStep reading (.redeemPreAuthorizedCode code dpopThumbprint)
        (rewrite (doc.redeem dpopThumbprint))
  | attempt {doc : AuthorizationContext} (code : String)
      (stored : reading.byID doc.sessionID = some doc) (active : doc.forfeited = false)
      (room : doc.txCodeAttempts < maxTXCodeAttempts) :
      AccountingStep reading (.consumeTXCodeAttempt code) (rewrite doc.attempt)
  | exceed {doc : AuthorizationContext} (code : String) (found : reading.byAttempt code = some doc)
      (stored : reading.byID doc.sessionID = some doc) (active : doc.forfeited = false) :
      AccountingStep reading (.consumeTXCodeAttempt code)
        (.error .attemptsExceeded, .write doc.forfeit)
  | forfeit {doc : AuthorizationContext} (query : AuthorizationContext)
      (stored : reading.byID doc.sessionID = some doc) :
      AccountingStep reading (.forfeitAuthorizationCode query) (rewrite doc.forfeit)
  | mark {doc : AuthorizationContext} (id : String)
      (stored : reading.byID doc.sessionID = some doc) :
      AccountingStep reading (.markCodeAsForfeited id) (write doc.forfeit)
  | consent {doc : AuthorizationContext} (query : AuthorizationContext)
      (stored : reading.byID doc.sessionID = some doc) :
      AccountingStep reading (.consent query) (write doc.giveConsent)

variable {call : StoreCall} {reading : Reading}

theorem onFound_accountingStep
    {found : Option AuthorizationContext} {work : AuthorizationContext → Decision call.Result}
    (step : ∀ doc, found = some doc → AccountingStep reading call (work doc)) :
    AccountingStep reading call (onFound found work) := by
  cases found with
  | none => exact .refuse _
  | some doc => exact step doc rfl

variable {decision : Decision call.Result}

theorem guard_accountingStep {condition : Prop} [Decidable condition]
    (step : ¬ condition → AccountingStep reading call decision) :
    AccountingStep reading call (if condition then refuse else decision) := by
  by_cases holds : condition
  · rw [if_pos holds]
    exact .refuse _
  · rw [if_neg holds]
    exact step holds

/-- The contract decides every accounting call in one of these ways. -/
theorem decide_accountingStep (sound : reading.Sound)
    (accounting : call.IsAccounting) : AccountingStep reading call (reading.decide call) := by
  cases call <;> try contradiction
  case forfeitAuthorizationCode query =>
    exact onFound_accountingStep fun doc found => guard_accountingStep fun _ =>
      .forfeit _ (sound.byForfeit found)
  case markCodeAsForfeited id =>
    refine guard_accountingStep fun _ => onFound_accountingStep fun doc found =>
      guard_accountingStep fun _ => .mark id ?_
    rw [sound.byID found]
    exact found
  case redeemPreAuthorizedCode code dpopThumbprint =>
    exact guard_accountingStep fun _ => guard_accountingStep fun _ =>
      guard_accountingStep fun _ => onFound_accountingStep fun doc found =>
        guard_accountingStep fun active => guard_accountingStep fun fresh =>
          guard_accountingStep fun room => .redeem _ _
            (sound.byRedemption found) (by simpa using active) fresh (Nat.not_le.mp room)
  case consumeTXCodeAttempt code =>
    refine guard_accountingStep fun _ => onFound_accountingStep fun doc found =>
      guard_accountingStep fun active => ?_
    split_ifs with exhausted
    · exact .exceed _ found (sound.byAttempt found) (by simpa using active)
    · exact .attempt _ (sound.byAttempt found) (by simpa using active)
        (not_le.mp exhausted)
  case consent query =>
    exact guard_accountingStep fun _ => onFound_accountingStep fun doc found =>
      .consent _ (sound.byField found)

/-! ## One call -/

theorem error_of_mapError {α : Type} {answer : Except StoreError α} {refusal : Refusal}
    (answered : answer.mapError StoreError.refusal = .error refusal) :
    ∃ error, answer = .error error ∧ error.refusal = refusal := by
  cases answer with
  | error error => exact ⟨error, rfl, Except.error.inj answered⟩
  | ok result => contradiction

theorem ok_of_mapError {α : Type} {answer : Except StoreError α} {result : α}
    (answered : answer.mapError StoreError.refusal = .ok result) : answer = .ok result := by
  cases answer with
  | error error => contradiction
  | ok other => exact congrArg ok (ok.inj answered)

variable {before : AuthorizationContext} {id : String}

namespace AuthorizationContext

variable {doc : AuthorizationContext}

section

variable (bounds : doc.WithinBounds)

include bounds

theorem WithinBounds.redeem {dpopThumbprint : String} (fresh : dpopThumbprint ∉ doc.redeemedBy)
    (room : doc.redeemedBy.length < maxPreAuthRedeemers) :
    (doc.redeem dpopThumbprint).WithinBounds where
  distinct := by
    refine nodup_append.mpr ⟨bounds.distinct, by simp, ?_⟩
    rintro other member _ new rfl
    rw [mem_singleton] at new
    exact fresh (new ▸ member)
  redeemers := by
    rw [AuthorizationContext.redeem, length_append]
    exact room
  attempts := bounds.attempts

theorem WithinBounds.attempt
    (room : doc.txCodeAttempts < maxTXCodeAttempts) : doc.attempt.WithinBounds where
  distinct := bounds.distinct
  redeemers := bounds.redeemers
  attempts := room

theorem WithinBounds.forfeit : doc.forfeit.WithinBounds :=
  ⟨bounds.distinct, bounds.redeemers, bounds.attempts⟩

theorem WithinBounds.giveConsent : doc.giveConsent.WithinBounds :=
  ⟨bounds.distinct, bounds.redeemers, bounds.attempts⟩

end

variable (doc)

theorem Grows.redeem (dpopThumbprint : String) : doc.Grows (doc.redeem dpopThumbprint) :=
  ⟨prefix_append _ _, le_refl _, id⟩

theorem Grows.attempt : doc.Grows doc.attempt :=
  ⟨prefix_refl _, le_add_of_nonneg_right (by decide), id⟩

theorem Grows.forfeit : doc.Grows doc.forfeit :=
  ⟨prefix_refl _, le_refl _, fun _ => rfl⟩

theorem Grows.giveConsent : doc.Grows doc.giveConsent :=
  ⟨prefix_refl _, le_refl _, id⟩

end AuthorizationContext

/-- A call that writes the next version of one document accounts for every
context, if it does so for that one and spares the others. -/
theorem accounted_of_write {documents : Documents} {doc next : AuthorizationContext}
    {answer : Except StoreError call.Result}
    (keyed : ∀ {id doc}, documents id = some doc → doc.sessionID = id)
    (stored : documents doc.sessionID = some doc) (same : next.sessionID = doc.sessionID)
    (present : documents id = some before) (bounds : before.WithinBounds)
    (target : doc = before → Accounted call answer before next)
    (elsewhere : doc.sessionID ≠ before.sessionID → Effect call answer before before) :
    ∃ after, Change.apply documents (.write next) id = some after ∧
      Accounted call answer before after := by
  rw [Change.apply, Function.update_apply, same]
  have sameID := keyed present
  by_cases written : id = doc.sessionID
  · subst written
    rw [stored] at present
    cases present
    exact ⟨next, if_pos rfl, target rfl⟩
  · rw [if_neg written]
    exact ⟨before, present, bounds, .refl _,
      elsewhere fun equal => written (sameID.symm.trans equal.symm)⟩

/-- One accounting call keeps the accounts of every context. -/
theorem AccountingStep.accounted (sound : reading.Sound)
    (step : AccountingStep reading call decision)
    (present : reading.byID id = some before) (bounds : before.WithinBounds)
    {answer : Except StoreError call.Result}
    (answered : answer.mapError StoreError.refusal = decision.1) :
    ∃ after, decision.2.apply reading.byID id = some after ∧
      Accounted call answer before after := by
  cases step with
  | refuse call =>
    obtain ⟨error, rfl, _⟩ := error_of_mapError answered
    refine ⟨before, present, bounds, .refl _, ?_⟩
    cases call <;> cases error <;> first | rfl | exact .inl rfl
  | redeem code dpopThumbprint stored active fresh room =>
    obtain rfl := ok_of_mapError answered
    refine accounted_of_write sound.byID stored rfl present bounds ?_ fun other =>
      (if_neg other).mpr rfl
    rintro rfl
    exact ⟨bounds.redeem fresh room, .redeem _ _, (if_pos rfl).mpr ⟨active, fresh, rfl, rfl⟩⟩
  | attempt code stored active room =>
    obtain rfl := ok_of_mapError answered
    refine accounted_of_write sound.byID stored rfl present bounds ?_ fun other =>
      (if_neg other).mpr rfl
    rintro rfl
    exact ⟨bounds.attempt room, .attempt _, (if_pos rfl).mpr ⟨active, rfl, rfl⟩⟩
  | exceed code _ stored active =>
    obtain ⟨error, rfl, kind⟩ := error_of_mapError answered
    obtain rfl : error = .txCodeAttemptsExceeded := by
      cases error <;> first | rfl | contradiction
    refine accounted_of_write sound.byID stored rfl present bounds ?_ fun _ => .inl rfl
    rintro rfl
    exact ⟨bounds.forfeit, .forfeit _, .inr rfl⟩
  | forfeit query stored | mark id stored =>
    obtain rfl := ok_of_mapError answered
    refine accounted_of_write sound.byID stored rfl present bounds ?_ fun _ => trivial
    rintro rfl
    exact ⟨bounds.forfeit, .forfeit _, trivial⟩
  | consent query stored =>
    obtain rfl := ok_of_mapError answered
    refine accounted_of_write sound.byID stored rfl present bounds ?_ fun _ => trivial
    rintro rfl
    exact ⟨bounds.giveConsent, .giveConsent _, trivial⟩

/-! ## Every sequence of calls -/

namespace ContractStore

variable {σ : Type} (store : ContractStore σ)

/-- The step lemma: an accounting call of any store that keeps the contract. -/
theorem execute_accounted (state : σ) (accounting : call.IsAccounting)
    (present : store.documents state id = some before) (bounds : before.WithinBounds) :
    ∃ after, store.documents (store.execute call state).2 id = some after ∧
      Accounted call (store.execute call state).1 before after := by
  have decided := store.decides call state
  obtain ⟨after, changed, accounted⟩ :=
    (decide_accountingStep (store.sound state) accounting).accounted (store.sound state)
      present bounds decided.answer
  refine ⟨after, ?_, accounted⟩
  rw [← decided.change] at changed
  exact changed

/-- The run lemma: bounds and growth over a sequence of accounting calls. -/
theorem after_accounted (calls : List StoreCall)
    (accounting : ∀ call ∈ calls, call.IsAccounting) (start : σ)
    {first : AuthorizationContext} (present : store.documents start id = some first)
    (bounds : first.WithinBounds) :
    ∃ before, store.documents (store.after calls start) id = some before ∧
      before.WithinBounds ∧ first.Grows before := by
  induction calls generalizing start first with
  | nil => exact ⟨first, present, bounds, .refl first⟩
  | cons call rest ih =>
    obtain ⟨second, stored, accounted⟩ :=
      store.execute_accounted start (accounting call mem_cons_self) present bounds
    obtain ⟨before, last, kept, grows⟩ := ih
      (fun other member => accounting other (mem_cons_of_mem _ member))
      (store.execute call start).2 stored accounted.bounds
    exact ⟨before, last, kept, accounted.grows.trans grows⟩

/-- Exceeding the attempts forfeits the context of the code. -/
theorem forfeits_of_exceeded (state : σ) (code : String)
    (exceeded : (store.execute (.consumeTXCodeAttempt code) state).1 =
      .error .txCodeAttemptsExceeded) :
    ∃ id doc, (store.reading state).byAttempt code = some doc ∧
      store.documents state id = some doc ∧ doc.forfeited = false ∧
      store.documents (store.execute (.consumeTXCodeAttempt code) state).2 id =
        some doc.forfeit := by
  have decided := store.decides (.consumeTXCodeAttempt code) state
  have accounting : (StoreCall.consumeTXCodeAttempt code).IsAccounting := trivial
  have step := decide_accountingStep (store.sound state) accounting
  have answered := decided.answer
  have changed := decided.change
  rw [exceeded] at answered
  generalize (store.reading state).decide (.consumeTXCodeAttempt code) = decision
    at step answered changed
  cases step with
  | refuse => cases (error.inj answered : Refusal.attemptsExceeded = .refused)
  | attempt => contradiction
  | exceed _ found stored active =>
    refine ⟨_, _, found, stored, active, ?_⟩
    have written := congrFun changed
    rw [documents, written]
    exact Function.update_self _ _ _

/-- Every store that keeps the contract keeps the accounts. -/
theorem keepsAccounts : store.KeepsAccounts := by
  intro start calls accounting
  refine ⟨fun id first present bounds => ?_, fun code => store.forfeits_of_exceeded _ _⟩
  obtain ⟨before, stored, kept, grows⟩ :=
    store.after_accounted calls accounting start present bounds
  exact ⟨before, stored, kept, grows, fun call next =>
    store.execute_accounted _ next stored kept⟩

end ContractStore

/-- Both stores keep the accounts of pre-authorized redemptions over every
sequence of accounting calls. -/
theorem stores_keep_redemption_accounts (bson : Bson) :
    MemoryStore.contract.KeepsAccounts ∧ (MongoStore.contract bson).KeepsAccounts :=
  ⟨MemoryStore.contract.keepsAccounts, (MongoStore.contract _).keepsAccounts⟩

/-- A guess after the fifth one forfeits. -/
example :
    let store := (MemoryStore.empty.save { sessionID := "s", code := "a", txCodeAttempts := 5 } 1).2
    ((store.consumeTXCodeAttempt "a").2.cache "s").map (·.forfeited) = some true := by
  decide

end Vc.Cache
