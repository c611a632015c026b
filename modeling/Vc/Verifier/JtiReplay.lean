import Vc.Concurrent.Pool
import Vc.Verifier.TransactionAuthorisation

/-!
# Replay of key-binding JWTs

`VerificationDirectPost` from the first write on: the jtis of the presented
key-binding JWTs are claimed one by one, then the credentials and the session are
written, and a failure on the way releases the jtis that were claimed until then.
Any number of posts are interleaved, and every write but a release may fail.

The invariant is one of ownership: the replay store holds the jtis that were in it
at first and those that some post holds, each of them held by one post.
-/

namespace Vc.Verifier.DirectPost

open Concurrent Openid4vp Function List Protocol Option

/-- The writes of a direct post. -/
inductive StoreCall where
  /-- `SetNX` of the replay store -/
  | claim (jti : String)
  /-- `Delete` of the replay store -/
  | release (jti : String)
  /-- `SetNX` of the credential cache -/
  | storeCredentials (caches : List (String × Members))
  /-- `Save` of the session -/
  | saveContext

/-- What a write answers. -/
def StoreCall.Answer : StoreCall → Type
  | .claim _ | .storeCredentials _ => Except String Bool
  | .release _ => Unit
  | .saveContext => Except String Unit

/-- The stores of a direct post. -/
def storeInterface : Interface := ⟨StoreCall, StoreCall.Answer⟩

/-- The replay store, and the number of writes so far. -/
structure Stores where
  used : List String
  writes : Nat := 0

/-- The atomic effect of a write.  The backend says which writes fail, and what the credential
cache answers. -/
def execute (backend : Nat → Except String Bool) : Executor storeInterface Stores
  | .claim jti, stores =>
    match backend stores.writes with
    | .error error => (.error error, { stores with writes := stores.writes + 1 })
    | .ok _ =>
      if jti ∈ stores.used then (.ok false, { stores with writes := stores.writes + 1 })
      else (.ok true, { used := jti :: stores.used, writes := stores.writes + 1 })
  | .release jti, stores =>
    ((), { used := stores.used.filter (· ≠ jti), writes := stores.writes + 1 })
  | .storeCredentials _, stores =>
    (backend stores.writes, { stores with writes := stores.writes + 1 })
  | .saveContext, stores =>
    ((backend stores.writes).map fun _ => (), { stores with writes := stores.writes + 1 })

/-! ## The process -/

/-- The deferred release of the jtis that were claimed. -/
def rollBack (error : ValidationError) :
    List String → Process storeInterface (Except ValidationError Unit)
  | [] => .done (.error error)
  | jti :: rest => .call (.release jti) fun _ => rollBack error rest

/-- The writes of the credentials and of the session. -/
def persist (caches : List (String × Members)) (claimed : List String) :
    Process storeInterface (Except ValidationError Unit) :=
  .call (.storeCredentials caches) fun
    | .error error => rollBack (.other ("credential cache persist: " ++ error)) claimed
    | .ok false => rollBack (.other "credential cache persist: unexpected id collision") claimed
    | .ok true => .call .saveContext fun
        | .error error => rollBack (.other error) claimed
        | .ok _ => .done (.ok ())

/-- `claimJTI` for each presented jti, after those that are claimed. -/
def claimJTIs (caches : List (String × Members)) :
    List String → List String → Process storeInterface (Except ValidationError Unit)
  | claimed, [] => persist caches claimed
  | claimed, jti :: rest => .call (.claim jti) fun
      | .error error =>
        rollBack (.transactionData ("cannot verify jti freshness: " ++ error)) claimed
      | .ok false => rollBack (.transactionData "jti has been used before") claimed
      | .ok true => claimJTIs caches (claimed ++ [jti]) rest

/-- A call of the handler. -/
structure Post (Key : Type) where
  client : Client Key
  session : Session
  response : Response

variable {Key : Type}

def Post.presentedJTIs (post : Post Key) : List String :=
  match verifyResponse post.client post.session post.response with
  | .error _ => []
  | .ok entries => entries.flatMap (·.jtis)

def Post.verificationDirectPost (post : Post Key) :
    Process storeInterface (Except ValidationError Unit) :=
  match verifyResponse post.client post.session post.response with
  | .error error => .done (.error error)
  | .ok entries =>
    claimJTIs (credentialCaches post.session entries) [] (entries.flatMap (·.jtis))

/-! ## Ownership -/

variable {ι : Type}

/-- What one write does to the holder of a jti. -/
def changeHolder (jti : String) (holder : Option ι) : Entry ι storeInterface → Option ι
  | ⟨index, .claim claimed, .ok true⟩ => if claimed = jti then some index else holder
  | ⟨_, .release released, _⟩ => if released = jti then none else holder
  | _ => holder

/-- The post that has claimed a jti and not released it. -/
def holder (trace : List (Entry ι storeInterface)) (jti : String) : Option ι :=
  trace.foldl (changeHolder jti) none

theorem holder_append (trace : List (Entry ι storeInterface)) (entry : Entry ι storeInterface)
    (jti : String) :
    holder (trace ++ [entry]) jti = changeHolder jti (holder trace jti) entry := by
  rw [holder, foldl_append]
  rfl

/-- The jtis that a post holds, and whether it has begun to release them. -/
structure Holding where
  held : List String
  failing : Bool := false

/-- Who holds which jtis, after the writes of a trace. -/
structure Ownership (initial : List String) (stores : Stores)
    (trace : List (Entry ι storeInterface)) (holdings : ι → Holding) : Prop where
  holder : ∀ jti index, holder trace jti = some index ↔ jti ∈ (holdings index).held
  nodup : ∀ index, (holdings index).held.Nodup
  used : ∀ jti, jti ∈ stores.used ↔ jti ∈ initial ∨ ∃ index, jti ∈ (holdings index).held
  apart : ∀ jti ∈ initial, ∀ index, jti ∉ (holdings index).held
  claimed : ∀ index jti, ⟨index, .claim jti, .ok true⟩ ∈ trace → jti ∉ initial
  released : ∀ before index jti answer after,
    trace = before ++ ⟨index, .release jti, answer⟩ :: after →
      DirectPost.holder before jti = some index ∧ (holdings index).failing

/-- A write at the end of a trace is the last one, or one of those before. -/
theorem last_or_before {α : Type} {trace before after : List α} {entry last : α}
    (same : trace ++ [last] = before ++ entry :: after) :
    (before = trace ∧ entry = last) ∨ ∃ rest, trace = before ++ entry :: rest := by
  rcases eq_nil_or_concat after with rfl | ⟨rest, final, rfl⟩
  · obtain ⟨rfl, single⟩ := append_inj' same rfl
    exact .inl ⟨rfl, (singleton_inj.mp single).symm⟩
  · rw [concat_eq_append, ← cons_append, ← append_assoc] at same
    exact .inr ⟨rest, (append_inj' same rfl).1⟩

namespace Ownership

variable {initial : List String} {stores after : Stores}
  {trace : List (Entry ι storeInterface)} {holdings : ι → Holding}

section

variable (owned : Ownership initial stores trace holdings)

include owned

/-- A write that is neither a successful claim nor a release. -/
theorem unchanged {entry : Entry ι storeInterface} (same : after.used = stores.used)
    (other : ∀ jti holder, changeHolder jti holder entry = holder)
    (keeps : ∀ jti, entry.request ≠ .release jti) :
    Ownership initial after (trace ++ [entry]) holdings where
  holder jti index := by rw [holder_append, other, owned.holder]
  nodup := owned.nodup
  used jti := by rw [same, owned.used]
  apart := owned.apart
  claimed index jti member := by
    rcases mem_append.mp member with earlier | last
    · exact owned.claimed _ jti earlier
    · obtain rfl := mem_singleton.mp last
      simpa [changeHolder] using other jti none
  released before index jti answer _ split := by
    rcases last_or_before split with ⟨_, rfl⟩ | ⟨rest, split⟩
    · exact absurd rfl (keeps jti)
    · exact owned.released _ _ jti _ _ split

/-- A claim that succeeds. -/
theorem claim [DecidableEq ι] {index : ι} {jti : String}
    {holding : Holding} (current : holdings index = holding) (fresh : jti ∉ stores.used)
    (used : after.used = jti :: stores.used) :
    Ownership initial after (trace ++ [⟨index, .claim jti, .ok true⟩])
      (update holdings index { holding with held := holding.held ++ [jti] }) := by
  subst current
  have unheld : jti ∉ initial ∧ ∀ other, jti ∉ (holdings other).held := by
    rw [owned.used, not_or, not_exists] at fresh
    exact fresh
  have heldBy (key : String) (other : ι) : key ∈ (update holdings index
      { holdings index with held := (holdings index).held ++ [jti] } other).held ↔
      key ∈ (holdings other).held ∨ (other = index ∧ key = jti) := by
    by_cases here : other = index
    · subst here
      simp
    · simp [here]
  refine ⟨fun key other => ?_, fun other => ?_, fun key => ?_, fun key inInitial other => ?_,
    fun other key member => ?_, fun before other key answer later split => ?_⟩
  · rw [heldBy, holder_append]
    by_cases here : jti = key
    · subst here
      simp [changeHolder, unheld.2, eq_comm]
    · simp [changeHolder, here, Ne.symm here, owned.holder]
  · by_cases here : other = index
    · subst here
      rw [update_self]
      exact nodup_append.mpr ⟨owned.nodup _, nodup_cons.mpr ⟨by simp, .nil⟩,
        fun key held last inLast => by
          rw [mem_singleton.mp inLast]
          exact fun same => unheld.2 _ (same ▸ held)⟩
    · simpa [here] using owned.nodup _
  · simp only [heldBy, used, mem_cons, owned.used, exists_or]
    tauto
  · rw [heldBy, not_or]
    exact ⟨owned.apart key inInitial _, fun both => unheld.1 (both.2 ▸ inInitial)⟩
  · rcases mem_append.mp member with earlier | last
    · exact owned.claimed _ key earlier
    · cases mem_singleton.mp last
      exact unheld.1
  · rcases last_or_before split with ⟨_, impossible⟩ | ⟨rest, split⟩
    · cases impossible
    · obtain ⟨own, failing⟩ := owned.released before other key answer rest split
      refine ⟨own, ?_⟩
      by_cases here : other = index
      · subst here
        simpa using failing
      · simpa [here] using failing

/-- The release of a jti that the post holds. -/
theorem release [DecidableEq ι] {index : ι} {jti : String}
    {rest : List String} {failing : Bool} (current : holdings index = ⟨jti :: rest, failing⟩)
    (used : after.used = stores.used.filter (· ≠ jti)) :
    Ownership initial after (trace ++ [⟨index, .release jti, ()⟩])
      (update holdings index ⟨rest, true⟩) := by
  have nodup := owned.nodup index
  rw [current] at nodup
  have mine : DirectPost.holder trace jti = some index :=
    (owned.holder jti index).mpr (by simp [current])
  -- no other post holds what this one releases
  have others : ∀ other, jti ∈ (holdings other).held → other = index := fun other held =>
    some.inj (((owned.holder jti other).mpr held).symm.trans mine)
  have heldBy (key : String) (other : ι) :
      key ∈ (update holdings index ⟨rest, true⟩ other).held ↔
        key ∈ (holdings other).held ∧ key ≠ jti := by
    by_cases here : other = index
    · subst here
      simp only [update_self, current, mem_cons]
      constructor
      · exact fun inRest => ⟨.inr inRest, fun same => (nodup_cons.mp nodup).1 (same ▸ inRest)⟩
      · exact fun both => both.1.resolve_left both.2
    · simp only [update_of_ne here]
      exact ⟨fun held => ⟨held, fun same => here (others _ (same ▸ held))⟩, And.left⟩
  refine ⟨fun key other => ?_, fun other => ?_, fun key => ?_, fun key inInitial other => ?_,
    fun other key member => ?_, fun before other key answer later split => ?_⟩
  · rw [heldBy, holder_append]
    by_cases here : jti = key
    · simp [changeHolder, here]
    · simp [changeHolder, here, Ne.symm here, owned.holder]
  · by_cases here : other = index
    · subst here
      simpa using (nodup_cons.mp nodup).2
    · simpa [here] using owned.nodup _
  · simp only [heldBy, used, mem_filter, decide_eq_true_eq, owned.used]
    constructor
    · rintro ⟨inInitial | ⟨other, held⟩, different⟩
      · exact .inl inInitial
      · exact .inr ⟨other, held, different⟩
    · rintro (inInitial | ⟨other, held, different⟩)
      · refine ⟨.inl inInitial, ?_⟩
        rintro rfl
        exact owned.apart key inInitial index (by simp [current])
      · exact ⟨.inr ⟨other, held⟩, different⟩
  · rw [heldBy]
    exact fun both => owned.apart key inInitial _ both.1
  · rcases mem_append.mp member with earlier | last
    · exact owned.claimed _ key earlier
    · cases mem_singleton.mp last
  · rcases last_or_before split with ⟨rfl, last⟩ | ⟨rest, split⟩
    · cases last
      exact ⟨mine, by simp⟩
    · obtain ⟨own, failed⟩ := owned.released before other key answer rest split
      refine ⟨own, ?_⟩
      by_cases here : other = index
      · subst here
        simp
      · simpa [here] using failed

end

end Ownership

/-! ## What the posts keep -/

/-- Ownership as the rule of the game. -/
def ownership (ι : Type) (initial : List String) : Protocol ι storeInterface Stores Holding where
  inv := Ownership initial
  guard _ _ _ _ _ := True

/-- What a post holds when it returns: all that it presented, or nothing. -/
def Post.Settles (post : Post Key) (holding : Holding) : Except ValidationError Unit → Prop
  | .ok _ => (verifyResponse post.client post.session post.response).isOk ∧
      holding.held = post.presentedJTIs ∧ holding.failing = false
  | .error _ => holding.held = []

section Follows

variable [DecidableEq ι] {initial : List String} {backend : Nat → Except String Bool}
  {index : ι} {post : Post Key}

/-- The rollback gives back all that is held, whoever called for it. -/
theorem follows_rollBack (error : ValidationError) (claimed : List String) (failing : Bool) :
    (ownership ι initial).Follows (execute backend) index post.Settles
      (rollBack error claimed) ⟨claimed, failing⟩ := by
  induction claimed generalizing failing with
  | nil => rfl
  | cons jti rest ih =>
    intro stores trace holdings owned current _
    exact ⟨⟨rest, true⟩, Ownership.release owned current rfl, ih _⟩

variable (caches : List (String × Members))

theorem follows_persist {claimed : List String}
    (verified : (verifyResponse post.client post.session post.response).isOk)
    (all : claimed = post.presentedJTIs) :
    (ownership ι initial).Follows (execute backend) index post.Settles
      (persist caches claimed) ⟨claimed, false⟩ := by
  refine follows_call_of_keep fun stores trace holdings owned _ _ => ?_
  refine ⟨Ownership.unchanged owned rfl (fun _ _ => rfl) (fun _ => nofun), ?_⟩
  rcases (execute _ (.storeCredentials _) _).1 with error | _ | _
  · exact follows_rollBack _ _ _
  · exact follows_rollBack _ _ _
  · refine follows_call_of_keep fun stores trace holdings owned _ _ => ?_
    refine ⟨Ownership.unchanged owned rfl (fun _ _ => rfl) (fun _ => nofun), ?_⟩
    rcases (execute _ .saveContext _).1 with error | _
    · exact follows_rollBack _ _ _
    · exact ⟨verified, all, rfl⟩

theorem follows_claimJTIs (claimed rest : List String)
    (verified : (verifyResponse post.client post.session post.response).isOk)
    (all : claimed ++ rest = post.presentedJTIs) :
    (ownership ι initial).Follows (execute backend) index post.Settles
      (claimJTIs caches claimed rest) ⟨claimed, false⟩ := by
  induction rest generalizing claimed with
  | nil => exact follows_persist _ verified ((append_nil _).symm.trans all)
  | cons jti rest ih =>
    intro stores trace holdings owned current _
    have same : update holdings index ⟨claimed, false⟩ = holdings :=
      current ▸ update_eq_self index holdings
    simp only [execute]
    split
    · refine ⟨⟨claimed, false⟩, ?_, follows_rollBack _ _ _⟩
      rw [same]
      exact Ownership.unchanged owned rfl (fun _ _ => rfl) (by rintro _ ⟨⟩)
    · split
      · refine ⟨⟨claimed, false⟩, ?_, follows_rollBack _ _ _⟩
        rw [same]
        exact Ownership.unchanged owned rfl (fun _ _ => rfl) (by rintro _ ⟨⟩)
      · next fresh =>
        refine ⟨⟨claimed ++ [jti], false⟩, Ownership.claim owned current fresh rfl, ?_⟩
        exact ih _ (by simpa using all)

end Follows

/-- Before the first write no post holds a jti. -/
theorem ownership_nil (stores : Stores) :
    Ownership stores.used stores ([] : List (Entry ι storeInterface)) fun _ => ⟨[], false⟩ where
  holder := by simp [holder]
  nodup := by simp
  used := by simp
  apart := by simp
  claimed := by simp
  released := by simp

section Runs

variable [DecidableEq ι] {backend : Nat → Except String Bool} {posts : ι → Post Key}
  {stores : Stores} {pool : Pool ι storeInterface Stores (Except ValidationError Unit)}

/-- In every reachable pool the jtis are owned, and the posts that returned have settled. -/
theorem exists_ownership (run : FreeRun (execute backend)
    (.initial stores fun index => (posts index).verificationDirectPost) pool) :
    ∃ holdings, Ownership stores.used pool.shared pool.trace holdings ∧
      ∀ index result, pool.Returned index result →
        (posts index).Settles (holdings index) result := by
  have initially : (ownership ι stores.used).Holds (execute backend)
      (fun index => (posts index).Settles)
      (.initial stores fun index => (posts index).verificationDirectPost)
      fun _ => ⟨[], false⟩ := by
    refine ⟨ownership_nil _, fun index => ?_⟩
    change Follows _ _ _ _ (posts index).verificationDirectPost _
    unfold Post.verificationDirectPost
    split
    · rfl
    · next entries verified =>
      exact follows_claimJTIs _ [] _ (by simp [verified, Except.isOk, Except.toBool])
        (by simp [Post.presentedJTIs, verified])
  obtain ⟨holdings, holds⟩ := Run.follows (fun _ _ _ _ _ _ _ _ => trivial) initially run
  exact ⟨holdings, holds.1, fun index result returned => holds.returned returned⟩

/-- However the posts are interleaved and whichever writes fail: at most one post that presents a
jti completes; a jti that a failed post claimed is recorded afterwards only for another post that
has claimed it; and no post releases a jti that is held by one that completes. -/
theorem presented_jtis_single_use (backend : Nat → Except String Bool) (posts : ι → Post Key)
    (stores : Stores) (pool : Pool ι storeInterface Stores (Except ValidationError Unit))
    (run : FreeRun (execute backend)
      (.initial stores fun index => (posts index).verificationDirectPost) pool) :
    (∀ first second jti, pool.Returned first (.ok ()) → pool.Returned second (.ok ()) →
      jti ∈ (posts first).presentedJTIs → jti ∈ (posts second).presentedJTIs →
      first = second) ∧
    (∀ failed error jti, pool.Returned failed (.error error) →
      ⟨failed, .claim jti, .ok true⟩ ∈ pool.trace → jti ∈ pool.shared.used →
      ∃ other, other ≠ failed ∧ holder pool.trace jti = some other) ∧
    (∀ before releasing jti answer after completed,
      pool.trace = before ++ ⟨releasing, .release jti, answer⟩ :: after →
      pool.Returned completed (.ok ()) → holder before jti ≠ some completed) := by
  obtain ⟨holdings, owned, settles⟩ := exists_ownership run
  refine ⟨?_, ?_, ?_⟩
  · intro first second jti completedFirst completedSecond inFirst inSecond
    obtain ⟨-, heldFirst, -⟩ := settles first _ completedFirst
    obtain ⟨-, heldSecond, -⟩ := settles second _ completedSecond
    have byFirst := (owned.holder jti first).mpr (heldFirst ▸ inFirst)
    have bySecond := (owned.holder jti second).mpr (heldSecond ▸ inSecond)
    exact some.inj (byFirst.symm.trans bySecond)
  · intro failed error jti returned claimed recorded
    have empty : (holdings failed).held = [] := settles failed _ returned
    rcases (owned.used jti).mp recorded with inInitial | ⟨other, held⟩
    · exact absurd inInitial (owned.claimed _ jti claimed)
    · refine ⟨other, ?_, (owned.holder jti _).mpr held⟩
      rintro rfl
      simp [empty] at held
  · intro before releasing jti answer after completed split returned isHolder
    obtain ⟨own, failing⟩ := owned.released before releasing jti answer after split
    obtain ⟨-, -, notFailing⟩ := settles completed _ returned
    obtain rfl := some.inj (own.symm.trans isHolder)
    simp [notFailing] at failing

end Runs

def paymentPost : Post String := ⟨paymentClient, paymentSession, paymentResponse⟩

/-- Two posts of the payment.  The first one cannot save the session and gives the jti back, and
the second one completes. -/
def paymentPosts : Pool Bool storeInterface Stores (Except ValidationError Unit) :=
  (Pool.initial { used := ["j0"] } fun _ => paymentPost.verificationDirectPost).schedule
    (execute fun write => if write = 2 then .error "unavailable" else .ok true)
    [false, false, false, false, true, true, true]

/-- The retry of a payment completes. -/
theorem retried_payment_single_use :
    (paymentPosts.succeeded true = true ∧ paymentPosts.succeeded false = false ∧
      "j1" ∈ paymentPosts.shared.used) ∧
    (∀ error jti, paymentPosts.Returned false (.error error) →
      ⟨false, .claim jti, .ok true⟩ ∈ paymentPosts.trace → jti ∈ paymentPosts.shared.used →
      ∃ other, other ≠ false ∧ holder paymentPosts.trace jti = some other) :=
  ⟨by decide +kernel, (presented_jtis_single_use _ _ _ _ (FreeRun.schedule _ _ _)).2.1 _⟩

end Vc.Verifier.DirectPost
