import ServerComponents.Auth.PersonDeviceTokens
import ServerComponents.Statements.Run

/-!
# The lifetime of device tokens

A run is a list of calls that may write device tokens, each in its own
transaction, with its own clock, configuration and random bytes.  The writing
statements add the clock to an expiry that already contains it.
-/

namespace ServerComponents
namespace Auth

open Relational Statements

section Lifetime

variable [Citext]

inductive DeviceTokenRequest where
  | create (email : String)
  | tryLogin (tokenId base64EncodedSecret : String)

structure DeviceTokenCall where
  env : Env
  secrets : SecretsHelperPtr
  secretBytes : Blob
  request : DeviceTokenRequest

namespace DeviceTokenCall

variable (sodium : Sodium)

def program (call : DeviceTokenCall) : Sql DeviceTokenResult :=
  match call.request with
  | .create email => createDeviceToken sodium call.secrets call.secretBytes email
  | .tryLogin tokenId secret =>
      tryLoginWithDeviceToken sodium call.secrets call.secretBytes tokenId secret

def perform (db : AuthDb) (call : DeviceTokenCall) : AuthDb :=
  (Prog.transact call.env (call.program sodium) db).2

/-- The call stores this row: it issues the row or rotates a row into it. -/
def Stores (db : AuthDb) (call : DeviceTokenCall) (r : DeviceToken) : Prop :=
  r ∈ (perform sodium db call).deviceTokens.rows ∧ r ∉ db.deviceTokens.rows

/-- The call is a login that the source reports as successful, by this row. -/
def Authenticates (db : AuthDb) (call : DeviceTokenCall) (r : DeviceToken) : Prop :=
  exists tokenId secret presented tokenId' secret',
    call.request = .tryLogin tokenId secret ∧
    sodium.base64Decode secret = .ok presented ∧
    db.deviceTokens.find? (DeviceTokens.Consumable
      (sodium.hashBinary presented) tokenId call.env.now) = some r ∧
    (Prog.transact call.env (call.program sodium) db).1 =
      .ok ⟨true, tokenId', secret'⟩

def WithinLifetime (db : AuthDb) (call : DeviceTokenCall) (time : Int) : Prop :=
  exists d, maxDuration call.secrets db = some d ∧ time ≤ call.env.now + d

/--
The lifetime law of a run: every new row in a reached table was stored by a call
of the run and expires within that call's lifetime, and no login succeeds by a
row later than the lifetime of the call that stored it.
-/
structure LifetimeLaw (db : AuthDb) (calls : List DeviceTokenCall) : Prop where
  stored : forall reached rest r, calls = reached ++ rest ->
    r ∈ (after (perform sodium) db reached).deviceTokens.rows ->
    r ∉ db.deviceTokens.rows ->
    exists pre call mid, reached = pre ++ call :: mid ∧
      Stores sodium (after (perform sodium) db pre) call r ∧
      WithinLifetime (after (perform sodium) db pre) call r.expiresAt
  authenticated : forall pre call mid login post r,
    calls = pre ++ call :: (mid ++ login :: post) ->
    Stores sodium (after (perform sodium) db pre) call r ->
    Authenticates sodium (after (perform sodium) db (pre ++ call :: mid)) login r ->
    WithinLifetime (after (perform sodium) db pre) call login.env.now

/--
The condition under which adding the clock twice does no harm: the clock reads
zero, or the first addition wraps around.
-/
def DoubledClockHarmless (db : AuthDb) (call : DeviceTokenCall) : Prop :=
  forall d, maxDuration call.secrets db = some d ->
    call.env.now = 0 ∨ 9223372036854775808 ≤ call.env.now + d

theorem stores_expiry {sodium : Sodium} {db : AuthDb} {call : DeviceTokenCall}
    {r : DeviceToken} (hstores : Stores sodium db call r) :
    exists d, maxDuration call.secrets db = some d ∧
      r.expiresAt = storedExpiry call.env d ∧
      IsInt64 (storedExpiry call.env d) := by
  rcases hstores with ⟨hmem, hnot⟩
  have hrun : (perform sodium db call).deviceTokens.rows = db.deviceTokens.rows ∨
      (perform sodium db call) = ((call.program sodium).run call.env db).2 := by
    unfold perform Prog.transact
    rcases (call.program sodium).run call.env db with ⟨outcome, db'⟩
    cases outcome with
    | ok value => exact Or.inr rfl
    | error err => exact Or.inl rfl
  rcases hrun with hsame | hrun
  · rw [hsame] at hmem
    exact absurd hmem hnot
  rw [hrun] at hmem
  cases hrequest : call.request with
  | create email =>
      have hwp := wp_createDeviceToken sodium call.secrets call.secretBytes
        call.env db email
      simp only [program, hrequest] at hmem
      rcases hwp with hsame | ⟨d, row, table, hd, hdb, hrows, hexpiry, hint64⟩
      · rw [hsame] at hmem
        exact absurd hmem hnot
      · rw [hdb] at hmem
        simp only [hrows, List.mem_append, List.mem_singleton] at hmem
        rcases hmem with hmem | hmem
        · exact absurd hmem hnot
        · exact ⟨d, hd, by rw [hmem, hexpiry], hint64⟩
  | tryLogin tokenId secret =>
      have hwp := wp_tryLoginWithDeviceToken sodium call.secrets
        call.secretBytes call.env db tokenId secret
      simp only [program, hrequest] at hmem
      rcases hwp with ⟨hsame, _⟩ |
        ⟨presented, d, row, table, _, hd, _, hint64, hrows, hdb, _⟩
      · rw [hsame] at hmem
        exact absurd hmem hnot
      · rw [hdb] at hmem
        simp only [hrows, List.mem_map] at hmem
        rcases hmem with ⟨r0, hr0, hr⟩
        split at hr
        · exact ⟨d, hd, by rw [← hr]; rfl, hint64⟩
        · rw [hr] at hr0
          exact absurd hr0 hnot

omit [Citext] in
theorem storedExpiry_le_iff {env : Env} {d : Int} (hd : IsInt64 d) :
    storedExpiry env d ≤ env.now + d <->
      env.now = 0 ∨ 9223372036854775808 ≤ env.now + d := by
  have hnow := env.now_lt
  unfold IsInt64 at hd
  unfold storedExpiry
  by_cases hwrap : 9223372036854775808 ≤ (env.now : Int) + d
  · rw [addInt64_wrap hwrap (by omega)]
    omega
  · rw [addInt64_eq ⟨by omega, by omega⟩]
    omega

theorem stores_within_iff {sodium : Sodium} {db : AuthDb} {call : DeviceTokenCall}
    {r : DeviceToken} (hstores : Stores sodium db call r) :
    WithinLifetime db call r.expiresAt <-> DoubledClockHarmless db call := by
  rcases stores_expiry hstores with ⟨d, hd, hexpiry, _⟩
  have hint64 := maxDuration_isInt64 hd
  constructor
  · intro hwithin d' hd'
    rcases hwithin with ⟨d0, hd0, hle⟩
    have h0 : d0 = d := Option.some.inj (hd0.symm.trans hd)
    have h' : d' = d := Option.some.inj (hd'.symm.trans hd)
    rw [h0, hexpiry] at hle
    rw [h']
    exact (storedExpiry_le_iff hint64).mp hle
  · intro hharmless
    exact ⟨d, hd, by rw [hexpiry]; exact (storedExpiry_le_iff hint64).mpr (hharmless d hd)⟩

theorem authenticates_lt {sodium : Sodium} {db : AuthDb} {call : DeviceTokenCall}
    {r : DeviceToken} (h : Authenticates sodium db call r) :
    (call.env.now : Int) < r.expiresAt := by
  rcases h with ⟨_, _, presented, _, _, _, _, hfind, _⟩
  have hsel := (Table.find?_some hfind).2
  simp only [DeviceTokens.Consumable, Bool.and_eq_true, decide_eq_true_eq] at hsel
  exact hsel.2

theorem exists_storing_call {sodium : Sodium} {db : AuthDb}
    {calls : List DeviceTokenCall} {r : DeviceToken}
    (hnot : r ∉ db.deviceTokens.rows)
    (hmem : r ∈ (after (perform sodium) db calls).deviceTokens.rows) :
    exists pre call post, calls = pre ++ call :: post ∧
      Stores sodium (after (perform sodium) db pre) call r := by
  rcases exists_establishing (fun db : AuthDb => r ∈ db.deviceTokens.rows)
    hnot hmem with ⟨pre, call, post, hcalls, hbefore, hafter⟩
  exact ⟨pre, call, post, hcalls, hafter, hbefore⟩

/--
Device tokens keep their lifetime in every run whose calls all meet the
condition, and a call that stores a row keeps it exactly then.
-/
theorem deviceTokenLifetime (sodium : Sodium) (db : AuthDb)
    (calls : List DeviceTokenCall) :
    (Along (perform sodium) DoubledClockHarmless db calls ->
      LifetimeLaw sodium db calls) ∧
    Along (perform sodium) (fun db' call => forall r, Stores sodium db' call r ->
      (WithinLifetime db' call r.expiresAt <-> DoubledClockHarmless db' call))
      db calls := by
  constructor
  · intro hharmless
    constructor
    · intro reached rest r hcalls hmem hnot
      rcases exists_storing_call hnot hmem with
        ⟨pre, call, mid, hreached, hstores⟩
      have hcalls' : calls = pre ++ call :: (mid ++ rest) := by
        rw [hcalls, hreached, List.append_assoc, List.cons_append]
      exact ⟨pre, call, mid, hreached, hstores,
        (stores_within_iff hstores).mpr (hharmless pre call (mid ++ rest) hcalls')⟩
    · intro pre call mid login post r hcalls hstores hauth
      have hwithin := (stores_within_iff hstores).mpr
        (hharmless pre call (mid ++ login :: post) hcalls)
      rcases hwithin with ⟨d, hd, hle⟩
      exact ⟨d, hd, Int.le_trans (Int.le_of_lt (authenticates_lt hauth)) hle⟩
  · intro pre call post _ r hstores
    exact stores_within_iff hstores

end DeviceTokenCall

end Lifetime

/-!
# A month that lasts until twice the clock
-/

section FailingRun

open DeviceTokenCall

attribute [local instance] Citext.plain

def sampleIssue : DeviceTokenCall where
  env := Env.ofClock 1767225600000000 "u1"
  secrets := some (SecretsHelper.ofSettings
    [(Secrets.kAuthDeviceTokenMaxDurationInMicros, "2592000000000")])
  secretBytes := [115, 49]
  request := .create "ann@example.com"

/-- The token issued at the start of 2026 is stored with an expiry in 2082. -/
theorem lifetimeLaw_fails : Not (LifetimeLaw Sodium.plain onePerson [sampleIssue]) := by
  intro hlaw
  have hstored := hlaw.stored [sampleIssue] []
    { id := 1, uuid := "u1", personId := 1, secretHash := "s1"
      createdAt := 1767225600000000, lastUsedAt := none
      expiresAt := 3537043200000000, revoked := false }
    rfl (by decide) (by decide)
  rcases hstored with ⟨pre, call, mid, hcalls, _, d, hd, hle⟩
  rcases List.singleton_eq_append_iff.mp hcalls with ⟨hpre, hcall⟩ | ⟨_, hcall⟩
  · cases hpre
    cases hcall
    have hmax : maxDuration sampleIssue.secrets onePerson = some 2592000000000 := by
      decide
    have hd' : d = 2592000000000 := Option.some.inj (hd.symm.trans hmax)
    rw [hd'] at hle
    exact absurd hle (by decide)
  · cases hcall

/-- At the epoch itself the second addition adds nothing. -/
theorem lifetimeLaw_at_epoch :
    LifetimeLaw Sodium.plain onePerson
      [{ sampleIssue with env := Env.ofClock 0 "u1" }] := by
  apply (deviceTokenLifetime Sodium.plain onePerson _).1
  intro pre call post hcalls d _
  rcases List.singleton_eq_append_iff.mp hcalls with ⟨_, hcall⟩ | ⟨_, hcall⟩
  · cases hcall
    exact Or.inl rfl
  · cases hcall

end FailingRun

end Auth
end ServerComponents
