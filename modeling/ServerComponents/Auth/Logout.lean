import ServerComponents.Auth.Sessions
import ServerComponents.Auth.DeviceTokenSingleUse
import ServerComponents.Text.Percent

/-!
# Logging out

The endpoint takes the person from the session cookie, or else from the uuid of the
device-token cookie, removes what that person has, and clears the cookies.  An error
takes everything back, and the answer is 200 in any case.
-/

namespace ServerComponents
namespace Auth

open Relational Statements

section Logout

variable [Citext] [UuidText]

def lookupPersonIdBySessionToken (sessionToken : String) : Sql (Option Nat) := do
  let row ← Sessions.lookupSessionByUuid sessionToken
  let now ← nowUs
  if row.revoked = true then pure none
  else if row.expiresAt < now then pure none
  else pure (some row.personId)

structure LogoutRequest where
  env : Env
  serving : Serving
  sessionToken : Option String
  deviceToken : Option String
  /-- The bytes of the headers, which need not be a text. -/
  ip : List UInt8
  userAgent : List UInt8

namespace LogoutRequest

def personOfDeviceToken (r : LogoutRequest) : Sql Int :=
  match r.deviceToken.bind splitAtDot with
  | none => pure (-1)
  | some (uuid, _) =>
      Prog.ask (fun _ db => do
        let canonical ← uuidParameter uuid
        match db.deviceTokens.find? (fun t => t.uuid == canonical) with
        | none => pure (-1)
        | some row => pure row.personId)

def personOfSession (r : LogoutRequest) : Sql Int :=
  match r.sessionToken with
  | none => pure (-1)
  | some token => do
      match ← lookupPersonIdBySessionToken token with
      | none => pure (-1)
      | some personId => pure personId

def resolvePerson (r : LogoutRequest) : Sql Int := do
  let personId ← r.personOfSession
  if personId ≤ 0 then r.personOfDeviceToken else pure personId

/-- A text parameter of a statement; the database refuses what is no UTF-8. -/
def textParameter (bytes : List UInt8) : Except Exn String :=
  match Text.text? bytes with
  | some text => .ok text
  | none => .error (.sql .characterNotInRepertoire)

/-- `RecordEvent` with the headers as they come. -/
def recordEvent (r : LogoutRequest) (personId : Int) : Sql Unit :=
  Prog.exec (fun env db => do
    let ip ← textParameter r.ip
    let userAgent ← textParameter r.userAgent
    .ok ((), { db with
      authEvents := db.authEvents ++
        [{ kind := .logout, personId := some personId.toNat, ip := ip
           userAgent := userAgent, whenUs := env.now, detailJson := "" }] }))

def removeSignIns (r : LogoutRequest) : Sql Unit := do
  let personId ← r.resolvePerson
  if 0 < personId then do
    logoutPerson personId.toNat
    r.recordEvent personId

def logout (r : LogoutRequest) : Served Unit := do
  r.serving.onDb r.removeSignIns
  r.serving.clearAuthCookies

def perform (db : AuthDb) (r : LogoutRequest) : AuthDb × List Cookie :=
  (Prog.runInTransaction (sqlFailures r.serving.rejected) r.env none r.logout db []).2

/-!
# What a request presents
-/

section Presented

variable (sodium : Sodium) (db : AuthDb) (r : LogoutRequest)

def NamesSession (row : Session) : Prop :=
  row ∈ db.sessions.rows ∧ exists token, r.sessionToken = some token ∧
    UuidText.parse token = some row.uuid

def PresentsSession (personId : Nat) : Prop :=
  exists row, r.NamesSession db row ∧ row.revoked = false ∧
    (r.env.now : Int) ≤ row.expiresAt ∧ row.personId = personId

def NamesDeviceToken (row : DeviceToken) : Prop :=
  row ∈ db.deviceTokens.rows ∧ exists uuid secret,
    r.deviceToken.bind splitAtDot = some (uuid, secret) ∧ UuidText.parse uuid = some row.uuid

def KnowsSecret (row : DeviceToken) : Prop :=
  exists uuid secret bytes, r.deviceToken.bind splitAtDot = some (uuid, secret) ∧
    sodium.base64Decode secret = .ok bytes ∧ sodium.hashBinary bytes = row.secretHash

def PresentsDeviceToken (personId : Nat) : Prop :=
  exists row, r.NamesDeviceToken db row ∧ r.KnowsSecret sodium row ∧ row.revoked = false ∧
    (r.env.now : Int) < row.expiresAt ∧ row.personId = personId

end Presented

/-!
# What the statements do
-/

variable {db db' : AuthDb} {r : LogoutRequest}

theorem NamesSession.eq {row row' : Session} (h : r.NamesSession db row)
    (h' : r.NamesSession db row') : row = row' := by
  rcases h with ⟨hrow, token, htoken, huuid⟩
  rcases h' with ⟨hrow', token', htoken', huuid'⟩
  rw [htoken, Option.some.injEq] at htoken'
  rw [htoken', huuid', Option.some.injEq] at huuid
  exact Table.eq_of_clash Session.Clash.symm hrow hrow' (Or.inr huuid.symm)

theorem NamesDeviceToken.eq {row row' : DeviceToken} (h : r.NamesDeviceToken db row)
    (h' : r.NamesDeviceToken db row') : row = row' := by
  rcases h with ⟨hrow, uuid, secret, hcookie, huuid⟩
  rcases h' with ⟨hrow', uuid', secret', hcookie', huuid'⟩
  rw [hcookie, Option.some.injEq, Prod.mk.injEq] at hcookie'
  rw [hcookie'.1, huuid', Option.some.injEq] at huuid
  exact Table.eq_of_clash DeviceToken.Clash.symm hrow hrow' (Or.inr (Or.inl huuid.symm))

def personOfRow (now : Nat) (row : Session) : Int :=
  if row.revoked = true ∨ row.expiresAt < (now : Int) then -1 else row.personId

theorem personOfSession_cases (r : LogoutRequest) (db : AuthDb) :
    (r.sessionToken = none ∧ r.personOfSession.run r.env db = (.ok (-1), db)) ∨
    (exists err, r.sessionToken ≠ none ∧ (forall row, Not (r.NamesSession db row)) ∧
      r.personOfSession.run r.env db = (.error err, db)) ∨
    (exists row, r.NamesSession db row ∧
      r.personOfSession.run r.env db = (.ok (personOfRow r.env.now row), db)) := by
  unfold personOfSession
  cases htoken : r.sessionToken with
  | none => exact Or.inl ⟨rfl, rfl⟩
  | some token =>
      right
      simp only [lookupPersonIdBySessionToken, Sessions.lookupSessionByUuid, uuidParameter,
        Prog.bind_eq, Prog.run_bind, Prog.run_ask]
      cases huuid : UuidText.parse token with
      | none =>
          left
          refine ⟨.sql .invalidTextRepresentation, by simp, ?_, rfl⟩
          intro row hrow
          rcases hrow with ⟨_, token', htoken', huuid'⟩
          rw [htoken, Option.some.injEq] at htoken'
          rw [← htoken', huuid] at huuid'
          cases huuid'
      | some uuid =>
          cases hfind : db.sessions.find? (fun s => s.uuid == uuid) with
          | none =>
              left
              refine ⟨_, by simp, ?_, by simp [bind, Except.bind, hfind]; rfl⟩
              intro row hrow
              rcases hrow with ⟨hmem, token', htoken', huuid'⟩
              rw [htoken, Option.some.injEq] at htoken'
              rw [← htoken', huuid, Option.some.injEq] at huuid'
              have hsel := Table.find?_none hfind hmem
              simp [huuid'] at hsel
          | some row =>
              right
              rcases Table.find?_some hfind with ⟨hmem, hsel⟩
              refine ⟨row, ⟨hmem, token, htoken, by rw [huuid, eq_of_beq hsel]⟩, ?_⟩
              simp only [bind, Except.bind, hfind, nowUs, personOfRow]
              cases hrevoked : row.revoked with
              | true => simp
              | false =>
                  by_cases hexpired : row.expiresAt < (r.env.now : Int)
                  · simp [hexpired]
                  · simp [hexpired]

/-- The part of the cookie before the dot, if there is one, is a uuid. -/
def DeviceReadable (r : LogoutRequest) : Prop :=
  forall uuid secret, r.deviceToken.bind splitAtDot = some (uuid, secret) ->
    UuidText.parse uuid ≠ none

theorem personOfDeviceToken_cases (r : LogoutRequest) (db : AuthDb) :
    (r.DeviceReadable ∧ (forall row, Not (r.NamesDeviceToken db row)) ∧
      r.personOfDeviceToken.run r.env db = (.ok (-1), db)) ∨
    (exists err, Not r.DeviceReadable ∧ r.personOfDeviceToken.run r.env db = (.error err, db)) ∨
    (exists row, r.DeviceReadable ∧ r.NamesDeviceToken db row ∧
      r.personOfDeviceToken.run r.env db = (.ok (row.personId : Int), db)) := by
  unfold personOfDeviceToken
  cases hcookie : r.deviceToken.bind splitAtDot with
  | none =>
      left
      refine ⟨?_, ?_, rfl⟩
      · intro uuid secret h
        rw [hcookie] at h
        cases h
      · intro row h
        rcases h with ⟨_, uuid, secret, h, _⟩
        rw [hcookie] at h
        cases h
  | some pair =>
      rcases pair with ⟨uuid, secret⟩
      simp only [uuidParameter, Prog.run_ask]
      cases huuid : UuidText.parse uuid with
      | none =>
          exact Or.inr (Or.inl ⟨.sql .invalidTextRepresentation,
            fun hreadable => hreadable uuid secret hcookie huuid, rfl⟩)
      | some canonical =>
          have hreadable : r.DeviceReadable := by
            intro uuid' secret' h
            rw [hcookie, Option.some.injEq, Prod.mk.injEq] at h
            rw [← h.1, huuid]
            exact Option.some_ne_none _
          cases hfind : db.deviceTokens.find? (fun t => t.uuid == canonical) with
          | none =>
              left
              refine ⟨hreadable, ?_, by simp [bind, Except.bind, hfind, pure, Except.pure]⟩
              intro row h
              rcases h with ⟨hmem, uuid', secret', h, huuid'⟩
              rw [hcookie, Option.some.injEq, Prod.mk.injEq] at h
              rw [← h.1, huuid, Option.some.injEq] at huuid'
              have hsel := Table.find?_none hfind hmem
              simp [huuid'] at hsel
          | some row =>
              right
              right
              rcases Table.find?_some hfind with ⟨hmem, hsel⟩
              exact ⟨row, hreadable, ⟨hmem, uuid, secret, hcookie, by rw [huuid, eq_of_beq hsel]⟩,
                by simp [bind, Except.bind, hfind, pure, Except.pure]⟩

theorem personOfDeviceToken_of_names {row : DeviceToken} (h : r.NamesDeviceToken db row) :
    (r.personOfDeviceToken.run r.env db).1 = .ok (row.personId : Int) := by
  rcases r.personOfDeviceToken_cases db with ⟨_, hnot, _⟩ | ⟨err, hunreadable, _⟩ |
    ⟨row', _, hnames, hrun⟩
  · exact absurd h (hnot row)
  · refine absurd (fun uuid secret hcookie => ?_) hunreadable
    rcases h with ⟨_, uuid', secret', hcookie', huuid⟩
    rw [hcookie, Option.some.injEq, Prod.mk.injEq] at hcookie'
    rw [hcookie'.1, huuid]
    exact Option.some_ne_none _
  · rw [hrun, hnames.eq h]

def resolved (r : LogoutRequest) (db : AuthDb) : Except Exn Int :=
  (r.resolvePerson.run r.env db).1

def signedOut (r : LogoutRequest) (db : AuthDb) (personId : Int) : AuthDb :=
  if 0 < personId then
    { db with
      deviceTokens := db.deviceTokens.delete (fun t => t.personId == personId.toNat)
      sessions := db.sessions.delete (fun s => s.personId == personId.toNat)
      authEvents := db.authEvents ++
        [{ kind := .logout, personId := some personId.toNat
           ip := (Text.text? r.ip).getD "", userAgent := (Text.text? r.userAgent).getD ""
           whenUs := r.env.now, detailJson := "" }] }
  else db

/-- The audit row can be written. -/
def Recordable (r : LogoutRequest) : Prop :=
  (Text.text? r.ip).isSome = true ∧ (Text.text? r.userAgent).isSome = true

instance (r : LogoutRequest) : Decidable r.Recordable := inferInstanceAs (Decidable (_ ∧ _))

/-- The person that is signed out, unless the audit row cannot be written. -/
def recorded (r : LogoutRequest) (db : AuthDb) : Except Exn Int := do
  let personId ← r.resolved db
  if 0 < personId ∧ Not r.Recordable then .error (.sql .characterNotInRepertoire)
  else .ok personId

theorem recorded_eq_ok {m : Int} : r.recorded db = .ok m <->
    r.resolved db = .ok m ∧ (0 < m -> r.Recordable) := by
  unfold recorded
  constructor
  · intro h
    rcases exceptBind_ok h with ⟨m', hresolved, hm⟩
    split at hm
    · cases hm
    · rename_i hnot
      cases hm
      refine ⟨hresolved, fun hpositive => ?_⟩
      by_contra hunreadable
      exact hnot ⟨hpositive, hunreadable⟩
  · rintro ⟨hresolved, hrecordable⟩
    rw [hresolved]
    exact if_neg (fun hboth => hboth.2 (hrecordable hboth.1))

theorem resolved_eq (r : LogoutRequest) (db : AuthDb) :
    r.resolved db =
      match (r.personOfSession.run r.env db).1 with
      | .error err => .error err
      | .ok m => if m ≤ 0 then (r.personOfDeviceToken.run r.env db).1 else .ok m := by
  unfold resolved resolvePerson
  rw [Prog.bind_eq, Prog.run_bind]
  rcases r.personOfSession_cases db with ⟨_, hrun⟩ | ⟨err, _, _, hrun⟩ | ⟨row, _, hrun⟩
  · rw [hrun]
    rfl
  · rw [hrun]
  · rw [hrun]
    dsimp only
    split
    · rfl
    · rfl

theorem run_resolvePerson (r : LogoutRequest) (db : AuthDb) :
    r.resolvePerson.run r.env db = (r.resolved db, db) := by
  have hdevice : (r.personOfDeviceToken.run r.env db).2 = db := by
    rcases r.personOfDeviceToken_cases db with ⟨_, _, h⟩ | ⟨_, _, h⟩ | ⟨_, _, _, h⟩ <;> rw [h]
  have hstore : (r.resolvePerson.run r.env db).2 = db := by
    unfold resolvePerson
    rw [Prog.bind_eq, Prog.run_bind]
    rcases r.personOfSession_cases db with ⟨_, hrun⟩ | ⟨err, _, _, hrun⟩ | ⟨row, _, hrun⟩
    · rw [hrun]
      exact hdevice
    · rw [hrun]
    · rw [hrun]
      dsimp only
      split
      · exact hdevice
      · rfl
  exact Prod.ext rfl hstore

theorem run_removeSignIns (r : LogoutRequest) (db : AuthDb) :
    exists db', r.removeSignIns.run r.env db =
      match r.recorded db with
      | .error err => (.error err, db')
      | .ok m => (.ok (), r.signedOut db m) := by
  unfold removeSignIns recorded
  rw [Prog.bind_eq, Prog.run_bind, run_resolvePerson]
  cases r.resolved db with
  | error err => exact ⟨db, rfl⟩
  | ok m =>
      by_cases hm : 0 < m
      · simp only [hm, if_true, logoutPerson, DeviceTokens.removeDeviceTokensForUser,
          Sessions.removeSessionsForUser, recordEvent, Prog.run_bind, Prog.run_exec,
          bind, Except.bind, textParameter, Recordable, signedOut]
        cases Text.text? r.ip with
        | none => exact ⟨_, rfl⟩
        | some ip =>
            cases Text.text? r.userAgent with
            | none => exact ⟨_, rfl⟩
            | some userAgent => exact ⟨db, by simp [hm]⟩
      · exact ⟨db, by simp [hm, signedOut, bind, Except.bind]⟩

theorem propagates_removeSignIns (r : LogoutRequest) (f : Failures Exn) :
    r.removeSignIns.Propagates f := by
  have hdevice : r.personOfDeviceToken.Propagates f := by
    unfold personOfDeviceToken
    split
    · exact trivial
    · exact Prog.propagates_ask _
  have hsession : r.personOfSession.Propagates f := by
    unfold personOfSession
    split
    · exact trivial
    · refine Prog.Propagates.bind ?_ ?_
      · refine Prog.Propagates.bind (Prog.propagates_ask _) (fun row => ?_)
        refine Prog.Propagates.bind (Prog.propagates_ask _) (fun now => ?_)
        split
        · exact trivial
        · split <;> exact trivial
      · intro found
        cases found <;> exact trivial
  refine Prog.Propagates.bind ?_ ?_
  · refine Prog.Propagates.bind hsession (fun m => ?_)
    split
    · exact hdevice
    · exact trivial
  · intro m
    split
    · refine Prog.Propagates.bind ?_ (fun _ => Prog.propagates_exec _)
      exact Prog.Propagates.bind (Prog.propagates_exec _) (fun _ => Prog.propagates_exec _)
    · exact trivial

variable (hsettings : SettingsElsewhere r.serving.secrets)

include hsettings in
theorem perform_eq (db : AuthDb) :
    r.perform db =
      match r.recorded db, r.serving.cookieDomain db with
      | .ok m, .ok domain => (r.signedOut db m, r.serving.clearedCookies domain)
      | _, _ => (db, []) := by
  rcases r.run_removeSignIns db with ⟨db', hrun⟩
  unfold perform Prog.runInTransaction logout Serving.onDb
  rw [if_neg (by simp), Prog.bind_eq, Prog.run_bind,
    Prog.run_within (r.propagates_removeSignIns _) rfl (outlasts_none _), hrun]
  cases hrecorded : r.recorded db with
  | error err => rfl
  | ok m =>
      simp only [Prog.abortsWith, elapse_none]
      rw [Serving.run_clearAuthCookies,
        Serving.cookieDomain_congr hsettings (r.signedOut db m) db]
      cases r.serving.cookieDomain db with
      | error err => rfl
      | ok domain => rfl

/-!
# Whom the cookies lead to
-/

/-- No session of the cookie decides: there is no cookie, or its session is not valid. -/
def SessionLapsed (db : AuthDb) (r : LogoutRequest) : Prop :=
  r.sessionToken = none ∨ exists row, r.NamesSession db row ∧
    (row.revoked = true ∨ row.expiresAt < (r.env.now : Int) ∨ row.personId = 0)

omit [Citext] [UuidText] in
theorem personOfRow_nonpos {now : Nat} {row : Session} :
    personOfRow now row ≤ 0 <->
      row.revoked = true ∨ row.expiresAt < (now : Int) ∨ row.personId = 0 := by
  unfold personOfRow
  split
  · rename_i h
    constructor
    · intro _
      rcases h with h | h
      · exact Or.inl h
      · exact Or.inr (Or.inl h)
    · intro _
      decide
  · rename_i h
    constructor
    · intro hle
      exact Or.inr (Or.inr (by omega))
    · intro hle
      rcases hle with hrevoked | hexpired | hzero
      · exact absurd (Or.inl hrevoked) h
      · exact absurd (Or.inr hexpired) h
      · omega

theorem resolved_of_session {p : Nat} (hp : 0 < p) (h : r.PresentsSession db p) :
    r.resolved db = .ok (p : Int) := by
  rcases h with ⟨row, hnames, hrevoked, hexpiry, hperson⟩
  rw [resolved_eq]
  rcases r.personOfSession_cases db with ⟨hnone, _⟩ | ⟨err, _, hnot, _⟩ | ⟨row', hnames', hrun⟩
  · rcases hnames with ⟨_, token, htoken, _⟩
    rw [hnone] at htoken
    cases htoken
  · exact absurd hnames (hnot row)
  · have hrow := hnames'.eq hnames
    subst hrow
    rw [hrun]
    have hvalid : personOfRow r.env.now row' = (p : Int) := by
      unfold personOfRow
      rw [if_neg, hperson]
      intro hinvalid
      rcases hinvalid with hrevoked' | hexpired
      · rw [hrevoked] at hrevoked'
        cases hrevoked'
      · omega
    simp only [hvalid]
    rw [if_neg (by omega)]

theorem resolved_of_lapsed (h : r.SessionLapsed db) :
    r.resolved db = (r.personOfDeviceToken.run r.env db).1 := by
  rw [resolved_eq]
  rcases r.personOfSession_cases db with ⟨_, hrun⟩ | ⟨err, hsome, hnot, _⟩ | ⟨row, hnames, hrun⟩
  · rw [hrun]
    rfl
  · rcases h with hnone | ⟨row, hnames, _⟩
    · exact absurd hnone hsome
    · exact absurd hnames (hnot row)
  · rw [hrun]
    have hlapsed : personOfRow r.env.now row ≤ 0 := by
      rcases h with hnone | ⟨row', hnames', hinvalid⟩
      · rcases hnames with ⟨_, token, htoken, _⟩
        rw [hnone] at htoken
        cases htoken
      · rw [hnames.eq hnames']
        exact personOfRow_nonpos.mpr hinvalid
    simp only
    rw [if_pos hlapsed]

theorem session_cases (r : LogoutRequest) (db : AuthDb) :
    (exists p, 0 < p ∧ r.PresentsSession db p) ∨ r.SessionLapsed db ∨
      ((r.sessionToken ≠ none ∧ forall row, Not (r.NamesSession db row)) ∧
        exists err, r.resolved db = .error err) := by
  rcases r.personOfSession_cases db with ⟨hnone, _⟩ | ⟨err, hsome, hnot, hrun⟩ | ⟨row, hnames, _⟩
  · exact Or.inr (Or.inl (Or.inl hnone))
  · refine Or.inr (Or.inr ⟨⟨hsome, hnot⟩, err, ?_⟩)
    rw [resolved_eq, hrun]
  · by_cases hlapsed : row.revoked = true ∨ row.expiresAt < (r.env.now : Int) ∨ row.personId = 0
    · exact Or.inr (Or.inl (Or.inr ⟨row, hnames, hlapsed⟩))
    · simp only [not_or] at hlapsed
      rcases hlapsed with ⟨hrevoked, hexpired, hzero⟩
      exact Or.inl ⟨row.personId, Nat.pos_of_ne_zero hzero, row, hnames,
        Bool.eq_false_iff.mpr hrevoked, by omega, rfl⟩

theorem SessionLapsed.not_presents (h : r.SessionLapsed db) {p : Nat} (hp : 0 < p) :
    Not (r.PresentsSession db p) := by
  intro hpresents
  rcases hpresents with ⟨row, hnames, hrevoked, hexpiry, hperson⟩
  rcases h with hnone | ⟨row', hnames', hinvalid⟩
  · rcases hnames with ⟨_, token, htoken, _⟩
    rw [hnone] at htoken
    cases htoken
  · rw [← hnames.eq hnames'] at hinvalid
    rcases hinvalid with hrevoked' | hexpired | hzero
    · rw [hrevoked] at hrevoked'
      cases hrevoked'
    · omega
    · omega

/-!
# Who is signed out
-/

def signIns (db : AuthDb) (p : Nat) : List Session × List DeviceToken :=
  (db.sessions.rows.filter (fun s => s.personId == p),
    db.deviceTokens.rows.filter (fun t => t.personId == p))

/-- Nobody loses a session or a device token whose valid sign-in is not presented. -/
def Authority (sodium : Sodium) (db : AuthDb) (r : LogoutRequest) : Prop :=
  forall p, Not (r.PresentsSession db p) -> Not (r.PresentsDeviceToken sodium db p) ->
    signIns (r.perform db).1 p = signIns db p

/-- The device-token cookie decides with the uuid of a token whose valid sign-in is not
presented, the audit row can be written, and the cookies can be cleared. -/
def ByUuidAlone (sodium : Sodium) (db : AuthDb) (r : LogoutRequest) : Prop :=
  r.SessionLapsed db ∧
    (exists row, r.NamesDeviceToken db row ∧ 0 < row.personId ∧
      Not (r.PresentsDeviceToken sodium db row.personId)) ∧
    r.Recordable ∧ exists domain, r.serving.cookieDomain db = .ok domain

omit [UuidText] in
theorem signIns_signedOut_ne {m : Int} {p : Nat} (h : 0 < m -> m ≠ p) :
    signIns (r.signedOut db m) p = signIns db p := by
  unfold signedOut
  split
  · rename_i hm
    have hne : (p == m.toNat) = false := by
      have := h hm
      simp only [beq_eq_false_iff_ne]
      omega
    unfold signIns Table.delete
    simp only [List.filter_filter, Prod.mk.injEq]
    constructor
    · apply List.filter_congr
      intro s _
      by_cases hs : s.personId = p
      · simp [hs, hne]
      · simp [hs]
    · apply List.filter_congr
      intro t _
      by_cases ht : t.personId = p
      · simp [ht, hne]
      · simp [ht]
  · rfl

omit [UuidText] in
theorem signIns_signedOut_self {p : Nat} (hp : 0 < p) :
    signIns (r.signedOut db p) p = ([], []) := by
  unfold signedOut
  rw [if_pos (by omega)]
  simp [signIns, Table.delete, List.filter_filter]

theorem authority_iff (sodium : Sodium) (hsettings : SettingsElsewhere r.serving.secrets) :
    r.Authority sodium db <-> Not (r.ByUuidAlone sodium db) := by
  constructor
  · intro h hbyUuid
    rcases hbyUuid with
      ⟨hlapsed, ⟨row, hnames, hpositive, hunproven⟩, hrecordable, domain, hdomain⟩
    have hkept := h row.personId (hlapsed.not_presents hpositive) hunproven
    have hresolved : r.resolved db = .ok (row.personId : Int) := by
      rw [resolved_of_lapsed hlapsed, personOfDeviceToken_of_names hnames]
    rw [perform_eq hsettings, recorded_eq_ok.mpr ⟨hresolved, fun _ => hrecordable⟩,
      hdomain] at hkept
    rw [signIns_signedOut_self hpositive] at hkept
    have hmem : row ∈ (signIns db row.personId).2 := by
      simpa [signIns] using hnames.1
    rw [← hkept] at hmem
    cases hmem
  · intro h p hsession hdevice
    rw [perform_eq hsettings]
    cases hdomain : r.serving.cookieDomain db with
    | error err => cases r.recorded db <;> rfl
    | ok domain =>
        cases hrecorded : r.recorded db with
        | error err => rfl
        | ok m =>
            apply signIns_signedOut_ne
            intro hm heq
            rcases recorded_eq_ok.mp hrecorded with ⟨hresolved, hrecordable⟩
            rcases r.session_cases db with ⟨q, hq, hpresents⟩ | hlapsed | ⟨_, err, hfailed⟩
            · rw [resolved_of_session hq hpresents] at hresolved
              cases hresolved
              have hqp : q = p := by omega
              subst hqp
              exact hsession hpresents
            · rw [resolved_of_lapsed hlapsed] at hresolved
              rcases r.personOfDeviceToken_cases db with ⟨_, _, hrun⟩ | ⟨err, _, hrun⟩ |
                ⟨row, _, hnames, hrun⟩ <;> rw [hrun] at hresolved <;> cases hresolved
              · omega
              · have hrow : row.personId = p := by omega
                subst hrow
                exact h ⟨hlapsed, ⟨row, hnames, by omega, hdevice⟩, hrecordable hm, domain,
                  hdomain⟩
            · rw [hfailed] at hresolved
              cases hresolved

/-!
# What is left of the cookies
-/

def ClearsSignIn (cookies : List Cookie) : Prop :=
  forall key, key ∈ [kSessionTokenCookie, kDeviceTokenCookie, kCsrfTokenCookie] ->
    exists cookie, cookie ∈ cookies ∧ cookie.key = key ∧ cookie.value = "" ∧
      cookie.properties.maxAgeInMicros = 0

/-- What the cookies name later was there before, with the same secret and expiry, and is
at most revoked since. -/
structure Later (r : LogoutRequest) (db db' : AuthDb) : Prop where
  sessions : forall row', r.NamesSession db' row' -> exists row, r.NamesSession db row ∧
    row.expiresAt = row'.expiresAt ∧ (row.revoked = true -> row'.revoked = true)
  deviceTokens : forall row', r.NamesDeviceToken db' row' ->
    exists row, r.NamesDeviceToken db row ∧ row.secretHash = row'.secretHash ∧
      row.expiresAt = row'.expiresAt ∧ (row.revoked = true -> row'.revoked = true)

/-- The cookies are cleared, and what they hold is not valid at any later time. -/
structure Total (sodium : Sodium) (db : AuthDb) (r : LogoutRequest) : Prop where
  cleared : ClearsSignIn (r.perform db).2
  session : forall env db' p, r.env.now ≤ env.now -> r.Later (r.perform db).1 db' ->
    Not ({ r with env := env }.PresentsSession db' p)
  deviceToken : forall env db' p, r.env.now ≤ env.now -> r.Later (r.perform db).1 db' ->
    Not ({ r with env := env }.PresentsDeviceToken sodium db' p)

/-- The session cookie names a session if it is there, a device-token cookie that decides
has a uuid before its dot, the audit row of whom they lead to can be written, the cookies
have a domain, and what is valid is of one person. -/
structure Clearable (sodium : Sodium) (db : AuthDb) (r : LogoutRequest) : Prop where
  session : r.sessionToken = none ∨ exists row, r.NamesSession db row
  deviceToken : r.SessionLapsed db -> r.DeviceReadable
  headers : (exists p, 0 < p ∧ (r.PresentsSession db p ∨ r.SessionLapsed db ∧
    exists row, r.NamesDeviceToken db row ∧ row.personId = p)) -> r.Recordable
  domain : exists domain, r.serving.cookieDomain db = .ok domain
  people : forall p, r.PresentsSession db p ∨ r.PresentsDeviceToken sodium db p -> 0 < p
  onePerson : forall p q, r.PresentsSession db p -> r.PresentsDeviceToken sodium db q -> q = p

omit [UuidText] in
theorem clearsSignIn_clearedCookies (v : Serving) (domain : String) :
    ClearsSignIn (v.clearedCookies domain) := by
  intro key hkey
  simp only [List.mem_cons, List.not_mem_nil, or_false] at hkey
  rcases hkey with h | h | h
  · exact ⟨_, List.mem_cons_self, h.symm, rfl, rfl⟩
  · exact ⟨_, List.mem_cons_of_mem _ List.mem_cons_self, h.symm, rfl, rfl⟩
  · exact ⟨_, List.mem_cons_of_mem _ (List.mem_cons_of_mem _ List.mem_cons_self), h.symm, rfl,
      rfl⟩

theorem Later.refl (r : LogoutRequest) (db : AuthDb) : r.Later db db where
  sessions := fun row h => ⟨row, h, rfl, id⟩
  deviceTokens := fun row h => ⟨row, h, rfl, rfl, id⟩

omit [UuidText] in
theorem mem_sessions_signedOut {m : Int} {row : Session} :
    row ∈ (r.signedOut db m).sessions.rows <->
      row ∈ db.sessions.rows ∧ Not (0 < m ∧ m = row.personId) := by
  unfold signedOut
  split
  · rename_i hm
    simp only [Table.mem_delete, beq_eq_false_iff_ne, and_congr_right_iff]
    omega
  · rename_i hm
    simp [hm]

omit [UuidText] in
theorem mem_deviceTokens_signedOut {m : Int} {row : DeviceToken} :
    row ∈ (r.signedOut db m).deviceTokens.rows <->
      row ∈ db.deviceTokens.rows ∧ Not (0 < m ∧ m = row.personId) := by
  unfold signedOut
  split
  · rename_i hm
    simp only [Table.mem_delete, beq_eq_false_iff_ne, and_congr_right_iff]
    omega
  · rename_i hm
    simp [hm]

include hsettings in
theorem recorded_of_cleared
    (h : ClearsSignIn (r.perform db).2) :
    exists m domain, r.recorded db = .ok m ∧ r.serving.cookieDomain db = .ok domain ∧
      (r.perform db).1 = r.signedOut db m := by
  rw [perform_eq hsettings] at h ⊢
  have hnone : Not (ClearsSignIn []) := by
    intro hcleared
    rcases hcleared kSessionTokenCookie List.mem_cons_self with ⟨_, hmem, _⟩
    cases hmem
  cases hrecorded : r.recorded db with
  | error err =>
      rw [hrecorded] at h
      exact absurd h hnone
  | ok m =>
      cases hdomain : r.serving.cookieDomain db with
      | error err =>
          rw [hrecorded, hdomain] at h
          exact absurd h hnone
      | ok domain => exact ⟨m, domain, rfl, rfl, rfl⟩

theorem PresentsSession.signedOut {m : Int} {p : Nat} (h : r.PresentsSession db p)
    (hm : Not (0 < m ∧ m = p)) : r.PresentsSession (r.signedOut db m) p := by
  rcases h with ⟨row, ⟨hmem, hcookie⟩, hrevoked, hexpiry, hperson⟩
  refine ⟨row, ⟨mem_sessions_signedOut.mpr ⟨hmem, ?_⟩, hcookie⟩, hrevoked, hexpiry, hperson⟩
  rw [hperson]
  exact hm

theorem PresentsDeviceToken.signedOut {sodium : Sodium} {m : Int} {p : Nat}
    (h : r.PresentsDeviceToken sodium db p) (hm : Not (0 < m ∧ m = p)) :
    r.PresentsDeviceToken sodium (r.signedOut db m) p := by
  rcases h with ⟨row, ⟨hmem, hcookie⟩, hsecret, hrevoked, hexpiry, hperson⟩
  refine ⟨row, ⟨mem_deviceTokens_signedOut.mpr ⟨hmem, ?_⟩, hcookie⟩, hsecret, hrevoked,
    hexpiry, hperson⟩
  rw [hperson]
  exact hm

include hsettings in
theorem clearable_of_total {sodium : Sodium}
    (h : r.Total sodium db) : r.Clearable sodium db := by
  rcases recorded_of_cleared hsettings h.cleared with ⟨m, domain, hrecorded, hdomain, hperform⟩
  rcases recorded_eq_ok.mp hrecorded with ⟨hresolved, hrecordable⟩
  have hsession : forall p, r.PresentsSession db p -> 0 < m ∧ m = p := by
    intro p hpresents
    by_contra hm
    refine h.session r.env (r.perform db).1 p (Nat.le_refl _) (Later.refl r _) ?_
    rw [hperform]
    exact hpresents.signedOut hm
  have hdevice : forall p, r.PresentsDeviceToken sodium db p -> 0 < m ∧ m = p := by
    intro p hpresents
    by_contra hm
    refine h.deviceToken r.env (r.perform db).1 p (Nat.le_refl _) (Later.refl r _) ?_
    rw [hperform]
    exact hpresents.signedOut hm
  refine ⟨?_, ?_, ?_, ⟨domain, hdomain⟩, ?_, ?_⟩
  · rcases r.session_cases db with ⟨p, _, row, hnames, _⟩ | hlapsed | ⟨_, err, herror⟩
    · exact Or.inr ⟨row, hnames⟩
    · rcases hlapsed with hnone | ⟨row, hnames, _⟩
      · exact Or.inl hnone
      · exact Or.inr ⟨row, hnames⟩
    · rw [hresolved] at herror
      cases herror
  · intro hlapsed
    rw [resolved_of_lapsed hlapsed] at hresolved
    rcases r.personOfDeviceToken_cases db with ⟨hreadable, _⟩ | ⟨err, _, hrun⟩ |
      ⟨row, hreadable, _⟩
    · exact hreadable
    · rw [hrun] at hresolved
      cases hresolved
    · exact hreadable
  · rintro ⟨p, hp, hpresents | ⟨hlapsed, row, hnames, hperson⟩⟩
    · exact hrecordable (hsession p hpresents).1
    · apply hrecordable
      rw [resolved_of_lapsed hlapsed, personOfDeviceToken_of_names hnames] at hresolved
      cases hresolved
      omega
  · intro p hp
    have hm : 0 < m ∧ m = p := hp.elim (hsession p) (hdevice p)
    omega
  · intro p q hp hq
    have hmp := hsession p hp
    have hmq := hdevice q hq
    omega

theorem Clearable.recorded {sodium : Sodium} (h : r.Clearable sodium db) :
    exists m, r.recorded db = .ok m ∧
      (forall p, r.PresentsSession db p -> 0 < m ∧ m = p) ∧
      (forall p, r.PresentsDeviceToken sodium db p -> 0 < m ∧ m = p) := by
  rcases r.session_cases db with ⟨p, hp, hpresents⟩ | hlapsed | ⟨⟨hsome, hnot⟩, _⟩
  · refine ⟨p, recorded_eq_ok.mpr ⟨resolved_of_session hp hpresents,
      fun _ => h.headers ⟨p, hp, Or.inl hpresents⟩⟩, ?_, ?_⟩
    · intro q hq
      rcases hpresents with ⟨row, hnames, _, _, hperson⟩
      rcases hq with ⟨row', hnames', _, _, hperson'⟩
      rw [hnames'.eq hnames, hperson] at hperson'
      omega
    · intro q hq
      have hqp := h.onePerson p q hpresents hq
      omega
  · have hsession : forall p, Not (r.PresentsSession db p) := by
      intro p hp
      exact hlapsed.not_presents (h.people p (Or.inl hp)) hp
    rcases r.personOfDeviceToken_cases db with ⟨_, hnot, hrun⟩ | ⟨err, hunreadable, _⟩ |
      ⟨row, _, hnames, hrun⟩
    · refine ⟨-1, recorded_eq_ok.mpr ⟨?_, fun hm => absurd hm (by decide)⟩,
        fun p hp => absurd hp (hsession p), ?_⟩
      · rw [resolved_of_lapsed hlapsed, hrun]
      · intro p hp
        rcases hp with ⟨row, hnames, _⟩
        exact absurd hnames (hnot row)
    · exact absurd (h.deviceToken hlapsed) hunreadable
    · refine ⟨row.personId, recorded_eq_ok.mpr ⟨?_, fun hm => ?_⟩,
        fun p hp => absurd hp (hsession p), ?_⟩
      · rw [resolved_of_lapsed hlapsed, hrun]
      · exact h.headers ⟨row.personId, by omega, Or.inr ⟨hlapsed, row, hnames, rfl⟩⟩
      · intro p hp
        have hpositive := h.people p (Or.inr hp)
        rcases hp with ⟨row', hnames', _, _, _, hperson⟩
        rw [hnames'.eq hnames] at hperson
        omega
  · rcases h.session with hnone | ⟨row, hnames⟩
    · exact absurd hnone hsome
    · exact absurd hnames (hnot row)

theorem total_iff (sodium : Sodium) (hsettings : SettingsElsewhere r.serving.secrets) :
    r.Total sodium db <-> r.Clearable sodium db := by
  constructor
  · exact clearable_of_total hsettings
  · intro h
    rcases h.domain with ⟨domain, hdomain⟩
    rcases h.recorded with ⟨m, hrecorded, hsession, hdevice⟩
    have hperform : r.perform db = (r.signedOut db m, r.serving.clearedCookies domain) := by
      rw [perform_eq hsettings, hrecorded, hdomain]
    refine ⟨?_, ?_, ?_⟩
    · rw [hperform]
      exact clearsSignIn_clearedCookies r.serving domain
    · intro env db' p hlater hrows hpresents
      rw [hperform] at hrows
      rcases hpresents with ⟨row', hnames', hrevoked', hexpiry', _⟩
      rcases hrows.sessions row' hnames' with ⟨row, ⟨hmem, hcookie⟩, hexpiry, hrevoked⟩
      rcases mem_sessions_signedOut.mp hmem with ⟨hbefore, hother⟩
      refine hother (hsession row.personId ⟨row, ⟨hbefore, hcookie⟩, ?_, ?_, rfl⟩)
      · cases hrow : row.revoked with
        | false => rfl
        | true =>
            rw [hrevoked hrow] at hrevoked'
            cases hrevoked'
      · rw [hexpiry]
        have hnow : (env.now : Int) ≤ row'.expiresAt := hexpiry'
        omega
    · intro env db' p hlater hrows hpresents
      rw [hperform] at hrows
      rcases hpresents with ⟨row', hnames', hsecret', hrevoked', hexpiry', _⟩
      rcases hrows.deviceTokens row' hnames' with
        ⟨row, ⟨hmem, hcookie⟩, hsecret, hexpiry, hrevoked⟩
      rcases mem_deviceTokens_signedOut.mp hmem with ⟨hbefore, hother⟩
      refine hother (hdevice row.personId ⟨row, ⟨hbefore, hcookie⟩, ?_, ?_, ?_, rfl⟩)
      · rcases hsecret' with ⟨uuid, secret, bytes, hpair, hdecode, hhash⟩
        exact ⟨uuid, secret, bytes, hpair, hdecode, by rw [hsecret, hhash]⟩
      · cases hrow : row.revoked with
        | false => rfl
        | true =>
            rw [hrevoked hrow] at hrevoked'
            cases hrevoked'
      · rw [hexpiry]
        have hnow : (env.now : Int) < row'.expiresAt := hexpiry'
        omega

end LogoutRequest

end Logout

/-!
# Requests of one person
-/

namespace LogoutRequest

section OnePerson

attribute [local instance] Citext.plain UuidText.plain

def signedIn : AuthDb :=
  { onePerson with
    sessions :=
      { rows := [{ id := 1, uuid := "s1", personId := 1, createdAt := 0, lastSeenAt := 0
                   expiresAt := 100, revoked := false }]
        nextId := 2
        noClash := by decide }
    deviceTokens :=
      { rows := [{ id := 1, uuid := "t1", personId := 1, secretHash := "k", createdAt := 0
                   lastUsedAt := none, expiresAt := 100, revoked := false }]
        nextId := 2
        noClash := by decide } }

def withCookies (sessionToken deviceToken : Option String) : LogoutRequest where
  env := Env.ofClock 10 "u"
  serving := { secrets := none, isProd := false, rejected := .syntaxError }
  sessionToken := sessionToken
  deviceToken := deviceToken
  ip := []
  userAgent := []

theorem settingsElsewhere_withCookies (sessionToken deviceToken : Option String) :
    SettingsElsewhere (withCookies sessionToken deviceToken).serving.secrets := by
  intro helper h
  cases h

theorem authority_bySession :
    (withCookies (some "s1") none).Authority Sodium.plain signedIn := by
  apply (authority_iff Sodium.plain (settingsElsewhere_withCookies _ _)).mpr
  intro h
  rcases h with ⟨_, ⟨row, ⟨_, uuid, secret, hcookie, _⟩, _⟩, _⟩
  cases hcookie

/-- The uuid of a device token signs its owner out, with any secret. -/
theorem wrongSecret_signsOut :
    Not ((withCookies none (some "t1.wrong")).Authority Sodium.plain signedIn) := by
  intro h
  have hsession : Not ((withCookies none (some "t1.wrong")).PresentsSession signedIn 1) := by
    intro hpresents
    rcases hpresents with ⟨row, ⟨_, token, htoken, _⟩, _⟩
    cases htoken
  have hdevice : Not ((withCookies none (some "t1.wrong")).PresentsDeviceToken Sodium.plain
      signedIn 1) := by
    intro hpresents
    rcases hpresents with ⟨row, ⟨hmem, _⟩, ⟨uuid, secret, bytes, hcookie, hdecode, hhash⟩, _⟩
    have hpair : (withCookies none (some "t1.wrong")).deviceToken.bind splitAtDot =
        some ("t1", "wrong") := by decide
    rw [hpair, Option.some.injEq, Prod.mk.injEq] at hcookie
    rw [← hcookie.2] at hdecode
    have hbytes : Sodium.plain.base64Decode "wrong" = .ok [119, 114, 111, 110, 103] := by decide
    rw [hbytes, Except.ok.injEq] at hdecode
    rw [List.mem_singleton.mp hmem, ← hdecode] at hhash
    exact absurd hhash (by decide)
  have hkept := h 1 hsession hdevice
  exact absurd hkept (by decide)

theorem total_ownCookies :
    (withCookies (some "s1") (some "t1.k")).Total Sodium.plain signedIn := by
  have hsession : forall row, (withCookies (some "s1") (some "t1.k")).NamesSession signedIn row ->
      row.personId = 1 := by
    intro row h
    rw [List.mem_singleton.mp h.1]
  have hdevice : forall row,
      (withCookies (some "s1") (some "t1.k")).NamesDeviceToken signedIn row ->
      row.personId = 1 := by
    intro row h
    rw [List.mem_singleton.mp h.1]
  apply (total_iff Sodium.plain (settingsElsewhere_withCookies _ _)).mpr
  refine ⟨Or.inr ⟨_, List.mem_singleton_self _, "s1", rfl, rfl⟩, ?_, fun _ => by decide,
    ⟨"", rfl⟩, ?_, ?_⟩
  · intro _ uuid secret _
    exact Option.some_ne_none uuid
  · intro p hp
    rcases hp with ⟨row, hnames, _, _, hperson⟩ | ⟨row, hnames, _, _, _, hperson⟩
    · rw [← hperson, hsession row hnames]
      decide
    · rw [← hperson, hdevice row hnames]
      decide
  · intro p q hp hq
    rcases hp with ⟨row, hnames, _, _, hperson⟩
    rcases hq with ⟨row', hnames', _, _, _, hperson'⟩
    rw [← hperson, ← hperson', hsession row hnames, hdevice row' hnames']

/-- The row of the session is gone, and nothing is cleared. -/
theorem purgedSession_notTotal :
    Not ((withCookies (some "s9") (some "t1.k")).Total Sodium.plain signedIn) := by
  intro h
  rcases h.cleared kSessionTokenCookie List.mem_cons_self with ⟨cookie, hmem, _⟩
  have hnone : ((withCookies (some "s9") (some "t1.k")).perform signedIn).2 = [] := by decide
  rw [hnone] at hmem
  cases hmem

end OnePerson

end LogoutRequest

end Auth
end ServerComponents
