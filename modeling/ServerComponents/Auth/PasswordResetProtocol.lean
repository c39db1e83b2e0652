import ServerComponents.Auth.PasswordReset
import ServerComponents.Protocols.OneTimeLink

/-!
# The password-reset protocol

A run is any sequence of requests and presentations, for any persons, each an
atomic transaction with its own clock, configuration and random bytes.  The
pending rows are one-time links, one for each person.
-/

namespace ServerComponents
namespace Auth

open Relational Statements Protocols

section Protocol

variable [Citext]

inductive ResetOp where
  | request (email : String) (mail : Bool) (secretBytes : Blob)
  | complete (email secret newPassword : String) (salt : Blob)

structure ResetCall where
  env : Env
  secrets : SecretsHelperPtr
  op : ResetOp

inductive ResetReply where
  | requested (result : ResetRequested)
  | completed (result : PasswordResetResult)
  deriving Repr, DecidableEq

namespace ResetCall

open PasswordResetHelper

variable (sodium : Sodium)

def program (call : ResetCall) : Sql ResetReply :=
  match call.op with
  | .request email mail secretBytes => do
      let result ← requestReset sodium call.secrets mail secretBytes email
      pure (.requested result)
  | .complete email secret newPassword salt => do
      let result ← completeReset sodium call.secrets salt email secret newPassword
      pure (.completed result)

def perform (db : AuthDb) (call : ResetCall) : AuthDb :=
  (Prog.transact call.env (call.program sodium) db).2

def outcome (db : AuthDb) (call : ResetCall) : Except Exn ResetReply :=
  (Prog.transact call.env (call.program sodium) db).1

def secretBytes? (call : ResetCall) : Option Blob :=
  match call.op with
  | .request _ _ secretBytes => some secretBytes
  | .complete _ _ _ _ => none

/-- A request that stores a link: its owner, its hash and its expiry. -/
def Issues (db : AuthDb) (call : ResetCall) (owner : Nat) (hash : String)
    (expiresAt : Int) : Prop :=
  exists email mail secretBytes result row,
    call.op = .request email mail secretBytes ∧
    (People.personByEmail db email).isSome = true ∧
    call.outcome sodium db = .ok (.requested result) ∧ result.personId = owner ∧
    row ∈ (call.perform sodium db).passwordResetTokens.rows ∧ row.personId = owner ∧
    hash = sodium.hashBinary secretBytes ∧ row.tokenHash = hash ∧
    row.expiresAt = expiresAt

/-- A presentation that ends as a success for this person. -/
def Completes (db : AuthDb) (call : ResetCall) (owner : Nat) (hash : String) : Prop :=
  exists email secret newPassword salt,
    call.op = .complete email secret newPassword salt ∧
    hashPresentedSecret sodium secret = hash ∧
    call.outcome sodium db = .ok (.completed { outcome := .success, personId := owner })

/-- The live link that a presentation claims an attempt on, and the hash that it
presents. -/
def claim? (db : AuthDb) (call : ResetCall) : Option (PasswordResetToken × String) :=
  match call.op with
  | .request _ _ _ => none
  | .complete email secret newPassword _ =>
      if newPassword = "" then none
      else
        match People.personByEmail db email with
        | none => none
        | some p =>
            (db.passwordResetTokens.find? (PasswordResetTokens.Claimable p.id
              kAttemptLimit call.env.now)).map
                (fun link => (link, hashPresentedSecret sodium secret))

def wrongPresentation (owner : Nat) (db : AuthDb) (call : ResetCall) : Bool :=
  match call.claim? sodium db with
  | none => false
  | some (link, hash) => link.personId == owner && link.tokenHash != hash

/-- What the reset must have done to the account. -/
structure Severed (call : ResetCall) (db' : AuthDb) (owner : Nat) : Prop where
  sessions : forall r, r ∈ db'.sessions.rows -> r.personId ≠ owner
  deviceTokens : forall r, r ∈ db'.deviceTokens.rows -> r.personId ≠ owner
  links : forall r, r ∈ db'.passwordResetTokens.rows -> r.personId ≠ owner
  account : exists p email secret newPassword salt,
    call.op = .complete email secret newPassword salt ∧
    People.personById db' owner = some p ∧ sameEmail p.email email = true ∧
    p.failedLoginAttempts = 0 ∧ p.lockedUntil = none ∧ p.emailVerifiedAt.isSome = true ∧
    HashOf sodium newPassword p.passwordHash

/-- No reset: passwords, sessions and device tokens are as they were. -/
structure Untouched (db db' : AuthDb) : Prop where
  people : db'.people = db.people
  sessions : db'.sessions = db.sessions
  deviceTokens : db'.deviceTokens = db.deviceTokens

/-- The secrets drawn in a run differ, and none is stored already. -/
structure FreshSecrets (db : AuthDb) (calls : List ResetCall) : Prop where
  injective : Function.Injective sodium.hashBinary
  nodup : (calls.filterMap secretBytes?).Nodup
  unused : forall call secretBytes r, call ∈ calls ->
    call.secretBytes? = some secretBytes -> r ∈ db.passwordResetTokens.rows ->
    r.tokenHash ≠ sodium.hashBinary secretBytes

def reached (db : AuthDb) (calls : List ResetCall) : AuthDb :=
  after (perform sodium) db calls

/--
The law of a run.  A secret issued in it completes for its owner only, before its
expiry, with fewer wrong presentations than the limit, and with no request for the
owner and no other completion of the owner in between; a completion severs the
account, and a presentation that is no completion leaves the accounts alone.
-/
structure ResetLaw (db : AuthDb) (calls : List ResetCall) : Prop where
  issued : forall pre issue mid complete post owner owner' hash expiresAt,
    calls = pre ++ issue :: (mid ++ complete :: post) ->
    Issues sodium (reached sodium db pre) issue owner hash expiresAt ->
    Completes sodium (reached sodium db (pre ++ issue :: mid)) complete owner' hash ->
    owner' = owner ∧ (complete.env.now : Int) < expiresAt ∧
      countAlong (perform sodium) (wrongPresentation sodium owner)
        (reached sodium db (pre ++ [issue])) mid < kAttemptLimit ∧
      Along (perform sodium) (fun db call =>
        (forall hash expiresAt, Not (Issues sodium db call owner hash expiresAt)) ∧
          forall hash, Not (Completes sodium db call owner hash))
        (reached sodium db (pre ++ [issue])) mid
  completed : forall pre call post owner hash, calls = pre ++ call :: post ->
    Completes sodium (reached sodium db pre) call owner hash ->
    Severed sodium call (reached sodium db (pre ++ [call])) owner
  otherwise : forall pre call post, calls = pre ++ call :: post ->
    (forall owner hash, Not (Completes sodium (reached sodium db pre) call owner hash)) ->
    Untouched (reached sodium db pre) (reached sodium db (pre ++ [call]))

/-!
# The rows are one-time links
-/

def linkOf (db : AuthDb) (owner : Nat) : Option (Link String) :=
  (db.passwordResetTokens.find? (fun r => r.personId == owner)).map (fun r =>
    { code := r.tokenHash, expiresAt := r.expiresAt, attempts := r.attempts })

def label (db : AuthDb) (call : ResetCall) : LinkEvent Nat String :=
  match call.op with
  | .request email _ _ =>
      match call.outcome sodium db, People.personByEmail db email with
      | .ok _, some p =>
          match linkOf (call.perform sodium db) p.id with
          | some l => .issue p.id l.code l.expiresAt
          | none => .idle
      | _, _ => .idle
  | .complete _ _ _ _ =>
      match call.claim? sodium db with
      | none => .idle
      | some (link, hash) =>
          if link.tokenHash ≠ hash then .guess link.personId hash call.env.now
          else
            match call.outcome sodium db with
            | .ok _ => .accept link.personId hash call.env.now
            | .error _ => .idle

variable {secretBytes : Blob}

section Refinement

variable {sodium} {db : AuthDb} {call : ResetCall}

theorem linkOf_of_mem {row : PasswordResetToken}
    (hrow : row ∈ db.passwordResetTokens.rows) :
    linkOf db row.personId =
      some { code := row.tokenHash, expiresAt := row.expiresAt
             attempts := row.attempts } := by
  unfold linkOf
  cases hfind : db.passwordResetTokens.find? (fun r => r.personId == row.personId) with
  | none =>
      have hnot := Table.find?_none hfind hrow
      simp at hnot
  | some r =>
      rcases Table.find?_some hfind with ⟨hmem, hperson⟩
      have hr : r = row := token_eq_of_person hmem hrow (by simpa using hperson)
      rw [hr]
      rfl

variable {owner : Nat}

theorem linkOf_eq_none (h : forall r, r ∈ db.passwordResetTokens.rows -> r.personId ≠ owner) :
    linkOf db owner = none := by
  unfold linkOf
  cases hfind : db.passwordResetTokens.find? (fun r => r.personId == owner) with
  | none => rfl
  | some r =>
      rcases Table.find?_some hfind with ⟨hmem, hperson⟩
      exact absurd (by simpa using hperson) (h r hmem)

theorem linkOf_some {l : Link String} (h : linkOf db owner = some l) :
    exists row, row ∈ db.passwordResetTokens.rows ∧ row.personId = owner ∧
      row.tokenHash = l.code ∧ row.expiresAt = l.expiresAt := by
  unfold linkOf at h
  rcases Option.map_eq_some_iff.mp h with ⟨row, hfind, hl⟩
  rcases Table.find?_some hfind with ⟨hmem, hperson⟩
  rw [← hl]
  exact ⟨row, hmem, by simpa using hperson, rfl, rfl⟩

variable {db' : AuthDb}

theorem onlyAt_of_rows (h : forall r, r.personId ≠ owner ->
      (r ∈ db'.passwordResetTokens.rows <-> r ∈ db.passwordResetTokens.rows)) :
    OnlyAt owner (linkOf db) (linkOf db') := by
  intro owner' hother
  cases hlink : linkOf db owner' with
  | none =>
      apply linkOf_eq_none
      intro r hr hperson
      have hr' := (h r (by rw [hperson]; exact hother)).mp hr
      rw [← hperson, linkOf_of_mem hr'] at hlink
      cases hlink
  | some l =>
      unfold linkOf at hlink
      rcases Option.map_eq_some_iff.mp hlink with ⟨row, hfind, hl⟩
      rcases Table.find?_some hfind with ⟨hmem, hperson⟩
      have howner : row.personId = owner' := by simpa using hperson
      have hmem' := (h row (by rw [howner]; exact hother)).mpr hmem
      rw [← howner, linkOf_of_mem hmem', ← hl]

theorem onlyAt_delete (htokens : db'.passwordResetTokens =
      db.passwordResetTokens.delete (fun r => r.personId == owner)) :
    OnlyAt owner (linkOf db) (linkOf db') ∧ linkOf db' owner = none := by
  constructor
  · apply onlyAt_of_rows
    intro r hperson
    rw [htokens, Table.mem_delete]
    simp [hperson]
  · apply linkOf_eq_none
    intro r hr
    rw [htokens, Table.mem_delete] at hr
    simpa using hr.2

variable {link : PasswordResetToken}

theorem onlyAt_claimed (hmem : link ∈ db.passwordResetTokens.rows)
    (hclaimed : AttemptClaimed db db' link) :
    OnlyAt link.personId (linkOf db) (linkOf db') ∧
      linkOf db' link.personId =
        some { code := link.tokenHash, expiresAt := link.expiresAt
               attempts := link.attempts + 1 } := by
  have hin : PasswordResetTokens.claimed link ∈ db'.passwordResetTokens.rows := by
    rw [hclaimed.rows, List.mem_map]
    exact ⟨link, hmem, by simp⟩
  constructor
  · apply onlyAt_of_rows
    intro r hperson
    rw [hclaimed.rows, List.mem_map]
    constructor
    · intro h
      rcases h with ⟨r0, hr0, hr⟩
      split at hr
      · rw [← hr] at hperson
        exact absurd rfl hperson
      · exact hr ▸ hr0
    · intro hr
      refine ⟨r, hr, ?_⟩
      split
      · rename_i hid
        rw [token_eq_of_id hr hmem (by simpa using hid)] at hperson
        exact absurd rfl hperson
      · rfl
  · exact linkOf_of_mem hin

variable (sodium db) in
/-- A presentation has one of its effects; only a right one can fail, and then it
leaves the store alone. -/
theorem complete_cases {email secret newPassword : String} {salt : Blob}
    (hop : call.op = .complete email secret newPassword salt) :
    (exists result, call.outcome sodium db = .ok (.completed result) ∧
      CompleteEffect sodium db call.env email secret newPassword (.ok result)
        (call.perform sodium db)) ∨
    (exists err p link, call.outcome sodium db = .error err ∧
      call.perform sodium db = db ∧ People.personByEmail db email = some p ∧
      ClaimedLink call.env db p link ∧
      link.tokenHash = hashPresentedSecret sodium secret) := by
  have hwp : Prog.wp call.env (call.program sodium) (fun outcome db' =>
      (exists result, outcome = .ok (.completed result) ∧
        CompleteEffect sodium db call.env email secret newPassword (.ok result) db') ∨
      exists err p link, outcome = .error err ∧
        People.personByEmail db email = some p ∧ ClaimedLink call.env db p link ∧
        link.tokenHash = hashPresentedSecret sodium secret) db := by
    simp only [program, hop, Prog.bind_eq, Prog.wp_bind]
    apply Prog.wp_mono _ wp_completeReset
    intro outcome db' heffect
    cases outcome with
    | ok result => exact Or.inl ⟨result, rfl, heffect⟩
    | error err =>
        cases heffect with
        | aborted _ _ hp hlink hright => exact Or.inr ⟨err, _, _, rfl, hp, hlink, hright⟩
  have h := Prog.transact_of_wp hwp (by
    intro err s' h
    rcases h with ⟨result, hok, _⟩ | h
    · cases hok
    · exact Or.inr h)
  rcases h with h | ⟨err, p, link, herr, h⟩
  · exact Or.inl h
  · exact Or.inr ⟨err, p, link, herr, Prog.transact_error herr, h⟩

variable (sodium db) in
theorem request_cases {email : String} {mail : Bool}
    (hop : call.op = .request email mail secretBytes) :
    (exists result, call.outcome sodium db = .ok (.requested result) ∧
      RequestEffect sodium db call.env mail secretBytes email (.ok result)
        (call.perform sodium db)) ∨
    (exists err, call.outcome sodium db = .error err ∧ call.perform sodium db = db) := by
  have hwp : Prog.wp call.env (call.program sodium) (fun outcome db' =>
      (exists result, outcome = .ok (.requested result) ∧
        RequestEffect sodium db call.env mail secretBytes email (.ok result) db') ∨
      exists err, outcome = .error err) db := by
    simp only [program, hop, Prog.bind_eq, Prog.wp_bind]
    apply Prog.wp_mono _ wp_requestReset
    intro outcome db' heffect
    cases outcome with
    | ok result => exact Or.inl ⟨result, rfl, heffect⟩
    | error err => exact Or.inr ⟨err, rfl⟩
  have h := Prog.transact_of_wp hwp (by
    intro err s' _
    exact Or.inr ⟨err, rfl⟩)
  rcases h with h | ⟨err, herr⟩
  · exact Or.inl h
  · exact Or.inr ⟨err, herr, Prog.transact_error herr⟩

theorem request_unknown {email : String} {result : ResetRequested}
    {env : Env} {sends : Bool} (hp : People.personByEmail db email = none)
    (h : RequestEffect sodium db env sends secretBytes email (.ok result) db') : db' = db := by
  cases h with
  | unknown _ => rfl
  | issued hp' =>
      rw [hp'] at hp
      cases hp

theorem issued_row {email : String} {result : ResetRequested}
    {p : Person} {env : Env} {sends : Bool} (hp : People.personByEmail db email = some p)
    (h : RequestEffect sodium db env sends secretBytes email (.ok result) db') :
    result.personId = p.id ∧ OnlyAt p.id (linkOf db) (linkOf db') ∧
      (exists row, row ∈ db'.passwordResetTokens.rows ∧ row.personId = p.id ∧
        row.tokenHash = sodium.hashBinary secretBytes ∧ row.attempts = 0) ∧
      db'.people = db.people ∧ db'.sessions = db.sessions ∧
      db'.deviceTokens = db.deviceTokens := by
  cases h with
  | unknown hnone =>
      rw [hnone] at hp
      cases hp
  | issued hp' hmail hperson hhash hattempts hexpiry hrows =>
      rename_i p' row ttlMinutes table mail
      rw [hp'] at hp
      cases hp
      have hin : row ∈ table.rows := by
        rw [hrows]
        simp
      refine ⟨rfl, ?_, ⟨row, hin, hperson, hhash, hattempts⟩, rfl, rfl, rfl⟩
      apply onlyAt_of_rows
      intro r hother
      simp only [hrows, List.mem_append, List.mem_filter, List.mem_singleton]
      constructor
      · rintro (⟨hr, _⟩ | hr)
        · exact hr
        · rw [hr] at hother
          exact absurd hperson hother
      · intro hr
        exact Or.inl ⟨hr, by simpa using hother⟩

variable {hash : String}

theorem claim?_some (h : call.claim? sodium db = some (link, hash)) :
    exists email secret newPassword salt p,
      call.op = .complete email secret newPassword salt ∧
      hash = hashPresentedSecret sodium secret ∧
      People.personByEmail db email = some p ∧ ClaimedLink call.env db p link ∧
      link.personId = p.id := by
  unfold claim? at h
  split at h
  · cases h
  · rename_i email secret newPassword salt hop
    split at h
    · cases h
    · split at h
      · cases h
      · rename_i p hp
        rcases Option.map_eq_some_iff.mp h with ⟨link', hfind, hpair⟩
        rcases Table.find?_some hfind with ⟨hmem, hclaimable⟩
        cases hpair
        exact ⟨email, secret, newPassword, salt, p, hop, rfl, hp, ⟨hmem, hclaimable⟩,
          claimable_person hclaimable⟩

variable (sodium) in
theorem claim?_of_link {email secret newPassword : String} {salt : Blob} {p : Person}
    (hop : call.op = .complete email secret newPassword salt)
    (hpassword : newPassword ≠ "") (hp : People.personByEmail db email = some p)
    (hlink : ClaimedLink call.env db p link) :
    call.claim? sodium db = some (link, hashPresentedSecret sodium secret) := by
  simp only [claim?, hop, hpassword, if_false, hp]
  cases hfind : db.passwordResetTokens.find? (PasswordResetTokens.Claimable p.id
      kAttemptLimit call.env.now) with
  | none =>
      have hnot := Table.find?_none hfind hlink.mem
      rw [hlink.claimable] at hnot
      cases hnot
  | some link' =>
      rcases Table.find?_some hfind with ⟨hmem, hclaimable⟩
      rw [token_eq_of_person hmem hlink.mem
        ((claimable_person hclaimable).trans (claimable_person hlink.claimable).symm)]
      rfl

theorem live_of_claimed {p : Person} {env : Env} (hlink : ClaimedLink env db p link) :
    Link.Live { code := link.tokenHash, expiresAt := link.expiresAt
                attempts := link.attempts } kAttemptLimit env.now := by
  have h := hlink.claimable
  simp only [PasswordResetTokens.Claimable, Bool.and_eq_true, decide_eq_true_eq] at h
  exact ⟨h.1.2, h.2⟩

theorem label_wrong
    (hclaim : call.claim? sodium db = some (link, hash)) (hwrong : link.tokenHash ≠ hash) :
    call.label sodium db = .guess link.personId hash call.env.now := by
  rcases claim?_some hclaim with ⟨_, _, _, _, _, hop, _⟩
  simp [label, hop, hclaim, hwrong]

theorem label_right {reply : ResetReply}
    (hclaim : call.claim? sodium db = some (link, hash)) (hright : link.tokenHash = hash)
    (hok : call.outcome sodium db = .ok reply) :
    call.label sodium db = .accept link.personId hash call.env.now := by
  rcases claim?_some hclaim with ⟨_, _, _, _, _, hop, _⟩
  simp [label, hop, hclaim, hright, hok]

theorem links_step (db : AuthDb) (call : ResetCall) :
    LinkStep kAttemptLimit (linkOf db) (linkOf (call.perform sodium db))
      (call.label sodium db) := by
  cases hop : call.op with
  | request email mail secretBytes =>
      rcases request_cases sodium db hop with
        ⟨result, hok, heffect⟩ | ⟨err, herr, hsame⟩
      · cases hp : People.personByEmail db email with
        | none =>
            have hlabel : call.label sodium db = .idle := by
              simp [label, hop, hok, hp]
            rw [hlabel, request_unknown hp heffect]
            exact LinkStep.idle rfl
        | some p =>
            rcases issued_row hp heffect with
              ⟨_, hothers, ⟨row, hmem, hperson, _, hattempts⟩, _⟩
            have hlink := linkOf_of_mem hmem
            rw [hperson, hattempts] at hlink
            have hlabel : call.label sodium db =
                .issue p.id row.tokenHash row.expiresAt := by
              simp [label, hop, hok, hp, hlink]
            rw [hlabel]
            exact LinkStep.issue hothers hlink
      · have hlabel : call.label sodium db = .idle := by
          simp [label, hop, herr]
        rw [hlabel, hsame]
        exact LinkStep.idle rfl
  | complete email secret newPassword salt =>
      rcases complete_cases sodium db hop with
        ⟨result, hok, heffect⟩ | ⟨err, p, link, herr, hsame, hp, hlink, hright⟩
      · generalize hdb' : call.perform sodium db = db' at heffect
        cases heffect with
        | rejected hempty =>
            have hlabel : call.label sodium db = .idle := by
              simp [label, hop, claim?, hempty]
            rw [hlabel]
            exact LinkStep.idle rfl
        | refused hnone =>
            have hclaim : call.claim? sodium db = none := by
              cases hclaim : call.claim? sodium db with
              | none => rfl
              | some pair =>
                  rcases claim?_some hclaim with
                    ⟨email', _, _, _, p, hop', _, hp, hlink, _⟩
                  rw [hop] at hop'
                  cases hop'
                  exact absurd hlink (hnone p pair.1 hp)
            have hlabel : call.label sodium db = .idle := by
              simp [label, hop, hclaim]
            rw [hlabel]
            exact LinkStep.idle rfl
        | guessed hpassword hp hlink hwrong hclaimed hattempts =>
            rw [label_wrong (claim?_of_link sodium hop hpassword hp hlink) hwrong]
            rcases onlyAt_claimed hlink.mem hclaimed with ⟨hothers, hafter⟩
            exact LinkStep.guess hothers (linkOf_of_mem hlink.mem) (live_of_claimed hlink)
              hwrong (Or.inr hafter)
        | exhausted hpassword hp hlink hwrong hremoved hrest =>
            rw [label_wrong (claim?_of_link sodium hop hpassword hp hlink) hwrong,
              claimable_person hlink.claimable]
            rcases onlyAt_delete hremoved with ⟨hothers, hafter⟩
            exact LinkStep.guess hothers
              (claimable_person hlink.claimable ▸ linkOf_of_mem hlink.mem)
              (live_of_claimed hlink) hwrong (Or.inl hafter)
        | succeeded hpassword hp hlink hright hdone =>
            rw [label_right (claim?_of_link sodium hop hpassword hp hlink) hright hok,
              claimable_person hlink.claimable]
            rcases onlyAt_delete hdone.tokens with ⟨hothers, hafter⟩
            exact LinkStep.accept hothers
              (claimable_person hlink.claimable ▸ linkOf_of_mem hlink.mem)
              (live_of_claimed hlink) hright hafter
      · have hlabel : call.label sodium db = .idle := by
          simp only [label, hop]
          cases hclaim : call.claim? sodium db with
          | none => rfl
          | some pair =>
              rcases claim?_some hclaim with
                ⟨_, _, _, _, p', hop', hhash, hp', hlink', _⟩
              rw [hop] at hop'
              cases hop'
              rw [hp] at hp'
              cases hp'
              have hsame' : pair.1 = link :=
                token_eq_of_person hlink'.mem hlink.mem
                  ((claimable_person hlink'.claimable).trans
                    (claimable_person hlink.claimable).symm)
              simp [hsame', hhash, hright, herr]
        rw [hlabel, hsame]
        exact LinkStep.idle rfl

theorem wrongPresentation_eq (owner : Nat) (db : AuthDb) (call : ResetCall) :
    call.wrongPresentation sodium owner db = (call.label sodium db).isGuess owner := by
  unfold wrongPresentation
  cases hclaim : call.claim? sodium db with
  | none =>
      cases hop : call.op with
      | request email mail secretBytes =>
          simp only [label, hop]
          split
          · split <;> rfl
          · rfl
      | complete email secret newPassword salt => simp [label, hop, hclaim,
          LinkEvent.isGuess]
  | some pair =>
      rcases pair with ⟨link, hash⟩
      by_cases hright : link.tokenHash = hash
      · rcases claim?_some hclaim with ⟨_, _, _, _, _, hop, _⟩
        simp only [label, hop, hclaim, hright]
        cases call.outcome sodium db <;> simp [LinkEvent.isGuess]
      · rw [label_wrong hclaim hright]
        simp [LinkEvent.isGuess, hright]

theorem label_of_issues {expiresAt : Int} (h : Issues sodium db call owner hash expiresAt) :
    call.label sodium db = .issue owner hash expiresAt := by
  rcases h with ⟨email, mail, secretBytes, result, row, hop, hperson, hok, howner, hmem,
    hrow, _, hrowHash, hexpiry⟩
  rcases Option.isSome_iff_exists.mp hperson with ⟨p, hp⟩
  rcases request_cases sodium db hop with
    ⟨result', hok', heffect⟩ | ⟨err, herr, _⟩
  · rw [hok] at hok'
    cases hok'
    have hp' : owner = p.id := howner.symm.trans (issued_row hp heffect).1
    have hlink := linkOf_of_mem hmem
    rw [hrow, hp', hrowHash, hexpiry] at hlink
    simp [label, hop, hok, hp, hlink, hp']
  · rw [hok] at herr
    cases herr

theorem hash_of_label (h : (call.label sodium db).Issues hash) :
    exists secretBytes, call.secretBytes? = some secretBytes ∧
      hash = sodium.hashBinary secretBytes := by
  cases hop : call.op with
  | complete email secret newPassword salt =>
      simp only [label, hop] at h
      split at h
      · exact h.elim
      · split at h
        · exact h.elim
        · split at h <;> exact h.elim
  | request email mail secretBytes =>
      refine ⟨secretBytes, by simp [secretBytes?, hop], ?_⟩
      rcases request_cases sodium db hop with
        ⟨result, hok, heffect⟩ | ⟨err, herr, _⟩
      · cases hp : People.personByEmail db email with
        | none =>
            simp [label, hop, hok, hp, LinkEvent.Issues] at h
        | some p =>
            rcases issued_row hp heffect with ⟨_, _, ⟨row, hmem, hperson, hhash, _⟩, _⟩
            have hlink := linkOf_of_mem hmem
            rw [hperson] at hlink
            simp only [label, hop, hok, hp, hlink, LinkEvent.Issues] at h
            exact h.symm.trans hhash
      · simp [label, hop, herr, LinkEvent.Issues] at h

theorem succeeded_of_completes (h : Completes sodium db call owner hash) :
    exists email secret newPassword salt p link,
      call.op = .complete email secret newPassword salt ∧
      People.personByEmail db email = some p ∧ p.id = owner ∧
      call.claim? sodium db = some (link, hash) ∧ link.tokenHash = hash ∧
      ResetDone sodium newPassword call.env db (call.perform sodium db) p := by
  rcases h with ⟨email, secret, newPassword, salt, hop, hhash, hok⟩
  rcases complete_cases sodium db hop with
    ⟨result, hok', heffect⟩ | ⟨err, _, _, herr, _⟩
  · rw [hok] at hok'
    cases hok'
    cases heffect with
    | succeeded hpassword hp hlink hright hdone =>
        have hclaim := claim?_of_link sodium hop hpassword hp hlink
        rw [hhash] at hclaim hright
        exact ⟨_, _, _, _, _, _, hop, hp, rfl, hclaim, hright, hdone⟩
  · rw [hok] at herr
    cases herr

theorem label_of_completes (h : Completes sodium db call owner hash) :
    call.label sodium db = .accept owner hash call.env.now := by
  rcases succeeded_of_completes h with
    ⟨_, _, _, _, p, link, hop, hp, howner, hclaim, hright, _⟩
  rcases claim?_some hclaim with ⟨_, _, _, _, p', hop', _, hp', _, hperson⟩
  rcases h with ⟨_, _, _, _, _, _, hok⟩
  rw [hop] at hop'
  cases hop'
  rw [hp] at hp'
  cases hp'
  rw [label_right hclaim hright hok, hperson, howner]

theorem severed_of_completes (h : Completes sodium db call owner hash) :
    Severed sodium call (call.perform sodium db) owner := by
  rcases succeeded_of_completes h with
    ⟨email, secret, newPassword, salt, p, link, hop, hp, howner, _, _, hdone⟩
  rcases hdone.people with ⟨passwordHash, hhash, hrows⟩
  have hmem := (People.personByEmail_some hp).1
  have hrow : resetRow call.env passwordHash p ∈ (call.perform sodium db).people.rows := by
    rw [hrows, List.mem_map]
    exact ⟨p, hmem, by simp⟩
  refine ⟨?_, ?_, ?_, ?_⟩
  · intro r hr
    rw [hdone.sessions, Table.mem_delete, howner] at hr
    simpa using hr.2
  · intro r hr
    rw [hdone.deviceTokens, Table.mem_delete, howner] at hr
    simpa using hr.2
  · intro r hr
    rw [hdone.tokens, Table.mem_delete, howner] at hr
    simpa using hr.2
  · refine ⟨resetRow call.env passwordHash p, email, secret, newPassword, salt, hop, ?_,
      (People.personByEmail_some hp).2, rfl, rfl, rfl, hhash⟩
    rw [← howner]
    exact People.personById_of_mem hrow

theorem untouched_of_not_completes
    (h : forall owner hash, Not (Completes sodium db call owner hash)) :
    Untouched db (call.perform sodium db) := by
  cases hop : call.op with
  | request email mail secretBytes =>
      rcases request_cases sodium db hop with
        ⟨result, _, heffect⟩ | ⟨err, _, hsame⟩
      · cases hp : People.personByEmail db email with
        | none =>
            rw [request_unknown hp heffect]
            exact ⟨rfl, rfl, rfl⟩
        | some p =>
            rcases issued_row hp heffect with ⟨_, _, _, hpeople, hsessions, htokens⟩
            exact ⟨hpeople, hsessions, htokens⟩
      · rw [hsame]
        exact ⟨rfl, rfl, rfl⟩
  | complete email secret newPassword salt =>
      rcases complete_cases sodium db hop with
        ⟨result, hok, heffect⟩ | ⟨err, p, link, _, hsame, _⟩
      · generalize hdb' : call.perform sodium db = db' at heffect
        cases heffect with
        | rejected _ => exact ⟨rfl, rfl, rfl⟩
        | refused _ => exact ⟨rfl, rfl, rfl⟩
        | guessed _ _ _ _ hclaimed _ =>
            rw [hclaimed.rest]
            exact ⟨rfl, rfl, rfl⟩
        | exhausted _ _ _ _ _ hrest =>
            rw [hrest]
            exact ⟨rfl, rfl, rfl⟩
        | succeeded _ _ _ _ _ =>
            exact absurd ⟨email, secret, newPassword, salt, hop, rfl, hok⟩ (h _ _)
      · rw [hsame]
        exact ⟨rfl, rfl, rfl⟩

end Refinement

/-!
# Every run
-/

section Runs

variable {sodium} {db : AuthDb} {calls pre mid post : List ResetCall}

theorem refines_reached (db : AuthDb) (calls : List ResetCall) :
    Refines kAttemptLimit (perform sodium) linkOf (label sodium) db calls := by
  intro pre call post _
  exact links_step _ call

theorem neverIssues_of_fresh {db' : AuthDb} {part : List ResetCall}
    (hinjective : Function.Injective sodium.hashBinary)
    (hfresh : secretBytes ∉ part.filterMap secretBytes?) :
    NeverIssues (perform sodium) (label sodium) (sodium.hashBinary secretBytes) db' part := by
  intro pre call post hpart hissues
  rcases hash_of_label hissues with ⟨secretBytes', hdrawn, hhash⟩
  apply hfresh
  rw [List.mem_filterMap]
  exact ⟨call, by simp [hpart], by rw [hdrawn, hinjective hhash]⟩

theorem absent_start (hunused : forall r, r ∈ db.passwordResetTokens.rows ->
      r.tokenHash ≠ sodium.hashBinary secretBytes) :
    Absent (linkOf db) (sodium.hashBinary secretBytes) := by
  intro owner l hl hcode
  rcases linkOf_some hl with ⟨row, hmem, _, hrow, _⟩
  exact hunused row hmem (hrow.trans hcode)

theorem reached_append (db : AuthDb) (pre post : List ResetCall) :
    reached sodium db (pre ++ post) = after (perform sodium) (reached sodium db pre) post :=
  after_append _ _ _ _

theorem countAlong_eq (owner : Nat) (db : AuthDb) (calls : List ResetCall) :
    countAlong (perform sodium) (wrongPresentation sodium owner) db calls =
      countAlong (perform sodium) (fun db call => (label sodium db call).isGuess owner) db
        calls := by
  induction calls generalizing db with
  | nil => rfl
  | cons call calls ih => simp only [countAlong, wrongPresentation_eq, ih]

theorem FreshSecrets.elsewhere {issue : ResetCall}
    (hfresh : FreshSecrets sodium db calls) (hcalls : calls = pre ++ issue :: (mid ++ post))
    (hdrawn : issue.secretBytes? = some secretBytes) :
    secretBytes ∉ pre.filterMap secretBytes? ∧ secretBytes ∉ mid.filterMap secretBytes? := by
  have hnodup := hfresh.nodup
  rw [hcalls, List.filterMap_append, List.filterMap_cons, hdrawn,
    List.filterMap_append] at hnodup
  rcases List.nodup_append.mp hnodup with ⟨_, htail, hdisjoint⟩
  constructor
  · intro hmem
    exact hdisjoint _ hmem _ List.mem_cons_self rfl
  · intro hmem
    exact (List.nodup_cons.mp htail).1 (List.mem_append_left _ hmem)

theorem passwordReset (db : AuthDb) (calls : List ResetCall)
    (hfresh : FreshSecrets sodium db calls) : ResetLaw sodium db calls := by
  constructor
  · intro pre issue mid complete post owner owner' hash expiresAt hcalls hissue hcomplete
    have hlabel := label_of_issues hissue
    rcases hissue with ⟨email, mail, secretBytes, _, _, hop, _, _, _, _, _, hhash, _⟩
    have hdrawn : issue.secretBytes? = some secretBytes := by
      simp [secretBytes?, hop]
    rcases hfresh.elsewhere hcalls hdrawn with ⟨hpre, hmid⟩
    have habsent : Absent (linkOf (reached sodium db pre)) hash := by
      rw [hhash]
      apply absent_after _ (refines_reached db pre)
        (neverIssues_of_fresh hfresh.injective hpre)
      exact absent_start (fun r hr => hfresh.unused issue secretBytes r
        (by simp [hcalls]) hdrawn hr)
    have hstep := @links_step _ sodium (reached sodium db pre) issue
    rw [hlabel] at hstep
    have htracked := tracked_issue habsent hstep
    have hafter : reached sodium db (pre ++ [issue]) =
        issue.perform sodium (reached sodium db pre) := by
      rw [reached_append]
      rfl
    have hmidAfter : after (perform sodium) (reached sodium db (pre ++ [issue])) mid =
        reached sodium db (pre ++ issue :: mid) := by
      rw [← reached_append, List.append_assoc]
      rfl
    have haccept : label sodium
        (after (perform sodium) (reached sodium db (pre ++ [issue])) mid) complete =
          .accept owner' hash complete.env.now := by
      rw [hmidAfter]
      exact label_of_completes hcomplete
    have hnever : NeverIssues (perform sodium) (label sodium) hash
        (reached sodium db (pre ++ [issue])) mid := by
      rw [hhash]
      exact neverIssues_of_fresh hfresh.injective hmid
    rw [← hafter] at htracked
    rcases accept_of_tracked htracked (refines_reached _ _) hnever haccept with
      ⟨howner, hexpiry, hattempts, hends⟩
    refine ⟨howner, hexpiry, ?_, ?_⟩
    · rw [countAlong_eq]
      exact hattempts
    · intro pre' call post' hmid'
      have hend : Not ((label sodium _ call).Ends owner) := hends pre' call post' hmid'
      constructor
      · intro hash' expiresAt' hissues
        rw [label_of_issues hissues] at hend
        exact hend rfl
      · intro hash' hcompletes
        rw [label_of_completes hcompletes] at hend
        exact hend rfl
  · intro pre call post owner hash _ hcomplete
    rw [reached_append]
    exact severed_of_completes hcomplete
  · intro pre call post _ hnot
    rw [reached_append]
    exact untouched_of_not_completes hnot

end Runs

end ResetCall

end Protocol

/-!
# A link that is asked for twice and followed once
-/

section SampleRun

attribute [local instance] Citext.plain

def resetRun : List ResetCall :=
  [{ env := Env.ofClock 1000 "a", secrets := some (SecretsHelper.ofSettings [])
     op := .request "ann@example.com" true [115, 49] },
   { env := Env.ofClock 2000 "b", secrets := some (SecretsHelper.ofSettings [])
     op := .request "ann@example.com" true [115, 50] },
   { env := Env.ofClock 3000 "c", secrets := none
     op := .complete "ann@example.com" "s1" "mallory" [] },
   { env := Env.ofClock 4000 "d", secrets := none
     op := .complete "ann@example.com" "s2" "new" [] }]

theorem passwordReset_sample : ResetCall.ResetLaw Sodium.plain onePerson resetRun := by
  apply ResetCall.passwordReset onePerson resetRun
  refine ⟨Sodium.plain_injective, by decide, ?_⟩
  intro call secretBytes r _ _ hr
  cases hr

example : (ResetCall.reached Sodium.plain onePerson resetRun).people.rows.map
    Person.passwordHash = ["new"] := by
  decide

end SampleRun

end Auth
end ServerComponents
