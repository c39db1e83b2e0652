import ServerComponents.Auth.PersonDeviceTokens
import ServerComponents.Statements.Interleaved

/-!
# Single use of device tokens

Any number of calls that issue, consume, revoke and remove device tokens, with
their statements interleaved in any order.  A pair is a uuid with the hash of its
secret.  The uuids that the statements draw never repeat.
-/

namespace ServerComponents
namespace Auth

open Relational Statements

section SingleUse

variable [Citext]

inductive TokenOp where
  | issue (email : String)
  | tryLogin (tokenId base64EncodedSecret : String)
  | consumeAndRotate (oldSecretHash oldUuid newSecretHash : String)
      (microsUntilExpires : Int)
  | revoke (id : Nat)
  | removeById (id : Nat)
  | removeForUser (personId : Nat)
  | deleteExpired (asOfUs : Int)

structure TokenCall where
  secrets : SecretsHelperPtr
  secretBytes : Blob
  op : TokenOp

inductive TokenReply where
  | device (result : DeviceTokenResult)
  | consumed (row : Option (Nat × String))
  | finished
  deriving Repr, DecidableEq

def TokenReply.accepted : TokenReply -> Bool
  | device result => result.ok
  | consumed row => row.isSome
  | finished => false

namespace TokenCall

variable (sodium : Sodium)

def program (call : TokenCall) : Sql TokenReply :=
  match call.op with
  | .issue email => do
      let result ← createDeviceToken sodium call.secrets call.secretBytes email
      pure (.device result)
  | .tryLogin tokenId secret => do
      let result ← tryLoginWithDeviceToken sodium call.secrets call.secretBytes
        tokenId secret
      pure (.device result)
  | .consumeAndRotate oldSecretHash oldUuid newSecretHash micros => do
      let row ← DeviceTokens.consumeAndRotate oldSecretHash oldUuid newSecretHash
        micros
      pure (.consumed row)
  | .revoke id => do
      DeviceTokens.revoke id
      pure .finished
  | .removeById id => do
      DeviceTokens.removeDeviceTokenById id
      pure .finished
  | .removeForUser personId => do
      DeviceTokens.removeDeviceTokensForUser personId
      pure .finished
  | .deleteExpired asOfUs => do
      let _ ← DeviceTokens.deleteExpired asOfUs
      pure .finished

def presented (call : TokenCall) : Option (String × String) :=
  match call.op with
  | .tryLogin tokenId secret =>
      match sodium.base64Decode secret with
      | .ok bytes => some (tokenId, sodium.hashBinary bytes)
      | .error _ => none
  | .consumeAndRotate oldSecretHash oldUuid _ _ => some (oldUuid, oldSecretHash)
  | _ => none

def successorHash (call : TokenCall) : String :=
  match call.op with
  | .consumeAndRotate _ _ newSecretHash _ => newSecretHash
  | _ => sodium.hashBinary call.secretBytes

/--
The lifetime of a successor: what the caller passes, or the clock of one turn of the call
plus the duration that is configured at another.
-/
def Lifetime (call : TokenCall) (finds : Env -> AuthDb -> Prop) (micros : Int) : Prop :=
  match call.op with
  | .consumeAndRotate _ _ _ passed => micros = passed
  | _ => exists env db env' db' d, finds env db ∧ maxDuration call.secrets db = some d ∧
      finds env' db' ∧ micros = addInt64 env'.now d

end TokenCall

def TokenOp.Withdraws (op : TokenOp) (r : DeviceToken) : Prop :=
  match op with
  | revoke id => r.id = id
  | removeById id => r.id = id
  | removeForUser personId => r.personId = personId
  | deleteExpired asOfUs => r.expiresAt < asOfUs
  | _ => False

/--
No row holds the pair any more, as after a removal or a rotation, or the row that
holds it is revoked or expires by the given time.
-/
def Spent (db : AuthDb) (uuid secretHash : String) (time : Int) : Prop :=
  forall r, r ∈ db.deviceTokens.rows -> r.uuid = uuid -> r.secretHash = secretHash ->
    r.revoked = true ∨ r.expiresAt ≤ time

/--
One row that the pair selects has been replaced by its successor, which expires when its
lifetime is over.  Until then the successor row is what the successor pair selects.
-/
def LeavesSuccessor (env : Env) (uuid secretHash newSecretHash : String) (micros : Int)
    (db db' : AuthDb) : Prop :=
  exists row, row ∈ db.deviceTokens.rows ∧
    DeviceTokens.Consumable secretHash uuid env.now row = true ∧
    db'.deviceTokens.rows = db.deviceTokens.rows.map (fun r =>
      if r.id == row.id then
        DeviceTokens.rotate env newSecretHash (env.now + micros) row
      else r) ∧
    forall r now, r ∈ db'.deviceTokens.rows ->
      (DeviceTokens.Consumable newSecretHash env.uuid now r = true <->
        r = DeviceTokens.rotate env newSecretHash (env.now + micros) row ∧
          (now : Int) < env.now + micros)

/-- The successor pair can be consumed at the clock of the consuming statement. -/
def LeavesUsableSuccessor (env : Env) (newSecretHash : String) (db' : AuthDb) : Prop :=
  exists r, r ∈ db'.deviceTokens.rows ∧
    DeviceTokens.Consumable newSecretHash env.uuid env.now r = true

/-!
# Runs
-/

abbrev TokenSystem (thread : Type) := System thread Env AuthDb Exn TokenReply

variable {thread : Type} [DecidableEq thread] (sodium : Sodium)
  (calls : thread -> TokenCall)

def tokenSystem (db : AuthDb) : TokenSystem thread where
  shared := db
  prog := fun t => (calls t).program sodium

/-- The turn in which a call returns with success for the pair it presents. -/
def Authenticates (s : TokenSystem thread) (e : Turn thread Env)
    (uuid secretHash : String) : Prop :=
  (calls e.thread).presented sodium = some (uuid, secretHash) ∧
    exists reply, s.Returns e reply ∧ reply.accepted = true

/-- The uuids drawn in a run differ from each other and from the stored ones. -/
structure FreshUuids (db : AuthDb) (es : List (Turn thread Env)) : Prop where
  nodup : (es.map (fun e => e.input.uuid)).Nodup
  unused : forall e r, e ∈ es -> r ∈ db.deviceTokens.rows -> r.uuid ≠ e.input.uuid

def Issued (db : AuthDb) (es : List (Turn thread Env)) (uuid : String) : Prop :=
  (exists r, r ∈ db.deviceTokens.rows ∧ r.uuid = uuid) ∨
    exists e, e ∈ es ∧ e.input.uuid = uuid

def reached (db : AuthDb) (es : List (Turn thread Env)) : TokenSystem thread :=
  after System.step (tokenSystem sodium calls db) es

/-- What the turns of a call find: their clock and uuid, and the store. -/
def TurnsFind (db : AuthDb) (es : List (Turn thread Env)) (t : thread) (env : Env)
    (found : AuthDb) : Prop :=
  exists pre e post, es = pre ++ e :: post ∧ e.thread = t ∧ e.input = env ∧
    (reached sodium calls db pre).shared = found

structure SingleUseLaw (db : AuthDb) (es : List (Turn thread Env)) : Prop where
  atMostOnce : forall pre e mid e' post uuid secretHash,
    es = pre ++ e :: (mid ++ e' :: post) ->
    Authenticates sodium calls (reached sodium calls db pre) e uuid secretHash ->
    Not (Authenticates sodium calls (reached sodium calls db (pre ++ e :: mid)) e'
      uuid secretHash)
  spent : forall pre mid e post uuid secretHash time,
    es = pre ++ (mid ++ e :: post) -> Issued db pre uuid ->
    Spent (reached sodium calls db pre).shared uuid secretHash time ->
    time ≤ e.input.now ->
    Not (Authenticates sodium calls (reached sodium calls db (pre ++ mid)) e
      uuid secretHash)
  withdrawn : forall pre e post r time, es = pre ++ e :: post ->
    r ∈ (reached sodium calls db pre).shared.deviceTokens.rows ->
    (calls e.thread).op.Withdraws r ->
    (reached sodium calls db pre).Returns e .finished ->
    Spent (reached sodium calls db (pre ++ [e])).shared r.uuid r.secretHash time
  successor : forall pre e post uuid secretHash, es = pre ++ e :: post ->
    Authenticates sodium calls (reached sodium calls db pre) e uuid secretHash ->
    exists micros,
      (calls e.thread).Lifetime (TurnsFind sodium calls db (pre ++ [e]) e.thread) micros ∧
      LeavesSuccessor e.input uuid secretHash ((calls e.thread).successorHash sodium) micros
        (reached sodium calls db pre).shared (reached sodium calls db (pre ++ [e])).shared ∧
      (LeavesUsableSuccessor e.input ((calls e.thread).successorHash sodium)
        (reached sodium calls db (pre ++ [e])).shared <-> 0 < micros)

/-!
# What one statement does to the table
-/

/-- Every row is new under the statement's uuid, or keeps its pair and expiry and
is at most revoked. -/
def TokensKept (env : Env) (db db' : AuthDb) : Prop :=
  forall r', r' ∈ db'.deviceTokens.rows ->
    r'.uuid = env.uuid ∨ exists r, r ∈ db.deviceTokens.rows ∧ r.uuid = r'.uuid ∧
      r.secretHash = r'.secretHash ∧ r.expiresAt = r'.expiresAt ∧
      (r.revoked = true -> r'.revoked = true)

variable {uuid secretHash newSecretHash : String}

section Statements

variable {env : Env} {db db' : AuthDb}

theorem TokensKept.refl : TokensKept env db db :=
  fun r' hr' => Or.inr ⟨r', hr', rfl, rfl, rfl, fun h => h⟩

theorem eq_of_uuid {r r' : DeviceToken} (hr : r ∈ db.deviceTokens.rows)
    (hr' : r' ∈ db.deviceTokens.rows) (huuid : r.uuid = r'.uuid) : r = r' :=
  Table.eq_of_clash DeviceToken.Clash.symm hr hr' (Or.inr (Or.inl huuid))

omit [Citext] in
theorem consumable_eq {r : DeviceToken} {secretHash uuid : String} {now : Nat}
    (h : DeviceTokens.Consumable secretHash uuid now r = true) :
    r.secretHash = secretHash ∧ r.uuid = uuid ∧ r.revoked = false ∧
      (now : Int) < r.expiresAt := by
  simp only [DeviceTokens.Consumable, Bool.and_eq_true, beq_iff_eq,
    Bool.not_eq_true', decide_eq_true_eq] at h
  exact ⟨h.1.1.1, h.1.1.2, h.1.2, h.2⟩

theorem Spent.not_consumable {secretHash uuid : String} {time : Int} {now : Nat}
    (h : Spent db uuid secretHash time) (htime : time ≤ now) {r : DeviceToken}
    (hr : r ∈ db.deviceTokens.rows) :
    DeviceTokens.Consumable secretHash uuid now r ≠ true := by
  intro hsel
  rcases consumable_eq hsel with ⟨hhash, huuid, hrevoked, hexpiry⟩
  rcases h r hr huuid hhash with h | h
  · rw [hrevoked] at h
    cases h
  · omega

theorem Spent.kept {uuid secretHash : String} {time : Int}
    (h : Spent db uuid secretHash time) (hkept : TokensKept env db db')
    (hfresh : env.uuid ≠ uuid) : Spent db' uuid secretHash time := by
  intro r' hr' huuid hhash
  rcases hkept r' hr' with hnew | ⟨r, hr, hruuid, hrhash, hexpiry, hrevoked⟩
  · exact absurd (hnew.symm.trans huuid) hfresh
  · rcases h r hr (hruuid.trans huuid) (hrhash.trans hhash) with h | h
    · exact Or.inl (hrevoked h)
    · exact Or.inr (by omega)

theorem consume_effect {secretHash uuid newSecretHash : String} {micros : Int}
    {reply : Nat × String}
    (h : DeviceTokens.consumeAndRotateWrite secretHash uuid newSecretHash micros env
      db = .ok (some reply, db')) :
    TokensKept env db db' ∧
      LeavesSuccessor env uuid secretHash newSecretHash micros db db' := by
  rcases DeviceTokens.consumeAndRotateWrite_cases secretHash uuid newSecretHash micros
      env db with ⟨hnone, _⟩ | ⟨err, herror⟩ | ⟨row, table, hok, hfind, _, hrows⟩
  · rw [hnone] at h
    cases h
  · rw [herror] at h
    cases h
  rw [hok] at h
  cases h
  rcases Table.find?_some hfind with ⟨hmem, hsel⟩
  have hrow := consumable_eq hsel
  have hone : forall r, r ∈ db.deviceTokens.rows ->
      DeviceTokens.Consumable secretHash uuid env.now r = (r.id == row.id) := by
    intro r hr
    cases hid : r.id == row.id with
    | true =>
        have hr' : r = row := Table.eq_of_clash DeviceToken.Clash.symm hr hmem
          (Or.inl (by simpa using hid))
        rw [hr']
        exact hsel
    | false =>
        apply Bool.eq_false_iff.mpr
        intro hsel'
        have hr' : r = row :=
          eq_of_uuid hr hmem ((consumable_eq hsel').2.1.trans hrow.2.1.symm)
        rw [hr'] at hid
        simp at hid
  have hrows' : table.rows = db.deviceTokens.rows.map (fun r =>
      if r.id == row.id then
        DeviceTokens.rotate env newSecretHash (env.now + micros) row else r) := by
    rw [hrows]
    apply List.map_congr_left
    intro r hr
    rw [hone r hr]
    cases hid : r.id == row.id with
    | false => rfl
    | true =>
        have hr' : r = row := Table.eq_of_clash DeviceToken.Clash.symm hr hmem
          (Or.inl (by simpa using hid))
        rw [hr']
  constructor
  · intro r' hr'
    simp only [hrows', List.mem_map] at hr'
    rcases hr' with ⟨r, hr, hr'⟩
    split at hr'
    · rw [← hr']
      exact Or.inl rfl
    · rw [← hr']
      exact TokensKept.refl r hr
  · refine ⟨row, hmem, hsel, hrows', ?_⟩
    have hin : DeviceTokens.rotate env newSecretHash (env.now + micros) row ∈
        table.rows := by
      rw [hrows', List.mem_map]
      exact ⟨row, hmem, by simp⟩
    intro r now hr
    constructor
    · intro hsel'
      rcases consumable_eq hsel' with ⟨_, huuid, _, hexpiry⟩
      have hr' : r = DeviceTokens.rotate env newSecretHash (env.now + micros) row :=
        Table.eq_of_clash DeviceToken.Clash.symm hr hin (Or.inr (Or.inl huuid))
      refine ⟨hr', ?_⟩
      rw [hr'] at hexpiry
      exact hexpiry
    · rintro ⟨hr', hexpiry⟩
      rw [hr']
      simp [DeviceTokens.Consumable, DeviceTokens.rotate, hrow.2.2.1, hexpiry]

theorem consume_none {secretHash uuid newSecretHash : String} {micros : Int}
    (h : DeviceTokens.consumeAndRotateWrite secretHash uuid newSecretHash micros env
      db = .ok (none, db')) : db' = db := by
  rcases DeviceTokens.consumeAndRotateWrite_cases secretHash uuid newSecretHash micros
      env db with ⟨hnone, _⟩ | ⟨err, herror⟩ | ⟨row, table, hok, _⟩
  · rw [hnone] at h
    cases h
    rfl
  · rw [herror] at h
    cases h
  · rw [hok] at h
    cases h

theorem LeavesSuccessor.usable_iff {micros : Int}
    (h : LeavesSuccessor env uuid secretHash newSecretHash micros db db') :
    LeavesUsableSuccessor env newSecretHash db' <-> 0 < micros := by
  rcases h with ⟨row, hmem, _, hrows, hselects⟩
  constructor
  · rintro ⟨r, hr, hsel⟩
    have hlive := ((hselects r env.now hr).mp hsel).2
    omega
  · intro hpositive
    have hin : DeviceTokens.rotate env newSecretHash (env.now + micros) row ∈
        db'.deviceTokens.rows := by
      rw [hrows, List.mem_map]
      exact ⟨row, hmem, by simp⟩
    exact ⟨_, hin, (hselects _ env.now hin).mpr ⟨rfl, by omega⟩⟩

theorem LeavesSuccessor.spent {micros time : Int}
    (h : LeavesSuccessor env uuid secretHash newSecretHash micros db db')
    (hfresh : env.uuid ≠ uuid) : Spent db' uuid secretHash time := by
  rcases h with ⟨row, hmem, hsel, hrows, _⟩
  intro r' hr' huuid _
  rw [hrows, List.mem_map] at hr'
  rcases hr' with ⟨r, hr, hr'⟩
  split at hr'
  · rw [← hr'] at huuid
    exact absurd huuid hfresh
  · rename_i hid
    rw [← hr'] at huuid
    have hrow : r = row :=
      eq_of_uuid hr hmem (huuid.trans (consumable_eq hsel).2.1.symm)
    rw [hrow] at hid
    simp at hid

theorem wp_addDeviceToken_kept {personId : Nat} {secretHash : String} {micros : Int} :
    Prog.wp env (DeviceTokens.addDeviceToken personId secretHash micros)
      (fun _ db' => TokensKept env db db') db := by
  apply DeviceTokens.wp_addDeviceToken
  · intro err
    exact TokensKept.refl
  · intro row table hrows huuid _ _ _ _ _ r' hr'
    simp only [hrows, List.mem_append, List.mem_singleton] at hr'
    rcases hr' with hr' | hr'
    · exact TokensKept.refl r' hr'
    · rw [hr']
      exact Or.inl huuid

theorem update_effect {table : Table DeviceToken DeviceToken.Clash}
    {changed : List DeviceToken} {id : Nat}
    (h : db.deviceTokens.update? (fun r => r.id == id)
      (fun r => { r with revoked := true }) = some (changed, table)) :
    TokensKept env db { db with deviceTokens := table } ∧
      forall r time, r ∈ db.deviceTokens.rows -> r.id = id ->
        Spent { db with deviceTokens := table } r.uuid r.secretHash time := by
  have hrows := (Table.update?_some h).2.1
  constructor
  · intro r' hr'
    simp only [hrows, List.mem_map] at hr'
    rcases hr' with ⟨r, hr, hr'⟩
    right
    refine ⟨r, hr, ?_⟩
    split at hr'
    · rw [← hr']
      exact ⟨rfl, rfl, rfl, fun _ => rfl⟩
    · rw [← hr']
      exact ⟨rfl, rfl, rfl, fun h => h⟩
  · intro r time hr hid r' hr' huuid _
    simp only [hrows, List.mem_map] at hr'
    rcases hr' with ⟨r0, hr0, hr'⟩
    left
    split at hr'
    · rw [← hr']
    · rename_i hother
      rw [← hr'] at huuid
      rw [eq_of_uuid hr0 hr huuid, hid] at hother
      simp at hother

theorem delete_effect (sel : DeviceToken -> Bool) :
    TokensKept env db { db with deviceTokens := db.deviceTokens.delete sel } ∧
      forall r time, r ∈ db.deviceTokens.rows -> sel r = true ->
        Spent { db with deviceTokens := db.deviceTokens.delete sel } r.uuid
          r.secretHash time := by
  constructor
  · intro r' hr'
    exact TokensKept.refl r' ((Table.mem_delete _ _ _).mp hr').1
  · intro r time hr hsel r' hr' huuid _
    rcases (Table.mem_delete _ _ _).mp hr' with ⟨hmem, hnot⟩
    rw [eq_of_uuid hmem hr huuid, hsel] at hnot
    cases hnot

end Statements

/-!
# What a call may do
-/

/-- The replies of a call that has written nothing. -/
def TokenCall.Idle (call : TokenCall) (reply : TokenReply) : Prop :=
  match call.op with
  | .issue _ => True
  | .tryLogin _ _ => reply.accepted = false
  | .consumeAndRotate _ _ _ _ => reply.accepted = false
  | _ => False

/-- The one write of a call, with the rest of its program. -/
structure TokenWrites (call : TokenCall) (finds : Env -> AuthDb -> Prop) (env : Env)
    (db db' : AuthDb) (rest : Sql TokenReply) : Prop where
  kept : TokensKept env db db'
  readOnly : Prog.ReadOnly rest
  returned : (forall email, call.op ≠ .issue email) -> exists reply, rest = .done reply
  successor : forall uuid secretHash reply,
    call.presented sodium = some (uuid, secretHash) -> rest = .done reply ->
    reply.accepted = true -> exists micros, call.Lifetime finds micros ∧
      LeavesSuccessor env uuid secretHash (call.successorHash sodium) micros db db'
  withdrawn : forall r time, r ∈ db.deviceTokens.rows -> call.op.Withdraws r ->
    Spent db' r.uuid r.secretHash time

variable {finds : Env -> AuthDb -> Prop} {call : TokenCall}

theorem tokenWrites_issue {email : String} {env : Env}
    {db db' : AuthDb} {rest : Sql TokenReply} (hop : call.op = .issue email)
    (hkept : TokensKept env db db') (hrest : Prog.ReadOnly rest) :
    TokenWrites sodium call finds env db db' rest := by
  refine ⟨hkept, hrest, ?_, ?_, ?_⟩
  · intro h
    exact absurd hop (h email)
  · intro uuid secretHash reply hpresented
    simp [TokenCall.presented, hop] at hpresented
  · intro r time _ hwithdraws
    rw [hop] at hwithdraws
    exact hwithdraws.elim

theorem TokenCall.not_withdraws {pair : String × String}
    {r : DeviceToken} (hpresented : call.presented sodium = some pair) :
    Not (call.op.Withdraws r) := by
  intro hwithdraws
  cases hop : call.op with
  | tryLogin tokenId secret =>
      rw [hop] at hwithdraws
      exact hwithdraws
  | consumeAndRotate oldSecretHash oldUuid newSecretHash micros =>
      rw [hop] at hwithdraws
      exact hwithdraws
  | _ => simp [TokenCall.presented, hop] at hpresented

theorem tokenWrites_refused {env : Env} {db : AuthDb} {reply : TokenReply} {pair : String × String}
    (hpresented : call.presented sodium = some pair) (hreply : reply.accepted = false) :
    TokenWrites sodium call finds env db db (.done reply) := by
  refine ⟨TokensKept.refl, trivial, fun _ => ⟨reply, rfl⟩, ?_, ?_⟩
  · intro uuid secretHash reply' _ hdone haccepted
    cases hdone
    rw [hreply] at haccepted
    cases haccepted
  · intro r time _ hwithdraws
    exact absurd hwithdraws (TokenCall.not_withdraws sodium hpresented)

theorem tokenWrites_consumed {env : Env} {db db' : AuthDb} {reply : TokenReply} {micros : Int}
    (hpresented : call.presented sodium = some (uuid, secretHash))
    (hsuccessor : call.successorHash sodium = newSecretHash)
    (hlifetime : call.Lifetime finds micros) (heffect : TokensKept env db db' ∧
      LeavesSuccessor env uuid secretHash newSecretHash micros db db') :
    TokenWrites sodium call finds env db db' (.done reply) := by
  refine ⟨heffect.1, trivial, fun _ => ⟨reply, rfl⟩, ?_, ?_⟩
  · intro uuid' secretHash' _ hpresented' _ _
    rw [hpresented] at hpresented'
    cases hpresented'
    rw [hsuccessor]
    exact ⟨micros, hlifetime, heffect.2⟩
  · intro r time _ hwithdraws
    exact absurd hwithdraws (TokenCall.not_withdraws sodium hpresented)

theorem tokenWrites_withdrawn {env : Env} {db db' : AuthDb}
    {reply : TokenReply} (hkept : TokensKept env db db') (hpresented : call.presented sodium = none)
    (hspent : forall r time, r ∈ db.deviceTokens.rows -> call.op.Withdraws r ->
      Spent db' r.uuid r.secretHash time) :
    TokenWrites sodium call finds env db db' (.done reply) := by
  refine ⟨hkept, trivial, fun _ => ⟨reply, rfl⟩, ?_, hspent⟩
  intro uuid secretHash _ hpresented'
  rw [hpresented] at hpresented'
  cases hpresented'

section Programs

variable {sodium}

theorem respects_deviceTokenHelper {secrets : SecretsHelperPtr} {secretBytes : Blob}
    {returns : Option (String × Int) -> Prop}
    {writes : Env -> AuthDb -> AuthDb -> Sql (Option (String × Int)) -> Prop}
    (hnone : returns none)
    (hsome : forall env db env' db' d, finds env db -> maxDuration secrets db = some d ->
      finds env' db' ->
        returns (some (sodium.hashBinary secretBytes, addInt64 env'.now d))) :
    Prog.Respects finds returns writes
      (deviceTokenHelper sodium secrets secretBytes) := by
  cases secrets with
  | none => exact hnone
  | some helper =>
      apply Prog.respects_bind
      apply Prog.respects_ask
      intro env db val hfinds hval
      split
      · exact hnone
      · rename_i hne
        apply Prog.respects_bind
        apply Prog.respects_ofExcept
        intro d hd
        apply Prog.respects_bind
        apply Prog.respects_ask
        intro env' db' now hfinds' hnow
        cases hnow
        apply hsome env db env' db' d hfinds _ hfinds'
        simp [maxDuration, hval, hne, hd, Except.toOption]

theorem respects_issue {email : String} (hop : call.op = .issue email) :
    Prog.Respects finds call.Idle (TokenWrites sodium call finds)
      (call.program sodium) := by
  have hidle : forall reply, call.Idle reply := by
    intro reply
    simp [TokenCall.Idle, hop]
  simp only [TokenCall.program, hop, createDeviceToken, People.lookupPersonByEmail,
    Prog.bind_eq, Prog.bind_assoc]
  apply Prog.respects_bind
  apply Prog.readOnly_ask.respects
  intro person
  cases person with
  | none => exact hidle _
  | some p =>
      dsimp only
      split
      · apply Prog.respects_bind_writes
        apply Prog.respects_tryCatch
        · apply Prog.respects_bind
          apply respects_deviceTokenHelper
          · exact hidle _
          · intro _ _ env' _ d _ _ _
            apply Prog.respects_exec_bind
            intro env db id db' _ hwrite
            apply tokenWrites_issue sodium hop
            · have hwp : Prog.wp env
                  (DeviceTokens.addDeviceToken p.id
                    (sodium.hashBinary call.secretBytes) (addInt64 env'.now d))
                  (fun _ db' => TokensKept env db db') db := wp_addDeviceToken_kept
              exact Prog.exec_of_wp hwp hwrite
            · apply Prog.ReadOnly.bind
              · apply Prog.ReadOnly.tryCatch
                · exact Prog.ReadOnly.bind Prog.readOnly_ask (fun _ => trivial)
                · exact fun _ => trivial
              · exact fun _ => trivial
        · intro err
          exact hidle _
      · exact hidle _

theorem respects_tryLogin {tokenId secret : String} (hop : call.op = .tryLogin tokenId secret) :
    Prog.Respects finds call.Idle (TokenWrites sodium call finds)
      (call.program sodium) := by
  have hidle : forall reply : TokenReply, reply.accepted = false -> call.Idle reply := by
    intro reply hreply
    simp [TokenCall.Idle, hop, hreply]
  simp only [TokenCall.program, hop, tryLoginWithDeviceToken, Prog.bind_eq]
  apply Prog.respects_bind_writes
  apply Prog.respects_tryCatch
  · apply Prog.respects_bind
    apply Prog.respects_ofExcept
    intro bytes hdecode
    have hpresented : call.presented sodium = some (tokenId, sodium.hashBinary bytes) := by
      simp [TokenCall.presented, hop, hdecode]
    apply Prog.respects_bind
    apply respects_deviceTokenHelper
    · exact hidle _ rfl
    · intro env₁ db₁ env₂ db₂ d hfinds₁ hd hfinds₂
      apply Prog.respects_exec_bind
      intro env db reply db' _ hwrite
      cases reply with
      | none =>
          rw [consume_none hwrite]
          exact tokenWrites_refused sodium hpresented rfl
      | some accepted =>
          apply tokenWrites_consumed sodium hpresented _ _ (consume_effect hwrite)
          · simp [TokenCall.successorHash, hop]
          · simp only [TokenCall.Lifetime, hop]
            exact ⟨env₁, db₁, env₂, db₂, d, hfinds₁, hd, hfinds₂, rfl⟩
  · intro err
    exact hidle _ rfl

theorem respects_consumeAndRotate {oldSecretHash oldUuid newSecretHash : String} {micros : Int}
    (hop : call.op = .consumeAndRotate oldSecretHash oldUuid newSecretHash micros) :
    Prog.Respects finds call.Idle (TokenWrites sodium call finds)
      (call.program sodium) := by
  have hpresented : call.presented sodium = some (oldUuid, oldSecretHash) := by
    simp [TokenCall.presented, hop]
  simp only [TokenCall.program, hop, Prog.bind_eq]
  apply Prog.respects_exec_bind
  intro env db reply db' _ hwrite
  cases reply with
  | none =>
      rw [consume_none hwrite]
      exact tokenWrites_refused sodium hpresented rfl
  | some accepted =>
      apply tokenWrites_consumed sodium hpresented _ _ (consume_effect hwrite)
      · simp [TokenCall.successorHash, hop]
      · simp [TokenCall.Lifetime, hop]

theorem respects_revoke {id : Nat} (hop : call.op = .revoke id) :
    Prog.Respects finds call.Idle (TokenWrites sodium call finds)
      (call.program sodium) := by
  simp only [TokenCall.program, hop, DeviceTokens.revoke, Prog.bind_eq, Prog.bind_assoc]
  apply Prog.respects_bind
  apply Prog.readOnly_ask.respects
  intro row
  apply Prog.respects_exec_bind
  intro env db reply db' _ hwrite
  cases hupdate : db.deviceTokens.update? (fun r => r.id == id)
      (fun r => { r with revoked := true }) with
  | none =>
      simp [hupdate, orUniqueViolation, bind, Except.bind] at hwrite
  | some pair =>
      simp only [hupdate, orUniqueViolation, bind, Except.bind, pure, Except.pure] at hwrite
      cases hwrite
      rcases update_effect hupdate with ⟨hkept, hspent⟩
      apply tokenWrites_withdrawn sodium hkept
      · simp [TokenCall.presented, hop]
      · intro r time hr hwithdraws
        rw [hop] at hwithdraws
        exact hspent r time hr hwithdraws

theorem respects_delete {reply : Type} (sel : DeviceToken -> Bool) (answer : AuthDb -> reply)
    (hprogram : call.program sodium =
      (Prog.exec (fun _ db => .ok (answer db, { db with
        deviceTokens := db.deviceTokens.delete sel }))).bind
          (fun _ => .done .finished))
    (hpresented : call.presented sodium = none)
    (hsel : forall r, call.op.Withdraws r -> sel r = true) :
    Prog.Respects finds call.Idle (TokenWrites sodium call finds)
      (call.program sodium) := by
  rw [hprogram]
  apply Prog.respects_exec_bind
  intro env db value db' _ hwrite
  cases hwrite
  rcases @delete_effect _ env db sel with ⟨hkept, hspent⟩
  apply tokenWrites_withdrawn sodium hkept hpresented
  intro r time hr hwithdraws
  exact hspent r time hr (hsel r hwithdraws)

theorem respects_program (call : TokenCall) :
    Prog.Respects finds call.Idle (TokenWrites sodium call finds)
      (call.program sodium) := by
  rcases call with ⟨secrets, secretBytes, op⟩
  cases op with
  | issue email => exact respects_issue rfl
  | tryLogin tokenId secret => exact respects_tryLogin rfl
  | consumeAndRotate oldSecretHash oldUuid newSecretHash micros =>
      exact respects_consumeAndRotate rfl
  | revoke id => exact respects_revoke rfl
  | removeById id =>
      apply respects_delete (fun r => r.id == id) (fun _ => ()) rfl rfl
      simp [TokenOp.Withdraws]
  | removeForUser personId =>
      apply respects_delete (fun r => r.personId == personId) (fun _ => ()) rfl rfl
      simp [TokenOp.Withdraws]
  | deleteExpired asOfUs =>
      apply respects_delete (fun r => decide (r.expiresAt < asOfUs))
        (fun db =>
          (db.deviceTokens.rows.filter (fun r => decide (r.expiresAt < asOfUs))).length)
        rfl rfl
      simp [TokenOp.Withdraws]

end Programs

/-!
# Runs of interleaved calls
-/

/-- A call that has not written yet, or has nothing left to write. -/
def Ready (call : TokenCall) (finds : Env -> AuthDb -> Prop) (p : Sql TokenReply) : Prop :=
  Prog.Respects finds call.Idle (TokenWrites sodium call finds) p ∨
    (Prog.ReadOnly p ∧
      ((forall email, call.op ≠ .issue email) -> exists reply, p = .done reply))

section Runs

variable {sodium calls} {db : AuthDb} {s : TokenSystem thread} {e : Turn thread Env}
  {es pre mid post : List (Turn thread Env)}

omit [DecidableEq thread] in
theorem ready_start (t : thread) (finds : Env -> AuthDb -> Prop) :
    Ready sodium (calls t) finds ((tokenSystem sodium calls db).prog t) :=
  Or.inl (respects_program (calls t))

theorem ready_turn {finds : thread -> Env -> AuthDb -> Prop}
    (hfinds : finds e.thread e.input s.shared)
    (h : forall t, Ready sodium (calls t) (finds t) (s.prog t)) :
    TokensKept e.input s.shared (s.step e).shared ∧
      forall t, Ready sodium (calls t) (finds t) ((s.step e).prog t) := by
  rcases h e.thread with hp | ⟨hread, hdone⟩
  · rcases hp.step hfinds with ⟨hstore, hnext⟩ | hwrites
    · constructor
      · change TokensKept e.input s.shared ((s.prog e.thread).step e.input s.shared).1
        rw [hstore]
        exact TokensKept.refl
      · exact System.forall_prog_step h (Or.inl hnext)
    · exact ⟨hwrites.kept,
        System.forall_prog_step h (Or.inr ⟨hwrites.readOnly, hwrites.returned⟩)⟩
  · rcases hread.step e.input s.shared with ⟨hstore, hnext⟩
    constructor
    · change TokensKept e.input s.shared ((s.prog e.thread).step e.input s.shared).1
      rw [hstore]
      exact TokensKept.refl
    · apply System.forall_prog_step h
      right
      refine ⟨hnext, ?_⟩
      intro hop
      rcases hdone hop with ⟨reply, hreply⟩
      exact ⟨reply, by rw [hreply]; rfl⟩

theorem ready_reached (es : List (Turn thread Env)) :
    forall t, Ready sodium (calls t) (fun _ _ => True) ((reached sodium calls db es).prog t) := by
  have hstep : forall (s : TokenSystem thread) (e : Turn thread Env),
      (forall t, Ready sodium (calls t) (fun _ _ => True) (s.prog t)) ->
      forall t, Ready sodium (calls t) (fun _ _ => True) ((s.step e).prog t) :=
    fun s e h => (ready_turn trivial h).2
  exact invariant_run (fun t => ready_start t _) hstep

/-- A call has found no more than the turns of the run before. -/
theorem ready_turns (pre post : List (Turn thread Env)) (t : thread) :
    Ready sodium (calls t) (TurnsFind sodium calls db (pre ++ post) t)
      ((reached sodium calls db pre).prog t) := by
  induction pre using List.reverseRecOn generalizing post t with
  | nil => exact ready_start t _
  | append_singleton pre e ih =>
      rw [reached, after_append, List.append_assoc]
      exact (ready_turn ⟨pre, e, post, rfl, rfl, rfl, rfl⟩ (ih ([e] ++ post))).2 t

theorem returns_write {reply : TokenReply}
    (hfinds : finds e.input s.shared)
    (h : Ready sodium (calls e.thread) finds (s.prog e.thread))
    (hreturns : s.Returns e reply)
    (hop : forall email, (calls e.thread).op ≠ .issue email)
    (hidle : Not ((calls e.thread).Idle reply)) :
    TokenWrites sodium (calls e.thread) finds e.input s.shared (s.step e).shared
      (.done reply) := by
  rcases hreturns with ⟨hbefore, hafter⟩
  rw [System.step_prog_self, Prog.result?_eq_some] at hafter
  rcases h with hp | ⟨_, hdone⟩
  · rcases hp.step hfinds with ⟨_, hnext⟩ | hwrites
    · rw [hafter] at hnext
      exact absurd hnext hidle
    · rw [hafter] at hwrites
      exact hwrites
  · rcases hdone hop with ⟨reply', hreply'⟩
    rw [hreply'] at hbefore
    cases hbefore

variable {uuid secretHash : String}

theorem authenticates_successor (hfinds : finds e.input s.shared)
    (h : Ready sodium (calls e.thread) finds (s.prog e.thread))
    (hauth : Authenticates sodium calls s e uuid secretHash) :
    exists micros, (calls e.thread).Lifetime finds micros ∧
      LeavesSuccessor e.input uuid secretHash ((calls e.thread).successorHash sodium) micros
        s.shared (s.step e).shared := by
  rcases hauth with ⟨hpresented, reply, hreturns, haccepted⟩
  have hop : forall email, (calls e.thread).op ≠ .issue email := by
    intro email hop
    simp [TokenCall.presented, hop] at hpresented
  have hidle : Not ((calls e.thread).Idle reply) := by
    intro hidle
    unfold TokenCall.Idle at hidle
    split at hidle
    · exact absurd (by assumption) (hop _)
    · rw [haccepted] at hidle
      cases hidle
    · rw [haccepted] at hidle
      cases hidle
    · exact hidle
  have hwrites := returns_write hfinds h hreturns hop hidle
  exact hwrites.successor uuid secretHash reply hpresented rfl haccepted

theorem returns_withdrawn {r : DeviceToken}
    (h : Ready sodium (calls e.thread) (fun _ _ => True) (s.prog e.thread))
    (hreturns : s.Returns e .finished) (hr : r ∈ s.shared.deviceTokens.rows)
    (hwithdraws : (calls e.thread).op.Withdraws r) (time : Int) :
    Spent (s.step e).shared r.uuid r.secretHash time := by
  have hop : forall email, (calls e.thread).op ≠ .issue email := by
    intro email hop
    rw [hop] at hwithdraws
    exact hwithdraws
  have hidle : Not ((calls e.thread).Idle .finished) := by
    intro hidle
    cases hcall : (calls e.thread).op with
    | issue email => exact hop email hcall
    | tryLogin tokenId secret =>
        rw [hcall] at hwithdraws
        exact hwithdraws
    | consumeAndRotate oldSecretHash oldUuid newSecretHash micros =>
        rw [hcall] at hwithdraws
        exact hwithdraws
    | _ => simp [TokenCall.Idle, hcall] at hidle
  exact (returns_write trivial h hreturns hop hidle).withdrawn r time hr hwithdraws

theorem spent_after {time : Int} (h : forall t, Ready sodium (calls t) (fun _ _ => True) (s.prog t))
    (hspent : Spent s.shared uuid secretHash time)
    (hfresh : forall e, e ∈ es -> e.input.uuid ≠ uuid) :
    Spent (after System.step s es).shared uuid secretHash time := by
  induction es generalizing s with
  | nil => exact hspent
  | cons e es ih =>
      rcases ready_turn (e := e) trivial h with ⟨hkept, hready⟩
      apply ih hready
      · exact hspent.kept hkept (hfresh e (by simp))
      · intro e' he'
        exact hfresh e' (by simp [he'])

theorem issued_of_mem {r : DeviceToken}
    (hr : r ∈ (reached sodium calls db es).shared.deviceTokens.rows) :
    Issued db es r.uuid := by
  induction es using List.reverseRecOn generalizing r with
  | nil => exact Or.inl ⟨r, hr, rfl⟩
  | append_singleton es e ih =>
      simp only [reached, after_append, after_cons, after_nil] at hr
      rcases (ready_turn (e := e) trivial (ready_reached es)).1 r hr with
        hnew | ⟨r0, hr0, huuid, _⟩
      · exact Or.inr ⟨e, by simp, hnew.symm⟩
      · rw [← huuid]
        rcases ih hr0 with hold | ⟨e', he', hdrawn⟩
        · exact Or.inl hold
        · exact Or.inr ⟨e', by simp [he'], hdrawn⟩

omit [DecidableEq thread] in
theorem FreshUuids.not_drawn {uuid : String} (h : FreshUuids db (pre ++ post))
    (hissued : Issued db pre uuid) (he : e ∈ post) : e.input.uuid ≠ uuid := by
  rcases hissued with ⟨r, hr, hruuid⟩ | ⟨e', he', hdrawn⟩
  · rw [← hruuid]
    exact (h.unused e r (by simp [he]) hr).symm
  · have hnodup := h.nodup
    rw [List.map_append] at hnodup
    have hdisjoint := (List.nodup_append.mp hnodup).2.2
    rw [← hdrawn]
    exact (hdisjoint _ (List.mem_map.mpr ⟨e', he', rfl⟩) _
      (List.mem_map.mpr ⟨e, he, rfl⟩)).symm

theorem spent_not_authenticates {time : Int}
    (h : Ready sodium (calls e.thread) (fun _ _ => True) (s.prog e.thread))
    (hspent : Spent s.shared uuid secretHash time) (htime : time ≤ e.input.now) :
    Not (Authenticates sodium calls s e uuid secretHash) := by
  intro hauth
  rcases authenticates_successor trivial h hauth with ⟨_, _, row, hmem, hsel, _⟩
  exact hspent.not_consumable htime hmem hsel

end Runs

theorem deviceTokenSingleUse (db : AuthDb) (es : List (Turn thread Env))
    (hfresh : FreshUuids db es) : SingleUseLaw sodium calls db es := by
  constructor
  · intro pre e mid e' post uuid secretHash hes hauth
    rcases authenticates_successor trivial (ready_reached pre e.thread) hauth with
      ⟨_, _, hsuccessor⟩
    have hissued : Issued db pre uuid := by
      rcases hsuccessor with ⟨row, hmem, hsel, _⟩
      rw [← (consumable_eq hsel).2.1]
      exact issued_of_mem hmem
    rw [hes] at hfresh
    have hnot : forall e'', e'' ∈ e :: (mid ++ e' :: post) -> e''.input.uuid ≠ uuid :=
      fun e'' he'' => hfresh.not_drawn hissued he''
    have hspent : Spent ((reached sodium calls db pre).step e).shared uuid secretHash 0 :=
      hsuccessor.spent (hnot e (by simp))
    have hspent' : Spent (reached sodium calls db (pre ++ e :: mid)).shared uuid
        secretHash 0 := by
      rw [reached, after_append, after_cons]
      apply spent_after (ready_turn trivial (ready_reached pre)).2 hspent
      intro e'' he''
      exact hnot e'' (by simp [he''])
    exact spent_not_authenticates (ready_reached _ _) hspent' (by omega)
  · intro pre mid e post uuid secretHash time hes hissued hspent htime
    rw [hes] at hfresh
    apply spent_not_authenticates (ready_reached _ _) _ htime
    rw [reached, after_append]
    apply spent_after (ready_reached pre) hspent
    intro e' he'
    exact hfresh.not_drawn hissued (by simp [he'])
  · intro pre e post r time _ hr hwithdraws hreturns
    rw [reached, after_append]
    exact returns_withdrawn (ready_reached pre e.thread) hreturns hr hwithdraws time
  · intro pre e post uuid secretHash _ hauth
    rcases authenticates_successor ⟨pre, e, [], rfl, rfl, rfl, rfl⟩
      (ready_turns pre [e] e.thread) hauth with ⟨micros, hlifetime, hsuccessor⟩
    rw [reached.eq_1 sodium calls db (pre ++ [e]), after_append]
    exact ⟨micros, hlifetime, hsuccessor, hsuccessor.usable_iff⟩

/-- A usable successor for every authentication of a run. -/
def SuccessorsUsable (db : AuthDb) (es : List (Turn thread Env)) : Prop :=
  forall pre e post uuid secretHash, es = pre ++ e :: post ->
    Authenticates sodium calls (reached sodium calls db pre) e uuid secretHash ->
    LeavesUsableSuccessor e.input ((calls e.thread).successorHash sodium)
      (reached sodium calls db (pre ++ [e])).shared

end SingleUse

/-!
# Two browsers with one cookie
-/

section FailingRun

attribute [local instance] Citext.plain

def oneDeviceToken : AuthDb :=
  { onePerson with
    deviceTokens :=
      { rows := [{ id := 1, uuid := "u1", personId := 1, secretHash := "s1"
                   createdAt := 0, lastUsedAt := none, expiresAt := 100
                   revoked := false }]
        nextId := 2
        noClash := List.pairwise_singleton _ _ } }

def replayedCookie (duration : String) (browser : Bool) : TokenCall where
  secrets := some (SecretsHelper.ofSettings
    [(Secrets.kAuthDeviceTokenMaxDurationInMicros, duration)])
  secretBytes := if browser then [115, 50] else [115, 51]
  op := .tryLogin "u1" "s1"

def firstBrowser : List (Turn Bool Env) :=
  [⟨true, Env.ofClock 5 "a"⟩, ⟨true, Env.ofClock 5 "b"⟩, ⟨true, Env.ofClock 5 "u2"⟩]

def secondBrowser : List (Turn Bool Env) :=
  [⟨false, Env.ofClock 6 "c"⟩, ⟨false, Env.ofClock 6 "d"⟩, ⟨false, Env.ofClock 6 "u3"⟩]

theorem freshUuids_browsers :
    FreshUuids oneDeviceToken (firstBrowser ++ secondBrowser) where
  nodup := by decide
  unused := by
    intro e r he hr
    simp only [oneDeviceToken, List.mem_singleton] at hr
    have hunused : forall e, e ∈ firstBrowser ++ secondBrowser -> "u1" ≠ e.input.uuid := by
      simp [firstBrowser, secondBrowser, Env.ofClock]
    rw [hr]
    exact hunused e he

theorem deviceTokenSingleUse_browsers :
    SingleUseLaw Sodium.plain (replayedCookie "10") oneDeviceToken
      (firstBrowser ++ secondBrowser) :=
  deviceTokenSingleUse Sodium.plain (replayedCookie "10") oneDeviceToken
    (firstBrowser ++ secondBrowser) freshUuids_browsers

/-- With a duration of minus the clock the successor expires at the clock itself. -/
theorem successorsUsable_fails :
    FreshUuids oneDeviceToken (firstBrowser ++ secondBrowser) ∧
      Not (SuccessorsUsable Sodium.plain (replayedCookie "-5") oneDeviceToken
        (firstBrowser ++ secondBrowser)) := by
  refine ⟨freshUuids_browsers, ?_⟩
  intro husable
  have hauth : Authenticates Sodium.plain (replayedCookie "-5")
      (reached Sodium.plain (replayedCookie "-5") oneDeviceToken
        [⟨true, Env.ofClock 5 "a"⟩, ⟨true, Env.ofClock 5 "b"⟩])
      ⟨true, Env.ofClock 5 "u2"⟩ "u1" "s1" :=
    ⟨by decide, .device ⟨true, "u2", "s2"⟩, ⟨rfl, by decide⟩, rfl⟩
  rcases husable [⟨true, Env.ofClock 5 "a"⟩, ⟨true, Env.ofClock 5 "b"⟩]
    ⟨true, Env.ofClock 5 "u2"⟩ secondBrowser "u1" "s1" rfl hauth with ⟨r, hr, hsel⟩
  have hrows : (reached Sodium.plain (replayedCookie "-5") oneDeviceToken
      firstBrowser).shared.deviceTokens.rows =
      [{ id := 1, uuid := "u2", personId := 1, secretHash := "s2", createdAt := 0
         lastUsedAt := some 5, expiresAt := 5, revoked := false }] := by
    decide
  have hr' := List.mem_singleton.mp (hrows ▸ hr)
  rw [hr'] at hsel
  exact absurd hsel (by decide)

end FailingRun

end Auth
end ServerComponents
