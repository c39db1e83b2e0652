import ServerComponents.Auth.AccountEndpoints
import ServerComponents.Relational.SideBySide
import ServerComponents.Statements.Alike

/-!
# The account of the session

The two endpoints read the 64-bit person id of the session into an `int`.  What a request
reads is compared over two databases that differ in the rows of other people only.
-/

namespace ServerComponents
namespace Auth

open Relational Statements Rest

section Endpoints

variable [Citext] (sodium : Sodium)

def setUserInfoOfSession (personId : Int) (message : Json) : Sql SetUserInfoAnswer :=
  setUserInfo (toInt32 personId) message

def updateUserPasswordOfSession (secrets : SecretsHelperPtr) (salt : Blob) (personId : Int)
    (message : Json) (ip userAgent : String) : Sql Response :=
  updateUserPassword sodium secrets salt (toInt32 personId) message ip userAgent

end Endpoints

/-!
# Databases that differ in other people
-/

/-- Rows with the same keys, and the same row where it is the person's. -/
structure RowBeside (personId : Int) (p p' : Person) : Prop where
  id_eq : p'.id = p.id
  email_eq : p'.email = p.email
  own : (p.id : Int) = personId -> p' = p

section Beside

variable [Citext]

structure Beside (personId : Int) (db db' : AuthDb) : Prop where
  people : List.Forall₂ (RowBeside personId) db.people.rows db'.people.rows
  rest : db' = { db with people := db'.people }

def otherPeople (personId : Int) (db : AuthDb) : List Person :=
  db.people.rows.filter (fun p => (p.id : Int) ≠ personId)

/-- The rows of other people are as they were, and they did not matter for the answer and
for what is left of the person's own. -/
structure OwnAccount {answer : Type} (env : Env) (personId : Int) (program : Sql answer)
    (db : AuthDb) : Prop where
  others : otherPeople personId (Prog.transact env program db).2 = otherPeople personId db
  own : forall db', Beside personId db db' ->
    (Prog.transact env program db).1 = (Prog.transact env program db').1 ∧
      Beside personId (Prog.transact env program db).2 (Prog.transact env program db').2

omit [Citext] in
theorem RowBeside.refl (personId : Int) (p : Person) : RowBeside personId p p :=
  ⟨rfl, rfl, fun _ => rfl⟩

variable {personId : Int} {db db' : AuthDb}

theorem Beside.refl (personId : Int) (db : AuthDb) : Beside personId db db :=
  ⟨List.forall₂_same.mpr (fun p _ => RowBeside.refl personId p), rfl⟩

theorem Beside.personById_cases (h : Beside personId db db') (id : Nat) :
    (People.personById db id = none ∧ People.personById db' id = none) ∨
      exists p p', People.personById db id = some p ∧ People.personById db' id = some p' ∧
        RowBeside personId p p' :=
  find?_sideBySide (fun p p' hp => by rw [hp.id_eq]) h.people

variable {id : Nat}

theorem Beside.personById_own (h : Beside personId db db')
    (hid : (id : Int) = personId) : People.personById db id = People.personById db' id := by
  rcases h.personById_cases id with ⟨hnone, hnone'⟩ | ⟨p, p', hp, hp', hbeside⟩
  · rw [hnone, hnone']
  · rw [hp, hp', hbeside.own (by rw [(People.personById_some hp).2]; exact hid)]

omit [Citext] in
theorem rowBeside_changed {p p' : Person} (hid : (id : Int) = personId)
    (change : Person -> Person) (h : RowBeside personId p p') :
    RowBeside personId (if p.id == id then change p else p)
      (if p'.id == id then change p' else p') := by
  rw [h.id_eq]
  split
  · rename_i hp
    have hp : p.id = id := by simpa using hp
    rw [h.own (by rw [hp]; exact hid)]
    exact RowBeside.refl personId _
  · exact h

omit [Citext] in
theorem forall₂_changed {rows rows' : List Person} (hid : (id : Int) = personId)
    (change : Person -> Person) (h : List.Forall₂ (RowBeside personId) rows rows') :
    List.Forall₂ (RowBeside personId) (rows.map (fun p => if p.id == id then change p else p))
      (rows'.map (fun p => if p.id == id then change p else p)) := by
  rw [List.forall₂_map_left_iff, List.forall₂_map_right_iff]
  exact h.imp (fun p p' hp => rowBeside_changed hid change hp)

theorem otherPeople_changed (hid : (id : Int) = personId)
    {change : Person -> Person} (hkeep : forall p, p.id = id -> (change p).id = id)
    (hrows : db'.people.rows = db.people.rows.map (fun p => if p.id == id then change p else p)) :
    otherPeople personId db' = otherPeople personId db := by
  unfold otherPeople
  rw [hrows]
  generalize db.people.rows = rows
  induction rows with
  | nil => rfl
  | cons p rest ih =>
      rw [List.map_cons, List.filter_cons, List.filter_cons, ih]
      by_cases hp : p.id = id
      · have hchanged := hkeep p hp
        simp [hp, hchanged, hid]
      · simp [hp]

/-- The databases differ in other people, and those of the first are the given rows. -/
structure Apart (personId : Int) (others : List Person) (db db' : AuthDb) : Prop where
  beside : Beside personId db db'
  others : otherPeople personId db = others

variable {others : List Person}

variable (h : Apart personId others db db')

include h in
theorem Apart.updateById_cases (hid : (id : Int) = personId) {change : Person -> Person}
    (hkeep : forall p, p.id = id -> (change p).id = id) :
    (exists t t', People.updateById db id change = .ok t ∧
      People.updateById db' id change = .ok t' ∧ Apart personId others t t') ∨
    (exists err, People.updateById db id change = .error err ∧
      People.updateById db' id change = .error err) := by
  rcases h with ⟨⟨hpeople, hrest⟩, hothers⟩
  obtain ⟨table, htable⟩ : exists table, db' = { db with people := table } := ⟨_, hrest⟩
  subst htable
  have hrows := forall₂_changed hid change hpeople
  have hclash : forall p q p' q', RowBeside personId p p' -> RowBeside personId q q' ->
      (Not (Person.Clash p q) <-> Not (Person.Clash p' q')) := by
    intro p q p' q' hp hq
    unfold Person.Clash
    rw [hp.id_eq, hp.email_eq, hq.id_eq, hq.email_eq]
  have hpairwise := pairwise_sideBySide hclash hrows
  unfold People.updateById Table.update?
  by_cases hfits : (db.people.rows.map (fun p => if p.id == id then change p else p)).Pairwise
      (fun p q => Not (Person.Clash p q))
  · rw [dif_pos hfits, dif_pos (hpairwise.mp hfits)]
    exact Or.inl ⟨_, _, rfl, rfl, ⟨hrows, rfl⟩,
      (otherPeople_changed hid hkeep rfl).trans hothers⟩
  · rw [dif_neg hfits, dif_neg (fun hfits' => hfits (hpairwise.mpr hfits'))]
    exact Or.inr ⟨_, rfl, rfl⟩

/-!
# A request alike
-/

abbrev AlikeApart {answer : Type} (env : Env) (personId : Int) (others : List Person)
    (program : Sql answer) (db db' : AuthDb) : Prop :=
  Prog.Alike env program (fun _ t t' => Apart personId others t t') db db'

variable {env : Env}

theorem alike_bindApart {answer answer' : Type} {program : Sql answer'}
    {next : answer' -> Sql answer} (hprogram : AlikeApart env personId others program db db')
    (hnext : forall value t t', Apart personId others t t' ->
      AlikeApart env personId others (next value) t t') :
    AlikeApart env personId others (program.bind next) db db' := by
  apply Prog.alike_bind
  apply hprogram.mono
  intro outcome t t' h
  cases outcome with
  | ok value => exact hnext value t t' h
  | error err => exact h

include h in
theorem alike_updatePersonRow (hid : (id : Int) = personId) {change : Env -> Person -> Person}
    (hkeep : forall p, (change env p).id = p.id) :
    AlikeApart env personId others (People.updatePersonRow id change) db db' := by
  apply alike_bindApart
  · apply Prog.alike_exec
    unfold People.updatePersonReturning
    rw [← h.beside.personById_own hid]
    cases hperson : People.personById db id with
    | none => exact Or.inl ⟨none, db, db', rfl, rfl, h⟩
    | some p =>
        have hp := (People.personById_some hperson).2
        rcases h.updateById_cases hid (fun q _ => (hkeep p).trans hp) with
          ⟨t, t', hupdate, hupdate', hafter⟩ | ⟨err, hupdate, hupdate'⟩
        · simp only [bind, Except.bind, hupdate, hupdate']
          exact Or.inl ⟨_, t, t', rfl, rfl, hafter⟩
        · simp only [bind, Except.bind, hupdate, hupdate']
          exact Or.inr ⟨err, rfl, rfl, h⟩
  · intro _ t t' h
    exact Prog.alike_done h

variable {p : Person}

include h in
theorem Apart.personByEmail (hid : (id : Int) = personId) (hp : People.personById db id = some p) :
    People.personByEmail db (infoOf p).email = some p ∧
      People.personByEmail db' (infoOf p).email = some p := by
  have hp' := hp
  rw [h.beside.personById_own hid] at hp'
  exact ⟨People.personByEmail_of_mem (People.personById_some hp).1,
    People.personByEmail_of_mem (People.personById_some hp').1⟩

include h in
theorem alike_lookupPerson_bind {answer : Type}
    (hid : (id : Int) = personId) {next : Option PersonInfo -> Sql answer}
    (hnone : AlikeApart env personId others (next none) db db')
    (hsome : forall p, People.personById db id = some p -> isVerified (some p) = true ->
      AlikeApart env personId others (next (some (infoOf p))) db db') :
    AlikeApart env personId others ((lookupPerson id).bind next) db db' := by
  unfold lookupPerson People.getPersonById
  rw [Prog.bind_eq, Prog.bind_assoc]
  apply Prog.alike_ask_bind (by rw [h.beside.personById_own hid])
  · exact fun _ => h
  · intro person hperson
    cases hperson
    cases hp : People.personById db id with
    | none => exact hnone
    | some p =>
        split
        · rename_i hverified
          exact hsome p hp hverified
        · exact hnone

include h in
theorem alike_setUserInfo (message : Json) :
    AlikeApart env personId others (setUserInfo personId message) db db' := by
  unfold setUserInfo
  split
  · exact Prog.alike_done h
  split
  · exact Prog.alike_done h
  rename_i hpositive
  have hid : (personId.toNat : Int) = personId := Int.toNat_of_nonneg (by omega)
  apply alike_lookupPerson_bind h hid
  · exact Prog.alike_done h
  · intro p hp hverified
    rcases h.personByEmail hid hp with ⟨hemail, hemail'⟩
    apply alike_bindApart _ (fun _ _ _ h => Prog.alike_done h)
    apply Prog.alike_ask_bind (by rw [hemail, hemail'])
    · exact fun _ => h
    · intro person hperson
      rw [hemail] at hperson
      cases hperson
      dsimp only
      rw [if_pos hverified]
      split
      · exact Prog.alike_done h
      · apply alike_bindApart _ (fun _ _ _ h => Prog.alike_done h)
        unfold People.updatePerson
        rw [if_pos (allowed_changesOf _)]
        apply Prog.alike_exec
        have hpid : (p.id : Int) = personId := by rw [(People.personById_some hp).2, hid]
        rcases h.updateById_cases hpid (fun q hq =>
            (setFields_changesOf env (overlay message (infoOf p)) q).1.trans hq) with
          ⟨t, t', hupdate, hupdate', hafter⟩ | ⟨err, hupdate, hupdate'⟩
        · simp only [bind, Except.bind, hupdate, hupdate']
          exact Or.inl ⟨_, t, t', rfl, rfl, hafter⟩
        · simp only [bind, Except.bind, hupdate, hupdate']
          exact Or.inr ⟨err, rfl, rfl, h⟩

variable {secrets : SecretsHelperPtr}

include h in
theorem alike_hashPasswordWithSecrets (sodium : Sodium)
    (hsettings : SettingsElsewhere secrets) (salt : Blob) (password : String) :
    AlikeApart env personId others (hashPasswordWithSecrets sodium secrets salt password)
      db db' := by
  cases secrets with
  | none => exact Prog.alike_ofExcept h
  | some helper =>
      unfold hashPasswordWithSecrets
      apply Prog.alike_ask_bind (hsettings helper rfl db db' _) (fun _ => h)
      intro opsStr _
      apply Prog.alike_ask_bind (hsettings helper rfl db db' _) (fun _ => h)
      intro memStr _
      exact Prog.alike_ofExcept h

include h in
theorem alike_updatePassword (sodium : Sodium)
    (hsettings : SettingsElsewhere secrets) (salt : Blob) (password : String)
    (hid : (id : Int) = personId) (hp : People.personById db id = some p) :
    AlikeApart env personId others
      (updatePassword sodium secrets salt (infoOf p).email password) db db' := by
  rcases h.personByEmail hid hp with ⟨hemail, hemail'⟩
  apply Prog.alike_ask_bind (by rw [hemail, hemail']) (fun _ => h)
  intro person hperson
  rw [hemail] at hperson
  cases hperson
  dsimp only
  split
  · have hpid : (p.id : Int) = personId := by rw [(People.personById_some hp).2, hid]
    have hstore : forall (hash : String) (t t' : AuthDb), Apart personId others t t' ->
        AlikeApart env personId others
          ((People.updatePasswordHash p.id hash).bind (fun _ => .done true)) t t' := by
      intro hash t t' h
      exact alike_bindApart (alike_updatePersonRow h hpid (fun _ => rfl))
        (fun _ _ _ h => Prog.alike_done h)
    split
    · exact alike_bindApart
        (alike_hashPasswordWithSecrets h sodium hsettings salt password) hstore
    · exact alike_bindApart (Prog.alike_ofExcept h) hstore
  · exact Prog.alike_done h

include h in
theorem alike_updateUserPassword (sodium : Sodium)
    (hsettings : SettingsElsewhere secrets) (salt : Blob) (message : Json) (ip userAgent : String) :
    AlikeApart env personId others
      (updateUserPassword sodium secrets salt personId message ip userAgent) db db' := by
  unfold updateUserPassword
  split
  · exact Prog.alike_done h
  cases textMember message "old_password" with
  | none => exact Prog.alike_done h
  | some oldPassword =>
  cases textMember message "new_password" with
  | none => exact Prog.alike_done h
  | some newPassword =>
      dsimp only
      split
      · exact Prog.alike_done h
      rename_i hpositive
      have hid : (personId.toNat : Int) = personId := Int.toNat_of_nonneg (by omega)
      apply alike_lookupPerson_bind h hid
      · exact Prog.alike_done h
      · intro p hp hverified
        rcases h.personByEmail hid hp with ⟨hemail, hemail'⟩
        dsimp only
        unfold verifyPassword People.lookupPersonByEmail
        rw [Prog.bind_eq, Prog.bind_eq, Prog.bind_assoc]
        apply Prog.alike_ask_bind (by rw [hemail, hemail']) (fun _ => h)
        intro person hperson
        rw [hemail] at hperson
        cases hperson
        dsimp only
        rw [if_pos hverified]
        change AlikeApart env personId others (if _ then _ else _) db db'
        split
        · exact Prog.alike_done h
        · apply alike_bindApart (alike_updatePassword h sodium hsettings salt newPassword hid hp)
          intro _ t t' h
          apply alike_bindApart (alike_updatePersonRow h hid (fun _ => rfl))
          intro _ t t' h
          apply alike_bindApart _ (fun _ _ _ h => Prog.alike_done h)
          apply Prog.alike_exec
          rcases h with ⟨⟨hpeople, hrest⟩, hothers⟩
          obtain ⟨table, htable⟩ : exists table, t' = { t with people := table } := ⟨_, hrest⟩
          subst htable
          exact Or.inl ⟨_, _, _, rfl, rfl, ⟨hpeople, rfl⟩, hothers⟩

theorem OwnAccount.of_alike {answer : Type} {program : Sql answer}
    (h : forall others db', Apart personId others db db' ->
      AlikeApart env personId others program db db') : OwnAccount env personId program db := by
  have htransact : forall db', Beside personId db db' ->
      (Prog.transact env program db).1 = (Prog.transact env program db').1 ∧
        Apart personId (otherPeople personId db) (Prog.transact env program db).2
          (Prog.transact env program db').2 := by
    intro db' hbeside
    exact (h _ db' ⟨hbeside, rfl⟩).transact (fun _ _ _ _ => ⟨hbeside, rfl⟩)
  exact
    { others := (htransact db (Beside.refl personId db)).2.others
      own := fun db' hbeside =>
        ⟨(htransact db' hbeside).1, (htransact db' hbeside).2.beside⟩ }

/-!
# The id that the endpoint reads
-/

def Refused (m : Int) (db : AuthDb) : Prop :=
  m ≤ 0 ∨ People.personById db m.toNat = none

include h in
theorem alike_lookupPerson_refused {answer : Type}
    (hnone : People.personById db id = none) {next : Option PersonInfo -> Sql answer}
    (hnext : AlikeApart env personId others (next none) db db') :
    AlikeApart env personId others ((lookupPerson id).bind next) db db' := by
  have hnone' : People.personById db' id = none := by
    rcases h.beside.personById_cases id with ⟨_, hnone'⟩ | ⟨p, p', hp, _, _⟩
    · exact hnone'
    · rw [hnone] at hp
      cases hp
  unfold lookupPerson People.getPersonById
  rw [Prog.bind_eq, Prog.bind_assoc]
  apply Prog.alike_ask_bind (by rw [hnone, hnone']) (fun _ => h)
  intro person hperson
  rw [hnone] at hperson
  cases hperson
  exact hnext

theorem ownAccount_setUserInfo_of {m : Int} (h : m = personId ∨ Refused m db)
    (message : Json) : OwnAccount env personId (setUserInfo m message) db := by
  apply OwnAccount.of_alike
  intro others db' hapart
  rcases h with heq | hrefused
  · rw [heq]
    exact alike_setUserInfo hapart message
  · unfold setUserInfo
    split
    · exact Prog.alike_done hapart
    split
    · exact Prog.alike_done hapart
    · rename_i hpositive
      rcases hrefused with hle | hnone
      · exact absurd hle hpositive
      · exact alike_lookupPerson_refused hapart hnone (Prog.alike_done hapart)

theorem ownAccount_updateUserPassword_of (sodium : Sodium)
    (hsettings : SettingsElsewhere secrets) {m : Int} (h : m = personId ∨ Refused m db)
    (salt : Blob) (message : Json) (ip userAgent : String) :
    OwnAccount env personId (updateUserPassword sodium secrets salt m message ip userAgent)
      db := by
  apply OwnAccount.of_alike
  intro others db' hapart
  rcases h with heq | hrefused
  · rw [heq]
    exact alike_updateUserPassword hapart sodium hsettings salt message ip userAgent
  · unfold updateUserPassword
    split
    · exact Prog.alike_done hapart
    cases textMember message "old_password" with
    | none => exact Prog.alike_done hapart
    | some oldPassword =>
    cases textMember message "new_password" with
    | none => exact Prog.alike_done hapart
    | some newPassword =>
        dsimp only
        split
        · exact Prog.alike_done hapart
        · rename_i hpositive
          rcases hrefused with hle | hnone
          · exact absurd hle hpositive
          · exact alike_lookupPerson_refused hapart hnone (Prog.alike_done hapart)

theorem exists_beside (hp : p ∈ db.people.rows) (hother : (p.id : Int) ≠ personId)
    (verifiedAt : Option Int) : exists db', Beside personId db db' ∧
      People.personById db' p.id = some { p with emailVerifiedAt := verifiedAt } := by
  have hwritten : exists db', People.updateById db p.id
      (fun _ => { p with emailVerifiedAt := verifiedAt }) = .ok db' ∧
        People.RowReplaced db db' p { p with emailVerifiedAt := verifiedAt } :=
    People.updateById_const hp rfl rfl
  rcases hwritten with ⟨db', -, hreplaced⟩
  refine ⟨db', ⟨?_, hreplaced.rest_eq⟩, ?_⟩
  · rw [hreplaced.rows_eq, List.forall₂_map_right_iff]
    apply List.forall₂_same.mpr
    intro r hr
    split
    · rename_i hid
      rw [People.eq_of_id_eq hr hp (by simpa using hid)]
      exact ⟨rfl, rfl, fun hown => absurd hown hother⟩
    · exact RowBeside.refl personId r
  · rw [hreplaced.personById_eq, People.personById_of_mem hp]
    simp

theorem not_ownAccount {answer : Type} {program : Sql answer} {refused : answer}
    (hp : People.personById db p.id = some p) (hother : (p.id : Int) ≠ personId)
    (hverified : forall db q, People.personById db p.id = some q ->
      isVerified (some q) = true -> (Prog.transact env program db).1 ≠ .ok refused)
    (hunverified : forall db q, People.personById db p.id = some q ->
      isVerified (some q) = false -> (Prog.transact env program db).1 = .ok refused) :
    Not (OwnAccount env personId program db) := by
  intro h
  have hmem := (People.personById_some hp).1
  cases hp' : isVerified (some p) with
  | true =>
      rcases exists_beside hmem hother none with ⟨db', hbeside, hq⟩
      apply hverified db p hp hp'
      rw [(h.own db' hbeside).1]
      exact hunverified db' _ hq rfl
  | false =>
      rcases exists_beside hmem hother (some 0) with ⟨db', hbeside, hq⟩
      apply hverified db' _ hq rfl
      rw [← (h.own db' hbeside).1]
      exact hunverified db p hp hp'

theorem wp_lookupPerson (hp : People.personById db id = some p)
    {post : Except Exn (Option PersonInfo) -> AuthDb -> Prop}
    (h : post (.ok (if isVerified (some p) then some (infoOf p) else none)) db) :
    Prog.wp env (lookupPerson id) post db := by
  unfold lookupPerson People.getPersonById
  apply Prog.wp_bind.mpr
  rw [Prog.wp_ask, hp]
  dsimp only
  split <;> simp_all [infoOf]

def emptyMembers (keys : List String) : Json := .obj (keys.map (fun key => (key, .str "")))

theorem wp_updateInfo_nothing {email : String} {personInfo : PersonInfo}
    (hnothing : (changesOf personInfo).entries = [])
    {post : Except Exn Bool -> AuthDb -> Prop} (h : post (.ok false) db) :
    Prog.wp env (updateInfo email personInfo) post db := by
  unfold updateInfo People.lookupPersonByEmail
  apply Prog.wp_bind.mpr
  rw [Prog.wp_ask]
  cases People.personByEmail db email with
  | none => exact h
  | some p =>
      dsimp only
      rw [if_pos hnothing]
      split <;> exact h

theorem setUserInfo_answer {m : Int} (hpositive : 0 < m)
    (hp : People.personById db m.toNat = some p) :
    (Prog.transact env (setUserInfo m
      (emptyMembers [DbSchema.kPeopleEmail, DbSchema.kPeopleFirstName,
        DbSchema.kPeopleLastName])) db).1 =
      .ok (if isVerified (some p) then SetUserInfoAnswer.ok else .notAuthenticated) := by
  have hwp : Prog.wp env (setUserInfo m
      (emptyMembers [DbSchema.kPeopleEmail, DbSchema.kPeopleFirstName,
        DbSchema.kPeopleLastName])) (fun outcome _ => outcome =
      .ok (if isVerified (some p) then SetUserInfoAnswer.ok else .notAuthenticated)) db := by
    unfold setUserInfo
    rw [if_neg (by decide), if_neg (by omega)]
    apply Prog.wp_bind.mpr
    apply wp_lookupPerson hp
    cases hverified : isVerified (some p) with
    | false => rfl
    | true =>
        apply Prog.wp_bind.mpr
        exact wp_updateInfo_nothing rfl rfl
  exact Prog.transact_of_wp hwp (fun _ _ h => h)

theorem wp_bind_any {answer answer' : Type} {program : Sql answer'}
    {next : answer' -> Sql answer} {post : Except Exn answer -> AuthDb -> Prop}
    (herror : forall err db, post (.error err) db)
    (hnext : forall value db, Prog.wp env (next value) post db) :
    Prog.wp env (program.bind next) post db := by
  rw [Prog.wp_bind]
  unfold Prog.wp
  cases (program.run env db).1 with
  | ok value => exact hnext value _
  | error err => exact herror err _

omit [Citext] in
theorem invalidCredentials_ne :
    ErrorResponse.invalidCredentials "The current password you entered is incorrect" ≠
      ErrorResponse.notAuthenticated := by
  decide

omit [Citext] in
theorem ofStatus_ne : Response.ofStatus 200 ≠ ErrorResponse.notAuthenticated := by
  intro h
  have hstatus : (Response.ofStatus 200).status = 401 := by
    rw [h]
    rfl
  cases hstatus

theorem updateUserPassword_answer (sodium : Sodium) {salt : Blob}
    {ip userAgent : String} {m : Int} (hpositive : 0 < m)
    (hp : People.personById db m.toNat = some p) :
    (Prog.transact env (updateUserPassword sodium secrets salt m
      (emptyMembers ["old_password", "new_password"]) ip userAgent) db).1 =
        .ok ErrorResponse.notAuthenticated <-> isVerified (some p) = false := by
  have hwp : Prog.wp env (updateUserPassword sodium secrets salt m
      (emptyMembers ["old_password", "new_password"]) ip userAgent) (fun outcome _ =>
      outcome = .ok ErrorResponse.notAuthenticated <-> isVerified (some p) = false) db := by
    unfold updateUserPassword
    rw [if_neg (by decide)]
    change Prog.wp env (if m ≤ 0 then _ else _) _ db
    rw [if_neg (by omega)]
    apply Prog.wp_bind.mpr
    apply wp_lookupPerson hp
    cases hverified : isVerified (some p) with
    | false => exact ⟨fun _ => rfl, fun _ => rfl⟩
    | true =>
        have hemail := People.personByEmail_of_mem (People.personById_some hp).1
        have hother : forall outcome : Except Exn Response,
            outcome ≠ .ok ErrorResponse.notAuthenticated ->
              (outcome = .ok ErrorResponse.notAuthenticated <-> true = false) :=
          fun outcome hne => ⟨fun h => absurd h hne, fun h => (nomatch h)⟩
        have herror : forall (err : Exn) (_ : AuthDb), (.error err : Except Exn Response) =
            .ok ErrorResponse.notAuthenticated <-> true = false :=
          fun _ _ => hother _ (fun h => (nomatch h))
        apply wp_bind_any herror
        intro verified db
        split
        · apply hother
          intro h
          exact invalidCredentials_ne (Except.ok.inj h)
        · apply wp_bind_any herror
          intro _ db
          apply wp_bind_any herror
          intro _ db
          apply wp_bind_any herror
          intro _ db
          apply hother
          intro h
          exact ofStatus_ne (Except.ok.inj h)
  exact Prog.transact_of_wp hwp (fun _ _ h => h)

end Beside

section OwnAccount

variable [Citext] {env : Env} {sodium : Sodium} {secrets : SecretsHelperPtr} {personId : Int}
  {db : AuthDb}

end OwnAccount

section WideIds

attribute [local instance] Citext.plain

def argonSettings : SecretsHelperPtr :=
  some (SecretsHelper.ofSettings
    [(Secrets.kAuthArgon2OpsLimit, "3"), (Secrets.kAuthArgon2MemLimitKb, "65536")])

end WideIds

end Auth
end ServerComponents
