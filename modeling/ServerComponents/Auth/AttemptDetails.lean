import ServerComponents.Auth.AccountFields
import ServerComponents.Auth.LoginReveals
import ServerComponents.Text.JsonStrings
import ServerComponents.Util.JsonValue

/-!
# The details of an attempt

The events of failed logins and of verified addresses carry the attempted address in a text
that is put together by hand.
-/

namespace ServerComponents
namespace Auth

open Relational Statements
open Text.JsonGrammar (PlainChar oneMember parse_oneMember_iff)
open Util (utf8)
open Util.Value (readJson)

/-- The detail is a JSON object of one member, the address. -/
def AuthEvent.Describes (event : AuthEvent) (email : String) : Prop :=
  readJson (utf8 event.detailJson.toList) =
    some (.obj [(utf8 "email".toList, .str (utf8 email.toList))])

/-- Nothing in the address needs an escape: no quotation mark, no backslash, no control
character. -/
def NeedsNoEscape (email : String) : Prop := forall c, c ∈ email.toList -> PlainChar c

def attemptDetail (email : String) : String := "\x7b\"email\":\"" ++ email ++ "\"\x7d"

theorem utf8_injective : Function.Injective utf8 := by
  intro cs ds h
  have hdecode := congrArg Util.Value.decode h
  rw [Util.Value.decode_utf8, Util.Value.decode_utf8] at hdecode
  exact Option.some.inj hdecode

theorem attemptDetail_toList (email : String) :
    (attemptDetail email).toList = oneMember "email".toList (email.toList ++ ['"', '\x7d']) := by
  unfold attemptDetail
  rw [String.toList_append, String.toList_append, List.append_assoc]
  rfl

theorem describes_iff {event : AuthEvent} {email : String}
    (hdetail : event.detailJson = attemptDetail email) :
    event.Describes email ↔ NeedsNoEscape email := by
  have hall : "email".toList.all (fun c => decide (PlainChar c)) = true := by decide
  have hname : forall c, c ∈ "email".toList -> PlainChar c :=
    fun c hc => of_decide_eq_true (List.all_eq_true.mp hall c hc)
  unfold AuthEvent.Describes readJson
  rw [hdetail, attemptDetail_toList, Util.Value.decode_utf8, Option.bind_some]
  exact parse_oneMember_iff utf8_injective hname email.toList

/-!
# The events that are stored
-/

variable [Citext]

def AddsOnly (before : List AuthEvent) (detail : String) (db : AuthDb) : Prop :=
  exists added, db.authEvents = before ++ added ∧
    forall event, event ∈ added -> event.detailJson = detail

theorem maintains_recordDetail {kind : AuthEventKind} {personId : Int}
    {ip userAgent detail : String} {before : List AuthEvent} :
    Prog.Maintains (AddsOnly before detail) (fun _ => True)
      (AuthEvents.recordEvent kind personId ip userAgent detail) := by
  apply Prog.maintains_exec
  intro env db reply db' hinv hwrite
  cases hwrite
  rcases hinv with ⟨added, hevents, hdetails⟩
  have hall : forall event : AuthEvent, event.detailJson = detail ->
      forall other, other ∈ added ++ [event] -> other.detailJson = detail := by
    intro event hdetail other hother
    rcases List.mem_append.mp hother with hother | hother
    · exact hdetails other hother
    · rw [List.mem_singleton.mp hother, hdetail]
  refine ⟨⟨_, ?_, hall
    ⟨kind, if 0 < personId then some personId.toNat else none, ip, userAgent, env.now, detail⟩
    rfl⟩, trivial⟩
  rw [← List.append_assoc, ← hevents]

section Verify

variable (urlDecode : UrlDecode) (sodium : Sodium) (secrets : SecretsHelperPtr)

section Presented

variable {inv : AuthDb -> Prop} (hinv : forall db people verifications alerts, inv db ->
  inv { db with
    people := people
    emailVerifications := verifications
    adminAlerts := alerts })

include hinv

theorem maintains_exec_verification {a : Type}
    {write : Env -> AuthDb -> Except Exn (a × AuthDb)}
    (h : forall env db reply db', write env db = .ok (reply, db') -> db' = { db with
      people := db'.people
      emailVerifications := db'.emailVerifications
      adminAlerts := db'.adminAlerts }) :
    Prog.Maintains inv (fun _ => True) (Prog.exec write) := by
  apply Prog.maintains_exec
  intro env db reply db' hdb hwrite
  rw [h env db reply db' hwrite]
  exact ⟨hinv _ _ _ _ hdb, trivial⟩

theorem maintains_doEmailVerification (email tokenHash : String) :
    Prog.Maintains inv (fun _ => True)
      (EmailVerifications.doEmailVerification secrets email tokenHash) := by
  apply Prog.Maintains.bind maintains_lookup
  intro person _
  cases person with
  | none => exact trivial
  | some p =>
      apply Prog.Maintains.bind_any
      · exact (readOnly_lookupRequired _ _ _).maintains
      · intro attemptLimit
        apply Prog.Maintains.bind_any
        · apply maintains_exec_verification hinv
          intro env db reply db' hwrite
          rcases exceptBind_ok hwrite with ⟨pair, -, hdb⟩
          cases hdb
          rfl
        · intro claim
          cases claim with
          | none => exact trivial
          | some row =>
              dsimp only
              split
              · apply Prog.Maintains.bind_any
                · apply maintains_exec_verification hinv
                  intro env db reply db' hwrite
                  cases hwrite
                  rfl
                · exact fun _ => trivial
              · split
                · apply Prog.Maintains.bind_any
                  · apply maintains_exec_verification hinv
                    intro env db reply db' hwrite
                    cases hwrite
                    rfl
                  · exact fun _ => trivial
                · exact trivial

theorem maintains_presentedLink (emailEncoded encodedSecret : String) :
    Prog.Maintains inv (fun _ => True)
      (verifyPersonEmail urlDecode sodium secrets emailEncoded encodedSecret) := by
  apply Prog.Maintains.bind_any
  · exact Prog.maintains_ofExcept fun _ _ => trivial
  · intro link
    apply Prog.Maintains.bind (maintains_doEmailVerification secrets hinv _ _)
    intro matched _
    split
    · apply Prog.Maintains.bind maintains_lookup
      intro person _
      cases person with
      | none => exact trivial
      | some p =>
          dsimp only
          split
          · exact trivial
          · apply maintains_exec_verification hinv
            intro env db reply db' hwrite
            rcases exceptBind_ok hwrite with ⟨pair, -, hdb⟩
            cases hdb
            rfl
    · exact trivial

end Presented

theorem maintains_verify_events (email encodedSecret ip userAgent : String) :
    Prog.Maintains (AddsOnly before (attemptDetail email)) (fun _ => True)
      (verify urlDecode sodium secrets email encodedSecret ip userAgent) := by
  unfold verify
  apply Prog.Maintains.bind_any
  · exact (LoginGate.readOnly_checkBeforeByIp secrets _ _ _ _ _ _).maintains
  · intro gate
    split
    · exact trivial
    · apply Prog.Maintains.bind_any
      · apply Prog.Maintains.tryCatch
        · apply Prog.Maintains.bind
            (maintains_presentedLink urlDecode sodium secrets (fun _ _ _ _ h => h) _ _)
          exact fun _ _ => trivial
        · exact fun _ => trivial
      · intro success
        split
        · apply Prog.Maintains.bind_any
          · apply Prog.Maintains.tryCatch
            · exact Prog.Maintains.bind maintains_lookup fun _ _ => trivial
            · exact fun _ => trivial
          · intro personId
            apply Prog.Maintains.bind maintains_recordDetail
            exact fun _ _ => trivial
        · exact trivial

end Verify

theorem run_recordLoginFailure (env : Env) (db : AuthDb) (loginResult : LoginAttemptResult)
    (email ip userAgent : String) :
    exists added, ((recordLoginFailure loginResult email ip userAgent).run env db).2.authEvents =
        db.authEvents ++ added ∧ added ≠ [] ∧
      forall event, event ∈ added -> event.detailJson = attemptDetail email := by
  show Prog.wp env (recordLoginFailure loginResult email ip userAgent) (fun _ db' =>
    exists added, db'.authEvents = db.authEvents ++ added ∧ added ≠ [] ∧
      forall event, event ∈ added -> event.detailJson = attemptDetail email) db
  simp only [recordLoginFailure, AuthEvents.recordEvent, Prog.bind_eq, Prog.wp_bind]
  rw [Prog.wp_exec]
  dsimp only
  split
  · rw [Prog.wp_exec]
    refine ⟨[_, _], List.append_assoc _ _ _, by simp, ?_⟩
    intro event hevent
    rcases List.mem_pair.mp hevent with rfl | rfl <;> rfl
  · refine ⟨[_], rfl, by simp, ?_⟩
    intro event hevent
    rw [List.mem_singleton.mp hevent]
    rfl

/-- The details stored with failed logins and with verified addresses describe the attempt exactly
when nothing in the address needs an escape. -/
theorem attemptDetails_describe_iff (email : String) (env : Env) (db : AuthDb)
    (loginResult : LoginAttemptResult) (urlDecode : UrlDecode) (sodium : Sodium)
    (secrets : SecretsHelperPtr) (encodedSecret ip userAgent : String) :
    (exists added, ((recordLoginFailure loginResult email ip userAgent).run env db).2.authEvents =
        db.authEvents ++ added ∧
      ((forall event : AuthEvent, event ∈ added -> event.Describes email) ↔
        NeedsNoEscape email)) ∧
    (exists added,
      ((verify urlDecode sodium secrets email encodedSecret ip userAgent).run env
          db).2.authEvents = db.authEvents ++ added ∧
        forall event : AuthEvent, event ∈ added ->
          (event.Describes email ↔ NeedsNoEscape email)) := by
  constructor
  · rcases run_recordLoginFailure env db loginResult email ip userAgent with
      ⟨added, hevents, hne, hdetails⟩
    refine ⟨added, hevents, ?_⟩
    constructor
    · intro h
      rcases List.exists_mem_of_ne_nil added hne with ⟨event, hevent⟩
      exact (describes_iff (hdetails event hevent)).mp (h event hevent)
    · intro h event hevent
      exact (describes_iff (hdetails event hevent)).mpr h
  · have hstart : AddsOnly db.authEvents (attemptDetail email) db :=
      ⟨[], (List.append_nil _).symm, by simp⟩
    rcases (maintains_verify_events urlDecode sodium secrets email encodedSecret ip userAgent).run
      env hstart with ⟨added, hevents, hdetails⟩
    exact ⟨added, hevents, fun event hevent => describes_iff (hdetails event hevent)⟩

omit [Citext] in
/-- An address that closes the string and goes on with a member of its own. -/
theorem injectedMember_notDescribed :
    letI : Citext := Citext.plain
    Not (forall (email : String) (loginResult : LoginAttemptResult) (env : Env)
      (event : AuthEvent),
      event ∈ ((recordLoginFailure loginResult email "" "").run env AuthDb.empty).2.authEvents ->
        event.Describes email) := by
  intro h
  let plain : Citext := Citext.plain
  rcases run_recordLoginFailure (Env.ofClock 0 "") AuthDb.empty LoginAttemptResult.initial
    "a\",\"kind\":\"x" "" "" with ⟨added, hevents, hne, hdetails⟩
  rcases List.exists_mem_of_ne_nil added hne with ⟨event, hevent⟩
  have hdescribes := h "a\",\"kind\":\"x"
    LoginAttemptResult.initial (Env.ofClock 0 "") event
    (by rw [hevents]; exact List.mem_append_right _ hevent)
  have hplain := (describes_iff (hdetails event hevent)).mp hdescribes
  exact absurd (hplain '"' (by decide)) (by decide)

end Auth
end ServerComponents
