import ServerComponents.Basics
import ServerComponents.Relational.Table
import ServerComponents.Statements.Prog

/-!
# The authentication tables

Rows are typed records in place of the string maps of the source.  A table's
clash relation lists its primary key and its unique columns.
-/

namespace ServerComponents
namespace Auth

open Relational Statements

/-- The case folding under which `citext` columns compare. -/
class Citext where
  fold : String -> String

/-- A column without folding, for concrete databases. -/
@[reducible] def Citext.plain : Citext := ⟨fun text => text⟩

structure Person where
  id : Nat
  email : String
  firstName : String
  lastName : String
  passwordHash : String
  emailVerifiedAt : Option Int
  mustChangePassword : Bool
  updatedAt : Int
  failedLoginAttempts : Int
  lockedUntil : Option Int
  deriving Repr, DecidableEq

structure DeviceToken where
  id : Nat
  uuid : String
  personId : Nat
  secretHash : String
  createdAt : Int
  lastUsedAt : Option Int
  expiresAt : Int
  revoked : Bool
  deriving Repr, DecidableEq

structure Session where
  id : Nat
  uuid : String
  personId : Nat
  createdAt : Int
  lastSeenAt : Int
  expiresAt : Int
  revoked : Bool
  deriving Repr, DecidableEq

structure PasswordResetToken where
  id : Nat
  personId : Nat
  tokenHash : String
  expiresAt : Int
  attempts : Nat
  createdAt : Int
  deriving Repr, DecidableEq

structure EmailVerification where
  id : Nat
  personId : Nat
  tokenHash : String
  expiresAt : Int
  attempts : Nat
  deriving Repr, DecidableEq

inductive AuthEventKind where
  | loginSuccess
  | loginFailure
  | accountLocked
  | logout
  | emailVerified
  | deviceTokenUsed
  | passwordChanged
  | passwordResetRequested
  | passwordResetCompleted
  deriving Repr, DecidableEq

structure AuthEvent where
  kind : AuthEventKind
  personId : Option Nat
  ip : String
  userAgent : String
  whenUs : Int
  detailJson : String
  deriving Repr, DecidableEq

inductive AttemptKind where
  | login
  | verify
  | remember
  | passwordResetRequest
  | passwordReset
  deriving Repr, DecidableEq

structure LoginAttempt where
  id : Nat
  emailLower : String
  ip : String
  attemptedAt : Int
  success : Bool
  kind : AttemptKind
  deriving Repr, DecidableEq

section Clashes

variable [Citext]

def sameEmail (email email' : String) : Bool :=
  Citext.fold email == Citext.fold email'

def Person.Clash (p p' : Person) : Prop :=
  p.id = p'.id ∨ sameEmail p.email p'.email = true

def DeviceToken.Clash (t t' : DeviceToken) : Prop :=
  t.id = t'.id ∨ t.uuid = t'.uuid ∨ t.secretHash = t'.secretHash

def Session.Clash (s s' : Session) : Prop :=
  s.id = s'.id ∨ s.uuid = s'.uuid

def PasswordResetToken.Clash (t t' : PasswordResetToken) : Prop :=
  t.id = t'.id ∨ t.personId = t'.personId

def EmailVerification.Clash (r r' : EmailVerification) : Prop :=
  r.id = r'.id ∨ r.personId = r'.personId

def LoginAttempt.Clash (a a' : LoginAttempt) : Prop := a.id = a'.id

instance : DecidableRel Person.Clash :=
  fun _ _ => inferInstanceAs (Decidable (_ ∨ _))

instance : DecidableRel DeviceToken.Clash :=
  fun _ _ => inferInstanceAs (Decidable (_ ∨ _ ∨ _))

instance : DecidableRel Session.Clash :=
  fun _ _ => inferInstanceAs (Decidable (_ ∨ _))

instance : DecidableRel PasswordResetToken.Clash :=
  fun _ _ => inferInstanceAs (Decidable (_ ∨ _))

instance : DecidableRel EmailVerification.Clash :=
  fun _ _ => inferInstanceAs (Decidable (_ ∨ _))

instance : DecidableRel LoginAttempt.Clash :=
  fun _ _ => inferInstanceAs (Decidable (_ = _))

theorem Person.Clash.symm {p p' : Person} (h : p.Clash p') : p'.Clash p := by
  rcases h with h | h
  · exact Or.inl h.symm
  · right
    simp only [sameEmail, beq_iff_eq] at h
    simp [sameEmail, h]

omit [Citext] in
theorem DeviceToken.Clash.symm {t t' : DeviceToken} (h : t.Clash t') :
    t'.Clash t := by
  rcases h with h | h | h
  · exact Or.inl h.symm
  · exact Or.inr (Or.inl h.symm)
  · exact Or.inr (Or.inr h.symm)

omit [Citext] in
theorem Session.Clash.symm {s s' : Session} (h : s.Clash s') : s'.Clash s := by
  rcases h with h | h
  · exact Or.inl h.symm
  · exact Or.inr h.symm

omit [Citext] in
theorem PasswordResetToken.Clash.symm {t t' : PasswordResetToken}
    (h : t.Clash t') : t'.Clash t := by
  rcases h with h | h
  · exact Or.inl h.symm
  · exact Or.inr h.symm

omit [Citext] in
theorem EmailVerification.Clash.symm {r r' : EmailVerification} (h : r.Clash r') :
    r'.Clash r := by
  rcases h with h | h
  · exact Or.inl h.symm
  · exact Or.inr h.symm

end Clashes

/-- The authentication part of one database.  The logs are lists of what has been
inserted. -/
structure AuthDb [Citext] where
  people : Table Person Person.Clash
  deviceTokens : Table DeviceToken DeviceToken.Clash
  sessions : Table Session Session.Clash
  passwordResetTokens : Table PasswordResetToken PasswordResetToken.Clash
  loginAttempts : Table LoginAttempt LoginAttempt.Clash
  emailVerifications : Table EmailVerification EmailVerification.Clash
  adminAlerts : List String
  authEvents : List AuthEvent
  deriving DecidableEq

namespace AuthDb

variable [Citext]

def empty : AuthDb where
  people := Table.empty
  deviceTokens := Table.empty
  sessions := Table.empty
  passwordResetTokens := Table.empty
  loginAttempts := Table.empty
  emailVerifications := Table.empty
  adminAlerts := []
  authEvents := []

end AuthDb

section OnePerson

attribute [local instance] Citext.plain

def onePerson : AuthDb :=
  { AuthDb.empty with
    people :=
      { rows := [{ id := 1, email := "ann@example.com", firstName := "Ann"
                   lastName := "Lee", passwordHash := "pw"
                   emailVerifiedAt := some 1, mustChangePassword := false
                   updatedAt := 0, failedLoginAttempts := 0, lockedUntil := none }]
        nextId := 2
        noClash := by decide } }

end OnePerson

/-- Statements against the authentication tables. -/
abbrev Sql [Citext] (result : Type) := Prog Env AuthDb Exn result

/-- A table statement that would break a constraint raises an SQL error. -/
def orUniqueViolation {answer : Type} (result : Option answer) :
    Except Exn answer :=
  match result with
  | some value => .ok value
  | none => .error (.sql .uniqueViolation)

theorem orUniqueViolation_ok {answer : Type} {result : Option answer}
    {value : answer} (h : orUniqueViolation result = .ok value) :
    result = some value := by
  cases result with
  | none => cases h
  | some v =>
      cases h
      rfl

end Auth
end ServerComponents
