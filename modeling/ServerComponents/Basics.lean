import Mathlib.Data.Int.Init

/-!
# Exceptions, integers and statement inputs

The parts of C++ and Postgres that the modelled functions share: the exceptions
they throw, `std::stoll`, the two kinds of 64-bit arithmetic, and what a
statement reads besides the database.
-/

namespace ServerComponents

inductive SqlError where
  | uniqueViolation
  | numericValueOutOfRange
  | undefinedTable
  | undefinedColumn
  | ambiguousColumn
  | syntaxError
  | invalidRowCount
  | invalidTextRepresentation
  | characterNotInRepertoire
  | noRow
  deriving Repr, DecidableEq

inductive Exn where
  | sql (error : SqlError)
  | runtimeError (what : String)
  | invalidArgument (what : String)
  | outOfRange (what : String)
  deriving Repr, DecidableEq

instance exceptDecidableEq {error result : Type} [DecidableEq error]
    [DecidableEq result] : DecidableEq (Except error result)
  | .ok v, .ok w => decidable_of_iff (v = w) (by simp)
  | .error e, .error e' => decidable_of_iff (e = e') (by simp)
  | .ok _, .error _ => isFalse (by simp)
  | .error _, .ok _ => isFalse (by simp)

theorem exceptBind_ok {error a b : Type} {x : Except error a} {f : a -> Except error b}
    {w : b} (h : x >>= f = .ok w) : exists v, x = .ok v ∧ f v = .ok w := by
  cases x with
  | error err => cases h
  | ok v => exact ⟨v, rfl, h⟩

/-!
# 64-bit integers
-/

def IsInt64 (v : Int) : Prop :=
  -9223372036854775808 ≤ v ∧ v < 9223372036854775808

instance (v : Int) : Decidable (IsInt64 v) :=
  inferInstanceAs (Decidable (_ ∧ _))

/-- `int64_t` addition wraps. -/
def addInt64 (v w : Int) : Int := Int.bmod (v + w) 18446744073709551616

/-- A Postgres `bigint` result that does not fit is an error. -/
def bigint (v : Int) : Except Exn Int :=
  if IsInt64 v then .ok v else .error (.sql .numericValueOutOfRange)

/-- `int64_t` multiplication wraps. -/
def mulInt64 (v w : Int) : Int := Int.bmod (v * w) 18446744073709551616

/-- `static_cast<int>`, also where it is not written. -/
def toInt32 (v : Int) : Int := Int.bmod v 4294967296

theorem addInt64_eq {v w : Int} (h : IsInt64 (v + w)) : addInt64 v w = v + w := by
  unfold IsInt64 at h
  unfold addInt64 Int.bmod
  simp only
  split <;> omega

theorem addInt64_wrap {v w : Int} (hlow : 9223372036854775808 ≤ v + w)
    (hhigh : v + w < 18446744073709551616) :
    addInt64 v w = v + w - 18446744073709551616 := by
  unfold addInt64 Int.bmod
  simp only
  split <;> omega

theorem bigint_ok {v w : Int} (h : bigint v = .ok w) : w = v ∧ IsInt64 v := by
  unfold bigint at h
  split at h
  · cases h
    exact ⟨rfl, by assumption⟩
  · cases h

/-!
# Reading an integer from text
-/

/-- `isspace` in the C locale. -/
def isSpace (c : Char) : Bool :=
  c == ' ' || (9 ≤ c.toNat && c.toNat ≤ 13)

def decimal (digits : List Char) : Nat :=
  digits.foldl (fun n c => 10 * n + (c.toNat - '0'.toNat)) 0

def scanInteger (text : List Char) : Bool × List Char :=
  match text.dropWhile isSpace with
  | '-' :: rest => (true, rest.takeWhile Char.isDigit)
  | '+' :: rest => (false, rest.takeWhile Char.isDigit)
  | rest => (false, rest.takeWhile Char.isDigit)

def stoll (text : String) : Except Exn Int :=
  match scanInteger text.toList with
  | (_, []) => .error (.invalidArgument "stoll")
  | (true, digits) => inRange (- decimal digits)
  | (false, digits) => inRange (decimal digits)
where
  inRange (v : Int) : Except Exn Int :=
    if IsInt64 v then .ok v else .error (.outOfRange "stoll")

/-- `std::stoi`: the same text, for a 32-bit result. -/
def stoi (text : String) : Except Exn Int :=
  match scanInteger text.toList with
  | (_, []) => .error (.invalidArgument "stoi")
  | (true, digits) => inRange (- decimal digits)
  | (false, digits) => inRange (decimal digits)
where
  inRange (v : Int) : Except Exn Int :=
    if -2147483648 ≤ v ∧ v < 2147483648 then .ok v else .error (.outOfRange "stoi")

/-- `std::stoull`, which accepts a sign and wraps a negative value. -/
def stoull (text : String) : Except Exn Nat :=
  match scanInteger text.toList with
  | (_, []) => .error (.invalidArgument "stoull")
  | (negative, digits) =>
      if decimal digits < 18446744073709551616 then
        .ok (if negative then
          (18446744073709551616 - decimal digits) % 18446744073709551616
        else decimal digits)
      else .error (.outOfRange "stoull")

theorem inRange_ok {v w : Int} (h : stoll.inRange v = .ok w) : IsInt64 w := by
  unfold stoll.inRange at h
  split at h
  · cases h
    assumption
  · cases h

theorem stoll_ok {text : String} {v : Int} (h : stoll text = .ok v) : IsInt64 v := by
  unfold stoll at h
  split at h
  · cases h
  · exact inRange_ok h
  · exact inRange_ok h

/-!
# Statement inputs
-/

/--
What a statement reads besides the database: the clock in microseconds since
the epoch, which fits a `bigint`, and the next `gen_random_uuid()`.
-/
structure Env where
  now : Nat
  uuid : String
  now_lt : now < 9223372036854775808

def Env.ofClock (now : Nat) (uuid : String) : Env where
  now := now % 9223372036854775808
  uuid := uuid
  now_lt := Nat.mod_lt now (by decide)

instance : Nonempty Env := ⟨Env.ofClock 0 ""⟩

end ServerComponents
