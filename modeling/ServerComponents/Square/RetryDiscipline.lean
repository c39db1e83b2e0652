import ServerComponents.Control.Work
import ServerComponents.Square.SquareClient

/-!
# How often a payment is sent

A request is sent again after failures that may pass, and never after an answer that settles
it.  The body of an answer is read before its status is looked at, and the HTTP client throws
an exception that no clause catches; where that happens the request is not sent again.
-/

namespace ServerComponents
namespace Square

open Control
open Rest (Json)
open Scheduler (HttpRequest)

def Thrown.retryable (t : Thrown) : Bool := t.isNetwork || t.isRateLimit || t.isSquareServer

section Discipline

variable {result : Type} (outcomes : Nat -> Outcome) (loader : JsonLoader)
  (client : SquareClient) (op : PostOperation result)

def ending (outcome : Outcome) : Except Thrown result := do
  let response ← outcome.result
  let json ← fromText loader response.body
  if 400 ≤ response.statusCode then .error (squareError response.statusCode json)
  else op.parseResult json

/-- A failure that may pass, whatever stands in the body. -/
def MayPass : Outcome -> Prop
  | .response answer => isRetryableStatusCode answer.statusCode = true
  | .networkException _ => True
  | .transportFailure _ => True

def Refused (outcome : Outcome) : Prop :=
  exists answer json, outcome = .response answer ∧ fromText loader answer.body = .ok json ∧
    400 ≤ answer.statusCode ∧ answer.statusCode < 500 ∧ answer.statusCode ≠ 429 ∧
    ((exists category code detail, squareError answer.statusCode json =
        .paymentDeclined category code detail) ∨
      (exists code detail field, squareError answer.statusCode json =
        .invalidRequest code detail field) ∨
      exists code detail, squareError answer.statusCode json = .authentication code detail)

def sentBy : List HttpRequest := (executeWithRetry outcomes loader client op []).2

structure RetryDiscipline : Prop where
  bounded : ((sentBy outcomes loader client op).length : Int) ≤ op.maxRetries + 1
  same : forall r, r ∈ sentBy outcomes loader client op -> r = client.request op
  stopsAtResult : forall k, k + 1 < (sentBy outcomes loader client op).length ->
    forall value, ending loader op (outcomes k) ≠ .ok value
  stopsAtRefusal : forall k, k + 1 < (sentBy outcomes loader client op).length ->
    Not (Refused loader (outcomes k))
  sentSome : sentBy outcomes loader client op ≠ []
  fromLast : (executeWithRetry outcomes loader client op []).1 =
    ending loader op (outcomes ((sentBy outcomes loader client op).length - 1))
  retries : forall k, k < (sentBy outcomes loader client op).length -> MayPass (outcomes k) ->
    (k : Int) < op.maxRetries -> k + 1 < (sentBy outcomes loader client op).length

/-- The test of the status, which comes after the body has been read. -/
def AgainByStatus (outcome : Outcome) : Prop :=
  exists answer json, outcome = .response answer ∧ fromText loader answer.body = .ok json ∧
    isRetryableStatusCode answer.statusCode = true

/-- What the client itself takes for a failure that may pass. -/
def TriedAgain (outcome : Outcome) : Prop :=
  (exists t, ending loader op outcome = .error t ∧ t.retryable = true) ∨
    AgainByStatus loader outcome

/-- The transfer has failed, or the body of a failure that may pass is no JSON. -/
def Lost : Outcome -> Prop
  | .response answer => isRetryableStatusCode answer.statusCode = true ∧
      exists t, fromText loader answer.body = .error t
  | .networkException _ => False
  | .transportFailure _ => True

/-- While retries remain, no attempt that is made is lost. -/
def NoneLost : Prop :=
  0 ≤ op.maxRetries ∧ forall k : Nat, (k : Int) < op.maxRetries ->
    (forall j, j < k -> TriedAgain loader op (outcomes j)) -> Not (Lost loader (outcomes k))

/-!
# One round
-/

variable {outcomes loader client op}

theorem catching_orRethrow {w : Work Wire Thrown (Round attempt op.maxRetries result)}
    {sent sent' : Wire} {t : Thrown} (h : w sent = (.error t, sent')) :
    w.catching [⟨Thrown.isNetwork, orRethrow op attempt⟩,
        ⟨Thrown.isRateLimit, orRethrow op attempt⟩,
        ⟨Thrown.isSquareServer, orRethrow op attempt⟩] sent =
      if h : t.retryable = true ∧ attempt < op.maxRetries then (.ok (.again h.2), sent')
      else (.error t, sent') := by
  rw [Work.catching_error h]
  by_cases hleft : attempt < op.maxRetries
  · cases t <;> simp [Thrown.retryable, Thrown.isNetwork, Thrown.isRateLimit,
      Thrown.isSquareServer, List.find?, orRethrow, hleft]
  · cases t <;> simp [Thrown.retryable, Thrown.isNetwork, Thrown.isRateLimit,
      Thrown.isSquareServer, List.find?, orRethrow, hleft]

theorem execute_apply (request : HttpRequest) (sent : Wire) :
    execute outcomes request sent = ((outcomes sent.length).result, sent ++ [request]) := rfl

theorem ending_response {answer : HttpResponse} {json : Json}
    (hjson : fromText loader answer.body = .ok json) :
    ending loader op (.response answer) =
      if 400 ≤ answer.statusCode then .error (squareError answer.statusCode json)
      else op.parseResult json := by
  change (fromText loader answer.body >>= fun json => _) = _
  rw [hjson]
  rfl

theorem ending_unread {answer : HttpResponse} {t : Thrown}
    (hjson : fromText loader answer.body = .error t) :
    ending loader op (.response answer) = .error t := by
  change (fromText loader answer.body >>= fun json => _) = _
  rw [hjson]
  rfl

theorem isRetryableStatusCode_iff (statusCode : Int) :
    isRetryableStatusCode statusCode = true <->
      statusCode = 429 ∨ (500 ≤ statusCode ∧ statusCode < 600) := by
  unfold isRetryableStatusCode
  simp only [Bool.or_eq_true, Bool.and_eq_true, decide_eq_true_eq]

theorem tryOnce_eq (attempt : Int) (sent : Wire) :
    (Not (attempt < op.maxRetries ∧ AgainByStatus loader (outcomes sent.length)) ∧
      tryOnce outcomes loader client op attempt sent =
        ((ending loader op (outcomes sent.length)).map .returned,
          sent ++ [client.request op])) ∨
      exists hleft : attempt < op.maxRetries, AgainByStatus loader (outcomes sent.length) ∧
        tryOnce outcomes loader client op attempt sent =
          (.ok (.again hleft), sent ++ [client.request op]) := by
  unfold tryOnce AgainByStatus
  simp only [Work.bind_eq, Work.bind, execute_apply]
  cases houtcome : outcomes sent.length with
  | networkException message =>
      exact Or.inl ⟨fun ⟨_, _, _, hresponse, _⟩ => (nomatch hresponse), rfl⟩
  | transportFailure what =>
      exact Or.inl ⟨fun ⟨_, _, _, hresponse, _⟩ => (nomatch hresponse), rfl⟩
  | response answer =>
      simp only [Outcome.result]
      cases hjson : fromText loader answer.body with
      | error t =>
          rw [ending_unread hjson]
          refine Or.inl ⟨?_, rfl⟩
          intro ⟨_, answer', json, hresponse, hread, _⟩
          cases hresponse
          rw [hjson] at hread
          cases hread
      | ok json =>
          rw [ending_response hjson]
          by_cases hagain : isRetryableStatusCode answer.statusCode = true ∧
              attempt < op.maxRetries
          · right
            have hfailed : 400 ≤ answer.statusCode := by
              have hstatus := (isRetryableStatusCode_iff _).mp hagain.1
              omega
            refine ⟨hagain.2, ⟨answer, json, rfl, hjson, hagain.1⟩, ?_⟩
            simp only [ofExcept, Work.done_apply, if_pos hfailed, dif_pos hagain]
            rfl
          · left
            constructor
            · intro ⟨hleft, answer', json', hresponse, _, hstatus⟩
              cases hresponse
              exact hagain ⟨hstatus, hleft⟩
            · by_cases hfailed : 400 ≤ answer.statusCode
              · simp only [ofExcept, Work.done_apply, if_pos hfailed, dif_neg hagain]
                rfl
              · simp only [ofExcept, Work.done_apply, if_neg hfailed]
                cases op.parseResult json <;> rfl

theorem round_again {attempt : Int} {sent : Wire}
    (hagain : TriedAgain loader op (outcomes sent.length)) (hleft : attempt < op.maxRetries) :
    round outcomes loader client op attempt sent =
      (.ok (.again hleft), sent ++ [client.request op]) := by
  unfold round
  rcases @tryOnce_eq _ outcomes loader client op attempt sent with ⟨hstatus, htry⟩ | ⟨_, _, htry⟩
  · rcases hagain with ⟨t, hend, hretryable⟩ | hagain
    · rw [hend] at htry
      rw [catching_orRethrow htry, dif_pos ⟨hretryable, hleft⟩]
    · exact absurd ⟨hleft, hagain⟩ hstatus
  · exact Work.catching_ok htry

theorem round_ends {attempt : Int} {sent : Wire}
    (hends : Not (TriedAgain loader op (outcomes sent.length) ∧ attempt < op.maxRetries)) :
    round outcomes loader client op attempt sent =
      ((ending loader op (outcomes sent.length)).map .returned, sent ++ [client.request op]) := by
  unfold round
  rcases @tryOnce_eq _ outcomes loader client op attempt sent with ⟨_, htry⟩ | ⟨hleft, hstatus, _⟩
  · cases hend : ending loader op (outcomes sent.length) with
    | ok value =>
        rw [hend] at htry
        exact Work.catching_ok htry
    | error t =>
        rw [hend] at htry
        rw [catching_orRethrow htry, dif_neg]
        · rfl
        · exact fun h => hends ⟨Or.inl ⟨t, hend, h.1⟩, h.2⟩
  · exact absurd ⟨Or.inr hstatus, hleft⟩ hends

/-!
# The loop
-/

/-- The attempt with this number is followed by another. -/
def Again (outcomes : Nat -> Outcome) (loader : JsonLoader) (op : PostOperation result)
    (k : Nat) : Prop :=
  TriedAgain loader op (outcomes k) ∧ (k : Int) < op.maxRetries

theorem attemptsFrom_of_ends {sent : Wire} (h : Not (Again outcomes loader op sent.length)) :
    attemptsFrom outcomes loader client op sent.length sent =
      (ending loader op (outcomes sent.length), sent ++ [client.request op]) := by
  rw [attemptsFrom]
  unfold Work.bind
  rw [round_ends h]
  cases ending loader op (outcomes sent.length) <;> rfl

theorem attemptsFrom_of_again {sent : Wire} (h : Again outcomes loader op sent.length) :
    attemptsFrom outcomes loader client op sent.length sent =
      attemptsFrom outcomes loader client op (sent.length + 1 : Nat)
        (sent ++ [client.request op]) := by
  rw [attemptsFrom]
  unfold Work.bind
  rw [round_again h.1 h.2]
  rfl

theorem attemptsFrom_eq (sent : Wire) :
    exists last, Attempts (Again outcomes loader op) sent.length last ∧
      attemptsFrom outcomes loader client op sent.length sent =
        (ending loader op (outcomes last),
          sent ++ List.replicate (last + 1 - sent.length) (client.request op)) := by
  induction hleft : (op.maxRetries - (sent.length : Int)).toNat generalizing sent with
  | zero =>
      have hends : Not (Again outcomes loader op sent.length) := by
        intro h
        have hless := h.2
        omega
      refine ⟨sent.length, Attempts.stop hends, ?_⟩
      rw [attemptsFrom_of_ends hends, Nat.add_sub_cancel_left]
      rfl
  | succ left ih =>
      by_cases hagain : Again outcomes loader op sent.length
      · have hlength : (sent ++ [client.request op]).length = sent.length + 1 := by simp
        have hless : (op.maxRetries - ((sent ++ [client.request op]).length : Int)).toNat =
            left := by
          rw [hlength]
          omega
        rcases ih _ hless with ⟨last, hattempts, hrest⟩
        rw [hlength] at hattempts hrest
        refine ⟨last, hattempts.next hagain, ?_⟩
        rw [attemptsFrom_of_again hagain, hrest, List.append_assoc, List.singleton_append,
          ← List.replicate_succ]
        have hle := hattempts.first_le
        have hcount : last + 1 - (sent.length + 1) + 1 = last + 1 - sent.length := by omega
        rw [hcount]
      · refine ⟨sent.length, Attempts.stop hagain, ?_⟩
        rw [attemptsFrom_of_ends hagain, Nat.add_sub_cancel_left]
        rfl

theorem executeWithRetry_eq :
    exists last, Attempts (Again outcomes loader op) 0 last ∧
      (executeWithRetry outcomes loader client op []).1 = ending loader op (outcomes last) ∧
      sentBy outcomes loader client op = List.replicate (last + 1) (client.request op) := by
  rcases @attemptsFrom_eq _ outcomes loader client op [] with ⟨last, hattempts, hrun⟩
  refine ⟨last, hattempts, ?_, ?_⟩
  · exact congrArg Prod.fst hrun
  · exact congrArg Prod.snd hrun

/-!
# What goes wrong
-/

variable {outcome : Outcome}

theorem triedAgain_of_mayPass (h : MayPass outcome)
    (hnot : Not (Lost loader outcome)) : TriedAgain loader op outcome := by
  cases outcome with
  | response answer =>
      cases hjson : fromText loader answer.body with
      | error t => exact absurd ⟨h, t, hjson⟩ hnot
      | ok json => exact Or.inr ⟨answer, json, rfl, hjson, h⟩
  | networkException message => exact Or.inl ⟨.network message, rfl, rfl⟩
  | transportFailure what => exact absurd trivial hnot

theorem mayPass_of_lost (h : Lost loader outcome) : MayPass outcome := by
  cases outcome with
  | response answer => exact h.1
  | networkException message => exact trivial
  | transportFailure what => exact trivial

theorem fromText_error {body : String} {t : Thrown} (h : fromText loader body = .error t) :
    t.retryable = false := by
  unfold fromText at h
  cases hload : loader body with
  | ok json =>
      rw [hload] at h
      cases h
  | error what =>
      rw [hload] at h
      cases h
      rfl

theorem not_triedAgain_of_lost (h : Lost loader outcome) :
    Not (TriedAgain loader op outcome) := by
  cases outcome with
  | response answer =>
      rcases h with ⟨_, t, hjson⟩
      rintro (⟨t', hend, hretryable⟩ | ⟨answer', json, hresponse, hread, _⟩)
      · rw [ending_unread hjson] at hend
        cases hend
        rw [fromText_error hjson] at hretryable
        cases hretryable
      · cases hresponse
        rw [hjson] at hread
        cases hread
  | networkException message => exact absurd h id
  | transportFailure what =>
      rintro (⟨t, hend, hretryable⟩ | ⟨answer, json, hresponse, _⟩)
      · cases hend
        cases hretryable
      · cases hresponse

theorem not_triedAgain_of_refused (h : Refused loader outcome) :
    Not (TriedAgain loader op outcome) := by
  rcases h with ⟨answer, json, rfl, hjson, hfailed, hless, hne, herror⟩
  rintro (⟨t, hend, hretryable⟩ | ⟨answer', json', hresponse, _, hstatus⟩)
  · rw [ending_response hjson, if_pos hfailed] at hend
    cases hend
    rcases herror with ⟨_, _, _, herror⟩ | ⟨_, _, _, herror⟩ | ⟨_, _, herror⟩
    · rw [herror] at hretryable
      cases hretryable
    · rw [herror] at hretryable
      cases hretryable
    · rw [herror] at hretryable
      cases hretryable
  · cases hresponse
    have hcode := (isRetryableStatusCode_iff _).mp hstatus
    omega

theorem not_triedAgain_of_ok {value : result}
    (h : ending loader op outcome = .ok value) : Not (TriedAgain loader op outcome) := by
  rintro (⟨t, hend, _⟩ | ⟨answer, json, rfl, hjson, hstatus⟩)
  · rw [h] at hend
    cases hend
  · have hcode := (isRetryableStatusCode_iff _).mp hstatus
    rw [ending_response hjson, if_pos (by omega)] at h
    cases h

theorem retryDiscipline_iff (outcomes : Nat -> Outcome) (loader : JsonLoader)
    (client : SquareClient) (op : PostOperation result) :
    RetryDiscipline outcomes loader client op <-> NoneLost outcomes loader op := by
  rcases @executeWithRetry_eq _ outcomes loader client op with ⟨last, hattempts, hend, hsent⟩
  have hlength : (sentBy outcomes loader client op).length = last + 1 := by
    rw [hsent, List.length_replicate]
  have hmade : forall k, k < (sentBy outcomes loader client op).length <-> k ≤ last := by
    intro k
    rw [hlength, Nat.lt_succ_iff]
  have hfollowed : forall k, k + 1 < (sentBy outcomes loader client op).length ->
      TriedAgain loader op (outcomes k) := by
    intro k hk
    exact (hattempts.followed k (Nat.zero_le k) (by omega)).1
  constructor
  · intro h
    have hbounded := h.bounded
    rw [hlength] at hbounded
    refine ⟨by omega, ?_⟩
    intro k hleft hbefore hlost
    have hk : k ≤ last := by
      rw [hattempts.le_iff]
      exact fun j _ hlt => ⟨hbefore j hlt, by omega⟩
    have hnext := h.retries k ((hmade k).mpr hk) (mayPass_of_lost hlost) hleft
    exact not_triedAgain_of_lost hlost (hfollowed k hnext)
  · intro ⟨hnonneg, hnone⟩
    constructor
    · rw [hlength]
      cases last with
      | zero => omega
      | succ last =>
          have hleft := (hattempts.followed last (Nat.zero_le last) (by omega)).2
          push_cast
          omega
    · intro r hr
      rw [hsent] at hr
      exact List.eq_of_mem_replicate hr
    · intro k hk value hvalue
      exact not_triedAgain_of_ok hvalue (hfollowed k hk)
    · intro k hk hrefused
      exact not_triedAgain_of_refused hrefused (hfollowed k hk)
    · rw [hsent]
      exact List.cons_ne_nil _ _
    · rw [hend, hlength]
      rfl
    · intro k hk hpass hleft
      have hk' := (hmade k).mp hk
      have hbefore : forall j, j < k -> TriedAgain loader op (outcomes j) :=
        fun j hlt => ((hattempts.le_iff k).mp hk' j (Nat.zero_le j) hlt).1
      have hagain : TriedAgain loader op (outcomes k) :=
        triedAgain_of_mayPass hpass (hnone k hleft hbefore)
      have hless := (hattempts.lt_iff (Nat.zero_le k) hk').mpr ⟨hagain, hleft⟩
      omega

end Discipline

/-- Only an empty body is no JSON for this loader. -/
def rejectsEmpty : JsonLoader := fun body =>
  if body = "" then .error "invalid json object" else .ok (.obj [])

def tenDollars : PostOperation PaymentResult :=
  createPayment "nonce" 1000 "USD" "key" "" "" 3

/-- A proxy answers 502 without a body: the payment is not sent again, although three
retries remain. -/
theorem proxyAnswer_notRetried :
    (executeWithRetry (fun _ => .response ⟨502, ""⟩) rejectsEmpty ⟨"token", false⟩
      tenDollars []).1 = .error (.other "invalid json object") ∧
    (sentBy (fun _ => .response ⟨502, ""⟩) rejectsEmpty ⟨"token", false⟩ tenDollars).length = 1 ∧
    Not (RetryDiscipline (fun _ => .response ⟨502, ""⟩) rejectsEmpty ⟨"token", false⟩
      tenDollars) := by
  have hread : fromText rejectsEmpty "" = .error (.other "invalid json object") := rfl
  have hlost : Lost rejectsEmpty (.response ⟨502, ""⟩) := ⟨rfl, _, hread⟩
  have hends : Not (Again (fun _ => .response ⟨502, ""⟩) rejectsEmpty tenDollars 0) :=
    fun h => not_triedAgain_of_lost hlost h.1
  have hrun : executeWithRetry (fun _ => .response ⟨502, ""⟩) rejectsEmpty ⟨"token", false⟩
      tenDollars [] = (.error (.other "invalid json object"),
        [SquareClient.request ⟨"token", false⟩ tenDollars]) :=
    @attemptsFrom_of_ends _ _ _ _ _ [] hends
  have hlength : (sentBy (fun _ => .response ⟨502, ""⟩) rejectsEmpty ⟨"token", false⟩
      tenDollars).length = 1 := by
    unfold sentBy
    rw [hrun]
    rfl
  refine ⟨by rw [hrun], hlength, ?_⟩
  intro h
  have hnext := h.retries 0 (by omega) hlost.1 (by decide)
  omega

end Square
end ServerComponents
