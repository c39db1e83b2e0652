import ServerComponents.Tenancy.TenantResolutionGuard

/-!
# Tenant isolation at the edge

Requests of a control-mode deployment are served while tenants are added,
suspended and invalidated.  The guard and the handler of a request resolve its
site key one after the other, and the row can change in between.
-/

namespace ServerComponents
namespace Tenancy

open Statements Caches ControlDbTenantResolver

/-- Where a request stands: in the guard's `Resolve`, in that of its handler's
`ResolveTenant`, or in the body of its handler. -/
inductive Phase where
  | guarding (call : Call String TenantContext)
  | rejected (code : Nat) (body : String)
  | resolving (call : Call String TenantContext)
  | serving (helper : EndpointAuthHelper)
  | failed
  deriving DecidableEq

structure Served where
  request : Request
  phase : Phase
  deriving DecidableEq

/-- The resolver, the registry and the requests of the process. -/
structure Edge extends Cached Tenants String TenantContext where
  registry : TenantResourceRegistry
  requests : List Served

inductive EdgeEvent where
  | arrive (request : Request)
  | advance (i : Nat)
  | fault (i : Nat)
  | write (w : TenantWrite)
  | invalidate (siteKey : String)
  | invalidateAll
  | evict (tenantId : Nat)

namespace Edge

variable (factory : Factory)

/-- Health probes pass the guard without a tenant. -/
def arrived (request : Request) : Served where
  request := request
  phase :=
    if TenantResolutionGuard.isHealthPath request.url then
      .resolving (.lookup request.siteHeader)
    else .guarding (.lookup request.siteHeader)

def advanceCall (s : Edge) (call : Call String TenantContext)
    (phase : Call String TenantContext -> Phase) : Edge × Phase :=
  ({ s with toCached := (controlDatabase.advance s.toCached call).1 },
    phase (controlDatabase.advance s.toCached call).2)

def advancePhase (s : Edge) (request : Request) : Phase -> Edge × Phase
  | .guarding (.done _ found) =>
      match TenantResolutionGuard.judge .control request.siteHeader found with
      | .passed _ => (s, .resolving (.lookup request.siteHeader))
      | .rejected code body => (s, .rejected code body)
  | .guarding (.failed _) => (s, .failed)
  | .guarding call => s.advanceCall call .guarding
  | .resolving (.done _ found) =>
      ({ s with
          registry := (EndpointAuthHelper.bindTenant factory s.registry found).2 },
        .serving (EndpointAuthHelper.bindTenant factory s.registry found).1)
  | .resolving (.failed _) => (s, .failed)
  | .resolving call => s.advanceCall call .resolving
  | phase => (s, phase)

/-- The read of a `Resolve` may throw, and so may the factory of the registry. -/
def faultPhase : Phase -> Phase
  | .guarding call => .guarding (Backend.fault call)
  | .resolving (.done _ _) => .failed
  | .resolving call => .resolving (Backend.fault call)
  | phase => phase

def step (s : Edge) : EdgeEvent -> Edge
  | .arrive request => { s with requests := s.requests ++ [arrived request] }
  | .advance i =>
      match s.requests[i]? with
      | none => s
      | some served =>
          { (advancePhase factory s served.request served.phase).1 with
            requests := s.requests.set i
              { served with
                phase := (advancePhase factory s served.request served.phase).2 } }
  | .fault i =>
      match s.requests[i]? with
      | none => s
      | some served =>
          { s with
            requests := s.requests.set i { served with phase := faultPhase served.phase } }
  | .write w => { s with toCached := controlDatabase.applyWrite s.toCached w }
  | .invalidate siteKey => { s with toCached := s.toCached.invalidate siteKey }
  | .invalidateAll => { s with toCached := s.toCached.invalidateAll }
  | .evict tenantId => { s with registry := s.registry.evict tenantId }

def started (tenants : Tenants) : Edge where
  store := tenants
  cache := fun _ => none
  registry := fun _ => none
  requests := []

def run (tenants : Tenants) (es : List EdgeEvent) : Edge :=
  after (step factory) (started tenants) es

/-- Every request outside the health probes whose handler runs has the provider
of the tenant that its site header names. -/
def Isolated (s : Edge) : Prop :=
  forall served helper, served ∈ s.requests ->
    TenantResolutionGuard.isHealthPath served.request.url = false ->
    served.phase = .serving helper ->
    OwnProvider s.store served.request.siteHeader helper.getTransactionProvider

/-- No handler runs with the provider of another tenant. -/
def NeverForeign (s : Edge) : Prop :=
  forall served helper, served ∈ s.requests -> served.phase = .serving helper ->
    OwnProvider s.store served.request.siteHeader helper.getTransactionProvider ∨
      helper.getTransactionProvider = .global

/-- A handler looks its tenant up while the cached entry, or the row if there is
no entry, is suspended. -/
inductive LooksUpSuspended (s : Edge) : EdgeEvent -> Prop where
  | cached (i : Nat) (served : Served) (siteKey : String) (context : TenantContext)
      (hserved : s.requests[i]? = some served)
      (hurl : TenantResolutionGuard.isHealthPath served.request.url = false)
      (hphase : served.phase = .resolving (.lookup siteKey))
      (hcache : s.cache siteKey = some context)
      (hsuspended : context.status = kTenantStatusSuspended) :
      LooksUpSuspended s (.advance i)
  | stored (i : Nat) (served : Served) (siteKey : String) (row : TenantRow)
      (hserved : s.requests[i]? = some served)
      (hurl : TenantResolutionGuard.isHealthPath served.request.url = false)
      (hphase : served.phase = .resolving (.read siteKey))
      (hrow : s.store.lookupBySiteKey siteKey = some row)
      (hsuspended : row.status = kTenantStatusSuspended) :
      LooksUpSuspended s (.advance i)

def looksUpSuspended (s : Edge) : EdgeEvent -> Bool
  | .advance i =>
      match s.requests[i]? with
      | some served =>
          ! TenantResolutionGuard.isHealthPath served.request.url &&
            match served.phase with
            | .resolving (.lookup siteKey) =>
                TenantResolutionGuard.isSuspended (s.cache siteKey)
            | .resolving (.read siteKey) =>
                TenantResolutionGuard.isSuspended (readTenant s.store siteKey)
            | _ => false
      | none => false
  | _ => false

theorem looksUpSuspended_of {s : Edge} {e : EdgeEvent} (h : LooksUpSuspended s e) :
    s.looksUpSuspended e = true := by
  cases h with
  | cached i served siteKey context hserved hurl hphase hcache hsuspended =>
      simp [looksUpSuspended, hserved, hurl, hphase, hcache, hsuspended,
        TenantResolutionGuard.isSuspended]
  | stored i served siteKey row hserved hurl hphase hrow hsuspended =>
      simp [looksUpSuspended, hserved, hurl, hphase, hrow, hsuspended, readTenant,
        contextFromRow, TenantResolutionGuard.isSuspended]

/-!
## What holds whatever happens
-/

/-- A request carries contexts of its own tenant. -/
def PhaseSound (tenants : Tenants) (served : Served) : Prop :=
  match served.phase with
  | .guarding call =>
      call.Sound Names tenants ∧ call.target = served.request.siteHeader
  | .resolving call =>
      call.Sound Names tenants ∧ call.target = served.request.siteHeader ∧
        (TenantResolutionGuard.isHealthPath served.request.url = false ->
          exists row, row ∈ tenants.rows ∧ row.siteKey = served.request.siteHeader)
  | .serving helper =>
      OwnProvider tenants served.request.siteHeader helper.getTransactionProvider ∨
        helper.getTransactionProvider = .global
  | _ => True

structure Sound (s : Edge) : Prop where
  cached : s.toCached.Sound Names
  registry : s.registry.Sound s.store
  requests : forall served, served ∈ s.requests -> PhaseSound s.store served

theorem readTenant_names (tenants : Tenants) (siteKey : String) (context : TenantContext)
    (h : readTenant tenants siteKey = some context) : Names tenants siteKey context := by
  rcases Option.map_eq_some_iff.mp h with ⟨row, hrow, hcontext⟩
  rcases Tenants.lookupBySiteKey_some hrow with ⟨hmem, hkey⟩
  exact ⟨row, hmem, hkey, by rw [← hcontext]⟩

theorem PhaseSound.write {tenants : Tenants} {served : Served}
    (h : PhaseSound tenants served) (w : TenantWrite) :
    PhaseSound (w.apply tenants) served := by
  unfold PhaseSound at h ⊢
  cases hphase : served.phase with
  | guarding call =>
      simp only [hphase] at h ⊢
      exact ⟨h.1.changeStore (fun _ _ hnames => hnames.write w), h.2⟩
  | rejected code body => trivial
  | resolving call =>
      simp only [hphase] at h ⊢
      refine ⟨h.1.changeStore (fun _ _ hnames => hnames.write w), h.2.1, ?_⟩
      intro hurl
      rcases h.2.2 hurl with ⟨row, hrow, hkey⟩
      rcases w.apply_keeps hrow with ⟨row', hrow', hsame⟩
      exact ⟨row', hrow', by rw [hsame]; exact hkey⟩
  | serving helper =>
      simp only [hphase] at h ⊢
      rcases h with hown | hglobal
      · exact Or.inl (hown.write w)
      · exact Or.inr hglobal
  | failed => trivial

theorem phaseSound_arrived (tenants : Tenants) (request : Request) :
    PhaseSound tenants (arrived request) := by
  unfold PhaseSound arrived
  by_cases hurl : TenantResolutionGuard.isHealthPath request.url = true
  · simp [hurl, Call.Sound, Call.target]
  · simp [hurl, Call.Sound, Call.target]

theorem PhaseSound.fault {tenants : Tenants} {served : Served}
    (h : PhaseSound tenants served) :
    PhaseSound tenants { served with phase := faultPhase served.phase } := by
  unfold PhaseSound at h ⊢
  cases hphase : served.phase with
  | guarding call =>
      simp only [hphase, faultPhase] at h ⊢
      exact ⟨h.1.fault, by simpa using h.2⟩
  | rejected code body => trivial
  | resolving call =>
      simp only [hphase] at h
      cases call with
      | done siteKey found => trivial
      | read siteKey => exact ⟨trivial, h.2⟩
      | lookup siteKey => exact h
      | insert siteKey found => exact h
      | failed siteKey => exact h
  | serving helper =>
      simp only [hphase, faultPhase] at h ⊢
      exact h
  | failed => trivial

inductive PhaseStep (s : Edge) (request : Request) : Phase -> Edge × Phase -> Prop where
  | guard (call : Call String TenantContext) :
      PhaseStep s request (.guarding call) (s.advanceCall call .guarding)
  | letPass (siteKey : String) (found : Option TenantContext) (context : TenantContext)
      (hpassed : TenantResolutionGuard.judge .control request.siteHeader found =
        .passed context) :
      PhaseStep s request (.guarding (.done siteKey found))
        (s, .resolving (.lookup request.siteHeader))
  | reject (phase : Phase) (code : Nat) (body : String) :
      PhaseStep s request phase (s, .rejected code body)
  | fail (phase : Phase) : PhaseStep s request phase (s, .failed)
  | resolve (call : Call String TenantContext) :
      PhaseStep s request (.resolving call) (s.advanceCall call .resolving)
  | bind (siteKey : String) (found : Option TenantContext) :
      PhaseStep s request (.resolving (.done siteKey found))
        ({ s with
            registry := (EndpointAuthHelper.bindTenant factory s.registry found).2 },
          .serving (EndpointAuthHelper.bindTenant factory s.registry found).1)
  | serve (helper : EndpointAuthHelper) :
      PhaseStep s request (.serving helper) (s, .serving helper)

theorem phaseStep (s : Edge) (request : Request) (phase : Phase) :
    PhaseStep factory s request phase (advancePhase factory s request phase) := by
  cases phase with
  | guarding call =>
      cases call with
      | done siteKey found =>
          simp only [advancePhase]
          cases hjudge : TenantResolutionGuard.judge .control request.siteHeader found with
          | passed context => exact .letPass siteKey found context hjudge
          | rejected code body => exact .reject _ code body
      | failed siteKey => exact .fail _
      | lookup siteKey => exact .guard _
      | read siteKey => exact .guard _
      | insert siteKey found => exact .guard _
  | rejected code body => exact .reject _ code body
  | resolving call =>
      cases call with
      | done siteKey found => exact .bind siteKey found
      | failed siteKey => exact .fail _
      | lookup siteKey => exact .resolve _
      | read siteKey => exact .resolve _
      | insert siteKey found => exact .resolve _
  | serving helper => exact .serve helper
  | failed => exact .fail _

section Invariants

variable {factory} {s : Edge} {served : Served} {e : EdgeEvent}

theorem advancePhase_frame (factory : Factory) (s : Edge) (request : Request) (phase : Phase) :
    (advancePhase factory s request phase).1.store = s.store ∧
      (advancePhase factory s request phase).1.requests = s.requests := by
  cases hnext : advancePhase factory s request phase with
  | mk s' phase' =>
      have h := phaseStep factory s request phase
      rw [hnext] at h
      cases h with
      | guard call => exact ⟨controlDatabase.advance_store _ _, rfl⟩
      | letPass siteKey found context hpassed => exact ⟨rfl, rfl⟩
      | reject code body => exact ⟨rfl, rfl⟩
      | fail => exact ⟨rfl, rfl⟩
      | resolve call => exact ⟨controlDatabase.advance_store _ _, rfl⟩
      | bind siteKey found => exact ⟨rfl, rfl⟩
      | serve helper => exact ⟨rfl, rfl⟩

variable {tenants : Tenants}

theorem exists_row_of_passed {request : Request}
    {siteKey : String} {found : Option TenantContext} {context : TenantContext}
    (hsound : (Call.done siteKey found).Sound Names tenants) (hkey : siteKey = request.siteHeader)
    (hpassed : TenantResolutionGuard.judge .control request.siteHeader found =
      .passed context) :
    exists row, row ∈ tenants.rows ∧ row.siteKey = request.siteHeader := by
  rw [(TenantResolutionGuard.judge_passed hpassed).1] at hsound
  rcases hsound with ⟨row, hrow, hrowKey, _⟩
  exact ⟨row, hrow, hrowKey.trans hkey⟩

theorem PhaseSound.advance (factory : Factory) (hs : Sound s) (h : PhaseSound s.store served) :
    Sound (advancePhase factory s served.request served.phase).1 ∧
      PhaseSound s.store
        { served with
          phase := (advancePhase factory s served.request served.phase).2 } := by
  have hstep := phaseStep factory s served.request served.phase
  generalize advancePhase factory s served.request served.phase = next at hstep
  unfold PhaseSound at h
  generalize hphase : served.phase = phase at h hstep
  cases hstep with
  | guard call =>
      have hcall := hs.cached.advance controlDatabase
        (readTenant_names s.store) h.1
      refine ⟨⟨hcall.1, ?_, ?_⟩, hcall.2, ?_⟩
      · simpa [advanceCall] using hs.registry
      · simpa [advanceCall] using hs.requests
      · simpa using h.2
  | letPass siteKey found context hpassed =>
      refine ⟨hs, trivial, rfl, ?_⟩
      intro _
      exact exists_row_of_passed h.1 h.2 hpassed
  | reject code body => exact ⟨hs, trivial⟩
  | fail => exact ⟨hs, trivial⟩
  | resolve call =>
      have hcall := hs.cached.advance controlDatabase
        (readTenant_names s.store) h.1
      refine ⟨⟨hcall.1, ?_, ?_⟩, hcall.2, ?_, h.2.2⟩
      · simpa [advanceCall] using hs.registry
      · simpa [advanceCall] using hs.requests
      · simpa using h.2.1
  | bind siteKey found =>
      have hnames : forall context, found = some context ->
          Names s.store served.request.siteHeader context := by
        intro context hfound
        have hsound := h.1
        rw [hfound] at hsound
        have hkey : siteKey = served.request.siteHeader := h.2.1
        exact hkey ▸ hsound
      have hbound := EndpointAuthHelper.bindTenant_cases factory
        hs.registry hnames
      exact ⟨⟨hs.cached, hbound.1, hs.requests⟩, hbound.2⟩
  | serve helper => exact ⟨hs, h⟩

theorem Sound.step (h : Sound s) : Sound (step factory s e) := by
  cases e with
  | arrive request =>
      refine ⟨h.cached, h.registry, ?_⟩
      intro served hserved
      rcases List.mem_append.mp hserved with hold | hnew
      · exact h.requests served hold
      · rw [List.mem_singleton.mp hnew]
        exact phaseSound_arrived s.store request
  | advance i =>
      simp only [Edge.step]
      cases hget : s.requests[i]? with
      | none => exact h
      | some served =>
          have hserved := List.mem_of_getElem? hget
          have hframe := advancePhase_frame factory s served.request served.phase
          rcases PhaseSound.advance factory h (h.requests served hserved) with
            ⟨hnext, hphase⟩
          refine ⟨hnext.cached, hnext.registry, ?_⟩
          intro served' hserved'
          change PhaseSound (advancePhase factory s served.request served.phase).1.store _
          rw [hframe.1]
          rcases List.mem_or_eq_of_mem_set hserved' with hold | hnew
          · exact h.requests served' hold
          · rw [hnew]
            exact hphase
  | fault i =>
      simp only [Edge.step]
      cases hget : s.requests[i]? with
      | none => exact h
      | some served =>
          refine ⟨h.cached, h.registry, ?_⟩
          intro served' hserved'
          rcases List.mem_or_eq_of_mem_set hserved' with hold | hnew
          · exact h.requests served' hold
          · rw [hnew]
            exact (h.requests served (List.mem_of_getElem? hget)).fault
  | write w =>
      exact ⟨h.cached.changeStore (fun _ _ hnames => hnames.write w), h.registry.write w,
        fun served hserved => (h.requests served hserved).write w⟩
  | invalidate siteKey => exact ⟨h.cached.invalidate siteKey, h.registry, h.requests⟩
  | invalidateAll => exact ⟨Cached.sound_invalidateAll _, h.registry, h.requests⟩
  | evict tenantId => exact ⟨h.cached, h.registry.evict tenantId, h.requests⟩

theorem sound_started (tenants : Tenants) : Sound (started tenants) where
  cached := by
    intro siteKey context hcache
    cases hcache
  registry := by
    intro tenantId resources hentry
    cases hentry
  requests := by
    intro served hserved
    cases hserved

theorem sound_run (tenants : Tenants) (es : List EdgeEvent) :
    Sound (run factory tenants es) :=
  invariant_run (sound_started tenants) (fun _ _ h => h.step)

theorem Sound.neverForeign (h : Sound s) : NeverForeign s := by
  intro served helper hserved hphase
  have hsound := h.requests served hserved
  unfold PhaseSound at hsound
  rw [hphase] at hsound
  exact hsound

/-!
## What holds while no handler looks up a suspended tenant
-/

def ActiveTenant (found : Option TenantContext) : Prop :=
  exists context, found = some context ∧ context.status ≠ kTenantStatusSuspended

/-- A handler that has found its tenant found it active. -/
def PhaseBound (tenants : Tenants) (served : Served) : Prop :=
  match served.phase with
  | .resolving (.insert _ found) => ActiveTenant found
  | .resolving (.done _ found) => ActiveTenant found
  | .serving helper =>
      OwnProvider tenants served.request.siteHeader helper.getTransactionProvider
  | _ => True

def Bound (s : Edge) : Prop :=
  forall served, served ∈ s.requests ->
    TenantResolutionGuard.isHealthPath served.request.url = false ->
    PhaseBound s.store served

theorem Bound.isolated (h : Bound s) : Isolated s := by
  intro served helper hserved hurl hphase
  have hbound := h served hserved hurl
  unfold PhaseBound at hbound
  rw [hphase] at hbound
  exact hbound

theorem PhaseBound.write (h : PhaseBound tenants served)
    (w : TenantWrite) : PhaseBound (w.apply tenants) served := by
  unfold PhaseBound at h ⊢
  split at h
  · exact h
  · exact h
  · exact h.write w
  · trivial

theorem PhaseBound.fault (h : PhaseBound tenants served) :
    PhaseBound tenants { served with phase := faultPhase served.phase } := by
  unfold PhaseBound at h ⊢
  cases hphase : served.phase with
  | resolving call =>
      rw [hphase] at h
      cases call with
      | lookup siteKey => trivial
      | read siteKey => trivial
      | insert siteKey found => exact h
      | done siteKey found => trivial
      | failed siteKey => trivial
  | serving helper =>
      rw [hphase] at h
      exact h
  | guarding call => trivial
  | rejected code body => trivial
  | failed => trivial

theorem PhaseBound.advance {i : Nat} (hs : Sound s)
    (hget : s.requests[i]? = some served)
    (hurl : TenantResolutionGuard.isHealthPath served.request.url = false)
    (hlook : Not (LooksUpSuspended s (.advance i))) (h : PhaseBound s.store served) :
    PhaseBound s.store
      { served with
        phase := (advancePhase factory s served.request served.phase).2 } := by
  have hsound := hs.requests served (List.mem_of_getElem? hget)
  have hstep := phaseStep factory s served.request served.phase
  generalize advancePhase factory s served.request served.phase = next at hstep
  unfold PhaseSound at hsound
  unfold PhaseBound at h
  generalize hphase : served.phase = phase at h hsound hstep
  cases hstep with
  | guard call => trivial
  | letPass siteKey found context hpassed => trivial
  | reject code body => trivial
  | fail => trivial
  | resolve call =>
      unfold PhaseBound
      simp only [advanceCall]
      cases hnext : (controlDatabase.advance s.toCached call).2 with
      | lookup siteKey => trivial
      | read siteKey => trivial
      | failed siteKey => trivial
      | insert siteKey found =>
          rcases controlDatabase.advance_insert hnext with ⟨hcall, hfound⟩
          rw [hcall] at hphase hsound
          rcases hsound.2.2 hurl with ⟨row, hrow, hkey⟩
          have hkey' : siteKey = served.request.siteHeader := hsound.2.1
          have hlookup : s.store.lookupBySiteKey siteKey = some row := by
            rw [hkey', ← hkey]
            exact Tenants.lookupBySiteKey_of_mem hrow
          refine ⟨contextFromRow row, ?_, ?_⟩
          · rw [hfound]
            simp [controlDatabase, readTenant, hlookup]
          · intro hsuspended
            exact hlook (.stored i served siteKey row hget hurl hphase hlookup hsuspended)
      | done siteKey found =>
          rcases controlDatabase.advance_done hnext with ⟨hcall, hsome, hcache⟩ | hcall |
            hcall
          · rcases Option.isSome_iff_exists.mp hsome with ⟨context, hcontext⟩
            refine ⟨context, hcontext, ?_⟩
            intro hsuspended
            rw [hcall] at hphase
            exact hlook (.cached i served siteKey context hget hurl hphase
              (hcache.trans hcontext) hsuspended)
          · rw [hcall] at h
            exact h
          · rw [hcall] at h
            exact h
  | bind siteKey found =>
      rcases h with ⟨context, hcontext, hactive⟩
      have hnames := hsound.1
      rw [hcontext] at hnames ⊢
      have hkey : siteKey = served.request.siteHeader := hsound.2.1
      exact EndpointAuthHelper.bindTenant_active hs.registry (hkey ▸ hnames) hactive
  | serve helper => exact h

theorem Bound.step (hs : Sound s) (h : Bound s) (hlook : Not (LooksUpSuspended s e)) :
    Bound (step factory s e) := by
  cases e with
  | arrive request =>
      intro served hserved hurl
      rcases List.mem_append.mp hserved with hold | hnew
      · exact h served hold hurl
      · rw [List.mem_singleton.mp hnew] at hurl ⊢
        have hphase : (arrived request).phase = .guarding (.lookup request.siteHeader) :=
          if_neg (by simpa [arrived] using hurl)
        unfold PhaseBound
        rw [hphase]
        trivial
  | advance i =>
      simp only [Edge.step]
      cases hget : s.requests[i]? with
      | none => exact h
      | some served =>
          intro served' hserved' hurl
          have hframe := advancePhase_frame factory s served.request served.phase
          change PhaseBound (advancePhase factory s served.request served.phase).1.store _
          rw [hframe.1]
          rcases List.mem_or_eq_of_mem_set hserved' with hold | hnew
          · exact h served' hold hurl
          · rw [hnew] at hurl ⊢
            exact PhaseBound.advance hs hget hurl hlook
              (h served (List.mem_of_getElem? hget) hurl)
  | fault i =>
      simp only [Edge.step]
      cases hget : s.requests[i]? with
      | none => exact h
      | some served =>
          intro served' hserved' hurl
          rcases List.mem_or_eq_of_mem_set hserved' with hold | hnew
          · exact h served' hold hurl
          · rw [hnew] at hurl ⊢
            exact (h served (List.mem_of_getElem? hget) hurl).fault
  | write w => exact fun served hserved hurl => (h served hserved hurl).write w
  | invalidate siteKey => exact h
  | invalidateAll => exact h
  | evict tenantId => exact h

theorem bound_run {es : List EdgeEvent}
    (hlaw : Along (step factory) (fun s e => Not (LooksUpSuspended s e))
      (started tenants) es) : Bound (run factory tenants es) := by
  have hboth : Sound (run factory tenants es) ∧ Bound (run factory tenants es) := by
    refine @invariant_after Edge EdgeEvent (step factory) _
      (fun s => Sound s ∧ Bound s) _ _ ⟨sound_started tenants, ?_⟩ ?_ hlaw
    · intro served hserved
      cases hserved
    · intro s e hinv hlook
      exact ⟨hinv.1.step, hinv.2.step hinv.1 hlook⟩
  exact hboth.2

/-!
## What follows such a look-up
-/

theorem step_bind {i : Nat} {siteKey : String} {found : Option TenantContext}
    (hget : s.requests[i]? = some served)
    (hphase : served.phase = .resolving (.done siteKey found)) :
    (step factory s (.advance i)).requests[i]? =
      some { served with
        phase := .serving (EndpointAuthHelper.bindTenant factory s.registry found).1 } := by
  have hlt := (List.getElem?_eq_some_iff.mp hget).1
  simp [step, hget, hphase, advancePhase, List.getElem?_set_self hlt]

theorem step_resolve (factory : Factory) {i : Nat} {call : Call String TenantContext}
    (call' : Call String TenantContext)
    (hget : s.requests[i]? = some served) (hphase : served.phase = .resolving call)
    (hadvance : (controlDatabase.advance s.toCached call).2 = call')
    (hdone : forall siteKey found, call ≠ .done siteKey found)
    (hfailed : forall siteKey, call ≠ .failed siteKey) :
    (step factory s (.advance i)).requests[i]? =
      some { served with phase := .resolving call' } := by
  have hlt := (List.getElem?_eq_some_iff.mp hget).1
  have hstep : advancePhase factory s served.request (.resolving call) =
      s.advanceCall call .resolving := by
    cases call with
    | done siteKey found => exact absurd rfl (hdone siteKey found)
    | failed siteKey => exact absurd rfl (hfailed siteKey)
    | lookup siteKey => rfl
    | read siteKey => rfl
    | insert siteKey found => rfl
  simp [step, hget, hphase, hstep, advanceCall, hadvance, List.getElem?_set_self hlt]

theorem not_isolated_of_found {i : Nat} {siteKey : String} {context : TenantContext}
    (hget : s.requests[i]? = some served)
    (hurl : TenantResolutionGuard.isHealthPath served.request.url = false)
    (hphase : served.phase = .resolving (.done siteKey (some context)))
    (hsuspended : context.status = kTenantStatusSuspended) :
    Not (Isolated (step factory s (.advance i))) := by
  intro hisolated
  have hown := hisolated _ _ (List.mem_of_getElem? (step_bind hget hphase)) hurl rfl
  exact hown.ne_global (EndpointAuthHelper.bindTenant_suspended hsuspended)

theorem LooksUpSuspended.not_isolated (factory : Factory) (h : LooksUpSuspended s e) :
    exists post, Not (Isolated (after (step factory) (step factory s e) post)) := by
  cases h with
  | cached i served siteKey context hserved hurl hphase hcache hsuspended =>
      have hdone := step_resolve factory (.done siteKey (some context)) hserved hphase
        (by simp [Backend.advance, hcache])
        (by intros; simp) (by intros; simp)
      exact ⟨[.advance i], not_isolated_of_found hdone hurl rfl hsuspended⟩
  | stored i served siteKey row hserved hurl hphase hrow hsuspended =>
      have hread := step_resolve factory
        (.insert siteKey (some (contextFromRow row))) hserved hphase
        (by simp [Backend.advance, controlDatabase, readTenant, hrow])
        (by intros; simp) (by intros; simp)
      have hdone := step_resolve factory
        (.done siteKey (some (contextFromRow row))) hread rfl rfl
        (by intros; simp) (by intros; simp)
      exact ⟨[.advance i, .advance i],
        not_isolated_of_found hdone hurl rfl hsuspended⟩

end Invariants

/-- No handler ever runs with the provider of another tenant.  Every handler
runs with the provider of its own tenant in all runs in which no handler looks
up a suspended tenant; and whenever one does, the run can go on to a handler with
the provider of the deployment. -/
theorem tenantIsolation (tenants : Tenants) :
    (forall es, NeverForeign (run factory tenants es)) ∧
    (forall es, Along (step factory) (fun s e => Not (LooksUpSuspended s e))
        (started tenants) es ->
      forall pre post, es = pre ++ post -> Isolated (run factory tenants pre)) ∧
    (forall pre e, LooksUpSuspended (run factory tenants pre) e ->
      exists post, Not (Isolated (run factory tenants (pre ++ e :: post)))) := by
  refine ⟨fun es => (sound_run tenants es).neverForeign, ?_, ?_⟩
  · intro es hlaw pre post hes
    rw [hes] at hlaw
    exact (bound_run (along_append.mp hlaw).1).isolated
  · intro pre e hlook
    rcases hlook.not_isolated factory with ⟨post, hnot⟩
    refine ⟨post, ?_⟩
    unfold run
    rw [after_append, after_cons]
    exact hnot

/-!
## A suspension between the guard and the handler
-/

section Suspension

def acmeRequest : Request where
  url := "/api/get_table_rows"
  siteHeader := "acme"

/-- A request of an active tenant is served from its database. -/
theorem tenantIsolation_active :
    Isolated (run Factory.default oneTenant
      [.arrive acmeRequest, .advance 0, .advance 0, .advance 0, .advance 0, .advance 0,
        .advance 0]) := by
  refine (tenantIsolation Factory.default oneTenant).2.1 _ ?_ _ [] (List.append_nil _).symm
  simp only [along_cons]
  have hcheck {s : Edge} {e : EdgeEvent} (h : s.looksUpSuspended e = false) :
      Not (LooksUpSuspended s e) := by
    intro hlook
    rw [looksUpSuspended_of hlook] at h
    cases h
  exact ⟨hcheck rfl, hcheck (by decide), hcheck (by decide), hcheck (by decide),
    hcheck (by decide), hcheck (by decide), hcheck (by decide), along_nil⟩

def suspendedBehindGuard : List EdgeEvent :=
  [.arrive acmeRequest, .advance 0, .advance 0, .advance 0, .advance 0,
    .write (.setStatus 1000 "acme" kTenantStatusSuspended), .invalidate "acme",
    .advance 0, .advance 0, .advance 0, .advance 0]

/-- Its handler runs with the provider of the control database. -/
theorem isolated_fails :
    Not (forall tenants es, Isolated (run Factory.default tenants es)) := by
  intro hlaw
  have hserved : (run Factory.default oneTenant suspendedBehindGuard).requests =
      [{ request := acmeRequest
         phase := .serving { tenantContext := {}, tenantResources := none } }] := by
    decide
  have hown := hlaw oneTenant suspendedBehindGuard _ _
    (by rw [hserved]; exact List.mem_singleton.mpr rfl) rfl rfl
  exact hown.ne_global rfl

end Suspension

end Edge

end Tenancy
end ServerComponents
