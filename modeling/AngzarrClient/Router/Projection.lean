/-
The projector router (`ProjectorRouter::dispatch`): one instance of each
projector that listens to the book's domain, and every page sent to each of
them in turn.  The calls an instance gets are those it would make itself on
the whole book.
-/
import AngzarrClient.Lib.Tagged
import AngzarrClient.Macros.Projector
import AngzarrClient.Router.Runtime

namespace AngzarrClient

variable {α β : Type}

/-- A run whose events name the instance they happen on, by the index of the
factory that produced it. -/
abbrev InstanceRun (α : Type) := Traced (Nat × Event) ClientError α

def onInstance (index : Nat) (run : Run α) : InstanceRun α :=
  run.mapTrace fun event => (index, event)

namespace ProjectorRouter

/-- The projector takes part: its domains hold the book's or the wildcard.  A
book without a cover is for every projector. -/
def listens (incomingDomain : Option String) : HandlerConfig → Bool
  | .projector config =>
      match incomingDomain with
      | some domain => config.domains.any fun x => x = domain ∨ x = "*"
      | none => true
  | _ => false

def unwrapProjector : HandlerResponse → Except ClientError PUnit
  | .projector _ => .ok ⟨⟩
  | _ => wrongKind "Projector"

/-- The first loop: instantiate each factory once and keep what matches. -/
def instantiate (incomingDomain : Option String) (matched : List (Nat × Handler))
    (index : Nat) : List Factory → InstanceRun (List (Nat × Handler))
  | [] => pure matched
  | factory :: rest => do
      let handler ← onInstance index factory.produce
      if listens incomingDomain handler.config then
        instantiate incomingDomain (matched ++ [(index, handler)]) (index + 1) rest
      else instantiate incomingDomain matched (index + 1) rest

/-- `page_book`: the book with one page. -/
def pageRequest (book : EventBook) (page : EventPage) : HandlerRequest :=
  .projector { book with pages := [page] }

/-- One call of the inner loop, whose payload is dropped. -/
def callInstance (served : List HandlerRequest) (request : HandlerRequest)
    (entry : Nat × Handler) : InstanceRun PUnit := do
  let response ← onInstance entry.1 (entry.2.callAfter served request)
  Traced.ofExcept (unwrapProjector response)

/-- The inner loop: one page book to every matched instance. -/
def projectPage (served : List HandlerRequest) (request : HandlerRequest) :
    List (Nat × Handler) → InstanceRun PUnit
  | [] => pure ⟨⟩
  | entry :: rest => do
      callInstance served request entry
      projectPage served request rest

/-- The outer loop.  Every matched instance has served the books of the
earlier pages. -/
def projectPages (book : EventBook) (matched : List (Nat × Handler))
    (served : List HandlerRequest) : List EventPage → InstanceRun PUnit
  | [] => pure ⟨⟩
  | page :: rest => do
      projectPage served (pageRequest book page) matched
      projectPages book matched (served ++ [pageRequest book page]) rest

/-- `ProjectorRouter::dispatch`. -/
def dispatch (router : ProjectorRouter) (book : EventBook) :
    InstanceRun Projection := do
  let matched ← instantiate (book.cover.map Cover.domain) [] 0 router.factories
  projectPages book matched [] book.pages
  pure { cover := book.cover, projector := "", sequence := book.nextSequence }

end ProjectorRouter

open ProjectorRouter

/-- The method runs of a run, each with the instance it ran on. -/
def methodRuns (run : InstanceRun α) : List (Nat × MethodRun) :=
  run.trace.filterMap fun entry =>
    match entry.2 with
    | .ran ran => some (entry.1, ran)
    | _ => none

/-- The instances a run constructed, each with its config. -/
def constructed (run : InstanceRun α) : List (Nat × HandlerConfig) :=
  run.trace.filterMap fun entry =>
    match entry.2 with
    | .produced config => some (entry.1, config)
    | _ => none

theorem methodRuns_bind_of_ok {x : InstanceRun α} {a : α} (hx : x.outcome = .ok a)
    (f : α → InstanceRun β) :
    methodRuns (x >>= f) = methodRuns x ++ methodRuns (f a) := by
  rw [methodRuns, Traced.bind_of_ok hx, List.filterMap_append]
  rfl

theorem methodRuns_bind_of_error {x : InstanceRun α} {error : ClientError}
    (hx : x.outcome = .error error) (f : α → InstanceRun β) :
    methodRuns (x >>= f) = methodRuns x := by
  rw [methodRuns, Traced.bind_of_error hx]
  rfl

theorem constructed_bind_of_ok {x : InstanceRun α} {a : α} (hx : x.outcome = .ok a)
    (f : α → InstanceRun β) :
    constructed (x >>= f) = constructed x ++ constructed (f a) := by
  rw [constructed, Traced.bind_of_ok hx, List.filterMap_append]
  rfl

section Generated

variable {I Msg : Type}

/-- The router over generated projectors, in registration order. -/
def projectorRouter (projectors : List (Projector I Msg)) : ProjectorRouter where
  factories := projectors.map Projector.factory

/-- The projectors that take part, each with its index. -/
def listening (book : EventBook) (projectors : List (Projector I Msg)) :
    List (Projector I Msg × Nat) :=
  projectors.zipIdx.filter fun entry =>
    listens (book.cover.map Cover.domain) entry.1.handler.config

/-- The calls one page leads to on one instance. -/
def pageCalls (page : EventPage) (entry : Projector I Msg × Nat) :
    List (Nat × MethodRun) :=
  Tagged.tag entry.2 (entry.1.delivered page)

/-- The calls one page leads to: on each instance, in registration order. -/
def roundCalls (entries : List (Projector I Msg × Nat)) (page : EventPage) :
    List (Nat × MethodRun) :=
  entries.flatMap (pageCalls page)

/-- The instance, as the earlier pages left it, fails on the page, after its `own` calls
for it. -/
structure FailsOnPage (entry : Projector I Msg × Nat) (before : List EventPage)
    (page : EventPage) (own : List (Nat × MethodRun)) (error : ClientError) : Prop where
  fails : ∃ self, (entry.1.projectPages entry.1.fresh before).outcome = .ok self ∧
    (entry.1.projectPage self page).outcome = .error error
  /-- Its method was called and rejects, or the page's event is one that it handles and
  does not decode. -/
  reason :
    (∃ run rejection, pageCalls page entry = [(entry.2, run)] ∧
        own = pageCalls page entry ∧ error = .rejected rejection) ∨
      ∃ eventAny cause, page.payload = some (.event eventAny) ∧
        Undecodable entry.1.handles eventAny cause ∧
        own = [] ∧ error = .anyDecodeFailed eventAny.typeUrl cause

/-- The instances have served the pages `before`, without an error. -/
def HaveServed (entries : List (Projector I Msg × Nat)) (before : List EventPage) :
    Prop :=
  ∀ entry ∈ entries, ∃ self,
    (entry.1.projectPages entry.1.fresh before).outcome = .ok self

variable (projector : Projector I Msg) (book : EventBook)

/-- An instance that has served the one-page books of `before` is where a run
over these pages leads. -/
theorem instanceAfter_pages (before : List EventPage) :
    projector.instanceAfter (before.map (pageRequest book)) =
      (projector.projectPages projector.fresh before).outcome := by
  have hserve : ∀ (self : I) (page : EventPage),
      (projector.serve self (pageRequest book page)).outcome.map Prod.snd =
        (projector.projectPage self page).outcome := by
    intro self page
    rw [pageRequest, Projector.serve, Traced.outcome_bind,
      Projector.outcome_projectPages_singleton]
    cases (projector.projectPage self page).outcome with
    | error error => rfl
    | ok changed => rfl
  have hpages : ∀ self : I, (before.map (pageRequest book)).foldlM
      (fun self request => (projector.serve self request).outcome.map Prod.snd) self =
        (projector.projectPages self before).outcome := by
    induction before with
    | nil => exact fun _ => rfl
    | cons page rest ih =>
        intro self
        rw [List.map_cons, List.foldlM_cons, hserve, Projector.projectPages,
          Traced.outcome_bind]
        cases (projector.projectPage self page).outcome with
        | error error => rfl
        | ok changed => exact ih changed
  exact hpages projector.fresh

/-- A call with a one-page book does on the instance what the page does. -/
theorem callAfter_page {projector : Projector I Msg} {before : List EventPage} {self : I}
    (hserved : (projector.projectPages projector.fresh before).outcome = .ok self)
    (page : EventPage) :
    projector.handler.callAfter (before.map (pageRequest book))
        (pageRequest book page) =
      ⟨.dispatched projector.handler.config (pageRequest book page) ::
          (projector.projectPage self page).trace.map .ran,
        (projector.projectPage self page).outcome.map fun _ =>
          .projector (projector.skeleton { book with pages := [page] })⟩ := by
  have hself := instanceAfter_pages projector book before
  rw [hserved] at hself
  change Traced.emit _ >>= (fun _ => (projector.dispatchAfter _ _).mapTrace Event.ran) = _
  rw [Projector.dispatchAfter, hself, Traced.emit_bind]
  dsimp only
  rw [Traced.trace_mapTrace, Traced.outcome_mapTrace, Traced.trace_map,
    Traced.outcome_map, pageRequest, Projector.serve, Projector.projectPages]
  cases hpage : (projector.projectPage self page).outcome with
  | error error =>
      rw [Traced.bind_of_error hpage, Traced.bind_of_error rfl]
      rfl
  | ok changed =>
      rw [Traced.bind_of_ok hpage]
      simp [Projector.projectPages, Except.map, Traced.bind_of_ok]

/-- The calls of one turn on one instance. -/
theorem methodRuns_onInstance (index : Nat) (config : HandlerConfig)
    (request : HandlerRequest) (runs : List MethodRun) (outcome : Except ClientError α) :
    methodRuns (onInstance index ⟨.dispatched config request :: runs.map .ran, outcome⟩) =
      Tagged.tag index runs := by
  rw [methodRuns, onInstance, Traced.trace_mapTrace, List.map_cons,
    List.filterMap_cons_none rfl, List.map_map, List.filterMap_map, Tagged.tag,
    ← List.filterMap_eq_map]
  rfl

/-- One call: the page is delivered to the instance, or the call fails. -/
theorem callInstance_cases {entry : Projector I Msg × Nat} {before : List EventPage}
    {self : I}
    (hserved : (entry.1.projectPages entry.1.fresh before).outcome = .ok self)
    (page : EventPage) :
    ∃ run : InstanceRun PUnit,
      callInstance (before.map (pageRequest book)) (pageRequest book page)
        (entry.2, entry.1.handler) = run ∧
      ((run.outcome = .ok ⟨⟩ ∧ methodRuns run = pageCalls page entry ∧
          ∃ changed, (entry.1.projectPages entry.1.fresh (before ++ [page])).outcome =
            .ok changed) ∨
        ∃ error, run.outcome = .error error ∧
          FailsOnPage entry before page (methodRuns run) error) := by
  refine ⟨_, rfl, ?_⟩
  have hcall := callAfter_page book hserved page
  have hnext := entry.1.outcome_projectPages_append entry.1.fresh before [page]
  rw [hserved] at hnext
  change _ = (entry.1.projectPages self [page]).outcome at hnext
  rw [Projector.outcome_projectPages_singleton] at hnext
  rw [callInstance, hcall]
  rcases entry.1.projectPage_cases self page with
    ⟨changed, hpage⟩ | ⟨run, rejection, hdelivered, hpage⟩ |
      ⟨eventAny, cause, hpayload, hundecodable, hpage⟩
  · rw [hpage] at hnext ⊢
    refine Or.inl ⟨rfl, ?_, changed, hnext⟩
    rw [methodRuns_bind_of_ok rfl, methodRuns_onInstance]
    exact List.append_nil _
  · have hfails := congrArg Traced.outcome hpage
    rw [hpage]
    refine Or.inr ⟨_, rfl, ⟨self, hserved, hfails⟩, Or.inl ⟨run, rejection, ?_, ?_, rfl⟩⟩
    · rw [pageCalls, hdelivered]
      rfl
    · rw [methodRuns_bind_of_error rfl, methodRuns_onInstance]
      rfl
  · have hfails := congrArg Traced.outcome hpage
    rw [hpage]
    refine Or.inr ⟨_, rfl, ⟨self, hserved, hfails⟩,
      Or.inr ⟨eventAny, cause, hpayload, hundecodable, ?_, rfl⟩⟩
    rw [methodRuns_bind_of_error rfl, methodRuns_onInstance]
    rfl

/-- The handles of the matched instances, as the router holds them. -/
def held (entries : List (Projector I Msg × Nat)) : List (Nat × Handler) :=
  entries.map fun entry => (entry.2, entry.1.handler)

/-- One page: every instance gets it, or one fails after the earlier ones. -/
theorem projectPage_round {entries : List (Projector I Msg × Nat)}
    {before : List EventPage} (hserved : HaveServed entries before) (page : EventPage) :
    ∃ run : InstanceRun PUnit,
      projectPage (before.map (pageRequest book)) (pageRequest book page)
        (held entries) = run ∧
      ((run.outcome = .ok ⟨⟩ ∧ methodRuns run = roundCalls entries page ∧
          HaveServed entries (before ++ [page])) ∨
        ∃ front entry back own error, entries = front ++ entry :: back ∧
          run.outcome = .error error ∧ FailsOnPage entry before page own error ∧
          methodRuns run = roundCalls front page ++ own) := by
  refine ⟨_, rfl, ?_⟩
  induction entries with
  | nil => exact Or.inl ⟨rfl, rfl, fun entry hmem => by cases hmem⟩
  | cons entry rest ih =>
      obtain ⟨self, hself⟩ := hserved entry (by simp)
      obtain ⟨run, hrun, hcases⟩ := callInstance_cases book hself page
      rw [held, List.map_cons, projectPage, hrun]
      rcases hcases with ⟨hok, hcalls, hnext⟩ | ⟨error, herror, hfails⟩
      · rw [methodRuns_bind_of_ok hok, Traced.bind_of_ok hok, hcalls]
        rcases ih fun other hother => hserved other (by simp [hother]) with
          ⟨hrest, hround, hothers⟩ |
            ⟨front, failing, back, own, error, rfl, herror, hfails, hround⟩
        · refine Or.inl ⟨hrest, ?_, ?_⟩
          · exact congrArg (pageCalls page entry ++ ·) hround
          · exact List.forall_mem_cons.mpr ⟨hnext, hothers⟩
        · refine Or.inr ⟨entry :: front, failing, back, own, error, rfl, herror,
            hfails, ?_⟩
          rw [roundCalls, List.flatMap_cons, List.append_assoc]
          exact congrArg (pageCalls page entry ++ ·) hround
      · rw [methodRuns_bind_of_error herror, Traced.bind_of_error herror]
        exact Or.inr ⟨[], entry, rest, methodRuns run, error, rfl, rfl, hfails, rfl⟩

/-- All pages: every instance gets every page, or a call fails after the
earlier pages and the earlier instances. -/
theorem projectPages_rounds {entries : List (Projector I Msg × Nat)}
    {before : List EventPage} (hserved : HaveServed entries before)
    (pages : List EventPage) :
    ∃ run : InstanceRun PUnit,
      projectPages book (held entries) (before.map (pageRequest book)) pages = run ∧
      ((run.outcome = .ok ⟨⟩ ∧ methodRuns run = pages.flatMap (roundCalls entries) ∧
          HaveServed entries (before ++ pages)) ∨
        ∃ done page after front entry back own error,
          pages = done ++ page :: after ∧ entries = front ++ entry :: back ∧
          run.outcome = .error error ∧ FailsOnPage entry (before ++ done) page own error ∧
          methodRuns run =
            done.flatMap (roundCalls entries) ++ roundCalls front page ++ own) := by
  refine ⟨_, rfl, ?_⟩
  induction pages generalizing before with
  | nil => exact Or.inl ⟨rfl, rfl, by rwa [List.append_nil]⟩
  | cons page rest ih =>
      obtain ⟨run, hrun, hcases⟩ := projectPage_round book hserved page
      have hbooks : before.map (pageRequest book) ++ [pageRequest book page] =
          (before ++ [page]).map (pageRequest book) := by simp
      rw [projectPages, hrun, hbooks]
      rcases hcases with ⟨hok, hcalls, hnext⟩ |
        ⟨front, entry, back, own, error, hentries, herror, hfails, hcalls⟩
      · rw [methodRuns_bind_of_ok hok, Traced.bind_of_ok hok, hcalls]
        rcases ih hnext with ⟨hrest, hrounds, hothers⟩ |
          ⟨done, bad, after, front, entry, back, own, error, rfl, hentries, herror,
            hfails, hrounds⟩
        · refine Or.inl ⟨hrest, ?_, ?_⟩
          · rw [hrounds, List.flatMap_cons]
          · rwa [List.append_assoc] at hothers
        · refine Or.inr ⟨page :: done, bad, after, front, entry, back, own, error, rfl,
            hentries, herror, by rwa [List.append_assoc] at hfails, ?_⟩
          rw [hrounds, List.flatMap_cons]
          simp only [List.append_assoc]
      · rw [methodRuns_bind_of_error herror, Traced.bind_of_error herror]
        exact Or.inr ⟨[], page, rest, front, entry, back, own, error, rfl, hentries,
          rfl, by rwa [List.append_nil], hcalls⟩

/-- The first loop invokes every factory once, in order, and keeps the
instances that listen. -/
theorem instantiate_generated (incomingDomain : Option String)
    (matched : List (Nat × Handler)) (start : Nat)
    (projectors : List (Projector I Msg)) :
    instantiate incomingDomain matched start (projectors.map Projector.factory) =
      ⟨(projectors.zipIdx start).map fun entry =>
          (entry.2, .produced entry.1.handler.config),
        .ok (matched ++ held ((projectors.zipIdx start).filter fun entry =>
          listens incomingDomain entry.1.handler.config))⟩ := by
  induction projectors generalizing matched start with
  | nil =>
      rw [held, List.map_nil, instantiate]
      simp [pure, Traced.pure]
  | cons projector rest ih =>
      rw [List.map_cons, instantiate, onInstance, Factory.produce]
      rw [Traced.bind_of_ok rfl, List.zipIdx_cons, List.filter_cons]
      by_cases hlistens : listens incomingDomain projector.handler.config = true
      · have hfactory : listens incomingDomain projector.factory.handler.config = true :=
          hlistens
        simp only [hfactory, if_true, ih, hlistens]
        simp [held, Projector.factory, bind, Traced.bind, Traced.emit, pure, Traced.pure]
      · have hfactory : ¬listens incomingDomain projector.factory.handler.config = true :=
          hlistens
        simp only [hfactory, ih, hlistens]
        simp [Projector.factory, bind, Traced.bind, Traced.emit, pure, Traced.pure]

theorem constructed_bind_eq_nil {x : InstanceRun α} {f : α → InstanceRun β}
    (hx : constructed x = []) (hf : ∀ a, constructed (f a) = []) :
    constructed (x >>= f) = [] := by
  cases houtcome : x.outcome with
  | ok a => rw [constructed_bind_of_ok houtcome, hx, hf]; rfl
  | error error =>
      rw [constructed, Traced.bind_of_error houtcome]
      exact hx

/-- The page loops construct nothing. -/
theorem constructed_projectPages (matched : List (Nat × Handler))
    (served : List HandlerRequest) (pages : List EventPage) :
    constructed (projectPages book matched served pages) = [] := by
  have hcall : ∀ (served : List HandlerRequest) (request : HandlerRequest)
      (entry : Nat × Handler), constructed (callInstance served request entry) = [] := by
    intro served request entry
    apply constructed_bind_eq_nil
    · change List.filterMap _ ((Event.dispatched _ _ :: List.map Event.ran _).map _) = []
      rw [List.map_cons, List.filterMap_cons_none rfl, List.map_map, List.filterMap_map,
        List.filterMap_eq_nil_iff]
      intro run _
      rfl
    · exact fun _ => rfl
  have hround : ∀ (served : List HandlerRequest) (request : HandlerRequest),
      constructed (projectPage served request matched) = [] := by
    intro served request
    induction matched with
    | nil => rfl
    | cons entry rest ih => exact constructed_bind_eq_nil (hcall _ _ _) fun _ => ih
  induction pages generalizing served with
  | nil => rfl
  | cons page rest ih => exact constructed_bind_eq_nil (hround _ _) fun _ => ih _

/-- A run over generated projectors is the construction of the instances and
then the page loops. -/
theorem dispatch_generated (projectors : List (Projector I Msg)) :
    ∃ pages : InstanceRun PUnit,
      projectPages book (held (listening book projectors)) [] book.pages = pages ∧
      constructed ((projectorRouter projectors).dispatch book) =
        projectors.zipIdx.map (fun entry => (entry.2, entry.1.handler.config)) ∧
      methodRuns ((projectorRouter projectors).dispatch book) = methodRuns pages ∧
      ((projectorRouter projectors).dispatch book).outcome =
        pages.outcome.map fun _ =>
          { cover := book.cover, sequence := book.nextSequence } := by
  refine ⟨_, rfl, ?_⟩
  have hinstances := instantiate_generated (book.cover.map Cover.domain) [] 0 projectors
  rw [List.nil_append, ← listening] at hinstances
  rw [ProjectorRouter.dispatch, projectorRouter, hinstances]
  refine ⟨?_, ?_, ?_⟩
  · rw [constructed_bind_of_ok rfl,
      constructed_bind_eq_nil (constructed_projectPages book _ _ _) fun _ => rfl,
      List.append_nil, constructed, List.filterMap_map, ← List.filterMap_eq_map]
    rfl
  · rw [methodRuns_bind_of_ok rfl]
    have hnone : methodRuns (⟨projectors.zipIdx.map fun entry =>
        (entry.2, Event.produced entry.1.handler.config),
        .ok (held (listening book projectors))⟩ : InstanceRun _) = [] := by
      rw [methodRuns, List.filterMap_map, List.filterMap_eq_nil_iff]
      intro entry _
      rfl
    rw [hnone, List.nil_append]
    cases hpages : (projectPages book (held (listening book projectors)) []
        book.pages).outcome with
    | ok _ => rw [methodRuns_bind_of_ok hpages]; exact List.append_nil _
    | error error => rw [methodRuns_bind_of_error hpages]
  · rw [Traced.bind_of_ok rfl]
    dsimp only
    rw [Traced.outcome_bind]
    rfl

/-- In the rounds of the page loops, the calls on one instance are what its
projector makes of the pages, if it listens. -/
theorem ownedBy_roundCalls {projectors : List (Projector I Msg)} {index : Nat}
    {projector : Projector I Msg} (hindex : projectors[index]? = some projector)
    (pages : List EventPage) :
    Tagged.ownedBy index (pages.flatMap (roundCalls (listening book projectors))) =
      if listens (book.cover.map Cover.domain) projector.handler.config then
        pages.flatMap projector.delivered
      else [] := by
  have hround : ∀ page, Tagged.ownedBy index
      (roundCalls (listening book projectors) page) =
        if listens (book.cover.map Cover.domain) projector.handler.config then
          projector.delivered page
        else [] := by
    intro page
    have hone := Tagged.ownedBy_round projectors
      (fun projector => listens (book.cover.map Cover.domain) projector.handler.config)
      (fun projector => projector.delivered page) 0 index
    rw [Nat.zero_add, hindex] at hone
    exact hone
  rw [Tagged.ownedBy_flatMap]
  simp only [hround]
  split
  · rfl
  · simp

/-- A projector that fails on a page fails on every book with this page behind the
earlier ones. -/
theorem FailsOnPage.dispatch_error {entry : Projector I Msg × Nat}
    {before after : List EventPage} {page : EventPage} {own : List (Nat × MethodRun)}
    {error : ClientError} (hfails : FailsOnPage entry before page own error)
    (hpages : book.pages = before ++ page :: after) :
    (entry.1.dispatch (.projector book)).outcome = .error error := by
  obtain ⟨self, hserved, hpage⟩ := hfails.fails
  have hwhole : (entry.1.projectPages entry.1.fresh book.pages).outcome = .error error := by
    rw [hpages, Projector.outcome_projectPages_append, hserved]
    change (entry.1.projectPages self (page :: after)).outcome = _
    rw [Projector.projectPages, Traced.outcome_bind, hpage]
    rfl
  rw [Projector.dispatch, Projector.serve, Traced.outcome_map, Traced.outcome_bind, hwhole]
  rfl

/-- The router shows every page, in page order, to one instance of each
projector that listens to the book, and to no other. -/
structure ProjectsPageByPage (projectors : List (Projector I Msg)) (book : EventBook)
    (run : InstanceRun Projection) : Prop where
  /-- Each factory yields one instance, so the runs of an index are runs on it. -/
  one_instance (index : Nat) (projector : Projector I Msg) :
    projectors[index]? = some projector →
      Tagged.ownedBy index (constructed run) = [projector.handler.config]
  answer (projection : Projection) : run.outcome = .ok projection →
    projection = { cover := book.cover, sequence := book.nextSequence }
  /-- It succeeds exactly when each projector that listens can serve the whole book. -/
  succeeds_iff : (∃ projection, run.outcome = .ok projection) ↔
    ∀ entry ∈ listening book projectors,
      ∃ response, (entry.1.dispatch (.projector book)).outcome = .ok response
  /-- The pages are the outer loop, the projectors the inner one. -/
  page_order (projection : Projection) : run.outcome = .ok projection →
    methodRuns run = book.pages.flatMap (roundCalls (listening book projectors))
  /-- Exactly one call for each page with an event the projector handles. -/
  exactly_once (projection : Projection) (index : Nat) (projector : Projector I Msg) :
    run.outcome = .ok projection → projectors[index]? = some projector →
      Tagged.ownedBy index (methodRuns run) =
        if listens (book.cover.map Cover.domain) projector.handler.config then
          book.pages.flatMap projector.delivered
        else []
  /-- A projector sees the calls it would make itself on the whole book. -/
  as_whole_book (projection : Projection) (index : Nat) (projector : Projector I Msg) :
    run.outcome = .ok projection → projectors[index]? = some projector →
      listens (book.cover.map Cover.domain) projector.handler.config = true →
        (projector.dispatch (.projector book)).outcome =
            .ok (.projector (projector.skeleton book)) ∧
          Tagged.ownedBy index (methodRuns run) =
            (projector.dispatch (.projector book)).trace
  /-- A failure on a page leaves the calls of the earlier pages and of the
  earlier projectors on this page, and its own if a method was called. -/
  cut_short (error : ClientError) : run.outcome = .error error →
    ∃ done page after front entry back own,
      book.pages = done ++ page :: after ∧
      listening book projectors = front ++ entry :: back ∧
      FailsOnPage entry done page own error ∧
      methodRuns run = done.flatMap (roundCalls (listening book projectors)) ++
        roundCalls front page ++ own

end Generated

/-- `ProjectorRouter::dispatch` over generated projectors delivers every page
exactly once, in order, on complete runs and on runs an error cuts short. -/
theorem projectorRouter_projects_page_by_page {I Msg : Type}
    (projectors : List (Projector I Msg)) (book : EventBook) :
    ProjectsPageByPage projectors book ((projectorRouter projectors).dispatch book) := by
  have hfresh : HaveServed (listening book projectors) [] :=
    fun entry _ => ⟨entry.1.fresh, rfl⟩
  obtain ⟨pages, hpages, hconstructed, hruns, houtcome⟩ :=
    dispatch_generated book projectors
  obtain ⟨run, hrun, hcases⟩ := projectPages_rounds book hfresh book.pages
  rw [List.map_nil, hpages] at hrun
  subst hrun
  -- what is known when the dispatch succeeds
  have hok : ∀ projection,
      ((projectorRouter projectors).dispatch book).outcome = .ok projection →
        projection = { cover := book.cover, sequence := book.nextSequence } ∧
        methodRuns pages = book.pages.flatMap (roundCalls (listening book projectors)) ∧
        HaveServed (listening book projectors) book.pages := by
    intro projection hprojection
    rw [houtcome] at hprojection
    rcases hcases with ⟨hdone, hcalls, hserved⟩ |
      ⟨_, _, _, _, _, _, _, _, _, _, herror, _⟩
    · rw [hdone] at hprojection
      cases hprojection
      exact ⟨rfl, hcalls, by simpa using hserved⟩
    · rw [herror] at hprojection
      cases hprojection
  constructor
  case one_instance =>
    intro index projector hindex
    have hone := Tagged.ownedBy_round projectors (fun _ => true)
      (fun projector => [projector.handler.config]) 0 index
    rw [Nat.zero_add, hindex] at hone
    rw [hconstructed]
    simpa [Tagged.tag, List.flatMap_singleton', List.map_eq_flatMap] using hone
  case answer => exact fun projection hprojection => (hok projection hprojection).1
  case succeeds_iff =>
    constructor
    · rintro ⟨projection, hprojection⟩ entry hentry
      obtain ⟨-, -, hserved⟩ := hok projection hprojection
      obtain ⟨self, hself⟩ := hserved entry hentry
      exact ⟨_, entry.1.dispatch_of_projectPages hself⟩
    · intro hserve
      rcases hcases with ⟨hdone, -, -⟩ |
        ⟨done, page, after, front, entry, back, own, error, hsplit, hentries, -, hfails, -⟩
      · exact ⟨_, by rw [houtcome, hdone]; rfl⟩
      · obtain ⟨response, hresponse⟩ := hserve entry (by rw [hentries]; simp)
        rw [hfails.dispatch_error book hsplit] at hresponse
        cases hresponse
  case page_order =>
    intro projection hprojection
    rw [hruns]
    exact (hok projection hprojection).2.1
  case exactly_once =>
    intro projection index projector hprojection hindex
    rw [hruns, (hok projection hprojection).2.1]
    exact ownedBy_roundCalls book hindex book.pages
  case as_whole_book =>
    intro projection index projector hprojection hindex hlistens
    obtain ⟨-, hcalls, hserved⟩ := hok projection hprojection
    have hmem : (projector, index) ∈ listening book projectors := by
      rw [listening, List.mem_filter]
      exact ⟨List.mem_zipIdx_iff_getElem?.mpr hindex, hlistens⟩
    obtain ⟨self, hself⟩ := hserved _ hmem
    dsimp only at hself
    refine ⟨projector.dispatch_of_projectPages hself, ?_⟩
    rw [hruns, hcalls, ownedBy_roundCalls book hindex, if_pos hlistens,
      ← Projector.trace_projectPages hself, Projector.dispatch, Projector.serve]
    rw [Traced.trace_map, Traced.bind_of_ok hself]
    exact (List.append_nil _).symm
  case cut_short =>
    intro error herror
    rw [houtcome] at herror
    rw [hruns]
    rcases hcases with ⟨hdone, -, -⟩ |
      ⟨done, page, after, front, entry, back, own, other, hsplit, hentries, hother,
        hfails, hcalls⟩
    · rw [hdone] at herror
      cases herror
    · rw [hother] at herror
      cases herror
      exact ⟨done, page, after, front, entry, back, own, hsplit, hentries, hfails, hcalls⟩

namespace Sample

/-- A projector of `domain` that counts the orders created, as far as `limit`. -/
def orderCount (domain : String) (limit : Nat) : Projector Nat Bool where
  name := named "order-count"
  domains := [named domain]
  domains_ne_nil := List.cons_ne_nil _ _
  fresh := 0
  handles := [⟨"count", flagType "order.Created", fun _ seen =>
    if seen < limit then .ok (seen + 1) else .error (.notFound "FULL" "full" [])⟩]

/-- Two orders are created, and one is shipped in between. -/
def twoOrders : EventBook where
  cover := some { domain := "order" }
  pages := [eventPage "type.googleapis.com/order.Created" [],
    eventPage "type.googleapis.com/order.Shipped" [],
    eventPage "type.googleapis.com/order.Created" []]

/-- The run of `count` on an order. -/
def countRun : MethodRun :=
  ⟨"count", .handles "type.googleapis.com/order.Created",
    ⟨"type.googleapis.com/order.Created", []⟩⟩

end Sample

open Sample in
/-- The projectors of the domain and of all domains count both orders, in turn; with one of
them full after the first order there is no answer. -/
theorem projectorRouter_projects_page_by_page_sample :
    (∃ projection, ((projectorRouter [orderCount "order" 2, orderCount "stock" 2,
          orderCount "*" 2]).dispatch twoOrders).outcome = .ok projection) ∧
      methodRuns ((projectorRouter [orderCount "order" 2, orderCount "stock" 2,
          orderCount "*" 2]).dispatch twoOrders) =
        [(0, countRun), (2, countRun), (0, countRun), (2, countRun)] ∧
      ¬(∃ projection, ((projectorRouter [orderCount "order" 2, orderCount "stock" 2,
          orderCount "*" 1]).dispatch twoOrders).outcome = .ok projection) := by
  have hruns := projectorRouter_projects_page_by_page
    [orderCount "order" 2, orderCount "stock" 2, orderCount "*" 2] twoOrders
  have hfull := projectorRouter_projects_page_by_page
    [orderCount "order" 2, orderCount "stock" 2, orderCount "*" 1] twoOrders
  have hsuccess := hruns.succeeds_iff.mpr fun entry hentry => by
    have hlistening : entry ∈ [(orderCount "order" 2, 0), (orderCount "*" 2, 2)] := hentry
    rcases List.mem_pair.mp hlistening with rfl | rfl <;> exact ⟨_, rfl⟩
  obtain ⟨projection, hprojection⟩ := hsuccess
  refine ⟨⟨projection, hprojection⟩, hruns.page_order projection hprojection, fun hok => ?_⟩
  have hlistening : (orderCount "*" 1, 2) ∈
      listening twoOrders [orderCount "order" 2, orderCount "stock" 2, orderCount "*" 1] :=
    List.mem_cons_of_mem _ List.mem_cons_self
  obtain ⟨response, hresponse⟩ := hfull.succeeds_iff.mp hok _ hlistening
  cases hresponse

end AngzarrClient
