/-
The handler that `#[projector(name, domains)]` generates (`expand_projector`).
Its methods work by side effects on the instance, so one instance is carried
through all pages it sees.
-/
import AngzarrClient.Macros.Arms

namespace AngzarrClient

/-- An impl block under `#[projector(name, domains)]`.  `I` holds the fields of
an instance, which a method may change through `&self`; a method that fails
ends the run, so nothing sees the instance after it.  `fresh` is the value the
factory constructs. -/
structure Projector (I Msg : Type) where
  name : NonEmptyString
  domains : List NonEmptyString
  domains_ne_nil : domains ≠ []
  fresh : I
  handles : List (TypedArm Msg I I) := []

namespace Projector

variable {I Msg : Type} (projector : Projector I Msg)

/-- The generated `config`. -/
def config : ProjectorConfig where
  name := projector.name.value
  domains := projector.domains.map NonEmptyString.value
  handled := armUrls projector.handles

/-- One turn of the generated page loop, on the instance `self`. -/
def projectPage (self : I) (page : EventPage) : HandlerRun I :=
  match page.payload with
  | some (.event eventAny) => do
      let changed ← runArms .handles self eventAny projector.handles
      pure (changed.getD self)
  | _ => pure self

/-- The generated page loop. -/
def projectPages (self : I) : List EventPage → HandlerRun I
  | [] => pure self
  | page :: rest => do
      let changed ← projector.projectPage self page
      projectPages changed rest

/-- The skeleton `Projection` of the generated `dispatch`. -/
def skeleton (book : EventBook) : Projection where
  cover := book.cover
  projector := projector.name.value
  sequence := book.nextSequence

/-- The generated `dispatch` on the instance `self`, with the instance it
leaves behind. -/
def serve (self : I) : HandlerRequest → HandlerRun (HandlerResponse × I)
  | .projector book => do
      let changed ← projector.projectPages self book.pages
      pure (.projector (projector.skeleton book), changed)
  | _ => .fail (.wrongRequestKind "Projector")

/-- The instance after it has served `served`. -/
def instanceAfter (served : List HandlerRequest) : Except ClientError I :=
  served.foldlM (fun self request => (projector.serve self request).outcome.map Prod.snd)
    projector.fresh

/-- The generated `dispatch`, on an instance that has served `served`.  The
router never calls an instance again after an error. -/
def dispatchAfter (served : List HandlerRequest) (request : HandlerRequest) :
    HandlerRun HandlerResponse :=
  match projector.instanceAfter served with
  | .error error => .fail error
  | .ok self => Prod.fst <$> projector.serve self request

/-- The generated `dispatch`, on a fresh instance. -/
def dispatch (request : HandlerRequest) : HandlerRun HandlerResponse :=
  Prod.fst <$> projector.serve projector.fresh request

/-- The generated `impl Handler`. -/
def handler : Handler where
  config := .projector projector.config
  dispatch := projector.dispatch
  dispatchAfter := projector.dispatchAfter

/-- `with_handler(|| projector)`. -/
def factory : Factory where
  kind := .projector
  handler := projector.handler

/-- The method runs a page leads to: of the first arm for the event's type. -/
def delivered (page : EventPage) : List MethodRun :=
  match page.payload with
  | some (.event eventAny) =>
      match firstArm eventAny.typeUrl projector.handles with
      | some arm => [⟨arm.method, .handles eventAny.typeUrl, eventAny⟩]
      | none => []
  | _ => []

section Runs

/-- What one page does: it is delivered, or its event does not decode and no
method runs. -/
theorem projectPage_cases (self : I) (page : EventPage) :
    (∃ changed, projector.projectPage self page =
        ⟨projector.delivered page, .ok changed⟩) ∨
      (∃ run rejection, projector.delivered page = [run] ∧
        projector.projectPage self page =
          ⟨projector.delivered page, .error (.rejected rejection)⟩) ∨
      ∃ eventAny cause, page.payload = some (.event eventAny) ∧
        Undecodable projector.handles eventAny cause ∧
        projector.projectPage self page =
          ⟨[], .error (.anyDecodeFailed eventAny.typeUrl cause)⟩ := by
  rcases hpayload : page.payload with _ | ⟨eventAny⟩ | reference
  · exact Or.inl ⟨self, by simp only [projectPage, delivered, hpayload]; rfl⟩
  · simp only [projectPage, delivered, hpayload, runArms_eq]
    cases hfirst : firstArm eventAny.typeUrl projector.handles with
    | none => exact Or.inl ⟨self, rfl⟩
    | some arm =>
        dsimp only
        cases hdecode : arm.messageType.decode eventAny.value with
        | error cause =>
            rw [TypedArm.execute_of_undecodable hdecode]
            exact Or.inr (Or.inr ⟨eventAny, cause, rfl, ⟨arm, hfirst, hdecode⟩, rfl⟩)
        | ok message =>
            rw [TypedArm.execute_of_decode hdecode]
            cases arm.run message self with
            | ok changed => exact Or.inl ⟨changed, rfl⟩
            | error rejection =>
                exact Or.inr (Or.inl ⟨_, rejection, rfl, rfl⟩)
  · exact Or.inl ⟨self, by simp only [projectPage, delivered, hpayload]; rfl⟩

/-- A run over pages that succeeds delivers every page. -/
theorem trace_projectPages {projector : Projector I Msg} {self changed : I}
    {pages : List EventPage}
    (hpages : (projector.projectPages self pages).outcome = .ok changed) :
    (projector.projectPages self pages).trace = pages.flatMap projector.delivered := by
  induction pages generalizing self with
  | nil => rfl
  | cons page rest ih =>
      rw [projectPages] at hpages ⊢
      rw [List.flatMap_cons]
      rcases projector.projectPage_cases self page with
        ⟨next, hpage⟩ | ⟨_, _, _, hpage⟩ | ⟨_, _, _, _, hpage⟩
      · rw [hpage] at hpages ⊢
        rw [Traced.bind_of_ok rfl] at hpages ⊢
        dsimp only
        rw [ih hpages]
      · rw [hpage, Traced.bind_of_error rfl] at hpages
        cases hpages
      · rw [hpage, Traced.bind_of_error rfl] at hpages
        cases hpages

theorem outcome_projectPages_append (self : I) (before after : List EventPage) :
    (projector.projectPages self (before ++ after)).outcome =
      (projector.projectPages self before).outcome.bind fun changed =>
        (projector.projectPages changed after).outcome := by
  induction before generalizing self with
  | nil => rfl
  | cons page rest ih =>
      rw [List.cons_append, projectPages, projectPages, Traced.outcome_bind,
        Traced.outcome_bind]
      cases (projector.projectPage self page).outcome with
      | error error => rfl
      | ok changed => exact ih changed

theorem outcome_projectPages_singleton (self : I) (page : EventPage) :
    (projector.projectPages self [page]).outcome =
      (projector.projectPage self page).outcome := by
  rw [projectPages, Traced.outcome_bind]
  cases (projector.projectPage self page).outcome with
  | error error => rfl
  | ok changed => rfl

/-- A dispatch on a book whose pages all go through answers with the skeleton. -/
theorem dispatch_of_projectPages {book : EventBook} {self : I}
    (hpages : (projector.projectPages projector.fresh book.pages).outcome = .ok self) :
    (projector.dispatch (.projector book)).outcome =
      .ok (.projector (projector.skeleton book)) := by
  rw [dispatch, serve, Traced.outcome_map, Traced.outcome_bind, hpages]
  rfl

end Runs

end Projector

end AngzarrClient
