/-
So do the routers that go page by page, the upcasters' on the current page and the
projectors' on instances that the pages before have changed.
-/
import AngzarrClient.Router.Observed
import AngzarrClient.Router.Program
import AngzarrClient.Router.Projection
import AngzarrClient.Router.Upcasting

namespace AngzarrClient

open Traced

section Upcasts

open UpcasterRouter

variable (upcasters : List AnyUpcaster) (domain : String)

/-- An upcaster of the domain takes the current page on. -/
def AnyUpcaster.reaction (any : AnyUpcaster) : Option (EventPage → HandlerRun UpcastResponse) :=
  if any.upcaster.domain.value = domain then
    some fun current => (fun out => ⟨[out]⟩) <$> any.upcaster.upcastPage current
  else none

theorem AnyUpcaster.matchesDomain_eq_isSome (any : AnyUpcaster) :
    matchesDomain domain any.factory.handler.config = (any.reaction domain).isSome := by
  change decide (any.upcaster.domain.value = domain) = _
  rw [reaction]
  by_cases hdomain : any.upcaster.domain.value = domain
  · simp [hdomain]
  · simp [hdomain]

theorem AnyUpcaster.dispatch_of_reaction {any : AnyUpcaster}
    {run : EventPage → HandlerRun UpcastResponse} (current : EventPage)
    (hreaction : any.reaction domain = some run) :
    any.factory.handler.dispatch (singleRequest domain current) =
      .upcaster <$> run current := by
  rw [reaction, Option.ite_none_right_eq_some] at hreaction
  obtain ⟨-, hrun⟩ := hreaction
  obtain rfl := Option.some.inj hrun
  change any.upcaster.dispatch (.upcaster { domain := domain, events := [current] }) = _
  simp [Upcaster.dispatch, Upcaster.upcastPages]

/-- The upcasters of the domain that react are its upcasters. -/
theorem foldlM_reaction (page : EventPage) :
    (upcasters.filterMap (AnyUpcaster.reaction domain)).foldlM
        (fun current run => nextPage current <$> run current) page =
      (upcasters.filter fun any => any.upcaster.domain.value = domain).foldlM
        (fun current any => any.upcaster.upcastPage current) page := by
  induction upcasters generalizing page with
  | nil => rfl
  | cons any rest ih =>
      by_cases hdomain : any.upcaster.domain.value = domain
      · have hreaction : any.reaction domain =
            some fun current => (fun out => ⟨[out]⟩) <$> any.upcaster.upcastPage current :=
          if_pos hdomain
        rw [List.filterMap_cons_some hreaction, List.filter_cons_of_pos (by simpa using hdomain),
          List.foldlM_cons, List.foldlM_cons]
        simp [ih, nextPage]
      · have hreaction : any.reaction domain = none := if_neg hdomain
        rw [List.filterMap_cons_none hreaction,
          List.filter_cons_of_neg (by simpa using hdomain), ih]

/-- A page without an event comes through as it is. -/
theorem foldlM_upcastPage_of_no_event {page : EventPage}
    (hpage : ∀ event, page.payload ≠ some (.event event)) :
    upcasters.foldlM (fun current any => any.upcaster.upcastPage current) page =
      (pure page : HandlerRun EventPage) := by
  induction upcasters with
  | nil => rfl
  | cons any rest ih =>
      have hsame : any.upcaster.upcastPage page = pure page := by
        rw [Upcaster.upcastPage]
        split
        · rename_i event hevent
          exact absurd hevent (hpage event)
        · rfl
      rw [List.foldlM_cons, hsame, pure_bind, ih]

theorem methodsOf_upcastPage (page : EventPage) :
    methodsOf (upcastPage domain ⟨upcasters.map AnyUpcaster.factory⟩ page) =
      (upcasters.filter fun any => any.upcaster.domain.value = domain).foldlM
        (fun current any => any.upcaster.upcastPage current) page := by
  rw [upcastPage]
  split
  · rw [methodsOf_dispatchEach .upcaster _ (AnyUpcaster.matchesDomain_eq_isSome domain)
      (fun any run current => AnyUpcaster.dispatch_of_reaction domain current)
      (fun answer => rfl), foldlM_reaction]
  · rename_i hpage
    exact (foldlM_upcastPage_of_no_event _ hpage).symm

theorem methodsOf_upcastPages (out pages : List EventPage) :
    methodsOf (upcastPages domain ⟨upcasters.map AnyUpcaster.factory⟩ out pages) =
      (out ++ ·) <$> pages.mapM fun page =>
        (upcasters.filter fun any => any.upcaster.domain.value = domain).foldlM
          (fun current any => any.upcaster.upcastPage current) page := by
  induction pages generalizing out with
  | nil => simp [upcastPages]
  | cons page rest ih =>
      rw [upcastPages, methodsOf_bind, List.mapM_cons]
      simp only [ih, methodsOf_upcastPage]
      simp

theorem methodsOf_dispatchUpcast (request : UpcastRequest) :
    methodsOf (UpcasterRouter.dispatch ⟨upcasters.map AnyUpcaster.factory⟩ request) =
      serveUpcast upcasters request := by
  rw [UpcasterRouter.dispatch, methodsOf_bind, methodsOf_upcastPages, serveUpcast]
  simp

end Upcasts

section Projections

open ProjectorRouter

variable {α β : Type}

/-- The methods of a run over instances, with its outcome. -/
abbrev methodsOfAll (run : InstanceRun α) : HandlerRun α :=
  run.shown fun entry => entry.2.methodRun?

theorem methodsOfAll_bind (run : InstanceRun α) (f : α → InstanceRun β) :
    methodsOfAll (run >>= f) = methodsOfAll run >>= fun a => methodsOfAll (f a) :=
  shown_bind run f

@[simp] theorem methodsOfAll_onInstance (index : Nat) (run : Run α) :
    methodsOfAll (onInstance index run) = methodsOf run := by
  apply Traced.ext
  · change (run.trace.map fun event => (index, event)).filterMap _ = run.trace.filterMap _
    rw [List.filterMap_map]
    rfl
  · rfl

@[simp] theorem methodsOf_callAfter (handler : Handler) (served : List HandlerRequest)
    (request : HandlerRequest) :
    methodsOf (handler.callAfter served request) = handler.dispatchAfter served request :=
  methodsOf_call { handler with dispatch := handler.dispatchAfter served } request

/-- A projector with its place among the factories, as the router keeps it. -/
def AnyProjector.entry (indexed : AnyProjector × Nat) : Nat × Handler :=
  (indexed.2, indexed.1.factory.handler)

theorem AnyProjector.listens_eq (book : EventBook) (any : AnyProjector) :
    ProjectorRouter.listens (book.cover.map Cover.domain) any.factory.handler.config =
      any.listens book := by
  rw [AnyProjector.listens]
  cases book.cover.map Cover.domain with
  | none => rfl
  | some domain => exact List.any_map

/-- The first loop keeps the projectors that listen. -/
theorem methodsOfAll_instantiate (book : EventBook) (projectors : List AnyProjector)
    (matched : List (Nat × Handler)) (index : Nat) :
    methodsOfAll (instantiate (book.cover.map Cover.domain) matched index
        (projectors.map AnyProjector.factory)) =
      pure (matched ++ ((projectors.zipIdx index).filter fun indexed =>
        indexed.1.listens book).map AnyProjector.entry) := by
  induction projectors generalizing matched index with
  | nil => simp [instantiate]
  | cons any rest ih =>
      have hproduce : methodsOf any.factory.produce = pure any.factory.handler := rfl
      rw [List.map_cons, instantiate, methodsOfAll_bind, methodsOfAll_onInstance, hproduce,
        pure_bind, AnyProjector.listens_eq, List.zipIdx_cons]
      by_cases hlistens : any.listens book = true
      · rw [if_pos hlistens, ih, List.filter_cons_of_pos (by simpa using hlistens),
          List.map_cons, List.append_assoc]
        rfl
      · rw [if_neg hlistens, ih, List.filter_cons_of_neg (by simpa using hlistens)]

/-- A page book moves an instance as its page does. -/
theorem serve_pageRequest {I Msg : Type} (projector : Projector I Msg) (self : I)
    (book : EventBook) (page : EventPage) :
    projector.serve self (pageRequest book page) =
      (fun changed => (.projector (projector.skeleton { book with pages := [page] }),
        changed)) <$> projector.projectPage self page := by
  simp [Projector.serve, pageRequest, Projector.projectPages]

theorem instanceAfter_pageRequests {I Msg : Type} (projector : Projector I Msg)
    (book : EventBook) (served : List EventPage) :
    projector.instanceAfter (served.map (pageRequest book)) =
      served.foldlM (fun self page => (projector.projectPage self page).outcome)
        projector.fresh := by
  rw [Projector.instanceAfter, List.foldlM_map]
  congr 1
  funext self page
  rw [serve_pageRequest, outcome_map]
  cases (projector.projectPage self page).outcome with
  | error error => rfl
  | ok changed => rfl

theorem methodsOfAll_callInstance (book : EventBook) (served : List EventPage)
    (page : EventPage) (indexed : AnyProjector × Nat) :
    methodsOfAll (callInstance (served.map (pageRequest book)) (pageRequest book page)
        (AnyProjector.entry indexed)) = indexed.1.project served page := by
  rw [callInstance, methodsOfAll_bind, methodsOfAll_onInstance, methodsOf_callAfter]
  change indexed.1.projector.dispatchAfter _ _ >>= _ = _
  rw [Projector.dispatchAfter, instanceAfter_pageRequests, AnyProjector.project]
  cases served.foldlM (fun self page => (indexed.1.projector.projectPage self page).outcome)
      indexed.1.projector.fresh with
  | error error => rfl
  | ok self =>
      dsimp only
      rw [serve_pageRequest]
      simp [unwrapProjector]

theorem methodsOfAll_projectPage (book : EventBook) (served : List EventPage)
    (page : EventPage) (matched : List (AnyProjector × Nat)) :
    methodsOfAll (projectPage (served.map (pageRequest book)) (pageRequest book page)
        (matched.map AnyProjector.entry)) =
      (matched.map Prod.fst).forM (AnyProjector.project served page) := by
  induction matched with
  | nil => rfl
  | cons indexed rest ih =>
      rw [List.map_cons, projectPage, methodsOfAll_bind, methodsOfAll_callInstance]
      simp [ih]

theorem methodsOfAll_projectPages (book : EventBook) (served pages : List EventPage)
    (matched : List (AnyProjector × Nat)) :
    methodsOfAll (projectPages book (matched.map AnyProjector.entry)
        (served.map (pageRequest book)) pages) =
      projectEach (matched.map Prod.fst) served pages := by
  induction pages generalizing served with
  | nil => rfl
  | cons page rest ih =>
      have hserved : served.map (pageRequest book) ++ [pageRequest book page] =
          (served ++ [page]).map (pageRequest book) := by
        rw [List.map_append, List.map_singleton]
      rw [projectPages, methodsOfAll_bind, methodsOfAll_projectPage, hserved, projectEach]
      simp only [ih]

theorem methodsOfAll_dispatch (projectors : List AnyProjector) (book : EventBook) :
    methodsOfAll (ProjectorRouter.dispatch ⟨projectors.map AnyProjector.factory⟩ book) =
      serveProjection projectors book := by
  have hlistening : ((projectors.zipIdx 0).filter fun indexed =>
      indexed.1.listens book).map Prod.fst =
        projectors.filter (AnyProjector.listens book) := by
    rw [← Function.comp_def (AnyProjector.listens book) Prod.fst, ← List.filter_map,
      List.zipIdx_map_fst]
  rw [ProjectorRouter.dispatch, methodsOfAll_bind, methodsOfAll_instantiate, pure_bind,
    List.nil_append, methodsOfAll_bind]
  have hpages := methodsOfAll_projectPages book [] book.pages
    ((projectors.zipIdx 0).filter fun indexed => indexed.1.listens book)
  rw [List.map_nil] at hpages
  rw [hpages, hlistening]
  rfl

end Projections

end AngzarrClient
