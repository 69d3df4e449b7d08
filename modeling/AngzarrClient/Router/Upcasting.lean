/-
The upcaster router (`router/upcaster.rs`): every event is driven through the
upcasters of the request's domain, one page and one handler at a time, so a
batch comes out page by page as the chain of single transforms.
-/
import AngzarrClient.Macros.Upcaster
import AngzarrClient.Router.Builder
import AngzarrClient.Router.Dispatch

namespace AngzarrClient

namespace UpcasterRouter

/-- `HandlerConfig::Upcaster { domain: d, .. } if d == &domain`. -/
def matchesDomain (domain : String) : HandlerConfig → Bool
  | .upcaster config => config.domain = domain
  | _ => false

def unwrapUpcaster : HandlerResponse → Except ClientError UpcastResponse
  | .upcaster response => .ok response
  | _ => .error .upcasterWrongResponseKind

/-- The next `current_page`: the first page of an answer, if it has one. -/
def nextPage (currentPage : EventPage) (response : UpcastResponse) : EventPage :=
  response.events.head?.getD currentPage

/-- `single`: a request with the current page alone. -/
def singleRequest (domain : String) (currentPage : EventPage) : HandlerRequest :=
  .upcaster { domain := domain, events := [currentPage] }

/-- The chain for one page: each matching handler gets the current page
alone.  A page without an event passes through. -/
def upcastPage (domain : String) (router : UpcasterRouter) (page : EventPage) :
    Run EventPage :=
  match page.payload with
  | some (.event _) =>
      dispatchEach (matchesDomain domain) (singleRequest domain) unwrapUpcaster
        nextPage page router.factories
  | _ => pure page

/-- The loop over the pages of the request, which pushes onto `out`. -/
def upcastPages (domain : String) (router : UpcasterRouter) (out : List EventPage) :
    List EventPage → Run (List EventPage)
  | [] => pure out
  | page :: rest => do
      let current ← upcastPage domain router page
      upcastPages domain router (out ++ [current]) rest

/-- `UpcasterRouter::dispatch`. -/
def dispatch (router : UpcasterRouter) (request : UpcastRequest) :
    Run UpcastResponse := do
  let out ← upcastPages request.domain router [] request.events
  pure { events := out }

end UpcasterRouter

open UpcasterRouter

variable {Msg : Type}

/-- The router over generated upcasters, in registration order. -/
def upcasterRouter (upcasters : List (Upcaster Msg)) : UpcasterRouter where
  factories := upcasters.map Upcaster.factory

/-- The upcasters that declare `domain`, in registration order. -/
def serving (domain : String) (upcasters : List (Upcaster Msg)) :
    List (Upcaster Msg) :=
  upcasters.filter fun upcaster => upcaster.domain.value = domain

/-- One page through a chain of upcasters: the left fold of their transforms. -/
def upcastChain (upcasters : List (Upcaster Msg)) (page : EventPage) :
    Except ClientError EventPage :=
  upcasters.foldlM (fun current upcaster => upcaster.transform current) page

section Refinement

theorem selected_matchesDomain (domain : String) (upcasters : List (Upcaster Msg)) :
    selected (matchesDomain domain) (upcasterRouter upcasters).factories =
      (serving domain upcasters).map Upcaster.handler := by
  rw [selected, upcasterRouter, List.map_map, List.filter_map]
  rfl

/-- A generated upcaster answers a single page with its transform. -/
theorem answer_singleton (upcaster : Upcaster Msg) (domain : String)
    (page : EventPage) :
    upcaster.handler.answer unwrapUpcaster (singleRequest domain page) =
      (upcaster.transform page).map fun out => ⟨[out]⟩ := by
  change (upcaster.dispatch (.upcaster ⟨domain, [page]⟩)).outcome.bind _ = _
  rw [Upcaster.outcome_dispatch, List.mapM_cons, List.mapM_nil]
  cases upcaster.transform page with
  | error error => rfl
  | ok out => rfl

/-- Calling the handlers in turn is the chain of their transforms. -/
theorem outcome_callEach_upcasters (domain : String) (upcasters : List (Upcaster Msg))
    (page : EventPage) :
    (callEach (singleRequest domain) unwrapUpcaster nextPage page
        (upcasters.map Upcaster.handler)).outcome =
      upcastChain upcasters page := by
  induction upcasters generalizing page with
  | nil => rfl
  | cons upcaster rest ih =>
      have hanswer := answer_singleton upcaster domain page
      rw [upcastChain, List.foldlM_cons, List.map_cons]
      cases htransform : upcaster.transform page with
      | error error =>
          rw [htransform] at hanswer
          rw [callEach_cons_of_error hanswer]
          rfl
      | ok out =>
          rw [htransform] at hanswer
          rw [callEach_cons_of_ok hanswer]
          exact ih out

/-- Pages without an event go through every chain unchanged. -/
theorem upcastChain_of_skips {upcasters : List (Upcaster Msg)} {page : EventPage}
    (hskips : ∀ upcaster ∈ upcasters, upcaster.Skips page) :
    upcastChain upcasters page = .ok page :=
  Pass.foldlM_fixed fun upcaster hmem =>
    Upcaster.transform_of_skips (hskips upcaster hmem)

theorem outcome_upcastPage (domain : String) (upcasters : List (Upcaster Msg))
    (page : EventPage) :
    (upcastPage domain (upcasterRouter upcasters) page).outcome =
      upcastChain (serving domain upcasters) page := by
  rw [upcastPage]
  split
  · rw [outcome_dispatchEach, selected_matchesDomain]
    exact outcome_callEach_upcasters domain _ page
  · rename_i hpayload
    rw [upcastChain_of_skips]
    · rfl
    · intro upcaster _ eventAny hevent
      exact absurd hevent (hpayload eventAny)

theorem outcome_upcastPages (domain : String) (upcasters : List (Upcaster Msg))
    (out pages : List EventPage) :
    (upcastPages domain (upcasterRouter upcasters) out pages).outcome =
      (pages.mapM (upcastChain (serving domain upcasters))).map (out ++ ·) := by
  induction pages generalizing out with
  | nil =>
      change Except.ok out = Except.ok (out ++ [])
      rw [List.append_nil]
  | cons page rest ih =>
      rw [upcastPages, Traced.outcome_bind, outcome_upcastPage, List.mapM_cons]
      cases upcastChain (serving domain upcasters) page with
      | error error => rfl
      | ok current =>
          change (upcastPages domain (upcasterRouter upcasters) (out ++ [current])
            rest).outcome = _
          rw [ih]
          cases rest.mapM (upcastChain (serving domain upcasters)) with
          | error error => rfl
          | ok others => simp [Except.map, bind, Except.bind, pure, Except.pure]

/-- The router computes the chain of every page. -/
theorem outcome_upcasterRouter_dispatch (upcasters : List (Upcaster Msg))
    (request : UpcastRequest) :
    ((upcasterRouter upcasters).dispatch request).outcome =
      (request.events.mapM (upcastChain (serving request.domain upcasters))).map
        UpcastResponse.mk := by
  rw [dispatch, Traced.outcome_bind, outcome_upcastPages]
  cases request.events.mapM (upcastChain (serving request.domain upcasters)) with
  | error error => rfl
  | ok out => rfl

/-- The router answers when the chain of every page answers. -/
theorem upcasterRouter_dispatch_eq_ok_iff {upcasters : List (Upcaster Msg)}
    {request : UpcastRequest} {response : UpcastResponse} :
    ((upcasterRouter upcasters).dispatch request).outcome = .ok response ↔
      request.events.mapM (upcastChain (serving request.domain upcasters)) =
        .ok response.events := by
  rw [outcome_upcasterRouter_dispatch]
  cases request.events.mapM (upcastChain (serving request.domain upcasters)) with
  | error error => simp [Except.map]
  | ok outs =>
      obtain ⟨events⟩ := response
      simp [Except.map]

theorem upcasterRouter_dispatch_eq_error_iff {upcasters : List (Upcaster Msg)}
    {request : UpcastRequest} {error : ClientError} :
    ((upcasterRouter upcasters).dispatch request).outcome = .error error ↔
      request.events.mapM (upcastChain (serving request.domain upcasters)) =
        .error error := by
  rw [outcome_upcasterRouter_dispatch]
  cases request.events.mapM (upcastChain (serving request.domain upcasters)) with
  | error other => simp [Except.map]
  | ok outs => simp [Except.map]

/-- A chain of one upcaster is its transform. -/
theorem upcastChain_singleton (upcaster : Upcaster Msg) (page : EventPage) :
    upcastChain [upcaster] page = upcaster.transform page := by
  rw [upcastChain, List.foldlM_cons]
  cases upcaster.transform page with
  | error error => rfl
  | ok out => rfl

end Refinement

/-- Everything on the page but the payload is the same. -/
def SameEnvelope (page out : EventPage) : Prop :=
  out.header = page.header ∧ out.createdAt = page.createdAt ∧
    out.noCommit = page.noCommit ∧ out.cascadeId = page.cascadeId

theorem sameEnvelope_of_upcastChain {upcasters : List (Upcaster Msg)}
    {page out : EventPage} (hchain : upcastChain upcasters page = .ok out) :
    SameEnvelope page out := by
  have hpage : SameEnvelope page page := ⟨rfl, rfl, rfl, rfl⟩
  apply Pass.foldlM_keeps _ hpage hchain
  intro upcaster _ current next hcurrent htransform
  rcases Upcaster.of_transform_eq_ok htransform with ⟨-, rfl⟩ | ⟨_, -, rfl⟩
  · exact hcurrent
  · exact hcurrent

/-- An undecodable event ends the chain of its page. -/
theorem upcastChain_eq_error_iff {upcasters : List (Upcaster Msg)} {page : EventPage}
    {error : ClientError} :
    upcastChain upcasters page = .error error ↔
      ∃ front upcaster back current, upcasters = front ++ upcaster :: back ∧
        upcastChain front page = .ok current ∧ upcaster.FailsOn current error := by
  rw [upcastChain, Pass.foldlM_eq_error_iff]
  simp only [Upcaster.transform_eq_error_iff, upcastChain]

/-- `dispatch` takes the pages of a request, one by one, through the upcasters
that declare the request's domain. -/
structure UpcastsPageByPage (upcasters : List (Upcaster Msg))
    (dispatch : UpcastRequest → Except ClientError UpcastResponse) : Prop where
  /-- One page comes out for each page that goes in, in order. -/
  ok_iff (request : UpcastRequest) (response : UpcastResponse) :
    dispatch request = .ok response ↔
      List.Forall₂ (fun page out =>
          upcastChain (serving request.domain upcasters) page = .ok out)
        request.events response.events
  /-- The only failure: the first event that a chain brings to an upcaster with
  a transform for its type, and that does not decode there. -/
  error_iff (request : UpcastRequest) (error : ClientError) :
    dispatch request = .error error ↔
      ∃ before page after, request.events = before ++ page :: after ∧
        (∃ outs, dispatch { request with events := before } = .ok outs) ∧
        ∃ front upcaster back current,
          serving request.domain upcasters = front ++ upcaster :: back ∧
          upcastChain front page = .ok current ∧ upcaster.FailsOn current error
  envelope_kept (request : UpcastRequest) (response : UpcastResponse) :
    dispatch request = .ok response →
      List.Forall₂ SameEnvelope request.events response.events
  /-- A page that no upcaster of the domain has a transform for is returned. -/
  unmatched_kept (request : UpcastRequest) (response : UpcastResponse) :
    dispatch request = .ok response →
      List.Forall₂ (fun page out =>
          (∀ upcaster ∈ serving request.domain upcasters, upcaster.Skips page) →
            out = page)
        request.events response.events
  other_domain (request : UpcastRequest) :
    (∀ upcaster ∈ upcasters, upcaster.domain.value ≠ request.domain) →
      dispatch request = .ok { events := request.events }
  append (domain : String) (xs ys : List EventPage) :
    dispatch ⟨domain, xs ++ ys⟩ =
      (dispatch ⟨domain, xs⟩).bind fun first =>
        (dispatch ⟨domain, ys⟩).map fun second => ⟨first.events ++ second.events⟩
  single (request : UpcastRequest) (upcaster : Upcaster Msg) :
    serving request.domain upcasters = [upcaster] →
      dispatch request = upcaster.handler.answer unwrapUpcaster (.upcaster request)

/-- The upcaster router is the page-wise fold of its handlers' transforms. -/
theorem upcasterRouter_upcasts_page_by_page (upcasters : List (Upcaster Msg)) :
    UpcastsPageByPage upcasters fun request =>
      ((upcasterRouter upcasters).dispatch request).outcome := by
  have hok : ∀ (request : UpcastRequest) (response : UpcastResponse),
      ((upcasterRouter upcasters).dispatch request).outcome = .ok response ↔
        List.Forall₂ (fun page out =>
            upcastChain (serving request.domain upcasters) page = .ok out)
          request.events response.events := by
    intro request response
    rw [upcasterRouter_dispatch_eq_ok_iff, Pass.mapM_eq_ok_iff]
  constructor
  case ok_iff => exact hok
  case error_iff =>
    intro request error
    simp only [upcasterRouter_dispatch_eq_error_iff, upcasterRouter_dispatch_eq_ok_iff,
      ← upcastChain_eq_error_iff]
    rw [Pass.mapM_eq_error_iff]
    constructor
    · rintro ⟨before, page, after, hsplit, ⟨outs, houts⟩, hpage⟩
      exact ⟨before, page, after, hsplit, ⟨⟨outs⟩, houts⟩, hpage⟩
    · rintro ⟨before, page, after, hsplit, ⟨outs, houts⟩, hpage⟩
      exact ⟨before, page, after, hsplit, ⟨outs.events, houts⟩, hpage⟩
  case envelope_kept =>
    intro request response hresponse
    exact ((hok request response).mp hresponse).imp
      fun _ _ hchain => sameEnvelope_of_upcastChain hchain
  case unmatched_kept =>
    intro request response hresponse
    apply ((hok request response).mp hresponse).imp
    intro page out hchain hskips
    rw [upcastChain_of_skips hskips] at hchain
    cases hchain
    rfl
  case other_domain =>
    intro request hother
    have hserving : serving request.domain upcasters = [] := by
      rw [serving, List.filter_eq_nil_iff]
      intro upcaster hmem
      simpa using hother upcaster hmem
    rw [upcasterRouter_dispatch_eq_ok_iff, hserving]
    apply Pass.mapM_fixed
    intro page _
    rfl
  case append =>
    intro domain xs ys
    simp only [outcome_upcasterRouter_dispatch, List.mapM_append]
    cases xs.mapM (upcastChain (serving domain upcasters)) with
    | error error => rfl
    | ok first =>
        cases ys.mapM (upcastChain (serving domain upcasters)) with
        | error error => rfl
        | ok second => rfl
  case single =>
    intro request upcaster hserving
    rw [outcome_upcasterRouter_dispatch, hserving, funext (upcastChain_singleton upcaster),
      Handler.answer]
    change _ = Except.bind (upcaster.dispatch (.upcaster request)).outcome _
    rw [Upcaster.outcome_dispatch]
    cases request.events.mapM upcaster.transform with
    | error error => rfl
    | ok outs => rfl

end AngzarrClient
