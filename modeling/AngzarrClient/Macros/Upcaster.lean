/-
The handler that `#[upcaster(name, domain)]` generates (`expand_upcaster`): a
batch of pages in, the same number of pages out, each event taken through the
first `#[upcasts(from, to)]` method declared for its type.
-/
import AngzarrClient.Convert
import AngzarrClient.Lib.Pass
import AngzarrClient.Macros.Arms

namespace AngzarrClient

/-- A message type that is also written: `encode_to_vec` does not fail. -/
structure EventCodec (Msg : Type) extends MessageType Msg where
  encode : Msg → Bytes

variable {Msg : Type}

/-- An `#[upcasts(from = .., to = ..)]` method. -/
structure UpcastArm (Msg : Type) where
  method : String
  fromType : MessageType Msg
  toType : EventCodec Msg
  upcast : Msg → Msg

namespace UpcastArm

def fromUrl (arm : UpcastArm Msg) : String := fullTypeUrl arm.fromType

def toUrl (arm : UpcastArm Msg) : String := fullTypeUrl arm.toType.toMessageType

/-- The body of a matched arm: decode the old event, transform it, and put the
new one on a page with the metadata of the old page. -/
def execute (page : EventPage) (eventAny : Any) (arm : UpcastArm Msg) :
    HandlerRun EventPage :=
  match arm.fromType.decode eventAny.value with
  | .error cause => .fail (.anyDecodeFailed eventAny.typeUrl cause)
  | .ok old => do
      Traced.emit ⟨arm.method, .upcasts arm.fromUrl arm.toUrl, eventAny⟩
      pure {
        header := page.header
        createdAt := page.createdAt
        payload := some (.event ⟨arm.toUrl, arm.toType.encode (arm.upcast old)⟩)
        noCommit := page.noCommit
        cascadeId := page.cascadeId }

end UpcastArm

/-- The arms in order; the page passes through when no type URL matches. -/
def runUpcasts (page : EventPage) (eventAny : Any) :
    List (UpcastArm Msg) → HandlerRun EventPage
  | [] => pure page
  | arm :: rest =>
      if eventAny.typeUrl = arm.fromUrl then arm.execute page eventAny
      else runUpcasts page eventAny rest

/-- An impl block under `#[upcaster(name, domain)]`. -/
structure Upcaster (Msg : Type) where
  name : NonEmptyString
  domain : NonEmptyString
  upcasts : List (UpcastArm Msg) := []

namespace Upcaster

variable (upcaster : Upcaster Msg)

/-- The generated `config`. -/
def config : UpcasterConfig where
  name := upcaster.name.value
  domain := upcaster.domain.value
  upcasts := upcaster.upcasts.map fun arm => (arm.fromUrl, arm.toUrl)

/-- One turn of the generated page loop. -/
def upcastPage (page : EventPage) : HandlerRun EventPage :=
  match page.payload with
  | some (.event eventAny) => runUpcasts page eventAny upcaster.upcasts
  | _ => pure page

/-- The generated page loop, which pushes onto `out_pages`. -/
def upcastPages (outPages : List EventPage) :
    List EventPage → HandlerRun (List EventPage)
  | [] => pure outPages
  | page :: rest => do
      let out ← upcaster.upcastPage page
      upcastPages (outPages ++ [out]) rest

/-- The generated `dispatch`. -/
def dispatch : HandlerRequest → HandlerRun HandlerResponse
  | .upcaster request => do
      let outPages ← upcaster.upcastPages [] request.events
      pure (.upcaster { events := outPages })
  | _ => .fail (.wrongRequestKind "Upcaster")

/-- The generated `impl Handler`. -/
def handler : Handler where
  config := .upcaster upcaster.config
  dispatch := upcaster.dispatch

/-- `with_handler(|| upcaster)`. -/
def factory : Factory where
  kind := .upcaster
  handler := upcaster.handler

/-- The first declared transform for a type URL. -/
def firstUpcast (typeUrl : String) : Option (UpcastArm Msg) :=
  upcaster.upcasts.find? fun arm => typeUrl = arm.fromUrl

/-- What the handler makes of one page: the first matching transform replaces
the event and nothing else; an event whose bytes do not decode is an error. -/
def transform (page : EventPage) : Except ClientError EventPage :=
  match page.payload with
  | some (.event eventAny) =>
      match upcaster.firstUpcast eventAny.typeUrl with
      | none => .ok page
      | some arm =>
          match arm.fromType.decode eventAny.value with
          | .error cause => .error (.anyDecodeFailed eventAny.typeUrl cause)
          | .ok old => .ok { page with
              payload := some (.event ⟨arm.toUrl, arm.toType.encode (arm.upcast old)⟩) }
  | _ => .ok page

/-- The type URLs the handler transforms, and those it produces. -/
def fromUrls : List String := upcaster.upcasts.map UpcastArm.fromUrl

def toUrls : List String := upcaster.upcasts.map UpcastArm.toUrl

section Transform

variable {upcaster} {page out : EventPage} {eventAny : Any}

theorem firstUpcast_eq_none_iff {typeUrl : String} :
    upcaster.firstUpcast typeUrl = none ↔ typeUrl ∉ upcaster.fromUrls := by
  rw [firstUpcast, List.find?_eq_none, fromUrls, List.mem_map]
  constructor
  · rintro hnone ⟨arm, harm, rfl⟩
    simpa using hnone arm harm
  · intro hnone arm harm
    simp only [decide_eq_true_eq]
    rintro rfl
    exact hnone ⟨arm, harm, rfl⟩

theorem of_firstUpcast_eq_some {typeUrl : String} {arm : UpcastArm Msg}
    (hfirst : upcaster.firstUpcast typeUrl = some arm) :
    arm ∈ upcaster.upcasts ∧ typeUrl = arm.fromUrl := by
  rw [firstUpcast] at hfirst
  exact ⟨List.mem_of_find?_eq_some hfirst, by simpa using List.find?_some hfirst⟩

theorem runUpcasts_eq (page : EventPage) (eventAny : Any) (arms : List (UpcastArm Msg)) :
    runUpcasts page eventAny arms =
      match arms.find? fun arm => eventAny.typeUrl = arm.fromUrl with
      | none => pure page
      | some arm => arm.execute page eventAny := by
  induction arms with
  | nil => rfl
  | cons arm rest ih =>
      rw [runUpcasts]
      by_cases hurl : eventAny.typeUrl = arm.fromUrl
      · rw [if_pos hurl, List.find?_cons_of_pos (by simpa using hurl)]
      · rw [if_neg hurl, List.find?_cons_of_neg (by simpa using hurl), ih]

theorem outcome_upcastPage (page : EventPage) :
    (upcaster.upcastPage page).outcome = upcaster.transform page := by
  rcases hpayload : page.payload with _ | ⟨eventAny⟩ | reference
  · simp only [upcastPage, transform, hpayload, Traced.outcome_pure]
  · simp only [upcastPage, transform, hpayload, runUpcasts_eq]
    rw [← firstUpcast]
    cases upcaster.firstUpcast eventAny.typeUrl with
    | none => rfl
    | some arm =>
        dsimp only [UpcastArm.execute]
        cases arm.fromType.decode eventAny.value with
        | error cause => rfl
        | ok old => rfl
  · simp only [upcastPage, transform, hpayload, Traced.outcome_pure]

/-- The page loop transforms every page of the batch. -/
theorem outcome_upcastPages (outPages pages : List EventPage) :
    (upcaster.upcastPages outPages pages).outcome =
      (pages.mapM upcaster.transform).map (outPages ++ ·) := by
  induction pages generalizing outPages with
  | nil =>
      change Except.ok outPages = Except.ok (outPages ++ [])
      rw [List.append_nil]
  | cons page rest ih =>
      rw [upcastPages, Traced.outcome_bind, outcome_upcastPage, List.mapM_cons]
      cases upcaster.transform page with
      | error error => rfl
      | ok out =>
          change (upcaster.upcastPages (outPages ++ [out]) rest).outcome = _
          rw [ih]
          cases rest.mapM upcaster.transform with
          | error error => rfl
          | ok outs => simp [Except.map, bind, Except.bind, pure, Except.pure]

theorem outcome_dispatch (request : UpcastRequest) :
    (upcaster.dispatch (.upcaster request)).outcome =
      (request.events.mapM upcaster.transform).map fun pages => .upcaster ⟨pages⟩ := by
  rw [dispatch, Traced.outcome_bind, outcome_upcastPages]
  cases request.events.mapM upcaster.transform with
  | error error => rfl
  | ok pages => rfl

/-- A page without an event, or whose event no arm is declared for. -/
def Skips (upcaster : Upcaster Msg) (page : EventPage) : Prop :=
  ∀ eventAny, page.payload = some (.event eventAny) →
    eventAny.typeUrl ∉ upcaster.fromUrls

theorem transform_of_skips (hskips : upcaster.Skips page) :
    upcaster.transform page = .ok page := by
  rw [transform]
  split
  · rename_i eventAny hpayload
    rw [firstUpcast_eq_none_iff.mpr (hskips eventAny hpayload)]
  · rfl

/-- The payload is an event the handler has a transform for, and its bytes do
not decode. -/
def FailsOn (upcaster : Upcaster Msg) (page : EventPage) (error : ClientError) :
    Prop :=
  ∃ eventAny arm cause, page.payload = some (.event eventAny) ∧
    upcaster.firstUpcast eventAny.typeUrl = some arm ∧
    arm.fromType.decode eventAny.value = .error cause ∧
    error = .anyDecodeFailed eventAny.typeUrl cause

theorem transform_eq_error_iff {error : ClientError} :
    upcaster.transform page = .error error ↔ upcaster.FailsOn page error := by
  constructor
  · intro htransform
    rw [transform] at htransform
    split at htransform
    · rename_i eventAny hpayload
      split at htransform
      · cases htransform
      · rename_i arm harm
        split at htransform
        · rename_i cause hdecode
          cases htransform
          exact ⟨eventAny, arm, cause, hpayload, harm, hdecode, rfl⟩
        · cases htransform
    · cases htransform
  · rintro ⟨eventAny, arm, cause, hpayload, harm, hdecode, rfl⟩
    simp only [transform, hpayload, harm, hdecode]

/-- A transformed page either is the page itself, which the handler skips, or
carries an event of a type the handler produces; its other fields stay. -/
theorem of_transform_eq_ok (htransform : upcaster.transform page = .ok out) :
    (upcaster.Skips page ∧ out = page) ∨
      ∃ eventAny, eventAny.typeUrl ∈ upcaster.toUrls ∧
        out = { page with payload := some (.event eventAny) } := by
  rw [transform] at htransform
  split at htransform
  · rename_i eventAny hpayload
    split at htransform
    · rename_i hnone
      cases htransform
      refine Or.inl ⟨?_, rfl⟩
      intro other hother
      rw [hpayload, Option.some.injEq, EventPayload.event.injEq] at hother
      exact hother ▸ firstUpcast_eq_none_iff.mp hnone
    · rename_i arm harm
      split at htransform
      · cases htransform
      · rename_i old hdecode
        cases htransform
        refine Or.inr ⟨_, ?_, rfl⟩
        exact List.mem_map_of_mem (of_firstUpcast_eq_some harm).1
  · rename_i hpayload
    cases htransform
    exact Or.inl ⟨fun eventAny hevent => absurd hevent (hpayload eventAny), rfl⟩

end Transform

end Upcaster

end AngzarrClient
