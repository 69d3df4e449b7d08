/-
When one left-to-right pass of upcasters is complete.  If no upcaster produces
a type that it or an earlier one would transform, nothing that comes out of a
chain can be transformed any further.
-/
import AngzarrClient.Router.Upcasting

namespace AngzarrClient

open UpcasterRouter

variable {Msg : Type}

/-- No type an upcaster produces is a `from` type of that upcaster or of one
registered before it. -/
def RunsForward (upcasters : List (Upcaster Msg)) : Prop :=
  (∀ upcaster ∈ upcasters, ∀ url ∈ upcaster.toUrls, url ∉ upcaster.fromUrls) ∧
    upcasters.Pairwise fun earlier later =>
      ∀ url ∈ later.toUrls, url ∉ earlier.fromUrls

/-- What a transform leaves or puts on a page is skipped from then on by an
upcaster whose types it does not produce. -/
theorem Upcaster.skips_of_transform {upcaster other : Upcaster Msg}
    {page out : EventPage}
    (hdisjoint : ∀ url ∈ upcaster.toUrls, url ∉ other.fromUrls)
    (hpage : upcaster.Skips page → other.Skips page)
    (htransform : upcaster.transform page = .ok out) : other.Skips out := by
  rcases of_transform_eq_ok htransform with ⟨hskips, rfl⟩ | ⟨produced, hproduced, rfl⟩
  · exact hpage hskips
  · intro eventAny hevent
    cases hevent
    exact hdisjoint _ hproduced

/-- A chain that runs forward leaves no event that one of its upcasters would
transform. -/
theorem skips_of_upcastChain {upcasters : List (Upcaster Msg)} {page out : EventPage}
    (hforward : RunsForward upcasters) (hchain : upcastChain upcasters page = .ok out) :
    ∀ upcaster ∈ upcasters, upcaster.Skips out := by
  have hown : ∀ upcaster ∈ upcasters, ∀ current next,
      upcaster.transform current = .ok next → upcaster.Skips next := by
    intro upcaster hmem current next htransform
    exact Upcaster.skips_of_transform (hforward.1 upcaster hmem) id htransform
  have hlater : upcasters.Pairwise fun earlier later => ∀ current next,
      earlier.Skips current → later.transform current = .ok next →
        earlier.Skips next := by
    apply hforward.2.imp
    intro earlier later hdisjoint current next hearlier htransform
    exact Upcaster.skips_of_transform hdisjoint (fun _ => hearlier) htransform
  exact Pass.foldlM_settles hown hlater hchain

theorem serving_eq_self {domain : String} {upcasters : List (Upcaster Msg)}
    (hdomain : ∀ upcaster ∈ upcasters, upcaster.domain.value = domain) :
    serving domain upcasters = upcasters := by
  rw [serving, List.filter_eq_self]
  intro upcaster hmem
  simpa using hdomain upcaster hmem

/-- The upcast chain of one domain runs to the end: no event of a response has
a `from` type of a registered upcaster, and the response is a fixed point. -/
theorem upcast_chain_runs_to_end {upcasters : List (Upcaster Msg)}
    (hforward : RunsForward upcasters) {domain : String}
    (hdomain : ∀ upcaster ∈ upcasters, upcaster.domain.value = domain)
    {events : List EventPage} {response : UpcastResponse}
    (hresponse : ((upcasterRouter upcasters).dispatch ⟨domain, events⟩).outcome =
      .ok response) :
    (∀ page ∈ response.events, ∀ eventAny, page.payload = some (.event eventAny) →
        ∀ upcaster ∈ upcasters, eventAny.typeUrl ∉ upcaster.fromUrls) ∧
      ((upcasterRouter upcasters).dispatch ⟨domain, response.events⟩).outcome =
        .ok response := by
  have hchains : events.mapM (upcastChain upcasters) = .ok response.events := by
    rwa [upcasterRouter_dispatch_eq_ok_iff, serving_eq_self hdomain] at hresponse
  have hskips : ∀ page ∈ response.events, ∀ upcaster ∈ upcasters,
      upcaster.Skips page := by
    intro page hmem
    obtain ⟨before, -, hchain⟩ := Pass.exists_of_mem_mapM hchains hmem
    exact skips_of_upcastChain hforward hchain
  constructor
  · intro page hmem eventAny hevent upcaster hupcaster
    exact hskips page hmem upcaster hupcaster eventAny hevent
  · rw [upcasterRouter_dispatch_eq_ok_iff, serving_eq_self hdomain]
    apply Pass.mapM_fixed
    intro page hmem
    exact upcastChain_of_skips (hskips page hmem)

namespace Sample

def flagEvent (fullName : String) : EventCodec Bool where
  toMessageType := flagType fullName
  encode flag := if flag then [8, 1] else []

/-- An upcaster of `order` from one version of an event to another. -/
def versionStep (fromName toName : String) : Upcaster Bool where
  name := named toName
  domain := named "order"
  upcasts := [{
    method := "upcast"
    fromType := flagType fromName
    toType := flagEvent toName
    upcast := id }]

def createdChain : List (Upcaster Bool) :=
  [versionStep "order.CreatedV1" "order.CreatedV2",
    versionStep "order.CreatedV2" "order.CreatedV3"]

def createdPage (fullName : String) : EventPage :=
  eventPage (typeUrlPrefix ++ fullName) [8, 1]

end Sample

open Sample in
/-- A first version comes out as the third one, which no upcaster of the chain takes
and which stays what it is. -/
theorem upcast_chain_runs_to_end_sample :
    ((upcasterRouter createdChain).dispatch
      ⟨"order", [createdPage "order.CreatedV1"]⟩).outcome =
        .ok ⟨[createdPage "order.CreatedV3"]⟩ ∧
      (∀ upcaster ∈ createdChain,
        typeUrlPrefix ++ "order.CreatedV3" ∉ upcaster.fromUrls) ∧
      ((upcasterRouter createdChain).dispatch
        ⟨"order", [createdPage "order.CreatedV3"]⟩).outcome =
          .ok ⟨[createdPage "order.CreatedV3"]⟩ := by
  have hforward : RunsForward createdChain := ⟨by decide, by decide⟩
  have hresponse : ((upcasterRouter createdChain).dispatch
      ⟨"order", [createdPage "order.CreatedV1"]⟩).outcome =
        .ok ⟨[createdPage "order.CreatedV3"]⟩ := by rfl
  have hend := upcast_chain_runs_to_end hforward (by decide) hresponse
  exact ⟨hresponse, hend.1 _ (List.mem_singleton.mpr rfl) _ rfl, hend.2⟩

open Sample in
/-- Registered the other way round, the chain stops after one step. -/
example : ((upcasterRouter createdChain.reverse).dispatch
    ⟨"order", [createdPage "order.CreatedV1"]⟩).outcome =
      .ok ⟨[createdPage "order.CreatedV2"]⟩ := by
  rfl

end AngzarrClient
