import Iicp.Proxy.RunTask

/-!
# Prompts of the proxy

Four routes turn the body of a request into a task. The messages of the task are those of the body,
or one message with the prompt of a generate request. A system text beside them is not forwarded. So
bodies with different instructions lead to different messages exactly if they do not differ in the
system text alone, and not only in how missing messages or a missing prompt are written
(`prompt_forwarded_iff`).
-/

namespace Iicp.Proxy

open Rust

inductive Route where
  | openaiChat
  | ollamaChat
  | ollamaGenerate
  | anthropicMessages

variable (body : Json)

def modelOf : String := ((body.get "model").bind Json.asStr).getD "iicp"

def messagesOf : Json := (body.get "messages").getD (.array [])

variable (route : Route)

/-- The messages that the handler of a route passes on. -/
def Route.messages : Json :=
  match route with
  | .ollamaGenerate =>
    .array [.object [("content", .string (((body.get "prompt").bind Json.asStr).getD "")),
      ("role", .string "user")]]
  | _ => messagesOf body

/-- The fields of the task that is submitted, with the envelope of a plan. -/
def Route.submitted (plan : CipDispatchPlan) : List (String × Json) :=
  applyPlan plan (taskPayload (route.messages body) (modelOf body) body)

/-- The instructions that a body holds for a route. -/
def Route.instructions : List (Option Json) :=
  match route with
  | .ollamaGenerate => [body.get "system", body.get "prompt"]
  | .anthropicMessages => [body.get "system", body.get "messages"]
  | _ => [body.get "messages"]

/-- The field of a body that a route forwards. -/
def Route.field : String :=
  match route with
  | .ollamaGenerate => "prompt"
  | _ => "messages"

/-- A body for the route may have a system text besides. -/
def Route.takesSystem : Bool :=
  match route with
  | .ollamaGenerate | .anthropicMessages => true
  | _ => false

/-- A field without messages, or without a text of a prompt. -/
def Route.Blank (field : Option Json) : Prop :=
  match route with
  | .ollamaGenerate => ∀ text, field = some (.string text) → text = ""
  | _ => field = none ∨ field = some (.array [])

/-- The fields that the payload takes over as they are. -/
def extras : List (Option Json) :=
  ["temperature", "max_tokens", "cip", "billing", "qos"].map body.get

/-- Two bodies with different instructions lead to different messages, and two with the same
instructions, model and extra fields to the same task. -/
structure Forwarded (first second : Json) : Prop where
  messages : route.instructions first ≠ route.instructions second → ∀ plan other,
    Json.getField (route.submitted first plan) "messages" ≠
      Json.getField (route.submitted second other) "messages"
  same : route.instructions first = route.instructions second → modelOf first = modelOf second →
    extras first = extras second → ∀ plan, route.submitted first plan = route.submitted second plan

/-- The task has the messages of the route, whatever the plan. -/
lemma messages_submitted (plan : CipDispatchPlan) :
    Json.getField (route.submitted body plan) "messages" = some (route.messages body) := by
  have hpayload : Json.getField (taskPayload (route.messages body) (modelOf body) body) "messages" =
      some (route.messages body) := by
    unfold taskPayload
    refine List.foldlRecOn (motive := fun fields ↦ Json.getField fields "messages" = _) _ _ rfl
      fun fields hfields key hkey ↦ ?_
    split
    · rw [Json.getField_insertField, if_neg, hfields]
      rintro rfl
      exact absurd hkey (by decide)
    · exact hfields
  unfold Route.submitted applyPlan
  split
  · rw [Json.getField_insertField, if_neg (by decide), hpayload]
  · exact hpayload

lemma submitted_eq {route : Route} {first second : Json}
    (hmessages : route.messages first = route.messages second)
    (hmodel : modelOf first = modelOf second) (hextras : extras first = extras second)
    (plan : CipDispatchPlan) : route.submitted first plan = route.submitted second plan := by
  simp only [extras, List.map_cons, List.map_nil, List.cons.injEq, and_true] at hextras
  obtain ⟨htemperature, htokens, hcip, hbilling, hqos⟩ := hextras
  simp only [Route.submitted, taskPayload, List.foldl_cons, List.foldl_nil, hmessages, hmodel,
    htemperature, htokens, hcip, hbilling, hqos]

lemma instructions_eq_iff {first second : Json} :
    route.instructions first = route.instructions second ↔
      first.get route.field = second.get route.field ∧
        (route.takesSystem → first.get "system" = second.get "system") := by
  cases route <;> simp [Route.instructions, Route.field, Route.takesSystem, and_comm]

/-- Two bodies have the same messages if the field that is forwarded is the same or blank. -/
lemma messages_eq_iff {first second : Json} :
    route.messages first = route.messages second ↔
      first.get route.field = second.get route.field ∨
        route.Blank (first.get route.field) ∧ route.Blank (second.get route.field) := by
  have hlists : ∀ left right : Option Json, left.getD (.array []) = right.getD (.array []) ↔
      left = right ∨ (left = none ∨ left = some (.array [])) ∧
        (right = none ∨ right = some (.array [])) := by
    intro left right
    cases left <;> cases right <;> simp <;> grind
  have htexts : ∀ left right : Option Json,
      (left.bind Json.asStr).getD "" = (right.bind Json.asStr).getD "" ↔
        left = right ∨ (∀ text, left = some (.string text) → text = "") ∧
          ∀ text, right = some (.string text) → text = "" := by
    intro left right
    rcases left with _ | ⟨⟩ <;> rcases right with _ | ⟨⟩ <;> simp [Json.asStr] <;> grind
  cases route with
  | ollamaGenerate => simpa [Route.messages, Route.field, Route.Blank] using htexts _ _
  | _ => exact hlists _ _

/-- Two bodies are forwarded faithfully exactly if they do not have the same messages, or the same
prompt, and different system texts, and if missing messages, or a missing prompt, are not written
in two ways. -/
theorem prompt_forwarded_iff (route : Route) (first second : Json) :
    Forwarded route first second ↔
      (first.get route.field = second.get route.field → route.takesSystem →
          first.get "system" = second.get "system") ∧
        (route.Blank (first.get route.field) → route.Blank (second.get route.field) →
          first.get route.field = second.get route.field) := by
  have hforwarded : Forwarded route first second ↔
      (route.messages first = route.messages second →
        route.instructions first = route.instructions second) := by
    constructor
    · intro h hmessages
      by_contra hdiffer
      refine h.messages hdiffer .localPlan .localPlan ?_
      rw [messages_submitted, messages_submitted, hmessages]
    · intro h
      refine ⟨fun hdiffer plan other hsame ↦ hdiffer (h ?_), fun hinstructions ↦
        submitted_eq ((messages_eq_iff route).mpr
          (.inl ((instructions_eq_iff route).mp hinstructions).1))⟩
      rw [messages_submitted, messages_submitted] at hsame
      exact Option.some.inj hsame
  rw [hforwarded, messages_eq_iff, instructions_eq_iff]
  tauto

def systemBody (text : String) : Json :=
  .object [("messages", .array []), ("system", .string text)]

/-- Two system texts lead to the same task. -/
theorem system_not_forwarded :
    (systemBody "Answer in English.").get "system" ≠ (systemBody "Answer in German.").get "system" ∧
      (∀ plan, Route.submitted (systemBody "Answer in English.") .anthropicMessages plan =
        Route.submitted (systemBody "Answer in German.") .anthropicMessages plan) ∧
      ¬ Forwarded .anthropicMessages (systemBody "Answer in English.")
        (systemBody "Answer in German.") := by
  have hsame : ∀ plan, Route.submitted (systemBody "Answer in English.") .anthropicMessages plan =
      Route.submitted (systemBody "Answer in German.") .anthropicMessages plan := fun _ ↦ rfl
  refine ⟨by decide +kernel, hsame, fun h ↦ ?_⟩
  refine h.messages (by decide +kernel) .localPlan .localPlan ?_
  rw [hsame]

end Iicp.Proxy
