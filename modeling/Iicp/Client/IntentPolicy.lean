import Iicp.Rust.Outcome
import Iicp.Rust.Str

/-!
# Errors of the client, and which intents it serves

`IicpError` lists what the client reports, and `IicpError.display` is the text of each error. The
texts of errors that other crates report are kept as they are.

An intent is a name in the space of this protocol. Before anything is sent, `validateIntent` checks
its form and refuses what the rules list as prohibited or as high risk. A rule is a set of texts of
which an intent must contain none.
-/

namespace Iicp.Client

open Rust

/-! ### Errors -/

inductive IicpError where
  | http (detail : String)
  | endpointRefused (reason : String)
  | protocol (code message : String) (status : ℕ)
  | invalidIntent (intent : String)
  | policyRefused (code message : String)
  | timeoutTooLarge (timeoutMs : ℕ)
  | noNodes (intent : String)
  | serde (detail : String)
  | node (message : String)
  deriving DecidableEq, Repr

namespace IicpError

def display : IicpError → String
  | http detail => "network error: " ++ detail
  | endpointRefused reason => "endpoint refused: " ++ reason
  | protocol code message status =>
    "[" ++ code ++ "] " ++ message ++ " (HTTP " ++ toString status ++ ")"
  | invalidIntent intent => "SDK-03: invalid intent URN: " ++ intent
  | policyRefused code message => "[" ++ code ++ "] " ++ message
  | timeoutTooLarge timeoutMs => "SDK-04: timeout_ms must be ≤ 120000; got " ++ toString timeoutMs
  | noNodes intent => "no nodes available for intent " ++ intent
  | serde detail => "serialization error: " ++ detail
  | node message => "node error: " ++ message

/-- Whether another attempt may succeed. -/
def isTransient : IicpError → Bool
  | protocol _ _ status => [429, 502, 503, 504].contains status
  | http _ => true
  | _ => false

end IicpError

/-! ### Rules -/

inductive IntentRiskCategory where
  | prohibited
  | highRisk
  | transparencyRisk
  | minimalOrGeneral
  deriving DecidableEq, Repr

def IntentRiskCategory.debug : IntentRiskCategory → String
  | .prohibited => "Prohibited"
  | .highRisk => "HighRisk"
  | .transparencyRisk => "TransparencyRisk"
  | .minimalOrGeneral => "MinimalOrGeneral"

structure ProhibitedIntentRule where
  ruleId : String
  label : String
  fragments : List String

def prohibitedIntentRules : List ProhibitedIntentRule :=
  [⟨"eu-ai-act-social-scoring", "social scoring",
      ["social-scoring", "social_scoring", "social:scoring"]⟩,
    ⟨"eu-ai-act-criminal-risk", "individual criminal risk prediction",
      ["criminal-risk", "criminal_risk", "criminal:risk", "predict-crime"]⟩,
    ⟨"eu-ai-act-workplace-education-emotion", "workplace or education emotion recognition",
      ["emotion:workplace", "emotion:education", "workplace-monitoring", "education-monitoring",
        "worker-monitoring"]⟩,
    ⟨"eu-ai-act-protected-trait-biometric", "biometric protected-trait classification",
      ["protected-trait", "protected_trait", "biometric:protected"]⟩,
    ⟨"eu-ai-act-untargeted-face-scraping",
      "untargeted facial image scraping for recognition databases",
      ["untargeted-scraping", "untargeted_scraping", "face-scraping", "facial-scraping"]⟩,
    ⟨"eu-ai-act-realtime-remote-biometric-id", "real-time remote biometric identification",
      ["remote-biometric:realtime", "realtime-remote-biometric", "real-time-remote-biometric"]⟩,
    ⟨"eu-ai-act-nonconsensual-sexual-deepfake", "non-consensual sexual deepfake or CSAM generation",
      ["nonconsensual-sexual", "non-consensual-sexual", "child-sexual-abuse", "csam"]⟩]

def highRiskIntentRules : List ProhibitedIntentRule :=
  [⟨"eu-ai-act-employment-workforce", "employment or workforce decision",
      ["employment:hiring", "employment:screen", "employment:rank", "recruitment:decision",
        "workforce:decision", "worker-management", "worker:performance", "worker:discipline"]⟩,
    ⟨"eu-ai-act-education-admission-grading", "education admission or grading decision",
      ["education:admission", "education:grading", "education:grade", "student:admission",
        "student:assess", "exam-grading"]⟩,
    ⟨"eu-ai-act-credit-essential-services", "credit or essential-services decision",
      ["credit-scoring", "credit:score", "credit:decision", "essential-services",
        "benefits:eligibility", "public-benefit:eligibility"]⟩,
    ⟨"eu-ai-act-law-enforcement-border-justice",
      "law enforcement, border, justice or democratic-process decision",
      ["law-enforcement", "law_enforcement", "migration:decision", "asylum:decision",
        "border-control", "justice:decision", "democratic-process", "election:decision"]⟩,
    ⟨"eu-ai-act-healthcare-critical-infrastructure",
      "healthcare or critical-infrastructure safety decision",
      ["healthcare:decision", "medical:diagnosis", "medical:triage", "clinical:decision",
        "critical-infrastructure", "grid:stabilize", "hospital:surge-capacity"]⟩,
    ⟨"eu-ai-act-physical-world-control", "physical-world control",
      ["robotics:control", "robotics:fleet", "drone:control", "drone:search", "iot:actuate",
        "physical-world", "system_control"]⟩]

def transparencyFragments : List String :=
  ["chatbot", "ai-assistant", "synthetic-media", "deepfake:labelled", "content:generate-public",
    "creative:generate"]

def ProhibitedIntentRule.matches (rule : ProhibitedIntentRule) (normalized : String) : Bool :=
  rule.fragments.any (containsText normalized)

variable (intent : String)

def classifyIntent : IntentRiskCategory :=
  let normalized := toAsciiLowercase (trim intent)
  if prohibitedIntentRules.any (·.matches normalized) then .prohibited
  else if highRiskIntentRules.any (·.matches normalized) then .highRisk
  else if transparencyFragments.any (containsText normalized) then .transparencyRisk
  else .minimalOrGeneral

def policyRefusalCode : String := "IICP-POLICY-001"

def ensureIntentAllowed : Outcome IicpError Unit :=
  let category := classifyIntent intent
  let normalized := toAsciiLowercase (trim intent)
  let rule := (prohibitedIntentRules ++ highRiskIntentRules).find? (·.matches normalized)
  if category = .prohibited ∨ category = .highRisk then
    let reason := (rule.map fun rule ↦ rule.label ++ " (" ++ rule.ruleId ++ ")").getD
      "restricted intent"
    .err (.policyRefused policyRefusalCode
      ("Intent refused by IICP client policy before discovery/routing: " ++ reason ++ " [" ++
        category.debug ++ "]. Use an explicit private, documented, human-reviewed compliance path " ++
        "outside the public mesh for restricted/high-risk workflows."))
  else .ok ()

/-- The characters of an intent after its start. -/
def isIntentChar (char : Char) : Bool :=
  ('a' ≤ char && char ≤ 'z') || ('0' ≤ char && char ≤ '9') || ['_', ':', '/', '-'].contains char

def isIntent : Bool :=
  match stripStart intent "urn:iicp:intent:" with
  | some rest => rest != "" && rest.toList.all isIntentChar
  | none => false

def validateIntent : Outcome IicpError Unit := do
  Outcome.require (isIntent intent) (.invalidIntent intent)
  ensureIntentAllowed intent

lemma validateIntent_chat : validateIntent "urn:iicp:intent:llm:chat:v1" = .ok () := by
  decide +kernel

end Iicp.Client
