import Mathlib.Tactic

/-!
# Resolving the runtime configuration

A configuration is resolved from four sources: the command line, the environment, a file, and the
preset of an operating mode. `RuntimeConfigV1.resolve` first selects the operating mode, takes the
file if it has that mode and the preset of the mode otherwise, and then lays the environment and the
command line over it with `RuntimeConfigV1.apply`. The two overlays are `ConfigOverrides`. An
overlay that still carries a mode starts again from the preset of that mode.

`Precedence` says what the order of the four sources means. The mode of the environment is taken out
of its overlay only if the command line has none, so with a mode on both sides the environment
resets what was selected. `resolve_precedence_iff` says exactly when this leaves no trace.
-/

namespace Iicp.Config

/-! ### The configuration -/

inductive OperatingMode where
  | publicMode
  | privateMode
  | federatedPrivate
  | localOnly
  | custom
  deriving DecidableEq, Repr

inductive DirectorySource where
  | publicDirectory
  | remote
  | localDirectory
  | static
  deriving DecidableEq, Repr

structure DirectoryConfig where
  source : DirectorySource
  (url authorityId : Option String)
  localDiscoveryEnabled : Bool
  deriving DecidableEq, Repr

inductive SecretRef where
  | environment (name : String)
  | file (path : String)
  | macosKeychain (service account : String)
  | windowsCredential (target : String)
  | linuxSecretService (collection label : String)
  | external (provider reference : String)
  deriving DecidableEq, Repr

structure MembershipConfig where
  (required requireAuthenticatedClients requireAuthenticatedNodes rejectUnknownPeers : Bool)
  credential : Option SecretRef
  revocationSource : Option String
  deriving DecidableEq, Repr

structure MeshConfig where
  enabled : Bool
  requireAuthenticatedGossip : Bool
  deriving DecidableEq, Repr

structure ExecutionConfig where
  (allowLocal allowExternalProviders allowPublicIicp : Bool)
  deriving DecidableEq, Repr

structure CipConfig where
  enabled : Bool
  requireSameTrustDomain : Bool
  deriving DecidableEq, Repr

structure FederationConfig where
  enabled : Bool
  trustedDomains : List String
  deriving DecidableEq, Repr

structure NetworkPolicy where
  (allowPublicFallback allowExternalBootstrap allowExternalRelay allowAutoUpdateNetwork : Bool)
  deriving DecidableEq, Repr

structure RuntimeConfigV1 where
  schemaVersion : ℕ
  mode : OperatingMode
  directory : DirectoryConfig
  trustDomainId : Option String
  membership : MembershipConfig
  mesh : MeshConfig
  execution : ExecutionConfig
  cip : CipConfig
  federation : FederationConfig
  network : NetworkPolicy
  secretRefs : List (String × SecretRef)
  deriving DecidableEq, Repr

/-- What one source sets: each field is given or not. -/
structure ConfigOverrides where
  mode : Option OperatingMode
  (directoryUrl directoryAuthority trustDomainId : Option String)
  allowPublicFallback : Option Bool
  trustedDomains : Option (List String)
  localDirectoryDiscovery : Option Bool
  deriving DecidableEq, Repr

/-- A source that sets nothing. -/
def ConfigOverrides.default : ConfigOverrides := ⟨none, none, none, none, none, none, none⟩

/-! ### Presets, overlays, resolution -/

def runtimeConfigSchemaVersion : ℕ := 1

def publicDirectoryUrl : String := "https://iicp.network/api"

namespace RuntimeConfigV1

def preset (mode : OperatingMode) : RuntimeConfigV1 :=
  let restricted := mode == .privateMode || mode == .federatedPrivate
  let onlyLocal := mode == .localOnly
  let federated := mode == .federatedPrivate
  { schemaVersion := runtimeConfigSchemaVersion
    mode := mode
    directory :=
      { source :=
          if onlyLocal then .localDirectory else if restricted then .remote else .publicDirectory
        url := if onlyLocal then none else some publicDirectoryUrl
        authorityId := none
        localDiscoveryEnabled := false }
    trustDomainId := none
    membership :=
      { required := restricted
        requireAuthenticatedClients := restricted
        requireAuthenticatedNodes := restricted
        rejectUnknownPeers := restricted
        credential := none
        revocationSource := none }
    mesh := { enabled := !onlyLocal, requireAuthenticatedGossip := restricted }
    execution :=
      { allowLocal := true
        allowExternalProviders := !onlyLocal
        allowPublicIicp := !restricted && !onlyLocal }
    cip := { enabled := false, requireSameTrustDomain := restricted }
    federation := { enabled := federated, trustedDomains := [] }
    network :=
      { allowPublicFallback := !restricted && !onlyLocal
        allowExternalBootstrap := !onlyLocal
        allowExternalRelay := !onlyLocal
        allowAutoUpdateNetwork := !onlyLocal }
    secretRefs := [] }

/-- The configuration with the fields that an overlay sets. A public directory with another address
is a remote one. -/
def overlaid (config : RuntimeConfigV1) (overlay : ConfigOverrides) : RuntimeConfigV1 :=
  { config with
    directory :=
      { source :=
          if overlay.directoryUrl.isSome && config.directory.source == .publicDirectory then .remote
          else config.directory.source
        url := overlay.directoryUrl.or config.directory.url
        authorityId := overlay.directoryAuthority.or config.directory.authorityId
        localDiscoveryEnabled :=
          overlay.localDirectoryDiscovery.getD config.directory.localDiscoveryEnabled }
    trustDomainId := overlay.trustDomainId.or config.trustDomainId
    network := { config.network with
      allowPublicFallback := overlay.allowPublicFallback.getD config.network.allowPublicFallback }
    federation := { config.federation with
      trustedDomains := overlay.trustedDomains.getD config.federation.trustedDomains } }

/-- Lays an overlay over a configuration. With a mode, it starts again from the preset. -/
def apply (config : RuntimeConfigV1) (overlay : ConfigOverrides) : RuntimeConfigV1 :=
  match overlay.mode with
  | some mode => (preset mode).overlaid overlay
  | none => config.overlaid overlay

/-- The file if it has the mode, or the preset of the mode. -/
def ofMode (file : Option RuntimeConfigV1) (mode : OperatingMode) : RuntimeConfigV1 :=
  match file with
  | some config => if config.mode = mode then config else preset mode
  | none => preset mode

/-- Resolves the configuration. The mode is taken out of the command line, and out of the
environment only if the command line has none. -/
def resolve (presetMode : OperatingMode) (file : Option RuntimeConfigV1)
    (environment cli : ConfigOverrides) : RuntimeConfigV1 :=
  let fileMode := file.map mode
  let effectiveMode := ((cli.mode.or environment.mode).or fileMode).getD presetMode
  let environment := if cli.mode.isNone then { environment with mode := none } else environment
  ((ofMode file effectiveMode).apply environment).apply { cli with mode := none }

end RuntimeConfigV1

/-! ### The order of the sources -/

open RuntimeConfigV1

variable (presetMode : OperatingMode) (file : Option RuntimeConfigV1)

/-- The mode that the order of the sources gives. -/
def precedentMode (environment cli : ConfigOverrides) : OperatingMode :=
  cli.mode.getD (environment.mode.getD ((file.map RuntimeConfigV1.mode).getD presetMode))

variable (environment cli : ConfigOverrides)

/-- Each field that can be overridden has the value of the command line if it is given, else the
value of the environment if it is given, else the value of the base. -/
structure FieldsLayered (base config : RuntimeConfigV1) :
    Prop where
  directoryUrl : config.directory.url =
    cli.directoryUrl.or (environment.directoryUrl.or base.directory.url)
  directoryAuthority : config.directory.authorityId =
    cli.directoryAuthority.or (environment.directoryAuthority.or base.directory.authorityId)
  trustDomainId : config.trustDomainId =
    cli.trustDomainId.or (environment.trustDomainId.or base.trustDomainId)
  allowPublicFallback : config.network.allowPublicFallback =
    cli.allowPublicFallback.getD
      (environment.allowPublicFallback.getD base.network.allowPublicFallback)
  trustedDomains : config.federation.trustedDomains =
    cli.trustedDomains.getD (environment.trustedDomains.getD base.federation.trustedDomains)
  localDirectoryDiscovery : config.directory.localDiscoveryEnabled =
    cli.localDirectoryDiscovery.getD
      (environment.localDirectoryDiscovery.getD base.directory.localDiscoveryEnabled)

/-- The configuration is what the order of the four sources gives: the mode, and each field over the
file if it has that mode, or over the preset of that mode. -/
def Precedence (environment cli : ConfigOverrides) (config : RuntimeConfigV1) : Prop :=
  config.mode = precedentMode presetMode file environment cli ∧
    FieldsLayered environment cli
      (RuntimeConfigV1.ofMode file (precedentMode presetMode file environment cli)) config

/-- Two configurations agree on each field that neither the environment nor the command line
gives. -/
structure AgreeWhereSilent (first second : RuntimeConfigV1) :
    Prop where
  directoryUrl : cli.directoryUrl = none → environment.directoryUrl = none →
    first.directory.url = second.directory.url
  directoryAuthority : cli.directoryAuthority = none → environment.directoryAuthority = none →
    first.directory.authorityId = second.directory.authorityId
  trustDomainId : cli.trustDomainId = none → environment.trustDomainId = none →
    first.trustDomainId = second.trustDomainId
  allowPublicFallback : cli.allowPublicFallback = none → environment.allowPublicFallback = none →
    first.network.allowPublicFallback = second.network.allowPublicFallback
  trustedDomains : cli.trustedDomains = none → environment.trustedDomains = none →
    first.federation.trustedDomains = second.federation.trustedDomains
  localDirectoryDiscovery : cli.localDirectoryDiscovery = none →
    environment.localDirectoryDiscovery = none →
    first.directory.localDiscoveryEnabled = second.directory.localDiscoveryEnabled

/-- If both the command line and the environment give a mode, then it is the same mode, and a file
of that mode has the values of the preset wherever neither of them gives one. -/
def ModesCompatible (environment cli : ConfigOverrides) : Prop :=
  ∀ mode ∈ cli.mode, ∀ other ∈ environment.mode, other = mode ∧
    ∀ config ∈ file, config.mode = mode →
      AgreeWhereSilent environment cli (.preset mode) config

/-! ### When the order is kept -/

section Layers

variable {α : Type} (first second : Option α)

/-- Two layered values are equal exactly when a layer gives the value or the bases are equal. -/
lemma getD_layers_iff (base other : α) :
    first.getD (second.getD base) = first.getD (second.getD other) ↔
      (first = none → second = none → base = other) := by
  cases first <;> cases second <;> simp

lemma or_layers_iff (base other : Option α) :
    first.or (second.or base) = first.or (second.or other) ↔
      (first = none → second = none → base = other) := by
  cases first <;> cases second <;> simp

end Layers

/-- The fields of one configuration under two overlays are those of another exactly when the two
agree wherever the overlays are silent. -/
lemma fieldsLayered_overlaid_iff (start base : RuntimeConfigV1) :
    FieldsLayered environment cli base ((start.overlaid environment).overlaid cli) ↔
      AgreeWhereSilent environment cli start base := by
  constructor
  · intro h
    exact ⟨(or_layers_iff _ _ _ _).mp h.directoryUrl, (or_layers_iff _ _ _ _).mp h.directoryAuthority,
      (or_layers_iff _ _ _ _).mp h.trustDomainId, (getD_layers_iff _ _ _ _).mp h.allowPublicFallback,
      (getD_layers_iff _ _ _ _).mp h.trustedDomains,
      (getD_layers_iff _ _ _ _).mp h.localDirectoryDiscovery⟩
  · intro h
    exact ⟨(or_layers_iff _ _ _ _).mpr h.directoryUrl,
      (or_layers_iff _ _ _ _).mpr h.directoryAuthority,
      (or_layers_iff _ _ _ _).mpr h.trustDomainId,
      (getD_layers_iff _ _ _ _).mpr h.allowPublicFallback,
      (getD_layers_iff _ _ _ _).mpr h.trustedDomains,
      (getD_layers_iff _ _ _ _).mpr h.localDirectoryDiscovery⟩

lemma AgreeWhereSilent.refl (config : RuntimeConfigV1) :
    AgreeWhereSilent environment cli config config := by
  constructor <;> exact fun _ _ ↦ rfl

@[simp] lemma overlaid_mode (config : RuntimeConfigV1) (overlay : ConfigOverrides) :
    (config.overlaid overlay).mode = config.mode := rfl

@[simp] lemma preset_mode (mode : OperatingMode) : (preset mode).mode = mode := rfl

@[simp] lemma ofMode_mode (mode : OperatingMode) : (ofMode file mode).mode = mode := by
  unfold ofMode
  split
  · split_ifs with h
    · exact h
    · rfl
  · rfl

/-- What the two overlays are laid over: the configuration of the selected mode, unless both give a
mode. Then it is the preset of the environment's mode. -/
lemma resolve_eq (environment cli : ConfigOverrides) :
    resolve presetMode file environment cli =
      ((match cli.mode, environment.mode with
        | some _, some mode => preset mode
        | _, _ => .ofMode file (precedentMode presetMode file environment cli)).overlaid
          environment).overlaid cli := by
  obtain ⟨cliMode, _⟩ := cli
  obtain ⟨environmentMode, _⟩ := environment
  cases cliMode <;> cases environmentMode <;> cases file <;> rfl

/-- The resolved configuration follows the order of the four sources exactly when the command line
and the environment do not both give a mode, or give the same mode and lose nothing of a file of
that mode. -/
theorem resolve_precedence_iff (presetMode : OperatingMode) (file : Option RuntimeConfigV1)
    (environment cli : ConfigOverrides) :
    Precedence presetMode file environment cli (resolve presetMode file environment cli) ↔
      ModesCompatible file environment cli := by
  rw [Precedence, resolve_eq, overlaid_mode, overlaid_mode, fieldsLayered_overlaid_iff]
  cases hcli : cli.mode with
  | none =>
    refine iff_of_true ⟨ofMode_mode _ _, AgreeWhereSilent.refl _ _ _⟩ ?_
    simp [ModesCompatible, hcli]
  | some mode =>
    cases henv : environment.mode with
    | none =>
      refine iff_of_true ⟨ofMode_mode _ _, AgreeWhereSilent.refl _ _ _⟩ ?_
      simp [ModesCompatible, henv]
    | some other =>
      have hmode : precedentMode presetMode file environment cli = mode := by
        rw [precedentMode, hcli, Option.getD_some]
      simp only [hmode, preset_mode, ModesCompatible, hcli, henv, Option.mem_some_iff, forall_eq']
      refine and_congr_right ?_
      rintro rfl
      cases file with
      | none =>
        refine iff_of_true (AgreeWhereSilent.refl _ _ _) ?_
        simp
      | some config =>
        by_cases h : config.mode = other
        · simp [ofMode, h]
        · refine iff_of_true ?_ ?_
          · rw [ofMode, if_neg h]
            exact AgreeWhereSilent.refl _ _ _
          · simp [h]

/-- The environment asks for the public mode, the command line for the private one. -/
theorem environment_mode_wins :
    (resolve .publicMode none { ConfigOverrides.default with mode := some .publicMode }
      { ConfigOverrides.default with mode := some .privateMode }).mode = .publicMode ∧
    ¬ Precedence .publicMode none { ConfigOverrides.default with mode := some .publicMode }
      { ConfigOverrides.default with mode := some .privateMode }
      (resolve .publicMode none { ConfigOverrides.default with mode := some .publicMode }
        { ConfigOverrides.default with mode := some .privateMode }) :=
  ⟨rfl, fun h ↦ nomatch h.1⟩

end Iicp.Config
