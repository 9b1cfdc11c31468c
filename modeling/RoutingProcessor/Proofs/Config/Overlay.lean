import RoutingProcessor.Config.Overlay

namespace RoutingProcessor.Config

open Net

-- The settings of a configuration, the mock backend apart.
inductive Setting : Type → Type where
  | grpcAddress : Setting String
  | grpcNetwork : Setting Network
  | maxConcurrentStreams : Setting UInt32
  | shutdownWait : Setting Duration
  | httpShutdownTimeout : Setting Duration
  | grpcDrainTimeout : Setting Duration
  | preferredServiceHeader : Setting String
  | routingDecisionHeader : Setting String
  | routingDecisionServer : Setting (Option String)
  | timeout : Setting (Option Duration)
  | logLevel : Setting String
  | logFormat : Setting LogFormat

namespace Setting

variable {α : Type}

def get (config : Config) : Setting α → α
  | grpcAddress => config.server.grpc.address
  | grpcNetwork => config.server.grpc.network
  | maxConcurrentStreams => config.server.maxConcurrentStreams
  | shutdownWait => config.server.shutdownWait
  | httpShutdownTimeout => config.server.httpShutdownTimeout
  | grpcDrainTimeout => config.server.grpcDrainTimeout
  | preferredServiceHeader => config.decision.preferredServiceHeader
  | routingDecisionHeader => config.decision.routingDecisionHeader
  | routingDecisionServer => config.decision.routingDecisionServer
  | timeout => config.decision.timeout
  | logLevel => config.logging.logLevel
  | logFormat => config.logging.logFormat

-- What the options say of a setting. A port stands for an address on every interface, and
-- for the network of such an address, unless an address is given as well.
def given? (options : Options) : Setting α → Option α
  | grpcAddress =>
    options.grpcAddress.or (options.port.map fun port => "0.0.0.0:" ++ toString port.toNat)
  | grpcNetwork =>
    options.grpcNetwork.or
      (if options.grpcAddress = none ∧ options.port ≠ none then some .tcp else none)
  | preferredServiceHeader => options.preferredHeader
  | routingDecisionHeader => options.decisionHeader
  | routingDecisionServer => options.decisionServer.map some
  | timeout => options.decisionTimeout.map some
  | logLevel => options.logLevel
  | logFormat => options.logFormat
  | maxConcurrentStreams | shutdownWait | httpShutdownTimeout | grpcDrainTimeout => none

end Setting

-- The configuration with another mock backend, or with none.
def withMock (config : Config) (mock : Option MockBackend) : Config :=
  { config with server := { config.server with mockBackend := mock } }

variable {config other : Config} {options : Options}

-- The settings and the mock backend are all of a configuration.
theorem eq_of_settings
    (settings : ∀ {α : Type} (setting : Setting α), setting.get config = setting.get other)
    (mock : config.server.mockBackend = other.server.mockBackend) : config = other := by
  obtain ⟨⟨⟨_, _⟩, _, _, _, _, _⟩, ⟨_, _, _, _⟩, ⟨_, _⟩⟩ := config
  obtain ⟨⟨⟨_, _⟩, _, _, _, _, _⟩, ⟨_, _, _, _⟩, ⟨_, _⟩⟩ := other
  simp only [Config.mk.injEq, ServerSection.mk.injEq, GrpcListener.mk.injEq,
    DecisionSection.mk.injEq, LoggingSection.mk.injEq]
  refine ⟨⟨⟨?network, ?address⟩, ?streams, mock, ?wait, ?http, ?drain⟩,
    ⟨?preferred, ?decision, ?server, ?timeout⟩, ?level, ?format⟩
  case network => exact settings .grpcNetwork
  case address => exact settings .grpcAddress
  case streams => exact settings .maxConcurrentStreams
  case wait => exact settings .shutdownWait
  case http => exact settings .httpShutdownTimeout
  case drain => exact settings .grpcDrainTimeout
  case preferred => exact settings .preferredServiceHeader
  case decision => exact settings .routingDecisionHeader
  case server => exact settings .routingDecisionServer
  case timeout => exact settings .timeout
  case level => exact settings .logLevel
  case format => exact settings .logFormat

@[simp] theorem get_withMock {α : Type} (setting : Setting α) (mock : Option MockBackend) :
    setting.get (config.withMock mock) = setting.get config := by
  cases setting <;> rfl

theorem print_everywhere (port : UInt16) :
    (SocketAddress.everywhere port).print = "0.0.0.0:" ++ toString port.toNat := by
  have host : Ipv4.unspecified.print = "0.0.0.0" := by decide
  rw [SocketAddress.everywhere, SocketAddress.print, host]
  rfl

-- What the options say of a setting wins over the configuration.
theorem get_overlay {α : Type} (config : Config) (options : Options) (setting : Setting α) :
    setting.get (config.overlay options) = (setting.given? options).getD (setting.get config) := by
  cases setting with
  | grpcAddress =>
    simp only [Setting.get, Setting.given?, overlay, ServerSection.overlay, GrpcListener.overlay]
    cases options.grpcNetwork <;> cases options.grpcAddress <;> cases options.port <;>
      simp [GrpcListener.withPort, GrpcListener.tcp, print_everywhere]
  | grpcNetwork =>
    simp only [Setting.get, Setting.given?, overlay, ServerSection.overlay, GrpcListener.overlay]
    cases options.grpcNetwork <;> cases options.grpcAddress <;> cases options.port <;>
      simp [GrpcListener.withPort, GrpcListener.tcp]
  | routingDecisionServer | timeout =>
    simp only [Setting.get, Setting.given?, overlay, DecisionSection.overlay]
    cases options.decisionServer <;> cases options.decisionTimeout <;> rfl
  | _ => rfl

theorem mockBackend_overlay (config : Config) (options : Options) :
    (config.overlay options).server.mockBackend =
      if options.mockBackend then
        some (options.mockBackendAddress.elim (config.server.mockBackend.getD .default) .mk)
      else config.server.mockBackend := by
  simp only [overlay, ServerSection.overlay]
  cases options.mockBackend <;> cases options.mockBackendAddress <;> rfl

theorem overlay_none (config : Config) : config.overlay .none = config := by
  apply eq_of_settings
  · intro α setting
    have unsaid : setting.given? .none = none := by cases setting <;> rfl
    rw [get_overlay, unsaid, Option.getD_none]
  · rw [mockBackend_overlay]
    rfl

theorem overlay_overlay (config : Config) (options : Options) :
    (config.overlay options).overlay options = config.overlay options := by
  apply eq_of_settings
  · intro α setting
    rw [get_overlay, get_overlay]
    cases setting.given? options <;> rfl
  · simp only [mockBackend_overlay]
    cases options.mockBackend <;> cases options.mockBackendAddress <;> rfl

-- Two configurations become one, the mock backend apart, if they agree on every setting of
-- which the options say nothing, and only then.
theorem withMock_overlay_eq_iff :
    (∀ mock, (config.overlay options).withMock mock = (other.overlay options).withMock mock) ↔
      ∀ {α : Type} (setting : Setting α),
        setting.given? options = none → setting.get config = setting.get other := by
  constructor
  · intro same α setting unsaid
    have h := congrArg setting.get (same none)
    simpa only [get_withMock, get_overlay, unsaid, Option.getD_none] using h
  · intro agree mock
    apply eq_of_settings
    · intro α setting
      rw [get_withMock, get_withMock, get_overlay, get_overlay]
      cases said : setting.given? options with
      | none => exact agree setting said
      | some value => rfl
    · rfl

-- What the options say wins over the configuration, setting by setting, and nothing else does.
-- Options that say nothing change nothing, and to say the same twice is to say it once.
theorem options_win_setting_by_setting (config : Config) (options : Options) :
    (∀ {α : Type} (setting : Setting α),
      setting.get (config.overlay options) = (setting.given? options).getD (setting.get config)) ∧
      (∀ other : Config,
        (∀ mock,
          (config.overlay options).withMock mock = (other.overlay options).withMock mock) ↔
          ∀ {α : Type} (setting : Setting α),
            setting.given? options = none → setting.get config = setting.get other) ∧
      config.overlay .none = config ∧
      (config.overlay options).overlay options = config.overlay options :=
  ⟨fun setting => get_overlay config options setting, fun _ => withMock_overlay_eq_iff,
    overlay_none config, overlay_overlay config options⟩

-- An address for the mock backend takes effect beside its flag. Without the flag the
-- configuration keeps its mock backend, whatever the address.
theorem given_mock_address_wins_iff (config : Config) (options : Options) {address : SocketAddress}
    (given : options.mockBackendAddress = some address) :
    ((∀ mock, (config.overlay options).server.mockBackend = some mock → mock.address = address) ↔
      options.mockBackend = true ∨
        ∀ mock, config.server.mockBackend = some mock → mock.address = address) ∧
      ∀ other : Config,
        (config.overlay options).server.mockBackend = (other.overlay options).server.mockBackend ↔
          options.mockBackend = true ∨ config.server.mockBackend = other.server.mockBackend := by
  simp only [mockBackend_overlay, given, Option.elim_some]
  cases options.mockBackend with
  | true => simp
  | false => simp

-- A configuration whose mock backend listens on a port of the loopback interface.
def mockOn (port : UInt16) : Config := default.withMock (some ⟨.v4 ⟨127, 0, 0, 1⟩ port⟩)

def onlyMockAddress : Options :=
  { Options.none with mockBackendAddress := some (.v4 ⟨127, 0, 0, 1⟩ 9999) }

theorem mock_address_beside_flag_wins :
    let options := { onlyMockAddress with mockBackend := true }
    (∀ mock, ((mockOn 18080).overlay options).server.mockBackend = some mock →
      mock.address = .v4 ⟨127, 0, 0, 1⟩ 9999) ∧
      ((mockOn 18080).overlay options).server.mockBackend =
        ((mockOn 18081).overlay options).server.mockBackend := by
  intro options
  obtain ⟨wins, same⟩ := given_mock_address_wins_iff (mockOn 18080) options rfl
  exact ⟨wins.2 (.inl rfl), (same (mockOn 18081)).2 (.inl rfl)⟩

theorem mock_address_alone_is_lost :
    ((mockOn 18080).overlay onlyMockAddress).server.mockBackend = some ⟨.v4 ⟨127, 0, 0, 1⟩ 18080⟩ ∧
      onlyMockAddress.mockBackendAddress = some (.v4 ⟨127, 0, 0, 1⟩ 9999) ∧
      ((mockOn 18080).overlay onlyMockAddress).server.mockBackend ≠
        ((mockOn 18081).overlay onlyMockAddress).server.mockBackend := by
  decide

end RoutingProcessor.Config
