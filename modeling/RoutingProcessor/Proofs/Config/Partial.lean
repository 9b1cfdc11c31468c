import Mathlib.Tactic.MkIffOfInductiveProp
import RoutingProcessor.Proofs.Config.Overlay
import RoutingProcessor.Proofs.Config.Values
import RoutingProcessor.Proofs.Text.Utf8

namespace RoutingProcessor

-- The defaults are given twice, for each member of a section and for the section as a whole.
-- They agree: to write nothing of a section is to leave it out.
theorem GrpcListener.unwritten_eq_default : GrpcListener.unwritten = .default := rfl

theorem MockBackend.unwritten_eq_default : MockBackend.unwritten = .default := rfl

theorem ServerSection.unwritten_eq_default : ServerSection.unwritten = .default := rfl

theorem DecisionSection.unwritten_eq_default : DecisionSection.unwritten = .default := rfl

theorem LoggingSection.unwritten_eq_default : LoggingSection.unwritten = .default := rfl

theorem Config.unwritten_eq_default : Config.unwritten = .default := rfl

end RoutingProcessor

namespace RoutingProcessor.Config

open Yaml Net OfYaml Text

-- A section of a mock backend, whose address may be left out.
structure IsMock (anchors : Node.Anchors) (node : Node) (mock : MockBackend) : Prop where
  isSection : IsSection anchors ["address"] node
  address : Filled anchors ["address"] node (IsAddress anchors) MockBackend.default.address
    mock.address

-- The sections in which every member that is given has a value of its type.
@[mk_iff]
structure IsGrpc (anchors : Node.Anchors) (node : Node) : Prop where
  isSection : IsSection anchors ["network", "address"] node
  network : ∀ value, Member anchors node "network" value →
    ∃ network, IsChoice networks anchors value network
  address : ∀ value, Member anchors node "address" value → ∃ text, IsText anchors value text

@[mk_iff]
structure IsServer (anchors : Node.Anchors) (node : Node) : Prop where
  isSection : IsSection anchors ["grpc", "max_concurrent_streams", "mock_backend", "shutdown_wait",
    "http_shutdown_timeout", "grpc_drain_timeout"] node
  grpc : ∀ value, Member anchors node "grpc" value → IsGrpc anchors value
  maxConcurrentStreams : ∀ value, Member anchors node "max_concurrent_streams" value →
    ∃ n, IsWord anchors value n
  mockBackend : ∀ value, Member anchors node "mock_backend" value →
    ∃ mock, IsOptional (IsMock anchors) anchors value mock
  shutdownWait : ∀ value, Member anchors node "shutdown_wait" value →
    ∃ duration, IsDuration anchors value duration
  httpShutdownTimeout : ∀ value, Member anchors node "http_shutdown_timeout" value →
    ∃ duration, IsDuration anchors value duration
  grpcDrainTimeout : ∀ value, Member anchors node "grpc_drain_timeout" value →
    ∃ duration, IsDuration anchors value duration

@[mk_iff]
structure IsDecision (anchors : Node.Anchors) (node : Node) : Prop where
  isSection : IsSection anchors ["preferred_service_header", "routing_decision_header",
    "routing_decision_server", "timeout"] node
  preferredServiceHeader : ∀ value, Member anchors node "preferred_service_header" value →
    ∃ text, IsText anchors value text
  routingDecisionHeader : ∀ value, Member anchors node "routing_decision_header" value →
    ∃ text, IsText anchors value text
  routingDecisionServer : ∀ value, Member anchors node "routing_decision_server" value →
    ∃ url, IsOptional (IsText anchors) anchors value url
  timeout : ∀ value, Member anchors node "timeout" value →
    ∃ duration, IsOptional (IsDuration anchors) anchors value duration

@[mk_iff]
structure IsLogging (anchors : Node.Anchors) (node : Node) : Prop where
  isSection : IsSection anchors ["log_level", "log_format"] node
  logLevel : ∀ value, Member anchors node "log_level" value → ∃ text, IsText anchors value text
  logFormat : ∀ value, Member anchors node "log_format" value →
    ∃ format, IsChoice formats anchors value format

@[mk_iff]
structure IsConfig (anchors : Node.Anchors) (node : Node) : Prop where
  isSection : IsSection anchors ["server", "decision", "logging"] node
  server : ∀ value, Member anchors node "server" value → IsServer anchors value
  decision : ∀ value, Member anchors node "decision" value → IsDecision anchors value
  logging : ∀ value, Member anchors node "logging" value → IsLogging anchors value

namespace Setting

variable {α : Type}

-- The keys that lead to a setting.
def path : Setting α → List String
  | grpcAddress => ["server", "grpc", "address"]
  | grpcNetwork => ["server", "grpc", "network"]
  | maxConcurrentStreams => ["server", "max_concurrent_streams"]
  | shutdownWait => ["server", "shutdown_wait"]
  | httpShutdownTimeout => ["server", "http_shutdown_timeout"]
  | grpcDrainTimeout => ["server", "grpc_drain_timeout"]
  | preferredServiceHeader => ["decision", "preferred_service_header"]
  | routingDecisionHeader => ["decision", "routing_decision_header"]
  | routingDecisionServer => ["decision", "routing_decision_server"]
  | timeout => ["decision", "timeout"]
  | logLevel => ["logging", "log_level"]
  | logFormat => ["logging", "log_format"]

-- What a value of a setting means.
def Means (anchors : Node.Anchors) : Setting α → Node → α → Prop
  | grpcNetwork => IsChoice networks anchors
  | maxConcurrentStreams => IsWord anchors
  | shutdownWait | httpShutdownTimeout | grpcDrainTimeout => IsDuration anchors
  | grpcAddress | preferredServiceHeader | routingDecisionHeader | logLevel => IsText anchors
  | routingDecisionServer => IsOptional (IsText anchors) anchors
  | timeout => IsOptional (IsDuration anchors) anchors
  | logFormat => IsChoice formats anchors

end Setting

-- Everything that a document gives takes the place of its default.
structure Overlays (root : Node) (config : Config) : Prop where
  settings : ∀ {α : Type} (setting : Setting α),
    Filled root.anchors setting.path root (setting.Means root.anchors) (setting.get .default)
      (setting.get config)
  mock : Filled root.anchors ["server", "mock_backend"] root
    (IsOptional (IsMock root.anchors) root.anchors) none config.server.mockBackend

-- What a reader makes of a node, wherever it stands.
def ReadBy {α : Type} (read : Place → Except Trouble α) (anchors : Node.Anchors) (node : Node)
    (a : α) : Prop :=
  ∃ path, read ⟨node, anchors, path⟩ = .ok a

section

variable {anchors : Node.Anchors} {node : Node} {path : List String}

theorem readBy_of_eq_ok {α : Type} {read : Place → Except Trouble α} {a : α}
    (h : read ⟨node, anchors, path⟩ = .ok a) : ReadBy read anchors node a :=
  ⟨path, h⟩

theorem IsMock.unique {mock other : MockBackend} (h : IsMock anchors node mock)
    (h' : IsMock anchors node other) : mock = other := by
  have same := h.address.congr h'.address IsAddress.unique fun _ => Iff.rfl
  cases mock
  cases other
  cases same
  rfl

section

variable (known : ∀ anchor ∈ anchors, anchor.2.isWhole = true) (whole : node.isWhole = true)

theorem address_of_mockBackend {mock : MockBackend}
    (h : yamlForm.mockBackend ⟨node, anchors, path⟩ = .ok mock) :
    Filled anchors ["address"] node (IsAddress anchors) MockBackend.default.address
      mock.address := by
  refine filled_readSection MockBackend.address _ ⟨by decide, ?_⟩ MockBackend.unwritten_eq_default h
  simp

include known whole

theorem mockBackend_isOk_iff :
    (∃ mock, yamlForm.mockBackend ⟨node, anchors, path⟩ = .ok mock) ↔
      IsSection anchors ["address"] node ∧
        ∀ value, Member anchors node "address" value →
          ∃ address, IsAddress anchors value address := by
  refine (readSection_isOk_iff ?_ known whole).trans ?_
  · constructor <;> simp [Reads]
  · simp [Reads]

theorem mockBackend_eq_ok_iff {mock : MockBackend} :
    yamlForm.mockBackend ⟨node, anchors, path⟩ = .ok mock ↔ IsMock anchors node mock := by
  constructor
  · intro h
    exact ⟨((mockBackend_isOk_iff known whole).1 ⟨mock, h⟩).1, address_of_mockBackend h⟩
  · intro h
    obtain ⟨other, read⟩ := (@mockBackend_isOk_iff _ _ path known whole).2
      ⟨h.isSection, fun value member => ⟨_, h.address.given value (leads_singleton.2 member)⟩⟩
    rw [h.unique ⟨h.isSection, address_of_mockBackend read⟩, read]

theorem grpc_isOk_iff :
    (∃ grpc, yamlForm.grpc ⟨node, anchors, path⟩ = .ok grpc) ↔ IsGrpc anchors node := by
  refine (readSection_isOk_iff ?_ known whole).trans ?_
  · constructor <;> simp [Reads]
  · simp [Reads, isGrpc_iff]

theorem decision_isOk_iff :
    (∃ decision, yamlForm.decision ⟨node, anchors, path⟩ = .ok decision) ↔
      IsDecision anchors node := by
  refine (readSection_isOk_iff ?_ known whole).trans ?_
  · constructor <;> simp [Reads]
  · simp [Reads, isDecision_iff]

theorem logging_isOk_iff :
    (∃ logging, yamlForm.logging ⟨node, anchors, path⟩ = .ok logging) ↔
      IsLogging anchors node := by
  refine (readSection_isOk_iff ?_ known whole).trans ?_
  · constructor <;> simp [Reads]
  · simp [Reads, isLogging_iff]

theorem optional_mockBackend_eq_ok_iff {found : Option MockBackend} :
    yamlForm.optional yamlForm.mockBackend ⟨node, anchors, path⟩ = .ok found ↔
      IsOptional (IsMock anchors) anchors node found :=
  optional_eq_ok_iff fun _ => mockBackend_eq_ok_iff known whole

theorem server_isOk_iff :
    (∃ server, yamlForm.server ⟨node, anchors, path⟩ = .ok server) ↔ IsServer anchors node := by
  have grpc := reads_members_iff known whole (fun _ _ => grpc_isOk_iff known) "grpc"
  have mock := reads_members_iff known whole
    (fun _ _ wholeValue => exists_congr fun _ => optional_mockBackend_eq_ok_iff known wholeValue)
    "mock_backend"
  refine (readSection_isOk_iff ?_ known whole).trans ?_
  · constructor
    · simp
    · simp +contextual [Reads, grpc_isOk_iff known, optional_mockBackend_eq_ok_iff known]
  · simp [Reads, isServer_iff, grpc, mock]

theorem config_isOk_iff :
    (∃ config, yamlForm.config ⟨node, anchors, path⟩ = .ok config) ↔ IsConfig anchors node := by
  have server := reads_members_iff known whole (fun _ _ => server_isOk_iff known) "server"
  have decision := reads_members_iff known whole (fun _ _ => decision_isOk_iff known) "decision"
  have logging := reads_members_iff known whole (fun _ _ => logging_isOk_iff known) "logging"
  refine (readSection_isOk_iff ?_ known whole).trans ?_
  · constructor
    · simp
    · simp +contextual [Reads, server_isOk_iff known, decision_isOk_iff known,
        logging_isOk_iff known]
  · simp [Reads, isConfig_iff, server, decision, logging]

end

-- What a section says, and its defaults for the rest.
structure FillsGrpc (anchors : Node.Anchors) (node : Node) (grpc : GrpcListener) : Prop where
  network : Filled anchors ["network"] node (IsChoice networks anchors)
    GrpcListener.default.network grpc.network
  address : Filled anchors ["address"] node (IsText anchors) GrpcListener.default.address
    grpc.address

structure FillsServer (anchors : Node.Anchors) (node : Node) (server : ServerSection) : Prop where
  grpc : Filled anchors ["grpc"] node (ReadBy yamlForm.grpc anchors) ServerSection.default.grpc
    server.grpc
  maxConcurrentStreams : Filled anchors ["max_concurrent_streams"] node (IsWord anchors)
    ServerSection.default.maxConcurrentStreams server.maxConcurrentStreams
  mockBackend : Filled anchors ["mock_backend"] node
    (ReadBy (yamlForm.optional yamlForm.mockBackend) anchors) ServerSection.default.mockBackend
    server.mockBackend
  shutdownWait : Filled anchors ["shutdown_wait"] node (IsDuration anchors)
    ServerSection.default.shutdownWait server.shutdownWait
  httpShutdownTimeout : Filled anchors ["http_shutdown_timeout"] node (IsDuration anchors)
    ServerSection.default.httpShutdownTimeout server.httpShutdownTimeout
  grpcDrainTimeout : Filled anchors ["grpc_drain_timeout"] node (IsDuration anchors)
    ServerSection.default.grpcDrainTimeout server.grpcDrainTimeout

structure FillsDecision (anchors : Node.Anchors) (node : Node) (decision : DecisionSection) :
    Prop where
  preferredServiceHeader : Filled anchors ["preferred_service_header"] node (IsText anchors)
    DecisionSection.default.preferredServiceHeader decision.preferredServiceHeader
  routingDecisionHeader : Filled anchors ["routing_decision_header"] node (IsText anchors)
    DecisionSection.default.routingDecisionHeader decision.routingDecisionHeader
  routingDecisionServer : Filled anchors ["routing_decision_server"] node
    (IsOptional (IsText anchors) anchors) DecisionSection.default.routingDecisionServer
    decision.routingDecisionServer
  timeout : Filled anchors ["timeout"] node (IsOptional (IsDuration anchors) anchors)
    DecisionSection.default.timeout decision.timeout

structure FillsLogging (anchors : Node.Anchors) (node : Node) (logging : LoggingSection) :
    Prop where
  logLevel : Filled anchors ["log_level"] node (IsText anchors) LoggingSection.default.logLevel
    logging.logLevel
  logFormat : Filled anchors ["log_format"] node (IsChoice formats anchors)
    LoggingSection.default.logFormat logging.logFormat

structure FillsConfig (anchors : Node.Anchors) (node : Node) (config : Config) : Prop where
  server : Filled anchors ["server"] node (ReadBy yamlForm.server anchors) Config.default.server
    config.server
  decision : Filled anchors ["decision"] node (ReadBy yamlForm.decision anchors)
    Config.default.decision config.decision
  logging : Filled anchors ["logging"] node (ReadBy yamlForm.logging anchors)
    Config.default.logging config.logging

theorem fillsGrpc {grpc : GrpcListener} (h : yamlForm.grpc ⟨node, anchors, path⟩ = .ok grpc) :
    FillsGrpc anchors node grpc := by
  have agree := GrpcListener.unwritten_eq_default
  refine ⟨filled_readSection GrpcListener.network _ ?_ agree h,
    filled_readSection GrpcListener.address _ ?_ agree h⟩
  all_goals refine ⟨by decide, ?_⟩
  all_goals simp

theorem fillsServer {server : ServerSection}
    (h : yamlForm.server ⟨node, anchors, path⟩ = .ok server) : FillsServer anchors node server := by
  have agree := ServerSection.unwritten_eq_default
  refine ⟨filled_readSection ServerSection.grpc _ ?_ agree h,
    filled_readSection ServerSection.maxConcurrentStreams _ ?_ agree h,
    filled_readSection ServerSection.mockBackend _ ?_ agree h,
    filled_readSection ServerSection.shutdownWait _ ?_ agree h,
    filled_readSection ServerSection.httpShutdownTimeout _ ?_ agree h,
    filled_readSection ServerSection.grpcDrainTimeout _ ?_ agree h⟩
  all_goals refine ⟨by decide, ?_⟩
  all_goals simp
  all_goals exact fun _ _ _ _ => readBy_of_eq_ok

theorem fillsDecision {decision : DecisionSection}
    (h : yamlForm.decision ⟨node, anchors, path⟩ = .ok decision) :
    FillsDecision anchors node decision := by
  have agree := DecisionSection.unwritten_eq_default
  refine ⟨filled_readSection DecisionSection.preferredServiceHeader _ ?_ agree h,
    filled_readSection DecisionSection.routingDecisionHeader _ ?_ agree h,
    filled_readSection DecisionSection.routingDecisionServer _ ?_ agree h,
    filled_readSection DecisionSection.timeout _ ?_ agree h⟩
  all_goals refine ⟨by decide, ?_⟩
  all_goals simp

theorem fillsLogging {logging : LoggingSection}
    (h : yamlForm.logging ⟨node, anchors, path⟩ = .ok logging) :
    FillsLogging anchors node logging := by
  have agree := LoggingSection.unwritten_eq_default
  refine ⟨filled_readSection LoggingSection.logLevel _ ?_ agree h,
    filled_readSection LoggingSection.logFormat _ ?_ agree h⟩
  all_goals refine ⟨by decide, ?_⟩
  all_goals simp

theorem fillsConfig {config : Config} (h : yamlForm.config ⟨node, anchors, path⟩ = .ok config) :
    FillsConfig anchors node config := by
  have agree := Config.unwritten_eq_default
  refine ⟨filled_readSection Config.server _ ?_ agree h,
    filled_readSection Config.decision _ ?_ agree h,
    filled_readSection Config.logging _ ?_ agree h⟩
  all_goals refine ⟨by decide, ?_⟩
  all_goals simp
  all_goals exact fun _ _ _ _ => readBy_of_eq_ok

end

variable {root : Node} {config : Config}

theorem overlays_of_ofNode (whole : root.isWhole = true) (h : ofNode root = .ok config) :
    Overlays root config := by
  obtain ⟨server, decision, logging⟩ := fillsConfig h
  constructor
  · intro α setting
    cases setting with
    | grpcAddress =>
      refine server.cons (·.grpc.address) fun value ⟨_, read⟩ => ?_
      refine (fillsServer read).grpc.cons (·.address) fun value ⟨_, read⟩ => ?_
      exact (fillsGrpc read).address
    | grpcNetwork =>
      refine server.cons (·.grpc.network) fun value ⟨_, read⟩ => ?_
      refine (fillsServer read).grpc.cons (·.network) fun value ⟨_, read⟩ => ?_
      exact (fillsGrpc read).network
    | maxConcurrentStreams =>
      refine server.cons (·.maxConcurrentStreams) fun value ⟨_, read⟩ => ?_
      exact (fillsServer read).maxConcurrentStreams
    | shutdownWait =>
      refine server.cons (·.shutdownWait) fun value ⟨_, read⟩ => ?_
      exact (fillsServer read).shutdownWait
    | httpShutdownTimeout =>
      refine server.cons (·.httpShutdownTimeout) fun value ⟨_, read⟩ => ?_
      exact (fillsServer read).httpShutdownTimeout
    | grpcDrainTimeout =>
      refine server.cons (·.grpcDrainTimeout) fun value ⟨_, read⟩ => ?_
      exact (fillsServer read).grpcDrainTimeout
    | preferredServiceHeader =>
      refine decision.cons (·.preferredServiceHeader) fun value ⟨_, read⟩ => ?_
      exact (fillsDecision read).preferredServiceHeader
    | routingDecisionHeader =>
      refine decision.cons (·.routingDecisionHeader) fun value ⟨_, read⟩ => ?_
      exact (fillsDecision read).routingDecisionHeader
    | routingDecisionServer =>
      refine decision.cons (·.routingDecisionServer) fun value ⟨_, read⟩ => ?_
      exact (fillsDecision read).routingDecisionServer
    | timeout =>
      refine decision.cons (·.timeout) fun value ⟨_, read⟩ => ?_
      exact (fillsDecision read).timeout
    | logLevel =>
      refine logging.cons (·.logLevel) fun value ⟨_, read⟩ => ?_
      exact (fillsLogging read).logLevel
    | logFormat =>
      refine logging.cons (·.logFormat) fun value ⟨_, read⟩ => ?_
      exact (fillsLogging read).logFormat
  · have known := Node.isWhole_of_mem_anchors root whole
    have filled := server.cons (·.mockBackend) fun value ⟨_, read⟩ => (fillsServer read).mockBackend
    constructor
    · intro found leads
      obtain ⟨path, read⟩ := filled.given found leads
      exact (optional_mockBackend_eq_ok_iff known (isWhole_of_leads known whole leads)).1 read
    · exact filled.left

-- Documents that say the same of every setting and of the mock backend.
structure Agree (root other : Node) : Prop where
  settings : ∀ {α : Type} (setting : Setting α) (a : α),
    Gives root.anchors setting.path root (setting.Means root.anchors) a ↔
      Gives other.anchors setting.path other (setting.Means other.anchors) a
  mock : ∀ mock : Option MockBackend,
    Gives root.anchors ["server", "mock_backend"] root
        (IsOptional (IsMock root.anchors) root.anchors) mock ↔
      Gives other.anchors ["server", "mock_backend"] other
        (IsOptional (IsMock other.anchors) other.anchors) mock

theorem Setting.Means.unique {α : Type} {setting : Setting α} {anchors : Node.Anchors} {node : Node}
    {a b : α} (h : setting.Means anchors node a) (h' : setting.Means anchors node b) : a = b := by
  cases setting with
  | grpcAddress | preferredServiceHeader | routingDecisionHeader | logLevel =>
    exact IsText.unique h h'
  | grpcNetwork | logFormat => exact IsChoice.unique h h'
  | maxConcurrentStreams => exact IsWord.unique h h'
  | shutdownWait | httpShutdownTimeout | grpcDrainTimeout => exact IsDuration.unique h h'
  | routingDecisionServer => exact IsOptional.unique IsText.unique h h'
  | timeout => exact IsOptional.unique IsDuration.unique h h'

theorem Overlays.unique {other : Node} {config' : Config} (h : Overlays root config)
    (h' : Overlays other config') (agree : Agree root other) : config = config' := by
  apply eq_of_settings
  · intro α setting
    exact (h.settings setting).congr (h'.settings setting) Setting.Means.unique
      (agree.settings setting)
  · exact h.mock.congr h'.mock (IsOptional.unique IsMock.unique) agree.mock

theorem ofNode_isOk_iff (whole : root.isWhole = true) :
    (∃ config, ofNode root = .ok config) ↔ IsConfig root.anchors root :=
  config_isOk_iff (Node.isWhole_of_mem_anchors root whole) whole

-- A document whose members have values of their types is a configuration: the defaults, with
-- everything that it gives in place of them. The order of the keys and what is unknown make no
-- difference.
theorem partial_document_overlays_default (whole : root.isWhole = true)
    (typed : IsConfig root.anchors root) :
    ∃ config, ofNode root = .ok config ∧
      (∀ octets, Document.ofOctets octets = ⟨some root, true⟩ → ofYaml octets = .ok config) ∧
      Overlays root config ∧
      ∀ other : Node, other.isWhole = true → IsConfig other.anchors other → Agree root other →
        ofNode other = .ok config := by
  obtain ⟨config, read⟩ := (ofNode_isOk_iff whole).2 typed
  have overlays := overlays_of_ofNode whole read
  refine ⟨config, read, fun octets found => ?_, overlays, fun other whole' typed' agree => ?_⟩
  · simp [ofYaml, found, read, bind, Except.bind, pure, Except.pure]
  · obtain ⟨config', read'⟩ := (ofNode_isOk_iff whole').2 typed'
    rw [overlays.unique (overlays_of_ofNode whole' read') agree, read']

-- Sections of which a key or nothing is given, beside a key that is unknown.
def partialText : String := "x: 1\nserver: {grpc: {network: unix}, mock_backend: {}}"

def partialRoot : Node :=
  .mapping none [
    (.scalar "x" .plain none, .scalar "1" .plain none),
    (.scalar "server" .plain none, .mapping none [
      (.scalar "grpc" .plain none, .mapping none [
        (.scalar "network" .plain none, .scalar "unix" .plain none)]),
      (.scalar "mock_backend" .plain none, .mapping none [])])]

-- What is not given is as in the defaults of the sections.
def partialServer : ServerSection :=
  { ServerSection.default with
    grpc := { GrpcListener.default with network := .unix }
    mockBackend := some .default }

set_option maxRecDepth 8000 in
theorem ofOctets_partialText :
    Document.ofOctets (octets partialText) = ⟨some partialRoot, true⟩ := by
  rw [Document.ofOctets, tokens, Utf8.decode?_octets]
  cbv

theorem partialText_overlays_default :
    partialRoot.isWhole = true ∧ IsConfig partialRoot.anchors partialRoot ∧
      ofYaml (octets partialText) = .ok ⟨partialServer, .default, .default⟩ := by
  have whole : partialRoot.isWhole = true := by decide
  have read : ofNode partialRoot = .ok ⟨partialServer, .default, .default⟩ := by decide +kernel
  have typed := (ofNode_isOk_iff whole).1 ⟨_, read⟩
  obtain ⟨config, read', ofText, -⟩ := partial_document_overlays_default whole typed
  obtain rfl := Except.ok.inj (read.symm.trans read')
  exact ⟨whole, typed, ofText _ ofOctets_partialText⟩

end RoutingProcessor.Config
