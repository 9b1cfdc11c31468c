import RoutingProcessor.Config.Basic
import RoutingProcessor.Duration.Human

namespace RoutingProcessor

-- The sections of which a document writes nothing. Every member has a default of its own there,
-- whatever the section is when it is left out as a whole.
def GrpcListener.unwritten : GrpcListener where
  network := .default
  address := GrpcListener.defaultAddress

def MockBackend.unwritten : MockBackend where
  address := MockBackend.defaultAddress

def ServerSection.unwritten : ServerSection where
  grpc := .default
  maxConcurrentStreams := ServerSection.defaultMaxConcurrentStreams
  mockBackend := none
  shutdownWait := ServerSection.defaultShutdownWait
  httpShutdownTimeout := ServerSection.defaultHttpShutdownTimeout
  grpcDrainTimeout := ServerSection.defaultGrpcDrainTimeout

def DecisionSection.unwritten : DecisionSection where
  preferredServiceHeader := DecisionSection.defaultPreferredServiceHeader
  routingDecisionHeader := DecisionSection.defaultRoutingDecisionHeader
  routingDecisionServer := none
  timeout := none

def LoggingSection.unwritten : LoggingSection where
  logLevel := LoggingSection.defaultLogLevel
  logFormat := .default

def Config.unwritten : Config where
  server := .default
  decision := .default
  logging := .default

end RoutingProcessor

namespace RoutingProcessor.Config

open Net

-- The words for the things that a configuration chooses from.
def networks : List (String × Network) := [("tcp", .tcp), ("unix", .unix)]
def formats : List (String × LogFormat) := [("text", .text), ("json", .json)]

-- A member of a section: its key, and what a value for it does to the section.
structure Field (ν ε σ : Type) where
  key : String
  read : ν → Except ε (σ → σ)

-- How a kind of document writes the things that a configuration is made of.
structure Form (ν ε : Type) where
  text : ν → Except ε String
  word : ν → Except ε UInt32
  duration : ν → Except ε Duration
  address : ν → Except ε SocketAddress
  network : ν → Except ε Network
  format : ν → Except ε LogFormat
  -- A value that may be absent.
  optional : {α : Type} → (ν → Except ε α) → ν → Except ε (Option α)
  -- A section by its name, its members, and what it is when none of them is given.
  record : {σ : Type} → String → List (Field ν ε σ) → σ → ν → Except ε σ

namespace Form

variable {ν ε : Type} (form : Form ν ε)

-- A member whose value is read and then put into the section.
def member {σ α : Type} (key : String) (read : ν → Except ε α) (put : α → σ → σ) : Field ν ε σ :=
  ⟨key, fun value => (read value).map put⟩

def grpc : ν → Except ε GrpcListener :=
  form.record "GrpcListener" [
    member "network" form.network fun v s => { s with network := v },
    member "address" form.text fun v s => { s with address := v }] .unwritten

def mockBackend : ν → Except ε MockBackend :=
  form.record "MockBackendConfig" [
    member "address" form.address fun v s => { s with address := v }] .unwritten

def server : ν → Except ε ServerSection :=
  form.record "ServerConfig" [
    member "grpc" form.grpc fun v s => { s with grpc := v },
    member "max_concurrent_streams" form.word fun v s => { s with maxConcurrentStreams := v },
    member "mock_backend" (form.optional form.mockBackend) fun v s => { s with mockBackend := v },
    member "shutdown_wait" form.duration fun v s => { s with shutdownWait := v },
    member "http_shutdown_timeout" form.duration fun v s => { s with httpShutdownTimeout := v },
    member "grpc_drain_timeout" form.duration fun v s => { s with grpcDrainTimeout := v }] .unwritten

def decision : ν → Except ε DecisionSection :=
  form.record "DecisionConfig" [
    member "preferred_service_header" form.text fun v s => { s with preferredServiceHeader := v },
    member "routing_decision_header" form.text fun v s => { s with routingDecisionHeader := v },
    member "routing_decision_server" (form.optional form.text)
      fun v s => { s with routingDecisionServer := v },
    member "timeout" (form.optional form.duration) fun v s => { s with timeout := v }] .unwritten

def logging : ν → Except ε LoggingSection :=
  form.record "LogConfig" [
    member "log_level" form.text fun v s => { s with logLevel := v },
    member "log_format" form.format fun v s => { s with logFormat := v }] .unwritten

-- Reads a configuration. A section that is not given is the section's default.
def config : ν → Except ε Config :=
  form.record "Config" [
    member "server" form.server fun v s => { s with server := v },
    member "decision" form.decision fun v s => { s with decision := v },
    member "logging" form.logging fun v s => { s with logging := v }] .unwritten

end Form

end RoutingProcessor.Config
