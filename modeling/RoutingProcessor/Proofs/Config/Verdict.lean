import RoutingProcessor.Proofs.Config.Load
import RoutingProcessor.Proofs.Config.Overlay
import RoutingProcessor.Proofs.Http.HeaderName

namespace RoutingProcessor

open Text Net Http Files

theorem Text.trimmed_eq_nil_iff {cs : List Char} :
    trimmed cs = [] ↔ ∀ c ∈ cs, isBlank c = true := by
  rw [trimmed, List.reverse_eq_nil_iff, List.dropWhile_eq_nil_iff]
  simp only [List.mem_reverse]
  constructor
  · intro h
    by_contra solid
    have rest : cs.dropWhile isBlank ≠ [] := by rwa [ne_eq, List.dropWhile_eq_nil_iff]
    obtain ⟨c, back, split⟩ := List.exists_cons_of_ne_nil rest
    have stop : isBlank c = false := head?_dropWhile isBlank cs c (by simp [split])
    have blank : isBlank c = true := h c (by simp [split])
    simp [blank] at stop
  · exact fun h c hc => h c ((List.dropWhile_sublist isBlank).subset hc)

namespace Config

-- The name that a configuration gives to one of its headers.
def HeaderRole.name (decision : DecisionSection) : HeaderRole → String
  | preferredService => decision.preferredServiceHeader
  | routingDecision => decision.routingDecisionHeader

-- What a configuration must satisfy to be used.
inductive Condition where
  | grpcAddress
  | concurrentStreams
  | headerName (role : HeaderRole)
  | distinctHeaders
  | decisionServer
deriving DecidableEq

-- A check that is passed or fails in one way.
theorem refuse_unless_eq_error_iff {p : Prop} [Decidable p] {complaint error : Error} :
    (if p then Except.ok () else .error complaint) = .error error ↔ ¬ p ∧ complaint = error := by
  by_cases h : p <;> simp [h]

namespace Condition

variable {config : Config} {condition : Condition} {error : Error}

-- In the order in which they are looked at.
def all : List Condition :=
  [grpcAddress, concurrentStreams, headerName .preferredService, headerName .routingDecision,
    distinctHeaders, decisionServer]

theorem mem_all (condition : Condition) : condition ∈ all := by
  cases condition with
  | headerName role => cases role <;> decide
  | _ => decide

def Holds (config : Config) : Condition → Prop
  | grpcAddress =>
    (config.server.grpc.network = .tcp →
        ∃ address, SocketAddress.parse? config.server.grpc.address = some address) ∧
      (config.server.grpc.network = .unix →
        ∃ c ∈ config.server.grpc.address.toList, isBlank c = false)
  | concurrentStreams => 0 < config.server.maxConcurrentStreams.toNat
  | headerName role =>
    IsLowerToken (role.name config.decision) ∧ (role.name config.decision).length < 65536
  | distinctHeaders =>
    config.decision.preferredServiceHeader ≠ config.decision.routingDecisionHeader
  | decisionServer =>
    ∀ url ∈ config.decision.routingDecisionServer,
      ∃ found host, Url.parse url = .ok found ∧ found.scheme = "http" ∧ found.host = some host

-- How a configuration is refused that does not satisfy a condition.
inductive Refuses (config : Config) : Condition → Error → Prop where
  | grpcAddress (bad : ¬ Holds config grpcAddress) :
      Refuses config grpcAddress
        (.invalidGrpcAddress config.server.grpc.network config.server.grpc.address)
  | concurrentStreams (bad : ¬ Holds config concurrentStreams) :
      Refuses config concurrentStreams .noConcurrentStreams
  | headerName {role : HeaderRole} (bad : ¬ Holds config (headerName role)) :
      Refuses config (headerName role) (.invalidHeaderName role (role.name config.decision))
  | distinctHeaders (bad : ¬ Holds config distinctHeaders) :
      Refuses config distinctHeaders (.conflictingHeaders config.decision.preferredServiceHeader)
  | noUrl {url : String} {cause : Url.Error}
      (given : config.decision.routingDecisionServer = some url)
      (bad : Url.parse url = .error cause) :
      Refuses config decisionServer (.invalidDecisionServer url cause.message)
  | notHttp {url : String} {found : Url} (given : config.decision.routingDecisionServer = some url)
      (read : Url.parse url = .ok found) (bad : found.scheme ≠ "http") :
      Refuses config decisionServer
        (.invalidDecisionServer url ("unsupported scheme " ++ found.scheme))
  | noHost {url : String} {found : Url} (given : config.decision.routingDecisionServer = some url)
      (read : Url.parse url = .ok found) (web : found.scheme = "http") (bad : found.host = none) :
      Refuses config decisionServer (.invalidDecisionServer url "missing host")

-- The check for each condition alone.
def verdict (config : Config) : Condition → Except Error Unit
  | grpcAddress =>
    if config.server.grpc.isPlausible then .ok ()
    else .error (.invalidGrpcAddress config.server.grpc.network config.server.grpc.address)
  | concurrentStreams =>
    if config.server.maxConcurrentStreams ≠ 0 then .ok () else .error .noConcurrentStreams
  | headerName role => validateHeader role (role.name config.decision)
  | distinctHeaders =>
    if config.decision.preferredServiceHeader ≠ config.decision.routingDecisionHeader then .ok ()
    else .error (.conflictingHeaders config.decision.preferredServiceHeader)
  | decisionServer => config.decision.routingDecisionServer.elim (.ok ()) validateServer

theorem isPlausible_iff : config.server.grpc.isPlausible = true ↔ Holds config grpcAddress := by
  unfold GrpcListener.isPlausible Holds
  cases config.server.grpc.network with
  | tcp => simp [Option.isSome_iff_exists]
  | unix =>
    have solid := not_congr (@Text.trimmed_eq_nil_iff config.server.grpc.address.toList)
    simpa using solid

theorem maxConcurrentStreams_ne_zero_iff :
    config.server.maxConcurrentStreams ≠ 0 ↔ Holds config concurrentStreams := by
  rw [Holds, Nat.pos_iff_ne_zero]
  exact not_congr UInt32.toNat_inj.symm

theorem isLowerHeaderName_name_iff {role : HeaderRole} :
    isLowerHeaderName (role.name config.decision) = true ↔ Holds config (headerName role) :=
  isLowerHeaderName_iff

theorem validateServer_eq_ok_iff {url : String} :
    validateServer url = .ok () ↔
      ∃ found host, Url.parse url = .ok found ∧ found.scheme = "http" ∧ found.host = some host := by
  unfold validateServer
  cases Url.parse url with
  | error cause => simp
  | ok found =>
    by_cases web : found.scheme = "http"
    · cases host : found.host <;> simp [web, host]
    · simp [web]

theorem validateServer_eq_error_iff {url : String}
    (given : config.decision.routingDecisionServer = some url) :
    validateServer url = .error error ↔ Refuses config decisionServer error := by
  unfold validateServer
  constructor
  · intro h
    cases read : Url.parse url with
    | error cause =>
      simp only [read, Except.error.injEq] at h
      exact h ▸ .noUrl given read
    | ok found =>
      by_cases web : found.scheme = "http"
      · cases host : found.host with
        | none =>
          simp only [read, web, host, ne_eq, not_true, if_false, Option.isNone_none, if_true,
            Except.error.injEq] at h
          exact h ▸ .noHost given read web host
        | some name => simp [read, web, host] at h
      · simp only [read, web, ne_eq, not_false_eq_true, if_true, Except.error.injEq] at h
        exact h ▸ .notHttp given read web
  · intro h
    cases h with
    | noUrl also bad =>
      cases given.symm.trans also
      simp [bad]
    | notHttp also read bad =>
      cases given.symm.trans also
      simp [read, bad]
    | noHost also read web bad =>
      cases given.symm.trans also
      simp [read, web, bad]

theorem verdict_eq_ok_iff : verdict config condition = .ok () ↔ Holds config condition := by
  cases condition with
  | grpcAddress => simp [verdict, isPlausible_iff]
  | concurrentStreams => simp [verdict, ← maxConcurrentStreams_ne_zero_iff]
  | headerName role => rw [verdict, validateHeader_eq_ok_iff, isLowerHeaderName_name_iff]
  | distinctHeaders => simp [verdict, Holds]
  | decisionServer =>
    unfold verdict Holds
    cases config.decision.routingDecisionServer with
    | none => simp
    | some url => simp [validateServer_eq_ok_iff]

theorem verdict_eq_error_iff :
    verdict config condition = .error error ↔ Refuses config condition error := by
  cases condition with
  | grpcAddress =>
    rw [verdict, refuse_unless_eq_error_iff, isPlausible_iff]
    constructor
    · rintro ⟨bad, rfl⟩
      exact .grpcAddress bad
    · intro h
      cases h with
      | grpcAddress bad => exact ⟨bad, rfl⟩
  | concurrentStreams =>
    rw [verdict, refuse_unless_eq_error_iff, maxConcurrentStreams_ne_zero_iff]
    constructor
    · rintro ⟨bad, rfl⟩
      exact .concurrentStreams bad
    · intro h
      cases h with
      | concurrentStreams bad => exact ⟨bad, rfl⟩
  | headerName role =>
    rw [verdict, validateHeader, refuse_unless_eq_error_iff, isLowerHeaderName_name_iff]
    constructor
    · rintro ⟨bad, rfl⟩
      exact .headerName bad
    · intro h
      cases h with
      | headerName bad => exact ⟨bad, rfl⟩
  | distinctHeaders =>
    rw [verdict, refuse_unless_eq_error_iff]
    constructor
    · rintro ⟨bad, rfl⟩
      exact .distinctHeaders bad
    · intro h
      cases h with
      | distinctHeaders bad => exact ⟨bad, rfl⟩
  | decisionServer =>
    unfold verdict
    cases given : config.decision.routingDecisionServer with
    | none =>
      constructor
      · rintro ⟨⟩
      · intro h
        cases h with
        | noUrl also | notHttp also | noHost also => cases given.symm.trans also
    | some url => exact validateServer_eq_error_iff given

-- A condition that is not satisfied has an error to tell, and no other has.
theorem exists_refuses_iff :
    (∃ error, Refuses config condition error) ↔ ¬ Holds config condition := by
  simp only [← verdict_eq_error_iff, ← verdict_eq_ok_iff]
  cases verdict config condition <;> simp

end Condition

-- The checks of a list end at the first that fails.
theorem forM_eq_error_iff {α ε : Type} {check : α → Except ε Unit} {l : List α} {e : ε} :
    forM l check = .error e ↔
      ∃ before a after, l = before ++ a :: after ∧ (∀ b ∈ before, check b = .ok ()) ∧
        check a = .error e := by
  induction l with
  | nil => simp [pure, Except.pure]
  | cons a l ih =>
    rw [List.forM_cons]
    cases first : check a with
    | error other =>
      constructor
      · rintro ⟨⟩
        exact ⟨[], a, l, rfl, by simp, first⟩
      · rintro ⟨before, b, after, split, passed, failed⟩
        cases before with
        | nil =>
          cases split
          exact first.symm.trans failed
        | cons c before =>
          cases split
          have h := passed a (by simp)
          rw [first] at h
          cases h
    | ok =>
      refine ih.trans ?_
      constructor
      · rintro ⟨before, b, after, rfl, passed, failed⟩
        exact ⟨a :: before, b, after, rfl, by simpa [first] using passed, failed⟩
      · rintro ⟨before, b, after, split, passed, failed⟩
        cases before with
        | nil =>
          cases split
          rw [first] at failed
          cases failed
        | cons c before =>
          cases split
          exact ⟨before, b, after, rfl, fun c hc => passed c (by simp [hc]), failed⟩

theorem forM_eq_ok_iff {α ε : Type} {check : α → Except ε Unit} {l : List α} :
    forM l check = .ok () ↔ ∀ a ∈ l, check a = .ok () := by
  induction l with
  | nil => simp [pure, Except.pure]
  | cons a l ih =>
    rw [List.forM_cons, List.forall_mem_cons, ← ih]
    exact check_eq_ok_iff

variable {config : Config} {error : Error}

theorem server_validate_eq_forM (config : Config) :
    config.server.validate =
      forM [.grpcAddress, .concurrentStreams] (Condition.verdict config) := by
  simp only [List.forM_cons, List.forM_nil, ServerSection.validate, Condition.verdict]
  cases config.server.grpc.isPlausible
  · rfl
  · by_cases none : config.server.maxConcurrentStreams = 0 <;> simp [none] <;> rfl

theorem decision_validate_eq_forM (config : Config) :
    config.decision.validate =
      forM [.headerName .preferredService, .headerName .routingDecision, .distinctHeaders,
        .decisionServer] (Condition.verdict config) := by
  simp only [List.forM_cons, List.forM_nil, DecisionSection.validate, Condition.verdict,
    HeaderRole.name]
  refine congrArg _ (funext fun _ => congrArg _ (funext fun _ => ?_))
  by_cases same : config.decision.preferredServiceHeader = config.decision.routingDecisionHeader
  · simp [same]
    rfl
  · cases config.decision.routingDecisionServer with
    | none | some =>
      simp [same]
      rfl

-- The checks are those of the conditions, in their order.
theorem validate_eq_forM (config : Config) :
    config.validate = forM Condition.all (Condition.verdict config) := by
  rw [validate, server_validate_eq_forM, decision_validate_eq_forM, ← List.forM_append]
  rfl

theorem valid_iff : config.validate = .ok () ↔ ∀ condition, Condition.Holds config condition := by
  rw [validate_eq_forM, forM_eq_ok_iff]
  simp [Condition.mem_all, Condition.verdict_eq_ok_iff]

-- How a configuration is refused for the first condition that it does not satisfy.
def RefusedFor (config : Config) (error : Error) : Prop :=
  ∃ before condition after, Condition.all = before ++ condition :: after ∧
    (∀ earlier ∈ before, Condition.Holds config earlier) ∧ Condition.Refuses config condition error

theorem validate_eq_error_iff : config.validate = .error error ↔ RefusedFor config error := by
  rw [validate_eq_forM, forM_eq_error_iff]
  simp only [Condition.verdict_eq_ok_iff, Condition.verdict_eq_error_iff, RefusedFor]

variable {wording : Wording} {find : String → Except Int Entry} {options : Options} {base : Config}
  {path : String} {failure : Failure}

-- What the options are laid over: the document that they name, or the defaults.
inductive Base (find : String → Except Int Entry) (options : Options) : Config → Prop where
  | unnamed (none : options.config = none) : Base find options .default
  | document {path : String} {content : Octets} {base : Config}
      (named : options.config = some path) (opened : find path = .ok (.file content))
      (read : ofYaml content = .ok base) : Base find options base

-- Why a document gives no configuration: what was being done, and what went wrong.
inductive Unread (wording : Wording) (find : String → Except Int Entry) (path : String) :
    String → Failure.Cause → Prop where
  | unopened {code : Int} (missing : find path = .error code) :
      Unread wording find path "failed to open " (.system code)
  | socket (found : find path = .ok .socket) :
      Unread wording find path "failed to open " (.system noDevice)
  | directory (opened : find path = .ok .directory) :
      Unread wording find path "failed to parse "
        (.document (Failure.Cause.system isDirectory).message)
  | unparsed {content : Octets} {trouble : Trouble} (opened : find path = .ok (.file content))
      (bad : ofYaml content = .error trouble) :
      Unread wording find path "failed to parse " (.document (trouble.message wording content))

-- How a run is refused its configuration: what is said, and the error of the configuration
-- that can be asked for.
inductive Refuses (wording : Wording) (find : String → Except Int Entry) (options : Options) :
    String → Option Error → Prop where
  | unread {path doing : String} {cause : Failure.Cause} (named : options.config = some path)
      (bad : Unread wording find path doing cause) :
      Refuses wording find options (doing ++ path ++ ": " ++ cause.message) none
  | invalid {base : Config} {error : Error} (based : Base find options base)
      (refused : RefusedFor (base.overlay options) error) :
      Refuses wording find options ("invalid configuration: " ++ error.message) (some error)

theorem ofFile_eq_ok_iff :
    ofFile wording find path = .ok base ↔
      ∃ content, find path = .ok (.file content) ∧ ofYaml content = .ok base := by
  unfold ofFile
  cases find path with
  | error code => simp
  | ok entry =>
    cases entry with
    | directory | socket => simp
    | file content => cases read : ofYaml content <;> simp [Except.mapError, read]

theorem base_iff (wording : Wording) :
    Base find options base ↔ options.config.elim (.ok .default) (ofFile wording find) = .ok base := by
  constructor
  · intro h
    cases h with
    | unnamed none => simp [none]
    | document named opened read => simpa [named] using ofFile_eq_ok_iff.2 ⟨_, opened, read⟩
  · intro h
    cases named : options.config with
    | none =>
      rw [named] at h
      cases h
      exact .unnamed named
    | some path =>
      rw [named] at h
      obtain ⟨content, opened, read⟩ := ofFile_eq_ok_iff.1 h
      exact .document named opened read

theorem load_of_valid (based : Base find options base)
    (valid : (base.overlay options).validate = .ok ()) :
    load wording find options = .ok (base.overlay options) :=
  load_eq_ok_iff.2 ⟨base, (base_iff _).1 based, rfl, valid⟩

theorem load_of_invalid (based : Base find options base)
    (invalid : (base.overlay options).validate = .error error) :
    load wording find options =
      .error ((Failure.ofCause (.config error)).context "invalid configuration") := by
  cases based with
  | unnamed none =>
    simp only [load, none, pure, Except.pure, bind, Except.bind, invalid]
    rfl
  | document named opened read =>
    have given : ofFile wording find _ = .ok base := ofFile_eq_ok_iff.2 ⟨_, opened, read⟩
    simp only [load, named, given, bind, Except.bind, invalid]
    rfl

theorem ofFile_eq_error_iff :
    ofFile wording find path = .error failure ↔
      ∃ doing cause, Unread wording find path doing cause ∧
        failure = (Failure.ofCause cause).context (doing ++ path) := by
  constructor
  · intro failed
    unfold ofFile at failed
    cases found : find path with
    | error code =>
      rw [found] at failed
      cases failed
      exact ⟨_, _, .unopened found, rfl⟩
    | ok entry =>
      cases entry with
      | socket =>
        rw [found] at failed
        cases failed
        exact ⟨_, _, .socket found, rfl⟩
      | directory =>
        rw [found] at failed
        cases failed
        exact ⟨_, _, .directory found, rfl⟩
      | file content =>
        cases read : ofYaml content with
        | ok base => simp [found, read, Except.mapError] at failed
        | error trouble =>
          simp only [found, read, Except.mapError, Except.error.injEq] at failed
          exact ⟨_, _, .unparsed found read, failed.symm⟩
  · rintro ⟨doing, cause, bad, rfl⟩
    unfold ofFile
    cases bad with
    | unopened found | socket found | directory found => rw [found]
    | unparsed opened bad =>
      simp only [opened, bad]
      rfl

theorem load_of_unread {doing : String} {cause : Failure.Cause}
    (named : options.config = some path) (bad : Unread wording find path doing cause) :
    load wording find options = .error ((Failure.ofCause cause).context (doing ++ path)) := by
  have failed := ofFile_eq_error_iff.2 ⟨doing, cause, bad, rfl⟩
  simp [load, named, failed, bind, Except.bind]

-- A run finds something to lay its options over, or its document gives no configuration.
theorem base_or_unread (wording : Wording) (find : String → Except Int Entry) (options : Options) :
    (∃ base, Base find options base) ∨
      ∃ path doing cause, options.config = some path ∧ Unread wording find path doing cause := by
  cases named : options.config with
  | none => exact .inl ⟨.default, .unnamed named⟩
  | some path =>
    cases read : ofFile wording find path with
    | error failure =>
      obtain ⟨doing, cause, bad, -⟩ := ofFile_eq_error_iff.1 read
      exact .inr ⟨path, doing, cause, rfl, bad⟩
    | ok base => exact .inl ⟨base, (base_iff _).2 (by simpa [named] using read)⟩

theorem load_eq_error_iff :
    load wording find options = .error failure ↔
      (∃ path doing cause, options.config = some path ∧ Unread wording find path doing cause ∧
        failure = (Failure.ofCause cause).context (doing ++ path)) ∨
      ∃ base error, Base find options base ∧ RefusedFor (base.overlay options) error ∧
        failure = (Failure.ofCause (.config error)).context "invalid configuration" := by
  constructor
  · intro failed
    obtain ⟨base, based⟩ | ⟨path, doing, cause, named, bad⟩ := base_or_unread wording find options
    · cases checked : (base.overlay options).validate with
      | ok =>
        rw [load_of_valid based checked] at failed
        cases failed
      | error error =>
        rw [load_of_invalid based checked] at failed
        cases failed
        exact .inr ⟨base, error, based, validate_eq_error_iff.1 checked, rfl⟩
    · rw [load_of_unread named bad] at failed
      cases failed
      exact .inl ⟨path, doing, cause, named, bad, rfl⟩
  · rintro (⟨path, doing, cause, named, bad, rfl⟩ | ⟨base, error, based, refused, rfl⟩)
    · exact load_of_unread named bad
    · exact load_of_invalid based (validate_eq_error_iff.2 refused)

theorem message_of_context (context : String) (cause : Failure.Cause) :
    ((Failure.ofCause cause).context context).message = context ++ ": " ++ cause.message := rfl

-- A cause that is no error of the configuration does not pass for one.
theorem Unread.config?_eq_none {doing : String} {cause : Failure.Cause}
    (bad : Unread wording find path doing cause) : cause.config? = none := by
  cases bad <;> rfl

theorem refuses_iff {message : String} {found : Option Error} :
    (∃ failure, load wording find options = .error failure ∧ failure.message = message ∧
        failure.find? Failure.Cause.config? = found) ↔
      Refuses wording find options message found := by
  constructor
  · rintro ⟨failure, failed, rfl, rfl⟩
    obtain ⟨path, doing, cause, named, bad, rfl⟩ | ⟨base, error, based, refused, rfl⟩ :=
      load_eq_error_iff.1 failed
    · have unasked : ((Failure.ofCause cause).context (doing ++ path)).find?
          Failure.Cause.config? = none := by
        simp [bad.config?_eq_none]
      rw [message_of_context, unasked]
      exact .unread named bad
    · rw [message_of_context]
      exact .invalid based refused
  · intro h
    cases h with
    | unread named bad =>
      refine ⟨_, load_of_unread named bad, message_of_context _ _, ?_⟩
      simp [bad.config?_eq_none]
    | invalid based refused =>
      exact ⟨_, load_of_invalid based (validate_eq_error_iff.2 refused), message_of_context _ _, rfl⟩

-- The checks do not look at the mock backend.
theorem validate_withMock (config : Config) (mock : Option MockBackend) :
    (config.withMock mock).validate = config.validate := rfl

theorem validate_overlay_congr {other : Config}
    (agree : ∀ {α : Type} (setting : Setting α),
      setting.given? options = none → setting.get base = setting.get other) :
    (base.overlay options).validate = (other.overlay options).validate := by
  have same := withMock_overlay_eq_iff.2 agree none
  rw [← validate_withMock _ none, same, validate_withMock]

theorem refuses_of_agree {find' : String → Except Int Entry} {other : Config}
    (based : Base find options base) (based' : Base find' options other)
    (agree : ∀ {α : Type} (setting : Setting α),
      setting.given? options = none → setting.get base = setting.get other)
    (failed : load wording find options = .error failure) :
    load wording find' options = .error failure := by
  have same := validate_overlay_congr agree
  cases checked : (base.overlay options).validate with
  | ok =>
    rw [load_of_valid based checked] at failed
    cases failed
  | error error =>
    rw [load_of_invalid based checked] at failed
    rw [load_of_invalid based' (same ▸ checked), failed]

-- A run gets what its options give over its document, or over the defaults, exactly if that
-- satisfies every condition. Otherwise it is told why its document cannot be read, or the first
-- condition that is not satisfied. What the options give hides what the document says of it.
theorem first_violation_reported (wording : Wording) (find : String → Except Int Entry)
    (options : Options) :
    (∀ config, load wording find options = .ok config ↔
      ∃ base, Base find options base ∧ config = base.overlay options ∧
        ∀ condition, Condition.Holds config condition) ∧
      (∀ message found,
        (∃ failure, load wording find options = .error failure ∧ failure.message = message ∧
          failure.find? Failure.Cause.config? = found) ↔
        Refuses wording find options message found) ∧
      ∀ (find' : String → Except Int Entry) (base other : Config),
        Base find options base → Base find' options other →
        (∀ {α : Type} (setting : Setting α),
          setting.given? options = none → setting.get base = setting.get other) →
        ∀ failure,
          load wording find options = .error failure ↔
            load wording find' options = .error failure := by
  refine ⟨fun config => ?_, fun message found => refuses_iff, ?_⟩
  · simp only [load_eq_ok_iff, base_iff wording, valid_iff]
  · intro find' base other based based' agree failure
    constructor
    · exact refuses_of_agree based based' agree
    · exact refuses_of_agree based' based fun setting unsaid => (agree setting unsaid).symm

-- Of two violations only the first is told.
example :
    load ⟨fun _ => "", fun _ => ""⟩ (fun _ => .error notFound)
        { Options.none with preferredHeader := some "Upper", decisionServer := some "ftp://d/" } =
      .error ((Failure.ofCause (.config (.invalidHeaderName .preferredService "Upper"))).context
        "invalid configuration") := by
  decide +kernel

end Config

end RoutingProcessor
