import RoutingProcessor.Proofs.Server.Descent

namespace RoutingProcessor.Server

open Net Files

-- A step of a server whose listeners may end by themselves.
inductive AnyStep (config : ServerSection) (s t : State) : Prop where
  | step : Step config s t → AnyStep config s t
  | breakdown : Breakdown s t → AnyStep config s t

-- The states that any interleaving of such steps leads to.
inductive Disturbed (config : ServerSection) : State → Prop where
  | initial (files : Directory) : Disturbed config (.initial files)
  | step {s t : State} : Disturbed config s → AnyStep config s t → Disturbed config t

-- A listener that has ended while the call serves, and what the call returns for it.
inductive Exited (s : State) : Failure → Prop where
  | grpc {result : Except Failure Unit} :
    s.stage = .serving → s.grpcTask = .ended result → Exited s (exitFailure .grpc result)
  | mockBackend {result : Except Failure Unit} :
    s.stage = .serving → s.mockTask = .ended result → Exited s (exitFailure .mockBackend result)

namespace Exited

variable {s : State} {failure : Failure}

theorem serving (exited : Exited s failure) : s.stage = .serving := by
  cases exited with
  | grpc serving _ | mockBackend serving _ => exact serving

theorem breakdown (exited : Exited s failure) : Breakdown s (s.collapse failure) := by
  cases exited with
  | grpc serving ended => exact .grpcExited serving ended
  | mockBackend serving ended => exact .mockExited serving ended

end Exited

-- A call that gives up for a listener has told everybody to end, and has seen to the socket.
structure Collapsed (s t : State) (failure : Failure) : Prop where
  stage : t.stage = .returned (.error failure)
  status : t.status = { s.status with phase := .stopped }
  told : t.isGrpcCancelled = true ∧ t.isMockCancelled = true ∧ t.areStreamsAborted = true
  tasks : t.grpcTask = s.grpcTask ∧ t.mockTask = s.mockTask
  logged : .plain .error "server" ("listener failed, shutting down: " ++ failure.message) ∈ t.log
  unix : ∀ path, s.status.grpc = some (.unix path) → Unlinked path s.files t.files t.log
  tcp : ∀ socket, s.status.grpc = some (.tcp socket) → t.files = s.files

variable {config : ServerSection} {s t : State}

theorem State.collapsed (s : State) (failure : Failure) :
    Collapsed s (s.collapse failure) failure := by
  let told : State :=
    { s.logged .error ("listener failed, shutting down: " ++ failure.message) with
      isGrpcCancelled := true, isMockCancelled := true, areStreamsAborted := true }
  obtain ⟨files, log, removed⟩ := told.removeSocket_frame
  have ended : s.collapse failure =
      (told.removeSocket.publish .stopped).enter (.returned (.error failure)) := rfl
  constructor
  · rfl
  · rw [ended, removed]
    rfl
  · rw [ended, removed]
    exact ⟨rfl, rfl, rfl⟩
  · rw [ended, removed]
    exact ⟨rfl, rfl⟩
  · exact told.log_removeSocket.subset (List.mem_append_right _ (.head _))
  · exact fun path known => State.removeSocket_of_unix (s := told) known
  · intro socket known
    rw [ended, State.removeSocket_of_tcp (s := told) known]
    rfl

-- A listener that ends changes neither stage nor status as long as the call does not notice.
theorem Breakdown.rests_or_exited (h : Breakdown s t) :
    t.stage = s.stage ∧ t.status = s.status ∨
      ∃ failure, Exited s failure ∧ t = s.collapse failure := by
  cases h with
  | grpcEnds | mockEnds => exact .inl ⟨rfl, rfl⟩
  | grpcExited hs ended => exact .inr ⟨_, .grpc hs ended, rfl⟩
  | mockExited hs ended => exact .inr ⟨_, .mockBackend hs ended, rfl⟩

theorem Disturbed.published (disturbed : Disturbed config s) :
    Published config s.stage s.status := by
  induction disturbed with
  | initial => exact .created
  | step _ h ih =>
    cases h with
    | step h =>
      cases h with
      | own h => exact published_of_own h ih
      | act action => exact published_of_act action ih
    | breakdown h =>
      rcases h.rests_or_exited with ⟨stage, status⟩ | ⟨failure, _, rfl⟩
      · rw [stage, status]
        exact ih
      · rw [(State.collapsed _ failure).stage, (State.collapsed _ failure).status]
        exact .returned _ _ _

-- Until a call gives up for a listener it goes the ways of one whose listeners do not end.
theorem Disturbed.follows_or_exited (disturbed : Disturbed config s) (step : AnyStep config s t) :
    s.Settles t ∧ (t.status.phase = s.status.phase ∨ s.status.phase.Follows t.status.phase) ∨
      ∃ failure, Exited s failure ∧ t = s.collapse failure := by
  cases step with
  | step h =>
    exact .inl ⟨⟨keeps_of_step disturbed.published h, fun _ => returned_of_step h⟩,
      phase_of_step disturbed.published h⟩
  | breakdown h =>
    rcases h.rests_or_exited with ⟨stage, status⟩ | exited
    · exact .inl ⟨⟨status ▸ .refl _, fun result returned => stage.trans returned⟩,
        .inl (by rw [status])⟩
    · exact .inr exited

-- Whatever listeners end by themselves, and whenever: the phases come in their order, and
-- addresses and results stay. A server that serves is stopped at once if a listener has
-- ended, and for nothing else.
theorem listener_exit_ends_call (disturbed : Disturbed config s) (step : AnyStep config s t) :
    s.Settles t ∧
    (t.status.phase = s.status.phase ∨ s.status.phase.Follows t.status.phase ∨
      s.status.phase = .serving ∧ t.status.phase = .stopped) ∧
    (s.status.phase = .serving ∧ t.status.phase = .stopped ↔
      ∃ failure, Exited s failure ∧ t = s.collapse failure) ∧
    ∀ failure, Exited s failure → AnyStep config s (s.collapse failure) ∧
      Collapsed s (s.collapse failure) failure := by
  have exits (failure : Failure) (exited : Exited s failure) :
      AnyStep config s (s.collapse failure) ∧ Collapsed s (s.collapse failure) failure :=
    ⟨.breakdown exited.breakdown, s.collapsed failure⟩
  have stops : (∃ failure, Exited s failure ∧ t = s.collapse failure) →
      s.status.phase = .serving ∧ t.status.phase = .stopped := by
    rintro ⟨failure, exited, rfl⟩
    rw [disturbed.published.phase_eq, exited.serving, (s.collapsed failure).status]
    exact ⟨rfl, rfl⟩
  rcases disturbed.follows_or_exited step with ⟨settles, follows⟩ | ⟨failure, exited, rfl⟩
  · refine ⟨settles, follows.imp_right .inl, ⟨fun ⟨serving, stopped⟩ => ?_, stops⟩, exits⟩
    rw [serving, stopped] at follows
    rcases follows with same | follows
    · cases same
    · cases follows
  · have stopped := stops ⟨failure, exited, rfl⟩
    refine ⟨⟨?_, fun result returned => ?_⟩, .inr (.inr stopped),
      ⟨fun _ => ⟨failure, exited, rfl⟩, stops⟩, exits⟩
    · rw [(s.collapsed failure).status]
      exact .publish _ _
    · cases exited.serving.symm.trans returned

end RoutingProcessor.Server
