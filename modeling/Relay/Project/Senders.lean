import Relay.Project.Queues

/-!
# Senders waiting for a state

`get_state` either sends a usable state to its sender at once or attaches the sender to
the channel of the fetch in flight.  Attached senders are served together by the
`update_state` call that takes the channel, and by no other call.  Over a run, the senders
served and the senders still attached are therefore exactly the senders handed to
`get_state`, each once.
-/

namespace Relay

namespace Project

variable (ext : Collaborators)

theorem getCachedState_recipients (p : Project) (noCache : Bool) (now : Instant) :
    (p.getCachedState noCache now).2.2.filterMap Effect.recipient? = [] := by
  rw [(getCachedState_fst p noCache now).2, getOrFetchState_recipients]

/-- A call that does not take the channel serves at most its own sender, or attaches it;
it neither serves nor detaches a sender already attached. -/
theorem handle_recipients_of_kept {p : Project} (now : Instant) {op : Op}
    (kept : op.drains p = false) :
    ∃ served attachedNow, served ++ attachedNow = op.sender?.toList ∧
      (p.handle ext now op).2.filterMap Effect.recipient? = served ∧
      (p.handle ext now op).1.attached = p.attached ++ attachedNow := by
  cases op with
  | getState sender noCache =>
    have frame := getOrFetchState_fetchFrame p noCache now
    have fetched := getOrFetchState_recipients p noCache now
    rcases getState_shape p sender noCache now with
      ⟨_, _, served⟩ | ⟨channel, scheduled, served⟩
    · refine ⟨[sender], [], rfl, ?_, ?_⟩ <;>
        simp [handle, served, fetched, Effect.recipient?, frame.attached]
    · have opened := getOrFetchState_scheduled scheduled
      refine ⟨[], [sender], rfl, ?_, ?_⟩
      · simp [handle, served, fetched]
      · have senders : channel.senders = p.attached := by
          rw [← frame.attached, attached, opened]
          rfl
        simp [handle, served, attached, StateChannel.attach, senders]
  | getCachedState noCache | prefetch noCache =>
    exact ⟨[], [], rfl, getCachedState_recipients p noCache now,
      by simpa using (getCachedState_fetchFrame p noCache now).attached⟩
  | enqueueValidation envelope context =>
    have frame := getCachedState_fetchFrame p envelope.meta.noCache now
    have fetched := getCachedState_recipients p envelope.meta.noCache now
    refine ⟨[], [], rfl, ?_⟩
    rcases enqueueValidation_shape ext p envelope context now with
      ⟨state, _, served⟩ | ⟨_, served⟩
    · have same := flushValidation_sameButRateLimits ext
        (p.getCachedState envelope.meta.noCache now).1 envelope context state now
      refine ⟨by simp [handle, served, fetched], ?_⟩
      simp only [handle, served]
      rw [attached, same.stateChannel, List.append_nil]
      exact frame.attached
    · exact ⟨by simp [handle, served, fetched], by simpa [handle, served] using frame.attached⟩
  | enqueueSampling message =>
    have frame := getCachedState_fetchFrame p message.envelope.meta.noCache now
    have fetched := getCachedState_recipients p message.envelope.meta.noCache now
    refine ⟨[], [], rfl, ?_⟩
    rcases enqueueSampling_shape p message now with ⟨_, served⟩ | ⟨_, served⟩
    · have sampled := Effect.recipient?_of_quiet (flushSampling_quiet
        (p.getCachedState message.envelope.meta.noCache now).1 message now)
      exact ⟨by simp [handle, served, fetched, sampled], by simpa [handle, served] using
        frame.attached⟩
    · exact ⟨by simp [handle, served, fetched], by simpa [handle, served] using frame.attached⟩
  | checkEnvelope envelope context =>
    refine ⟨[], [], rfl, Effect.recipients_of_all_quiet (checkEnvelope_quiet ext ..), ?_⟩
    simp [handle, attached, (checkEnvelope_sameButRateLimits ext p envelope context now).stateChannel]
  | flushBuckets partitionKey buckets =>
    obtain ⟨project, tail, effects, quiet⟩ := flushBuckets_shape ext p partitionKey buckets now
    refine ⟨[], [], rfl, ?_, ?_⟩
    · simp [handle, effects, getCachedState_recipients, Effect.recipients_of_all_quiet quiet]
    · simpa [handle, project] using (getCachedState_fetchFrame p false now).attached
  | mergeRateLimits rateLimits => exact ⟨[], [], rfl, rfl, (List.append_nil _).symm⟩
  | updateState state noCache =>
    exact ⟨[], [], rfl, by simp [handle, updateState_of_not_consumes ext kept],
      by simp [handle, updateState_of_not_consumes ext kept]⟩

/-- The call that takes the channel serves exactly the attached senders and detaches them. -/
theorem handle_recipients_of_drains {p : Project} (now : Instant) {op : Op}
    (drained : op.drains p) :
    (p.handle ext now op).2.filterMap Effect.recipient? = p.attached ∧
      (p.handle ext now op).1.attached = [] := by
  cases op with
  | updateState state noCache =>
    have taken : p.consumes noCache := drained
    refine ⟨?_, by simp [handle, attached, (updateState_drains ext taken state now).2.2]⟩
    unfold consumes at taken
    split at taken
    · rename_i channel opened
      rw [handle, updateState_of_consumes ext opened (by simpa only [Bool.not_eq_true'] using taken)]
      simp only [List.filterMap_append, flushValidations_recipients, flushSamplings_recipients,
        sendStates_recipients, List.nil_append, attached, opened, Option.map_some', Option.getD_some]
    · simp at taken
  | _ => simp [Op.drains] at drained

end Project

namespace System

variable (ext : Collaborators)

/-- The senders served so far, in order. -/
def served (s : System) : List ProjectSender := s.log.filterMap (·.effect.recipient?)

theorem served_step (s : System) (op : Op) :
    (s.step ext op).served =
      s.served ++ (s.project.handle ext s.now op).2.filterMap Effect.recipient? := by
  simp [served, step, List.filterMap_append, List.filterMap_map, Function.comp_def]

/-- Over every run, the senders served and those still attached are, up to order, exactly
the senders handed to `get_state`. -/
theorem served_attached_perm_handed {key : ProjectKey} {config : Config} {start : Instant}
    {s : System} (reachable : Reachable ext key config start s) :
    (s.served ++ s.project.attached).Perm s.handed := by
  induction reachable with
  | init => simp [served, init, Project.new, Project.attached]
  | tick elapsed _ ih => exact ih
  | step op _ ih =>
    rename_i s _
    rw [served_step]
    cases drained : op.drains s.project
    · obtain ⟨servedNow, attachedNow, split, servedEq, attachedEq⟩ :=
        Project.handle_recipients_of_kept ext s.now drained
      have handed : (s.step ext op).handed = s.handed ++ servedNow ++ attachedNow := by
        simp [step, split]
      rw [handed, servedEq]
      change (s.served ++ servedNow ++ (s.project.handle ext s.now op).1.attached).Perm _
      rw [attachedEq]
      have reordered : (s.served ++ servedNow ++ (s.project.attached ++ attachedNow)).Perm
          (s.served ++ s.project.attached ++ servedNow ++ attachedNow) := by
        simpa only [List.append_assoc] using
          (List.perm_append_comm.append_right attachedNow).append_left s.served
      exact reordered.trans ((ih.append_right servedNow).append_right attachedNow)
    · obtain ⟨servedEq, attachedEq⟩ := Project.handle_recipients_of_drains ext s.now drained
      have handed : (s.step ext op).handed = s.handed := by
        cases op <;> simp_all [step, Op.drains, Op.sender?]
      rw [handed, servedEq]
      change (s.served ++ s.project.attached ++ (s.project.handle ext s.now op).1.attached).Perm _
      rw [attachedEq, List.append_nil]
      exact ih

/-- Each sender handed to `get_state` is served at once or attached until the call that takes
the channel serves it: once, and never dropped.  An `update_state` that takes no channel
changes nothing and sends nothing. -/
theorem senders_served_exactly_once {key : ProjectKey} {config : Config} {start : Instant}
    {s : System} (reachable : Reachable ext key config start s) :
    (s.served ++ s.project.attached).Perm s.handed ∧
      (∀ op, op.drains s.project = false → ∃ servedNow attachedNow,
        servedNow ++ attachedNow = op.sender?.toList ∧
          (s.step ext op).served = s.served ++ servedNow ∧
          (s.step ext op).project.attached = s.project.attached ++ attachedNow) ∧
      (∀ op, op.drains s.project →
        (s.step ext op).served = s.served ++ s.project.attached ∧
          (s.step ext op).project.attached = []) ∧
      ∀ state noCache, (s.project.stateChannel = none ∨ ∃ channel,
          s.project.stateChannel = some channel ∧ channel.noCache = true ∧ noCache = false) →
        s.project.updateState ext state noCache s.now = (s.project, []) := by
  refine ⟨served_attached_perm_handed ext reachable, fun op kept => ?_, fun op drained => ?_,
    fun state noCache ignored => Project.updateState_of_not_consumes ext ?_ state s.now⟩
  · obtain ⟨servedNow, attachedNow, split, servedEq, attachedEq⟩ :=
      Project.handle_recipients_of_kept ext s.now kept
    exact ⟨servedNow, attachedNow, split, by rw [served_step, servedEq], attachedEq⟩
  · obtain ⟨servedEq, attachedEq⟩ := Project.handle_recipients_of_drains ext s.now drained
    exact ⟨by rw [served_step, servedEq], attachedEq⟩
  · rcases ignored with closed | ⟨channel, opened, upgraded, plain⟩
    · simp [Project.consumes, closed]
    · simp [Project.consumes, opened, upgraded, plain]

/-- A project without a state attaches the sender of `get_state` to its fetch, and the answer
that takes the channel serves that sender. -/
theorem attachedSystem_served :
    let attached := (init 0 Sample.config 0).step Sample.collaborators (.getState ⟨1⟩ false)
    let answered := attached.step Sample.collaborators (.updateState Sample.answer false)
    attached.project.attached = [⟨1⟩] ∧
      (attached.served ++ attached.project.attached).Perm attached.handed ∧
      answered.served = attached.served ++ attached.project.attached ∧
      answered.project.attached = [] := by
  intro attached answered
  have law := senders_served_exactly_once Sample.collaborators (.step _ .init : Reachable
    Sample.collaborators 0 Sample.config 0 attached)
  exact ⟨by decide, law.1, law.2.2.1 _ (by decide)⟩

end System

end Relay
