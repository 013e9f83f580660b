import Copresence.Client.Reporting

/-! What becomes of an audit event that leaves the outbox. A 200 and an
`audit.ack` both mean that the event is in the log; that `sendBeacon` queued a
body means nothing of the kind, and one of the three places that delete an
entry takes it for a confirmation. -/
namespace Copresence

open Collections

namespace Reporting

/-- Every event that was added and is not stored any more, neither expired nor
pruned, is in the log, and a 200 or an `audit.ack` told the page so. -/
def Accounted (reporting : Reporting) : Prop :=
  ∀ eventId ∈ reporting.added, ¬ reporting.Stored eventId →
    reporting.removed eventId ≠ some .expired → reporting.removed eventId ≠ some .pruned →
      eventId ∈ reporting.acknowledged ∧ reporting.server.Reported eventId

/-- The call is about to delete an entry that `sendBeacon` has queued, still
stored and not known to have arrived. -/
def ForgetsNext (reporting : Reporting) : Task → Prop
  | .clearing .sendBestEffort entry _ =>
    reporting.Stored entry.eventId ∧ entry.eventId ∉ reporting.acknowledged
  | _ => False

/-- The step carries out such a deletion. -/
def Forgets (reporting : Reporting) : PageEvent → Prop
  | .resume _ _ task => reporting.tasks[task]?.elim False reporting.ForgetsNext
  | _ => False

instance (reporting : Reporting) : DecidablePred reporting.ForgetsNext := by
  intro task
  unfold ForgetsNext
  split <;> infer_instance

instance (reporting : Reporting) : DecidablePred reporting.Forgets := by
  intro event
  unfold Forgets
  split
  · next task =>
      cases reporting.tasks[task]? with
      | none => exact instDecidableFalse
      | some found => exact inferInstanceAs (Decidable (reporting.ForgetsNext found))
  · infer_instance

section Effects

variable {reporting : Reporting}

/-- Deleting one entry leaves all others stored. -/
theorem delete_stored {removal : Removal} {eventId other : EventId} :
    (reporting.delete removal eventId).Stored other ↔
      other ≠ eventId ∧ reporting.Stored other := by
  rw [delete]
  by_cases hs : reporting.Stored eventId
  · rw [if_pos hs]
    show ((JsMap.delete reporting.storage eventId).get? other).isSome ↔ _
    rw [JsMap.get?_delete]
    by_cases he : other = eventId
    · simp [he]
    · simp [he, Stored]
  · rw [if_neg hs]
    constructor
    · intro h
      refine ⟨?_, h⟩
      intro he
      exact hs (he ▸ h)
    · exact And.right

/-- An entry that is put is stored, and accounted for. -/
theorem Accounted.put (accounted : reporting.Accounted) (entry : OutboxEntry) :
    (reporting.put entry).Accounted := by
  intro eventId hAdded gone notExpired notPruned
  by_cases he : eventId = entry.eventId
  · apply absurd _ gone
    rw [he]
    show ((reporting.storage.set entry.eventId entry).get? entry.eventId).isSome
    rw [JsMap.get?_set_self]
    rfl
  · have hOld := (List.mem_cons.mp hAdded).resolve_left he
    have same : (reporting.put entry).removed eventId = reporting.removed eventId :=
      Function.update_of_ne he _ _
    rw [same] at notExpired notPruned
    apply accounted eventId hOld _ notExpired notPruned
    intro hStored
    apply gone
    show ((reporting.storage.set entry.eventId entry).get? eventId).isSome
    rw [JsMap.get?_set_ne _ _ he]
    exact hStored

/-- A deletion is accounted for when it is an expiry, a pruning, or confirmed. -/
theorem Accounted.delete (accounted : reporting.Accounted) (removal : Removal) (eventId : EventId)
    (confirmed : reporting.Stored eventId → removal = .cleared →
      eventId ∈ reporting.acknowledged ∧ reporting.server.Reported eventId) :
    (reporting.delete removal eventId).Accounted := by
  rw [Reporting.delete]
  by_cases hs : reporting.Stored eventId
  · rw [if_pos hs]
    intro other hAdded gone notExpired notPruned
    by_cases he : other = eventId
    · subst he
      have hRemoved : Function.update reporting.removed other (some removal) other =
          some removal := Function.update_self _ _ _
      apply confirmed hs
      cases removal with
      | pruned => exact absurd hRemoved notPruned
      | expired => exact absurd hRemoved notExpired
      | cleared => rfl
    · have same : Function.update reporting.removed eventId (some removal) other =
          reporting.removed other := Function.update_of_ne he _ _
      refine accounted other hAdded ?_ (same ▸ notExpired) (same ▸ notPruned)
      intro hStored
      apply gone
      show ((JsMap.delete reporting.storage eventId).get? other).isSome
      rw [JsMap.get?_delete_ne _ he]
      exact hStored
  · rw [if_neg hs]
    exact accounted

/-- One acknowledgement more keeps every entry accounted for. -/
theorem Accounted.acknowledge (accounted : reporting.Accounted) (eventId : EventId) :
    (reporting.acknowledge eventId).Accounted := by
  intro other hAdded gone notExpired notPruned
  obtain ⟨acknowledged, reported⟩ := accounted other hAdded gone notExpired notPruned
  exact ⟨List.mem_cons_of_mem _ acknowledged, reported⟩

/-- The server forgets no event it has. -/
theorem Accounted.serve (accounted : reporting.Accounted) {after : Server}
    (audits : reporting.server.Audits after) : { reporting with server := after }.Accounted := by
  intro eventId hAdded gone notExpired notPruned
  obtain ⟨acknowledged, reported⟩ := accounted eventId hAdded gone notExpired notPruned
  exact ⟨acknowledged, audits.reported reported⟩

/-- Reports that begin are not stored yet and need no account. -/
theorem Accounted.emitAll (accounted : reporting.Accounted) (now : Int)
    (emitted : Page × List AuditMessage) : (reporting.emitAll now emitted).Accounted := by
  rw [Reporting.emitAll]
  have turned : { reporting with page := emitted.1 }.Accounted := accounted
  generalize { reporting with page := emitted.1 } = start at turned
  induction emitted.2 generalizing start with
  | nil => exact turned
  | cons message messages ih => exact ih (emit now start message) turned

/-- A deletion nobody confirmed is not. -/
theorem not_accounted_of_clear (wf : reporting.WellFormed) {eventId : EventId}
    (stored : reporting.Stored eventId) (unknown : eventId ∉ reporting.acknowledged) :
    ¬ (reporting.delete .cleared eventId).Accounted := by
  intro accounted
  have gone : ¬ (reporting.delete .cleared eventId).Stored eventId :=
    fun h => (delete_stored.mp h).1 rfl
  unfold Reporting.delete at accounted gone
  rw [if_pos stored] at accounted gone
  have hRemoved : Function.update reporting.removed eventId (some .cleared) eventId =
      some Removal.cleared := Function.update_self _ _ _
  have notExpired : Function.update reporting.removed eventId (some .cleared) eventId ≠
      some Removal.expired := by rw [hRemoved]; decide
  have notPruned : Function.update reporting.removed eventId (some .cleared) eventId ≠
      some Removal.pruned := by rw [hRemoved]; decide
  exact unknown (accounted eventId (wf.stored eventId stored) gone notExpired notPruned).1

end Effects

/-- A stage keeps the accounts exactly when it is not the deletion of an entry
on the word of `sendBeacon` alone. -/
theorem resume_accounted_iff {reporting : Reporting} (wf : reporting.WellFormed)
    (accounted : reporting.Accounted) (now : Int) (answer : Bool) (index : Nat) {task : Task}
    (sound : reporting.Sound task) :
    (reporting.resume now answer index task).Accounted ↔ ¬ reporting.ForgetsNext task := by
  cases task with
  | adding entry => exact iff_of_true (accounted.put entry) not_false
  | counting entry => exact iff_of_true accounted not_false
  | pruning entry excess =>
      cases excess with
      | nil => exact iff_of_true accounted not_false
      | cons oldest rest =>
          have pruned := accounted.delete .pruned oldest.eventId
            (fun _ h => nomatch h)
          exact iff_of_true pruned not_false
  | sending entry =>
      refine iff_of_true ?_ not_false
      show (if answer then _ else _ : Reporting).Accounted
      split
      · exact accounted
      · exact accounted
  | awaiting entry request =>
      refine iff_of_true ?_ not_false
      show (if _ then _ else _ : Reporting).Accounted
      split
      · exact accounted.acknowledge entry.eventId
      · exact accounted
  | confirming eventId =>
      have cleared := accounted.delete .cleared eventId
        (fun _ _ => ⟨sound, wf.acknowledged eventId sound⟩)
      exact iff_of_true cleared not_false
  | reading sender => exact iff_of_true accounted not_false
  | flushing sender pending =>
      refine iff_of_true ?_ not_false
      cases pending with
      | nil => exact accounted
      | cons entry rest =>
          show (if _ then _ else _ : Reporting).Accounted
          split
          · exact accounted
          · cases sender with
            | sendConfirmable => exact accounted
            | sendBestEffort =>
                show (if answer then _ else _ : Reporting).Accounted
                split
                · exact accounted
                · exact accounted
  | expiring sender entry rest =>
      have expired := accounted.delete .expired entry.eventId
        (fun _ h => nomatch h)
      exact iff_of_true expired not_false
  | asking entry request rest =>
      refine iff_of_true ?_ not_false
      show (if _ then _ else _ : Reporting).Accounted
      split
      · exact accounted.acknowledge entry.eventId
      · exact accounted
  | clearing sender entry rest =>
      cases sender with
      | sendConfirmable =>
          have cleared := accounted.delete .cleared entry.eventId
            (fun _ _ => ⟨sound, wf.acknowledged _ sound⟩)
          exact iff_of_true cleared not_false
      | sendBestEffort =>
          constructor
          · intro after ⟨stored, unknown⟩
            exact not_accounted_of_clear wf stored unknown after
          · intro remembers
            apply accounted.delete .cleared entry.eventId
            intro stored _
            have known := not_not.mp (fun unknown => remembers ⟨stored, unknown⟩)
            exact ⟨known, wf.acknowledged _ known⟩
  | done => exact iff_of_true accounted not_false

/-- An event keeps the accounts unless it forgets a report. -/
theorem step_accounted_iff (cfg : Config) {reporting : Reporting} (event : PageEvent)
    (wf : reporting.WellFormed) (accounted : reporting.Accounted) :
    (reporting.step cfg event).Accounted ↔ ¬ reporting.Forgets event := by
  cases event with
  | resume now answer task =>
      show (reporting.advance now answer task).Accounted ↔
        ¬ reporting.tasks[task]?.elim False reporting.ForgetsNext
      rw [advance]
      cases hf : reporting.tasks[task]? with
      | none => exact iff_of_true accounted not_false
      | some found =>
          have sound := wf.tasks found (List.mem_of_getElem? hf)
          exact resume_accounted_iff wf accounted now answer task sound
  | start now eventId state =>
      have flushed : (reporting.flushPending .sendConfirmable).Accounted := accounted
      exact iff_of_true (flushed.emitAll now _) not_false
  | visibilityChange now changeId sessionId state =>
      exact iff_of_true (accounted.emitAll now _) not_false
  | pageHide persisted => exact iff_of_true accounted not_false
  | reload sid pid => exact iff_of_true accounted not_false
  | fail task => exact iff_of_true accounted not_false
  | ack eventId =>
      refine iff_of_true ?_ not_false
      show (reporting.handleAck eventId).Accounted
      rw [handleAck]
      split
      · exact accounted.acknowledge eventId
      · exact accounted
  | arrive now request =>
      refine iff_of_true ?_ not_false
      show (reporting.arrive now request).Accounted
      rw [arrive]
      split
      · exact accounted
      · next body _ =>
          have served := accounted.serve
            (Server.audits_beacon now reporting.server (.parsed (.audit body)))
          split
          · next hb =>
              rw [hb] at served
              exact served
          · next hb =>
              rw [hb] at served
              exact served
  | serve stamped =>
      have served := accounted.serve (Server.step_audits cfg reporting.server stamped)
      exact iff_of_true served not_false

/-- In every interleaving, every event that left the outbox is accounted for
throughout exactly when no deletion trusts `sendBeacon` alone. -/
theorem accounted_always_iff (cfg : Config) (page : Page) (events : List PageEvent) :
    Transition.Always (step cfg) Accounted (initial page) events ↔
      Transition.Along (step cfg) (fun reporting event => ¬ reporting.Forgets event)
        (initial page) events := by
  have nothing : (initial page).Accounted := by
    intro eventId h
    cases h
  have keeps : ∀ reporting event, True → WellFormed reporting →
      WellFormed (reporting.step cfg event) := fun _ event _ wf => wf.step cfg event
  have exact_step : ∀ reporting event, True → WellFormed reporting → reporting.Accounted →
      ((reporting.step cfg event).Accounted ↔ ¬ reporting.Forgets event) :=
    fun _ event _ wf accounted => step_accounted_iff cfg event wf accounted
  exact Transition.always_iff_along keeps exact_step (initial_wellFormed page) nothing
    (fun _ _ => trivial)

open Scenario

/-- A visible page starts without a connection, stores and posts its
`session.start` in vain, and is closed. The browser queues the beacon, and
the beacon never arrives. -/
def unloadOffline : List PageEvent :=
  [.start 0 (freshId 0) .visible,
    .resume 0 false 1, .resume 0 false 1, .resume 0 false 1, .resume 0 false 1,
    .resume 0 false 1,
    .pageHide false,
    .resume 1 true 2, .resume 1 true 2, .resume 1 true 2]

/-- The event is gone from the outbox, and no report of it is anywhere. -/
theorem unloadOffline_lost :
    ¬ Transition.Always (step (config 100)) Accounted
        (initial { wire := createWireContext session alice }) unloadOffline := by
  intro always
  have accounted := Transition.always_iff_prefix.mp always unloadOffline (List.prefix_refl _)
  obtain ⟨_, entry, hEntry, _⟩ :=
    accounted (freshId 0) (by decide) (by decide) (by decide) (by decide)
  have nothing : (Transition.run (step (config 100))
      (initial { wire := createWireContext session alice }) unloadOffline).server.recorded =
        [] := rfl
  rw [nothing] at hEntry
  cases hEntry

end Reporting

end Copresence
