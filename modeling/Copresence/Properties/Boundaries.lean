import Copresence.Client.Lifecycle
import Copresence.Lib.Run
import Mathlib.Data.List.Chain

/-! The session.start and session.end messages of one page: how they alternate
and when they follow the page's visibility. -/
namespace Copresence

namespace Lifecycle

/-- The session boundaries among the messages, in order. -/
def boundaries (messages : List AuditMessage) : List AuditEventKind :=
  (messages.map fun message => message.body.kind).filter fun kind =>
    kind = .sessionStart ∨ kind = .sessionEnd

/-- Each boundary differs from the one before, and the first is a start. -/
def Alternating (found : List AuditEventKind) : Prop :=
  found.IsChain (· ≠ ·) ∧ found.head? ≠ some .sessionEnd

/-- The lifecycle is started and has taken note of the visibility. -/
def UpToDate (lifecycle : Lifecycle) : Prop :=
  lifecycle.listening = true ∧
    lifecycle.page.lastVisibilityState = some lifecycle.visibilityState

/-- The last boundary is a start exactly when the page is visible. -/
def Follows (lifecycle : Lifecycle) : Prop :=
  (boundaries lifecycle.built).getLast? = some .sessionStart ↔
    lifecycle.visibilityState = .visible

def Bounded (lifecycle : Lifecycle) : Prop :=
  Alternating (boundaries lifecycle.built) ∧ (lifecycle.UpToDate → lifecycle.Follows)

/-- No start on a hidden page whose session is still open. -/
def StartsClosed (lifecycle : Lifecycle) (event : LifecycleEvent) : Prop :=
  ∀ now eventId, event = .start now eventId → lifecycle.visibilityState = .hidden →
    lifecycle.page.sessionOpen = false

theorem boundaries_append (before after : List AuditMessage) :
    boundaries (before ++ after) = boundaries before ++ boundaries after := by
  rw [boundaries, List.map_append, List.filter_append]
  rfl

/-- A session is open where the last boundary is a start. -/
structure Tracks (built : List AuditMessage) (sessionOpen : Bool) : Prop where
  alternating : Alternating (boundaries built)
  last : (boundaries built).getLast? = some .sessionStart ↔ sessionOpen = true

/-- While the listeners are there, a session is open as the page was last noted
to be visible. -/
def Settled (lifecycle : Lifecycle) : Prop :=
  lifecycle.listening = true → ∀ state, lifecycle.page.lastVisibilityState = some state →
    (lifecycle.page.sessionOpen = true ↔ state = .visible)

/-- Messages that are no boundaries leave the session as it is, and one boundary
turns it over. -/
inductive Turns : Bool → List AuditMessage → Bool → Prop where
  | stays {sessionOpen : Bool} {messages : List AuditMessage} (h : boundaries messages = []) :
      Turns sessionOpen messages sessionOpen
  | opens {messages : List AuditMessage} (h : boundaries messages = [.sessionStart]) :
      Turns false messages true
  | closes {messages : List AuditMessage} (h : boundaries messages = [.sessionEnd]) :
      Turns true messages false

/-- One boundary more that differs from the last, and is a start if there was
none. -/
theorem Alternating.concat {found : List AuditEventKind} {kind : AuditEventKind}
    (alternating : Alternating found) (other : found.getLast? ≠ some kind)
    (starts : found = [] → kind ≠ .sessionEnd) : Alternating (found ++ [kind]) := by
  obtain ⟨chain, first⟩ := alternating
  constructor
  · apply chain.append (List.isChain_singleton _)
    intro one hOne next hNext same
    simp only [List.head?_cons, Option.mem_def, Option.some.injEq] at hNext
    rw [same, ← hNext] at hOne
    exact other hOne
  · rw [List.head?_append]
    cases hd : found.head? with
    | none => simpa using starts (List.head?_eq_none_iff.mp hd)
    | some kind => rwa [hd] at first

theorem Tracks.append {built messages : List AuditMessage} {before after : Bool}
    (tracks : Tracks built before) (turns : Turns before messages after) :
    Tracks (built ++ messages) after := by
  obtain ⟨alternating, last⟩ := tracks
  cases turns with
  | stays h =>
      constructor
      · rw [boundaries_append, h, List.append_nil]
        exact alternating
      · rw [boundaries_append, h, List.append_nil]
        exact last
  | opens h =>
      have notOpen : (boundaries built).getLast? ≠ some .sessionStart := by simpa using last
      constructor
      · rw [boundaries_append, h]
        apply alternating.concat notOpen
        simp
      · simp [boundaries_append, h]
  | closes h =>
      have isOpen : (boundaries built).getLast? = some .sessionStart := last.mpr rfl
      constructor
      · rw [boundaries_append, h]
        apply alternating.concat
        · simp [isOpen]
        · intro none
          rw [none] at isOpen
          cases isOpen
      · simp [boundaries_append, h]

/-- A message that is no boundary changes nothing in front of others. -/
theorem Turns.cons {before after : Bool} {message : AuditMessage} {messages : List AuditMessage}
    (turns : Turns before messages after) (h : boundaries [message] = []) :
    Turns before (message :: messages) after := by
  have same : boundaries (message :: messages) = boundaries messages := by
    rw [← List.singleton_append, boundaries_append, h, List.nil_append]
  cases turns with
  | stays hm => exact .stays (same.trans hm)
  | opens hm => exact .opens (same.trans hm)
  | closes hm => exact .closes (same.trans hm)

section Handlers

variable (now : Int) (changeId eventId : EventId) (page : Page)

theorem openSession_turns :
    Turns page.sessionOpen (page.openSession now eventId).2 true ∧
      (page.openSession now eventId).1.sessionOpen = true ∧
      (page.openSession now eventId).1.lastVisibilityState = page.lastVisibilityState := by
  rw [Page.openSession]
  split
  · next isOpen =>
      rw [isOpen]
      exact ⟨.stays rfl, rfl, rfl⟩
  · next closed =>
      rw [Bool.not_eq_true] at closed
      rw [closed]
      exact ⟨.opens rfl, rfl, rfl⟩

theorem closeSession_turns (reason : EndReason) :
    Turns page.sessionOpen (page.closeSession now eventId reason).2 false ∧
      (page.closeSession now eventId reason).1.sessionOpen = false ∧
      (page.closeSession now eventId reason).1.lastVisibilityState = page.lastVisibilityState := by
  rw [Page.closeSession]
  split
  · next isOpen =>
      rw [isOpen]
      exact ⟨.closes rfl, rfl, rfl⟩
  · next closed =>
      rw [Bool.not_eq_true] at closed
      rw [closed]
      exact ⟨.stays rfl, rfl, rfl⟩

/-- A visibility that is news opens or closes the session. -/
theorem onVisibilityChange_turns (state : VisibilityState)
    (news : page.lastVisibilityState ≠ some state) :
    Turns page.sessionOpen (page.onVisibilityChange now changeId eventId state).2
        (page.onVisibilityChange now changeId eventId state).1.sessionOpen ∧
      ((page.onVisibilityChange now changeId eventId state).1.sessionOpen = true ↔
        state = .visible) ∧
      (page.onVisibilityChange now changeId eventId state).1.lastVisibilityState = some state := by
  let noted : Page :=
    { page with
      wire := (buildVisibilityChange page.wire now changeId state).1
      lastVisibilityState := some state }
  have change : boundaries [(buildVisibilityChange page.wire now changeId state).2] = [] := rfl
  rw [Page.onVisibilityChange, if_neg news]
  cases state with
  | visible =>
      obtain ⟨turns, isOpen, seen⟩ := openSession_turns now eventId noted
      exact ⟨isOpen ▸ turns.cons change, by simpa using isOpen, seen⟩
  | hidden =>
      obtain ⟨turns, closed, seen⟩ := closeSession_turns now eventId noted .navigate
      exact ⟨closed ▸ turns.cons change, by simpa using closed, seen⟩

theorem start_turns (state : VisibilityState) :
    Turns page.sessionOpen (page.start now eventId state).2
        (page.start now eventId state).1.sessionOpen ∧
      ((page.start now eventId state).1.sessionOpen = true ↔
        page.sessionOpen = true ∨ state = .visible) ∧
      (page.start now eventId state).1.lastVisibilityState = some state := by
  cases state with
  | visible =>
      obtain ⟨turns, isOpen, noted⟩ :=
        openSession_turns now eventId { page with lastVisibilityState := some .visible }
      rw [Page.start, isOpen, noted]
      exact ⟨turns, by simp, rfl⟩
  | hidden => exact ⟨.stays rfl, by simp [Page.start], rfl⟩

end Handlers

section Step

variable {lifecycle : Lifecycle} (event : LifecycleEvent)

theorem tracks_step (tracks : Tracks lifecycle.built lifecycle.page.sessionOpen) :
    Tracks (lifecycle.step event).built (lifecycle.step event).page.sessionOpen := by
  cases event with
  | start now eventId => exact tracks.append (start_turns now eventId _ _).1
  | stop => exact tracks
  | visibility state => exact tracks
  | visibilityChange now changeId sessionId =>
      rw [step]
      split
      · by_cases news : lifecycle.page.lastVisibilityState = some lifecycle.visibilityState
        · rw [Page.onVisibilityChange, if_pos news]
          exact tracks.append (.stays rfl)
        · exact tracks.append (onVisibilityChange_turns now changeId sessionId _ _ news).1
      · exact tracks
  | pageHide persisted => exact tracks

/-- A start on a hidden page with an open session is all that unsettles. -/
theorem settled_step (settled : lifecycle.Settled) (startsClosed : lifecycle.StartsClosed event) :
    (lifecycle.step event).Settled := by
  cases event with
  | start now eventId =>
      obtain ⟨_, isOpen, noted⟩ := start_turns now eventId lifecycle.page lifecycle.visibilityState
      intro _ state hs
      obtain rfl := Option.some.inj (noted.symm.trans hs)
      refine isOpen.trans ⟨?_, Or.inr⟩
      rintro (wasOpen | visible)
      · cases hv : lifecycle.visibilityState with
        | visible => rfl
        | hidden =>
            rw [startsClosed now eventId rfl hv] at wasOpen
            cases wasOpen
      · exact visible
  | stop =>
      intro h
      cases h
  | visibility state => exact settled
  | visibilityChange now changeId sessionId =>
      rw [step]
      split
      · by_cases news : lifecycle.page.lastVisibilityState = some lifecycle.visibilityState
        · rw [Page.onVisibilityChange, if_pos news]
          exact settled
        · obtain ⟨_, isOpen, noted⟩ :=
            onVisibilityChange_turns now changeId sessionId lifecycle.page _ news
          intro _ state hs
          obtain rfl := Option.some.inj (noted.symm.trans hs)
          exact isOpen
      · exact settled
  | pageHide persisted => exact settled

/-- A start on a hidden page whose session is open leaves it open. -/
theorem startsClosed_of_bounded (tracks : Tracks lifecycle.built lifecycle.page.sessionOpen)
    (bounded : (lifecycle.step event).Bounded) : lifecycle.StartsClosed event := by
  rintro now eventId rfl hidden
  obtain ⟨_, isOpen, noted⟩ := start_turns now eventId lifecycle.page lifecycle.visibilityState
  have last := (tracks_step (.start now eventId) tracks).last
  have follows := bounded.2 ⟨rfl, noted⟩
  rw [Follows, last] at follows
  have visible := isOpen.symm.trans follows
  rw [show (lifecycle.step (.start now eventId)).visibilityState = lifecycle.visibilityState from rfl,
    hidden] at visible
  simpa using visible

end Step

/-- The boundaries of every run alternate, and follow the visibility in all its
states exactly when no start finds the page hidden and a session open. -/
theorem bounded_iff (wire : WireContext) (visibilityState : VisibilityState)
    (events : List LifecycleEvent) :
    Alternating
        (boundaries (Transition.run step (createLifecycle wire visibilityState) events).built) ∧
      (Transition.Always step Bounded (createLifecycle wire visibilityState) events ↔
        Transition.Along step StartsClosed (createLifecycle wire visibilityState) events) := by
  have start : Tracks (createLifecycle wire visibilityState).built
      (createLifecycle wire visibilityState).page.sessionOpen := by
    refine ⟨⟨List.IsChain.nil, by simp [boundaries, createLifecycle]⟩, ?_⟩
    simp [boundaries, createLifecycle]
  constructor
  · apply Tracks.alternating
    exact Transition.invariant_run
      (P := fun lifecycle : Lifecycle => Tracks lifecycle.built lifecycle.page.sessionOpen)
      (fun _ event tracks => tracks_step event tracks) start events
  · apply Transition.always_iff_along_of_kept (R := fun lifecycle : Lifecycle =>
        Tracks lifecycle.built lifecycle.page.sessionOpen ∧ lifecycle.Settled)
    · intro lifecycle ⟨tracks, settled⟩
      refine ⟨tracks.alternating, fun upToDate => ?_⟩
      rw [Follows, tracks.last]
      exact settled upToDate.1 _ upToDate.2
    · intro lifecycle event (_ : True) both bounded
      exact startsClosed_of_bounded event both.1 bounded
    · intro lifecycle event _ both startsClosed
      exact ⟨tracks_step event both.1, settled_step event both.2 startsClosed⟩
    · refine ⟨start, ?_⟩
      intro h
      cases h
    · exact fun _ _ => trivial

def connectedTwice : List LifecycleEvent :=
  [.start 0 ⟨"e", nonempty_e⟩, .stop, .visibility .hidden, .start 5 ⟨"f", nonempty_f⟩]

/-- The page is hidden between a disconnect and the next connect, and its
session stays open. -/
theorem connectedTwice_open :
    ¬ Transition.Always step Bounded
      (createLifecycle (createWireContext ⟨"s", by decide⟩ ⟨"a", by decide⟩) .visible)
      connectedTwice := by
  intro always
  have bounded := Transition.always_iff_prefix.mp always connectedTwice (List.prefix_refl _)
  have follows := bounded.2 ⟨rfl, rfl⟩
  exact absurd (follows.mp (by decide)) (by decide)

end Lifecycle

end Copresence
