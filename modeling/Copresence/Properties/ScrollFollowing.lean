import Copresence.Client.ScrollFollow
import Copresence.Server.Run

/-! Whether following is broken by the local user and by nobody else. A scroll
by the user always ends it in the next frame after its event; so does the event
of a scroll the page made itself. -/
namespace Copresence

namespace FollowingPage

/-- The participant that is to be followed after one more event: only calls and
scrolls of the user have a say in it. -/
def intend : Option ParticipantId → FollowEvent → Option ParticipantId
  | _, .followParticipant pid => some pid
  | _, .stopFollowing => none
  | _, .userScroll _ => none
  | intended, _ => intended

def intended (past : List FollowEvent) : Option ParticipantId := past.foldl intend none

section Breaking

variable (reach : ScrollPosition → ScrollPosition) (start : FollowingPage)
  (past : List FollowEvent)

/-- Whoever is to be followed is followed. -/
def KeepsFollowing : Prop :=
  ∀ pid, intended past = some pid →
    (Transition.run (step reach) start past).scrollFollow.isFollowing (some pid) = true

/-- Once an animation frame has come after the event of a scroll by the user,
nobody is followed until the next call. -/
def LetsGo : Prop :=
  ∀ before offset between rest,
    past = before ++ .userScroll offset :: (between ++ .animationFrame :: rest) →
    (Transition.run (step reach) start before).win.scrolls <
      (Transition.run (step reach) start (before ++ .userScroll offset :: between)).win.reported →
    (∀ pid, .followParticipant pid ∉ between ++ rest) →
    ∀ pid, (Transition.run (step reach) start past).scrollFollow.isFollowing (some pid) = false

/-- Only the user breaks a follow, and the user does break it. -/
def BrokenByUserAlone : Prop := KeepsFollowing reach start past ∧ LetsGo reach start past

end Breaking

variable (reach : ScrollPosition → ScrollPosition)

/-- A page follows somebody when its variable names that one. -/
theorem isFollowing_iff {follow : ScrollFollow} {pid : ParticipantId} :
    follow.isFollowing (some pid) = true ↔ follow.followingPid = some pid := by
  rw [ScrollFollow.isFollowing, decide_eq_true_iff]

/-- Every run leaves a settled page. -/
theorem settled_run (client : Client) (past : List FollowEvent) :
    Settled (Transition.run (step reach) { client } past) :=
  Transition.invariant_run (fun _ event settled => settled.step event) (settled_initial client) past

variable {reach}

/-- The scroll with this number, if its event has been dispatched, is about to
be noticed or has been. -/
def Noticed (number : Nat) (page : FollowingPage) : Prop :=
  number < page.win.reported →
    page.scrollCapture.handle ≠ none ∨ page.scrollFollow.followingPid = none

/-- A page that follows nobody follows nobody before it is told to. -/
theorem nobody_step {page : FollowingPage} (settled : Settled page) {event : FollowEvent}
    (other : ∀ pid, event ≠ .followParticipant pid)
    (nobody : page.scrollFollow.followingPid = none) :
    (page.step reach event).scrollFollow.followingPid = none := by
  rw [step_followingPid settled]
  cases event with
  | followParticipant pid => exact absurd rfl (other pid)
  | stopFollowing => rfl
  | animationFrame =>
      dsimp only
      rw [nobody, ite_self]
  | message now message => exact nobody
  | userScroll offset => exact nobody
  | scrollEvent merged => exact nobody

/-- A scroll that was noticed stays noticed. -/
theorem Noticed.step {number : Nat} {page : FollowingPage} (settled : Settled page)
    {event : FollowEvent} (other : ∀ pid, event ≠ .followParticipant pid)
    (noticed : Noticed number page) : Noticed number (page.step reach event) := by
  have lasting : page.scrollFollow.followingPid = none →
      (page.step reach event).scrollFollow.followingPid = none := nobody_step settled other
  cases event with
  | followParticipant pid => exact absurd rfl (other pid)
  | stopFollowing => exact fun _ => .inr rfl
  | userScroll offset => exact noticed
  | message now message =>
      have same : Undisturbed page (page.routeMessage reach now message) :=
        routeMessage_undisturbed now page message
      intro reported
      have before : number < page.win.reported := by
        rw [← same.reported]
        exact reported
      refine (noticed before).imp ?_ lasting
      intro scheduled
      rw [FollowingPage.step, same.capture]
      exact scheduled
  | scrollEvent merged =>
      rw [FollowingPage.step]
      by_cases unreported : page.win.reported < page.win.scrolls
      · intro _
        rw [(dispatchScroll_spec unreported merged).2.1]
        exact .inl (Option.some_ne_none _)
      · rw [dispatchScroll_of_reported (Nat.not_lt.mp unreported)]
        exact noticed
  | animationFrame =>
      rw [FollowingPage.step]
      by_cases idle : page.scrollCapture.handle = none
      · rw [animationFrame_of_idle idle]
        exact noticed
      · intro _
        rw [(animationFrame_of_scheduled settled idle).2]
        exact .inr rfl

section Quiet

variable (reach) {page : FollowingPage} {events : List FollowEvent}

/-- A scroll that was noticed stays noticed over every run. -/
theorem noticed_run {number : Nat} (settled : Settled page) (noticed : Noticed number page)
    (quiet : ∀ event ∈ events, ∀ pid, event ≠ .followParticipant pid) :
    Settled (Transition.run (step reach) page events) ∧
      Noticed number (Transition.run (step reach) page events) :=
  Transition.invariant_run_mem (P := fun page => Settled page ∧ Noticed number page)
    ⟨settled, noticed⟩ fun _ event hm both =>
      ⟨both.1.step event, both.2.step both.1 (quiet event hm)⟩

/-- A page that follows nobody does so over every run in which it is not told to. -/
theorem nobody_run (settled : Settled page) (nobody : page.scrollFollow.followingPid = none)
    (quiet : ∀ event ∈ events, ∀ pid, event ≠ .followParticipant pid) :
    (Transition.run (step reach) page events).scrollFollow.followingPid = none :=
  (Transition.invariant_run_mem
    (P := fun page => Settled page ∧ page.scrollFollow.followingPid = none)
    ⟨settled, nobody⟩ fun _ event hm both =>
      ⟨both.1.step event, nobody_step both.1 (quiet event hm) both.2⟩).2

end Quiet

/-- The frame that comes after the event lets go, whatever else goes on. -/
theorem letsGo (client : Client) (past : List FollowEvent) : LetsGo reach { client } past := by
  rintro before offset between rest rfl dispatched noCalls pid
  have quiet : ∀ event, event ∈ between ++ rest → ∀ pid, event ≠ .followParticipant pid := by
    rintro event hm pid rfl
    exact noCalls pid hm
  have scrolled := settled_run reach client (before ++ [.userScroll offset])
  have unheard : Noticed (Transition.run (step reach) { client } before).win.scrolls
      (Transition.run (step reach) { client } (before ++ [.userScroll offset])) := by
    intro reported
    have bound := (settled_run reach client before).reported
    rw [Transition.run_concat] at reported
    exact absurd reported (Nat.not_lt.mpr bound)
  -- up to the frame, the scroll is either unreported or noticed
  have upToFrame := noticed_run reach scrolled unheard
    fun event hm => quiet event (List.mem_append_left _ hm)
  rw [← Transition.run_append, List.append_assoc, List.singleton_append] at upToFrame
  have released : ((Transition.run (step reach) { client }
      (before ++ .userScroll offset :: between)).step reach
        .animationFrame).scrollFollow.followingPid = none := by
    rw [step_followingPid upToFrame.1]
    dsimp only
    split
    · next idle => exact (upToFrame.2 dispatched).resolve_left (not_not.mpr idle)
    · rfl
  -- and from there on nobody is followed
  have afterwards := nobody_run reach (upToFrame.1.step .animationFrame) released
    fun event hm => quiet event (List.mem_append_right _ hm)
  have whole : before ++ .userScroll offset :: (between ++ .animationFrame :: rest) =
      (before ++ .userScroll offset :: between) ++ [.animationFrame] ++ rest := by simp
  rw [whole, Transition.run_append, Transition.run_concat, Bool.eq_false_iff]
  intro following
  rw [isFollowing_iff.mp following] at afterwards
  cases afterwards

/-- A step keeps to what is intended unless it is a frame with a flush to run. -/
theorem keepsFollowing_concat_iff (client : Client) {past : List FollowEvent}
    (keeps : KeepsFollowing reach { client } past) (event : FollowEvent) :
    KeepsFollowing reach { client } (past ++ [event]) ↔
      (event = .animationFrame → intended past ≠ none →
        (Transition.run (step reach) { client } past).scrollCapture.handle = none) := by
  have settled := settled_run reach client past
  have next : intended (past ++ [event]) = intend (intended past) event := by
    rw [intended, List.foldl_append]
    rfl
  rw [KeepsFollowing, next, Transition.run_concat]
  simp only [isFollowing_iff, step_followingPid settled]
  have kept : ∀ pid, intended past = some pid →
      (Transition.run (step reach) { client } past).scrollFollow.followingPid = some pid :=
    fun pid hp => isFollowing_iff.mp (keeps pid hp)
  cases event with
  | followParticipant pid => exact iff_of_true (fun _ => id) nofun
  | stopFollowing => exact iff_of_true (fun _ => id) nofun
  | message now message => exact iff_of_true kept nofun
  | userScroll offset => exact iff_of_true nofun nofun
  | scrollEvent merged => exact iff_of_true kept nofun
  | animationFrame =>
      dsimp only [intend]
      constructor
      · intro holds _ wanted
        obtain ⟨pid, hp⟩ := Option.ne_none_iff_exists'.mp wanted
        have follows := holds pid hp
        by_contra scheduled
        rw [if_neg scheduled] at follows
        cases follows
      · intro idle pid hp
        rw [if_pos (idle rfl (by rw [hp]; nofun))]
        exact kept pid hp

/-- The frame after the event of a scroll lets go, also when it was the page
itself that scrolled, to follow. -/
theorem message_scroll_frame {page : FollowingPage} (settled : Settled page) (now : Int)
    (message : OutboundMessage) (merged : Nat)
    (scrolled : page.win.reported < (page.routeMessage reach now message).win.scrolls) :
    (Transition.run (step reach) page
      [.message now message, .scrollEvent merged,
        .animationFrame]).scrollFollow.followingPid = none := by
  have routed : Settled (page.step reach (.message now message)) := settled.step _
  have same : Undisturbed page (page.routeMessage reach now message) :=
    routeMessage_undisturbed now page message
  have unreported : (page.routeMessage reach now message).win.reported <
      (page.routeMessage reach now message).win.scrolls := by
    rw [same.reported]
    exact scrolled
  have scheduled :
      ((page.routeMessage reach now message).dispatchScroll merged).scrollCapture.handle ≠ none := by
    rw [(dispatchScroll_spec unreported merged).2.1]
    nofun
  rw [Transition.run_cons, Transition.run_cons, Transition.run_cons, Transition.run_nil]
  rw [step_followingPid (routed.step (.scrollEvent merged))]
  exact if_neg scheduled

/-- In every run, following is broken by the user alone exactly when no
animation frame finds a scroll event to answer while somebody is to be
followed. -/
theorem brokenByUserAlone_iff (reach : ScrollPosition → ScrollPosition) (client : Client)
    (events : List FollowEvent) :
    (∀ past, past <+: events → BrokenByUserAlone reach { client } past) ↔
      ∀ past, past ++ [.animationFrame] <+: events → intended past ≠ none →
        (Transition.run (step reach) { client } past).scrollCapture.handle = none := by
  have stepwise := @Transition.forall_history_iff_of_kept _ (KeepsFollowing reach { client })
    (fun past event => KeepsFollowing reach { client } (past ++ [event])) _ events nofun
    (fun past event _ keeps => keepsFollowing_concat_iff client keeps event)
    (fun past event _ keeps met => (keepsFollowing_concat_iff client keeps event).mpr met)
  constructor
  · intro broken past hp
    exact stepwise.mp (fun past event hp => (broken _ hp).1) past .animationFrame hp rfl
  · intro idle past hp
    refine ⟨?_, letsGo client past⟩
    cases past using List.reverseRecOn with
    | nil => exact nofun
    | append_singleton past event =>
        apply stepwise.mpr ?_ past event hp
        rintro past _ hp rfl wanted
        exact idle past hp wanted

open Scenario

/-- Bob scrolls down, and the page that follows him does too. -/
def followedScroll : List FollowEvent :=
  [.followParticipant bob,
    .message 0 (.patch
      { v := protocolVersion, sid := session, seq := 1, ts := 0,
        patches := [{ pid := bob, scrollX := some 0, scrollY := some 100 }] }),
    .scrollEvent 0, .animationFrame]

/-- The event of that scroll ends the follow. -/
theorem followedScroll_breaks :
    intended followedScroll = some bob ∧
      ¬ KeepsFollowing id { client := { pid := alice } } followedScroll ∧
      ¬ ∀ past, past <+: followedScroll →
        BrokenByUserAlone id { client := { pid := alice } } past := by
  have broken : ¬ KeepsFollowing id { client := { pid := alice } } followedScroll := by
    intro keeps
    have follows := keeps bob rfl
    revert follows
    decide
  exact ⟨rfl, broken, fun all => broken (all followedScroll (List.prefix_refl _)).1⟩

end FollowingPage

end Copresence
