import Copresence.Client.Remotes

/-! Following the scroll of another participant, between patches, scroll events
and animation frames. The window tells of a scroll by an event it dispatches
later, and the capture reads the offset in the animation frame after that. -/
namespace Copresence

structure ScrollFollow where
  followingPid : Option ParticipantId := none
  programmatic : Bool := false
deriving DecidableEq, Repr

namespace ScrollFollow

def enable (pid : ParticipantId) (follow : ScrollFollow) : ScrollFollow :=
  { follow with followingPid := some pid }

def disable (follow : ScrollFollow) : ScrollFollow :=
  { follow with followingPid := none }

/-- Without an argument: is anyone being followed. -/
def isFollowing (follow : ScrollFollow) : Option ParticipantId → Bool
  | none => follow.followingPid.isSome
  | some pid => decide (follow.followingPid = some pid)

def notifyScrollEvent (follow : ScrollFollow) : ScrollFollow :=
  if follow.programmatic then follow else { follow with followingPid := none }

def beginProgrammaticScroll (follow : ScrollFollow) : ScrollFollow :=
  { follow with programmatic := true }

def endProgrammaticScroll (follow : ScrollFollow) : ScrollFollow :=
  { follow with programmatic := false }

end ScrollFollow

/-- `createRafScheduler`, over the callbacks it is given. -/
structure RafScheduler (Callback : Type) where
  handle : Option Nat := none
  pending : Option Callback := none

namespace RafScheduler

variable {Callback : Type}

/-- A frame is requested unless one is already scheduled; `requestFrame` is the
handle a request would return. -/
def schedule (requestFrame : Nat) (callback : Callback) (scheduler : RafScheduler Callback) :
    RafScheduler Callback where
  handle := some (scheduler.handle.getD requestFrame)
  pending := some callback

/-- The animation frame: the callback to run, if this scheduler asked for the
frame. -/
def fire (scheduler : RafScheduler Callback) : RafScheduler Callback × Option Callback :=
  match scheduler.handle with
  | none => (scheduler, none)
  | some _ => ({}, scheduler.pending)

end RafScheduler

/-- The window, as far as scrolling goes. `scrolls` counts the changes of its
offset, and `reported` those a scroll event has been dispatched for;
`nextHandle` is the next handle of `requestAnimationFrame`. -/
structure ScrollWindow where
  offset : ScrollPosition := ⟨0, 0⟩
  scrolls : Nat := 0
  reported : Nat := 0
  nextHandle : Nat := 1
deriving DecidableEq, Repr

namespace ScrollWindow

def moveTo (offset : ScrollPosition) (win : ScrollWindow) : ScrollWindow :=
  { win with offset, scrolls := win.scrolls + 1 }

/-- `window.scrollTo`, where `reach` tells which offset the layout allows. -/
def scrollTo (reach : ScrollPosition → ScrollPosition) (target : ScrollPosition)
    (win : ScrollWindow) : ScrollWindow :=
  if reach target = win.offset then win else win.moveTo (reach target)

end ScrollWindow

/-- A page that may be following someone. `captured` has the offsets sent as
scroll messages, `notified` the arguments `onFollowChange` was called with. -/
structure FollowingPage where
  client : Client
  scrollFollow : ScrollFollow := {}
  scrollCapture : RafScheduler Unit := {}
  win : ScrollWindow := {}
  captured : List ScrollPosition := []
  notified : List (Option ParticipantId) := []

/-- One scroll event tells of the oldest scroll not reported yet, and of
`merged` more. -/
inductive FollowEvent where
  | followParticipant (pid : ParticipantId)
  | stopFollowing
  | message (now : Int) (message : OutboundMessage)
  | userScroll (offset : ScrollPosition)
  | scrollEvent (merged : Nat)
  | animationFrame

namespace FollowingPage

section Steps

variable (reach : ScrollPosition → ScrollPosition)

def followParticipant (pid : ParticipantId) (page : FollowingPage) : FollowingPage :=
  { page with
    scrollFollow := page.scrollFollow.enable pid
    notified := page.notified ++ [some pid] }

def stopFollowing (page : FollowingPage) : FollowingPage :=
  { page with
    scrollFollow := page.scrollFollow.disable
    notified := page.notified ++ [none] }

/-- The flag is down again before the window dispatches anything. -/
def followScrollTo (target : ScrollPosition) (page : FollowingPage) : FollowingPage :=
  let begun := { page with scrollFollow := page.scrollFollow.beginProgrammaticScroll }
  let scrolled := { begun with win := begun.win.scrollTo reach target }
  { scrolled with scrollFollow := scrolled.scrollFollow.endProgrammaticScroll }

def applyPatch (now : Int) (page : FollowingPage) (patch : ParticipantPatch) : FollowingPage :=
  let followed :=
    match both patch.scrollX patch.scrollY with
    | none => page
    | some (x, y) =>
      if patch.pid ≠ page.client.pid ∧ page.scrollFollow.isFollowing patch.pid = true then
        page.followScrollTo reach { x, y }
      else page
  { followed with client := page.client.applyPatch now patch }

def routeMessage (now : Int) (page : FollowingPage) : OutboundMessage → FollowingPage
  | .patch msg =>
    if page.client.Fresh msg.seq then
      msg.patches.foldl (applyPatch reach now)
        { page with client := { page.client with lastPatchSeq := some msg.seq } }
    else page
  | message => { page with client := page.client.routeMessage now message }

/-- `handleScroll` of the scroll capture. -/
def handleScroll (page : FollowingPage) : FollowingPage :=
  { page with
    scrollCapture := page.scrollCapture.schedule page.win.nextHandle ()
    win := match page.scrollCapture.handle with
      | none => { page.win with nextHandle := page.win.nextHandle + 1 }
      | some _ => page.win }

def dispatchScroll (merged : Nat) (page : FollowingPage) : FollowingPage :=
  if page.win.reported < page.win.scrolls then
    { page with
      win := { page.win with
        reported := min (page.win.reported + merged + 1) page.win.scrolls } }.handleScroll
  else page

/-- `flush` of the scroll capture, with the `onCapture` it is wired to. -/
def flush (page : FollowingPage) : FollowingPage :=
  let scrollFollow := page.scrollFollow.notifyScrollEvent
  { page with
    captured := page.captured ++ [page.win.offset]
    scrollFollow
    notified :=
      if page.scrollFollow.isFollowing none && !scrollFollow.isFollowing none then
        page.notified ++ [none]
      else page.notified }

def animationFrame (page : FollowingPage) : FollowingPage :=
  let fired := page.scrollCapture.fire
  let page := { page with scrollCapture := fired.1 }
  match fired.2 with
  | none => page
  | some () => page.flush

def step (page : FollowingPage) : FollowEvent → FollowingPage
  | .followParticipant pid => page.followParticipant pid
  | .stopFollowing => page.stopFollowing
  | .message now message => page.routeMessage reach now message
  | .userScroll offset => { page with win := page.win.moveTo offset }
  | .scrollEvent merged => page.dispatchScroll merged
  | .animationFrame => page.animationFrame

end Steps

variable {reach : ScrollPosition → ScrollPosition}

/-- What a message leaves alone; it may scroll the window. -/
structure Undisturbed (page after : FollowingPage) : Prop where
  following : after.scrollFollow.followingPid = page.scrollFollow.followingPid
  programmatic : page.scrollFollow.programmatic = false → after.scrollFollow.programmatic = false
  capture : after.scrollCapture = page.scrollCapture
  reported : after.win.reported = page.win.reported
  scrolls : page.win.scrolls ≤ after.win.scrolls
  notified : after.notified = page.notified

theorem Undisturbed.refl (page : FollowingPage) : Undisturbed page page :=
  ⟨rfl, id, rfl, rfl, Nat.le_refl _, rfl⟩

/-- What two moves leave alone, they leave alone together. -/
theorem Undisturbed.trans {page between after : FollowingPage} (first : Undisturbed page between)
    (second : Undisturbed between after) : Undisturbed page after where
  following := second.following.trans first.following
  programmatic still := second.programmatic (first.programmatic still)
  capture := second.capture.trans first.capture
  reported := second.reported.trans first.reported
  scrolls := first.scrolls.trans second.scrolls
  notified := second.notified.trans first.notified

/-- Scrolling the window reports nothing yet. -/
theorem scrollTo_spec (target : ScrollPosition) (win : ScrollWindow) :
    (win.scrollTo reach target).reported = win.reported ∧
      win.scrolls ≤ (win.scrollTo reach target).scrolls := by
  rw [ScrollWindow.scrollTo]
  split
  · exact ⟨rfl, Nat.le_refl _⟩
  · exact ⟨rfl, Nat.le_succ _⟩

/-- Following a scroll leaves the capture and the reported scrolls alone. -/
theorem followScrollTo_undisturbed (target : ScrollPosition) (page : FollowingPage) :
    Undisturbed page (page.followScrollTo reach target) :=
  ⟨rfl, fun _ => rfl, rfl, (scrollTo_spec target page.win).1, (scrollTo_spec target page.win).2, rfl⟩

/-- A patch may scroll the window, and leaves the capture and the reported scrolls alone. -/
theorem applyPatch_undisturbed (now : Int) (page : FollowingPage) (patch : ParticipantPatch) :
    Undisturbed page (page.applyPatch reach now patch) := by
  have moved : ∀ followed : FollowingPage, Undisturbed page followed →
      Undisturbed page { followed with client := page.client.applyPatch now patch } :=
    fun _ same => ⟨same.1, same.2, same.3, same.4, same.5, same.6⟩
  apply moved
  split
  · exact Undisturbed.refl page
  · split
    · exact followScrollTo_undisturbed _ page
    · exact Undisturbed.refl page

@[simp] theorem applyPatch_client (now : Int) (page : FollowingPage) (patch : ParticipantPatch) :
    (page.applyPatch reach now patch).client = page.client.applyPatch now patch := rfl

/-- A list of patches leaves the capture and the reported scrolls alone. -/
theorem applyPatches_undisturbed (now : Int) (patches : List ParticipantPatch)
    (page : FollowingPage) : Undisturbed page (patches.foldl (applyPatch reach now) page) := by
  induction patches generalizing page with
  | nil => exact Undisturbed.refl page
  | cons patch patches ih => exact (applyPatch_undisturbed now page patch).trans (ih _)

/-- Every message leaves the capture and the reported scrolls alone. -/
theorem routeMessage_undisturbed (now : Int) (page : FollowingPage) (message : OutboundMessage) :
    Undisturbed page (page.routeMessage reach now message) := by
  cases message with
  | patch msg =>
      rw [routeMessage]
      split
      · have recorded : Undisturbed page
            { page with client := { page.client with lastPatchSeq := some msg.seq } } :=
          ⟨rfl, id, rfl, rfl, Nat.le_refl _, rfl⟩
        exact recorded.trans (applyPatches_undisturbed now msg.patches _)
      · exact Undisturbed.refl page
  | _ => exact ⟨rfl, id, rfl, rfl, Nat.le_refl _, rfl⟩

/-- Following changes nothing about the roster. -/
theorem routeMessage_client (now : Int) (page : FollowingPage) (message : OutboundMessage) :
    (page.routeMessage reach now message).client = page.client.routeMessage now message := by
  cases message with
  | patch msg =>
      have folded : ∀ (patches : List ParticipantPatch) (page : FollowingPage),
          (patches.foldl (applyPatch reach now) page).client =
            patches.foldl (Client.applyPatch now) page.client := by
        intro patches
        induction patches with
        | nil => exact fun _ => rfl
        | cons patch patches ih =>
            intro page
            rw [List.foldl_cons, List.foldl_cons, ih, applyPatch_client]
      rw [routeMessage, Client.routeMessage]
      split
      · exact folded msg.patches _
      · rfl
  | _ => rfl

/-- Between events the flag is down, and a frame is scheduled exactly for a
flush that is pending. -/
structure Settled (page : FollowingPage) : Prop where
  programmatic : page.scrollFollow.programmatic = false
  pending : page.scrollCapture.handle = none ↔ page.scrollCapture.pending = none
  reported : page.win.reported ≤ page.win.scrolls

/-- Without a scroll to report no event is dispatched. -/
theorem dispatchScroll_of_reported {page : FollowingPage}
    (all : page.win.scrolls ≤ page.win.reported) (merged : Nat) :
    page.dispatchScroll merged = page :=
  if_neg (Nat.not_lt.mpr all)

/-- A dispatched scroll event reports the scrolls up to now and asks for a frame. -/
theorem dispatchScroll_spec {page : FollowingPage} (unreported : page.win.reported < page.win.scrolls)
    (merged : Nat) :
    (page.dispatchScroll merged).scrollFollow = page.scrollFollow ∧
      (page.dispatchScroll merged).scrollCapture =
        page.scrollCapture.schedule page.win.nextHandle () ∧
      (page.dispatchScroll merged).win.scrolls = page.win.scrolls ∧
      (page.dispatchScroll merged).win.reported =
        min (page.win.reported + merged + 1) page.win.scrolls := by
  rw [dispatchScroll, if_pos unreported, handleScroll]
  refine ⟨rfl, rfl, ?_, ?_⟩
  · dsimp only
    split <;> rfl
  · dsimp only
    split <;> rfl

/-- Without a scheduled capture a frame reads nothing. -/
theorem animationFrame_of_idle {page : FollowingPage} (idle : page.scrollCapture.handle = none) :
    page.animationFrame = page := by
  have fired : page.scrollCapture.fire = (page.scrollCapture, none) := by
    rw [RafScheduler.fire, idle]
  rw [animationFrame, fired]

/-- The flag is never up when a flush runs, so a flush lets go. -/
theorem animationFrame_of_scheduled {page : FollowingPage} (settled : Settled page)
    (scheduled : page.scrollCapture.handle ≠ none) :
    page.animationFrame = { page with scrollCapture := {} }.flush ∧
      page.animationFrame.scrollFollow = { page.scrollFollow with followingPid := none } := by
  obtain ⟨handle, hh⟩ := Option.ne_none_iff_exists'.mp scheduled
  obtain ⟨⟨⟩, hp⟩ := Option.ne_none_iff_exists'.mp (mt settled.pending.mpr scheduled)
  have fired : page.scrollCapture.fire = ({}, some ()) := by
    rw [RafScheduler.fire, hh, hp]
  have flushed : page.animationFrame = { page with scrollCapture := {} }.flush := by
    rw [animationFrame, fired]
  have down : ¬page.scrollFollow.programmatic = true := by simp [settled.programmatic]
  refine ⟨flushed, ?_⟩
  rw [flushed]
  exact if_neg down

/-- Every event leaves a settled page. -/
theorem Settled.step {page : FollowingPage} (settled : Settled page) (event : FollowEvent) :
    Settled (page.step reach event) := by
  cases event with
  | followParticipant pid => exact ⟨settled.1, settled.2, settled.3⟩
  | stopFollowing => exact ⟨settled.1, settled.2, settled.3⟩
  | message now message =>
      have same : Undisturbed page (page.routeMessage reach now message) :=
        routeMessage_undisturbed now page message
      refine ⟨same.programmatic settled.programmatic, ?_, ?_⟩
      · rw [FollowingPage.step, same.capture]
        exact settled.pending
      · rw [FollowingPage.step, same.reported]
        exact settled.reported.trans same.scrolls
  | userScroll offset => exact ⟨settled.1, settled.2, Nat.le_succ_of_le settled.3⟩
  | scrollEvent merged =>
      rw [FollowingPage.step]
      by_cases unreported : page.win.reported < page.win.scrolls
      · obtain ⟨follow, capture, scrolls, reported⟩ := dispatchScroll_spec unreported merged
        refine ⟨?_, ?_, ?_⟩
        · rw [follow]
          exact settled.programmatic
        · rw [capture]
          exact ⟨nofun, nofun⟩
        · rw [scrolls, reported]
          exact Nat.min_le_right _ _
      · rw [dispatchScroll_of_reported (Nat.not_lt.mp unreported)]
        exact settled
  | animationFrame =>
      rw [FollowingPage.step]
      by_cases idle : page.scrollCapture.handle = none
      · rw [animationFrame_of_idle idle]
        exact settled
      · obtain ⟨flushed, released⟩ := animationFrame_of_scheduled settled idle
        refine ⟨?_, ?_, ?_⟩
        · rw [released]
          exact settled.programmatic
        · rw [flushed]
          exact iff_of_true rfl rfl
        · rw [flushed]
          exact settled.reported

/-- A page that has just begun is settled. -/
theorem settled_initial (client : Client) : Settled { client } := ⟨rfl, iff_of_true rfl rfl, Nat.le_refl _⟩

/-- Whom the page follows after a step. -/
theorem step_followingPid {page : FollowingPage} (settled : Settled page) (event : FollowEvent) :
    (page.step reach event).scrollFollow.followingPid =
      match event with
      | .followParticipant pid => some pid
      | .stopFollowing => none
      | .animationFrame =>
        if page.scrollCapture.handle = none then page.scrollFollow.followingPid else none
      | _ => page.scrollFollow.followingPid := by
  cases event with
  | followParticipant pid => rfl
  | stopFollowing => rfl
  | message now message => exact (routeMessage_undisturbed now page message).following
  | userScroll offset => rfl
  | scrollEvent merged =>
      rw [step]
      by_cases unreported : page.win.reported < page.win.scrolls
      · rw [(dispatchScroll_spec unreported merged).1]
      · rw [dispatchScroll_of_reported (Nat.not_lt.mp unreported)]
  | animationFrame =>
      rw [step]
      by_cases idle : page.scrollCapture.handle = none
      · rw [animationFrame_of_idle idle, if_pos idle]
      · rw [(animationFrame_of_scheduled settled idle).2, if_neg idle]

end FollowingPage

end Copresence
