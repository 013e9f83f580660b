import Copresence.Client.Presence

/-! What the host page was last told against the remotes the client keeps:
messages keep the two the same, an expiry makes them differ. -/
namespace Copresence

open Collections

namespace Hosted

variable {hosted : Hosted} {stamped : Int × HostedEvent}

/-- What a roster says of a participant, the time of its last update apart. -/
def seen (participant : RosterParticipant) : ParticipantId × String × Option CursorPosition :=
  (participant.pid, participant.color, participant.cursor)

/-- The page was last told of exactly the remotes, in their colours and with
their latest cursors. -/
def Told (hosted : Hosted) : Prop :=
  ∃ roster, hosted.told = some roster ∧
    ∀ one, one ∈ roster.map seen ↔ one ∈ hosted.client.roster.map seen

/-- A frame of the screen or a sweep at this time finds nobody expired. -/
def FindsNoneExpired (hosted : Hosted) (stamped : Int × HostedEvent) : Prop :=
  match stamped.2 with
  | .message _ => True
  | .renderFrame => hosted.client.NoneExpired stamped.1
  | .staleSweep => hosted.client.NoneExpired stamped.1

theorem told_notifyPresenceChange (hosted : Hosted) : hosted.notifyPresenceChange.Told :=
  ⟨_, rfl, fun _ => Iff.rfl⟩

/-- A message that does not tell the page leaves the remotes alone. -/
theorem Told.routeMessage (told : hosted.Told) (now : Int) (msg : OutboundMessage) :
    (hosted.routeMessage now msg).Told := by
  cases msg with
  | welcome msg => exact told_notifyPresenceChange _
  | snapshot msg => exact told_notifyPresenceChange _
  | join msg => exact told_notifyPresenceChange _
  | leave msg => exact told_notifyPresenceChange _
  | patch msg =>
      rw [Hosted.routeMessage]
      split
      · exact told_notifyPresenceChange _
      · next stale =>
          rw [Client.routeMessage, if_neg stale]
          exact told
  | pong msg => exact told
  | auditAck msg => exact told
  | error msg => exact told

/-- Somebody who expires is still on the roster the page has. -/
theorem Told.noneExpired (told : hosted.Told) {now : Int}
    (after : Told { hosted with client := hosted.client.forgetExpired now }) :
    hosted.client.NoneExpired now := by
  obtain ⟨roster, given, before⟩ := told
  obtain ⟨same, givenAfter, after⟩ := after
  obtain rfl : roster = same := Option.some.inj (given.symm.trans givenAfter)
  intro entry there expired
  have gone := Client.get?_forgetExpired_of_expired there expired
  have listed : entry.1 ∈ hosted.client.roster.map RosterParticipant.pid :=
    Client.mem_roster_pids.mpr (List.mem_map_of_mem there)
  obtain ⟨participant, hm, named⟩ := List.mem_map.mp listed
  have kept := (after _).mp ((before _).mpr (List.mem_map_of_mem hm))
  obtain ⟨other, hOther, alike⟩ := List.mem_map.mp kept
  have samePid : other.pid = participant.pid := congrArg Prod.fst alike
  have still : entry.1 ∈ (hosted.client.forgetExpired now).remotes.keys := by
    rw [← Client.mem_roster_pids, ← named, ← samePid]
    exact List.mem_map_of_mem hOther
  exact JsMap.get?_eq_none_iff.mp gone still

theorem Told.expiry_iff (told : hosted.Told) (now : Int) :
    Told { hosted with client := hosted.client.forgetExpired now } ↔
      hosted.client.NoneExpired now := by
  constructor
  · exact told.noneExpired
  · intro fresh
    rw [Client.forgetExpired_of_noneExpired fresh]
    exact told

theorem Told.step_iff (told : hosted.Told) :
    (hosted.step stamped).Told ↔ hosted.FindsNoneExpired stamped := by
  obtain ⟨now, event⟩ := stamped
  cases event with
  | message msg => exact iff_of_true (told.routeMessage now msg) trivial
  | renderFrame => exact told.expiry_iff now
  | staleSweep => exact told.expiry_iff now

/-- From a welcome on, the page knows the remotes after every step exactly
when no frame of the screen and no sweep finds anybody expired. -/
theorem told_iff_noneExpired (hosted : Hosted) (now : Int) (welcome : WelcomeMessage)
    (events : List (Int × HostedEvent)) :
    Transition.Always step Told (hosted.routeMessage now (.welcome welcome)) events ↔
      Transition.Along step FindsNoneExpired (hosted.routeMessage now (.welcome welcome))
        events := by
  have every : ∀ stamped ∈ events, (fun _ : Int × HostedEvent => True) stamped :=
    fun _ _ => trivial
  apply Transition.always_iff_along_of_kept (R := Told) _ _ _ _ every
  · exact fun _ told => told
  · intro hosted stamped _ told after
    exact told.step_iff.mp after
  · intro hosted stamped _ told fresh
    exact told.step_iff.mpr fresh
  · exact told_notifyPresenceChange _

def onlooker : ParticipantId := ⟨"me", by decide⟩

def silent : WelcomeMessage where
  sid := ⟨"s", nonempty_s⟩
  pid := onlooker
  seq := 0
  ts := 0
  participants :=
    [{ pid := ⟨"a", nonempty_a⟩, color := "#e6194b", lastSeenAt := 0
       x := none, y := none, scrollX := none, scrollY := none }]

/-- One frame after ten seconds: the participant is gone, and the page still
has them. -/
theorem silent_still_told :
    ¬ Transition.Always step Told
      (({ client := { pid := onlooker } } : Hosted).routeMessage 0 (.welcome silent))
      [(10000, .renderFrame)] := by
  intro always
  obtain ⟨roster, told, same⟩ := always.2.start
  have stale : roster = [{ pid := ⟨"a", by decide⟩, color := "#e6194b", lastSeenAt := 0
                           cursor := none }] := by
    apply Option.some.inj
    rw [← told]
    decide
  have listed := (same (⟨"a", by decide⟩, "#e6194b", none)).mp (by rw [stale]; decide)
  revert listed
  decide

end Hosted

end Copresence
