import Copresence.Client.Presence
import Copresence.Properties.Converging
import Copresence.Properties.Mirroring
import Copresence.Server.Flushing

/-! The whole way from the server to the page: each participant's page is given
what the server sends that participant, in order and at its own times, forgets who
has been silent for too long, and is compared with the roster itself. -/
namespace Copresence

open Collections
open Client (Shown)

/-- What a page that is up to date shows of a participant. -/
def Participant.asShown (participant : Participant) : Shown where
  color := participant.color
  cursor := participant.presence.cursor.map fun position => (position.x, position.y)
  scroll := participant.presence.scroll.map fun position => (position.x, position.y)

/-- A simulated participant is shown with what the roster has of it. -/
theorem shown_simulated (participant : Participant) :
    (simulated participant).shown = participant.asShown := by
  obtain ⟨_, _, ⟨cursor, _, scroll, _⟩, _⟩ := participant
  cases cursor <;> cases scroll <;> rfl

/-- A field is shown as the roster has it. -/
theorem shownOf_asShown (field : PresenceField) (participant : Participant) :
    field.shownOf (some participant.asShown) = field.ofPresence participant.presence := by
  obtain ⟨_, _, ⟨cursor, _, scroll, _⟩, _⟩ := participant
  cases field <;> cases cursor <;> cases scroll <;> rfl

/-- This says everything that is to be shown of the participant: a roster that may
list it, or its leave. -/
def OutboundMessage.Renews (message : OutboundMessage) (member : ParticipantId) : Prop :=
  message.seed?.isSome = true ∨ ∃ leave, message = .leave leave ∧ leave.pid = member

/-- A server and the pages of all participants, by session. `forgotten` has whom a page
has dropped for its silence and not been told all of since. -/
structure Paged where
  visited : Visited
  page : SessionId → ParticipantId → Client
  forgotten : SessionId → ParticipantId → ParticipantId → Prop

/-- Something happens at the server, or one page draws a frame or makes its stale
sweep, which forget the same participants. -/
inductive PagedEvent where
  | server (stamped : Stamped)
  | frame (sid : SessionId) (pid : ParticipantId) (now : Int)

def PagedEvent.stamped? : PagedEvent → Option Stamped
  | .server stamped => some stamped
  | .frame _ _ _ => none

namespace Paged

/-- Nobody has a page with anything on it. -/
def initial : Paged where
  visited := Visited.initial
  page _ pid := { pid }
  forgotten _ _ _ := False

def server (paged : Paged) : Server := paged.visited.tracked.server

/-- What this event of the server gives a page. -/
def told (cfg : Config) (paged : Paged) (stamped : Stamped) (sid : SessionId)
    (pid : ParticipantId) : List OutboundMessage :=
  deliveredTo sid pid (paged.server.written cfg stamped)

/-- `clock` is what each page's clock says at a time of the server's. -/
def serve (cfg : Config) (clock : ParticipantId → Int → Int) (paged : Paged) (stamped : Stamped) :
    Paged where
  visited := paged.visited.step cfg stamped
  page sid pid := (paged.page sid pid).receive
    ((paged.told cfg stamped sid pid).map fun message => (clock pid stamped.time, message))
  forgotten sid pid member := paged.forgotten sid pid member ∧
    ∀ message ∈ paged.told cfg stamped sid pid, ¬message.Renews member

def frame (sid : SessionId) (pid : ParticipantId) (now : Int) (paged : Paged) : Paged :=
  let page := fun other owner =>
    if other = sid ∧ owner = pid then (paged.page sid pid).forgetExpired now
    else paged.page other owner
  { paged with
    page
    forgotten := fun other owner member => paged.forgotten other owner member ∨
      ((paged.page other owner).shown member ≠ none ∧ (page other owner).shown member = none) }

def step (cfg : Config) (clock : ParticipantId → Int → Int) (paged : Paged) : PagedEvent → Paged
  | .server stamped => paged.serve cfg clock stamped
  | .frame sid pid now => paged.frame sid pid now

def run (cfg : Config) (clock : ParticipantId → Int → Int) : Paged → List PagedEvent → Paged :=
  Transition.run (step cfg clock)

/-- A page shows nobody but the roster, and no position but the roster's; unless it has
forgotten the member, it shows it, in its colour and with its positions. A position may
trail while it is flagged. -/
structure Follows (forgotten : Prop) (entry : Option Entry) (shown : Option Shown) : Prop where
  nobodyElse : entry = none → shown = none
  positions : ∀ present, entry = some present → ∀ field : PresenceField,
    field.marked present.dirty = false → field.shownOf shown = none ∨
      field.shownOf shown = field.ofPresence present.participant.presence
  whole : ¬forgotten → Option.Rel
    (fun present shown => shown.color = present.participant.color ∧
      ∀ field : PresenceField, field.marked present.dirty = false →
        field.ofShown shown = field.ofPresence present.participant.presence) entry shown

/-- Every page that is connected follows the roster of its session. -/
def FollowsRosters (paged : Paged) : Prop :=
  ∀ sid pid, paged.server.Connected sid pid → ∀ member, member ≠ pid →
    Follows (paged.forgotten sid pid member) (paged.server.entryOf sid member)
      ((paged.page sid pid).shown member)

/-- Every page that is connected shows the others as the roster has them, and nobody
else, but for those it has forgotten. -/
def ShowsRosters (paged : Paged) : Prop :=
  ∀ sid pid, paged.server.Connected sid pid → ∀ member, member ≠ pid →
    ¬paged.forgotten sid pid member →
      (paged.page sid pid).shown member =
        (paged.server.participant? sid member).map Participant.asShown

/-- A page that says hello without being connected shows no position of somebody
who has come back without one. -/
def ReturnsClean (paged : Paged) (stamped : Stamped) : Prop :=
  ∀ sid pid, (paged.server.action stamped).IsHelloFor sid pid → ¬paged.server.Connected sid pid →
    ∀ member, member ≠ pid → ∀ participant, paged.server.participant? sid member = some participant →
      ∀ field : PresenceField, field.ofPresence participant.presence = none →
        field.shownOf ((paged.page sid pid).shown member) = none

/-- Everybody keeps to one session, nothing but presence goes on, no tick
repeats a position of somebody who has left, and pages come back clean. -/
structure FairAt (home : ParticipantId → SessionId) (paged : Paged) (stamped : Stamped) : Prop where
  atHome : paged.server.AtHome home stamped
  carries : paged.server.CarriesPresence stamped
  stays : ∀ sid, ¬paged.visited.tracked.ResendsDepartedIn stamped sid
  returns : paged.ReturnsClean stamped

/-- Pages may draw and sweep whenever they like. -/
def Fair (home : ParticipantId → SessionId) (paged : Paged) (event : PagedEvent) : Prop :=
  ∀ stamped ∈ event.stamped?, paged.FairAt home stamped

/-- What is shown lacks at most positions of what is known. -/
structure Behind (known shown : Option Shown) : Prop where
  nobodyElse : known = none → shown = none
  positions : ∀ field : PresenceField,
    field.shownOf shown = none ∨ field.shownOf shown = field.shownOf known

/-- A page that shows all that is known is not behind. -/
theorem Behind.refl (known : Option Shown) : Behind known known :=
  ⟨id, fun _ => Or.inr rfl⟩

/-- A page that shows nothing is behind whatever is known. -/
theorem Behind.nothing (known : Option Shown) : Behind known none :=
  ⟨fun _ => rfl, fun _ => Or.inl rfl⟩

/-- A snapshot brings both as far. -/
theorem Behind.upserted {known shown : Option Shown} (behind : Behind known shown)
    (member : ParticipantId) (participant : ParticipantSnapshot) :
    Behind (Picture.upserted member known participant)
      (Picture.upserted member shown participant) where
  nobodyElse := by
    rw [Picture.upserted, Picture.upserted]
    split
    · intro none
      cases none
    · exact behind.nobodyElse
  positions := by
    intro field
    rw [Picture.shownOf_upserted, Picture.shownOf_upserted]
    cases (if member = participant.pid then field.ofSnapshot participant else none) with
    | some position => exact Or.inr rfl
    | none => exact behind.positions field

/-- A patch that carries a field decides what is shown of it. -/
theorem shownOf_patched (member : ParticipantId) (old : Option Shown) (patch : ParticipantPatch)
    (field : PresenceField) :
    field.shownOf (Picture.patched member old patch) =
      (if member = patch.pid then field.ofPatch patch else none).or (field.shownOf old) := by
  rw [Picture.patched]
  split
  · cases old <;> cases field <;> rfl
  · rfl

/-- A patch keeps the page behind what is known. -/
theorem Behind.patched {known shown : Option Shown} (behind : Behind known shown)
    (member : ParticipantId) (patch : ParticipantPatch) :
    Behind (Picture.patched member known patch) (Picture.patched member shown patch) where
  nobodyElse := by
    rw [Picture.patched, Picture.patched]
    split
    · intro none
      cases none
    · exact behind.nobodyElse
  positions := by
    intro field
    rw [shownOf_patched, shownOf_patched]
    cases (if member = patch.pid then field.ofPatch patch else none) with
    | some position => exact Or.inr rfl
    | none => exact behind.positions field

/-- A list of patches keeps the page behind what is known. -/
theorem Behind.foldl_patched {known shown : Option Shown} (behind : Behind known shown)
    (member : ParticipantId) (patches : List ParticipantPatch) :
    Behind (patches.foldl (Picture.patched member) known)
      (patches.foldl (Picture.patched member) shown) := by
  induction patches generalizing known shown with
  | nil => exact behind
  | cons patch patches ih => exact ih (behind.patched member patch)

/-- A message that is no seed moves both alike. -/
theorem Behind.see {known shown : Picture} (behind : Behind known.shown shown.shown)
    (guards : known.lastPatchSeq = shown.lastPatchSeq) {message : OutboundMessage}
    (noSeed : message.seed? = none) (member : ParticipantId) :
    Behind (known.track member message).shown (shown.see member message).shown := by
  cases message with
  | welcome msg => cases noSeed
  | snapshot msg => cases noSeed
  | join msg => exact behind.upserted member msg.participant
  | leave msg =>
      show Behind (known.see member (.leave msg)).shown _
      rw [Picture.see, Picture.see]
      split
      · exact Behind.refl none
      · exact behind
  | patch msg =>
      show Behind (known.see member (.patch msg)).shown _
      have same : known.Fresh msg.seq ↔ shown.Fresh msg.seq := by
        rw [Picture.Fresh, Picture.Fresh, guards]
      rw [Picture.see, Picture.see]
      by_cases fresh : known.Fresh msg.seq
      · rw [if_pos fresh, if_pos (same.mp fresh)]
        exact behind.foldl_patched member msg.patches
      · rw [if_neg fresh, if_neg fun h => fresh (same.mpr h)]
        exact behind
  | pong msg => exact behind
  | auditAck msg => exact behind
  | error msg => exact behind

/-- Of everybody else a page has what the view kept of it has; of those it has
forgotten it may have less. -/
structure Paired (forgotten : ParticipantId → Prop) (view : ParticipantView) (client : Client) :
    Prop where
  guards : view.lastPatchSeq = client.lastPatchSeq
  agree : ∀ member, member ≠ client.pid → ¬forgotten member →
    (view.picture member).shown = client.shown member
  behind : ∀ member, member ≠ client.pid →
    Behind (view.picture member).shown (client.shown member)

/-- A page and its view stay paired when the same are forgotten. -/
theorem Paired.of_iff {forgotten others : ParticipantId → Prop} {view : ParticipantView}
    {client : Client} (paired : Paired forgotten view client)
    (same : ∀ member, others member ↔ forgotten member) : Paired others view client := by
  rw [show others = forgotten from funext fun member => propext (same member)]
  exact paired

/-- A delivery that renews what is shown of somebody makes up for what was forgotten. -/
theorem Paired.deliver {forgotten : ParticipantId → Prop} {view : ParticipantView}
    {client : Client} (paired : Paired forgotten view client) (now : Int)
    {message : OutboundMessage}
    (regives : ∀ member, member ≠ client.pid → ∀ snapshots, message.seed? = some snapshots →
      member ∈ snapshots.map ParticipantSnapshot.pid → ∀ field : PresenceField,
        Picture.given member field snapshots = none →
          field.shownOf (client.shown member) = none) :
    Paired (fun member => forgotten member ∧ ¬message.Renews member) (view.deliver message)
      (client.routeMessage now message) := by
  have seen : ∀ member, member ≠ client.pid → (client.routeMessage now message).shown member =
      ((client.picture member).see member message).shown :=
    fun member other => congrArg Picture.shown (Client.routeMessage_picture now other message)
  have tracked : ∀ member, member ≠ client.pid →
      ((client.picture member).track member message).shown =
        ((client.picture member).see member message).shown := by
    intro member other
    exact (Picture.track_eq_see_iff (client.picture member) member message).mpr
      (regives member other)
  have renewed : ∀ member, member ≠ client.pid → message.Renews member →
      ((view.picture member).track member message).shown =
        ((client.picture member).track member message).shown := by
    rintro member _ (seeds | ⟨leave, rfl, rfl⟩)
    · cases message with
      | welcome msg => rfl
      | snapshot msg => rfl
      | join | leave | patch | pong | auditAck | error => cases seeds
    · show ((view.picture leave.pid).see leave.pid (.leave leave)).shown =
        ((client.picture leave.pid).see leave.pid (.leave leave)).shown
      rw [Picture.see, Picture.see, if_pos rfl, if_pos rfl]
  have agree : ∀ member, member ≠ client.pid → ¬forgotten member ∨ message.Renews member →
      ((view.deliver message).picture member).shown =
        (client.routeMessage now message).shown member := by
    intro member other known
    rw [ParticipantView.deliver_picture, seen member other, ← tracked member other]
    rcases known with remembered | renews
    · have same : view.picture member = client.picture member := by
        rw [ParticipantView.picture, Client.picture, paired.guards,
          ← paired.agree member other remembered]
        rfl
      rw [same]
    · exact renewed member other renews
  constructor
  · exact ParticipantView.deliver_guards paired.guards now message
  · intro member other known
    rw [Client.routeMessage_pid] at other
    by_cases remembered : forgotten member
    · exact agree member other (Or.inr (not_not.mp fun stale => known ⟨remembered, stale⟩))
    · exact agree member other (Or.inl remembered)
  · intro member other
    rw [Client.routeMessage_pid] at other
    cases seed : message.seed? with
    | some snapshots =>
        rw [agree member other (Or.inr (Or.inl (Option.isSome_of_eq_some seed)))]
        exact Behind.refl _
    | none =>
        rw [ParticipantView.deliver_picture, seen member other]
        exact (paired.behind member other).see paired.guards seed member

/-- A page that forgets somebody has less of it than before. -/
theorem Paired.forgetExpired {forgotten : ParticipantId → Prop} {view : ParticipantView}
    {client : Client} (paired : Paired forgotten view client) (now : Int) :
    Paired
      (fun member => forgotten member ∨
        (client.shown member ≠ none ∧ (client.forgetExpired now).shown member = none))
      view (client.forgetExpired now) := by
  obtain ⟨samePid, sameSeq⟩ := Client.forgetExpired_rest now client
  constructor
  · rw [sameSeq]
    exact paired.guards
  · intro member other remembered
    rw [samePid] at other
    rw [paired.agree member other fun h => remembered (Or.inl h)]
    rcases client.shown_forgetExpired now member with gone | same
    · rw [gone]
      by_contra shown
      exact remembered (Or.inr ⟨shown, gone⟩)
    · exact same.symm
  · intro member other
    rw [samePid] at other
    rcases client.shown_forgetExpired now member with gone | same
    · rw [gone]
      exact Behind.nothing _
    · rw [same]
      exact paired.behind member other

/-- A page keeps its own id whatever it receives. -/
theorem receive_pid (client : Client) (deliveries : List (Int × OutboundMessage)) :
    (client.receive deliveries).pid = client.pid :=
  Transition.invariant_run (P := fun later : Client => later.pid = client.pid)
    (fun _ _ same => (Client.routeMessage_pid _ _).trans same) rfl deliveries

section Step

variable {cfg : Config} {home : ParticipantId → SessionId} {clock : ParticipantId → Int → Int}
  {paged : Paged} {stamped : Stamped}

/-- What holds of a server and its pages after every fair run. -/
structure Kept (home : ParticipantId → SessionId) (paged : Paged) : Prop where
  tracking : paged.visited.Tracking home
  agreeing : paged.visited.Agreeing
  calm : ∀ sid, ¬paged.visited.haunted sid
  owner : ∀ sid pid, (paged.page sid pid).pid = pid
  paired : ∀ sid pid, Paired (paged.forgotten sid pid) (paged.server.convergence.view sid pid)
    (paged.page sid pid)

/-- Before the first event no page has been told anything. -/
theorem initial_kept (home : ParticipantId → SessionId) : initial.Kept home where
  tracking := Visited.initial_tracking home
  agreeing := by
    constructor
    · rintro sid _ pid ⟨connection, registered, _⟩
      cases registered
    · intro sid haunted
      exact haunted.elim
  calm := fun sid => id
  owner := fun sid pid => rfl
  paired := fun sid pid => ⟨rfl, fun member other _ => rfl, fun member other => Behind.refl _⟩

/-- An action tells anybody one thing at most. -/
theorem tells_toList (server : Server) (now : Int) (sid : SessionId) (pid : ParticipantId)
    (action : Action) :
    ∃ told : Option OutboundMessage, action.tells server now sid pid = told.toList := by
  cases action with
  | hello ctx msg =>
      rw [Action.tells]
      split
      · exact ⟨none, rfl⟩
      · split
        · exact ⟨some _, rfl⟩
        · split
          · exact ⟨none, rfl⟩
          · exact ⟨some _, rfl⟩
  | bye ctx other =>
      obtain ⟨told, left⟩ := Visited.leave_toList server now sid ctx.sid other
      exact ⟨told, left⟩
  | close ctx =>
      rw [Action.tells]
      split
      · exact ⟨none, rfl⟩
      · next other _ => exact Visited.leave_toList server now sid ctx.sid other
  | tick => exact ⟨_, rfl⟩
  | _ => exact ⟨none, rfl⟩

/-- Only a participant's own hello seeds its page. -/
theorem seed_of_tells {server : Server} {now : Int} {sid : SessionId} {pid : ParticipantId}
    {action : Action} {message : OutboundMessage} {snapshots : List ParticipantSnapshot}
    (told : message ∈ action.tells server now sid pid) (seeds : message.seed? = some snapshots) :
    ∃ ctx msg, action = .hello ctx msg ∧ sid = ctx.sid ∧ pid = msg.pid ∧
      snapshots = (toWelcome (server.helloSession now ctx msg) msg.pid 0 now).participants := by
  cases action with
  | hello ctx msg =>
      rw [Action.tells] at told
      split at told
      · cases told
      · next here =>
          split at told
          · next own =>
              obtain rfl := List.mem_singleton.mp told
              cases seeds
              exact ⟨ctx, msg, rfl, not_not.mp here, own, rfl⟩
          · split at told
            · cases told
            · obtain rfl := List.mem_singleton.mp told
              cases seeds
  | bye ctx other =>
      rw [Action.tells] at told
      split at told
      · obtain rfl := List.mem_singleton.mp told
        cases seeds
      · cases told
  | close ctx =>
      rw [Action.tells] at told
      split at told
      · cases told
      · split at told
        · obtain rfl := List.mem_singleton.mp told
          cases seeds
        · cases told
  | tick =>
      rw [Action.tells, Option.mem_toList, Option.map_eq_some_iff] at told
      obtain ⟨patch, _, rfl⟩ := told
      cases seeds
  | _ => cases told

/-- Where a welcome gives no position of somebody, the roster has none. -/
theorem ofPresence_of_ungiven {server : Server} (wf : server.WellFormed) {ctx : ConnectionContext}
    {msg : HelloMessage} {now : Int} {member : ParticipantId} (other : member ≠ msg.pid)
    (listed : member ∈ (toWelcome (server.helloSession now ctx msg) msg.pid 0
      now).participants.map ParticipantSnapshot.pid) {field : PresenceField}
    (ungiven : Picture.given member field (toWelcome (server.helloSession now ctx msg) msg.pid 0
      now).participants = none) :
    ∃ entry, server.entryOf ctx.sid member = some entry ∧
      field.ofPresence entry.participant.presence = none := by
  have present := (mem_toParticipantSnapshots_pids
    (server.helloSession_wellFormed now ctx msg wf)).mp listed
  rw [server.helloSession_entryOf now ctx msg wf, if_neg other] at present
  obtain ⟨entry, he⟩ := Option.isSome_iff_exists.mp present
  refine ⟨entry, he, ?_⟩
  have seeded := Server.upToDate_welcome wf ctx msg now {} member
  rw [if_neg other, he] at seeded
  have pictured := congrArg (fun picture : Picture => field.shownOf picture.shown)
    (ParticipantView.deliver_picture {} member
      (.welcome (toWelcome (server.helloSession now ctx msg) msg.pid 0 now)))
  have given : field.shownOf ((ParticipantView.deliver {} (.welcome (toWelcome
      (server.helloSession now ctx msg) msg.pid 0 now))).picture member).shown =
        Picture.given member field (toWelcome (server.helloSession now ctx msg) msg.pid 0
          now).participants := by
    rw [ParticipantView.deliver_picture, Picture.track]
    dsimp only
    rw [Picture.foldl_upserted_field]
    exact Option.or_none
  rw [ParticipantView.picture, seeded, ungiven] at given
  rw [← shownOf_asShown, ← shown_simulated]
  exact given

/-- Where the roster has no position, a view that follows it has none. -/
theorem shownOf_of_unset {entry : Entry} {shown : Option SimulatedParticipant}
    (reports : entry.dirty ≠ {} → entry.dirty.Reports entry.participant.presence)
    (shows : Shows (some entry) shown) {field : PresenceField}
    (unset : field.ofPresence entry.participant.presence = none) :
    field.shownOf (shown.map SimulatedParticipant.shown) = none := by
  have unmarked : field.marked entry.dirty = false := by
    by_cases clean : entry.dirty = {}
    · rw [clean]
      cases field <;> rfl
    · rw [← Bool.not_eq_true]
      intro marked
      obtain ⟨value, hv⟩ := (reports clean).of_marked marked
      rw [unset] at hv
      cases hv
  cases shows with
  | @some _ participant trails =>
      have same := trails.same field unmarked
      rw [← shownOf_asShown, ← shown_simulated] at unset
      cases field with
      | cursor =>
          show both participant.x participant.y = none
          rw [same.1, same.2]
          exact unset
      | scroll =>
          show both participant.scrollX participant.scrollY = none
          rw [same.1, same.2]
          exact unset

/-- A welcome regives every position its page shows. -/
theorem Kept.regives (kept : paged.Kept home) (returns : paged.ReturnsClean stamped)
    {sid : SessionId} {pid : ParticipantId} {message : OutboundMessage}
    (told : message ∈ (paged.server.action stamped).tells paged.server stamped.time sid pid)
    (member : ParticipantId) (other : member ≠ (paged.page sid pid).pid)
    (snapshots : List ParticipantSnapshot) (seeds : message.seed? = some snapshots)
    (listed : member ∈ snapshots.map ParticipantSnapshot.pid) (field : PresenceField)
    (ungiven : Picture.given member field snapshots = none) :
    field.shownOf ((paged.page sid pid).shown member) = none := by
  have another : member ≠ pid := by
    rw [← kept.owner sid pid]
    exact other
  obtain ⟨ctx, msg, hAction, rfl, rfl, rfl⟩ := seed_of_tells told seeds
  have own : (paged.server.action stamped).IsHelloFor ctx.sid msg.pid := ⟨ctx, msg, hAction, rfl, rfl⟩
  obtain ⟨entry, he, unset⟩ := ofPresence_of_ungiven kept.tracking.announcing.wellFormed another
    listed ungiven
  by_cases connected : paged.server.Connected ctx.sid msg.pid
  · have follows := kept.agreeing.follows ctx.sid (kept.calm ctx.sid) msg.pid connected
    have shows := follows.shows member
    rw [he] at shows
    have known := shownOf_of_unset
      (Server.entry_reports kept.tracking.announcing.wellFormed he) shows unset
    rcases ((kept.paired ctx.sid msg.pid).behind member other).positions field with none | same
    · exact none
    · exact same.trans known
  · apply returns ctx.sid msg.pid own connected member another entry.participant _ field unset
    rw [Server.participant?_eq]
    exact congrArg (Option.map Entry.participant) he

/-- An event of the server keeps what holds of all pages, if it is fair. -/
theorem Kept.serve (kept : paged.Kept home) (fair : paged.FairAt home stamped) :
    (paged.serve cfg clock stamped).Kept home := by
  have later : (paged.visited.step cfg stamped).Tracking home :=
    kept.tracking.step fair.atHome fair.carries
  have greets : paged.visited.GreetsUnhaunted stamped := by
    intro sid pid _ haunted
    exact absurd haunted (kept.calm sid)
  have agreeing : (paged.visited.step cfg stamped).Agreeing :=
    kept.agreeing.step kept.tracking later fair.carries greets
  have delivered : ∀ sid pid, paged.told cfg stamped sid pid =
      if (paged.server.step cfg stamped).Connected sid pid then
        (paged.server.action stamped).tells paged.server stamped.time sid pid
      else [] :=
    fun sid pid => Server.deliveredTo_written later.announcing fair.carries sid pid
  have viewed : ∀ sid pid, (paged.server.step cfg stamped).convergence.view sid pid = _ :=
    fun sid pid => Visited.view_step later.announcing fair.carries sid pid
  refine ⟨later, agreeing, ?_, ?_, ?_⟩
  · rintro sid ⟨haunts | resends, _⟩
    · exact kept.calm sid haunts
    · exact fair.stays sid resends
  · intro sid pid
    show ((paged.page sid pid).receive _).pid = pid
    rw [receive_pid, kept.owner]
  · intro sid pid
    show Paired (fun member => paged.forgotten sid pid member ∧
        ∀ message ∈ paged.told cfg stamped sid pid, ¬message.Renews member)
      ((paged.server.step cfg stamped).convergence.view sid pid)
      ((paged.page sid pid).receive ((paged.told cfg stamped sid pid).map _))
    rw [viewed, delivered]
    have before := kept.paired sid pid
    by_cases connected : (paged.server.step cfg stamped).Connected sid pid
    · obtain ⟨told, hTold⟩ := tells_toList paged.server stamped.time sid pid
        (paged.server.action stamped)
      have told_tracked : (paged.visited.tracked.server.action stamped).tells
          paged.visited.tracked.server stamped.time sid pid = told.toList := hTold
      have regives : ∀ message ∈ (paged.server.action stamped).tells paged.server stamped.time
          sid pid, ∀ member, member ≠ (paged.page sid pid).pid → ∀ snapshots,
            message.seed? = some snapshots → member ∈ snapshots.map ParticipantSnapshot.pid →
              ∀ field : PresenceField, Picture.given member field snapshots = none →
                field.shownOf ((paged.page sid pid).shown member) = none :=
        fun message listed => kept.regives fair.returns listed
      rw [hTold] at regives
      rw [if_pos connected, if_pos (by exact connected), told_tracked, hTold]
      cases told with
      | none => exact before.of_iff (by simp)
      | some message =>
          have after := before.deliver (clock pid stamped.time)
            (regives message List.mem_cons_self)
          exact after.of_iff (by simp)
    · rw [if_neg connected, if_neg (by exact connected)]
      exact before.of_iff (by simp)

/-- A frame touches one page and nothing of the server. -/
theorem Kept.frame (kept : paged.Kept home) (sid : SessionId) (pid : ParticipantId) (now : Int) :
    (paged.frame sid pid now).Kept home where
  tracking := kept.tracking
  agreeing := kept.agreeing
  calm := kept.calm
  owner := by
    intro other owner
    rw [Paged.frame]
    dsimp only
    split
    · next own =>
        rw [Client.forgetExpired_pid, own.2]
        exact kept.owner sid pid
    · exact kept.owner other owner
  paired := by
    intro other owner
    by_cases own : other = sid ∧ owner = pid
    · obtain ⟨rfl, rfl⟩ := own
      have page : (paged.frame other owner now).page other owner =
          (paged.page other owner).forgetExpired now := if_pos ⟨rfl, rfl⟩
      rw [page]
      refine ((kept.paired other owner).forgetExpired now).of_iff fun member => ?_
      rw [← page]
      exact Iff.rfl
    · have page : (paged.frame sid pid now).page other owner = paged.page other owner :=
        if_neg own
      rw [page]
      refine (kept.paired other owner).of_iff fun member => ?_
      show _ ∨ (_ ∧ ((paged.frame sid pid now).page other owner).shown member = none) ↔ _
      rw [page]
      exact or_iff_left fun h => h.1 h.2

/-- A fair event keeps every page in step with the roster it was told of. -/
theorem Kept.step (kept : paged.Kept home) {event : PagedEvent} (fair : paged.Fair home event) :
    (paged.step cfg clock event).Kept home := by
  cases event with
  | server stamped => exact kept.serve (fair stamped rfl)
  | frame sid pid now => exact kept.frame sid pid now

/-- What a page shows of a member against the roster, where the view kept of the page
shows the roster. -/
theorem follows_of_shows {forgotten : Prop} {entry : Option Entry}
    {participant : Option SimulatedParticipant} {shown : Option Shown}
    (shows : Shows entry participant)
    (agree : ¬forgotten → participant.map SimulatedParticipant.shown = shown)
    (behind : Behind (participant.map SimulatedParticipant.shown) shown) :
    Follows forgotten entry shown := by
  cases shows with
  | none =>
      constructor
      · exact fun _ => behind.nobodyElse rfl
      · intro present isPresent
        cases isPresent
      · intro remembered
        rw [← agree remembered]
        exact .none
  | @some entry participant trails =>
      have whole : ∀ field : PresenceField, field.marked entry.dirty = false →
          field.ofShown participant.shown = field.ofPresence entry.participant.presence := by
        intro field unmarked
        have same := trails.same field unmarked
        rw [← shownOf_asShown, ← shown_simulated]
        cases field with
        | cursor =>
            show both participant.x participant.y = _
            rw [same.1, same.2]
            rfl
        | scroll =>
            show both participant.scrollX participant.scrollY = _
            rw [same.1, same.2]
            rfl
      constructor
      · intro isNone
        cases isNone
      · intro present isPresent field unmarked
        cases isPresent
        exact (behind.positions field).imp_right fun same => same.trans (whole field unmarked)
      · intro remembered
        rw [← agree remembered]
        exact .some ⟨trails.color, whole⟩

/-- A page in step follows its roster. -/
theorem Kept.followsRosters (kept : paged.Kept home) : paged.FollowsRosters := by
  intro sid pid connected member other
  have shows := (kept.agreeing.follows sid (kept.calm sid) pid connected).shows member
  have paired := kept.paired sid pid
  have another : member ≠ (paged.page sid pid).pid := by rwa [kept.owner]
  exact follows_of_shows shows (paired.agree member another) (paired.behind member another)

/-- A tick leaves nothing flagged, and so nothing trailing. -/
theorem Kept.showsRosters (kept : (paged.serve cfg clock stamped).Kept home)
    (isTick : stamped.event = .tick) : (paged.serve cfg clock stamped).ShowsRosters := by
  intro sid pid connected member other remembered
  have clean : ∀ member entry,
      (paged.visited.step cfg stamped).tracked.server.entryOf sid member = some entry →
        entry.dirty = {} := by
    intro member entry he
    have ticked : (paged.visited.step cfg stamped).tracked.server.entryOf sid member = _ :=
      Tracked.entryOf_tick isTick sid member
    rw [he] at ticked
    obtain ⟨old, _, rfl⟩ := Option.map_eq_some_iff.mp ticked.symm
    rfl
  have upToDate := (kept.agreeing.follows sid (kept.calm sid) pid connected).upToDate_of_clean clean
    member
  have seen : ((paged.serve cfg clock stamped).page sid pid).shown member =
      (((paged.serve cfg clock stamped).server.convergence.view sid pid).picture member).shown :=
    ((kept.paired sid pid).agree member (by rwa [kept.owner]) remembered).symm
  have same : ((paged.serve cfg clock stamped).server.convergence.view sid pid).participants.get?
      member = ((paged.serve cfg clock stamped).server.entryOf sid member).map Entry.simulated :=
    upToDate
  rw [seen, ParticipantView.picture, Server.participant?_eq]
  dsimp only
  rw [same]
  cases (paged.serve cfg clock stamped).server.entryOf sid member with
  | none => rfl
  | some entry => exact congrArg some (shown_simulated entry.participant)

end Step

/-- Whoever says hello has a page with nothing on it yet. -/
def greetsBlank (paged : Paged) (stamped : Stamped) : Bool :=
  match paged.server.received stamped with
  | some (ctx, .hello msg) => (paged.page ctx.sid msg.pid).remotes.size = 0
  | _ => true

/-- Before the first flush there is nothing to repeat, and a blank page is clean. -/
theorem fairAt_of_blank {home : ParticipantId → SessionId} {paged : Paged} {stamped : Stamped}
    (atHome : paged.server.AtHome home stamped) (carries : paged.server.CarriesPresence stamped)
    (unsettled : paged.server.scheduler.settling.size = 0)
    (blank : paged.greetsBlank stamped = true) : paged.FairAt home stamped where
  atHome := atHome
  carries := carries
  stays := by
    rintro sid ⟨_, _, _, settle, hs, _⟩
    have none := (JsMap.size_eq_zero_iff.mp unsettled sid).symm.trans hs
    cases none
  returns := by
    rintro sid pid ⟨ctx, msg, hAction, rfl, rfl⟩ _ member _ participant _ field _
    rw [greetsBlank, Server.action_eq_hello hAction] at blank
    have empty : (paged.page ctx.sid msg.pid).remotes.size = 0 := of_decide_eq_true blank
    rw [Client.shown, JsMap.size_eq_zero_iff.mp empty member]
    rfl

/-- An event of the server makes no page forget anybody. -/
theorem not_forgotten_serve {cfg : Config} {clock : ParticipantId → Int → Int} {paged : Paged}
    {sid : SessionId} {pid member : ParticipantId} (remembered : ¬paged.forgotten sid pid member)
    (stamped : Stamped) : ¬(paged.serve cfg clock stamped).forgotten sid pid member :=
  fun forgotten => remembered forgotten.1

/-- A frame makes a page forget nobody it still shows. -/
theorem not_forgotten_frame {paged : Paged} {sid other : SessionId}
    {pid owner member : ParticipantId} {now : Int} (remembered : ¬paged.forgotten sid pid member)
    (shown : ((paged.frame other owner now).page sid pid).shown member ≠ none) :
    ¬(paged.frame other owner now).forgotten sid pid member := by
  rintro (forgotten | ⟨_, gone⟩)
  · exact remembered forgotten
  · exact shown gone

open Scenario

/-- Two come and one moves; the other draws a frame while it has heard of it a moment
ago, before a tick follows. -/
def drawn : List PagedEvent := Visited.moved.map .server ++ [.frame session alice 20]

/-- The page that has somebody on it has not forgotten that one. -/
theorem drawn_remembers (cfg : Config) (clock : ParticipantId → Int → Int)
    (kept : ((run cfg clock initial drawn).page session alice).shown bob ≠ none) :
    ¬(run cfg clock initial drawn).forgotten session alice bob := by
  have served : ¬(run cfg clock initial (Visited.moved.map .server)).forgotten session alice bob := by
    refine Transition.invariant_run_mem (P := fun paged : Paged =>
      ¬paged.forgotten session alice bob) id fun paged event listed remembered => ?_
    obtain ⟨stamped, _, rfl⟩ := List.mem_map.mp listed
    exact not_forgotten_serve remembered stamped
  rw [drawn, run, Transition.run_concat] at kept ⊢
  exact not_forgotten_frame served kept

end Paged

end Copresence
