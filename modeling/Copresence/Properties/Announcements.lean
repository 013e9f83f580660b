import Copresence.Server.History
import Copresence.Server.Outbound
import Copresence.Services.Announcing
import Copresence.Services.Flushes

/-! Whoever is registered on an open socket can follow the roster from what it
is sent, as long as every participant keeps to one session. -/
namespace Copresence

open Collections Following

/-- Everybody registered on an open socket knows who is present, and nobody was
ever told of an arrival or a departure that was none. -/
structure Told (home : ParticipantId → SessionId) (hub : BroadcastHub) (isOpen : SocketId → Bool)
    (outbound : List Write) (present : SessionId → ParticipantId → Prop) : Prop where
  seated : hub.Seated home
  follows : ∀ pid connection, hub.registration pid = some connection →
    isOpen connection.socket = true → ∀ other,
      other ∈ announced outbound connection.socket ↔ present connection.sid other
  fits : ∀ socket, Exact ∅ (noticesTo socket outbound)

namespace Told

variable {home : ParticipantId → SessionId} {hub : BroadcastHub} {isOpen : SocketId → Bool}
  {outbound : List Write} {present : SessionId → ParticipantId → Prop}
  (told : Told home hub isOpen outbound present)

include told

theorem congr {others : SessionId → ParticipantId → Prop}
    (same : ∀ sid pid, others sid pid ↔ present sid pid) : Told home hub isOpen outbound others where
  seated := told.seated
  follows := by
    intro pid connection registered opened other
    rw [told.follows pid connection registered opened, same]
  fits := told.fits

/-- Sockets may stop being open. -/
theorem narrow {stillOpen : SocketId → Bool}
    (opened : ∀ pid connection, hub.registration pid = some connection →
      stillOpen connection.socket = true → isOpen connection.socket = true) :
    Told home hub stillOpen outbound present where
  seated := told.seated
  follows := fun pid connection registered still =>
    told.follows pid connection registered (opened pid connection registered still)
  fits := told.fits

/-- Messages may be sent that tell nothing of a roster. -/
theorem silent {writes : List Write} (nothing : ∀ write ∈ writes, write.message.notice? = none) :
    Told home hub isOpen (outbound ++ writes) present := by
  have untold : ∀ socket, noticesTo socket (outbound ++ writes) = noticesTo socket outbound := by
    intro socket
    rw [noticesTo_append, noticesTo_silent fun write hw _ => nothing write hw, List.append_nil]
  refine ⟨told.seated, ?_, ?_⟩
  · intro pid connection registered opened other
    rw [announced, untold]
    exact told.follows pid connection registered opened other
  · intro socket
    rw [untold]
    exact told.fits socket

/-- Registrations may end. -/
theorem unregister (pid : ParticipantId) :
    Told home (hub.unregister pid) isOpen outbound present where
  seated := told.seated.unregister pid
  follows := fun other connection h =>
    told.follows other connection (BroadcastHub.registration_of_unregister h).2
  fits := told.fits

/-- A departure that is told to everybody else. -/
theorem depart {sid : SessionId} {pid : ParticipantId} (there : present sid pid) (now : Int) :
    Told home (hub.unregister pid) isOpen
      (outbound ++ (hub.unregister pid).broadcastToSession isOpen sid (leaveMessage sid pid now)
        (some pid))
      fun other member => present other member ∧ ¬(other = sid ∧ member = pid) := by
  have seated := told.seated.unregister pid
  refine ⟨seated, ?_, ?_⟩
  · intro other connection h opened member
    obtain ⟨another, registered⟩ := BroadcastHub.registration_of_unregister h
    have known := told.follows other connection registered opened member
    rw [seated.announced_broadcast h opened another]
    split
    · next hs =>
        show member ∈ (announced outbound connection.socket).erase pid ↔ _
        rw [Finset.mem_erase, known, hs]
        simp [and_comm]
    · next elsewhere =>
        rw [known]
        simp [elsewhere]
  · intro socket
    apply seated.exact_broadcast sid pid _ (told.fits socket)
    rintro other connection h hs opened _ rfl
    obtain ⟨_, registered⟩ := BroadcastHub.registration_of_unregister h
    apply exact_singleton.mpr
    show pid ∈ announced outbound connection.socket
    rw [told.follows other connection registered opened, hs]
    exact there

/-- A welcome fits whatever was told before. -/
theorem welcome_fits (connection : Connection) {welcome : OutboundMessage}
    {members : List ParticipantId} (hWelcome : welcome.notice? = some (.whole members))
    (socket : SocketId) :
    Exact ∅ (noticesTo socket
      (outbound ++ (hub.register connection).sendTo isOpen connection.pid welcome)) := by
  have itself : (hub.register connection).registration connection.pid = some connection := by
    rw [BroadcastHub.registration_register, if_pos rfl]
  rw [noticesTo_append, exact_append]
  refine ⟨told.fits socket, ?_⟩
  by_cases heard : isOpen connection.socket = true ∧ connection.socket = socket
  · obtain ⟨opened, rfl⟩ := heard
    rw [BroadcastHub.noticesTo_sendTo itself opened, hWelcome]
    exact exact_whole _ members
  · rw [BroadcastHub.noticesTo_sendTo_elsewhere]
    · trivial
    · intro taken ht opened same
      cases itself.symm.trans ht
      exact heard ⟨opened, same⟩

section Arrive

variable {connection : Connection} (hHome : connection.sid = home connection.pid)
  (seat : ∀ other taken, hub.registration other = some taken →
    taken.socket = connection.socket → other = connection.pid)

include hHome seat

/-- A welcome is for the newcomer alone. -/
theorem unwelcomed (welcome : OutboundMessage) {other : ParticipantId} {found : Connection}
    (h : (hub.register connection).registration other = some found)
    (another : other ≠ connection.pid) :
    hub.registration other = some found ∧
      noticesTo found.socket ((hub.register connection).sendTo isOpen connection.pid welcome) = [] := by
  constructor
  · rw [BroadcastHub.registration_register, if_neg another] at h
    exact h
  · apply BroadcastHub.noticesTo_sendTo_elsewhere
    intro taken ht _ same
    exact another ((told.seated.register hHome seat).apart _ _ _ _ ht h same).symm

variable {welcome join : OutboundMessage} {members : List ParticipantId}
  (hWelcome : welcome.notice? = some (.whole members))
  (hJoin : join.notice? = some (.added connection.pid)) {joins : List Write}
  (hJoins : present connection.sid connection.pid ∧ joins = [] ∨
    ¬present connection.sid connection.pid ∧
      joins = (hub.register connection).broadcastToSession isOpen connection.sid join
        (some connection.pid))

include hWelcome hJoin hJoins

omit hJoin in
/-- The newcomer knows the members it was welcomed with. -/
theorem arrive_newcomer (opened : isOpen connection.socket = true) :
    announced (outbound ++
      ((hub.register connection).sendTo isOpen connection.pid welcome ++ joins))
        connection.socket = members.toFinset := by
  have seated := told.seated.register hHome seat
  have itself : (hub.register connection).registration connection.pid = some connection := by
    rw [BroadcastHub.registration_register, if_pos rfl]
  have unheard : noticesTo connection.socket joins = [] := by
    rcases hJoins with ⟨_, rfl⟩ | ⟨_, rfl⟩
    · rfl
    · rcases seated.noticesTo_broadcast_cases isOpen connection.sid connection.pid
        connection.socket join with ⟨hears, _⟩ | ⟨_, heard⟩
      · exact absurd rfl ((seated.hears_iff itself opened _).mp hears).2
      · exact heard
  rw [announced, noticesTo_append, noticesTo_append, follow_append, follow_append, unheard,
    BroadcastHub.noticesTo_sendTo itself opened, hWelcome]
  rfl

omit hWelcome in
/-- The others know of the newcomer, whether it was there before or not. -/
theorem arrive_others {other : ParticipantId} {found : Connection}
    (h : (hub.register connection).registration other = some found)
    (another : other ≠ connection.pid) (opened : isOpen found.socket = true)
    (member : ParticipantId) :
    member ∈ announced (outbound ++
        ((hub.register connection).sendTo isOpen connection.pid welcome ++ joins)) found.socket ↔
      present found.sid member ∨ (found.sid = connection.sid ∧ member = connection.pid) := by
  obtain ⟨registered, nothing⟩ := told.unwelcomed hHome seat welcome h another
  have known := told.follows other found registered opened member
  have welcomed : announced (outbound ++
      (hub.register connection).sendTo isOpen connection.pid welcome) found.socket =
        announced outbound found.socket := by
    rw [announced, noticesTo_append, nothing, List.append_nil]
    rfl
  rw [← List.append_assoc]
  rcases hJoins with ⟨already, rfl⟩ | ⟨_, rfl⟩
  · rw [List.append_nil, welcomed, known]
    constructor
    · exact Or.inl
    · rintro (there | ⟨hs, rfl⟩)
      · exact there
      · rw [hs]
        exact already
  · rw [(told.seated.register hHome seat).announced_broadcast h opened another, welcomed, hJoin]
    split
    · next hs =>
        show member ∈ insert connection.pid (announced outbound found.socket) ↔ _
        rw [Finset.mem_insert, known, hs]
        simp [or_comm]
    · next elsewhere =>
        rw [known]
        simp [elsewhere]

theorem arrive_fits (socket : SocketId) :
    Exact ∅ (noticesTo socket (outbound ++
      ((hub.register connection).sendTo isOpen connection.pid welcome ++ joins))) := by
  have welcomed := told.welcome_fits connection hWelcome socket
  rw [← List.append_assoc]
  rcases hJoins with ⟨_, rfl⟩ | ⟨absent, rfl⟩
  · rwa [List.append_nil]
  · apply (told.seated.register hHome seat).exact_broadcast connection.sid connection.pid join
      welcomed
    rintro other found h hs opened another rfl
    obtain ⟨registered, nothing⟩ := told.unwelcomed hHome seat welcome h another
    rw [announced, noticesTo_append, nothing, List.append_nil, hJoin]
    apply exact_singleton.mpr
    show connection.pid ∉ announced outbound found.socket
    rw [told.follows other found registered opened, hs]
    exact absent

/-- An arrival: the newcomer is told of everybody and, if it was not there
before, everybody else of it. -/
theorem arrive (hMembers : ∀ member, member ∈ members ↔
      present connection.sid member ∨ member = connection.pid) :
    Told home (hub.register connection) isOpen
      (outbound ++ ((hub.register connection).sendTo isOpen connection.pid welcome ++ joins))
      fun other member => present other member ∨ (other = connection.sid ∧ member = connection.pid) := by
  refine ⟨told.seated.register hHome seat, ?_,
    told.arrive_fits hHome seat hWelcome hJoin hJoins⟩
  intro other found h opened member
  by_cases own : other = connection.pid
  · subst own
    rw [BroadcastHub.registration_register, if_pos rfl] at h
    cases h
    rw [told.arrive_newcomer hHome seat hWelcome hJoins opened, List.mem_toFinset, hMembers]
    simp
  · exact told.arrive_others hHome seat hJoin hJoins h own opened member

end Arrive

end Told

namespace Server

/-- A participant says hello in its one session only. -/
def AtHome (home : ParticipantId → SessionId) (server : Server) (stamped : Stamped) : Prop :=
  ∀ ctx msg, server.received stamped = some (ctx, .hello msg) → ctx.sid = home msg.pid

instance (home : ParticipantId → SessionId) (server : Server) (stamped : Stamped) :
    Decidable (server.AtHome home stamped) :=
  match h : server.received stamped with
  | some (ctx, .hello msg) =>
    if hs : ctx.sid = home msg.pid then
      isTrue fun _ _ hr => by
        rw [h] at hr
        cases hr
        exact hs
    else isFalse fun atHome => hs (atHome ctx msg h)
  | some (_, .bye _) | some (_, .cursor _) | some (_, .scroll _) | some (_, .ping _)
  | some (_, .ack _) | some (_, .audit _) | none =>
    isTrue fun _ _ hr => by
      rw [h] at hr
      cases hr

/-- What holds of a server whose participants keep to one session each. -/
structure Announcing (home : ParticipantId → SessionId) (server : Server) : Prop where
  wellFormed : server.WellFormed
  registered : ∀ pid connection, server.hub.registration pid = some connection →
    server.Identified connection.socket pid
  told : Told home server.hub server.isOpen server.outbound server.InRoster

section Step

variable {cfg : Config} {home : ParticipantId → SessionId} {server after : Server} {now : Int}
  {action : Action}

theorem inRoster_congr {first second : Server} (h : first.registry = second.registry)
    (sid : SessionId) (pid : ParticipantId) : first.InRoster sid pid ↔ second.InRoster sid pid := by
  rw [InRoster, InRoster, entryOf, entryOf, h]

/-- A removal tells the others exactly when there was somebody to remove. -/
theorem told_removeFromSession (told : Told home server.hub server.isOpen server.outbound
    server.InRoster) (now : Int) (ctx : ConnectionContext) (pid : ParticipantId) :
    Told home (removeFromSession now ctx pid server).hub (removeFromSession now ctx pid server).isOpen
      (removeFromSession now ctx pid server).outbound
      (removeFromSession now ctx pid server).InRoster := by
  have roster : ∀ sid member, (removeFromSession now ctx pid server).InRoster sid member ↔
      server.InRoster sid member ∧ ¬(sid = ctx.sid ∧ member = pid) := by
    intro sid member
    rw [InRoster, removeFromSession_entryOf]
    by_cases removed : sid = ctx.sid ∧ member = pid
    · simp [removed]
    · rw [if_neg removed]
      exact ⟨fun there => ⟨there, removed⟩, fun h => h.1⟩
  rw [removeFromSession_eq] at roster ⊢
  rw [departureWrites] at roster ⊢
  by_cases there : (server.entryOf ctx.sid pid).isSome
  · rw [if_pos there] at roster ⊢
    exact (told.depart there now).congr roster
  · rw [if_neg there] at roster ⊢
    have unmoved : Told home (server.hub.unregister pid) server.isOpen (server.outbound ++ [])
        server.InRoster := (told.unregister pid).silent (by simp)
    refine unmoved.congr fun sid member => (roster sid member).trans ?_
    constructor
    · intro h
      exact h.1
    · intro h
      refine ⟨h, ?_⟩
      rintro ⟨rfl, rfl⟩
      exact there h

/-- The reaper's loop tells of each of its removals once. -/
theorem told_foldl_announce (cfg : Config) (now : Int) {reaped : List ReapedParticipant}
    {present : SessionId → ParticipantId → Prop}
    (told : Told home server.hub server.isOpen server.outbound present)
    (nodup : (reaped.map fun gone => (gone.sid, gone.pid)).Nodup)
    (there : ∀ gone ∈ reaped, present gone.sid gone.pid) :
    Told home (reaped.foldl (Reaper.announce cfg now) server).hub
      (reaped.foldl (Reaper.announce cfg now) server).isOpen
      (reaped.foldl (Reaper.announce cfg now) server).outbound
      fun sid pid => present sid pid ∧ ∀ gone ∈ reaped, ¬(sid = gone.sid ∧ pid = gone.pid) := by
  induction reaped generalizing server present with
  | nil => exact told.congr fun sid pid => by simp
  | cons first reaped ih =>
      rw [List.map_cons, List.nodup_cons] at nodup
      have next : Told home (Reaper.announce cfg now server first).hub
          (Reaper.announce cfg now server first).isOpen
          (Reaper.announce cfg now server first).outbound
          fun sid pid => present sid pid ∧ ¬(sid = first.sid ∧ pid = first.pid) :=
        told.depart (there first List.mem_cons_self) now
      rw [List.foldl_cons]
      refine (ih next nodup.2 ?_).congr fun sid pid => by simp [and_assoc]
      intro gone hg
      refine ⟨there gone (List.mem_cons_of_mem _ hg), ?_⟩
      rintro ⟨hs, hp⟩
      exact nodup.1 (List.mem_map.mpr ⟨gone, hg, by rw [hs, hp]⟩)

theorem Announcing.told_reap (announcing : server.Announcing home) (cfg : Config) (now : Int) :
    Told home (Reaper.sweep cfg now server).hub (Reaper.sweep cfg now server).isOpen
      (Reaper.sweep cfg now server).outbound (Reaper.sweep cfg now server).InRoster := by
  have wf := announcing.wellFormed
  have there : ∀ gone ∈ (server.registry.reapStale cfg.ttlMs now).2,
      server.InRoster gone.sid gone.pid := by
    intro gone hg
    obtain ⟨participant, hp, _⟩ := (SessionRegistry.mem_reapStale_iff wf.seated _ _ gone).mp hg
    rw [SessionRegistry.participant?_eq] at hp
    obtain ⟨entry, he, _⟩ := Option.map_eq_some_iff.mp hp
    exact Option.isSome_of_eq_some he
  have swept : Told home (Reaper.sweep cfg now server).hub (Reaper.sweep cfg now server).isOpen
      (Reaper.sweep cfg now server).outbound
      fun sid pid => server.InRoster sid pid ∧
        ∀ gone ∈ (server.registry.reapStale cfg.ttlMs now).2, ¬(sid = gone.sid ∧ pid = gone.pid) :=
    told_foldl_announce cfg now announcing.told
      (SessionRegistry.reapStale_nodup wf.seated cfg.ttlMs now) there
  apply swept.congr
  intro sid pid
  rw [InRoster, InRoster, Reaper.sweep_entryOf cfg now wf]
  cases he : server.entryOf sid pid with
  | none => simp
  | some entry =>
      have found : server.registry.participant? sid pid = some entry.participant := by
        rw [SessionRegistry.participant?_eq]
        exact congrArg (Option.map Entry.participant) he
      by_cases stale : entry.participant.Stale cfg.ttlMs now
      · have reaped := (SessionRegistry.mem_reapStale_iff wf.seated cfg.ttlMs now
          ⟨sid, pid, entry.participant.lastSeenAt⟩).mpr ⟨_, found, stale, rfl⟩
        simp only [Option.filter, stale, not_true_eq_false, decide_false, Bool.false_eq_true,
          if_false, Option.isSome_none, Option.isSome_some, true_and, false_iff, not_forall]
        exact ⟨_, reaped, fun h => h ⟨rfl, rfl⟩⟩
      · simp only [Option.filter, stale, not_false_eq_true, decide_true, if_true,
          Option.isSome_some, true_and, true_iff]
        rintro gone hg ⟨rfl, rfl⟩
        obtain ⟨participant, hp, hs, _⟩ := (SessionRegistry.mem_reapStale_iff wf.seated _ _ gone).mp hg
        cases found.symm.trans hp
        exact stale hs

/-- A hello tells its sender of everybody, and everybody of a newcomer. -/
theorem Announcing.told_hello (announcing : server.Announcing home) (now : Int)
    {ctx guarded : ConnectionContext} {msg : HelloMessage} (live : server.Live ctx)
    (same : guarded.identity = ctx.identity)
    (identified : ∀ pid, ctx.pid = some pid → msg.pid = pid) (hHome : ctx.sid = home msg.pid) :
    Told home (handleHello now guarded msg (server.setContext guarded)).hub
      (handleHello now guarded msg (server.setContext guarded)).isOpen
      (handleHello now guarded msg (server.setContext guarded)).outbound
      (handleHello now guarded msg (server.setContext guarded)).InRoster := by
  have wf : (server.setContext guarded).WellFormed := announcing.wellFormed
  have seat : ∀ other taken, server.hub.registration other = some taken →
      taken.socket = guarded.socket → other = msg.pid := by
    intro other taken registered hs
    have known := announcing.registered other taken registered
    rw [hs, identity_socket same] at known
    exact (identified other (live.identified_iff.mp known)).symm
  have roster : ∀ sid member,
      (handleHello now guarded msg (server.setContext guarded)).InRoster sid member ↔
        server.InRoster sid member ∨ (sid = guarded.sid ∧ member = msg.pid) := by
    intro sid member
    rw [InRoster, handleHello_entryOf _ _ _ _ wf]
    by_cases own : sid = guarded.sid ∧ member = msg.pid
    · simp [own]
    · rw [if_neg own, or_iff_left own]
      rfl
  have members : ∀ member, member ∈ (toParticipantSnapshots
      ((server.setContext guarded).helloSession now guarded msg)).map ParticipantSnapshot.pid ↔
        server.InRoster guarded.sid member ∨ member = msg.pid := by
    intro member
    rw [mem_toParticipantSnapshots_pids (helloSession_wellFormed _ now guarded msg wf),
      helloSession_entryOf _ _ _ _ wf]
    by_cases own : member = msg.pid
    · simp [own]
    · rw [if_neg own, or_iff_left own]
      rfl
  rw [handleHello_eq] at roster ⊢
  let connection : Connection := { pid := msg.pid, sid := guarded.sid, socket := guarded.socket }
  let joins : List Write :=
    if ((server.setContext guarded).entryOf guarded.sid msg.pid).isSome then []
    else
      (server.hub.register connection).broadcastToSession server.isOpen guarded.sid
        (joinMessage guarded.sid (helloed msg none) now) (some msg.pid)
  have hJoins : server.InRoster guarded.sid msg.pid ∧ joins = [] ∨
      ¬server.InRoster guarded.sid msg.pid ∧
        joins = (server.hub.register connection).broadcastToSession server.isOpen guarded.sid
          (joinMessage guarded.sid (helloed msg none) now) (some msg.pid) := by
    by_cases there : server.InRoster guarded.sid msg.pid
    · exact Or.inl ⟨there, if_pos there⟩
    · exact Or.inr ⟨there, if_neg there⟩
  have atHome : connection.sid = home connection.pid := (identity_sid same).trans hHome
  have listed : (OutboundMessage.welcome (toWelcome
      ((server.setContext guarded).helloSession now guarded msg) msg.pid 0 now)).notice? =
        some (.whole ((toParticipantSnapshots
          ((server.setContext guarded).helloSession now guarded msg)).map
            ParticipantSnapshot.pid)) := rfl
  exact (announcing.told.arrive atHome seat listed rfl hJoins members).congr roster

/-- Whoever is on a socket that opens no more still knows the roster. -/
theorem told_shut {present : SessionId → ParticipantId → Prop}
    (told : Told home server.hub server.isOpen server.outbound present) (socket : SocketId)
    {state : ReadyState} (shut : state ≠ .open) :
    Told home server.hub (server.setReadyState socket state).isOpen server.outbound present := by
  apply told.narrow
  intro pid connection _ opened
  rw [isOpen, readyState_setReadyState, decide_eq_true_eq] at opened
  split at opened
  · exact absurd opened shut
  · exact decide_eq_true opened

/-- Replies tell nobody of a roster, and what is quiet moves none. -/
theorem Announcing.told_quiet (announcing : server.Announcing home) (quiet : server.Quiet after) :
    Told home after.hub after.isOpen after.outbound after.InRoster := by
  obtain ⟨writes, hOut, replies⟩ := quiet.replies
  have opened : after.isOpen = server.isOpen := by
    funext socket
    rw [isOpen, isOpen, quiet.readyState]
  have silent : ∀ write ∈ writes, write.message.notice? = none := by
    intro write hw
    have reply := replies write hw
    rcases write with ⟨_, _, message⟩
    cases message with
    | welcome _ | join _ | leave _ => rcases reply with h | h | h <;> cases h
    | _ => rfl
  rw [quiet.hub, opened, hOut]
  exact (announcing.told.silent silent).congr (inRoster_congr quiet.registry)

/-- Nobody is registered on a socket that is only now opened. -/
theorem Announcing.told_connect (announcing : server.Announcing home) {socket : SocketId}
    (fresh : server.contexts socket = none) :
    Told home server.hub (server.setReadyState socket .open).isOpen server.outbound
      server.InRoster := by
  apply announcing.told.narrow
  intro pid connection registered opened
  have known := announcing.registered pid connection registered
  have different : connection.socket ≠ socket := by
    intro h
    rw [h, Identified, identity?, fresh] at known
    cases known
  rw [isOpen, readyState_setReadyState, if_neg different] at opened
  exact opened

/-- Moving somebody who is there brings nobody in and takes nobody away. -/
theorem told_presence (told : Told home server.hub server.isOpen server.outbound server.InRoster)
    {ctx : ConnectionContext} {event : SessionEvent} (isPresence : event.IsPresence) :
    Told home (handlePresence ctx event (server.setContext ctx)).hub
      (handlePresence ctx event (server.setContext ctx)).isOpen
      (handlePresence ctx event (server.setContext ctx)).outbound
      (handlePresence ctx event (server.setContext ctx)).InRoster := by
  have roster : ∀ sid pid, (handlePresence ctx event (server.setContext ctx)).InRoster sid pid ↔
      server.InRoster sid pid := by
    intro sid pid
    rw [InRoster, handlePresence_entryOf _ _ isPresence]
    split
    · rw [Option.isSome_map]
      rfl
    · rfl
  obtain ⟨registry, h⟩ := handlePresence_eq (server.setContext ctx) ctx event
  rw [h] at roster ⊢
  exact told.congr roster

/-- A socket that closes may take its participant out of the roster, and then
tells of it. -/
theorem told_handleDisconnect
    (told : Told home server.hub server.isOpen server.outbound server.InRoster) (now : Int)
    (ctx : ConnectionContext) :
    Told home (handleDisconnect cfg now ctx (server.setReadyState ctx.socket .closed)).hub
      (handleDisconnect cfg now ctx (server.setReadyState ctx.socket .closed)).isOpen
      (handleDisconnect cfg now ctx (server.setReadyState ctx.socket .closed)).outbound
      (handleDisconnect cfg now ctx (server.setReadyState ctx.socket .closed)).InRoster := by
  have closed : Told home server.hub (server.setReadyState ctx.socket .closed).isOpen
      server.outbound server.InRoster :=
    told_shut told ctx.socket (by decide)
  rw [handleDisconnect]
  split
  · exact closed
  · apply told_removeFromSession
    split
    · exact closed
    · exact closed

/-- A tick sends patches only, which tell of nobody coming or going. -/
theorem Announcing.told_tick (announcing : server.Announcing home) (cfg : Config) (now : Int) :
    Told home (server.tick now).hub (server.tick now).isOpen (server.tick now).outbound
      (server.tick now).InRoster := by
  have effect : Effect cfg server now .tick (server.tick now) := .tick
  obtain ⟨writes, hOut, spoken⟩ := effect.outbound
  have roster : ∀ sid pid, (server.tick now).InRoster sid pid ↔ server.InRoster sid pid := by
    intro sid pid
    rw [InRoster, effect.entryOf announcing.wellFormed, Action.onEntry, Option.isSome_map]
    rfl
  have silent : ∀ write ∈ writes, write.message.notice? = none := by
    intro write hw
    have patches := spoken write hw
    generalize write.message = message at patches
    cases patches
    rfl
  rw [hOut]
  exact (announcing.told.silent silent).congr roster

/-- Every step of such a run says of the rosters what has become of them. -/
theorem Announcing.told_step (announcing : server.Announcing home)
    (atHome : ∀ ctx msg, action = .hello ctx msg → ctx.sid = home msg.pid)
    (effect : Effect cfg server now action after) :
    Told home after.hub after.isOpen after.outbound after.InRoster := by
  have told := announcing.told
  cases effect with
  | idle quiet => exact announcing.told_quiet quiet
  | connect fresh => exact announcing.told_connect fresh
  | closing wasOpen => exact told_shut told _ (by decide)
  | @hello ctx guarded msg live same identified =>
      exact announcing.told_hello now live same identified (atHome ctx msg rfl)
  | presence live same isPresence identified => exact told_presence told isPresence
  | @bye ctx guarded pid live same identified =>
      let leaving := (server.setContext guarded).setContext { guarded with leftExplicitly := true }
      have unmoved : Told home leaving.hub leaving.isOpen leaving.outbound leaving.InRoster := told
      exact told_removeFromSession unmoved now guarded pid
  | close live => exact told_handleDisconnect told now _
  | tick => exact announcing.told_tick cfg now
  | reap => exact announcing.told_reap cfg now

/-- A registration is for a connection of its participant. -/
theorem Announcing.registered_step (announcing : server.Announcing home)
    (effect : Effect cfg server now action after) (pid : ParticipantId) (connection : Connection)
    (h : after.hub.registration pid = some connection) :
    after.Identified connection.socket pid := by
  have kept : server.hub.registration pid = some connection →
      after.Identified connection.socket pid :=
    fun registered => effect.identified (announcing.registered pid connection registered)
  by_cases swept : action = .reap
  · subst swept
    cases effect
    apply kept
    by_cases reaps : Reaper.Reaps cfg now server pid
    · rw [Reaper.sweep_registration_of_reaps cfg now announcing.wellFormed reaps] at h
      cases h
    · rw [Reaper.sweep_registration_of_not_reaps cfg now announcing.wellFormed reaps] at h
      exact h
  · have moved := effect.registration swept pid
    rw [h] at moved
    cases action with
    | hello ctx msg =>
        rw [Action.onRegistration] at moved
        split at moved
        · next own =>
            rw [Option.some.inj moved, Identified, effect.identity?, Action.onIdentity, if_pos rfl,
              own]
            rfl
        · exact kept moved.symm
    | bye ctx other =>
        rw [Action.onRegistration] at moved
        split at moved
        · cases moved
        · exact kept moved.symm
    | close ctx =>
        rw [Action.onRegistration] at moved
        split at moved
        · cases moved
        · exact kept moved.symm
    | _ => exact kept moved.symm

theorem Announcing.step (announcing : server.Announcing home) {stamped : Stamped}
    (atHome : server.AtHome home stamped) : (server.step cfg stamped).Announcing home := by
  have effect := step_effect cfg server stamped
  exact ⟨effect.wellFormed announcing.wellFormed, announcing.registered_step effect,
    announcing.told_step (fun ctx msg h => atHome ctx msg (action_eq_hello h)) effect⟩

end Step

theorem initial_announcing (home : ParticipantId → SessionId) :
    Server.initial.Announcing home where
  wellFormed := initial_wellFormed
  registered := by
    intro pid connection h
    cases h
  told :=
    { seated := BroadcastHub.empty_seated home
      follows := by
        intro pid connection h
        cases h
      fits := fun _ => trivial }

/-- As long as every participant keeps to one session, on however many
connections, whoever is registered on an open socket knows the roster of its
session from its last welcome and the joins and leaves it was sent since, and
no socket is ever told of a join of a known participant or a leave of an
unknown one. -/
theorem announcements_mirror (cfg : Config) (home : ParticipantId → SessionId)
    (events : List Stamped) (atHome : Transition.Along (step cfg) (AtHome home) initial events) :
    (∀ pid connection, (initial.run cfg events).hub.registration pid = some connection →
      (initial.run cfg events).isOpen connection.socket = true → ∀ other,
        other ∈ announced (initial.run cfg events).outbound connection.socket ↔
          (initial.run cfg events).InRoster connection.sid other) ∧
      ∀ socket, Exact ∅ (noticesTo socket (initial.run cfg events).outbound) := by
  have announcing : (initial.run cfg events).Announcing home :=
    Transition.invariant_run_along (fun _ _ stays announcing => announcing.step stays)
      (initial_announcing home) atHome
  exact ⟨announcing.told.follows, announcing.told.fits⟩

open Scenario

/-- One is reaped and comes back on the same socket, the other says bye and
its socket closes after that. -/
def comings : List Stamped :=
  arrival 0 1 session alice 1 ++ arrival 50 2 session bob 1 ++
    [⟨120, .reap⟩, ⟨130, .message 1 (helloFrame session alice 2 130)⟩,
      ⟨140, .message 2 (.parsed (.bye { envelope session bob 2 140 with }))⟩, ⟨150, .close 2⟩]

theorem comings_atHome :
    Transition.Along (step (config 100)) (AtHome fun _ => session) initial comings := by
  decide

theorem announcements_mirror_comings :
    (∀ other, other ∈ announced (initial.run (config 100) comings).outbound 1 ↔
      (initial.run (config 100) comings).InRoster session other) ∧
      Exact ∅ (noticesTo 2 (initial.run (config 100) comings).outbound) := by
  have mirror := announcements_mirror (config 100) (fun _ => session) comings comings_atHome
  have registered : (initial.run (config 100) comings).hub.registration alice =
      some { pid := alice, sid := session, socket := 1 } := by decide
  exact ⟨mirror.1 alice _ registered (by decide), mirror.2 2⟩

end Server

end Copresence
