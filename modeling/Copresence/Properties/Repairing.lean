import Copresence.Server.Flushing
import Copresence.Services.ConvergenceTracker

/-! What a recipient makes of a session when patches are lost, against what
the session holds. -/
namespace Copresence

open Collections

/-- The patches of one session, among these writes, that go to one recipient. -/
def patchesTo (recipient : ParticipantId) (sid : SessionId) (writes : List Write) :
    List PatchMessage :=
  writes.filterMap fun write =>
    match write.message with
    | .patch patch =>
      if write.recipient = some recipient ∧ patch.sid = sid then some patch else none
    | _ => none

theorem mem_patchesTo {recipient : ParticipantId} {sid : SessionId} {writes : List Write}
    {patch : PatchMessage} (h : patch ∈ patchesTo recipient sid writes) :
    ∃ write ∈ writes, write.message = .patch patch ∧ patch.sid = sid := by
  obtain ⟨write, hw, hp⟩ := List.mem_filterMap.mp h
  split at hp
  · next found hm =>
      split at hp
      · next addressed =>
          obtain rfl := Option.some.inj hp
          exact ⟨write, hw, hm, addressed.2⟩
      · cases hp
  · cases hp

namespace Watched

/-- A participant whose last change is flushed, and a patch that is no older
than the last dirty tick and inside the settle window of that flush. -/
structure Settles (watched : Watched) (sid : SessionId) (patch : PatchMessage)
    (pid : ParticipantId) (entry : Entry) : Prop where
  member : watched.server.entryOf sid pid = some entry
  clean : entry.dirty = {}
  late : ∀ last, watched.flushes.head? = some last → last.seq ≤ patch.seq
  recent : ∀ flush, watched.flushes.find? (fun flush => flush.Names pid) = some flush →
    patch.ts - flush.ts < patchSettleWindowMs

/-- Whatever is lost of the patches, one that comes late enough leaves the
recipient with the position of everybody who settled. -/
def Repaired (watched : Watched) (sid : SessionId) (recipient : ParticipantId)
    (sent : List PatchMessage) (tracker : ConvergenceTracker) : Prop :=
  ∀ delivered : List PatchMessage, delivered.Sublist sent → ∀ patch ∈ delivered, ∀ pid entry,
    watched.Settles sid patch pid entry → ∀ field,
      ((tracker.recordDeliveries sid recipient (delivered.map .patch)).view sid recipient).seen
        field pid = field.ofPresence entry.participant.presence

/-- The recipient was never told another position of the participant. -/
def NeverElsewhere (sid : SessionId) (recipient : ParticipantId) (sent : List PatchMessage)
    (tracker : ConvergenceTracker) (field : PresenceField) (pid : ParticipantId)
    (position : Option (ℚ × ℚ)) : Prop :=
  (tracker.view sid recipient).seen field pid = position ∧
    ∀ other ∈ sent, ∀ value, field.carried pid other.patches = some value →
      position = some value

/-- Each field that was flushed at all was last flushed by the last dirty tick,
or never held anything but its last position. -/
def Covered (watched : Watched) (sid : SessionId) (recipient : ParticipantId)
    (sent : List PatchMessage) (tracker : ConvergenceTracker) : Prop :=
  ∀ patch ∈ sent, ∀ pid entry, watched.Settles sid patch pid entry → ∀ field flush,
    watched.flushes.find? (fun flush => (field.carried pid flush.patches).isSome) = some flush →
      watched.flushes.head? = some flush ∨
        NeverElsewhere sid recipient sent tracker field pid
          (field.ofPresence entry.participant.presence)

end Watched

/-- Values that agree with the first stay. -/
theorem foldl_or_eq {α β : Type} {said : α → Option β} {items : List α} {start : Option β}
    (agree : ∀ item ∈ items, ∀ value, said item = some value → start = some value) :
    items.foldl (fun old item => (said item).or old) start = start := by
  induction items with
  | nil => rfl
  | cons item items ih =>
      have here : (said item).or start = start := by
        cases h : said item with
        | none => rfl
        | some value => exact (agree item List.mem_cons_self value h).symm
      rw [List.foldl_cons, here]
      exact ih fun other ho => agree other (List.mem_cons_of_mem _ ho)

/-- Two members of an ordered list, in their order. -/
theorem pair_sublist {α : Type} {R : α → α → Prop} {items : List α} (ordered : items.Pairwise R)
    {first second : α} (hFirst : first ∈ items) (hSecond : second ∈ items)
    (notAfter : ¬ R second first) (distinct : first ≠ second) : [first, second].Sublist items := by
  obtain ⟨before, after, rfl⟩ := List.append_of_mem hFirst
  rcases List.mem_append.mp hSecond with h | h
  · exact absurd ((List.pairwise_append.mp ordered).2.2 second h first List.mem_cons_self) notAfter
  · rcases List.mem_cons.mp h with h | h
    · exact absurd h.symm distinct
    · exact (List.Sublist.cons_cons first (List.singleton_sublist.mpr h)).trans
        (List.sublist_append_right _ _)

namespace ParticipantView

/-- Patches in order, a repeated one among them at most right away, are all
applied, as far as can be seen. -/
theorem seen_patches {patches : List PatchMessage}
    (ordered : patches.Pairwise fun early late => early.seq < late.seq ∨ early = late)
    {view : ParticipantView}
    (applies : ∀ patch ∈ patches, view.Fresh patch.seq ∨ ∀ (field : PresenceField) pid,
      (field.carried pid patch.patches).or (view.seen field pid) = view.seen field pid)
    (field : PresenceField) (pid : ParticipantId) :
    ((patches.map OutboundMessage.patch).foldl deliver view).seen field pid =
      patches.foldl (fun old patch => (field.carried pid patch.patches).or old)
        (view.seen field pid) := by
  induction patches generalizing view with
  | nil => rfl
  | cons patch patches ih =>
      rw [List.pairwise_cons] at ordered
      have told : ∀ (field : PresenceField) pid, (view.deliver (.patch patch)).seen field pid =
          (field.carried pid patch.patches).or (view.seen field pid) := by
        intro field pid
        rw [seen_patch]
        split
        · rfl
        · next stale =>
            exact ((applies patch List.mem_cons_self).resolve_left stale field pid).symm
      rw [List.map_cons, List.foldl_cons, List.foldl_cons, ← told]
      apply ih ordered.2
      intro other ho
      rcases ordered.1 other ho with later | rfl
      · by_cases fresh : view.Fresh patch.seq
        · apply Or.inl
          intro last hl
          rw [deliver, if_pos fresh] at hl
          exact Option.some.inj hl ▸ later
        · have stays : view.deliver (.patch patch) = view := by rw [deliver, if_neg fresh]
          rw [stays]
          exact applies other (List.mem_cons_of_mem _ ho)
      · apply Or.inr
        intro field pid
        rw [told, ← Option.or_assoc, Option.or_self]

end ParticipantView

namespace Watched

section Stretch

variable {start : Server} {sid : SessionId} {recipient : ParticipantId} {watched : Watched}
  {writes : List Write} {tracker : ConvergenceTracker}

/-- A recipient that starts with what the session holds, nothing of which the
settle window contradicts. -/
structure Synced (start : Server) (sid : SessionId) (recipient : ParticipantId)
    (tracker : ConvergenceTracker) : Prop where
  behind : ∀ last ∈ (tracker.view sid recipient).lastPatchSeq, last ≤ start.scheduler.seq
  seen : ∀ (field : PresenceField) pid,
    (tracker.view sid recipient).seen field pid = start.position field sid pid
  base : ∀ pid entry (field : PresenceField), start.entryOf sid pid = some entry →
    field.marked entry.dirty = false → ∀ value, field.carried pid (base start sid) = some value →
      start.position field sid pid = some value

/-- A recipient is sent its patches in the order of their numbers, repetitions aside. -/
theorem Tells.ordered_to (tells : Tells start sid watched writes) (recipient : ParticipantId) :
    (patchesTo recipient sid writes).Pairwise
      fun early late => early.seq < late.seq ∨ early = late := by
  rw [patchesTo]
  rw [List.pairwise_filterMap]
  refine tells.ordered.imp fun ordered early hEarly late hLate => ?_
  split at hEarly
  · next first hFirst =>
      split at hEarly
      · next addressed =>
          split at hLate
          · next second hSecond =>
              split at hLate
              · next addressed' =>
                  obtain rfl := Option.some.inj hEarly
                  obtain rfl := Option.some.inj hLate
                  exact ordered _ _ hFirst addressed.2 hSecond addressed'.2
              · cases hLate
          · cases hLate
      · cases hEarly
  · cases hEarly

/-- A recipient is sent what the numbers of its patches stand for. -/
theorem Tells.content_to (tells : Tells start sid watched writes) {patch : PatchMessage}
    (h : patch ∈ patchesTo recipient sid writes) :
    start.scheduler.seq < patch.seq ∧
      patch.patches = Watched.content (Watched.base start sid) watched.flushes patch.seq := by
  obtain ⟨write, hw, hm, hSid⟩ := mem_patchesTo h
  exact ⟨(tells.numbered write hw patch hm hSid).1, tells.content write hw patch hm hSid⟩

/-- What the recipient ends up with, field by field. -/
theorem Tells.seen_delivered (tells : Tells start sid watched writes)
    (synced : Synced start sid recipient tracker) {delivered : List PatchMessage}
    (sub : delivered.Sublist (patchesTo recipient sid writes)) (field : PresenceField)
    (pid : ParticipantId) :
    ((tracker.recordDeliveries sid recipient (delivered.map .patch)).view sid recipient).seen
        field pid =
      delivered.foldl (fun old patch => (field.carried pid patch.patches).or old)
        (start.position field sid pid) := by
  rw [ConvergenceTracker.recordDeliveries_view, ParticipantView.seen_patches
    ((tells.ordered_to recipient).sublist sub), synced.seen]
  intro patch hp
  refine Or.inl fun last hl => Int.lt_of_le_of_lt (synced.behind last hl) ?_
  exact (tells.content_to (sub.subset hp)).1

/-- The presence of a settled participant, by what was flushed of it. -/
theorem Accounts.settled (accounts : Accounts start sid watched) {patch : PatchMessage}
    {pid : ParticipantId} {entry : Entry} (settles : watched.Settles sid patch pid entry)
    (field : PresenceField) :
    field.ofPresence entry.participant.presence =
      (lastFlushed watched.flushes field pid).or (start.position field sid pid) :=
  accounts.held pid entry field settles.member
    (PresenceDirty.eq_empty_iff.mp settles.clean field)

/-- A field never flushed is as it was told at the start. -/
theorem Accounts.never_elsewhere (accounts : Accounts start sid watched)
    (tells : Tells start sid watched writes) (synced : Synced start sid recipient tracker)
    {patch : PatchMessage} {pid : ParticipantId} {entry : Entry}
    (settles : watched.Settles sid patch pid entry) {field : PresenceField}
    (unflushed : watched.flushes.find?
      (fun flush => (field.carried pid flush.patches).isSome) = none) :
    NeverElsewhere sid recipient (patchesTo recipient sid writes) tracker field pid
      (field.ofPresence entry.participant.presence) := by
  have nothing := lastFlushed_of_find?_none unflushed
  have position := accounts.settled settles field
  rw [nothing, Option.none_or] at position
  refine ⟨by rw [synced.seen, position], fun other ho value hv => ?_⟩
  rw [(tells.content_to ho).2] at hv
  rcases content_cases (Watched.base start sid) watched.flushes other.seq with ⟨flush, hf, same⟩ | same
  · rw [same] at hv
    have silent := List.find?_eq_none.mp unflushed flush hf
    rw [hv] at silent
    exact absurd rfl silent
  · rw [same] at hv
    obtain ⟨old, hOld, unmarked⟩ := accounts.untouched pid entry field settles.member
      (PresenceDirty.eq_empty_iff.mp settles.clean field) nothing
    rw [position]
    exact synced.base pid old field hOld unmarked value hv

/-- The patch that settles carries the last dirty tick's content. -/
theorem Tells.content_late (tells : Tells start sid watched writes) {patch other : PatchMessage}
    {pid : ParticipantId} {entry : Entry} (settles : watched.Settles sid patch pid entry)
    (ho : other ∈ patchesTo recipient sid writes) (later : patch.seq ≤ other.seq)
    {last : PatchMessage} (hLast : watched.flushes.head? = some last) :
    other.patches = last.patches := by
  rw [(tells.content_to ho).2, content_past, hLast]
  · rfl
  · exact fun flush hf => Int.le_trans (settles.late flush hf) later

/-- A recipient that was delivered enough of the flushes holds what the session does. -/
theorem Covered.repaired (accounts : Accounts start sid watched)
    (tells : Tells start sid watched writes) (synced : Synced start sid recipient tracker)
    (covered : watched.Covered sid recipient (patchesTo recipient sid writes) tracker) :
    watched.Repaired sid recipient (patchesTo recipient sid writes) tracker := by
  intro delivered sub patch hp pid entry settles field
  rw [tells.seen_delivered synced sub]
  have elsewhere : NeverElsewhere sid recipient (patchesTo recipient sid writes) tracker field pid
      (field.ofPresence entry.participant.presence) →
      delivered.foldl (fun old patch => (field.carried pid patch.patches).or old)
        (start.position field sid pid) = field.ofPresence entry.participant.presence := by
    intro ⟨seen, same⟩
    rw [← synced.seen, seen]
    exact foldl_or_eq fun other ho => same other (sub.subset ho)
  cases hf : watched.flushes.find? (fun flush => (field.carried pid flush.patches).isSome) with
  | none => exact elsewhere (accounts.never_elsewhere tells synced settles hf)
  | some flush =>
      rcases covered patch (sub.subset hp) pid entry settles field flush hf with hHead | never
      · have flushes := List.find?_some hf
        obtain ⟨value, hv⟩ := Option.isSome_iff_exists.mp flushes
        have position := accounts.settled settles field
        rw [lastFlushed_of_find? hf, hv, Option.some_or] at position
        obtain ⟨before, after, rfl⟩ := List.append_of_mem hp
        have carried : ∀ other ∈ patchesTo recipient sid writes, patch.seq ≤ other.seq →
            field.carried pid other.patches = some value := by
          intro other ho later
          rw [tells.content_late settles ho later hHead, hv]
        have ordered := (List.pairwise_append.mp
          ((tells.ordered_to recipient).sublist sub)).2.1
        rw [List.foldl_append, List.foldl_cons, carried patch (sub.subset hp) (Int.le_refl _),
          Option.some_or, position]
        apply foldl_or_eq
        intro other ho found hFound
        have later : patch.seq ≤ other.seq := by
          rcases (List.pairwise_cons.mp ordered).1 other ho with h | h
          · exact Int.le_of_lt h
          · exact Int.le_of_eq (by rw [h])
        have hm : other ∈ before ++ patch :: after :=
          List.mem_append_right _ (List.mem_cons_of_mem _ ho)
        rw [carried other (sub.subset hm) later] at hFound
        exact hFound
      · exact elsewhere never

/-- A recipient that holds what the session does was delivered enough of the flushes. -/
theorem Repaired.covered (tells : Tells start sid watched writes)
    (synced : Synced start sid recipient tracker)
    (repaired : watched.Repaired sid recipient (patchesTo recipient sid writes) tracker) :
    watched.Covered sid recipient (patchesTo recipient sid writes) tracker := by
  intro patch hp pid entry settles field flush hf
  by_cases hHead : watched.flushes.head? = some flush
  · exact Or.inl hHead
  -- the last dirty tick says nothing of the field, and all else may be lost
  obtain ⟨last, hLast⟩ : ∃ last, watched.flushes.head? = some last := by
    cases hl : watched.flushes with
    | nil => rw [hl] at hf; cases hf
    | cons last rest => exact ⟨last, rfl⟩
  have silent : field.carried pid last.patches = none := by
    cases hl : watched.flushes with
    | nil => rw [hl] at hLast; cases hLast
    | cons first rest =>
        rw [hl] at hLast hf hHead
        obtain rfl := Option.some.inj hLast
        cases hc : field.carried pid first.patches with
        | none => rfl
        | some value =>
            rw [List.find?_cons_of_pos (by rw [hc]; rfl)] at hf
            exact absurd hf hHead
  have quiet : ∀ other ∈ patchesTo recipient sid writes, patch.seq ≤ other.seq →
      field.carried pid other.patches = none := by
    intro other ho later
    rw [tells.content_late settles ho later hLast, silent]
  refine Or.inr ⟨?_, fun other ho value hv => ?_⟩
  · have alone : [patch].Sublist (patchesTo recipient sid writes) := List.singleton_sublist.mpr hp
    rw [synced.seen, ← repaired [patch] alone patch List.mem_cons_self pid entry settles field,
      tells.seen_delivered synced alone, List.foldl_cons, List.foldl_nil,
      quiet patch hp (Int.le_refl _), Option.none_or]
  · have earlier : other.seq < patch.seq := by
      rcases Int.lt_or_le other.seq patch.seq with h | h
      · exact h
      · rw [quiet other ho h] at hv
        cases hv
    have pair : [other, patch].Sublist (patchesTo recipient sid writes) := by
      refine pair_sublist (tells.ordered_to recipient) ho hp ?_ ?_
      · intro h
        rcases h with h | h
        · omega
        · rw [h] at earlier
          omega
      · intro h
        rw [h] at earlier
        omega
    rw [← repaired [other, patch] pair patch (by simp) pid entry settles field,
      tells.seen_delivered synced pair, List.foldl_cons, List.foldl_cons, List.foldl_nil,
      quiet patch hp (Int.le_refl _), Option.none_or, hv]
    rfl

end Stretch

end Watched

/-- A welcome seeds the view with what the session holds. -/
theorem ParticipantView.seen_welcome (view : ParticipantView) {session : Session}
    (wf : session.WellFormed) (recipient : ParticipantId) (seq now : Int) (field : PresenceField)
    (pid : ParticipantId) :
    (view.deliver (.welcome (toWelcome session recipient seq now))).seen field pid =
      (session.entryOf pid).bind fun entry => field.ofPresence entry.participant.presence := by
  have own : ∀ snapshot ∈ toParticipantSnapshots session, pid = snapshot.pid →
      field.ofSnapshot snapshot =
        (session.entryOf pid).bind fun entry => field.ofPresence entry.participant.presence := by
    intro snapshot hs hp
    obtain ⟨participant, hm, rfl⟩ := List.mem_map.mp hs
    obtain ⟨key, hk⟩ := JsMap.mem_values_iff.mp hm
    have hKey : pid = key := hp.trans (wf.keyed key participant hk)
    rw [PresenceField.ofSnapshot_toParticipantSnapshot, hKey, Session.entryOf_of_get hk]
    rfl
  show field.seen ((toParticipantSnapshots session).foldl upsert JsMap.empty) pid = _
  rw [PresenceField.seen_foldl_upsert own]
  split
  · rw [show field.seen JsMap.empty pid = none from rfl, Option.or_none]
  · next unlisted =>
      rw [mem_toParticipantSnapshots_pids wf, Option.not_isSome_iff_eq_none] at unlisted
      rw [unlisted]
      rfl

/-- After a hello its session has the entries the hello left. -/
theorem Server.hello_entryOf (cfg : Config) {server : Server} {stamped : Stamped}
    (wf : server.WellFormed) {ctx : ConnectionContext} {msg : HelloMessage}
    (h : server.action stamped = .hello ctx msg) (pid : ParticipantId) :
    (server.step cfg stamped).entryOf ctx.sid pid =
      (server.helloSession stamped.time ctx msg).entryOf pid := by
  rw [(step_effect cfg server stamped).entryOf wf, h, helloSession_entryOf _ _ _ _ wf,
    Action.onEntry]
  simp only [true_and]

/-- A welcome is written for a hello, and lists the roster the hello left. -/
theorem Server.action_of_welcome {cfg : Config} {server : Server} {stamped : Stamped}
    {write : Write} (hw : write ∈ server.written cfg stamped) {welcome : WelcomeMessage}
    (hm : write.message = .welcome welcome) :
    ∃ ctx msg, server.action stamped = .hello ctx msg ∧ welcome =
      toWelcome (server.helloSession stamped.time ctx msg) msg.pid 0 stamped.time := by
  have said := said_of_mem_written hw
  rw [hm] at said
  generalize server.action stamped = action at said
  generalize he : OutboundMessage.welcome welcome = message at said
  cases said with
  | reply isReply => rw [← he] at isReply; rcases isReply with h | h | h <;> cases h
  | welcome ctx msg => exact ⟨ctx, msg, rfl, OutboundMessage.welcome.inj he⟩
  | _ => cases he

namespace Watched

/-- A recipient just welcomed into a session that nobody has left since its
last flush starts in step with it. -/
theorem synced_of_welcomed (cfg : Config) (history : List Stamped) (arrival : Stamped)
    {welcome : WelcomeMessage}
    (welcomed : ∃ write ∈ (Server.initial.run cfg history).written cfg arrival,
      write.message = .welcome welcome)
    (together : ∀ pid,
      ¬ (Tracked.initial.run cfg (history ++ [arrival])).left welcome.sid pid)
    {tracker : ConvergenceTracker}
    (behind : ∀ last ∈ (tracker.view welcome.sid welcome.pid).lastPatchSeq,
      last ≤ (Server.initial.run cfg (history ++ [arrival])).scheduler.seq) :
    Synced (Server.initial.run cfg (history ++ [arrival])) welcome.sid welcome.pid
      (tracker.recordDelivery welcome.sid welcome.pid (.welcome welcome)) := by
  have wf := Server.run_wellFormed cfg Server.initial_wellFormed history
  obtain ⟨write, hw, hm⟩ := welcomed
  obtain ⟨ctx, msg, hello, hWelcome⟩ := Server.action_of_welcome hw hm
  have view : ((tracker.recordDelivery welcome.sid welcome.pid (.welcome welcome)).view
      welcome.sid welcome.pid) =
        (tracker.view welcome.sid welcome.pid).deliver (.welcome welcome) := by
    rw [ConvergenceTracker.recordDelivery_view, if_pos ⟨rfl, rfl⟩]
  have hSid : welcome.sid = ctx.sid := by
    rw [hWelcome]
    exact Server.helloSession_sid _ _ ctx msg
  refine ⟨?_, ?_, ?_⟩
  · rw [view]
    exact behind
  · intro field pid
    have session := Server.helloSession_wellFormed (Server.initial.run cfg history) arrival.time
      ctx msg wf
    have seeded := ParticipantView.seen_welcome (tracker.view welcome.sid welcome.pid) session
      msg.pid 0 arrival.time field pid
    rw [← hWelcome, ← Server.hello_entryOf cfg wf hello, ← hSid] at seeded
    rw [view, seeded, Server.position, show Server.initial.run cfg (history ++ [arrival]) =
      (Server.initial.run cfg history).step cfg arrival from Transition.run_concat _ _ _ _]
  · intro pid entry field he unmarked value hv
    have remembering := Tracked.run_remembering cfg (history ++ [arrival])
    have server := Tracked.run_server cfg Tracked.initial (history ++ [arrival])
    unfold base at hv
    cases hs : (Server.initial.run cfg (history ++ [arrival])).scheduler.settling.get?
        welcome.sid with
    | none =>
        rw [hs] at hv
        cases hv
    | some settle =>
        rw [hs] at hv
        obtain ⟨reported, hr, rfl, hReported⟩ := PresenceField.mem_of_carried hv
        have remembers := remembering welcome.sid settle (by rw [server]; exact hs) reported hr
        obtain ⟨found, hFound, agrees⟩ := remembers.stayed (together reported.pid)
        rw [server, show Tracked.initial.server = Server.initial from rfl, he] at hFound
        obtain rfl := Option.some.inj hFound
        rw [Server.position, he]
        exact agrees field unmarked value hReported

open Scenario

/-- Two participants gather; the second to come is the recipient. -/
def gathering : List Stamped := arrival 0 2 session bob 1 ++ [⟨0, .connect 1 session⟩]

def lastToCome : Stamped := ⟨0, .message 1 (helloFrame session alice 1 0)⟩

def gathered : Server := Server.initial.run (config 100) (gathering ++ [lastToCome])

def greeting : WelcomeMessage :=
  { sid := session, seq := 0, ts := 0, pid := alice
    participants :=
      [{ pid := bob, color := "#469990", lastSeenAt := 0 },
        { pid := alice, color := "#f032e6", lastSeenAt := 0 }] }

/-- They move in turns, each before a tick of its own. -/
def turns : List Stamped :=
  [⟨10, .message 2 (cursorFrame session bob 2 10 1 4)⟩, ⟨50, .tick⟩,
    ⟨60, .message 1 (cursorFrame session alice 2 60 0 6)⟩, ⟨100, .tick⟩]

/-- The patch of the second tick. -/
def lastTurn : PatchMessage :=
  { sid := session, seq := 2, ts := 100, patches := [{ pid := alice, x := some 0, y := some 6 }] }

def greeted : ConvergenceTracker :=
  ConvergenceTracker.recordDelivery { sessions := JsMap.empty } session alice (.welcome greeting)

theorem gathering_welcomed :
    ∃ write ∈ (Server.initial.run (config 100) gathering).written (config 100) lastToCome,
      write.message = .welcome greeting := by
  decide

theorem gathering_together (pid : ParticipantId) :
    ¬ (Tracked.initial.run (config 100) (gathering ++ [lastToCome])).left session pid :=
  Tracked.not_left_run (config 100) _ (by decide) session pid

theorem turns_fixed :
    Transition.Along (Server.step (config 100))
      (fun server stamped => (server.action stamped).KeepsRosters) gathered turns := by
  decide

end Watched

end Copresence
