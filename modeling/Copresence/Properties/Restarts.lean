import Copresence.Client.Remotes
import Copresence.Server.Outbound

/-! A client over the lifetimes of several sockets and several server
processes. The guard on patches lives in the client, the counter it is compared
with in the process. -/
namespace Copresence

open Collections

/-- The client of one page, the server process of the moment, and the socket
between them. `position` is how much of the server's history that socket has
carried so far. The last four fields are history: whether a welcome came over
this socket, which patches did, the client's guard when the process before this
one ended, and the tick counter when the socket was opened. -/
structure World where
  server : Server
  client : Client
  socket : Option SocketId
  position : Nat
  welcomed : Bool
  carried : List PatchMessage
  heard : Option Int
  opened : Int

/-- What can happen between a client and its server: the server reacts to
anything, the client opens its next socket, the next message arrives over it,
the socket is lost, or the server process is replaced. -/
inductive Happening where
  | serve (stamped : Stamped)
  | open (time : Int) (socket : SocketId) (sid : SessionId)
  | deliver (now : Int)
  | lost
  | restart

namespace World

def initial (pid : ParticipantId) : World where
  server := Server.initial
  client := { pid }
  socket := none
  position := 0
  welcomed := false
  carried := []
  heard := none
  opened := 0

/-- The message that comes next over the client's socket, if the next one the
server wrote is for it. -/
def next (world : World) : Option OutboundMessage :=
  match world.socket, world.server.outbound[world.position]? with
  | some socket, some write => if write.socket = socket then some write.message else none
  | _, _ => none

/-- The client handles a message as `routeMessage` does. -/
def take (world : World) (now : Int) (message : OutboundMessage) : World :=
  { world with
    client := world.client.routeMessage now message
    welcomed := world.welcomed || decide (message.t = .welcome)
    carried :=
      match message with
      | .patch msg => msg :: world.carried
      | _ => world.carried }

def step (cfg : Config) (world : World) : Happening → World
  | .serve stamped => { world with server := world.server.step cfg stamped }
  | .open time socket sid =>
    match world.socket, world.server.contexts socket with
    | none, none =>
      { world with
        server := world.server.connect time socket sid
        socket := some socket
        position := world.server.outbound.length
        welcomed := false
        carried := []
        opened := world.server.scheduler.seq }
    | _, _ => world
  | .deliver now =>
    let moved := { world with position := min (world.position + 1) world.server.outbound.length }
    match world.next with
    | some message => moved.take now message
    | none => moved
  | .lost => { world with socket := none }
  | .restart =>
    { world with
      server := Server.initial
      socket := none
      position := 0
      welcomed := false
      carried := []
      heard := world.client.lastPatchSeq
      opened := 0 }

/-- A patch that comes after the welcome is applied. -/
def Hears (world : World) (happening : Happening) : Prop :=
  ∀ now patch, happening = .deliver now → world.next = some (.patch patch) →
    world.welcomed = true → world.client.Fresh patch.seq

/-- A patch that comes after the welcome is numbered past all that the client
accepted from earlier processes, and is the first of its number on the socket. -/
def Outnumbers (world : World) (happening : Happening) : Prop :=
  ∀ now patch, happening = .deliver now → world.next = some (.patch patch) →
    world.welcomed = true →
      (∀ last, world.heard = some last → last < patch.seq) ∧
        ∀ earlier ∈ world.carried, earlier.seq ≠ patch.seq

/-- Patches further back in the history are numbered no lower. -/
def Ascending (first second : Write) : Prop :=
  ∀ early late, first.message = .patch early → second.message = .patch late →
    early.seq ≤ late.seq

/-- How the client's guard relates to the counter of the process it talks to. -/
structure Tracks (world : World) : Prop where
  position : world.position ≤ world.server.outbound.length
  opened : world.opened ≤ world.server.scheduler.seq
  pending : ∀ write ∈ world.server.outbound.drop world.position, ∀ patch,
    write.message = .patch patch →
      world.opened < patch.seq ∧ patch.seq ≤ world.server.scheduler.seq ∧
        ∀ earlier ∈ world.carried, earlier.seq ≤ patch.seq
  ascending : (world.server.outbound.drop world.position).Pairwise Ascending
  carried : ∀ earlier ∈ world.carried, earlier.seq ≤ world.server.scheduler.seq ∧
    ∃ last, world.client.lastPatchSeq = some last ∧ earlier.seq ≤ last
  last : ∀ last, world.client.lastPatchSeq = some last →
    world.heard = some last ∨ last ≤ world.opened ∨ ∃ earlier ∈ world.carried, earlier.seq = last
  heard : ∀ first, world.heard = some first →
    ∃ last, world.client.lastPatchSeq = some last ∧ first ≤ last

theorem initial_tracks (pid : ParticipantId) : (initial pid).Tracks := by
  refine ⟨Nat.zero_le _, Int.le_refl _, ?_, List.Pairwise.nil, ?_, ?_, ?_⟩
  · intro write hw
    cases hw
  · intro earlier he
    cases he
  · intro last hl
    cases hl
  · intro first hf
    cases hf

/-- What comes next is the first of what the socket has yet to carry. -/
theorem drop_of_next {world : World} {message : OutboundMessage}
    (h : world.next = some message) :
    ∃ write, write.message = message ∧
      world.server.outbound.drop world.position =
        write :: world.server.outbound.drop (world.position + 1) := by
  unfold next at h
  split at h
  · next socket write hSocket hWrite =>
      split at h
      · obtain ⟨hl, he⟩ := List.getElem?_eq_some_iff.mp hWrite
        refine ⟨write, Option.some.inj h, ?_⟩
        rw [List.drop_eq_getElem_cons hl, he]
      · cases h
  · cases h

theorem drop_min (position : Nat) (writes : List Write) :
    writes.drop (min (position + 1) writes.length) = (writes.drop position).drop 1 := by
  rw [List.drop_drop]
  rcases Nat.le_total (position + 1) writes.length with h | h
  · rw [Nat.min_eq_left h]
  · rw [Nat.min_eq_right h, List.drop_length, List.drop_eq_nil_of_le h]

theorem Tracks.serve (cfg : Config) {world : World} (tracks : world.Tracks) (stamped : Stamped) :
    (world.step cfg (.serve stamped)).Tracks := by
  have grows := world.server.scheduler_step_le cfg stamped
  have fresh : ∀ write ∈ world.server.written cfg stamped, ∀ patch,
      write.message = .patch patch → patch.seq = world.server.scheduler.seq + 1 ∧
        (world.server.step cfg stamped).scheduler.seq = world.server.scheduler.seq + 1 := by
    intro write hw patch hp
    obtain ⟨isTick, hSeq, _⟩ := Server.patch_of_mem_written hw hp
    exact ⟨hSeq, world.server.scheduler_step_tick cfg isTick⟩
  have hDrop : (world.server.step cfg stamped).outbound.drop world.position =
      world.server.outbound.drop world.position ++ world.server.written cfg stamped := by
    rw [Server.outbound_step, List.drop_append_of_le_length tracks.position]
  refine ⟨?_, Int.le_trans tracks.opened grows, ?_, ?_, ?_, tracks.last, tracks.heard⟩
  · have h := tracks.position
    change _ ≤ (world.server.step cfg stamped).outbound.length
    rw [Server.outbound_step, List.length_append]
    change world.position ≤ _
    omega
  · intro write hw patch hp
    have hOpened := tracks.opened
    change write ∈ (world.server.step cfg stamped).outbound.drop world.position at hw
    rw [hDrop] at hw
    rcases List.mem_append.mp hw with hw | hw
    · obtain ⟨hLow, hHigh, hCarried⟩ := tracks.pending write hw patch hp
      exact ⟨hLow, Int.le_trans hHigh grows, hCarried⟩
    · obtain ⟨hSeq, hNext⟩ := fresh write hw patch hp
      refine ⟨?_, Int.le_of_eq (hSeq.trans hNext.symm), fun earlier he => ?_⟩
      · change world.opened < patch.seq
        omega
      · have := (tracks.carried earlier he).1
        omega
  · change ((world.server.step cfg stamped).outbound.drop world.position).Pairwise Ascending
    rw [hDrop, List.pairwise_append]
    refine ⟨tracks.ascending, ?_, ?_⟩
    · apply List.pairwise_of_forall_mem_list
      intro first hf second hs early late he hl
      have := (fresh first hf early he).1
      have := (fresh second hs late hl).1
      omega
    · intro first hf second hs early late he hl
      have := (tracks.pending first hf early he).2.1
      have := (fresh second hs late hl).1
      omega
  · intro earlier he
    obtain ⟨hLow, hLast⟩ := tracks.carried earlier he
    exact ⟨Int.le_trans hLow grows, hLast⟩

/-- Moving past a write of another socket. -/
theorem Tracks.pass {world : World} (tracks : world.Tracks) :
    { world with
      position := min (world.position + 1) world.server.outbound.length }.Tracks := by
  refine ⟨Nat.min_le_right _ _, tracks.opened, ?_, ?_, tracks.carried, tracks.last, tracks.heard⟩
  · intro write hw
    dsimp only at hw
    rw [drop_min] at hw
    exact tracks.pending write (List.mem_of_mem_drop hw)
  · dsimp only
    rw [drop_min]
    exact tracks.ascending.sublist (List.drop_sublist 1 _)

/-- A message that is no patch leaves the guard and the numbers alone. -/
theorem Tracks.take_other {world : World} (tracks : world.Tracks) (now : Int)
    {message : OutboundMessage} (other : ∀ patch, message ≠ .patch patch) :
    (world.take now message).Tracks := by
  have guard : (world.client.routeMessage now message).lastPatchSeq = world.client.lastPatchSeq := by
    rw [Client.routeMessage_lastPatchSeq]
    cases message with
    | patch msg => exact absurd rfl (other msg)
    | _ => rfl
  have carried : (world.take now message).carried = world.carried := by
    cases message with
    | patch msg => exact absurd rfl (other msg)
    | _ => rfl
  refine ⟨tracks.position, tracks.opened, ?_, tracks.ascending, ?_, ?_, ?_⟩
  · rw [carried]
    exact tracks.pending
  · rw [carried]
    exact fun earlier he => guard ▸ tracks.carried earlier he
  · rw [carried]
    exact fun last hl => tracks.last last (guard ▸ hl)
  · exact fun first hf => guard ▸ tracks.heard first hf

/-- The patch at hand is numbered as high as any the socket carried, and the
guard ends up as high as it. -/
theorem Tracks.take_patch {world : World} (tracks : world.Tracks) (now : Int) {patch : PatchMessage}
    (high : patch.seq ≤ world.server.scheduler.seq)
    (highest : ∀ earlier ∈ world.carried, earlier.seq ≤ patch.seq)
    (ahead : ∀ write ∈ world.server.outbound.drop world.position, ∀ later,
      write.message = .patch later → patch.seq ≤ later.seq) :
    (world.take now (.patch patch)).Tracks := by
  have guard : (world.take now (.patch patch)).client.lastPatchSeq =
      if world.client.Fresh patch.seq then some patch.seq else world.client.lastPatchSeq :=
    Client.routeMessage_lastPatchSeq now (.patch patch)
  have carried : (world.take now (.patch patch)).carried = patch :: world.carried := rfl
  refine ⟨tracks.position, tracks.opened, ?_, tracks.ascending, ?_, ?_, ?_⟩
  · intro write hw later hl
    obtain ⟨hLow, hHigh, hCarried⟩ := tracks.pending write hw later hl
    refine ⟨hLow, hHigh, fun earlier he => ?_⟩
    rw [carried] at he
    rcases List.mem_cons.mp he with rfl | he
    · exact ahead write hw later hl
    · exact hCarried earlier he
  · intro earlier he
    rw [carried] at he
    rw [guard]
    by_cases fresh : world.client.Fresh patch.seq
    · rw [if_pos fresh]
      rcases List.mem_cons.mp he with rfl | he
      · exact ⟨high, _, rfl, Int.le_refl _⟩
      · exact ⟨(tracks.carried earlier he).1, _, rfl, highest earlier he⟩
    · rw [if_neg fresh]
      rcases List.mem_cons.mp he with rfl | he
      · simp only [Client.Fresh, not_forall, Int.not_lt, exists_prop] at fresh
        exact ⟨high, fresh⟩
      · exact tracks.carried earlier he
  · intro last hl
    rw [guard] at hl
    rw [carried]
    split at hl
    · exact Or.inr (Or.inr ⟨patch, List.mem_cons_self, Option.some.inj hl⟩)
    · rcases tracks.last last hl with h | h | ⟨earlier, he, h⟩
      · exact Or.inl h
      · exact Or.inr (Or.inl h)
      · exact Or.inr (Or.inr ⟨earlier, List.mem_cons_of_mem _ he, h⟩)
  · intro first hf
    obtain ⟨last, hl, hle⟩ := tracks.heard first hf
    rw [guard]
    split
    · next fresh => exact ⟨_, rfl, Int.le_of_lt (Int.lt_of_le_of_lt hle (fresh last hl))⟩
    · exact ⟨last, hl, hle⟩

theorem Tracks.deliver (cfg : Config) {world : World} (tracks : world.Tracks) (now : Int) :
    (world.step cfg (.deliver now)).Tracks := by
  have passed := tracks.pass
  unfold step
  dsimp only
  cases hn : world.next with
  | none => exact passed
  | some message =>
      obtain ⟨write, hMessage, hDrop⟩ := drop_of_next hn
      have hHere : write ∈ world.server.outbound.drop world.position := by
        rw [hDrop]
        exact List.mem_cons_self
      cases message with
      | patch patch =>
          obtain ⟨_, hHigh, hCarried⟩ := tracks.pending write hHere patch hMessage
          have ascending := tracks.ascending
          rw [hDrop, List.pairwise_cons] at ascending
          apply passed.take_patch now hHigh hCarried
          intro later hl msg hm
          dsimp only at hl
          rw [drop_min, hDrop] at hl
          exact ascending.1 later hl patch msg hMessage hm
      | _ => exact passed.take_other now fun _ h => nomatch h

theorem Tracks.open (cfg : Config) {world : World} (tracks : world.Tracks) (time : Int)
    (socket : SocketId) (sid : SessionId) : (world.step cfg (.open time socket sid)).Tracks := by
  unfold step
  dsimp only
  split
  · next hSocket hContext =>
      have untouched : (world.server.connect time socket sid).outbound = world.server.outbound ∧
          (world.server.connect time socket sid).scheduler = world.server.scheduler := by
        rw [Server.connect, hContext]
        exact ⟨rfl, rfl⟩
      have nothing : (world.server.connect time socket sid).outbound.drop
          world.server.outbound.length = [] := by
        rw [untouched.1, List.drop_length]
      refine ⟨?_, ?_, ?_, ?_, ?_, ?_, tracks.heard⟩
      · exact Nat.le_of_eq (congrArg List.length untouched.1).symm
      · exact Int.le_of_eq (congrArg TickScheduler.seq untouched.2).symm
      · intro write hw
        dsimp only at hw
        rw [nothing] at hw
        cases hw
      · dsimp only
        rw [nothing]
        exact List.Pairwise.nil
      · intro earlier he
        cases he
      · intro last hl
        rcases tracks.last last hl with h | h | ⟨earlier, he, h⟩
        · exact Or.inl h
        · exact Or.inr (Or.inl (Int.le_trans h tracks.opened))
        · exact Or.inr (Or.inl (h ▸ (tracks.carried earlier he).1))
  · exact tracks

theorem Tracks.restart (cfg : Config) (world : World) : (world.step cfg .restart).Tracks := by
  refine ⟨Nat.zero_le _, Int.le_refl _, ?_, List.Pairwise.nil, ?_, fun last hl => Or.inl hl,
    fun first hf => ⟨first, hf, Int.le_refl _⟩⟩
  · intro write hw
    cases hw
  · intro earlier he
    cases he

theorem Tracks.step (cfg : Config) {world : World} (tracks : world.Tracks) (happening : Happening) :
    (world.step cfg happening).Tracks := by
  cases happening with
  | serve stamped => exact tracks.serve cfg stamped
  | «open» time socket sid => exact tracks.open cfg time socket sid
  | deliver now => exact tracks.deliver cfg now
  | lost => exact ⟨tracks.position, tracks.opened, tracks.pending, tracks.ascending,
      tracks.carried, tracks.last, tracks.heard⟩
  | restart => exact .restart cfg world

/-- The guard lets a patch of this socket through unless an earlier process or
an earlier patch of this socket took the client as far. -/
theorem Tracks.fresh_iff {world : World} (tracks : world.Tracks) {patch : PatchMessage}
    (hn : world.next = some (.patch patch)) :
    world.client.Fresh patch.seq ↔
      (∀ last, world.heard = some last → last < patch.seq) ∧
        ∀ earlier ∈ world.carried, earlier.seq ≠ patch.seq := by
  obtain ⟨write, hMessage, hDrop⟩ := drop_of_next hn
  obtain ⟨hLow, _, hCarried⟩ := tracks.pending write (by rw [hDrop]; exact List.mem_cons_self)
    patch hMessage
  constructor
  · intro fresh
    constructor
    · intro first hf
      obtain ⟨last, hl, hle⟩ := tracks.heard first hf
      exact Int.lt_of_le_of_lt hle (fresh last hl)
    · intro earlier he
      obtain ⟨_, last, hl, hle⟩ := tracks.carried earlier he
      exact Int.ne_of_lt (Int.lt_of_le_of_lt hle (fresh last hl))
  · intro ⟨above, new⟩ last hl
    rcases tracks.last last hl with h | h | ⟨earlier, he, rfl⟩
    · exact above last h
    · exact Int.lt_of_le_of_lt h hLow
    · exact Int.lt_iff_le_and_ne.mpr ⟨hCarried earlier he, new earlier he⟩

/-- Over any course of reconnects and restarts, no patch that follows a welcome
is discarded exactly when each is numbered past what earlier processes told
the client and differs from the earlier ones of its socket. -/
theorem hears_along_iff (cfg : Config) (pid : ParticipantId) (happenings : List Happening) :
    Transition.Along (step cfg) Hears (initial pid) happenings ↔
      Transition.Along (step cfg) Outnumbers (initial pid) happenings := by
  refine Transition.along_iff_along (I := Tracks) (fun _ happening tracks => tracks.step cfg happening)
    ?_ (initial_tracks pid)
  intro world happening tracks
  constructor
  · intro hears now patch hd hn hw
    exact (tracks.fresh_iff hn).mp (hears now patch hd hn hw)
  · intro outnumbers now patch hd hn hw
    exact (tracks.fresh_iff hn).mpr (outnumbers now patch hd hn hw)

open Scenario

/-- One visit: open a socket, say hello, move the cursor, be told about it. -/
def visit (socket : SocketId) : List Happening :=
  [.open 0 socket session,
    .serve ⟨0, .message socket (helloFrame session alice 1 0)⟩,
    .serve ⟨0, .message socket (cursorFrame session alice 2 0 0 0)⟩,
    .serve ⟨50, .tick⟩, .deliver 60, .deliver 60]

/-- The same visit before and after the server process is replaced. -/
def revisit : List Happening := visit 1 ++ .restart :: visit 2

/-- The counter starts over, so the patch of the second visit is discarded. -/
theorem revisit_deaf :
    ¬ Transition.Along (step (config 100)) Hears (initial alice) revisit := by
  intro along
  have hears := Transition.along_iff_prefix.mp along (revisit.take 12) (.deliver 60)
    ⟨[], rfl⟩
  have last : (Transition.run (step (config 100)) (initial alice)
      (revisit.take 12)).client.lastPatchSeq = some 1 := by decide
  have patch : (Transition.run (step (config 100)) (initial alice) (revisit.take 12)).next =
      some (.patch
        { sid := session, seq := 1, ts := 50
          patches := [{ pid := alice, x := some 0, y := some 0 }] }) := by decide
  exact absurd (hears 60 _ rfl patch (by decide) 1 last) (by decide)

end World

end Copresence
