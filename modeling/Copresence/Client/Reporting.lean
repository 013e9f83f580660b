import Copresence.Client.Lifecycle
import Copresence.Client.Outbox
import Copresence.Server.Audits

/-! A page reporting audit events: the lifecycle's calls, cut where they wait
for storage or the network, the outbox they share, the requests on their way
and the server. -/
namespace Copresence

open Collections

/-- The function `flushPending` is given to send with. -/
inductive BeaconSender where
  | sendBestEffort
  | sendConfirmable
deriving DecidableEq, Repr

/-- A call that waits, named by what it does when it is resumed. The first
six stages are those of `emit` and the rest, but `done`, those of
`flushPending`. -/
inductive Task where
  | adding (entry : OutboxEntry)
  | counting (entry : OutboxEntry)
  | pruning (entry : OutboxEntry) (excess : List OutboxEntry)
  | sending (entry : OutboxEntry)
  | awaiting (entry : OutboxEntry) (request : Nat)
  | confirming (eventId : EventId)
  | reading (sender : BeaconSender)
  | flushing (sender : BeaconSender) (pending : List OutboxEntry)
  | expiring (sender : BeaconSender) (entry : OutboxEntry) (rest : List OutboxEntry)
  | asking (entry : OutboxEntry) (request : Nat) (rest : List OutboxEntry)
  | clearing (sender : BeaconSender) (entry : OutboxEntry) (rest : List OutboxEntry)
  | done

/-- Why an entry was deleted. -/
inductive Removal where
  | pruned
  | expired
  | cleared
deriving DecidableEq, Repr

/-- `requests` lists every body handed to the network, `answered` those among
them, by position, that the server has answered with 200. The last three
fields are history: the events ever added, why each event not stored any more
was last deleted, and the events whose 200 or `audit.ack` the page has seen. -/
structure Reporting where
  server : Server
  page : Page
  storage : OutboxStorage
  tasks : List Task
  requests : List AuditMessage
  answered : List Nat
  added : List EventId
  removed : EventId → Option Removal
  acknowledged : List EventId

namespace Reporting

def initial (page : Page) : Reporting where
  server := Server.initial
  page := page
  storage := JsMap.empty
  tasks := []
  requests := []
  answered := []
  added := []
  removed := fun _ => none
  acknowledged := []

def Stored (reporting : Reporting) (eventId : EventId) : Prop :=
  (reporting.storage.get? eventId).isSome

instance (reporting : Reporting) (eventId : EventId) : Decidable (reporting.Stored eventId) :=
  inferInstanceAs (Decidable (_ = true))

/-- The task resumes as another. -/
def become (reporting : Reporting) (index : Nat) (task : Task) : Reporting :=
  { reporting with tasks := reporting.tasks.set index task }

def begin (reporting : Reporting) (task : Task) : Reporting :=
  { reporting with tasks := reporting.tasks ++ [task] }

/-- Hand a body to the network; it may never arrive. -/
def post (reporting : Reporting) (body : AuditMessage) : Reporting :=
  { reporting with requests := reporting.requests ++ [body] }

def put (reporting : Reporting) (entry : OutboxEntry) : Reporting :=
  { reporting with
    storage := reporting.storage.set entry.eventId entry
    added := entry.eventId :: reporting.added
    removed := Function.update reporting.removed entry.eventId none }

def delete (reporting : Reporting) (removal : Removal) (eventId : EventId) : Reporting :=
  if reporting.Stored eventId then
    { reporting with
      storage := JsMap.delete reporting.storage eventId
      removed := Function.update reporting.removed eventId (some removal) }
  else reporting

def acknowledge (reporting : Reporting) (eventId : EventId) : Reporting :=
  { reporting with acknowledged := eventId :: reporting.acknowledged }

/-- `emit` begins by storing the message. -/
def emit (now : Int) (reporting : Reporting) (message : AuditMessage) : Reporting :=
  reporting.begin
    (.adding { eventId := message.eventId, payload := message, createdAt := now, named := rfl })

def emitAll (reporting : Reporting) (now : Int) (emitted : Page × List AuditMessage) : Reporting :=
  emitted.2.foldl (emit now) { reporting with page := emitted.1 }

/-- The 200 of this request reaches the page, if the server has sent one. -/
def Responds (reporting : Reporting) (answer : Bool) (request : Nat) : Prop :=
  answer = true ∧ request ∈ reporting.answered

instance (reporting : Reporting) (answer : Bool) (request : Nat) :
    Decidable (reporting.Responds answer request) :=
  inferInstanceAs (Decidable (_ ∧ _))

/-- One stage of the call at `index`; `now` is the page's clock. `answer` is
what it asks next: whether the socket is open, whether `sendBeacon` queued the
body, or whether the response comes back. -/
def resume (now : Int) (answer : Bool) (index : Nat) (reporting : Reporting) : Task → Reporting
  | .adding entry => (reporting.put entry).become index (.counting entry)
  | .counting entry =>
    reporting.become index (.pruning entry (OutboxStorage.excess reporting.storage.getAll))
  | .pruning entry [] => reporting.become index (.sending entry)
  | .pruning entry (oldest :: rest) =>
    (reporting.delete .pruned oldest.eventId).become index (.pruning entry rest)
  | .sending entry =>
    -- over the socket the message is confirmed by its `audit.ack`, if at all
    if answer then reporting.become index .done
    else (reporting.post entry.payload).become index (.awaiting entry reporting.requests.length)
  | .awaiting entry request =>
    if reporting.Responds answer request then
      (reporting.acknowledge entry.eventId).become index (.confirming entry.eventId)
    else reporting.become index .done
  | .confirming eventId => (reporting.delete .cleared eventId).become index .done
  | .reading sender =>
    reporting.become index (.flushing sender (OutboxStorage.byCreation reporting.storage.getAll))
  | .flushing _ [] => reporting.become index .done
  | .flushing sender (entry :: rest) =>
    if OutboxStorage.Expired now entry then reporting.become index (.expiring sender entry rest)
    else
      match sender with
      | .sendConfirmable =>
        (reporting.post entry.payload).become index
          (.asking entry reporting.requests.length rest)
      | .sendBestEffort =>
        if answer then
          (reporting.post entry.payload).become index (.clearing .sendBestEffort entry rest)
        else reporting.become index (.flushing .sendBestEffort rest)
  | .expiring sender entry rest =>
    (reporting.delete .expired entry.eventId).become index (.flushing sender rest)
  | .asking entry request rest =>
    if reporting.Responds answer request then
      (reporting.acknowledge entry.eventId).become index
        (.clearing .sendConfirmable entry rest)
    else reporting.become index (.flushing .sendConfirmable rest)
  | .clearing sender entry rest =>
    (reporting.delete .cleared entry.eventId).become index (.flushing sender rest)
  | .done => reporting

def advance (now : Int) (answer : Bool) (index : Nat) (reporting : Reporting) : Reporting :=
  match reporting.tasks[index]? with
  | none => reporting
  | some task => reporting.resume now answer index task

/-- `flushPending` is what a page does with whatever is left in the outbox
when it starts, and again when it is hidden for good or frozen. -/
def flushPending (sender : BeaconSender) (reporting : Reporting) : Reporting :=
  reporting.begin (.reading sender)

def onPageHide (persisted : Bool) (reporting : Reporting) : Reporting :=
  reporting.flushPending (if persisted then .sendConfirmable else .sendBestEffort)

/-- A new page: the old one's calls end where they were. -/
def reload (sid : SessionId) (pid : ParticipantId) (reporting : Reporting) : Reporting :=
  { reporting with page := { wire := createWireContext sid pid }, tasks := [] }

/-- A request arrives, perhaps again, and the server answers it. -/
def arrive (now : Int) (request : Nat) (reporting : Reporting) : Reporting :=
  match reporting.requests[request]? with
  | none => reporting
  | some body =>
    match beacon now (.parsed (.audit body)) reporting.server with
    | (server, .ok _) => { reporting with server, answered := request :: reporting.answered }
    | (server, _) => { reporting with server }

/-- Whether the server ever handed an `audit.ack` of this event to a socket. -/
def Acked (reporting : Reporting) (eventId : EventId) : Prop :=
  ∃ write ∈ reporting.server.outbound, ∃ ack, write.message = .auditAck ack ∧
    ack.eventId = eventId

/-- The event a message acknowledges. -/
def ackedBy (write : Write) : Option EventId :=
  match write.message with
  | .auditAck ack => some ack.eventId
  | _ => none

/-- An id is acknowledged when its acknowledgement is among what the server wrote. -/
theorem acked_iff {reporting : Reporting} {eventId : EventId} :
    reporting.Acked eventId ↔ some eventId ∈ reporting.server.outbound.map ackedBy := by
  rw [List.mem_map]
  constructor
  · intro ⟨write, hw, ack, hm, hId⟩
    exact ⟨write, hw, by rw [ackedBy, hm, ← hId]⟩
  · intro ⟨write, hw, h⟩
    unfold ackedBy at h
    split at h
    · next ack hm => exact ⟨write, hw, ack, hm, Option.some.inj h⟩
    · cases h

instance (reporting : Reporting) (eventId : EventId) : Decidable (reporting.Acked eventId) :=
  decidable_of_iff _ acked_iff.symm

/-- An `audit.ack` the server has sent reaches the page. -/
def handleAck (eventId : EventId) (reporting : Reporting) : Reporting :=
  if reporting.Acked eventId then
    (reporting.acknowledge eventId).begin (.confirming eventId)
  else reporting

end Reporting

/-- Everything that can happen. `serve` is any event of the server: sockets
that open and close, frames of any client that arrive, among them those this
page sent and those that arrive twice, timers. `fail` is a call whose storage
rejects: it ends there. -/
inductive PageEvent where
  | start (now : Int) (eventId : EventId) (state : VisibilityState)
  | visibilityChange (now : Int) (changeId sessionId : EventId) (state : VisibilityState)
  | pageHide (persisted : Bool)
  | reload (sid : SessionId) (pid : ParticipantId)
  | resume (now : Int) (answer : Bool) (task : Nat)
  | fail (task : Nat)
  | ack (eventId : EventId)
  | arrive (now : Int) (request : Nat)
  | serve (stamped : Stamped)

namespace Reporting

def step (cfg : Config) (reporting : Reporting) : PageEvent → Reporting
  | .start now eventId state =>
    (reporting.flushPending .sendConfirmable).emitAll now (reporting.page.start now eventId state)
  | .visibilityChange now changeId sessionId state =>
    reporting.emitAll now (reporting.page.onVisibilityChange now changeId sessionId state)
  | .pageHide persisted => reporting.onPageHide persisted
  | .reload sid pid => reporting.reload sid pid
  | .resume now answer task => reporting.advance now answer task
  | .fail task => reporting.become task .done
  | .ack eventId => reporting.handleAck eventId
  | .arrive now request => reporting.arrive now request
  | .serve stamped => { reporting with server := reporting.server.step cfg stamped }

/-- What a waiting call relies on. -/
def Sound (reporting : Reporting) : Task → Prop
  | .awaiting entry request => reporting.requests[request]? = some entry.payload
  | .asking entry request _ => reporting.requests[request]? = some entry.payload
  | .confirming eventId => eventId ∈ reporting.acknowledged
  | .clearing .sendConfirmable entry _ => entry.eventId ∈ reporting.acknowledged
  | _ => True

/-- A 200 and an `audit.ack` mean that the event is in the log, and the calls
that wait are about the requests they made. -/
structure WellFormed (reporting : Reporting) : Prop where
  audited : reporting.server.Audited
  answered : ∀ request ∈ reporting.answered, ∃ body,
    reporting.requests[request]? = some body ∧ reporting.server.Reported body.eventId
  acknowledged : ∀ eventId ∈ reporting.acknowledged, reporting.server.Reported eventId
  stored : ∀ eventId, reporting.Stored eventId → eventId ∈ reporting.added
  tasks : ∀ task ∈ reporting.tasks, reporting.Sound task

/-- A page that has just begun waits for nothing. -/
theorem initial_wellFormed (page : Page) : (initial page).WellFormed where
  audited := Server.initial_audited
  answered := by simp [initial]
  acknowledged := by simp [initial]
  stored := by simp [initial, Stored]
  tasks := by simp [initial]

/-- A task stays sound while requests and acknowledgements only grow. -/
theorem Sound.mono {before after : Reporting} {task : Task} (h : before.Sound task)
    (requests : before.requests <+: after.requests)
    (acknowledged : before.acknowledged ⊆ after.acknowledged) : after.Sound task := by
  have kept : ∀ {request : Nat} {body : AuditMessage}, before.requests[request]? = some body →
      after.requests[request]? = some body := by
    intro request body hBody
    obtain ⟨later, hLater⟩ := requests
    rw [← hLater, List.getElem?_append_left (List.getElem?_eq_some_iff.mp hBody).1, hBody]
  cases task with
  | awaiting entry request => exact kept h
  | asking entry request rest => exact kept h
  | confirming eventId => exact acknowledged h
  | clearing sender entry rest =>
      cases sender with
      | sendConfirmable => exact acknowledged h
      | sendBestEffort => trivial
  | _ => trivial

/-- What a call relies on is the requests made and the events acknowledged. -/
theorem Sound.unchanged {before after : Reporting} {task : Task} (h : before.Sound task)
    (requests : after.requests = before.requests)
    (acknowledged : after.acknowledged = before.acknowledged) : after.Sound task := by
  have sameRequests : before.requests <+: after.requests := requests ▸ List.prefix_refl _
  have sameEvents : before.acknowledged ⊆ after.acknowledged :=
    acknowledged ▸ List.Subset.refl _
  exact h.mono sameRequests sameEvents

namespace WellFormed

variable {reporting : Reporting} (wf : reporting.WellFormed)

include wf

/-- A task may move on to one that is sound. -/
theorem become (index : Nat) {task : Task} (sound : reporting.Sound task) :
    (reporting.become index task).WellFormed := by
  refine { wf with tasks := ?_ }
  intro other ho
  rcases List.mem_or_eq_of_mem_set ho with ho | rfl
  · exact (wf.tasks other ho).unchanged rfl rfl
  · exact sound.unchanged rfl rfl

/-- A sound task may be begun. -/
theorem begin {task : Task} (sound : reporting.Sound task) :
    (reporting.begin task).WellFormed := by
  refine { wf with tasks := ?_ }
  intro other ho
  rcases List.mem_append.mp ho with ho | ho
  · exact (wf.tasks other ho).unchanged rfl rfl
  · rw [List.mem_singleton.mp ho]
    exact sound.unchanged rfl rfl

/-- A report that is posted becomes a request on its way. -/
theorem post (body : AuditMessage) : (reporting.post body).WellFormed := by
  have grows : reporting.requests <+: (reporting.post body).requests := List.prefix_append _ _
  refine { wf with answered := ?_, tasks := ?_ }
  · intro request hr
    obtain ⟨answeredBody, hBody, reported⟩ := wf.answered request hr
    refine ⟨answeredBody, ?_, reported⟩
    show (reporting.requests ++ [body])[request]? = _
    rw [List.getElem?_append_left (List.getElem?_eq_some_iff.mp hBody).1, hBody]
  · intro task ht
    exact (wf.tasks task ht).mono grows (List.Subset.refl _)

/-- Putting an entry into the outbox keeps the state well formed. -/
theorem put (entry : OutboxEntry) : (reporting.put entry).WellFormed := by
  refine { wf with stored := ?_, tasks := ?_ }
  · intro eventId hStored
    have hOr : eventId = entry.eventId ∨ reporting.Stored eventId := by
      by_cases he : eventId = entry.eventId
      · exact Or.inl he
      · apply Or.inr
        show (reporting.storage.get? eventId).isSome
        rw [← JsMap.get?_set_ne reporting.storage entry he]
        exact hStored
    rcases hOr with rfl | hOld
    · exact List.mem_cons_self
    · exact List.mem_cons_of_mem _ (wf.stored eventId hOld)
  · intro task ht
    exact (wf.tasks task ht).unchanged rfl rfl

/-- An entry is deleted under the reason its task has for it. -/
theorem delete (removal : Removal) (eventId : EventId) :
    (reporting.delete removal eventId).WellFormed := by
  rw [Reporting.delete]
  split
  · refine { wf with stored := ?_, tasks := ?_ }
    · intro other hStored
      apply wf.stored other
      by_cases he : other = eventId
      · rw [he]
        assumption
      · show (reporting.storage.get? other).isSome
        rw [← JsMap.get?_delete_ne reporting.storage he]
        exact hStored
    · intro task ht
      exact (wf.tasks task ht).unchanged rfl rfl
  · exact wf

/-- A report the server has may be acknowledged. -/
theorem acknowledge {eventId : EventId} (reported : reporting.server.Reported eventId) :
    (reporting.acknowledge eventId).WellFormed := by
  refine { wf with acknowledged := ?_, tasks := ?_ }
  · intro other ho
    rcases List.mem_cons.mp ho with rfl | ho
    · exact reported
    · exact wf.acknowledged other ho
  · intro task ht
    exact (wf.tasks task ht).mono (List.prefix_refl _) (List.subset_cons_self _ _)

/-- A response means that the body of the request is in the log. -/
theorem responded {answer : Bool} {request : Nat} {body : AuditMessage}
    (responds : reporting.Responds answer request)
    (hBody : reporting.requests[request]? = some body) :
    reporting.server.Reported body.eventId := by
  obtain ⟨found, hFound, reported⟩ := wf.answered request responds.2
  rw [← Option.some.inj (hFound.symm.trans hBody)]
  exact reported

/-- The entry whose request was answered may be acknowledged. -/
theorem confirmed {answer : Bool} {request : Nat} {entry : OutboxEntry}
    (responds : reporting.Responds answer request)
    (hBody : reporting.requests[request]? = some entry.payload) :
    (reporting.acknowledge entry.eventId).WellFormed := by
  have reported := wf.responded responds hBody
  rw [entry.named] at reported
  exact wf.acknowledge reported

/-- A step of the server that keeps its promises keeps the state well formed. -/
theorem serve {after : Server} (audits : reporting.server.Audits after) :
    { reporting with server := after }.WellFormed where
  audited := audits.audited wf.audited
  answered := by
    intro request hr
    obtain ⟨body, hBody, reported⟩ := wf.answered request hr
    exact ⟨body, hBody, audits.reported reported⟩
  acknowledged := fun eventId he => audits.reported (wf.acknowledged eventId he)
  stored := wf.stored
  tasks := fun task ht => (wf.tasks task ht).unchanged rfl rfl

/-- A task that is resumed does the next of its parts. -/
theorem resume (now : Int) (answer : Bool) (index : Nat) {task : Task}
    (sound : reporting.Sound task) :
    (reporting.resume now answer index task).WellFormed := by
  -- a request is made with the number it gets
  have numbered : ∀ body, (reporting.post body).requests[reporting.requests.length]? =
      some body := by
    intro body
    show (reporting.requests ++ [body])[_]? = _
    simp
  cases task with
  | adding entry => exact (wf.put entry).become index trivial
  | counting entry => exact wf.become index trivial
  | pruning entry excess =>
      cases excess with
      | nil => exact wf.become index trivial
      | cons oldest rest => exact (wf.delete .pruned oldest.eventId).become index trivial
  | sending entry =>
      show (if answer then _ else _ : Reporting).WellFormed
      split
      · exact wf.become index trivial
      · exact (wf.post entry.payload).become index (numbered entry.payload)
  | awaiting entry request =>
      show (if _ then _ else _ : Reporting).WellFormed
      split
      · next responds =>
          exact (wf.confirmed responds sound).become index List.mem_cons_self
      · exact wf.become index trivial
  | confirming eventId => exact (wf.delete .cleared eventId).become index trivial
  | reading sender => exact wf.become index trivial
  | flushing sender pending =>
      cases pending with
      | nil => exact wf.become index trivial
      | cons entry rest =>
          show (if _ then _ else _ : Reporting).WellFormed
          split
          · exact wf.become index trivial
          · cases sender with
            | sendConfirmable =>
                exact (wf.post entry.payload).become index (numbered entry.payload)
            | sendBestEffort =>
                show (if answer then _ else _ : Reporting).WellFormed
                split
                · exact (wf.post entry.payload).become index trivial
                · exact wf.become index trivial
  | expiring sender entry rest => exact (wf.delete .expired entry.eventId).become index trivial
  | asking entry request rest =>
      show (if _ then _ else _ : Reporting).WellFormed
      split
      · next responds =>
          exact (wf.confirmed responds sound).become index List.mem_cons_self
      · exact wf.become index trivial
  | clearing sender entry rest => exact (wf.delete .cleared entry.eventId).become index trivial
  | done => exact wf

/-- Flushing hands the pending entries to the sender. -/
theorem flushPending (sender : BeaconSender) : (reporting.flushPending sender).WellFormed := by
  have sound : reporting.Sound (.reading sender) := trivial
  exact wf.begin sound

/-- Every report the page emits begins as a task. -/
theorem emitAll (now : Int) (emitted : Page × List AuditMessage) :
    (reporting.emitAll now emitted).WellFormed := by
  have turned : { reporting with page := emitted.1 }.WellFormed :=
    { wf with
      tasks := fun task ht =>
        (wf.tasks task ht).unchanged rfl rfl }
  rw [Reporting.emitAll]
  generalize { reporting with page := emitted.1 } = start at turned
  induction emitted.2 generalizing start with
  | nil => exact turned
  | cons message messages ih => exact ih _ (turned.begin trivial)

/-- A request that arrives is recorded by the server. -/
theorem arrive (now : Int) (request : Nat) : (reporting.arrive now request).WellFormed := by
  rw [Reporting.arrive]
  split
  · exact wf
  · next body hBody =>
      have audits := Server.audits_beacon now reporting.server (.parsed (.audit body))
      have served := wf.serve audits
      split
      · next server eventId hb =>
          have reported := Server.beacon_reported (congrArg Prod.snd hb)
          rw [hb] at served reported
          refine { served with answered := ?_, tasks := ?_ }
          · intro other ho
            rcases List.mem_cons.mp ho with rfl | ho
            · exact ⟨body, hBody, reported⟩
            · exact served.answered other ho
          · intro task ht
            exact (served.tasks task ht).unchanged rfl rfl
      · next server status _ hb =>
          rw [hb] at served
          exact served

/-- Every event of the page keeps the state well formed. -/
theorem step (cfg : Config) (event : PageEvent) : (reporting.step cfg event).WellFormed := by
  cases event with
  | start now eventId state => exact (wf.flushPending _).emitAll now _
  | visibilityChange now changeId sessionId state => exact wf.emitAll now _
  | pageHide persisted => exact wf.flushPending _
  | reload sid pid => exact { wf with tasks := by simp [Reporting.step, Reporting.reload] }
  | resume now answer task =>
      show (reporting.advance now answer task).WellFormed
      rw [Reporting.advance]
      split
      · exact wf
      · next found hf => exact wf.resume now answer task (wf.tasks found (List.mem_of_getElem? hf))
  | fail task => exact wf.become task trivial
  | ack eventId =>
      show (reporting.handleAck eventId).WellFormed
      rw [Reporting.handleAck]
      split
      · next acked =>
          obtain ⟨write, hw, ack, hm, rfl⟩ := acked
          have reported := wf.audited.acked write hw ack hm
          exact (wf.acknowledge reported).begin List.mem_cons_self
      · exact wf
  | arrive now request => exact wf.arrive now request
  | serve stamped => exact wf.serve (Server.step_audits cfg reporting.server stamped)

end WellFormed

end Reporting

end Copresence
