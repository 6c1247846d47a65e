import BluetoothFramework.Library.Runs
import BluetoothFramework.Gatt.Client

/-!
# One request of the GATT client at a time

The client takes a new request only while none is under way. The service answers every
request it has accepted, unless that is a write without response; for such a write it may
still send the callback of a write. All four callbacks clear the flag before they look at
the type of the request.

`one_outstanding_iff` says what follows: the flag is right and every answer reaches the
application exactly as long as no callback of a write without response comes while a
request is outstanding.
-/

namespace BluetoothFramework

open Runs

/-- The callback of the application that a request is answered by. -/
inductive AnswerKind where
  | characteristicRead
  | characteristicWrite
  | descriptorRead
  | descriptorWrite
  | setNotify
deriving DecidableEq, Repr

/-- The type the client keeps for a request of this kind. -/
def AnswerKind.type : AnswerKind → UInt8
  | characteristicRead => GattClient.requestTypeCharacteristicsRead
  | characteristicWrite => GattClient.requestTypeCharacteristicsWrite
  | descriptorRead => GattClient.requestTypeDescriptorRead
  | descriptorWrite => GattClient.requestTypeDescriptorWrite
  | setNotify => GattClient.requestTypeSetNotifyCharacteristics

/-- The kind of request a callback of the application answers. -/
def ClientReport.kind : ClientReport → Option AnswerKind
  | onCharacteristicReadResult _ _ => some .characteristicRead
  | onCharacteristicWriteResult _ _ => some .characteristicWrite
  | onCharacteristicWriteResultWithContext _ _ _ => some .characteristicWrite
  | onDescriptorReadResult _ _ => some .descriptorRead
  | onDescriptorWriteResult _ _ => some .descriptorWrite
  | onSetNotifyCharacteristic _ _ => some .setNotify
  | _ => none

/-- The service answers the request. -/
def ServiceRequest.needsAnswer : ServiceRequest → Bool
  | writeCharacteristic _ _ withoutRespond _ => !withoutRespond
  | signedWriteCharacteristic _ _ => false
  | _ => true

/-- A request of the application. -/
inductive ClientRequest where
  | readCharacteristic (handle : UInt16)
  | readCharacteristicByUuid (uuid : ByteString) (startHandle endHandle : Int32)
  | readDescriptor (handle : UInt16)
  | writeCharacteristic (characteristic : GattCharacteristic) (value : ByteString) (isWithContext : Bool)
  | writeDescriptor (descriptor : GattDescriptor)
  | setNotifyCharacteristic (characteristic : GattCharacteristic) (enable : Bool)
  | setIndicateCharacteristic (characteristic : GattCharacteristic) (enable : Bool)
deriving DecidableEq

/-- What the service sends with a callback. -/
structure Reply where
  ret : Int32 := gattSuccess
  handle : UInt16 := 0
  value : ByteString := []
  timeStamp : Int64 := 0
deriving DecidableEq, Repr

namespace ClientRequest

def perform (request : ClientRequest) (client : GattClient) (around : Surroundings) : Outcome :=
  match request with
  | readCharacteristic handle => client.readCharacteristic handle around
  | readCharacteristicByUuid uuid startHandle endHandle =>
      client.readCharacteristicByUuid uuid startHandle endHandle around
  | readDescriptor handle => client.readDescriptor handle around
  | writeCharacteristic characteristic value isWithContext =>
      client.writeCharacteristic characteristic value isWithContext around
  | writeDescriptor descriptor => client.writeDescriptor descriptor around
  | setNotifyCharacteristic characteristic enable =>
    client.setNotifyCharacteristic characteristic enable around
  | setIndicateCharacteristic characteristic enable =>
      client.setIndicateCharacteristic characteristic enable around

def kind : ClientRequest → AnswerKind
  | readCharacteristic _ => .characteristicRead
  | readCharacteristicByUuid _ _ _ => .characteristicRead
  | readDescriptor _ => .descriptorRead
  | writeCharacteristic _ _ _ => .characteristicWrite
  | writeDescriptor _ => .descriptorWrite
  | setNotifyCharacteristic _ _ => .setNotify
  | setIndicateCharacteristic _ _ => .setNotify

/-- The callback of the service that answers the request. -/
def answer (request : ClientRequest) (client : GattClient) (reply : Reply) : GattClient :=
  match request.kind with
  | .characteristicRead => client.onCharacteristicRead reply.ret reply.handle reply.value
  | .characteristicWrite => client.onCharacteristicWrite reply.ret reply.handle reply.timeStamp
  | .descriptorRead => client.onDescriptorRead reply.ret reply.handle reply.value
  | .descriptorWrite => client.onDescriptorWrite reply.ret reply.handle
  | .setNotify => client.onDescriptorWrite reply.ret reply.handle

end ClientRequest

/-- The client, the requests that the service has accepted and still has to answer, and how
many writes without response it may still send a callback for. -/
structure Conversation where
  client : GattClient
  unanswered : List ClientRequest := []
  unconfirmed : Nat := 0

inductive ConversationEvent where
  | request (request : ClientRequest) (around : Surroundings)
  | answer (request : ClientRequest) (reply : Reply)
  | confirm (reply : Reply)

namespace Conversation

/-- One event. The service answers what it has accepted. -/
def step (conversation : Conversation) : ConversationEvent → Option Conversation
  | .request request around =>
      let outcome := request.perform conversation.client around
      some (match outcome.accepted with
        | none => { conversation with client := outcome.client }
        | some sent =>
            if sent.needsAnswer then
              { conversation with
                client := outcome.client
                unanswered := conversation.unanswered ++ [request] }
            else
              { conversation with
                client := outcome.client
                unconfirmed := conversation.unconfirmed + 1 })
  | .answer request reply =>
      if request ∈ conversation.unanswered then
        some { conversation with
          client := request.answer conversation.client reply
          unanswered := conversation.unanswered.erase request }
      else none
  | .confirm reply =>
      if 0 < conversation.unconfirmed then
        some { conversation with
          client := conversation.client.onCharacteristicWrite reply.ret reply.handle reply.timeStamp
          unconfirmed := conversation.unconfirmed - 1 }
      else none

/-- At most one request is outstanding, and the flag says whether one is. -/
def OneOutstanding (conversation : Conversation) : Prop :=
  (conversation.client.doing = true ↔ conversation.unanswered ≠ []) ∧ conversation.unanswered.length ≤ 1

/-- An answer is reported by callbacks of the kind of its request, and the callback of a
write ends no outstanding request of another kind. -/
def CallbackCorrect (conversation : Conversation) : ConversationEvent → Prop
  | .request _ _ => True
  | .answer request reply =>
      ∃ new, (request.answer conversation.client reply).reports =
        conversation.client.reports ++ new ∧
        new ≠ [] ∧ ∀ report ∈ new, report.kind = some request.kind
  | .confirm reply =>
      ∀ request ∈ conversation.unanswered, request.kind ≠ .characteristicWrite →
        (conversation.client.onCharacteristicWrite reply.ret reply.handle reply.timeStamp).doing =
          true

/-- The callback of a write without response comes while no request is outstanding. -/
def ConfirmsWhenIdle (conversation : Conversation) : ConversationEvent → Prop
  | .confirm _ => conversation.unanswered = []
  | _ => True

/-- A conversation begins with no request under way. -/
def start (client : GattClient) : Conversation where
  client := { client with doing := false }

end Conversation

/-! ## Requests and answers -/

/-- All that a request can do: it is refused, or the client was connected with no request
under way, and the service rejects it, accepts it, or is not needed. -/
inductive Performs (client : GattClient) (type : UInt8) : Outcome → Prop where
  | refused (result : Int32) : Performs client type { client := client, result := result }
  | rejected (byte : UInt8) (result : Int32) (connected : client.connectionState = btConnectStateConnected)
      (idle : client.doing = false) :
      Performs client type { client := { client with type := byte, doing := false }, result := result }
  | accepted (sent : ServiceRequest) (byte : UInt8) (result : Int32)
      (connected : client.connectionState = btConnectStateConnected) (idle : client.doing = false)
      (typed : sent.needsAnswer = true → byte = type) :
      Performs client type
        { client := { client with type := byte, doing := sent.needsAnswer }
          result := result
          accepted := some sent }
  | calledBack (new : List ClientReport) (result : Int32)
      (connected : client.connectionState = btConnectStateConnected) (idle : client.doing = false) :
      Performs client type { client := client.report new, result := result }

namespace GattClient

/-- A request that is sent performs as it should: the client is taken if the service accepts,
and free if it does not. The answer is still to come in the first case. -/
theorem performs_ask {client : GattClient}
    (connected : client.connectionState = btConnectStateConnected)
    (idle : client.doing = false) (type : UInt8) {request : ServiceRequest}
    (needs : request.needsAnswer = true) (answer : Option Int32) :
    Performs client type (client.ask type request answer) := by
  rw [ask.eq_def]
  cases answer with
  | none => exact .refused _
  | some result =>
    dsimp only
    split
    · rw [← needs]
      exact .accepted request type result connected idle fun _ => rfl
    · exact .refused _

/-- A read performs as it should, since its own checks refuse before anything has changed. -/
theorem performs_read (client : GattClient) (type : UInt8) {request : ServiceRequest}
    (needs : request.needsAnswer = true) (around : Surroundings) :
    Performs client type (client.read type request around) := by
  rw [read]
  split
  · exact .refused _
  · split
    · exact .refused _
    · rename_i admitted
      simp only [ne_eq, not_or, not_not] at admitted
      split
      · exact .refused _
      · rename_i idle
        exact performs_ask admitted.1 (by simpa using idle) type needs around.answer

/-- Writing a descriptor performs as it should: it is refused, or it is sent with the byte of its
kind and the client is busy from then on. -/
theorem performs_writeDescriptor (client : GattClient) (descriptor : GattDescriptor)
    (around : Surroundings) :
    Performs client requestTypeDescriptorWrite (client.writeDescriptor descriptor around) := by
  rw [writeDescriptor]
  split
  · exact .refused _
  · split
    · exact .refused _
    · rename_i admitted
      simp only [ne_eq, not_or, not_not] at admitted
      split
      · exact .refused _
      · split
        · exact .refused _
        · rename_i idle
          exact performs_ask admitted.1 (by simpa using idle) _ rfl around.answer

/-- Setting notifications performs as it should. Where there is no descriptor to write, it is
reported at once and no answer is owed. -/
theorem performs_setNotify (client : GattClient) (characteristic : GattCharacteristic)
    (value : ByteString) (around : Surroundings) :
    Performs client requestTypeSetNotifyCharacteristics
      (client.setNotifyCharacteristicInner characteristic value around) := by
  rw [setNotifyCharacteristicInner.eq_def]
  split
  · exact .refused _
  · split
    · exact .refused _
    · rename_i connected
      have connected : client.connectionState = btConnectStateConnected := by simpa using connected
      split
      · exact .refused _
      · split
        · exact .refused _
        · split
          · exact .refused _
          · rename_i idle
            have idle : client.doing = false := by simpa using idle
            split
            · exact .calledBack _ _ connected idle
            · exact performs_ask connected idle _ rfl around.answer

/-- Writing a characteristic performs as it should. Without a response the client stays free,
although the service will still call back. -/
theorem performs_writeCharacteristic (client : GattClient) (characteristic : GattCharacteristic)
    (value : ByteString) (isWithContext : Bool) (around : Surroundings) :
    Performs client requestTypeCharacteristicsWrite
      (client.writeCharacteristic characteristic value isWithContext around) := by
  rw [writeCharacteristic.eq_def]
  split
  · exact .refused _
  · split
    · exact .refused _
    · rename_i connected
      have connected : client.connectionState = btConnectStateConnected := by simpa using connected
      split
      · exact .refused _
      · split
        · exact .refused _
        · rename_i idle
          have idle : client.doing = false := by simpa using idle
          split
          · exact .refused _
          · rename_i result _
            by_cases signed : characteristic.writeType = .signed
            · simp only [signed, if_true]
              split
              · exact .rejected client.type result connected idle
              · have accepted : Performs client requestTypeCharacteristicsWrite _ :=
                  .accepted (.signedWriteCharacteristic characteristic.handle value) client.type result
                    connected idle nofun
                rw [ServiceRequest.needsAnswer, ← idle] at accepted
                exact accepted
            · simp only [signed, if_false]
              split
              · exact .rejected requestTypeCharacteristicsWrite result connected idle
              · exact .accepted (.writeCharacteristic _ _ _ _) requestTypeCharacteristicsWrite result
                  connected idle fun _ => rfl

/-- The callback of a write clears the flag. -/
theorem doing_onCharacteristicWrite (client : GattClient) (ret : Int32) (handle : UInt16)
    (timeStamp : Int64) : (client.onCharacteristicWrite ret handle timeStamp).doing = false := by
  rw [onCharacteristicWrite]
  split <;> rfl

end GattClient

namespace ClientRequest

/-- What a request can do. -/
theorem performs (request : ClientRequest) (client : GattClient) (around : Surroundings) :
    Performs client request.kind.type (request.perform client around) := by
  cases request with
  | readCharacteristic handle => exact client.performs_read _ rfl around
  | readCharacteristicByUuid uuid startHandle endHandle => exact client.performs_read _ rfl around
  | readDescriptor handle => exact client.performs_read _ rfl around
  | writeCharacteristic characteristic value isWithContext =>
    exact client.performs_writeCharacteristic characteristic value isWithContext around
  | writeDescriptor descriptor => exact client.performs_writeDescriptor descriptor around
  | setNotifyCharacteristic characteristic enable => exact client.performs_setNotify characteristic _ around
  | setIndicateCharacteristic characteristic enable =>
    exact client.performs_setNotify characteristic _ around

/-- An answer clears the flag. It does so whether or not the byte meets its kind, since the
callbacks clear it before they look at anything. -/
theorem doing_answer (request : ClientRequest) (client : GattClient) (reply : Reply) :
    (request.answer client reply).doing = false := by
  rw [answer.eq_def]
  cases request.kind with
  | characteristicRead =>
    simp only [GattClient.onCharacteristicRead]
    split <;> rfl
  | characteristicWrite => exact client.doing_onCharacteristicWrite _ _ _
  | descriptorRead =>
    simp only [GattClient.onDescriptorRead]
    split <;> rfl
  | descriptorWrite =>
    simp only [GattClient.onDescriptorWrite]
    split
    · rfl
    · split <;> rfl
  | setNotify =>
    simp only [GattClient.onDescriptorWrite]
    split
    · rfl
    · split <;> rfl

/-- An answer that meets the type of its request is reported by callbacks of its kind. An answer
that does not meet it is dropped, which is why the type is assumed. -/
theorem reports_answer (request : ClientRequest) {client : GattClient}
    (type : client.type = request.kind.type) (reply : Reply) :
    ∃ new, (request.answer client reply).reports = client.reports ++ new ∧ new ≠ [] ∧
      ∀ report ∈ new, report.kind = some request.kind := by
  rw [answer.eq_def]
  cases kind : request.kind with
  | characteristicRead =>
    rw [kind] at type
    simp only [GattClient.onCharacteristicRead, type, AnswerKind.type]
    refine ⟨_, rfl, List.cons_ne_nil _ _, ?_⟩
    simp [ClientReport.kind]
  | characteristicWrite =>
    rw [kind] at type
    simp only [GattClient.onCharacteristicWrite, type, AnswerKind.type]
    refine ⟨_, rfl, List.cons_ne_nil _ _, ?_⟩
    simp [ClientReport.kind]
  | descriptorRead =>
    rw [kind] at type
    simp only [GattClient.onDescriptorRead, type, AnswerKind.type]
    refine ⟨_, rfl, List.cons_ne_nil _ _, ?_⟩
    simp [ClientReport.kind]
  | descriptorWrite =>
    rw [kind] at type
    simp only [GattClient.onDescriptorWrite, type, AnswerKind.type]
    refine ⟨_, rfl, List.cons_ne_nil _ _, ?_⟩
    simp [ClientReport.kind]
  | setNotify =>
    rw [kind] at type
    have notWrite : GattClient.requestTypeSetNotifyCharacteristics ≠
        GattClient.requestTypeDescriptorWrite := by
      decide
    simp only [GattClient.onDescriptorWrite, type, AnswerKind.type, if_neg notWrite]
    refine ⟨_, rfl, List.cons_ne_nil _ _, ?_⟩
    simp [ClientReport.kind]

end ClientRequest

namespace Conversation

/-- The flag and the outstanding request agree, and so does the byte. -/
def Tracked (conversation : Conversation) : Prop :=
  (conversation.unanswered = [] ∧ conversation.client.doing = false) ∨
    ∃ request, conversation.unanswered = [request] ∧ conversation.client.doing = true ∧
      conversation.client.type = request.kind.type

/-- With one request outstanding at most, either none is and the flag is clear, or one is
and the flag is set. -/
theorem oneOutstanding_iff (conversation : Conversation) :
    conversation.OneOutstanding ↔
      (conversation.unanswered = [] ∧ conversation.client.doing = false) ∨
        ∃ request, conversation.unanswered = [request] ∧ conversation.client.doing = true := by
  rw [OneOutstanding]
  cases conversation.unanswered with
  | nil => simp
  | cons request rest => cases rest <;> simp

/-- What is tracked gives the property: with no answer owed the client is free, and with one
owed it is taken. -/
theorem oneOutstanding_of_tracked {conversation : Conversation} (tracked : conversation.Tracked) :
    conversation.OneOutstanding := by
  rw [oneOutstanding_iff]
  rcases tracked with idle | ⟨request, only, busy, -⟩
  · exact .inl idle
  · exact .inr ⟨request, only, busy⟩

/-- A request while none is outstanding is tracked. If it is sent, it is the one that is owed an
answer, and the byte is that of its kind. -/
theorem tracked_request {conversation : Conversation} (empty : conversation.unanswered = [])
    (idle : conversation.client.doing = false) (request : ClientRequest) (around : Surroundings)
    (next : Conversation) (enabled : conversation.step (.request request around) = some next) :
    next.Tracked := by
  have performs := request.performs conversation.client around
  rw [step] at enabled
  generalize request.perform conversation.client around = outcome at performs enabled
  cases enabled
  cases performs with
  | refused result => exact .inl ⟨empty, idle⟩
  | rejected byte result => exact .inl ⟨empty, rfl⟩
  | calledBack new result => exact .inl ⟨empty, idle⟩
  | accepted sent byte result _ _ typed =>
    dsimp only
    split
    · rename_i needs
      refine .inr ⟨request, ?_, needs, typed needs⟩
      rw [empty, List.nil_append]
    · rename_i unneeded
      exact .inl ⟨empty, by simpa using unneeded⟩

/-- A request while one is outstanding changes nothing. -/
theorem request_busy {conversation : Conversation} (busy : conversation.client.doing = true)
    (request : ClientRequest) (around : Surroundings) :
    conversation.step (.request request around) = some conversation := by
  have contradiction (idle : conversation.client.doing = false) : False := by
    rw [busy] at idle
    cases idle
  have performs := request.performs conversation.client around
  rw [step]
  generalize request.perform conversation.client around = outcome at performs
  cases performs with
  | refused result => rfl
  | rejected _ _ _ idle => exact (contradiction idle).elim
  | accepted _ _ _ _ idle => exact (contradiction idle).elim
  | calledBack _ _ _ idle => exact (contradiction idle).elim

/-- An event leaves at most one request outstanding, and the flag right, exactly when it is
not the callback of a write without response while a request is outstanding. -/
theorem oneOutstanding_step_iff (conversation : Conversation) (event : ConversationEvent)
    (next : Conversation) (holds : conversation.OneOutstanding)
    (enabled : conversation.step event = some next) :
    next.OneOutstanding ↔ conversation.ConfirmsWhenIdle event := by
  rw [oneOutstanding_iff] at holds
  cases event with
  | request request around =>
    refine iff_of_true ?_ trivial
    rcases holds with ⟨empty, idle⟩ | ⟨outstanding, only, busy⟩
    · exact oneOutstanding_of_tracked (tracked_request empty idle request around next enabled)
    · rw [request_busy busy] at enabled
      cases enabled
      exact (oneOutstanding_iff _).mpr (.inr ⟨outstanding, only, busy⟩)
  | answer request reply =>
    obtain ⟨member, answered⟩ := Option.ite_none_right_eq_some.mp enabled
    cases answered
    refine iff_of_true ((oneOutstanding_iff _).mpr (.inl ?_)) trivial
    rcases holds with ⟨empty, -⟩ | ⟨outstanding, only, -⟩
    · rw [empty] at member
      cases member
    · rw [only] at member
      refine ⟨?_, request.doing_answer _ reply⟩
      simp [only, List.mem_singleton.mp member]
  | confirm reply =>
    obtain ⟨-, confirmed⟩ := Option.ite_none_right_eq_some.mp enabled
    cases confirmed
    rw [OneOutstanding, ConfirmsWhenIdle]
    dsimp only
    rw [GattClient.doing_onCharacteristicWrite]
    constructor
    · rintro ⟨flag, -⟩
      by_contra outstanding
      cases flag.mpr outstanding
    · intro empty
      simp [empty]

/-- While no callback comes at the wrong time, the byte is right as well. A request is sent only
by an idle client, and an answer makes the client idle again. -/
theorem tracked_step (conversation : Conversation) (event : ConversationEvent) (next : Conversation)
    (tracked : conversation.Tracked) (idle : conversation.ConfirmsWhenIdle event)
    (enabled : conversation.step event = some next) : next.Tracked := by
  have holds := (oneOutstanding_step_iff conversation event next (oneOutstanding_of_tracked tracked)
    enabled).mpr idle
  cases event with
  | request request around =>
    rcases tracked with ⟨empty, flag⟩ | ⟨outstanding, only, busy, type⟩
    · exact tracked_request empty flag request around next enabled
    · rw [request_busy busy] at enabled
      cases enabled
      exact .inr ⟨outstanding, only, busy, type⟩
  | answer request reply =>
    obtain ⟨-, answered⟩ := Option.ite_none_right_eq_some.mp enabled
    cases answered
    rcases (oneOutstanding_iff _).mp holds with idle | ⟨_, _, busy⟩
    · exact .inl idle
    · rw [request.doing_answer] at busy
      cases busy
  | confirm reply =>
    obtain ⟨-, confirmed⟩ := Option.ite_none_right_eq_some.mp enabled
    cases confirmed
    exact .inl ⟨idle, GattClient.doing_onCharacteristicWrite _ _ _ _⟩

/-- As long as the byte is right, every callback does what it should: it reports the request that
it answers, and to the functions of its kind. -/
theorem callbackCorrect_of_tracked (conversation : Conversation) (event : ConversationEvent)
    (next : Conversation) (tracked : conversation.Tracked)
    (idle : conversation.ConfirmsWhenIdle event)
    (enabled : conversation.step event = some next) : conversation.CallbackCorrect event := by
  cases event with
  | request => trivial
  | answer request reply =>
    obtain ⟨member, -⟩ := Option.ite_none_right_eq_some.mp enabled
    rcases tracked with ⟨empty, -⟩ | ⟨outstanding, only, -, type⟩
    · rw [empty] at member
      cases member
    · rw [only] at member
      exact request.reports_answer (List.mem_singleton.mp member ▸ type) reply
  | confirm reply =>
    intro request member
    rw [show conversation.unanswered = [] from idle] at member
    cases member

/-- In every run the flag says whether a request is outstanding, at most one is, and every
callback does what it should, exactly when the callbacks of writes without response come
while no request is outstanding. -/
theorem one_outstanding_iff (client : GattClient) (events : List ConversationEvent) :
    (Always step OneOutstanding (start client) events ∧
      Meets step CallbackCorrect (start client) events) ↔
      Meets step ConfirmsWhenIdle (start client) events := by
  have tracked : (start client).Tracked := .inl ⟨rfl, rfl⟩
  have always : Always step OneOutstanding (start client) events ↔
      Meets step ConfirmsWhenIdle (start client) events := by
    refine @always_iff_meets _ _ step OneOutstanding (fun _ => True) ConfirmsWhenIdle
      (fun _ _ _ _ _ => trivial) ?_ _ _ trivial (oneOutstanding_of_tracked tracked)
    intro conversation event next _ holds enabled
    exact oneOutstanding_step_iff conversation event next holds enabled
  rw [always, and_iff_left_iff_imp]
  exact guarded_steps tracked_step callbackCorrect_of_tracked _ _ tracked

/-- A client that is connected. -/
def connected : GattClient where
  isRegisterSucceeded := true
  connectionState := btConnectStateConnected

/-- A write without response is confirmed after a read has been accepted: the flag is clear
while the read is outstanding. -/
theorem confirmation_ends_read :
    ¬ ∀ events : List ConversationEvent, Always step OneOutstanding (start connected) events ∧
      Meets step CallbackCorrect (start connected) events := by
  intro correct
  have run := (correct [.request (.writeCharacteristic { writeType := .noResponse } [1] false) {},
    .request (.readCharacteristic 3) {}, .confirm {}]).1
  have last := run.2.2.2.1
  revert last
  decide

end Conversation
end BluetoothFramework
