import Mathlib
import MessageAbi.Proofs.Bindings.Agreement

/-!
This module contains what becomes of requests that are dispatched one after the other: a handler is
called for those that decode to a message of the right category, and nothing else reaches it.
-/

namespace MessageAbi.Bindings

def Request.call? (bindings : Bindings) (request : Request) : Option Call := do
  let typed ← (bindings.decode request.payload).toOption
  if typed.message.category = request.category then
    let method ← typed.message.method
    return ⟨method, typed.values⟩
  else none

/--
What a request is answered, in each of the four cases of its payload.
-/
inductive Outcome (bindings : Bindings) (request : Request) : Except AbiError Unit → Prop
  | handled (typed : TypedMessage) :
    bindings.decode request.payload = .ok typed → typed.message.category = request.category →
    Outcome bindings request (.ok ())
  | short : request.payload.length < 4 →
    Outcome bindings request
      (.error (.malformedPayload (.shorterThanSelector request.payload.length)))
  | unsupported (selector : Selector) :
    Selector.ofPayload request.payload = .ok selector →
    (∀ message ∈ bindings.messages, message.category = request.category →
      message.selector ≠ selector) →
    Outcome bindings request (.error (.unsupportedMessage request.category selector))
  | undecodable (message : MessageBinding) (error : AbiError) :
    message ∈ bindings.messages → message.category = request.category →
    Selector.ofPayload request.payload = .ok message.selector →
    bindings.decodeAs message request.payload = .error error →
    Outcome bindings request (.error error)

/--
That the recorder answers a request as the case of its payload demands, and writes down the call that
the request stands for or nothing.
-/
def Received (bindings : Bindings) (request : Request) : Prop :=
  ∀ calls, ∃ result, (recorder.receive bindings request.category request.payload).run.run calls
      = (result, (request.call? bindings).toList ++ calls)
    ∧ Outcome bindings request result

namespace Handler

variable {σ ε : Type} (handler : Handler σ ε) {bindings : Bindings} {category : Category}
variable {payload : Bytes}

theorem run_receive_of_ok {typed : TypedMessage}
    (h : bindings.decodeAmong (bindings.messagesOf category) (.unsupportedMessage category) payload
      = .ok typed) (state : σ) :
    (handler.receive bindings category payload).run.run state
      = (handler.call (typed.message.method.getD typed.message.name) typed).run.run state := by
  rw [receive, h]

theorem run_receive_of_error {error : AbiError}
    (h : bindings.decodeAmong (bindings.messagesOf category) (.unsupportedMessage category) payload
      = .error error) (state : σ) :
    (handler.receive bindings category payload).run.run state
      = (.error (handler.ofAbiError error), state) := by
  rw [receive, h]
  rfl

theorem run_session_cons (request : Request) (requests : List Request) (state : σ) :
    (handler.session bindings (request :: requests)).run state
      = let (result, middle) :=
          (handler.receive bindings request.category request.payload).run.run state
        let (results, after) := (handler.session bindings requests).run middle
        (result :: results, after) := by
  rw [session, List.mapM_cons]
  rfl

end Handler

theorem run_receive_eq_dispatch (bindings : Bindings) (category : Category) (payload : Bytes)
    (calls : List Call) :
    (recorder.receive bindings category payload).run.run calls
      = match bindings.dispatch category payload calls with
        | .ok after => (.ok (), after)
        | .error error => (.error error, calls) := by
  rw [dispatch]
  cases hdecode : bindings.decodeAmong (bindings.messagesOf category) (.unsupportedMessage category)
    payload with
  | ok typed =>
    rw [recorder.run_receive_of_ok hdecode]
    rfl
  | error error => rw [recorder.run_receive_of_error hdecode]

theorem run_session_eq_dispatch (bindings : Bindings) (request : Request) (requests : List Request)
    (calls : List Call) :
    (recorder.session bindings (request :: requests)).run calls
      = match bindings.dispatch request.category request.payload calls with
        | .ok after =>
          let (results, last) := (recorder.session bindings requests).run after
          (.ok () :: results, last)
        | .error error =>
          let (results, last) := (recorder.session bindings requests).run calls
          (.error error :: results, last) := by
  rw [recorder.run_session_cons, run_receive_eq_dispatch]
  cases bindings.dispatch request.category request.payload calls <;> rfl

section Recorder

variable {bindings : Bindings} {registry : Registry} {request : Request} {selector : Selector}

theorem received_of_short {error : AbiError}
    (hselector : Selector.ofPayload request.payload = .error error) :
    Received bindings request := by
  intro calls
  have hcall : request.call? bindings = none := by
    rw [Request.call?, decode, decodeAmong_of_short _ hselector]
    rfl
  refine ⟨.error error, ?_, ?_⟩
  . rw [hcall]
    exact recorder.run_receive_of_error (decodeAmong_of_short _ hselector) calls
  . unfold Selector.ofPayload at hselector
    split at hselector
    next hlt =>
      cases hselector
      exact .short hlt
    next => contradiction

variable (h : Serves bindings registry)

include h

theorem nodup_messagesOf (category : Category) :
    ((bindings.messagesOf category).map (·.selector)).Nodup :=
  h.nodup.2.sublist (List.filter_sublist.map _)

theorem call?_of_decode {typed : TypedMessage}
    (hdecode : bindings.decode request.payload = .ok typed)
    (hcategory : typed.message.category = request.category) :
    request.call? bindings
      = some ⟨typed.message.method.getD typed.message.name, typed.values⟩ := by
  have hmessage := ((decodeAmong_eq_ok_iff _ h.nodup.2 typed).mp hdecode).1
  have hdispatched : typed.message.category = .advance ∨ typed.message.category = .inspect := by
    rw [hcategory]
    cases request with
    | advance => exact .inl rfl
    | inspect => exact .inr rfl
  rcases h.method _ hmessage hdispatched with ⟨method, _, hmethod⟩
  rw [Request.call?, hdecode, hmethod]
  simp only [Except.toOption, Option.bind_eq_bind, Option.bind_some, if_pos hcategory, hmethod]
  rfl

theorem call?_eq_none_of_notMem
    (hselector : Selector.ofPayload request.payload = .ok selector)
    (hnone : ∀ message ∈ bindings.messagesOf request.category, message.selector ≠ selector) :
    request.call? bindings = none := by
  cases hdecode : bindings.decode request.payload with
  | error error =>
    rw [Request.call?, hdecode]
    rfl
  | ok typed =>
    rcases (decodeAmong_eq_ok_iff _ h.nodup.2 typed).mp hdecode with ⟨hmessage, hcontent⟩
    have hcategory : typed.message.category ≠ request.category := by
      intro hcategory
      apply hnone typed.message (List.mem_filter.mpr ⟨hmessage, decide_eq_true hcategory⟩)
      rw [ofPayload_of_decodeAs hcontent] at hselector
      exact Except.ok.inj hselector
    rw [Request.call?, hdecode]
    simp [Except.toOption, hcategory]

theorem received_of_notMem
    (hselector : Selector.ofPayload request.payload = .ok selector)
    (hnone : ∀ message ∈ bindings.messagesOf request.category, message.selector ≠ selector) :
    Received bindings request := by
  intro calls
  refine ⟨_, ?_, .unsupported selector hselector ?_⟩
  . rw [call?_eq_none_of_notMem h hselector hnone]
    exact recorder.run_receive_of_error (decodeAmong_of_notMem _ hselector hnone) calls
  . intro message hmessage hcategory
    exact hnone message (List.mem_filter.mpr ⟨hmessage, decide_eq_true hcategory⟩)

theorem received_of_mem {message : MessageBinding}
    (hselector : Selector.ofPayload request.payload = .ok message.selector)
    (hmem : message ∈ bindings.messagesOf request.category) : Received bindings request := by
  intro calls
  rcases List.mem_filter.mp hmem with ⟨hmessage, hcategory⟩
  have hcategory := of_decide_eq_true hcategory
  -- No other message has the selector, so both functions decode the payload as this one.
  have hdecode : bindings.decode request.payload = _ :=
    decodeAmong_of_mem _ h.nodup.2 hselector hmessage
  have hamong : bindings.decodeAmong (bindings.messagesOf request.category)
      (.unsupportedMessage request.category) request.payload = _ :=
    decodeAmong_of_mem _ (nodup_messagesOf h request.category) hselector hmem
  cases hcontent : bindings.decodeAs message request.payload with
  | error error =>
    rw [hcontent] at hdecode hamong
    have hcall : request.call? bindings = none := by
      rw [Request.call?, hdecode]
      rfl
    refine ⟨.error error, ?_, .undecodable message error hmessage hcategory hselector hcontent⟩
    rw [hcall]
    exact recorder.run_receive_of_error hamong calls
  | ok content =>
    rw [hcontent] at hdecode hamong
    refine ⟨.ok (), ?_, .handled _ hdecode hcategory⟩
    rw [call?_of_decode h hdecode hcategory]
    exact recorder.run_receive_of_ok hamong calls

theorem received (request : Request) : Received bindings request := by
  cases hselector : Selector.ofPayload request.payload with
  | error error => exact received_of_short hselector
  | ok selector =>
    by_cases hmem : ∃ message ∈ bindings.messagesOf request.category, message.selector = selector
    . rcases hmem with ⟨message, hmem, rfl⟩
      exact received_of_mem h hselector hmem
    . apply received_of_notMem h hselector
      intro message hmessage heq
      exact hmem ⟨message, hmessage, heq⟩

theorem call?_of_outcome (houtcome : Outcome bindings request (.ok ())) :
    ∃ call, request.call? bindings = some call := by
  cases houtcome with
  | handled typed hdecode hcategory => exact ⟨_, call?_of_decode h hdecode hcategory⟩

theorem dispatch_received (request : Request) (calls : List Call) :
    (∃ call, request.call? bindings = some call
      ∧ bindings.dispatch request.category request.payload calls = .ok (call :: calls))
    ∨ (request.call? bindings = none ∧ ∃ error,
      bindings.dispatch request.category request.payload calls = .error error
        ∧ Outcome bindings request (.error error)) := by
  rcases received h request calls with ⟨result, hresult, houtcome⟩
  rw [run_receive_eq_dispatch] at hresult
  cases hdispatch : bindings.dispatch request.category request.payload calls with
  | ok after =>
    rw [hdispatch, Prod.mk.injEq] at hresult
    rcases hresult with ⟨rfl, rfl⟩
    rcases call?_of_outcome h houtcome with ⟨call, hcall⟩
    exact .inl ⟨call, hcall, by rw [hcall]; rfl⟩
  | error error =>
    rw [hdispatch, Prod.mk.injEq] at hresult
    rcases hresult with ⟨rfl, hcalls⟩
    refine .inr ⟨?_, error, rfl, houtcome⟩
    cases hcall : request.call? bindings with
    | none => rfl
    | some call =>
      rw [hcall] at hcalls
      exact absurd hcalls (List.cons_ne_self _ _).symm

end Recorder

end MessageAbi.Bindings
