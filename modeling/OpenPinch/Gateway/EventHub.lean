import Mathlib.Logic.Function.Basic
import OpenPinch.Lib.Transition

/-!
# Event streams

`EventHub` keeps the last events and a buffered channel for each subscriber.  A
stream subscribes, sends the history, and then sends what its channel receives.
`Listed` says that events stand in the order they were published in, each once.
-/

namespace OpenPinch

open Lib (System)

structure DesktopEvent where
  id : String
  eventType : String
  payloadJson : String
  createdAt : String
deriving DecidableEq, Repr

/-! ## The hub -/

/-- `EventHub`, less the mutex.  A channel is what waits in it. -/
structure EventHub (ε : Type) where
  nextId : Nat
  history : List ε
  subs : Nat → Option (List ε)

namespace EventHub

variable {ε : Type}

/-- `NewEventHub`. -/
def new : EventHub ε := ⟨0, [], fun _ => none⟩

/-- The last 128 events. -/
def trim (history : List ε) : List ε :=
  if 128 < history.length then history.drop (history.length - 128) else history

/-- A send that does not wait, on a channel with room for 32 events. -/
def offer (event : ε) (channel : List ε) : List ε :=
  if channel.length < 32 then channel ++ [event] else channel

/-- What `Publish` does under the mutex. -/
def publish (hub : EventHub ε) (event : ε) : EventHub ε :=
  { hub with
    history := trim (hub.history ++ [event])
    subs := fun id => (hub.subs id).map (offer event) }

/-- `Subscribe`, which returns `nextId` and its channel. -/
def subscribe (hub : EventHub ε) : EventHub ε :=
  { hub with nextId := hub.nextId + 1, subs := Function.update hub.subs hub.nextId (some []) }

/-- `Unsubscribe`. -/
def unsubscribe (hub : EventHub ε) (id : Nat) : EventHub ε :=
  { hub with subs := Function.update hub.subs id none }

/-- A receive from the channel of a subscriber.  Nothing while it is empty. -/
def receive (hub : EventHub ε) (id : Nat) : Option (ε × EventHub ε) :=
  match hub.subs id with
  | some (event :: rest) =>
      some (event, { hub with subs := Function.update hub.subs id (some rest) })
  | _ => none

/-- What waits in the channel of a subscriber. -/
def waiting (hub : EventHub ε) (id : Nat) : List ε := (hub.subs id).getD []

end EventHub

/-! ## Streams -/

/-- Where a call of `streamDesktopEvents` stands. -/
inductive StreamPoint (ε : Type) where
  | start
  /-- Subscribed, and about to read the history. -/
  | subscribed (id : Nat)
  /-- These events are to be sent.  Without any, it waits in the loop. -/
  | sending (id : Nat) (rest : List ε)
  | ended

/-- A call of `streamDesktopEvents`, and what it has sent. -/
structure EventStream (ε : Type) where
  point : StreamPoint ε
  sent : List ε

/-- The stream has subscribed and not read the history. -/
def EventStream.isBetween {ε : Type} (stream : EventStream ε) : Bool :=
  match stream.point with
  | .subscribed _ => true
  | _ => false

/-- The next move of a stream. -/
inductive StreamMove where
  | subscribe
  | snapshot
  /-- `SendMsg`, which succeeds or not. -/
  | send (succeeds : Bool)
  | receive
  /-- The context of the stream is done. -/
  | cancel
deriving DecidableEq, Repr

/-- A move of a stream, when it stands where the move is due. -/
def EventStream.move? {ε : Type} (hub : EventHub ε) (stream : EventStream ε) :
    StreamMove → Option (EventHub ε × EventStream ε)
  | .subscribe =>
      match stream.point with
      | .start => some (hub.subscribe, { stream with point := .subscribed hub.nextId })
      | _ => none
  | .snapshot =>
      match stream.point with
      | .subscribed id => some (hub, { stream with point := .sending id hub.history })
      | _ => none
  | .send succeeds =>
      match stream.point with
      | .sending id (event :: rest) =>
          if succeeds then some (hub, ⟨.sending id rest, stream.sent ++ [event]⟩)
          else some (hub.unsubscribe id, { stream with point := .ended })
      | _ => none
  | .receive =>
      match stream.point with
      | .sending id [] =>
          (hub.receive id).map fun (event, hub) =>
            (hub, { stream with point := .sending id [event] })
      | _ => none
  | .cancel =>
      match stream.point with
      | .sending id [] => some (hub.unsubscribe id, { stream with point := .ended })
      | _ => none

/-! ## Publishers and streams together -/

/-- An event with its number in the order of publication. -/
structure PublishedEvent where
  number : Nat
  event : DesktopEvent
deriving DecidableEq, Repr

/-- A hub with its streams, and the events published so far. -/
structure HubState where
  hub : EventHub PublishedEvent
  streams : List (EventStream PublishedEvent)
  published : List DesktopEvent

inductive HubStep where
  /-- `Publish` acquires the mutex. -/
  | publish (event : DesktopEvent)
  /-- A call of `streamDesktopEvents` starts. -/
  | call
  | stream (i : Nat) (move : StreamMove)

def HubStep.isPublish : HubStep → Bool
  | .publish _ => true
  | _ => false

namespace HubState

def step? (s : HubState) : HubStep → Option HubState
  | .publish event => some
      { s with
        hub := s.hub.publish ⟨s.published.length, event⟩
        published := s.published ++ [event] }
  | .call => some { s with streams := s.streams ++ [⟨.start, []⟩] }
  | .stream i move => do
      let stream ← s.streams[i]?
      let (hub, stream) ← stream.move? s.hub move
      some { s with hub := hub, streams := s.streams.set i stream }

/-- Any interleaving of allowed steps, from a new hub. -/
def system (allowed : HubState → HubStep → Prop) : System HubState HubStep :=
  System.ofStep (· = ⟨EventHub.new, [], []⟩) allowed step?

/-- No event is published while the stream has subscribed and not read the
history. -/
def Apart (i : Nat) (s : HubState) (step : HubStep) : Prop :=
  step.isPublish = true → (s.streams[i]?).any EventStream.isBetween = false

instance (i : Nat) (s : HubState) (step : HubStep) : Decidable (s.Apart i step) :=
  inferInstanceAs (Decidable (_ → _))

end HubState

/-- The events stand in the order of their publication, each at most once. -/
structure Listed (published : List DesktopEvent) (events : List PublishedEvent) : Prop where
  increasing : events.Pairwise fun first later => first.number < later.number
  published : ∀ event ∈ events, published[event.number]? = some event.event

namespace Listed

variable {published : List DesktopEvent} {events : List PublishedEvent}

theorem sublist (h : Listed published events) {fewer : List PublishedEvent}
    (hfewer : fewer.Sublist events) : Listed published fewer where
  increasing := h.increasing.sublist hfewer
  published event hevent := h.published event (hfewer.subset hevent)

theorem number_lt (h : Listed published events) {event : PublishedEvent} (hevent : event ∈ events) :
    event.number < published.length :=
  (List.getElem?_eq_some_iff.mp (h.published event hevent)).1

/-- What is published later does not change the place of an event. -/
theorem later (h : Listed published events) (event : DesktopEvent) :
    Listed (published ++ [event]) events where
  increasing := h.increasing
  published other hother := by
    rw [List.getElem?_append_left (h.number_lt hother)]
    exact h.published other hother

/-- The event that is published comes after all others. -/
theorem publish (h : Listed published events) (event : DesktopEvent) :
    Listed (published ++ [event]) (events ++ [⟨published.length, event⟩]) where
  increasing := by
    refine List.pairwise_append.mpr ⟨h.increasing, List.pairwise_singleton _ _, ?_⟩
    intro first hfirst later hlater
    cases List.mem_singleton.mp hlater
    exact h.number_lt hfirst
  published other hother := by
    rcases List.mem_append.mp hother with hbefore | hnow
    · exact (h.later event).published other hbefore
    · cases List.mem_singleton.mp hnow
      simp

end Listed

/-! ## What a stream does -/

namespace EventStream

variable {ε : Type} {hub hub' : EventHub ε} {stream stream' : EventStream ε}

/-- What a move can do. -/
inductive Moves (hub : EventHub ε) (stream : EventStream ε) :
    EventHub ε → EventStream ε → Prop where
  | subscribe (here : stream.point = .start) :
      Moves hub stream hub.subscribe { stream with point := .subscribed hub.nextId }
  | snapshot {id : Nat} (here : stream.point = .subscribed id) :
      Moves hub stream hub { stream with point := .sending id hub.history }
  | send {id : Nat} {event : ε} {rest : List ε}
      (here : stream.point = .sending id (event :: rest)) :
      Moves hub stream hub ⟨.sending id rest, stream.sent ++ [event]⟩
  | receive {id : Nat} {event : ε} {rest : List ε} (here : stream.point = .sending id [])
      (waits : hub.subs id = some (event :: rest)) :
      Moves hub stream { hub with subs := Function.update hub.subs id (some rest) }
        { stream with point := .sending id [event] }
  | leave {id : Nat} {rest : List ε} (here : stream.point = .sending id rest) :
      Moves hub stream (hub.unsubscribe id) { stream with point := .ended }

theorem Moves.of_move? {move : StreamMove} (h : stream.move? hub move = some (hub', stream')) :
    stream.Moves hub hub' stream' := by
  cases move with
  | subscribe =>
      simp only [move?] at h
      split at h
      · rename_i here
        cases h
        exact .subscribe here
      · cases h
  | snapshot =>
      simp only [move?] at h
      split at h
      · rename_i here
        cases h
        exact .snapshot here
      · cases h
  | send succeeds =>
      simp only [move?] at h
      split at h
      · rename_i here
        split at h
        · cases h
          exact .send here
        · cases h
          exact .leave here
      · cases h
  | receive =>
      simp only [move?] at h
      split at h
      · rename_i here
        obtain ⟨⟨event, received⟩, hreceive, hmoved⟩ := Option.map_eq_some_iff.mp h
        unfold EventHub.receive at hreceive
        split at hreceive
        · rename_i hwaits
          cases hreceive
          cases hmoved
          exact .receive here hwaits
        · cases hreceive
      · cases h
  | cancel =>
      simp only [move?] at h
      split at h
      · rename_i here
        cases h
        exact .leave here
      · cases h

/-- The subscription of a stream. -/
def id? (stream : EventStream ε) : Option Nat :=
  match stream.point with
  | .subscribed id => some id
  | .sending id _ => some id
  | _ => none

/-- The stream has not read the history yet. -/
def isEarly (stream : EventStream ε) : Bool :=
  match stream.point with
  | .start => true
  | .subscribed _ => true
  | _ => false

/-- What a stream has sent, is about to send, and has waiting, in that order. -/
def line (hub : EventHub ε) (stream : EventStream ε) : List ε :=
  match stream.point with
  | .subscribed id => stream.sent ++ hub.waiting id
  | .sending id rest => stream.sent ++ (rest ++ hub.waiting id)
  | _ => stream.sent

theorem sent_sublist_line : stream.sent.Sublist (stream.line hub) := by
  unfold line
  split
  · exact List.sublist_append_left _ _
  · exact List.sublist_append_left _ _
  · exact List.Sublist.refl _

/-- The line of a stream depends on its own channel only. -/
theorem line_congr (h : ∀ id, stream.id? = some id → hub'.subs id = hub.subs id) :
    stream.line hub' = stream.line hub := by
  unfold line EventHub.waiting
  cases hpoint : stream.point with
  | start => rfl
  | subscribed id => simp only [h id (by simp [id?, hpoint])]
  | sending id rest => simp only [h id (by simp [id?, hpoint])]
  | ended => rfl

/-- A move changes no other channel. -/
theorem Moves.subs_other (h : stream.Moves hub hub' stream') {id : Nat} (hid : id < hub.nextId)
    (hother : stream.id? ≠ some id) : hub'.subs id = hub.subs id := by
  cases h with
  | subscribe here => exact Function.update_of_ne (Nat.ne_of_lt hid) _ _
  | snapshot here => rfl
  | send here => rfl
  | receive here waits =>
      exact Function.update_of_ne (fun heq => hother (by simp [id?, here, heq])) _ _
  | leave here =>
      exact Function.update_of_ne (fun heq => hother (by simp [id?, here, heq])) _ _

theorem Moves.history (h : stream.Moves hub hub' stream') : hub'.history = hub.history := by
  cases h <;> rfl

theorem Moves.nextId (h : stream.Moves hub hub' stream') : hub.nextId ≤ hub'.nextId := by
  cases h with
  | subscribe here => exact Nat.le_succ _
  | _ => exact Nat.le_refl _

/-- A stream keeps its subscription or gets the next one. -/
theorem Moves.id?_eq (h : stream.Moves hub hub' stream') {id : Nat} (hid : stream'.id? = some id) :
    stream.id? = some id ∨ id = hub.nextId ∧ hub.nextId < hub'.nextId := by
  cases h with
  | subscribe here =>
      cases hid
      exact Or.inr ⟨rfl, Nat.lt_succ_self _⟩
  | snapshot here =>
      cases hid
      exact Or.inl (by simp [id?, here])
  | send here =>
      cases hid
      exact Or.inl (by simp [id?, here])
  | receive here waits =>
      cases hid
      exact Or.inl (by simp [id?, here])
  | leave here => cases hid

/-- Until a stream reads the history its line is empty, then it is the history,
and later nothing enters it by a move. -/
theorem Moves.line (h : stream.Moves hub hub' stream')
    (hearly : stream.isEarly = true → stream.line hub = []) :
    (stream'.line hub').Sublist (stream.line hub) ∨
      stream'.isEarly = false ∧ stream'.line hub' = hub.history := by
  cases h with
  | subscribe here =>
      have hnone := hearly (by simp [isEarly, here])
      simp only [EventStream.line, here] at hnone
      left
      simp [EventStream.line, here, hnone, EventHub.waiting, EventHub.subscribe]
  | snapshot here =>
      have hnone := hearly (by simp [isEarly, here])
      simp only [EventStream.line, here, List.append_eq_nil_iff] at hnone
      right
      simp [EventStream.line, hnone, isEarly]
  | send here => exact Or.inl (by simp [EventStream.line, here])
  | receive here waits => exact Or.inl (by simp [EventStream.line, here, EventHub.waiting, waits])
  | leave here => exact Or.inl (by simp [EventStream.line, here])

theorem Moves.isEarly (h : stream.Moves hub hub' stream') (hearly : stream'.isEarly = true) :
    stream.isEarly = true := by
  cases h with
  | subscribe here => simp [EventStream.isEarly, here]
  | _ => cases hearly

/-- An event that is published comes last in the line of a stream, or not at all. -/
theorem line_publish (event : ε) (hread : stream.isBetween = false) :
    stream.line (hub.publish event) = stream.line hub ∨
      stream.isEarly = false ∧ stream.line (hub.publish event) = stream.line hub ++ [event] := by
  unfold line
  cases hpoint : stream.point with
  | start => exact Or.inl rfl
  | subscribed id => simp [isBetween, hpoint] at hread
  | ended => exact Or.inl rfl
  | sending id rest =>
      cases hwaits : hub.subs id with
      | none => exact Or.inl (by simp [EventHub.waiting, EventHub.publish, hwaits])
      | some channel =>
          by_cases hroom : channel.length < 32
          · refine Or.inr ⟨by simp [isEarly, hpoint], ?_⟩
            simp [EventHub.waiting, EventHub.publish, hwaits, EventHub.offer, hroom]
          · refine Or.inl ?_
            simp [EventHub.waiting, EventHub.publish, hwaits, EventHub.offer, hroom]

end EventStream

theorem EventHub.trim_sublist {ε : Type} (history : List ε) : (trim history).Sublist history := by
  unfold trim
  split
  · exact List.drop_sublist _ _
  · exact List.Sublist.refl _

/-! ## Runs -/

namespace HubState

/-- The subscription of the stream at an index. -/
def idAt (s : HubState) (j : Nat) : Option Nat := (s.streams[j]?).bind EventStream.id?

/-- The subscriptions are taken once each, and the history is in order, as is the
line of the stream. -/
structure Orderly (i : Nat) (s : HubState) : Prop where
  history : Listed s.published s.hub.history
  taken : ∀ j id, s.idAt j = some id → id < s.hub.nextId
  own : ∀ j k id, s.idAt j = some id → s.idAt k = some id → j = k
  line : ∀ stream ∈ s.streams[i]?, Listed s.published (stream.line s.hub)
  early : ∀ stream ∈ s.streams[i]?, stream.isEarly = true → stream.line s.hub = []

variable {i : Nat} {s s' : HubState}

theorem Orderly.publish (h : s.Orderly i) (event : DesktopEvent)
    (hread : ∀ stream ∈ s.streams[i]?, stream.isBetween = false) :
    Orderly i { s with
      hub := s.hub.publish ⟨s.published.length, event⟩
      published := s.published ++ [event] } where
  history := (h.history.publish event).sublist (EventHub.trim_sublist _)
  taken := h.taken
  own := h.own
  line stream hstream := by
    rcases stream.line_publish ⟨s.published.length, event⟩ (hread stream hstream) with
      hsame | ⟨-, hlast⟩
    · rw [hsame]
      exact (h.line stream hstream).later event
    · rw [hlast]
      exact (h.line stream hstream).publish event
  early stream hstream hearly := by
    rcases stream.line_publish ⟨s.published.length, event⟩ (hread stream hstream) with
      hsame | ⟨hlate, -⟩
    · rw [hsame]
      exact h.early stream hstream hearly
    · rw [hlate] at hearly
      cases hearly

/-- A call that starts has no subscription. -/
theorem getElem?_call {j : Nat} {stream : EventStream PublishedEvent}
    (h : (s.streams ++ [⟨.start, []⟩])[j]? = some stream) :
    s.streams[j]? = some stream ∨ s.streams[j]? = none ∧ stream = ⟨.start, []⟩ := by
  rw [List.getElem?_append] at h
  split at h
  · exact Or.inl h
  · rename_i hj
    refine Or.inr ⟨List.getElem?_eq_none (by omega), ?_⟩
    exact List.mem_singleton.mp (List.mem_of_getElem? h)

theorem Orderly.call (h : s.Orderly i) :
    Orderly i { s with streams := s.streams ++ [⟨.start, []⟩] } := by
  have hids : ∀ j id, HubState.idAt { s with streams := s.streams ++ [⟨.start, []⟩] } j = some id →
      s.idAt j = some id := by
    intro j id hid
    obtain ⟨stream, hstream, hsome⟩ := Option.bind_eq_some_iff.mp hid
    rcases getElem?_call hstream with hbefore | ⟨-, rfl⟩
    · exact Option.bind_eq_some_iff.mpr ⟨stream, hbefore, hsome⟩
    · cases hsome
  refine ⟨h.history, fun j id hid => h.taken j id (hids j id hid), fun j k id hj hk =>
    h.own j k id (hids j id hj) (hids k id hk), fun stream hstream => ?_, fun stream hstream => ?_⟩
  · rcases getElem?_call hstream with hbefore | ⟨-, rfl⟩
    · exact h.line stream hbefore
    · exact ⟨List.Pairwise.nil, fun _ hnone => absurd hnone List.not_mem_nil⟩
  · rcases getElem?_call hstream with hbefore | ⟨-, rfl⟩
    · exact h.early stream hbefore
    · exact fun _ => rfl

theorem Orderly.move (h : s.Orderly i) {j : Nat} {hub' : EventHub PublishedEvent}
    {stream stream' : EventStream PublishedEvent} (hstream : s.streams[j]? = some stream)
    (hmoves : stream.Moves s.hub hub' stream') :
    Orderly i { s with hub := hub', streams := s.streams.set j stream' } := by
  have hown : s.idAt j = stream.id? := by rw [idAt, hstream, Option.bind_some]
  have hset : ∀ k, (s.streams.set j stream')[k]? =
      if k = j then some stream' else s.streams[k]? := by
    intro k
    rw [List.getElem?_set]
    split
    · rename_i heq
      have hj : j < s.streams.length := (List.getElem?_eq_some_iff.mp hstream).1
      rw [if_pos heq.symm]
      simp [hj]
    · rename_i hne
      rw [if_neg (Ne.symm hne)]
  have hids : ∀ k id,
      HubState.idAt { s with hub := hub', streams := s.streams.set j stream' } k = some id →
        s.idAt k = some id ∨ k = j ∧ id = s.hub.nextId ∧ s.hub.nextId < hub'.nextId := by
    intro k id hid
    simp only [idAt, hset] at hid
    split at hid
    · rename_i hk
      subst hk
      rcases hmoves.id?_eq hid with hsame | hnext
      · exact Or.inl (hown.trans hsame)
      · exact Or.inr ⟨rfl, hnext⟩
    · exact Or.inl hid
  have hline : ∀ other, s.streams[i]? = some other → i ≠ j →
      other.line hub' = other.line s.hub := by
    intro other hother hne
    refine EventStream.line_congr fun id hid => ?_
    have hat : s.idAt i = some id := Option.bind_eq_some_iff.mpr ⟨other, hother, hid⟩
    refine hmoves.subs_other (h.taken i id hat) fun hj => hne (h.own i j id hat (hown.trans hj))
  refine ⟨?_, fun k id hid => ?_, fun k k' id hk hk' => ?_, fun other hother => ?_,
    fun other hother hearly => ?_⟩
  · show Listed s.published hub'.history
    rw [hmoves.history]
    exact h.history
  · rcases hids k id hid with hbefore | ⟨-, rfl, hlt⟩
    · exact Nat.lt_of_lt_of_le (h.taken k id hbefore) hmoves.nextId
    · exact hlt
  · rcases hids k id hk with hbefore | ⟨rfl, rfl, -⟩
    · rcases hids k' id hk' with hbefore' | ⟨rfl, rfl, -⟩
      · exact h.own k k' id hbefore hbefore'
      · exact absurd (h.taken k _ hbefore) (Nat.lt_irrefl _)
    · rcases hids k' _ hk' with hbefore' | ⟨rfl, -⟩
      · exact absurd (h.taken k' _ hbefore') (Nat.lt_irrefl _)
      · rfl
  · simp only [hset, Option.mem_def] at hother
    split at hother
    · rename_i hij
      subst hij
      cases hother
      rcases hmoves.line (h.early stream hstream) with hfewer | ⟨-, hread⟩
      · exact (h.line stream hstream).sublist hfewer
      · rw [hread]
        exact h.history
    · rename_i hij
      rw [hline other hother hij]
      exact h.line other hother
  · simp only [hset, Option.mem_def] at hother
    split at hother
    · rename_i hij
      subst hij
      cases hother
      rcases hmoves.line (h.early stream hstream) with hfewer | ⟨hlate, -⟩
      · rw [h.early stream hstream (hmoves.isEarly hearly)] at hfewer
        exact List.sublist_nil.mp hfewer
      · rw [hlate] at hearly
        cases hearly
    · rename_i hij
      rw [hline other hother hij]
      exact h.early other hother hearly

theorem orderly_reachable (h : (system (Apart i)).Reachable s) : s.Orderly i := by
  refine h.invariant (P := Orderly i) ?_ ?_
  · rintro s rfl
    exact ⟨⟨List.Pairwise.nil, fun _ hnone => absurd hnone List.not_mem_nil⟩, nofun, nofun, nofun,
      nofun⟩
  · rintro s step s' ⟨hapart, hstep⟩ hs
    cases step with
    | publish event =>
        cases hstep
        refine hs.publish event fun stream hstream => ?_
        have hnone := hapart rfl
        rwa [hstream, Option.any_some] at hnone
    | call =>
        cases hstep
        exact hs.call
    | stream j move =>
        simp only [step?, Option.bind_eq_bind, Option.bind_eq_some_iff] at hstep
        obtain ⟨stream, hstream, ⟨hub', stream'⟩, hmove, ⟨rfl⟩⟩ := hstep
        exact hs.move hstream (.of_move? hmove)

/-- In every run in which no event is published between the subscription of a
stream and its history, it sends the events in the order of their publication,
each at most once. -/
theorem sent_listed (h : (system (Apart i)).Reachable s)
    {stream : EventStream PublishedEvent} (hstream : s.streams[i]? = some stream) :
    Listed s.published stream.sent :=
  ((orderly_reachable h).line stream hstream).sublist stream.sent_sublist_line

end HubState

/-! ## One stream -/

/-- An event of the desktop. -/
def desktopEvent : DesktopEvent := ⟨"ui-1", "message.reply", "\x7b\x7d", "2026-01-01T00:00:00Z"⟩

namespace HubState

/-- The state after the steps, as long as they pass. -/
def runOf (test : HubState → HubStep → Bool) (steps : List HubStep) : Option HubState :=
  System.play step? test steps ⟨EventHub.new, [], []⟩

/-- What the streams have sent. -/
def sent (s : HubState) : List (List PublishedEvent) := s.streams.map EventStream.sent

theorem reachable_of_runOf {allowed : HubState → HubStep → Prop}
    {test : HubState → HubStep → Bool} {steps : List HubStep}
    (htest : ∀ s step, test s step = true → allowed s step) {s : HubState}
    (h : runOf test steps = some s) : (system allowed).Reachable s :=
  System.reachable_of_play (fun s step _ => htest s step) rfl h

theorem getElem?_of_sent {s : HubState} {sent : List PublishedEvent} (h : s.sent = [sent]) :
    ∃ stream, s.streams[0]? = some stream ∧ stream.sent = sent := by
  obtain ⟨stream, rest, hstreams, hstream, -⟩ := List.map_eq_cons_iff.mp h
  exact ⟨stream, by rw [hstreams]; rfl, hstream⟩

/-- One event is published before a stream subscribes, and one after it has read
the history. -/
theorem sent_listed_both : ∃ s, runOf (fun s step => decide (s.Apart 0 step))
    [.publish desktopEvent, .call, .stream 0 .subscribe, .stream 0 .snapshot,
      .publish desktopEvent, .stream 0 (.send true), .stream 0 .receive, .stream 0 (.send true)] =
      some s ∧
    s.sent = [[⟨0, desktopEvent⟩, ⟨1, desktopEvent⟩]] ∧
    Listed s.published [⟨0, desktopEvent⟩, ⟨1, desktopEvent⟩] := by
  have hrun : (runOf (fun s step => decide (s.Apart 0 step))
      [.publish desktopEvent, .call, .stream 0 .subscribe, .stream 0 .snapshot,
        .publish desktopEvent, .stream 0 (.send true), .stream 0 .receive,
        .stream 0 (.send true)]).map sent = some [[⟨0, desktopEvent⟩, ⟨1, desktopEvent⟩]] := by
    decide
  obtain ⟨s, hs, hsent⟩ := Option.map_eq_some_iff.mp hrun
  obtain ⟨stream, hstream, heq⟩ := getElem?_of_sent hsent
  refine ⟨s, hs, hsent, heq ▸ sent_listed (reachable_of_runOf ?_ hs) hstream⟩
  exact fun _ _ => of_decide_eq_true

/-- An event that is published between the subscription and the history is sent
twice. -/
theorem sent_listed_fails :
    ¬ ∀ s, (system fun _ _ => True).Reachable s → ∀ stream ∈ s.streams,
      Listed s.published stream.sent := by
  intro h
  have hrun : (runOf (fun _ _ => true) [.call, .stream 0 .subscribe, .publish desktopEvent,
      .stream 0 .snapshot, .stream 0 (.send true), .stream 0 .receive,
      .stream 0 (.send true)]).map sent = some [[⟨0, desktopEvent⟩, ⟨0, desktopEvent⟩]] := by
    decide
  obtain ⟨s, hs, hsent⟩ := Option.map_eq_some_iff.mp hrun
  obtain ⟨stream, hstream, heq⟩ := getElem?_of_sent hsent
  have hlisted := h s (reachable_of_runOf (fun _ _ _ => trivial) hs) stream
    (List.mem_of_getElem? hstream)
  rw [heq] at hlisted
  exact absurd hlisted.increasing (by decide)

end HubState

end OpenPinch
