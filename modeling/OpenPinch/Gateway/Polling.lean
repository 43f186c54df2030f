import Mathlib.Algebra.Group.Int.Defs
import OpenPinch.Gateway.Telegram
import OpenPinch.Lib.Ack
import OpenPinch.Lib.Transition

/-!
# The loop of the Telegram connector

`Start` asks for the updates from an offset on, and takes them one by one.  An
update that is taken raises the offset, whatever becomes of its message.  The
server keeps an update until a request with a greater offset arrives.
-/

namespace OpenPinch

open Lib (System)
open Lib.Ack (since)

/-- The number of an update. -/
def TelegramUpdate.number (update : TelegramUpdate) : Int := update.updateId.toInt

/-! ## The connector and the server -/

/-- Where the connector stands in the loop over a batch. -/
inductive PollingPoint where
  | idle
  /-- `DeliverMessage` has the envelope of the update. -/
  | delivering (update : TelegramUpdate) (message : TelegramMessage)
  /-- `sendMessage` has the reply for the chat of the update. -/
  | replying (update : TelegramUpdate) (chat : TelegramChat) (reply : String)
deriving DecidableEq, Repr

/-- The connector, the server, and what has happened to the updates. -/
structure Polling where
  offset : Int64
  /-- What is left of the updates of the last request. -/
  batch : List TelegramUpdate
  point : PollingPoint
  /-- What the server keeps, with increasing numbers. -/
  kept : List TelegramUpdate
  /-- All updates so far. -/
  arrived : List TelegramUpdate
  /-- The updates that the engine has got without an error, and for whose reply, if
  it is not empty, `sendMessage` has returned no error. -/
  handled : List TelegramUpdate
deriving DecidableEq, Repr

/-- What becomes of a request for updates. -/
inductive PollOutcome where
  /-- It does not reach the server. -/
  | unreached
  /-- The connector gets no answer from the server. -/
  | unanswered
  /-- The server answers with so many updates. -/
  | answered (count : Nat)
deriving DecidableEq, Repr

inductive PollingStep where
  /-- Telegram has a new update. -/
  | arrive (update : TelegramUpdate)
  | getUpdates (outcome : PollOutcome)
  /-- The loop goes on with the next update of the batch. -/
  | take
  | deliverMessage (outcome : Except String InboundMessageResult)
  /-- What `sendMessage` returns.  It does not look at the answer, so a refusal with an
  HTTP status is no error either. -/
  | sendMessage (outcome : Except String Unit)
  /-- The connector stops, and starts again. -/
  | restart

namespace Polling

/-- The connector starts, with a server that keeps nothing. -/
def start : Polling := ⟨0, [], .idle, [], [], []⟩

/-- The updates that a request with the offset is about. -/
def available (s : Polling) : List TelegramUpdate :=
  since TelegramUpdate.number s.offset.toInt s.kept

/-- Telegram has a new update. -/
def arrive (s : Polling) (update : TelegramUpdate) : Polling :=
  { s with kept := s.kept ++ [update], arrived := s.arrived ++ [update] }

/-- A request that has reached the server. -/
def acknowledge (s : Polling) : Polling := { s with kept := s.available }

/-- What `Start` does with the next update. -/
def take (s : Polling) (update : TelegramUpdate) (rest : List TelegramUpdate) : Polling :=
  { s with
    offset := update.updateId + 1
    batch := rest
    point :=
      match update.textMessage? with
      | none => .idle
      | some message => .delivering update message }

/-- The engine has got the update at work, and its reply has gone out if there is one. -/
def finish (s : Polling) (update : TelegramUpdate) : Polling :=
  { s with point := .idle, handled := update :: s.handled }

def step? (s : Polling) : PollingStep → Option Polling
  | .arrive update =>
      if 0 ≤ update.number ∧ ∀ earlier ∈ s.arrived, earlier.number < update.number then
        some (s.arrive update)
      else none
  | .getUpdates outcome =>
      match s.point, s.batch with
      | .idle, [] =>
          match outcome with
          | .unreached => some s
          | .unanswered => some s.acknowledge
          | .answered count => some { s.acknowledge with batch := s.available.take count }
      | _, _ => none
  | .take =>
      match s.point, s.batch with
      | .idle, update :: rest => some (s.take update rest)
      | _, _ => none
  | .deliverMessage outcome =>
      match s.point with
      | .delivering update message =>
          match outcome with
          | .error _ => some { s with point := .idle }
          | .ok result =>
              if result.reply = "" then some (s.finish update)
              else some { s with point := .replying update message.chat result.reply }
      | _ => none
  | .sendMessage outcome =>
      match s.point with
      | .replying update _ _ =>
          match outcome with
          | .error _ => some { s with point := .idle }
          | .ok () => some (s.finish update)
      | _ => none
  | .restart => some { s with offset := 0, batch := [], point := .idle }

/-- Runs of allowed steps. -/
def system (allowed : Polling → PollingStep → Prop) : System Polling PollingStep :=
  System.ofStep (· = start) allowed step?

/-- The update is with the engine, or its reply on the way. -/
def IsAtWork (s : Polling) (update : TelegramUpdate) : Prop :=
  match s.point with
  | .idle => False
  | .delivering current _ => current = update
  | .replying current _ _ => current = update

/-- The update is handled, or about to be, or a request for updates returns it. -/
def Retained (s : Polling) (update : TelegramUpdate) : Prop :=
  update ∈ s.handled ∨ s.IsAtWork update ∨ update ∈ s.available

end Polling

/-- Neither `DeliverMessage` nor `sendMessage` fails. -/
def PollingStep.Succeeds : PollingStep → Prop
  | .deliverMessage outcome => ∃ result, outcome = .ok result
  | .sendMessage outcome => outcome = .ok ()
  | _ => True

/-! ## What the connector keeps track of -/

namespace Polling

/-- The numbers increase, the batch is what comes next, and no update with text
is lost. -/
structure Tracks (s : Polling) : Prop where
  sorted : s.arrived.Pairwise fun earlier later => earlier.number < later.number
  positive : ∀ update ∈ s.arrived, 0 ≤ update.number
  kept : s.kept.Sublist s.arrived
  offset : s.offset.toInt ≤ 0 ∨ ∃ update ∈ s.arrived, s.offset.toInt ≤ update.number + 1
  batch : s.batch <+: s.available
  work : ∀ update, s.IsAtWork update → update ∈ s.kept
  retained : ∀ update ∈ s.arrived, update.textMessage?.isSome → s.Retained update

variable {s s' : Polling} {update : TelegramUpdate}

theorem Tracks.sorted_kept (h : s.Tracks) :
    s.kept.Pairwise fun earlier later => earlier.number < later.number :=
  h.sorted.sublist h.kept

/-- The next offset is one more than the number, or the number is the last one. -/
theorem toInt_next (id : Int64) :
    (id + 1).toInt = id.toInt + 1 ∨ id.toInt = 2 ^ 63 - 1 ∧ (id + 1).toInt ≤ id.toInt := by
  have hlt := id.toInt_lt
  have hle := id.le_toInt
  have hone : (1 : Int64).toInt = 1 := rfl
  rw [Int64.toInt_add, hone, Int.bmod_def]
  omega

theorem toInt_next_le (id : Int64) : (id + 1).toInt ≤ id.toInt + 1 := by
  rcases toInt_next id with heq | ⟨-, hle⟩
  · exact heq.le
  · exact Int.le_trans hle (by omega)

theorem available_arrive (s : Polling) (update : TelegramUpdate) :
    (s.arrive update).available =
      s.available ++ since TelegramUpdate.number s.offset.toInt [update] :=
  Lib.Ack.since_append _ _ _

/-- A new update has the greatest number so far, and so it is available. -/
theorem Tracks.arrive (h : s.Tracks) (hpositive : 0 ≤ update.number)
    (hlast : ∀ earlier ∈ s.arrived, earlier.number < update.number) :
    (s.arrive update).Tracks where
  sorted := by
    refine List.pairwise_append.mpr ⟨h.sorted, List.pairwise_singleton _ _, ?_⟩
    intro earlier hearlier later hlater
    cases List.mem_singleton.mp hlater
    exact hlast earlier hearlier
  positive other hother := by
    rcases List.mem_append.mp hother with hbefore | hnew
    · exact h.positive other hbefore
    · cases List.mem_singleton.mp hnew
      exact hpositive
  kept := h.kept.append (List.Sublist.refl _)
  offset := h.offset.imp_right fun ⟨other, hother, hle⟩ =>
    ⟨other, List.mem_append_left _ hother, hle⟩
  batch := by
    rw [available_arrive]
    exact h.batch.trans (List.prefix_append _ _)
  work other hwork := List.mem_append_left _ (h.work other hwork)
  retained other hother htext := by
    rcases List.mem_append.mp hother with hbefore | hnew
    · refine (h.retained other hbefore htext).imp_right (Or.imp_right fun havailable => ?_)
      rw [available_arrive]
      exact List.mem_append_left _ havailable
    · cases List.mem_singleton.mp hnew
      refine Or.inr (Or.inr (Lib.Ack.mem_since.mpr ⟨?_, ?_⟩))
      · exact List.mem_append_right _ List.mem_cons_self
      rcases h.offset with hstart | ⟨earlier, hearlier, hnext⟩
      · exact Int.le_trans hstart hpositive
      · exact Int.le_trans hnext (hlast earlier hearlier)

theorem available_acknowledge (s : Polling) : s.acknowledge.available = s.available :=
  Lib.Ack.since_since (Int.le_refl _) s.kept

/-- A request that reaches the server, and the updates that it returns. -/
theorem Tracks.acknowledge (h : s.Tracks) (hidle : s.point = .idle) (count : Nat) :
    Tracks { s.acknowledge with batch := s.available.take count } where
  sorted := h.sorted
  positive := h.positive
  kept := List.filter_sublist.trans h.kept
  offset := h.offset
  batch := by
    show s.available.take count <+: s.acknowledge.available
    rw [available_acknowledge]
    exact List.take_prefix _ _
  work other hwork := by
    simp only [IsAtWork, Polling.acknowledge, hidle] at hwork
  retained other hother htext := by
    refine (h.retained other hother htext).imp_right (Or.imp_right fun havailable => ?_)
    show other ∈ s.acknowledge.available
    rwa [available_acknowledge]

/-- An update is taken: it is at work if it has a text, and the others are still
available. -/
theorem Tracks.take (h : s.Tracks) (hidle : s.point = .idle) {rest : List TelegramUpdate}
    (hbatch : s.batch = update :: rest) : (s.take update rest).Tracks := by
  have hread : (update :: rest) <+: s.available := hbatch ▸ h.batch
  have hkept : update ∈ s.kept :=
    (Lib.Ack.mem_since.mp (hread.subset List.mem_cons_self)).1
  refine ⟨h.sorted, h.positive, h.kept, ?_, ?_, ?_, ?_⟩
  · exact Or.inr ⟨update, h.kept.subset hkept, toInt_next_le update.updateId⟩
  · show rest <+: since TelegramUpdate.number (update.updateId + 1).toInt s.kept
    rcases toInt_next update.updateId with heq | ⟨hmax, -⟩
    · rw [heq]
      exact Lib.Ack.prefix_since_next h.sorted_kept hread
    · -- no number is greater than the last one, so nothing is left of the batch
      cases rest with
      | nil => exact List.nil_prefix
      | cons next more =>
          have hpairs := (Lib.Ack.sorted_since h.sorted_kept s.offset.toInt).sublist hread.sublist
          have hlt := (List.pairwise_cons.mp hpairs).1 next List.mem_cons_self
          have hbound := next.updateId.toInt_lt
          unfold TelegramUpdate.number at hlt
          omega
  · intro other hwork
    cases htext : update.textMessage? with
    | none => simp only [IsAtWork, Polling.take, htext] at hwork
    | some message =>
        simp only [IsAtWork, Polling.take, htext] at hwork
        exact hwork ▸ hkept
  · intro other hother htext
    rcases h.retained other hother htext with hhandled | hwork | havailable
    · exact Or.inl hhandled
    · simp only [IsAtWork, hidle] at hwork
    · rcases Lib.Ack.eq_or_lt_of_mem_since h.sorted_kept hread havailable with rfl | hlt
      · obtain ⟨message, hmessage⟩ := Option.isSome_iff_exists.mp htext
        refine Or.inr (Or.inl ?_)
        simp only [IsAtWork, Polling.take, hmessage]
      · refine Or.inr (Or.inr (Lib.Ack.mem_since.mpr ⟨(Lib.Ack.mem_since.mp havailable).1, ?_⟩))
        exact Int.le_trans (toInt_next_le update.updateId) hlt

theorem Tracks.finish (h : s.Tracks) (hwork : ∀ other, s.IsAtWork other → other = update) :
    (s.finish update).Tracks where
  sorted := h.sorted
  positive := h.positive
  kept := h.kept
  offset := h.offset
  batch := h.batch
  work _ := False.elim
  retained other hother htext := by
    rcases h.retained other hother htext with hhandled | hat | havailable
    · exact Or.inl (List.mem_cons_of_mem _ hhandled)
    · cases hwork other hat
      exact Or.inl List.mem_cons_self
    · exact Or.inr (Or.inr havailable)

/-- Another point in the work on the same update. -/
theorem Tracks.moveTo {point : PollingPoint} (h : s.Tracks)
    (hsame : ∀ other, IsAtWork { s with point := point } other ↔ s.IsAtWork other) :
    Tracks { s with point := point } where
  sorted := h.sorted
  positive := h.positive
  kept := h.kept
  offset := h.offset
  batch := h.batch
  work other hwork := h.work other ((hsame other).mp hwork)
  retained other hother htext :=
    (h.retained other hother htext).imp_right (Or.imp_left (hsame other).mpr)

/-- What was at work is available again after a restart. -/
theorem Tracks.restart (h : s.Tracks) :
    Tracks { s with offset := 0, batch := [], point := .idle } where
  sorted := h.sorted
  positive := h.positive
  kept := h.kept
  offset := Or.inl (Int.le_refl 0)
  batch := List.nil_prefix
  work _ := False.elim
  retained other hother htext := by
    rcases h.retained other hother htext with hhandled | hat | havailable
    · exact Or.inl hhandled
    · exact Or.inr (Or.inr (Lib.Ack.mem_since.mpr ⟨h.work other hat, h.positive other hother⟩))
    · refine Or.inr (Or.inr (Lib.Ack.mem_since.mpr ⟨?_, h.positive other hother⟩))
      exact (Lib.Ack.mem_since.mp havailable).1

/-- What a request does, whatever becomes of it. -/
theorem Tracks.getUpdates (h : s.Tracks) {outcome : PollOutcome}
    (hnext : s.step? (.getUpdates outcome) = some s') : s'.Tracks := by
  simp only [step?] at hnext
  split at hnext
  · rename_i hidle hbatch
    cases outcome with
    | unreached =>
        cases hnext
        exact h
    | unanswered =>
        cases hnext
        have hnone := h.acknowledge hidle 0
        rwa [List.take_zero, ← hbatch] at hnone
    | answered count =>
        cases hnext
        exact h.acknowledge hidle count
  · cases hnext

theorem Tracks.next {label : PollingStep} (h : s.Tracks) (hsucceeds : label.Succeeds)
    (hnext : s.step? label = some s') : s'.Tracks := by
  cases label with
  | arrive update =>
      obtain ⟨hnew, ⟨rfl⟩⟩ := Option.ite_none_right_eq_some.mp hnext
      exact h.arrive hnew.1 hnew.2
  | getUpdates outcome => exact h.getUpdates hnext
  | take =>
      simp only [step?] at hnext
      split at hnext
      · cases hnext
        exact h.take ‹_› ‹_›
      · cases hnext
  | deliverMessage outcome =>
      obtain ⟨result, rfl⟩ := hsucceeds
      simp only [step?] at hnext
      split at hnext
      · rename_i current message hpoint
        split at hnext
        · cases hnext
          refine h.finish fun other hother => ?_
          simp only [IsAtWork, hpoint] at hother
          exact hother.symm
        · cases hnext
          refine h.moveTo fun other => ?_
          simp only [IsAtWork, hpoint]
      · cases hnext
  | sendMessage outcome =>
      cases hsucceeds
      simp only [step?] at hnext
      split at hnext
      · rename_i current chat reply hpoint
        cases hnext
        refine h.finish fun other hother => ?_
        simp only [IsAtWork, hpoint] at hother
        exact hother.symm
      · cases hnext
  | restart =>
      cases hnext
      exact h.restart

theorem tracks_start : start.Tracks := by
  constructor <;> simp [start, available, since, IsAtWork]

theorem tracks_reachable (h : (system fun _ label => label.Succeeds).Reachable s) : s.Tracks := by
  refine h.invariant (P := Tracks) ?_ ?_
  · rintro s rfl
    exact tracks_start
  · intro s label s' hstep hs
    exact hs.next hstep.1 hstep.2

/-! ## No update with text is lost -/

/-- A request that is answered with all that is available returns the update. -/
def Returned (s : Polling) (update : TelegramUpdate) : Prop :=
  ∀ count s', s.available.length ≤ count →
    s.step? (.getUpdates (.answered count)) = some s' → update ∈ s'.batch

theorem returned_of_available (h : update ∈ s.available) : s.Returned update := by
  intro count s' hcount hnext
  simp only [step?] at hnext
  split at hnext
  · cases hnext
    rwa [List.take_of_length_le hcount]
  · cases hnext

/-- As long as neither `DeliverMessage` nor `sendMessage` fails, every update with
text is handled, at work, or returned by a later request. -/
theorem retains (h : (system fun _ label => label.Succeeds).Reachable s) :
    ∀ update ∈ s.arrived, update.textMessage?.isSome →
      update ∈ s.handled ∨ s.IsAtWork update ∨ update ∈ s.available ∧ s.Returned update := by
  intro update hupdate htext
  rcases (tracks_reachable h).retained update hupdate htext with hhandled | hat | havailable
  · exact Or.inl hhandled
  · exact Or.inr (Or.inl hat)
  · exact Or.inr (Or.inr ⟨havailable, returned_of_available havailable⟩)

/-- An update with the text of a message. -/
def greeting (number : Int64) : TelegramUpdate :=
  ⟨number, some ⟨"hi", ⟨7⟩, ⟨"alice"⟩⟩⟩

/-- The connector is started again while the update is with the engine, and the
next request returns it. -/
theorem retains_restart :
    Returned ⟨0, [], .idle, [greeting 8], [greeting 8], []⟩ (greeting 8) := by
  have hplay : System.play step? (fun _ _ => true)
      [.arrive (greeting 8), .getUpdates (.answered 1), .take, .restart] start =
      some ⟨0, [], .idle, [greeting 8], [greeting 8], []⟩ := rfl
  have hrestarted : (system fun _ label => label.Succeeds).Reachable _ :=
    System.reachable_of_play (by simp [PollingStep.Succeeds]) rfl hplay
  rcases retains hrestarted (greeting 8) List.mem_cons_self rfl with hhandled | hat | havailable
  · cases hhandled
  · exact hat.elim
  · exact havailable.2

/-- An update that `DeliverMessage` has failed for is gone after the next request. -/
theorem retains_fails :
    ¬ ∀ s, (system fun _ _ => True).Reachable s →
      ∀ update ∈ s.arrived, update.textMessage?.isSome →
        update ∈ s.handled ∨ s.IsAtWork update ∨ update ∈ s.available ∧ s.Returned update := by
  intro h
  have hplay : System.play step? (fun _ _ => true)
      [.arrive (greeting 8), .getUpdates (.answered 1), .take, .deliverMessage (.error "timeout"),
        .getUpdates (.answered 1)] start =
      some ⟨9, [], .idle, [], [greeting 8], []⟩ := rfl
  have hreach : (system fun _ _ => True).Reachable _ :=
    System.reachable_of_play (fun _ _ _ _ => trivial) rfl hplay
  rcases h _ hreach (greeting 8) List.mem_cons_self rfl with hhandled | hat | havailable
  · cases hhandled
  · exact hat
  · exact absurd havailable.1 (by decide)

end Polling

end OpenPinch
