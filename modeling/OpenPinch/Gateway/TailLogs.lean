import OpenPinch.Externals
import OpenPinch.Lib.Lines

/-!
# Following the log in the gateway

`TailLogs` sends the last lines of the log, and then asks again and again for the
last `tail + seen` lines, of which it skips the first `seen`.  What it has sent
is the end of the log only as long as the appends keep to the size of the tail.
-/

namespace OpenPinch

open Lib.Lines (drop_append_drop_iff dropLast_lines_prefix foldl_pushLast forall_prefix_concat
  forall_step_concat last length_last length_lines_le lines lines_append pushLast)

/-! ## Model -/

/-- `dropCR` of `bufio`. -/
def dropCr (line : Bytes) : Bytes := if line.getLast? = some 13 then line.dropLast else line

/-- What `bufio.Scanner` reads with `ScanLines`, of lines below `bufio.MaxScanTokenSize`.  It
stops at a line of 64 KiB or more, which is not modelled. -/
def scanLines (content : Bytes) : List Bytes := lines 10 dropCr dropCr content

/-- `tailFile`. -/
def tailFile (content : Bytes) (tail : Nat) : List Bytes :=
  (scanLines content).foldl (fun kept line =>
    if 0 < tail ∧ tail < (kept ++ [line]).length then (kept ++ [line]).tail else kept ++ [line]) []

/-- The stream of a call, and the loop that feeds it. -/
structure LogStream where
  sent : List Bytes
  seen : Nat
  /-- `SendMsg` has returned an error. -/
  ended : Bool
deriving DecidableEq, Repr

section

variable (accepts : Bytes → Bool) (tail : Nat)

/-- `SendMsg` for each line, up to the first one that it does not accept. -/
def LogStream.send (stream : LogStream) : List Bytes → LogStream
  | [] => stream
  | line :: rest =>
      if accepts line then LogStream.send { stream with sent := stream.sent ++ [line] } rest
      else { stream with ended := true }

/-- `Service.TailLogs` before its loop. -/
def LogStream.start (content : Bytes) : LogStream :=
  { LogStream.send accepts ⟨[], 0, false⟩ (tailFile content tail) with
    seen := (tailFile content tail).length }

/-- One round of the loop. -/
def LogStream.poll (content : Bytes) (stream : LogStream) : LogStream :=
  if stream.ended then stream
  else
    let latest := tailFile content (tail + stream.seen)
    if latest.length ≤ stream.seen then stream
    else { stream.send accepts (latest.drop stream.seen) with seen := latest.length }

/-- The log, and a stream that follows it. -/
structure LogFollow where
  content : Bytes
  stream : LogStream

/-- Something is appended to the log before the next round. -/
def LogFollow.append (follow : LogFollow) (more : Bytes) : LogFollow :=
  ⟨follow.content ++ more, follow.stream.poll accepts tail (follow.content ++ more)⟩

/-- `Service.TailLogs` with `follow`, after so many appends. -/
def tailLogs (content : Bytes) (appends : List Bytes) : LogFollow :=
  appends.foldl (LogFollow.append accepts tail) ⟨content, .start accepts tail content⟩

end

/-! ## Reading the end of the log -/

/-- Keeping at most so many lines keeps the last ones. -/
theorem tailFile_eq (content : Bytes) (tail : Nat) :
    tailFile content tail =
      if tail = 0 then scanLines content else last tail (scanLines content) := by
  unfold tailFile
  generalize scanLines content = all
  by_cases htail : tail = 0
  · subst htail
    rw [if_pos rfl]
    induction all using List.reverseRecOn with
    | nil => rfl
    | append_singleton all line ih =>
        rw [List.foldl_append, ih, List.foldl_cons, List.foldl_nil, if_neg (by omega)]
  · rw [if_neg htail, ← foldl_pushLast]
    congr 1
    funext kept line
    simp [pushLast, Nat.pos_of_ne_zero htail]

/-! ## The lines that are sent -/

variable {accepts : Bytes → Bool} {tail : Nat}

theorem send_accepted {stream : LogStream} {sending : List Bytes}
    (h : ∀ line ∈ sending, accepts line = true) :
    stream.send accepts sending = { stream with sent := stream.sent ++ sending } := by
  induction sending generalizing stream with
  | nil => simp [LogStream.send]
  | cons line rest ih =>
      obtain ⟨hline, hrest⟩ := List.forall_mem_cons.mp h
      simp [LogStream.send, hline, ih hrest]

theorem send_ended {stream : LogStream} {sending : List Bytes}
    (h : ¬ ∀ line ∈ sending, accepts line = true) :
    (stream.send accepts sending).ended = true := by
  induction sending generalizing stream with
  | nil => exact absurd (fun line hline => absurd hline List.not_mem_nil) h
  | cons line rest ih =>
      cases hline : accepts line with
      | true =>
          simp only [LogStream.send, hline, if_true]
          exact ih fun hrest => h (List.forall_mem_cons.mpr ⟨hline, hrest⟩)
      | false => simp [LogStream.send, hline]

/-- As long as the stream goes on, the lines that were seen are those that were sent. -/
def LogStream.Counted (accepts : Bytes → Bool) (stream : LogStream) : Prop :=
  stream.ended = false →
    stream.seen = stream.sent.length ∧ ∀ line ∈ stream.sent, accepts line = true

theorem counted_start (content : Bytes) :
    (LogStream.start accepts tail content).Counted accepts := by
  intro hopen
  unfold LogStream.start at hopen ⊢
  by_cases haccepted : ∀ line ∈ tailFile content tail, accepts line = true
  · rw [send_accepted haccepted]
    simpa using haccepted
  · rw [send_ended haccepted] at hopen
    cases hopen

/-- Where the lines begin that a round sends. -/
def LogStream.resume (tail : Nat) (stream : LogStream) (content : Bytes) : Nat :=
  if (tailFile content (tail + stream.seen)).length ≤ stream.seen then (scanLines content).length
  else
    (scanLines content).length - (tailFile content (tail + stream.seen)).length + stream.seen

theorem tailFile_drop (content : Bytes) (tail : Nat) :
    tailFile content tail =
      (scanLines content).drop ((scanLines content).length - (tailFile content tail).length) := by
  rw [tailFile_eq]
  split
  · simp
  · rw [length_last]
    unfold last
    congr 1
    omega

theorem drop_resume (tail : Nat) (stream : LogStream) (content : Bytes) :
    (scanLines content).drop (stream.resume tail content) =
      (tailFile content (tail + stream.seen)).drop stream.seen := by
  unfold LogStream.resume
  split
  · rename_i hnone
    rw [List.drop_length, List.drop_eq_nil_of_le hnone]
  · rw [← List.drop_drop, ← tailFile_drop]

theorem resume_le (tail : Nat) (stream : LogStream) (content : Bytes) :
    stream.resume tail content ≤ (scanLines content).length := by
  unfold LogStream.resume
  have hlen := congrArg List.length (tailFile_drop content (tail + stream.seen))
  rw [List.length_drop] at hlen
  split <;> omega

/-- A round sends the lines from one on, or ends the stream. -/
theorem poll_open {stream : LogStream} (hopen : stream.ended = false) {content : Bytes}
    (haccepted : ∀ line ∈ (scanLines content).drop (stream.resume tail content),
      accepts line = true) :
    (stream.poll accepts tail content).ended = false ∧
      (stream.poll accepts tail content).sent =
        stream.sent ++ (scanLines content).drop (stream.resume tail content) ∧
      (stream.poll accepts tail content).seen =
        max stream.seen (tailFile content (tail + stream.seen)).length := by
  rw [drop_resume] at haccepted ⊢
  unfold LogStream.poll
  rw [if_neg (by simp [hopen])]
  by_cases hnone : (tailFile content (tail + stream.seen)).length ≤ stream.seen
  · simp [hnone, hopen, List.drop_eq_nil_of_le]
  · rw [if_neg hnone, send_accepted haccepted]
    have hmax := Nat.max_eq_right (Nat.le_of_not_le hnone)
    exact ⟨hopen, rfl, hmax.symm⟩

theorem poll_ended {stream : LogStream} {content : Bytes}
    (haccepted : ¬ ∀ line ∈ (scanLines content).drop (stream.resume tail content),
      accepts line = true) :
    (stream.poll accepts tail content).ended = true := by
  rw [drop_resume] at haccepted
  unfold LogStream.poll
  cases hopen : stream.ended with
  | true => simp [hopen]
  | false =>
      have hsome : ¬ (tailFile content (tail + stream.seen)).length ≤ stream.seen := fun hnone =>
        haccepted fun line hline => by
          rw [List.drop_eq_nil_of_le hnone] at hline
          exact absurd hline List.not_mem_nil
      simp only [Bool.false_eq_true, if_false, if_neg hsome]
      exact send_ended haccepted

theorem LogStream.Counted.poll {stream : LogStream} (h : stream.Counted accepts)
    (content : Bytes) : (stream.poll accepts tail content).Counted accepts := by
  intro hopen'
  by_cases haccepted : ∀ line ∈ (scanLines content).drop (stream.resume tail content),
      accepts line = true
  · cases hopen : stream.ended with
    | true =>
        have hsame : stream.poll accepts tail content = stream := by
          rw [LogStream.poll, if_pos hopen]
        rw [hsame, hopen] at hopen'
        cases hopen'
    | false =>
        obtain ⟨-, hsent, hseen⟩ := poll_open hopen haccepted
        obtain ⟨hcount, hold⟩ := h hopen
        rw [hsent, hseen]
        constructor
        · rw [List.length_append, drop_resume, List.length_drop]
          omega
        · intro line hline
          rcases List.mem_append.mp hline with hline | hline
          · exact hold line hline
          · exact haccepted line hline
  · rw [poll_ended haccepted] at hopen'
    cases hopen'

/-! ## Exact following -/

/-- How many of the first lines are not sent. -/
def skipped (tail : Nat) (content : Bytes) : Nat :=
  if tail = 0 then 0 else (scanLines content).length - tail

/-- The stream goes on, and what it has sent are all lines but the first `d`. -/
structure LogFollow.Exact (d : Nat) (follow : LogFollow) : Prop where
  goesOn : follow.stream.ended = false
  sent : follow.stream.sent = (scanLines follow.content).drop d

/-- An append that keeps the lines and fits to the tail: with no tail nothing may have been
there or nothing is added; when all lines were sent, at most a tail is added; otherwise
exactly a tail. -/
structure AppendFits (tail d : Nat) (before after : List Bytes) : Prop where
  keeps : before <+: after
  fits : if tail = 0 then before = [] ∨ after.length = before.length
    else if d = 0 then after.length ≤ before.length + tail
    else after.length = before.length + tail

theorem length_tailFile (content : Bytes) (tail : Nat) :
    (tailFile content tail).length =
      if tail = 0 then (scanLines content).length else min tail (scanLines content).length := by
  rw [tailFile_eq]
  split
  · rfl
  · exact length_last _ _

/-- Where a round resumes when all lines but the first `d` of `n` were seen. -/
theorem resume_eq_iff {stream : LogStream} {content : Bytes} {n d : Nat}
    (hseen : stream.seen = n - d) (hd : n = 0 ∧ d = 0 ∨ d < n) (htail : tail = 0 → d = 0)
    (hkeeps : n ≤ (scanLines content).length) :
    stream.resume tail content = n ↔
      if tail = 0 then n = 0 ∨ (scanLines content).length = n
      else if d = 0 then (scanLines content).length ≤ n + tail
      else (scanLines content).length = n + tail := by
  unfold LogStream.resume
  rw [length_tailFile, hseen]
  generalize (scanLines content).length = all at hkeeps ⊢
  by_cases hnone : tail = 0
  · have hd0 := htail hnone
    simp only [if_pos hnone]
    split <;> split <;> omega
  · simp only [if_neg hnone, if_neg (show tail + (n - d) ≠ 0 by omega)]
    split <;> split <;> omega

/-- One round sends exactly what was appended when the append fits. -/
theorem exact_append_iff {follow : LogFollow} {d : Nat} (hcounted : follow.stream.Counted accepts)
    (hexact : follow.Exact d) (hd : scanLines follow.content = [] ∧ d = 0 ∨
      d < (scanLines follow.content).length) (htail : tail = 0 → d = 0) (more : Bytes) :
    (follow.append accepts tail more).Exact d ↔
      AppendFits tail d (scanLines follow.content) (scanLines (follow.content ++ more)) ∧
        ∀ line ∈ (scanLines (follow.content ++ more)).drop d, accepts line = true := by
  obtain ⟨hopen, hsent⟩ := hexact
  obtain ⟨hseen, haccepted⟩ := hcounted hopen
  have hfixed : (scanLines follow.content).dropLast <+: scanLines (follow.content ++ more) :=
    dropLast_lines_prefix follow.content more
  have hsplit := drop_append_drop_iff hfixed hd
    (resume_le tail follow.stream (follow.content ++ more))
  rw [← hsent] at hsplit
  have hcount : follow.stream.seen = (scanLines follow.content).length - d := by
    rw [hseen, hsent, List.length_drop]
  have hd' : (scanLines follow.content).length = 0 ∧ d = 0 ∨
      d < (scanLines follow.content).length := hd.imp (And.imp_left List.length_eq_zero_iff.mpr) id
  have hfits : follow.stream.sent ++ (scanLines (follow.content ++ more)).drop
      (follow.stream.resume tail (follow.content ++ more)) =
        (scanLines (follow.content ++ more)).drop d ↔
      AppendFits tail d (scanLines follow.content) (scanLines (follow.content ++ more)) := by
    rw [hsplit]
    constructor
    · rintro ⟨hkeeps, hresume⟩
      refine ⟨hkeeps, ?_⟩
      simpa [List.length_eq_zero_iff] using
        (resume_eq_iff hcount hd' htail hkeeps.length_le).mp hresume
    · rintro ⟨hkeeps, hfits⟩
      refine ⟨hkeeps, (resume_eq_iff hcount hd' htail hkeeps.length_le).mpr ?_⟩
      simpa [List.length_eq_zero_iff] using hfits
  rw [← hfits]
  constructor
  · rintro ⟨hopen', hsent'⟩
    have hall : ∀ line ∈ (scanLines (follow.content ++ more)).drop
        (follow.stream.resume tail (follow.content ++ more)), accepts line = true := by
      by_contra hnot
      have hended : (follow.append accepts tail more).stream.ended = true := poll_ended hnot
      rw [hended] at hopen'
      cases hopen'
    obtain ⟨-, hpoll, -⟩ := poll_open hopen hall
    have hsame := hpoll.symm.trans hsent'
    refine ⟨hsame, fun line hline => ?_⟩
    rcases List.mem_append.mp (hsame ▸ hline) with hline | hline
    · exact haccepted line hline
    · exact hall line hline
  · rintro ⟨hsame, hall⟩
    have hnew : ∀ line ∈ (scanLines (follow.content ++ more)).drop
        (follow.stream.resume tail (follow.content ++ more)), accepts line = true :=
      fun line hline => hall line (hsame ▸ List.mem_append_right _ hline)
    obtain ⟨hopen', hpoll, -⟩ := poll_open hopen hnew
    exact ⟨hopen', hpoll.trans hsame⟩

/-! ## Runs -/

section

variable (accepts : Bytes → Bool) (tail : Nat) (content : Bytes)

/-- After each append, the stream goes on and has sent the last `tail` lines that were
there first, or all of them without a tail, and behind them every line that was appended. -/
def EmitsOnce (appends : List Bytes) : Prop :=
  ∀ done, done <+: appends →
    (tailLogs accepts tail content done).Exact (skipped tail content)

/-- Every append fits to the tail, and every line that is due is accepted. -/
structure FollowFits (appends : List Bytes) : Prop where
  accepted : ∀ done, done <+: appends →
    ∀ line ∈ (scanLines (content ++ done.flatten)).drop (skipped tail content), accepts line = true
  fits : ∀ done more, done ++ [more] <+: appends →
    AppendFits tail (skipped tail content) (scanLines (content ++ done.flatten))
      (scanLines (content ++ done.flatten ++ more))

end

theorem tailLogs_snoc (content : Bytes) (appends : List Bytes) (more : Bytes) :
    tailLogs accepts tail content (appends ++ [more]) =
      (tailLogs accepts tail content appends).append accepts tail more := by
  rw [tailLogs, List.foldl_append]
  rfl

theorem tailLogs_content (content : Bytes) (appends : List Bytes) :
    (tailLogs accepts tail content appends).content = content ++ appends.flatten := by
  induction appends using List.reverseRecOn with
  | nil => simp [tailLogs]
  | append_singleton appends more ih => simp [tailLogs_snoc, LogFollow.append, ih]

theorem counted_tailLogs (content : Bytes) (appends : List Bytes) :
    (tailLogs accepts tail content appends).stream.Counted accepts := by
  induction appends using List.reverseRecOn with
  | nil => exact counted_start content
  | append_singleton appends more ih =>
      rw [tailLogs_snoc]
      exact ih.poll _

theorem length_scanLines_le (content : Bytes) (appends : List Bytes) :
    (scanLines content).length ≤ (scanLines (content ++ appends.flatten)).length :=
  length_lines_le content appends.flatten

theorem skipped_lt (tail : Nat) (content : Bytes) (appends : List Bytes) :
    scanLines (content ++ appends.flatten) = [] ∧ skipped tail content = 0 ∨
      skipped tail content < (scanLines (content ++ appends.flatten)).length := by
  have hlen := length_scanLines_le content appends
  unfold skipped
  cases hlines : scanLines (content ++ appends.flatten) with
  | nil =>
      rw [hlines] at hlen
      left
      refine ⟨rfl, ?_⟩
      simp only [List.length_nil] at hlen
      split <;> omega
  | cons line rest =>
      rw [hlines] at hlen
      right
      simp only [List.length_cons] at hlen ⊢
      split <;> omega

/-- The first lines that are sent are the last ones that are there. -/
theorem exact_start_iff (content : Bytes) :
    (tailLogs accepts tail content []).Exact (skipped tail content) ↔
      ∀ line ∈ (scanLines content).drop (skipped tail content), accepts line = true := by
  have hlines : tailFile content tail = (scanLines content).drop (skipped tail content) := by
    rw [tailFile_eq, skipped]
    split <;> rfl
  rw [← hlines]
  constructor
  · rintro ⟨hopen, -⟩
    by_contra hnot
    rw [show (tailLogs accepts tail content []).stream.ended = true from send_ended hnot] at hopen
    cases hopen
  · intro hall
    have hstart : (tailLogs accepts tail content []).stream =
        { (⟨tailFile content tail, 0, false⟩ : LogStream) with
          seen := (tailFile content tail).length } := by
      rw [tailLogs, List.foldl_nil, LogStream.start, send_accepted hall]
      rfl
    exact ⟨by rw [hstart], by rw [hstart, hlines]; rfl⟩

theorem followFits_snoc (content : Bytes) (appends : List Bytes) (more : Bytes) :
    FollowFits accepts tail content (appends ++ [more]) ↔
      FollowFits accepts tail content appends ∧
        AppendFits tail (skipped tail content) (scanLines (content ++ appends.flatten))
          (scanLines (content ++ appends.flatten ++ more)) ∧
        ∀ line ∈ (scanLines (content ++ appends.flatten ++ more)).drop (skipped tail content),
          accepts line = true := by
  have hall : content ++ (appends ++ [more]).flatten = content ++ appends.flatten ++ more := by
    simp
  constructor
  · rintro ⟨haccepted, hfits⟩
    obtain ⟨haccepted, hlines⟩ := forall_prefix_concat.mp haccepted
    obtain ⟨hfits, hlast⟩ := forall_step_concat.mp hfits
    exact ⟨⟨haccepted, hfits⟩, hlast, hall ▸ hlines⟩
  · rintro ⟨⟨haccepted, hfits⟩, hlast, hlines⟩
    exact ⟨forall_prefix_concat.mpr ⟨haccepted, hall ▸ hlines⟩,
      forall_step_concat.mpr ⟨hfits, hlast⟩⟩

/-- The call emits each line once exactly when every append fits to the tail. -/
theorem tailLogs_emitsOnce_iff (accepts : Bytes → Bool) (tail : Nat) (content : Bytes)
    (appends : List Bytes) :
    EmitsOnce accepts tail content appends ↔ FollowFits accepts tail content appends := by
  induction appends using List.reverseRecOn with
  | nil =>
      constructor
      · intro h
        refine ⟨fun done hdone => ?_, fun done more hdone => ?_⟩
        · rw [List.prefix_nil.mp hdone, List.flatten_nil, List.append_nil]
          exact (exact_start_iff content).mp (h [] (List.prefix_refl _))
        · exact absurd (List.prefix_nil.mp hdone) (by simp)
      · intro h done hdone
        rw [List.prefix_nil.mp hdone]
        exact (exact_start_iff content).mpr (by simpa using h.accepted [] (List.prefix_refl _))
  | append_singleton appends more ih =>
      have hstep : (tailLogs accepts tail content appends).Exact (skipped tail content) →
          ((tailLogs accepts tail content (appends ++ [more])).Exact (skipped tail content) ↔
            AppendFits tail (skipped tail content) (scanLines (content ++ appends.flatten))
                (scanLines (content ++ appends.flatten ++ more)) ∧
              ∀ line ∈ (scanLines (content ++ appends.flatten ++ more)).drop
                (skipped tail content), accepts line = true) := by
        intro hexact
        have hround := exact_append_iff (counted_tailLogs content appends) hexact
          (by rw [tailLogs_content]; exact skipped_lt tail content appends)
          (fun hnone => if_pos hnone) more
        rw [tailLogs_content] at hround
        rw [tailLogs_snoc]
        exact hround
      rw [EmitsOnce, forall_prefix_concat, followFits_snoc, ← ih]
      exact and_congr_right fun hbefore => hstep (hbefore appends (List.prefix_refl _))

/-- The last two lines `b` and `c` of three are sent, `d` is appended, and `c` is sent again. -/
theorem tailLogs_emitsOnce_fails :
    ¬ EmitsOnce (fun _ => true) 2 [97, 10, 98, 10, 99, 10] [[100, 10]] := by
  intro h
  have hsent := (h _ (List.prefix_refl _)).sent
  have hrun : (tailLogs (fun _ => true) 2 [97, 10, 98, 10, 99, 10] [[100, 10]]).stream.sent =
      [[98], [99], [99], [100]] := by
    decide
  rw [hrun] at hsent
  exact absurd hsent (by decide)

/-- Lines that are appended whole to whole lines fit when all lines were sent first and no
more than a tail is appended at a time. -/
theorem appendFits_of_whole {content more : Bytes} (hrest : Lib.Lines.rest 10 content = [])
    (htail : tail ≠ 0) (hmore : (scanLines more).length ≤ tail) :
    AppendFits tail 0 (scanLines content) (scanLines (content ++ more)) := by
  have hlines : scanLines (content ++ more) = scanLines content ++ scanLines more :=
    lines_append hrest more
  refine ⟨hlines ▸ List.prefix_append _ _, ?_⟩
  rw [if_neg htail, if_pos rfl, hlines, List.length_append]
  omega

end OpenPinch
