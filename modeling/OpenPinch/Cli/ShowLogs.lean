import OpenPinch.Common.Crypto
import OpenPinch.Lib.Lines

/-!
# Following the log on the command line

`show_logs` prints the last lines of the log and keeps them in a buffer.  Every
round reads the whole log and prints the lines behind as many as the buffer
holds, which are the new ones only when the buffer held the whole log.
-/

namespace OpenPinch

open Lib.Lines (drop_append_drop_iff dropLast_lines_prefix foldl_pushLast forall_prefix_concat
  forall_step_concat last length_last length_lines_le lines pushLast)

/-! ## Model -/

/-- The carriage return before a newline goes with it. -/
def withoutCr (line : Bytes) : Bytes := if line.getLast? = some 13 then line.dropLast else line

/-- The lines of a log. -/
def logLines (content : Bytes) : List Bytes := lines 10 withoutCr id content

/-- Every line is UTF-8. -/
def Readable (content : Bytes) : Prop := ∀ line ∈ content.splitOn 10, (fromUtf8 line).isSome

instance (content : Bytes) : Decidable (Readable content) :=
  inferInstanceAs (Decidable (∀ _ ∈ _, _))

/-- `Lines::next_line` up to the end, which fails at a line that is no UTF-8. -/
def readLines (content : Bytes) : Option (List Bytes) :=
  if Readable content then some (logLines content) else none

/-- What is printed. -/
inductive LogOutput where
  | json (lines : List Bytes)
  | line (line : Bytes)
deriving DecidableEq, Repr

def LogOutput.lines : LogOutput → List Bytes
  | .json printed => printed
  | .line printed => [printed]

/-- A log, and the command that shows it. -/
structure ShownLog where
  content : Bytes
  output : List LogOutput
  buffer : List Bytes
  /-- The command has returned an error. -/
  failed : Bool
deriving DecidableEq, Repr

namespace ShownLog

/-- The lines that were printed. -/
def shown (log : ShownLog) : List Bytes := log.output.flatMap LogOutput.lines

/-- `show_logs` before its loop. -/
def start (jsonOutput : Bool) (tail : Nat) (content : Bytes) : ShownLog :=
  match readLines content with
  | none => ⟨content, [], [], true⟩
  | some all =>
      let buffer := all.foldl (pushLast tail) []
      ⟨content, if jsonOutput then [.json buffer] else buffer.map .line, buffer, false⟩

/-- Something is appended to the log, and one round of the loop. -/
def append (log : ShownLog) (more : Bytes) : ShownLog :=
  if log.failed then { log with content := log.content ++ more }
  else
    match readLines (log.content ++ more) with
    | none => { log with content := log.content ++ more, failed := true }
    | some latest =>
        if log.buffer.length < latest.length then
          { log with
            content := log.content ++ more
            output := log.output ++ (latest.drop log.buffer.length).map .line
            buffer := latest }
        else { log with content := log.content ++ more }

end ShownLog

/-- `show_logs` with `follow`, after so many appends. -/
def showLogs (jsonOutput : Bool) (tail : Nat) (content : Bytes) (appends : List Bytes) : ShownLog :=
  appends.foldl ShownLog.append (.start jsonOutput tail content)

/-! ## The lines that are shown -/

theorem flatMap_line (printed : List Bytes) :
    (printed.map LogOutput.line).flatMap LogOutput.lines = printed := by
  induction printed with
  | nil => rfl
  | cons line rest ih => simp [LogOutput.lines, ih]

namespace ShownLog

variable {log : ShownLog} {jsonOutput : Bool} {tail : Nat} {content : Bytes}

/-- The command goes on, and the lines it has shown are all but the first `d`. -/
structure Exact (d : Nat) (log : ShownLog) : Prop where
  goesOn : log.failed = false
  shown : log.shown = (logLines log.content).drop d

/-- The buffer holds as many lines as were shown. -/
def Counted (log : ShownLog) : Prop := log.failed = false → log.buffer.length = log.shown.length

theorem start_readable (jsonOutput : Bool) (tail : Nat) (h : Readable content) :
    (start jsonOutput tail content).failed = false ∧
      (start jsonOutput tail content).shown = last tail (logLines content) ∧
      (start jsonOutput tail content).buffer = last tail (logLines content) := by
  unfold start readLines shown
  rw [if_pos h]
  cases jsonOutput with
  | true => simp [foldl_pushLast, LogOutput.lines]
  | false => simp [foldl_pushLast, flatMap_line]

theorem start_unreadable (h : ¬ Readable content) :
    (start jsonOutput tail content).failed = true := by
  unfold start readLines
  rw [if_neg h]

theorem start_content (jsonOutput : Bool) (tail : Nat) (content : Bytes) :
    (start jsonOutput tail content).content = content := by
  unfold start
  split <;> rfl

theorem append_content (log : ShownLog) (more : Bytes) :
    (log.append more).content = log.content ++ more := by
  unfold append
  split
  · rfl
  · split
    · rfl
    · split <;> rfl

theorem append_unreadable (log : ShownLog) {more : Bytes} (h : ¬ Readable (log.content ++ more)) :
    (log.append more).failed = true := by
  unfold append readLines
  cases hfailed : log.failed with
  | true => simp
  | false => simp [h]

/-- A round shows what is behind as many lines as the buffer holds. -/
theorem append_readable (hgoes : log.failed = false) {more : Bytes}
    (h : Readable (log.content ++ more)) :
    (log.append more).failed = false ∧
      (log.append more).shown =
        log.shown ++ (logLines (log.content ++ more)).drop log.buffer.length ∧
      (log.append more).buffer.length =
        max log.buffer.length (logLines (log.content ++ more)).length := by
  unfold append readLines shown
  rw [if_neg (by simp [hgoes]), if_pos h]
  by_cases hmore : log.buffer.length < (logLines (log.content ++ more)).length
  · simp only [if_pos hmore, List.flatMap_append, flatMap_line]
    exact ⟨hgoes, trivial, by omega⟩
  · have hnone := List.drop_eq_nil_of_le (Nat.le_of_not_lt hmore)
    simp only [if_neg hmore, hnone, List.append_nil]
    exact ⟨hgoes, trivial, by omega⟩

theorem counted_start (jsonOutput : Bool) (tail : Nat) (content : Bytes) :
    (start jsonOutput tail content).Counted := by
  intro hgoes
  by_cases h : Readable content
  · obtain ⟨-, hshown, hbuffer⟩ := start_readable jsonOutput tail h
    rw [hshown, hbuffer]
  · rw [start_unreadable h] at hgoes
    cases hgoes

theorem Counted.append (hcounted : log.Counted) (more : Bytes) : (log.append more).Counted := by
  intro hgoes'
  by_cases h : Readable (log.content ++ more)
  · cases hgoes : log.failed with
    | true =>
        unfold ShownLog.append at hgoes'
        simp [hgoes] at hgoes'
    | false =>
        obtain ⟨-, hshown, hbuffer⟩ := append_readable hgoes h
        rw [hshown, hbuffer, List.length_append, List.length_drop, ← hcounted hgoes]
        omega
  · rw [append_unreadable log h] at hgoes'
    cases hgoes'

/-- With the whole log shown, a round shows exactly what was appended when the log can be
read and keeps its lines. -/
theorem exact_append_iff (hcounted : log.Counted) (hexact : log.Exact 0) (more : Bytes) :
    (log.append more).Exact 0 ↔
      Readable (log.content ++ more) ∧ logLines log.content <+: logLines (log.content ++ more) := by
  obtain ⟨hgoes, hshown⟩ := hexact
  have hfixed : (logLines log.content).dropLast <+: logLines (log.content ++ more) :=
    dropLast_lines_prefix log.content more
  have hbefore : logLines log.content = [] ∧ 0 = 0 ∨ 0 < (logLines log.content).length := by
    cases logLines log.content <;> simp
  have hsplit := drop_append_drop_iff hfixed hbefore (length_lines_le log.content more)
  have hbuffer : log.buffer.length = (logLines log.content).length := by
    rw [hcounted hgoes, hshown, List.drop_zero]
  rw [List.drop_zero, List.drop_zero] at hsplit
  rw [List.drop_zero] at hshown
  constructor
  · rintro ⟨hgoes', hshown'⟩
    by_cases h : Readable (log.content ++ more)
    · obtain ⟨-, happend, -⟩ := append_readable hgoes h
      rw [append_content, List.drop_zero] at hshown'
      rw [hshown', hshown, hbuffer] at happend
      exact ⟨h, (hsplit.mp happend.symm).1⟩
    · rw [append_unreadable log h] at hgoes'
      cases hgoes'
  · rintro ⟨h, hkeeps⟩
    obtain ⟨hgoes', happend, -⟩ := append_readable hgoes h
    refine ⟨hgoes', ?_⟩
    rw [append_content, List.drop_zero, happend, hshown, hbuffer]
    exact hsplit.mpr ⟨hkeeps, rfl⟩

/-- The last lines are shown first when the log can be read. -/
theorem exact_start_iff (jsonOutput : Bool) (tail : Nat) (content : Bytes) :
    (start jsonOutput tail content).Exact ((logLines content).length - tail) ↔
      Readable content := by
  constructor
  · rintro ⟨hgoes, -⟩
    by_contra h
    rw [start_unreadable h] at hgoes
    cases hgoes
  · intro h
    obtain ⟨hgoes, hshown, -⟩ := start_readable jsonOutput tail h
    exact ⟨hgoes, by rw [hshown, start_content]; rfl⟩

/-- The first round shows lines of a longer log again. -/
theorem not_exact_append_start {more : Bytes} (hlong : tail < (logLines content).length) :
    ¬ ((start jsonOutput tail content).append more).Exact ((logLines content).length - tail) := by
  rintro ⟨hgoes, hshown⟩
  by_cases hstart : Readable content
  · obtain ⟨hopen, hfirst, hbuffer⟩ := start_readable jsonOutput tail hstart
    by_cases h : Readable ((start jsonOutput tail content).content ++ more)
    · obtain ⟨-, happend, -⟩ := append_readable hopen h
      rw [hshown, append_content, start_content, hfirst, hbuffer, length_last] at happend
      have hgrows : (logLines content).length ≤ (logLines (content ++ more)).length :=
        length_lines_le content more
      have hlens := congrArg List.length happend
      simp only [List.length_append, List.length_drop, length_last] at hlens
      omega
    · rw [append_unreadable _ h] at hgoes
      cases hgoes
  · unfold ShownLog.append at hgoes
    simp [start_unreadable hstart] at hgoes

end ShownLog

/-! ## Runs -/

/-- After each append, the command goes on and has shown the last `tail` lines that were
there first, and behind them every line that was appended. -/
def ShowsOnce (jsonOutput : Bool) (tail : Nat) (content : Bytes) (appends : List Bytes) : Prop :=
  ∀ done, done <+: appends →
    (showLogs jsonOutput tail content done).Exact ((logLines content).length - tail)

/-- The log can always be read, every append keeps its lines, and the log is at most a tail
long when something is appended to it. -/
structure ShowFits (tail : Nat) (content : Bytes) (appends : List Bytes) : Prop where
  readable : ∀ done, done <+: appends → Readable (content ++ done.flatten)
  keeps : ∀ done more, done ++ [more] <+: appends →
    logLines (content ++ done.flatten) <+: logLines (content ++ done.flatten ++ more)
  short : appends = [] ∨ (logLines content).length ≤ tail

variable {jsonOutput : Bool} {tail : Nat} {content : Bytes}

theorem showLogs_snoc (content : Bytes) (appends : List Bytes) (more : Bytes) :
    showLogs jsonOutput tail content (appends ++ [more]) =
      (showLogs jsonOutput tail content appends).append more := by
  rw [showLogs, List.foldl_append]
  rfl

theorem showLogs_content (content : Bytes) (appends : List Bytes) :
    (showLogs jsonOutput tail content appends).content = content ++ appends.flatten := by
  induction appends using List.reverseRecOn with
  | nil => simp [showLogs, ShownLog.start_content]
  | append_singleton appends more ih => simp [showLogs_snoc, ShownLog.append_content, ih]

theorem counted_showLogs (content : Bytes) (appends : List Bytes) :
    (showLogs jsonOutput tail content appends).Counted := by
  induction appends using List.reverseRecOn with
  | nil => exact ShownLog.counted_start jsonOutput tail content
  | append_singleton appends more ih =>
      rw [showLogs_snoc]
      exact ih.append more

/-- A log that was shown wholly at first is followed exactly as long as it can be read and
keeps its lines. -/
theorem showsOnce_short_iff (hshort : (logLines content).length ≤ tail) (appends : List Bytes) :
    ShowsOnce jsonOutput tail content appends ↔
      (∀ done, done <+: appends → Readable (content ++ done.flatten)) ∧
        ∀ done more, done ++ [more] <+: appends →
          logLines (content ++ done.flatten) <+: logLines (content ++ done.flatten ++ more) := by
  have hall : (logLines content).length - tail = 0 := Nat.sub_eq_zero_of_le hshort
  induction appends using List.reverseRecOn with
  | nil =>
      have hstart := ShownLog.exact_start_iff jsonOutput tail content
      simpa [ShowsOnce, showLogs] using hstart
  | append_singleton appends more ih =>
      have hflat : content ++ (appends ++ [more]).flatten = content ++ appends.flatten ++ more := by
        simp
      rw [ShowsOnce, forall_prefix_concat, forall_prefix_concat, forall_step_concat, hflat,
        showLogs_snoc]
      have hround : (showLogs jsonOutput tail content appends).Exact 0 →
          (((showLogs jsonOutput tail content appends).append more).Exact 0 ↔
            Readable (content ++ appends.flatten ++ more) ∧
              logLines (content ++ appends.flatten) <+:
                logLines (content ++ appends.flatten ++ more)) := by
        intro hexact
        have hstep := ShownLog.exact_append_iff (counted_showLogs content appends) hexact more
        rwa [showLogs_content] at hstep
      rw [hall]
      rw [ShowsOnce, hall] at ih
      constructor
      · rintro ⟨hbefore, hlast⟩
        obtain ⟨hreadable, hkeeps⟩ := ih.mp hbefore
        obtain ⟨hread, hkeep⟩ := (hround (hbefore appends (List.prefix_refl _))).mp hlast
        exact ⟨⟨hreadable, hread⟩, hkeeps, hkeep⟩
      · rintro ⟨⟨hreadable, hread⟩, hkeeps, hkeep⟩
        have hbefore := ih.mpr ⟨hreadable, hkeeps⟩
        exact ⟨hbefore, (hround (hbefore appends (List.prefix_refl _))).mpr ⟨hread, hkeep⟩⟩

/-- The command shows each line once exactly when it can read the log and follows none that
was longer than the tail. -/
theorem showLogs_showsOnce_iff (jsonOutput : Bool) (tail : Nat) (content : Bytes)
    (appends : List Bytes) :
    ShowsOnce jsonOutput tail content appends ↔ ShowFits tail content appends := by
  by_cases hshort : (logLines content).length ≤ tail
  · rw [showsOnce_short_iff hshort]
    exact ⟨fun h => ⟨h.1, h.2, .inr hshort⟩, fun h => ⟨h.readable, h.keeps⟩⟩
  · cases appends with
    | nil =>
        have hstart := ShownLog.exact_start_iff jsonOutput tail content
        constructor
        · intro h
          have hreadable := hstart.mp (h [] (List.prefix_refl _))
          refine ⟨fun done hdone => ?_, fun done more hdone => ?_, .inl rfl⟩
          · rw [List.prefix_nil.mp hdone, List.flatten_nil, List.append_nil]
            exact hreadable
          · exact absurd (List.prefix_nil.mp hdone) (by simp)
        · intro h done hdone
          rw [List.prefix_nil.mp hdone]
          exact hstart.mpr (by simpa using h.readable [] (List.prefix_refl _))
    | cons more rest =>
        constructor
        · intro h
          have hfirst := h [more] (by simp)
          exact absurd hfirst (ShownLog.not_exact_append_start (Nat.lt_of_not_le hshort))
        · intro h
          exact absurd (h.short.resolve_left (by simp)) hshort

/-- The last two lines of three are shown, `d` is appended, and `c` is shown again. -/
theorem showLogs_showsOnce_fails :
    ¬ ShowsOnce false 2 [97, 10, 98, 10, 99, 10] [[100, 10]] := by
  intro h
  have hshown := (h _ (List.prefix_refl _)).shown
  have hrun : (showLogs false 2 [97, 10, 98, 10, 99, 10] [[100, 10]]).shown =
      [[98], [99], [99], [100]] := by
    decide
  rw [hrun] at hshown
  exact absurd hshown (by decide)

end OpenPinch
