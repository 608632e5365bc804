import Taskweave.Proofs.Run.Sessions
import Taskweave.Proofs.Text.Blank
import Taskweave.Proofs.Text.Decoding
import Taskweave.Proofs.Text.Lines
import Taskweave.Store.Memory

/-!
# What commands come to

A finished process has written bytes. Its `CommandExecutor.Reading` is their text and its lines, and
there is one only. What the process comes to is said through it, without the way in which it is found
(`CommandExecutor.ComesTo`): a status other than 0 is a failure whatever was written, the first line
that matches the pattern of the role is one too, and all other output is a value
(`CommandExecutor.HasValue`). What becomes of the store is said in the same way
(`CommandExecutor.Records`).

The two come together in a session (`CommandExecutor.execute_settles`): the result is what the process
comes to, it is recorded when the call ends, and the run receives it whether or not that succeeds.
-/

namespace Taskweave

/-- The code of a status as it is written in messages. A process that was killed has none. -/
def ExitStatus.codeText : ExitStatus → String
  | .exited code => toString code
  | .killed _ => "-1"

theorem ExitStatus.toString_code (status : ExitStatus) : toString status.code = status.codeText := by
  cases status with
  | exited code => rfl
  | killed signal => rfl

theorem ExitStatus.isSuccess_iff {status : ExitStatus} :
    status.isSuccess = true ↔ status = .exited 0 := by
  rcases status with (_ | code) | signal
  · exact iff_of_true rfl rfl
  · exact iff_of_false nofun nofun
  · exact iff_of_false nofun nofun

namespace CommandExecutor

/-- What a finished process has written, as text and in lines. -/
structure Reading (p : FinishedProcess) where
  stdout : String
  stderr : String
  outLines : List (List Char)
  errLines : List (List Char)
  decodes_stdout : Utf8.Decodes p.stdout stdout.toList
  decodes_stderr : Utf8.Decodes p.stderr stderr.toList
  hasLines_stdout : Text.HasLines stdout.toList outLines
  hasLines_stderr : Text.HasLines stderr.toList errLines

/-- A line matches the pattern of the role. -/
def Rejects (x : CommandExecutor) (line : List Char) : Prop :=
  ∃ fails, x.failsOn = some fails ∧ fails (String.ofList line) = true

/-- The messages of a process that failed: the last line of its errors is shown unless it is blank. -/
inductive Explains (status : ExitStatus) (errLines : List (List Char)) : String → Prop where
  | bare : (∀ line, errLines.getLast? = some line → ∀ c ∈ line, Text.isBlank c = true) →
      Explains status errLines ("command exited with code " ++ status.codeText)
  | detailed {line detail : List Char} : errLines.getLast? = some line → detail ≠ [] →
      Text.IsTrimmed line detail →
      Explains status errLines
        ("command exited with code " ++ status.codeText ++ ": " ++ String.ofList detail)

/-- The value of a text that was written. -/
inductive HasValue (text : String) : Json → Prop where
  | blank : (∀ c ∈ text.toList, Text.isBlank c = true) → HasValue text (.obj [("stdout", .str "")])
  | json {shown : List Char} {v : Json} : shown ≠ [] → Text.IsTrimmed text.toList shown →
      Json.read? (String.ofList shown) = some v → HasValue text v
  | text {shown : List Char} : shown ≠ [] → Text.IsTrimmed text.toList shown →
      Json.read? (String.ofList shown) = none → HasValue text (.obj [("stdout", .str text)])

/-- What a finished process comes to. -/
inductive ComesTo (x : CommandExecutor) {p : FinishedProcess} (r : Reading p) :
    ExecutionResult → Prop where
  | failed {message : String} : p.status ≠ .exited 0 → Explains p.status r.errLines message →
      ComesTo x r (.error (.failed message))
  | rejected {before after : List (List Char)} {line shown : List Char} : p.status = .exited 0 →
      r.outLines = before ++ line :: after → (∀ l ∈ before, ¬x.Rejects l) → x.Rejects line →
      Text.IsTrimmed line shown →
      ComesTo x r (.error (.failed ("stdout matched fail_on_stdout: " ++ String.ofList shown)))
  | passed {v : Json} : p.status = .exited 0 → (∀ l ∈ r.outLines, ¬x.Rejects l) →
      HasValue r.stdout v → ComesTo x r (.ok v)

/-- What becomes of the store when a result is recorded, and the error of that: a value is added once
to the state of a role that has a memory, and nothing else changes the store. -/
inductive Records {σ : Type} [Store σ] (x : CommandExecutor) (digest : String → String)
    (now : Instant) (a : Assignment) (s : σ) : ExecutionResult → Option Error × σ → Prop where
  | kept {m : RoleMemory} {v : Json} {state : Dict Json} {s' : σ} : x.memory = some m →
      m.update digest now (.obj [("last_result", v), ("last_task", .str a.id)]) s = (.ok state, s') →
      Records x digest now a s (.ok v) (none, s')
  | refused {m : RoleMemory} {v : Json} {e : Error} {s' : σ} : x.memory = some m →
      m.update digest now (.obj [("last_result", v), ("last_task", .str a.id)]) s = (.error e, s') →
      Records x digest now a s (.ok v) (some e, s')
  | forgotten {v : Json} : x.memory = none → Records x digest now a s (.ok v) (none, s)
  | failed {e : ExecutorError} : Records x digest now a s (.error e) (none, s)

section
variable {x : CommandExecutor} {p : FinishedProcess} {text message : String} {v : Json}
  {result : ExecutionResult}

/-! ## Readings -/

/-- What a process has written can be read, in one way. -/
instance (p : FinishedProcess) : Unique (Reading p) where
  default :=
    { stdout := Utf8.decodeLossy p.stdout
      stderr := Utf8.decodeLossy p.stderr
      outLines := (Text.lines (Utf8.decodeLossy p.stdout)).map String.toList
      errLines := (Text.lines (Utf8.decodeLossy p.stderr)).map String.toList
      decodes_stdout := Utf8.decodeLossy_eq_iff.1 rfl
      decodes_stderr := Utf8.decodeLossy_eq_iff.1 rfl
      hasLines_stdout := Text.hasLines_lines _
      hasLines_stderr := Text.hasLines_lines _ }
  uniq r := by
    obtain ⟨stdout, stderr, outLines, errLines, hout, herr, houtLines, herrLines⟩ := r
    obtain rfl := Utf8.decodeLossy_eq_iff.2 hout
    obtain rfl := Utf8.decodeLossy_eq_iff.2 herr
    obtain rfl := houtLines.eq_map
    obtain rfl := herrLines.eq_map
    rfl

theorem Reading.decodeLossy_stdout (r : Reading p) : Utf8.decodeLossy p.stdout = r.stdout :=
  Utf8.decodeLossy_eq_iff.2 r.decodes_stdout

theorem Reading.decodeLossy_stderr (r : Reading p) : Utf8.decodeLossy p.stderr = r.stderr :=
  Utf8.decodeLossy_eq_iff.2 r.decodes_stderr

theorem Reading.lines_stdout (r : Reading p) :
    Text.lines r.stdout = r.outLines.map String.ofList :=
  Text.lines_eq_iff.2 r.hasLines_stdout

theorem Reading.lines_stderr (r : Reading p) :
    Text.lines r.stderr = r.errLines.map String.ofList :=
  Text.lines_eq_iff.2 r.hasLines_stderr

/-! ## Failures -/

/-- The message of a process shows what is left of the last line of its errors. -/
theorem failureMessage_eq (r : Reading p) : failureMessage p.status r.stderr =
    "command exited with code " ++ p.status.codeText ++
      (if Text.trimChars (r.errLines.getLast?.getD []) = [] then ""
        else ": " ++ String.ofList (Text.trimChars (r.errLines.getLast?.getD []))) := by
  have hlast : (Text.lines r.stderr).getLastD "" =
      String.ofList (r.errLines.getLast?.getD []) := by
    rw [r.lines_stderr, List.getLastD_eq_getLast?, List.getLast?_map]
    cases r.errLines.getLast? <;> rfl
  have htrim : Text.trim ((Text.lines r.stderr).getLastD "") =
      String.ofList (Text.trimChars (r.errLines.getLast?.getD [])) := by
    rw [hlast, Text.trim, String.toList_ofList]
  unfold failureMessage
  simp only [htrim, ExitStatus.toString_code, String.isEmpty_iff, String.ofList_eq_empty_iff]

theorem explains_failureMessage (r : Reading p) :
    Explains p.status r.errLines (failureMessage p.status r.stderr) := by
  rw [failureMessage_eq]
  split
  · next hblank =>
    rw [String.append_empty]
    refine .bare fun line hline => Text.trimChars_eq_nil_iff.1 ?_
    rwa [hline] at hblank
  · next hshown =>
    cases hlast : r.errLines.getLast? with
    | none => exact absurd rfl (hlast ▸ hshown)
    | some line =>
      rw [hlast] at hshown
      rw [← String.append_assoc]
      exact .detailed hlast hshown (Text.isTrimmed_trimChars line)

theorem Explains.eq {r : Reading p} (h : Explains p.status r.errLines message) :
    failureMessage p.status r.stderr = message := by
  rw [failureMessage_eq]
  cases h with
  | bare hblank =>
    rw [if_pos, String.append_empty]
    cases hlast : r.errLines.getLast? with
    | none => rfl
    | some line => exact Text.trimChars_eq_nil_iff.2 (hblank line hlast)
  | detailed hlast hne htrim =>
    rw [hlast, Option.getD_some, Text.trimChars_eq_iff.2 htrim, if_neg hne, ← String.append_assoc]

/-! ## Values -/

theorem hasValue_parseOutput (text : String) : HasValue text (parseOutput text) := by
  rw [parseOutput]
  split
  · next hblank => exact .blank (Text.isBlankText_iff.1 hblank)
  · next hshown =>
    have hne : Text.trimChars text.toList ≠ [] := fun hnil =>
      hshown (Text.isBlankText_iff.2 (Text.trimChars_eq_nil_iff.1 hnil))
    split
    · next v hread => exact .json hne (Text.isTrimmed_trimChars _) hread
    · next hread => exact .text hne (Text.isTrimmed_trimChars _) hread

theorem HasValue.eq (h : HasValue text v) : parseOutput text = v := by
  have hshown {shown : List Char} (hne : shown ≠ []) (htrim : Text.IsTrimmed text.toList shown) :
      Text.trim text = String.ofList shown ∧ Text.isBlankText text ≠ true := by
    have heq := Text.trimChars_eq_iff.2 htrim
    refine ⟨congrArg String.ofList heq, fun hblank => hne ?_⟩
    rw [← heq, Text.trimChars_eq_nil_iff]
    exact Text.isBlankText_iff.1 hblank
  rw [parseOutput]
  cases h with
  | blank hblank => rw [if_pos (Text.isBlankText_iff.2 hblank)]
  | json hne htrim hread =>
    obtain ⟨htext, hblank⟩ := hshown hne htrim
    rw [if_neg hblank, htext, hread]
  | text hne htrim hread =>
    obtain ⟨htext, hblank⟩ := hshown hne htrim
    rw [if_neg hblank, htext, hread]

/-! ## Results -/

instance (x : CommandExecutor) : DecidablePred x.Rejects := fun line =>
  decidable_of_iff ((x.failsOn.any fun fails => fails (String.ofList line)) = true)
    (Option.any_eq_true _ _)

/-- The first line that matches the pattern of the role is looked for. -/
theorem bind_find?_lines (x : CommandExecutor) (r : Reading p) :
    (x.failsOn.bind fun fails => (Text.lines r.stdout).find? fails) =
      (r.outLines.find? fun line => decide (x.Rejects line)).map String.ofList := by
  rw [r.lines_stdout]
  cases hfails : x.failsOn with
  | none => simp [Rejects, hfails]
  | some fails =>
    rw [Option.bind_some, List.find?_map]
    congr 2
    funext line
    simp [Rejects, hfails]

theorem outcome_of_failed (hstatus : p.status ≠ .exited 0) (r : Reading p) :
    outcome x.failsOn p = .error (.failed (failureMessage p.status r.stderr)) := by
  have hfailed : (!p.status.isSuccess) = true := by
    simpa using mt ExitStatus.isSuccess_iff.1 hstatus
  rw [outcome, if_pos hfailed, r.decodeLossy_stderr]

theorem outcome_of_success (hstatus : p.status = .exited 0) (r : Reading p) :
    outcome x.failsOn p =
      match r.outLines.find? fun line => decide (x.Rejects line) with
      | some line => .error (.failed
          ("stdout matched fail_on_stdout: " ++ String.ofList (Text.trimChars line)))
      | none => .ok (parseOutput r.stdout) := by
  unfold outcome
  simp only [hstatus, ExitStatus.isSuccess, r.decodeLossy_stdout, bind_find?_lines]
  cases r.outLines.find? fun line => decide (x.Rejects line) with
  | none => rfl
  | some line => simp [Text.trim]

/-- What is made of a process is what it comes to. -/
theorem comesTo_outcome (x : CommandExecutor) (r : Reading p) :
    ComesTo x r (outcome x.failsOn p) := by
  by_cases hstatus : p.status = .exited 0
  · rw [outcome_of_success hstatus r]
    cases hfind : r.outLines.find? fun line => decide (x.Rejects line) with
    | none =>
      refine .passed hstatus (fun line hline => ?_) (hasValue_parseOutput r.stdout)
      simpa using List.find?_eq_none.1 hfind line hline
    | some line =>
      obtain ⟨hline, before, after, hlines, hbefore⟩ := List.find?_eq_some_iff_append.1 hfind
      refine .rejected hstatus hlines (fun l hl => ?_) (of_decide_eq_true hline)
        (Text.isTrimmed_trimChars line)
      simpa using hbefore l hl
  · rw [outcome_of_failed hstatus r]
    exact .failed hstatus (explains_failureMessage r)

/-- It comes to nothing else. -/
theorem ComesTo.eq {r : Reading p} (h : ComesTo x r result) : outcome x.failsOn p = result := by
  cases h with
  | failed hstatus hmessage => rw [outcome_of_failed hstatus r, hmessage.eq]
  | rejected hstatus hlines hbefore hline htrim =>
    have hfind : (r.outLines.find? fun line => decide (x.Rejects line)) = some _ :=
      List.find?_eq_some_iff_append.2
        ⟨decide_eq_true hline, _, _, hlines, fun l hl => by simpa using hbefore l hl⟩
    simp only [outcome_of_success hstatus r, hfind, Text.trimChars_eq_iff.2 htrim]
  | passed hstatus hlines hvalue =>
    have hfind : (r.outLines.find? fun line => decide (x.Rejects line)) = none :=
      List.find?_eq_none.2 fun line hline => by simpa using hlines line hline
    rw [outcome_of_success hstatus r, hfind, hvalue.eq]

/-- A process comes to a value exactly if it succeeded without a line that matches. -/
theorem ComesTo.ok_iff {r : Reading p} (h : ComesTo x r result) : (∃ v, result = .ok v) ↔
    p.status = .exited 0 ∧ ∀ line ∈ r.outLines, ¬x.Rejects line := by
  cases h with
  | failed hstatus => exact iff_of_false nofun fun h => hstatus h.1
  | rejected hstatus hlines _ hline =>
    refine iff_of_false nofun fun h => h.2 _ ?_ hline
    rw [hlines]
    exact List.mem_append_right _ (List.mem_cons_self ..)
  | passed hstatus hlines => exact iff_of_true ⟨_, rfl⟩ ⟨hstatus, hlines⟩

/-- Within its timeout a command has its result when its process is over. -/
theorem execute_of_lt {host : Host} {a : Assignment} {time : Duration}
    (hhost : host (x.request a) = .ok (p, time))
    (htime : ∀ limit, x.timeout = some limit → time.nanos < limit.nanos) :
    x.execute host a = (outcome x.failsOn p, time) := by
  rw [execute, hhost]
  cases htimeout : x.timeout with
  | none => rfl
  | some limit =>
    dsimp only
    rw [if_neg (Nat.not_le.2 (htime limit htimeout))]

/-! ## Records -/

variable {σ : Type} [Store σ] {digest : String → String} {now : Instant} {a : Assignment} {s : σ}
  {answer : Option Error × σ}

/-- What recording a result does is what becomes of the store. -/
theorem records_remember : Records x digest now a s result (x.remember digest now a result s) := by
  cases result with
  | error e =>
    cases hmemory : x.memory with
    | none | some m =>
      simp only [remember, hmemory]
      exact .failed
  | ok v =>
    cases hmemory : x.memory with
    | none =>
      simp only [remember, hmemory]
      exact .forgotten hmemory
    | some m =>
      simp only [remember, hmemory]
      split
      · next hupdate => exact .kept hmemory hupdate
      · next hupdate => exact .refused hmemory hupdate

/-- Nothing else becomes of it. -/
theorem Records.eq (h : Records x digest now a s result answer) :
    x.remember digest now a result s = answer := by
  cases h with
  | kept hmemory hupdate | refused hmemory hupdate =>
    simp only [remember, hmemory, record, hupdate]
  | forgotten hmemory => simp only [remember, hmemory]
  | failed =>
    cases hmemory : x.memory with
    | none | some m => simp only [remember, hmemory]

end

end CommandExecutor

namespace Session

variable {σ : Type}

/-- A session has begun a call. -/
structure Begun (s : Session σ) (call : OpenCall) (after : Session σ) : Prop where
  calls_eq : after.calls = s.calls ++ [call]
  store_eq : after.store = s.store

/-- A call has returned to a session. -/
structure Ended [Store σ] (digest : String → String) (s : Session σ) (call : OpenCall)
    (after : Session σ) : Prop where
  /-- The run has the result, whatever came of recording it. -/
  received : after.coordinator = s.coordinator.finish call.assignment.id (.returned call.result)
  /-- The result has been recorded, and if that failed a warning tells it. -/
  recorded : ∃ fault, call.executor.Records digest after.clock call.assignment s.store call.result
      (fault, after.store) ∧
    after.log = (fault.map fun _ => LogLevel.warn).toList ++ s.log
  /-- The call does not return again. -/
  closed : ∀ c ∈ after.calls, c.assignment.id ≠ call.assignment.id
  /-- It does not begin again either. -/
  gone : ∀ c ∈ after.coordinator.calls, c.assignment.id ≠ call.assignment.id

theorem ended_endCall [Store σ] (digest : String → String) (s : Session σ) (call : OpenCall) :
    s.Ended digest call (s.endCall digest call) where
  received := coordinator_endCall
  recorded := by
    have hrecords : call.executor.Records digest ⟨max s.clock.nanos call.due.nanos⟩ call.assignment
      s.store call.result _ := CommandExecutor.records_remember
    rw [endCall]
    revert hrecords
    generalize call.executor.remember digest ⟨max s.clock.nanos call.due.nanos⟩ call.assignment
      call.result s.store = answer
    intro hrecords
    obtain ⟨_ | e, store⟩ := answer
    · exact ⟨none, hrecords, rfl⟩
    · exact ⟨some e, hrecords, rfl⟩
  closed c hc := by
    rw [calls_endCall] at hc
    exact bne_iff_ne.1 (List.mem_filter.1 hc).2
  gone c hc := by
    rw [coordinator_endCall, Coordinator.finish] at hc
    exact bne_iff_ne.1 (List.mem_filter.1 hc).2

end Session

namespace CommandExecutor

/-- The result of an executor for what a process has written. -/
structure IsResult (x : CommandExecutor) {p : FinishedProcess} (r : Reading p)
    (result : ExecutionResult) : Prop where
  /-- The process comes to the result, and to nothing else. -/
  comesTo_iff : ∀ other, ComesTo x r other ↔ other = result
  ok_iff : (∃ v, result = .ok v) ↔ p.status = .exited 0 ∧ ∀ line ∈ r.outLines, ¬x.Rejects line

/-- A command that is over within its timeout has one result, which is what its process comes to. In a
session the result is recorded when its call ends, whatever has happened until then, and the run
receives it whether or not that succeeds. -/
theorem execute_settles (x : CommandExecutor) (host : Host) (a : Assignment) {p : FinishedProcess}
    {time : Duration} (hhost : host (x.request a) = .ok (p, time))
    (htime : ∀ limit, x.timeout = some limit → time.nanos < limit.nanos) :
    ∃ result, x.execute host a = (result, time) ∧
      (∃ r : Reading p, (∀ r', r' = r) ∧ x.IsResult r result) ∧
      ∀ (σ : Type) [Store σ] (digest : String → String),
        (∀ now (s : σ) answer,
          x.remember digest now a result s = answer ↔ x.Records digest now a s result answer) ∧
        ∀ session : Session σ, ∃ due,
          session.Begun ⟨x, a, result, due⟩ (session.beginCall host ⟨a, x⟩) ∧
          ∀ later : Session σ, later.Ended digest ⟨x, a, result, due⟩
            (later.endCall digest ⟨x, a, result, due⟩) := by
  have hexecute := execute_of_lt hhost htime
  have hcomes := comesTo_outcome x (default : Reading p)
  refine ⟨outcome x.failsOn p, hexecute, ⟨default, Unique.eq_default, ?_, hcomes.ok_iff⟩, ?_⟩
  · exact fun other => ⟨fun hother => hother.eq.symm, fun heq => heq ▸ hcomes⟩
  · intro σ _ digest
    refine ⟨fun now s answer => ⟨fun heq => heq ▸ records_remember, Records.eq⟩, fun session =>
      ⟨⟨session.clock.nanos + time.nanos⟩, ⟨?_, rfl⟩, fun later => later.ended_endCall digest _⟩⟩
    rw [Session.beginCall, hexecute]
    rfl

/-- The executor of a role whose state has no key that is allowed. Lines with an E at the beginning make
a task fail. -/
def stray : CommandExecutor :=
  ⟨"../r", "report", some fun line => line.toList.head? == some 'E', some ⟨10⟩,
    some (RoleMemory.new "../r")⟩

/-- A task of that role. -/
def survey : Assignment := ⟨"t", "../r", "", []⟩

/-- A process that has succeeded, with two lines of output. The second one consists of a byte that is in
no character and of a character that is cut off. Its errors would match. -/
def report : FinishedProcess :=
  ⟨.exited 0, [0x6E, 0x6F, 0x20, 0x45, 0x0D, 0x0A, 0xFF, 0xE2, 0x82], [0x45, 0x0A]⟩

/-- What it comes to. -/
def reported : Json := .obj [("stdout", .str "no E\x0d\n\uFFFD\uFFFD")]

/-- The output is the result as it was decoded, though it cannot be recorded. -/
theorem settles_report :
    (∀ limit, stray.timeout = some limit → 5 < limit.nanos) ∧
      stray.execute (fun _ => .ok (report, ⟨5⟩)) survey = (.ok reported, ⟨5⟩) ∧
      (∃ r : Reading report, stray.IsResult r (.ok reported)) ∧
      stray.Records (fun _ => "") ⟨0⟩ survey MemoryStore.empty (.ok reported)
        (some (.config (.invalidPath "states/../r_state.json")), MemoryStore.empty) := by
  have htime : ∀ limit, stray.timeout = some limit → 5 < limit.nanos := by
    rintro limit ⟨rfl⟩
    decide
  obtain ⟨result, hexecute, ⟨r, -, hresult⟩, hrest⟩ :=
    execute_settles stray (fun _ => .ok (report, ⟨5⟩)) survey rfl htime
  have hreported : stray.execute (fun _ => .ok (report, ⟨5⟩)) survey = (.ok reported, ⟨5⟩) := by
    decide +kernel
  obtain rfl : result = .ok reported := congrArg Prod.fst (hexecute.symm.trans hreported)
  obtain ⟨hrecords, -⟩ := hrest MemoryStore fun _ => ""
  exact ⟨htime, hreported, ⟨r, hresult⟩, (hrecords _ _ _).1 (by decide +kernel)⟩

end CommandExecutor

end Taskweave
