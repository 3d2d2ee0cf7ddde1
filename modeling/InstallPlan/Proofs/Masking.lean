import InstallPlan.Proofs.Printing
import InstallPlan.Proofs.Redaction

/-!
# Masking

What two runs tell apart that differ in the administrator's password only. The
password stands in one command, behind its option and at the end; so what is
logged and printed of it is what redaction leaves to be seen of its characters
(`redact_identityWith`), and two passwords show the same where that is the same
(`Redaction.Alike`).

Only the first word of a password is hidden. Two passwords of one word each are
alike; with a blank in one of them, what stands behind the blank can be read.
-/

namespace InstallPlan

/-! ## The command with the password -/

namespace Specification

/-- The specification with a password for the administrator. -/
def withPassword (spec : Specification) (password : String) : Specification :=
  { spec with system := { spec.system with rootPassword := some password } }

/-- The command that sets the identity with a password. -/
def identityWith (spec : Specification) (root : Path) (password : String) : String :=
  spec.system.identityWithoutPassword root ++ " --root-password=" ++ password

/-- The password stands in one command. -/
theorem steps_withPassword (spec : Specification) (root : Path) :
    ∃ earlier later, ∀ password ≠ "",
      (spec.withPassword password).steps root =
        earlier ++ .command (spec.identityWith root password) :: later := by
  refine ⟨spec.packages.steps root ++ [.heading "Configure System"],
    [.command (System.inside root "hwclock --systohc"),
      .command (spec.system.localeEntry root),
      .command (System.inside root "locale-gen"),
      .command (hereDocument (root.join "etc/hosts") spec.system.hosts)]
      ++ spec.initrd.steps root, ?_⟩
  intro password hpassword
  have hgiven : (spec.withPassword password).system.password = some password :=
    System.password_of_ne_empty rfl hpassword
  have hprompt : (spec.withPassword password).system.passwordPrompt root = [] := by
    simp [System.passwordPrompt, hgiven]
  simp only [steps, System.steps, System.commands, hprompt, System.identity_of_some hgiven,
    List.append_assoc, List.nil_append, List.map_cons, List.map_nil, List.cons_append]
  rfl

/-- What redaction leaves of the command with the password. -/
theorem redact_identityWith (spec : Specification) (root : Path) (password : String) :
    redact (spec.identityWith root password) =
      String.ofList (Redaction.mask (spec.system.identityWithoutPassword root).toList
        ++ ' ' :: (Redaction.option ++ Redaction.seen password.toList)) := by
  have hword : (" --root-password=" : String).toList = ' ' :: Redaction.option := by decide
  rw [redact, identityWith, String.toList_append, String.toList_append, hword,
    List.append_assoc, List.cons_append,
    Redaction.mask_append_cons_of_blank (by decide), Redaction.mask_option_append]

theorem redact_identityWith_inj (spec : Specification) (root : Path) {p q : String} :
    redact (spec.identityWith root p) = redact (spec.identityWith root q) ↔
      Redaction.Alike p.toList q.toList := by
  rw [redact_identityWith, redact_identityWith, String.ofList_inj, List.append_cancel_left_eq,
    List.cons_inj_right, List.append_cancel_left_eq, Redaction.seen_inj]

end Specification

/-! ## Records of commands -/

/-- Whether a record announces a command. -/
def Log.Record.isCommand (record : Log.Record) : Bool :=
  record.level = .info && "COMMAND ".toList.isPrefixOf record.message.toList

/-- The log records of commands. -/
def Output.commandRecords (outputs : List Output) : List Log.Record :=
  (records outputs).filter Log.Record.isCommand

/-- The record of a command. -/
def Log.Record.ofCommand (target text : String) : Log.Record :=
  ⟨.info, target, "COMMAND " ++ redact text⟩

theorem Output.filter_infoRecords (outputs : List Output) :
    (infoRecords outputs).filter Log.Record.isCommand = commandRecords outputs := by
  rw [infoRecords, commandRecords, List.filter_filter]
  congr 1
  funext record
  simp only [Log.Record.isCommand]
  cases decide (record.level = .info) <;> simp

namespace Step

theorem isCommand_record_heading (target name : String) :
    ((Step.heading name).record target).isCommand = false := by
  simp only [Log.Record.isCommand, record, message, String.toList_append]
  rfl

theorem isCommand_record_command (target text : String) :
    ((Step.command text).record target).isCommand = true := by
  simp only [Log.Record.isCommand, record, message, String.toList_append, decide_true,
    Bool.true_and, List.isPrefixOf_iff_prefix]
  exact List.prefix_append _ _

theorem filter_record (target : String) (steps : List Step) :
    (steps.map (record target)).filter Log.Record.isCommand =
      (steps.filterMap command?).map (Log.Record.ofCommand target) := by
  induction steps with
  | nil => rfl
  | cons s rest ih =>
    rw [List.map_cons]
    cases s with
    | heading name =>
      rw [List.filter_cons_of_neg (by simp [isCommand_record_heading]), ih]
      rfl
    | command text =>
      rw [List.filter_cons_of_pos (isCommand_record_command target text), ih]
      rfl

end Step

/-- The records of the commands of a plan tell two passwords apart unless they are alike. -/
theorem Specification.ofCommand_steps_inj (spec : Specification) (root : Path) (target : String)
    {p q : String} (hp : p ≠ "") (hq : q ≠ "") :
    (((spec.withPassword p).steps root).filterMap Step.command?).map (Log.Record.ofCommand target)
        = (((spec.withPassword q).steps root).filterMap Step.command?).map
          (Log.Record.ofCommand target)
      ↔ Redaction.Alike p.toList q.toList := by
  obtain ⟨earlier, later, hsteps⟩ := spec.steps_withPassword root
  rw [hsteps p hp, hsteps q hq, ← spec.redact_identityWith_inj root]
  simp [Step.command?, Log.Record.ofCommand]

namespace Sink.Announces

variable {σ τ : Type} {sink : Sink σ} {other : Sink τ} {target : String}

theorem commandRecords (h : sink.Announces target) {spec : Specification} {root : Path}
    {state : σ} (hfault : (spec.apply root sink state).fault = none) :
    Output.commandRecords (spec.apply root sink state).output =
      ((spec.steps root).filterMap Step.command?).map (Log.Record.ofCommand target) := by
  rw [← Output.filter_infoRecords, h.apply hfault, Step.filter_record]

/-- Two runs without a fault log the same commands for passwords that are alike, and for
no others. -/
theorem commandRecords_eq_iff (h : sink.Announces target) (h' : other.Announces target)
    {spec : Specification} {root : Path} {p q : String} (hp : p ≠ "") (hq : q ≠ "")
    {state : σ} {state' : τ}
    (hfault : ((spec.withPassword p).apply root sink state).fault = none)
    (hfault' : ((spec.withPassword q).apply root other state').fault = none) :
    Output.commandRecords ((spec.withPassword p).apply root sink state).output =
        Output.commandRecords ((spec.withPassword q).apply root other state').output ↔
      Redaction.Alike p.toList q.toList := by
  rw [h.commandRecords hfault, h'.commandRecords hfault']
  exact spec.ofCommand_steps_inj root target hp hq

end Sink.Announces

/-! ## The printed plan -/

/-- A text without a line feed is one line. -/
theorem linesOf_of_notMem {text : List Char} (hne : text ≠ []) (h : '\n' ∉ text) :
    linesOf text = [text] := by
  induction text with
  | nil => exact absurd rfl hne
  | cons c rest ih =>
    obtain ⟨hc, hrest⟩ := List.ne_and_not_mem_of_not_mem_cons h
    cases rest with
    | nil => simp [linesOf, Ne.symm hc]
    | cons d more =>
      have hd : '\n' ≠ d := (List.ne_and_not_mem_of_not_mem_cons hrest).1
      rw [linesOf, if_neg (Ne.symm hc), ih (List.cons_ne_nil _ _) hrest]
      intro rest _ heq
      exact hd (List.cons.inj heq).1.symm

theorem Terminal.command_ofList {color : Bool} {text : List Char} (hne : text ≠ [])
    (h : '\n' ∉ text) :
    command color (String.ofList text) =
      styled color .blue "$" ++ " " ++ String.ofList text ++ "\n" := by
  rw [command, lines, String.toList_ofList, linesOf_of_notMem hne h]
  simp

theorem Terminal.plan_append_cons (color : Bool) (root : Path) (earlier later : List Step)
    (text : String) :
    plan color root (earlier ++ .command text :: later) =
      plan color root earlier ++ command color (redact text)
        ++ String.join (later.map (step color)) := by
  simp only [plan, List.map_append, List.map_cons, String.join_append, String.join_cons, step,
    String.append_assoc]

namespace Specification

/-- Where a rehearsal is not quiet, it prints the same for two passwords only when it shows
the command with them the same. -/
theorem standardOutput_apply_inj {η : Type} (spec : Specification) {p q : String}
    (hp : p ≠ "") (hq : q ≠ "") {job : Job} (hmode : job.mode = .dryrun)
    (hquiet : job.quiet = false) (machine : Machine η) (state : η)
    (h : Output.standardOutput (job.apply machine (spec.withPassword p) state).output =
      Output.standardOutput (job.apply machine (spec.withPassword q) state).output) :
    Utf8.encode (Terminal.command job.color (redact (spec.identityWith job.root p))) =
      Utf8.encode (Terminal.command job.color (redact (spec.identityWith job.root q))) := by
  obtain ⟨earlier, later, hsteps⟩ := spec.steps_withPassword job.root
  rw [Job.standardOutput_apply hmode, Job.standardOutput_apply hmode, hsteps p hp, hsteps q hq,
    hquiet, if_neg Bool.false_ne_true, if_neg Bool.false_ne_true,
    Terminal.plan_append_cons, Terminal.plan_append_cons] at h
  simp only [Utf8.encode_append, List.append_assoc] at h
  exact List.append_cancel_right (List.append_cancel_left h)

/-- **Masking.** Passwords that are alike, and no others, leave the same records of commands
in each mode that runs without a fault, and a rehearsal prints the same for them. -/
theorem masked_iff_alike {ω η : Type} (spec : Specification) (root : Path) {p q : String}
    (hp : p ≠ "") (hq : q ≠ "")
    {writer writer' : Writer ω} (hwriter : writer.Silent) (hwriter' : writer'.Silent)
    {sheet sheet' : ω}
    (hwritten : ((spec.withPassword p).apply root (Sink.script writer) sheet).fault = none)
    (hwritten' : ((spec.withPassword q).apply root (Sink.script writer') sheet').fault = none)
    {host host' : Host η} {shell shell' : String} {session session' : Session η}
    (hexecuted : ((spec.withPassword p).apply root (Sink.execute host shell) session).fault
      = none)
    (hexecuted' : ((spec.withPassword q).apply root (Sink.execute host' shell') session').fault
      = none) :
    let alike := Redaction.Alike p.toList q.toList
    (Output.commandRecords ((spec.withPassword p).apply root Sink.record []).output =
        Output.commandRecords ((spec.withPassword q).apply root Sink.record []).output
      ↔ alike) ∧
    (Output.commandRecords ((spec.withPassword p).apply root (Sink.script writer) sheet).output =
        Output.commandRecords
          ((spec.withPassword q).apply root (Sink.script writer') sheet').output
      ↔ alike) ∧
    (Output.commandRecords
          ((spec.withPassword p).apply root (Sink.execute host shell) session).output =
        Output.commandRecords
          ((spec.withPassword q).apply root (Sink.execute host' shell') session').output
      ↔ alike) ∧
    (alike → ∀ (job : Job) (machine : Machine η) (state : η), job.mode = .dryrun →
      Output.standardOutput (job.apply machine (spec.withPassword p) state).output =
        Output.standardOutput (job.apply machine (spec.withPassword q) state).output) := by
  intro alike
  refine ⟨?_, ?_, ?_, ?_⟩
  · exact Sink.record_announces.commandRecords_eq_iff Sink.record_announces hp hq
      (apply_record _ root).1 (apply_record _ root).1
  · exact (Sink.script_announces hwriter).commandRecords_eq_iff (Sink.script_announces hwriter')
      hp hq hwritten hwritten'
  · exact (Sink.execute_announces host shell).commandRecords_eq_iff
      (Sink.execute_announces host' shell') hp hq hexecuted hexecuted'
  · intro h job machine state hmode
    -- the plan is made for the root of the job, which need not be that of the runs above
    obtain ⟨earlier, later, hsteps⟩ := spec.steps_withPassword job.root
    have hredact : redact (spec.identityWith job.root p) = redact (spec.identityWith job.root q) :=
      (spec.redact_identityWith_inj job.root).2 h
    rw [Job.standardOutput_apply hmode, Job.standardOutput_apply hmode, hsteps p hp, hsteps q hq,
      Terminal.plan_append_cons, Terminal.plan_append_cons, hredact]

/-- A password of two words and one of one word: what stands behind the blank is logged. -/
theorem two_words_not_masked :
    let spec : Specification := ⟨{}, ⟨"UTC", "en_US.UTF-8", "UTF-8", "us", "archie", none⟩, {}⟩
    let root := Path.ofText "/mnt"
    let host : Host Unit := fun _ world => (.ended (.exited 0) [] [], world)
    let logged (password : String) := Output.commandRecords
      ((spec.withPassword password).apply root (Sink.execute host "sh") { host := () }).output
    logged "correct horse" ≠ logged "hunter2" ∧ logged "hunter2" = logged "s3cret" := by
  intro spec root host logged
  have hhost : host.Succeeds := fun _ _ => rfl
  have hwritten (password : String) :=
    ((spec.withPassword password).apply_script root Writer.terminal_steady ()).1
  have hexecuted (password : String) :=
    ((spec.withPassword password).apply_execute root hhost "sh" ()).1
  have hsilent := Writer.terminal_steady.toSilent
  constructor
  · obtain ⟨-, -, hiff, -⟩ := spec.masked_iff_alike root
      (p := "correct horse") (q := "hunter2") (by decide) (by decide) hsilent hsilent
      (hwritten _) (hwritten _) (hexecuted _) (hexecuted _)
    intro hlogged
    have halike := (hiff.1 hlogged).2
    rw [Redaction.mask_eq_self (by decide), Redaction.mask_eq_self (by decide)] at halike
    exact absurd halike (by decide)
  · obtain ⟨-, -, hiff, -⟩ := spec.masked_iff_alike root
      (p := "hunter2") (q := "s3cret") (by decide) (by decide) hsilent hsilent
      (hwritten _) (hwritten _) (hexecuted _) (hexecuted _)
    exact hiff.2 (Redaction.alike_of_all_isInk (by decide) (by decide) (by decide) (by decide))

/-- What stands behind the blank is printed as well. -/
theorem two_words_printed :
    let spec : Specification := ⟨{}, ⟨"UTC", "en_US.UTF-8", "UTF-8", "us", "archie", none⟩, {}⟩
    let job : Job := ⟨none, Path.ofText "/mnt", .dryrun, false, false⟩
    let machine : Machine Unit :=
      ⟨fun _ world => (.ok [], world), fun _ world => (.ended (.exited 0) [] [], world)⟩
    let printed (password : String) :=
      Output.standardOutput (job.apply machine (spec.withPassword password) ()).output
    printed "correct horse" ≠ printed "hunter2" := by
  intro spec job machine printed h
  have hline := spec.standardOutput_apply_inj (show "correct horse" ≠ "" by decide)
    (show "hunter2" ≠ "" by decide) (show job.mode = .dryrun from rfl) rfl machine () h
  have hbase : '\n' ∉ Redaction.mask (spec.system.identityWithoutPassword job.root).toList := by
    rw [Redaction.mask_eq_self (by decide +kernel)]
    decide +kernel
  have hfirst : Redaction.seen "correct horse".toList = "*** horse".toList := by
    rw [Redaction.seen, Redaction.mask_eq_self (by decide)]
    decide
  have hsecond : Redaction.seen "hunter2".toList = "***".toList := by
    rw [Redaction.seen, Redaction.mask_eq_self (by decide)]
    decide
  rw [redact_identityWith, redact_identityWith, hfirst, hsecond,
    Terminal.command_ofList (by simp) (by simp [hbase, Redaction.option_eq]),
    Terminal.command_ofList (by simp) (by simp [hbase, Redaction.option_eq])] at hline
  have hrest : Utf8.encode " horse\n" = Utf8.encode "\n" := by
    simpa [Utf8.encode] using hline
  exact absurd hrest (by decide)

end Specification

end InstallPlan
