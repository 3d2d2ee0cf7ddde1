import InstallPlan.Proofs.Masking
import InstallPlan.Proofs.Stopping

/-!
# Disclosure

What a failure tells of the administrator's password. A plan runs as far as its commands
get replies that succeed (`Execute.Answered`), and the fault that ends it follows from the
commands and the replies (`Course.fault_eq`). Two plans that differ in the password differ
in their second command only (`Specification.commands_withPassword`); so two executions
with the same replies fail alike, unless this is the command that fails.

The text of a fault has the command in it as it was run (`Execute.message_inj`). What is
logged and printed of a command is redacted; this text is not, and the password can be
read in it (`Job.one_word_disclosed`).
-/

namespace InstallPlan

namespace Execute

/-! ## The replies to a plan -/

/-- The replies that a number of commands get: all succeed, or the last one is the first
that does not. -/
inductive Answered : Nat → List Reply → Prop
  | done : Answered 0 []
  | next {count : Nat} {reply : Reply} {replies : List Reply} (hreply : reply.succeeded = true)
      (rest : Answered count replies) : Answered (count + 1) (reply :: replies)
  | stop {count : Nat} {reply : Reply} (hreply : reply.succeeded = false) :
      Answered (count + 1) [reply]

/-- Two lists of replies that agree as far as both go are the same. -/
theorem Answered.unique {count : Nat} {replies replies' : List Reply}
    (h : Answered count replies) (h' : Answered count replies')
    (hagree : replies <+: replies' ∨ replies' <+: replies) : replies = replies' := by
  induction h generalizing replies' with
  | done =>
    cases h'
    rfl
  | @next count reply replies hreply rest ih =>
    cases h' with
    | next hreply' rest' =>
      rw [List.cons_prefix_cons, List.cons_prefix_cons] at hagree
      rcases hagree with ⟨rfl, hagree⟩ | ⟨rfl, hagree⟩
      · rw [ih rest' (.inl hagree)]
      · rw [ih rest' (.inr hagree)]
    | stop hreply' =>
      -- the same reply cannot both succeed and fail
      rw [List.cons_prefix_cons, List.cons_prefix_cons] at hagree
      rcases hagree with ⟨rfl, -⟩ | ⟨rfl, -⟩ <;> simp [hreply] at hreply'
  | @stop count reply hreply =>
    cases h' with
    | next hreply' rest' =>
      rw [List.cons_prefix_cons, List.cons_prefix_cons] at hagree
      rcases hagree with ⟨rfl, -⟩ | ⟨rfl, -⟩ <;> simp [hreply] at hreply'
    | stop hreply' =>
      rw [List.cons_prefix_cons, List.cons_prefix_cons] at hagree
      rcases hagree with ⟨rfl, -⟩ | ⟨rfl, -⟩ <;> rfl

theorem faultAfter_of_failed (command : String) {reply : Reply}
    (h : reply.succeeded = false) : ∃ fault, faultAfter command reply = some fault := by
  rw [← Option.ne_none_iff_exists', Ne, faultAfter_eq_none_iff, h]
  decide

/-- The fault of the first command that fails, given the replies to the commands. -/
def firstFault : List String → List Reply → Option Fault
  | command :: commands, reply :: replies =>
    (faultAfter command reply).or (firstFault commands replies)
  | _, _ => none

theorem firstFault_of_succeeded {command : String} {reply : Reply} (h : reply.succeeded)
    (commands : List String) (replies : List Reply) :
    firstFault (command :: commands) (reply :: replies) = firstFault commands replies := by
  rw [firstFault, faultAfter_eq_none_iff.2 h, Option.none_or]

theorem firstFault_of_fault {command : String} {reply : Reply} {fault : Fault}
    (h : faultAfter command reply = some fault) (commands : List String)
    (replies : List Reply) :
    firstFault (command :: commands) (reply :: replies) = some fault := by
  rw [firstFault, h, Option.some_or]

/-- A second command that fails gives the fault. -/
theorem firstFault_second {first command : String} {later : List String}
    {replies : List Reply} {reply : Reply} {fault : Fault}
    (h : Answered (later.length + 2) replies) (hreply : replies[1]? = some reply)
    (hfault : faultAfter command reply = some fault) :
    firstFault (first :: command :: later) replies = some fault := by
  cases h with
  | next hfirst rest =>
    rw [firstFault_of_succeeded hfirst]
    cases rest <;>
    · cases hreply
      exact firstFault_of_fault hfault _ _
  | stop hfirst => cases hreply

/-- Two plans that differ in their second command fail alike, if a text of the fault tells
commands apart, unless the second command fails. -/
theorem firstFault_second_iff {γ : Type} {text : Fault → γ}
    (htext : ∀ {command command' : String} {reply : Reply} {fault fault' : Fault},
      faultAfter command reply = some fault → faultAfter command' reply = some fault' →
        text fault = text fault' → command = command')
    {first command command' : String} {later : List String} {replies : List Reply}
    (h : Answered (later.length + 2) replies) :
    (firstFault (first :: command :: later) replies).map text =
        (firstFault (first :: command' :: later) replies).map text ↔
      command = command' ∨ ∀ reply, replies[1]? = some reply → reply.succeeded := by
  cases h with
  | next hfirst rest =>
    rw [firstFault_of_succeeded hfirst, firstFault_of_succeeded hfirst]
    cases rest with
    | next hsecond rest =>
      rw [firstFault_of_succeeded hsecond, firstFault_of_succeeded hsecond]
      refine iff_of_true rfl (.inr ?_)
      rintro reply ⟨⟩
      exact hsecond
    | @stop _ second hsecond =>
      obtain ⟨fault, hfault⟩ := faultAfter_of_failed command hsecond
      obtain ⟨fault', hfault'⟩ := faultAfter_of_failed command' hsecond
      rw [firstFault_of_fault hfault, firstFault_of_fault hfault', Option.map_some,
        Option.map_some, Option.some_inj]
      constructor
      · intro hsame
        exact .inl (htext hfault hfault' hsame)
      · rintro (rfl | hall)
        · rw [Option.some_inj.1 (hfault.symm.trans hfault')]
        · rw [hall second rfl] at hsecond
          cases hsecond
  | @stop _ reply hfirst =>
    obtain ⟨fault, hfault⟩ := faultAfter_of_failed first hfirst
    rw [firstFault_of_fault hfault, firstFault_of_fault hfault]
    refine iff_of_true rfl (.inr ?_)
    rintro reply ⟨⟩

namespace Course

variable {shell : String} {captures after : List Variable} {commands : List String}
  {exchanges : List Exchange} {fault : Option Fault}

theorem answered (h : Course shell captures commands exchanges after fault) :
    Answered commands.length (exchanges.map (·.reply)) := by
  induction h with
  | done => exact .done
  | next hreply rest ih => exact .next hreply ih
  | stop hfault => exact .stop (failed_of_faultAfter hfault)

/-- The fault of a course follows from its commands and the replies to them. -/
theorem fault_eq (h : Course shell captures commands exchanges after fault) :
    fault = firstFault commands (exchanges.map (·.reply)) := by
  induction h with
  | done => rfl
  | next hreply rest ih => rw [ih, List.map_cons, firstFault_of_succeeded hreply]
  | stop hfault => exact (firstFault_of_fault hfault _ _).symm

end Course

end Execute

/-! ## The text of a fault -/

namespace Fault

theorem message_spawnFailed (command : String) (reason : IoFault) :
    (spawnFailed command reason).message = "failed to execute: " ++ command := rfl

theorem message_commandFailed (command : String) (status : ExitStatus) :
    (commandFailed command status).message =
      "command failed (" ++ status.message ++ "): " ++ command := rfl

example : (commandFailed "reboot" (.signalled 9 false)).message =
    "command failed (signal: 9 (SIGKILL)): reboot" := by decide

end Fault

/-- The text of a fault tells commands apart that get the same reply. -/
theorem Execute.message_inj {command command' : String} {reply : Reply} {fault fault' : Fault}
    (h : faultAfter command reply = some fault) (h' : faultAfter command' reply = some fault')
    (hmessage : fault.message = fault'.message) : command = command' := by
  cases reply with
  | refused reason =>
    rw [faultAfter, Option.some_inj] at h h'
    subst h h'
    rw [Fault.message_spawnFailed, Fault.message_spawnFailed] at hmessage
    exact (String.append_right_inj _).1 hmessage
  | ended status stdout stderr =>
    rw [faultAfter] at h h'
    by_cases hstatus : status = .exited 0
    · rw [if_pos hstatus] at h
      cases h
    · rw [if_neg hstatus, Option.some_inj] at h h'
      subst h h'
      rw [Fault.message_commandFailed, Fault.message_commandFailed] at hmessage
      exact (String.append_right_inj _).1 hmessage

namespace Specification

theorem identityWith_inj (spec : Specification) (root : Path) {p q : String} :
    spec.identityWith root p = spec.identityWith root q ↔ p = q := by
  rw [identityWith, identityWith, String.append_right_inj]

/-- With a password, the second command of the plan is the one that has it, and no other
command depends on it. -/
theorem commands_withPassword (spec : Specification) (root : Path) :
    ∃ later, ∀ password ≠ "",
      (spec.withPassword password).commands root =
        spec.packages.installation root :: spec.identityWith root password :: later := by
  refine ⟨[System.inside root "hwclock --systohc",
    spec.system.localeEntry root,
    System.inside root "locale-gen",
    hereDocument (root.join "etc/hosts") spec.system.hosts] ++ spec.initrd.commands root, ?_⟩
  intro password hpassword
  have hgiven : (spec.withPassword password).system.password = some password :=
    System.password_of_ne_empty rfl hpassword
  have hprompt : (spec.withPassword password).system.passwordPrompt root = [] := by
    simp [System.passwordPrompt, hgiven]
  have hidentity : (spec.withPassword password).system.identity root =
      spec.identityWith root password := System.identity_of_some hgiven root
  rw [commands_eq, System.commands, hprompt, hidentity]
  rfl

end Specification

/-! ## Two executions -/

section

variable {η η' : Type}

/-- The replies that reached a run. -/
def Outcome.replies (outcome : Outcome (η × List Exchange)) : List Reply :=
  outcome.state.2.map (·.reply)

/-- Whether a job is to run the commands of a specification, which it can load. -/
structure Job.Executes (job : Job) (machine : Machine η) (state : η) (spec : Specification) :
    Prop where
  mode : job.mode = .exec
  loads : Specification.ofOctets (Source.ofPath? job.source)
    (machine.read (Source.ofPath? job.source) state).1 = .ok spec

namespace Job

/-- The replies of an execution decide how it ends. -/
theorem Executes.failure_eq {job : Job} {machine : Machine η} {state : η} {spec : Specification}
    (h : job.Executes machine state spec) :
    Execute.Answered (spec.commands job.root).length
        (job.run machine.recorded (state, [])).replies ∧
      (job.run machine.recorded (state, [])).failure =
        (Execute.firstFault (spec.commands job.root)
          (job.run machine.recorded (state, [])).replies).map job.failureOf := by
  obtain ⟨after, fault, hcourse, hfailure⟩ := job.run_exec_course h.mode machine state h.loads
  exact ⟨hcourse.answered, by rw [Outcome.replies, ← hcourse.fault_eq]; exact hfailure⟩

/-- The replies to the commands are all the replies there are. -/
theorem Executes.replies_eq {job : Job} {machine : Machine η} {state : η} {spec : Specification}
    (h : job.Executes machine state spec) :
    (job.run machine.recorded (state, [])).replies =
      (job.apply machine.recorded spec
        ((machine.read (Source.ofPath? job.source) state).2, [])).replies := by
  rw [run_of_ok job machine.recorded (state, []) h.loads]
  rfl

/-- The texts that a job fails with tell commands apart that get the same reply. -/
theorem text_inj {job : Job} (hmode : job.mode = .exec) {command command' : String}
    {reply : Reply} {fault fault' : Fault} (h : Execute.faultAfter command reply = some fault)
    (h' : Execute.faultAfter command' reply = some fault')
    (htext : (Failure.chain ∘ job.failureOf) fault = (Failure.chain ∘ job.failureOf) fault') :
    command = command' := by
  rw [Function.comp_apply, Function.comp_apply, failureOf_faultAfter hmode h,
    failureOf_faultAfter hmode h'] at htext
  simp only [Failure.chain, Cause.chain, List.cons_append, List.nil_append, List.cons.injEq,
    true_and] at htext
  exact Execute.message_inj h h' htext.1

/-- **Disclosure.** With the same replies, two executions that differ in the password get
equally far, and fail with the same texts unless the second command fails. This is the
command with the password, and the failure has it as it was run. -/
theorem chains_agree_iff (spec : Specification) {p q : String} (hp : p ≠ "") (hq : q ≠ "")
    {job job' : Job} (hroot : job'.root = job.root)
    {machine : Machine η} {machine' : Machine η'} {state : η} {state' : η'}
    (hrun : job.Executes machine state (spec.withPassword p))
    (hrun' : job'.Executes machine' state' (spec.withPassword q))
    (hagree : (job.run machine.recorded (state, [])).replies <+:
        (job'.run machine'.recorded (state', [])).replies ∨
      (job'.run machine'.recorded (state', [])).replies <+:
        (job.run machine.recorded (state, [])).replies) :
    let outcome := job.run machine.recorded (state, [])
    let outcome' := job'.run machine'.recorded (state', [])
    let identity := spec.identityWith job.root p
    let context := "Provisioning " ++ job.root.shown ++ " failed"
    outcome.unrecorded = job.run machine state ∧
    outcome'.unrecorded = job'.run machine' state' ∧
    outcome.replies = outcome'.replies ∧
    ((spec.withPassword p).commands job.root)[1]? = some identity ∧
    (outcome.failure.map Failure.chain = outcome'.failure.map Failure.chain ↔
      p = q ∨ ∀ reply, outcome.replies[1]? = some reply → reply.succeeded) ∧
    ∀ reply, outcome.replies[1]? = some reply →
      match reply with
      | .refused reason =>
        outcome.failure = some ⟨[context], .fault (.spawnFailed identity reason)⟩
      | .ended status _ _ =>
        status ≠ .exited 0 →
          outcome.failure = some ⟨[context], .fault (.commandFailed identity status)⟩ := by
  intro outcome outcome' identity context
  obtain ⟨later, hcommands⟩ := spec.commands_withPassword job.root
  obtain ⟨hanswered, hfailure⟩ := hrun.failure_eq
  obtain ⟨hanswered', hfailure'⟩ := hrun'.failure_eq
  rw [hcommands p hp] at hanswered hfailure
  rw [hroot, hcommands q hq] at hanswered' hfailure'
  simp only [List.length_cons] at hanswered hanswered'
  have hreplies : outcome.replies = outcome'.replies := hanswered.unique hanswered' hagree
  -- both jobs report a fault in the same way
  have hreport : job'.failureOf = job.failureOf := by
    funext fault
    simp only [failureOf, hrun.mode, hrun'.mode, hroot]
  have hfault {reply : Reply} {fault : Fault} (hreply : outcome.replies[1]? = some reply)
      (h : Execute.faultAfter identity reply = some fault) :
      outcome.failure = some ⟨[context], .fault fault⟩ := by
    rw [hfailure, Execute.firstFault_second hanswered hreply h, Option.map_some,
      failureOf_faultAfter hrun.mode h]
  refine ⟨job.run_recorded machine state, job'.run_recorded machine' state', hreplies, ?_, ?_, ?_⟩
  · rw [hcommands p hp]
    rfl
  · rw [hfailure, hfailure', ← hreplies, hreport, Option.map_map, Option.map_map,
      ← spec.identityWith_inj job.root]
    exact Execute.firstFault_second_iff (text_inj hrun.mode) hanswered
  · intro reply hreply
    cases reply with
    | refused reason => exact hfault hreply rfl
    | ended status stdout stderr =>
      intro hstatus
      exact hfault hreply (if_neg hstatus)

/-- Two passwords of one word, while the second command fails: each can be read where the
failure is reported. -/
theorem one_word_disclosed :
    let spec : Specification := ⟨{}, ⟨"UTC", "C", "UTF-8", "us", "archie", none⟩, {}⟩
    let job : Job := ⟨none, Path.ofText "/target", .exec, false, false⟩
    let text (password : String) :=
      "\x7b\"system\": [\"UTC\", \"C\", \"UTF-8\", \"us\", \"archie\", \""
        ++ password ++ "\"]\x7d"
    let machine (password : String) : Machine Nat :=
      ⟨fun _ count => (.ok (Utf8.encode (text password)), count),
        fun _ count => (.ended (.exited count) [] [], count + 1)⟩
    let failure (password : String) := (job.run (machine password) 0).failure
    failure "hunter2" = some ⟨["Provisioning /target failed"],
      .fault (.commandFailed (spec.identityWith job.root "hunter2") (.exited 1))⟩ ∧
    (failure "hunter2").map Failure.chain ≠ (failure "s3cret").map Failure.chain := by
  intro spec job text machine failure
  have hload {p : String} (hdecoded : Utf8.decode? (Utf8.encode (text p)) = some (text p))
      (hread : Json.read (text p) = .ok (.object [("system", .array [.text "UTC", .text "C",
        .text "UTF-8", .text "us", .text "archie", .text p])])) :
      job.Executes (machine p) 0 (spec.withPassword p) := by
    refine ⟨rfl, ?_⟩
    simp only [machine, Specification.ofOctets, hdecoded, Specification.parse, job,
      Source.ofPath?, Source.format, Specification.readDocument, hread, Except.mapError]
    rfl
  have hrun : job.Executes (machine "hunter2") 0 (spec.withPassword "hunter2") :=
    hload (by cbv) (by cbv)
  have hrun' : job.Executes (machine "s3cret") 0 (spec.withPassword "s3cret") :=
    hload (by cbv) (by cbv)
  have hfirst : (job.run (machine "hunter2").recorded (0, [])).replies =
      [.ended (.exited 0) [] [], .ended (.exited 1) [] []] :=
    hrun.replies_eq.trans (by decide +kernel)
  have hsecond : (job.run (machine "s3cret").recorded (0, [])).replies =
      [.ended (.exited 0) [] [], .ended (.exited 1) [] []] :=
    hrun'.replies_eq.trans (by decide +kernel)
  have hcontext : "Provisioning " ++ job.root.shown ++ " failed" = "Provisioning /target failed" :=
    by decide +kernel
  clear_value machine job spec
  obtain ⟨hrecorded, hrecorded', -, -, hiff, hfailure⟩ := chains_agree_iff spec
    (p := "hunter2") (q := "s3cret") (by decide) (by decide) rfl hrun hrun'
    (.inl (by simp only [hfirst, hsecond, List.prefix_rfl]))
  rw [hfirst, hcontext] at hfailure
  rw [hfirst] at hiff
  simp only [failure, ← hrecorded, ← hrecorded']
  refine ⟨hfailure _ rfl (by decide), ?_⟩
  intro hsame
  rcases hiff.1 hsame with hpq | hall
  · exact absurd hpq (by decide)
  · exact absurd (hall _ rfl) (by decide)

end Job

end

end InstallPlan
