import InstallPlan.Rehearsal.Shell.State

/-!
# Rehearsal — Waiting

Jobs go on beside the shell that has begun them. Each begins at its own time, and
they come to their ends in the order of the times at which they do (`Act.advance`).
A job is carried out as a whole, at the latest when the shell waits for it, and at the
first chance that it has if it needs no time.
-/

namespace InstallPlan

namespace Rehearsal

/-- What becomes of the system, and the status, if a job comes to its end up to some
time. A job that finds nothing in a queue goes on later. -/
def Job.outcome? (limit : Option Int) (system : System) (job : Job) : Option (Nat × System) :=
  let (status, after) :=
    job.carryOut (limit.map fun time => (time + 1, Signal.kill))
      { system with clock := job.start, starved := false }
  match limit with
  | none => some (status, after)
  | some time => if after.starved || time < after.clock then none else some (status, after)

namespace Act

/-- Carries out the job that comes to its end first, if that is up to some time, and gives
its number. If only what the shell can do by itself is wanted, jobs that call programs are
left. -/
def advance (limit : Option Int) (alone : Bool) : Act (Option Nat) := do
  let shell ← get
  let system := shell.process.system
  let found := shell.jobs.filterMap fun job =>
    if job.status.isSome then none
    else
      match job.outcome? limit system with
      | some (status, after) =>
        if alone && system.lastId != after.lastId then none else some (job.id, status, after)
      | none => none
  match found with
  | [] => return none
  | first :: more =>
    let (id, status, after) := more.foldl
      (fun earliest other =>
        if other.2.2.clock < earliest.2.2.clock then other else earliest) first
    let clock := if limit.isNone then max system.clock after.clock else system.clock
    set { shell with
      jobs := shell.jobs.map fun (job : Job) =>
        if job.id = id then { job with status := some status } else job
      process := { shell.process with system := { after with clock } } }
    return some id

/-- Carries out jobs as long as there is one that comes to its end up to some time, at
most so many. -/
def advanceAll (limit : Option Int) (alone : Bool) : Nat → Act Unit
  | 0 => pure ()
  | count + 1 => do
    if (← advance limit alone).isSome then advanceAll limit alone count

/-- Waits for all jobs. -/
def runJobs : Act Unit := do advanceAll none false (← get).jobs.length

/-- Waits for a job, while others may come to their ends before it, at most so many. -/
def runUntil (id : Nat) : Nat → Act Unit
  | 0 => pure ()
  | count + 1 => do
    if (← get).jobs.any fun job => job.id = id && job.status.isNone then
      if (← advance none false).isSome then runUntil id count

/-- Carries out the jobs that come to their ends up to some time. -/
def settle (limit : Int) (alone : Bool) : Act Unit := do
  advanceAll (some limit) alone (← get).jobs.length

/-- Ends the shell if its time is up. -/
def checkTime : Act Unit := do
  match (← get).process.overdue? with
  | some signal => throw (.killed signal)
  | none => pure ()

/-- Sends a signal to a job, which ends at once. What it has done until now stays. -/
def stopJob (id signal : Nat) : Act Unit := do
  let shell ← get
  let system := shell.process.system
  let now := system.clock
  match shell.jobs.find? fun job => job.id = id with
  | none => pure ()
  | some job =>
    if job.status.isNone then
      let (status, after) : Nat × System :=
        if job.start < now then job.carryOut (some (now, signal)) { system with clock := job.start }
        else (128 + signal, system)
      let status := if now ≤ after.clock then 128 + signal else status
      set { shell with
        jobs := shell.jobs.map fun (job : Job) =>
          if job.id = id then { job with status := some status } else job
        process := { shell.process with system := { after with clock := now } } }

/-- Carries out a step in a shell of its own and gives its status. -/
def apart (act : Act Unit) : Act Nat := do
  settle (← get).process.system.clock true
  let outer ← get
  set { outer with traps := [], loops := 0, jobs := [], pending := [], isInner := true }
  let result ← attempt act
  let inner ← get
  set (outer.after inner)
  settle outer.process.system.clock false
  checkTime
  match result with
  | .ok _ | .error (.out _) | .error (.next _) => return inner.status
  | .error (.ended status) | .error (.failed status) | .error (.back status) => return status
  | .error (.killed signal) => return 128 + signal
  | .error .abandoned => return 1
  | .error .exhausted => throw .exhausted

end Act

end Rehearsal

end InstallPlan
