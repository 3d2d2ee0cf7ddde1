import InstallPlan.Sink.Basic

/-!
# Sink — Writer

What text is written to: the standard output, or a device that takes octets,
such as a memory that may hold a limited number of them.

A device is offered octets and says how many it takes. What it does not take is
offered again, until nothing is left or it fails (`Device.writeAll`). An offer
that is interrupted is made again, so that it shows in nothing but the time.
-/

namespace InstallPlan

/-- Something that text is written to, with a state of type `ω`. -/
structure Writer (ω : Type) where
  write : Octets → ω → Reaction ω
  flush : ω → Reaction ω

/-- Writes one text after another, up to and including the first that fails. -/
def Writer.writeTexts {ω : Type} (writer : Writer ω) : List String → ω → Reaction ω
  | [], state => { state }
  | text :: rest, state =>
    (writer.write (Utf8.encode text) state).andThen (writer.writeTexts rest)

/-- The writer to the standard output. -/
def Writer.terminal : Writer Unit where
  write octets state := { state, output := [.stdout octets] }
  flush state := { state }

/-! ## Devices -/

/-- Something that takes octets, with a state of type `ω`. -/
structure Device (ω : Type) where
  /-- How many of the octets are taken, from the first on. -/
  offer : Octets → ω → Except IoFault Nat × ω
  flush : ω → Option IoFault × ω

namespace Device

variable {ω : Type}

/-- Offers octets until all of them are taken. To take none of them is to fail. -/
def writeAll (device : Device ω) (octets : Octets) (state : ω) : Reaction ω :=
  if octets = [] then { state }
  else
    match device.offer octets state with
    | (.error reason, after) => { state := after, fault := some (.io reason) }
    | (.ok 0, after) =>
      { state := after, fault := some (.io (.other "failed to write whole buffer")) }
    | (.ok (count + 1), after) => device.writeAll (octets.drop (count + 1)) after
termination_by octets.length
decreasing_by
  rw [List.length_drop]
  have := List.length_pos_iff.2 ‹_›
  omega

section

variable (device : Device ω) {octets : Octets} {state after : ω}

@[simp] theorem writeAll_nil (state : ω) : device.writeAll [] state = { state } := by
  rw [writeAll, if_pos rfl]

theorem writeAll_of_ok {count : Nat} (hne : octets ≠ []) (hcount : 0 < count)
    (h : device.offer octets state = (.ok count, after)) :
    device.writeAll octets state = device.writeAll (octets.drop count) after := by
  obtain ⟨count, rfl⟩ := Nat.exists_eq_succ_of_ne_zero (Nat.ne_of_gt hcount)
  rw [writeAll, if_neg hne, h]

end

/-- The writer to a device. -/
def writer (device : Device ω) : Writer ω where
  write := device.writeAll
  flush state :=
    let (reason?, after) := device.flush state
    { state := after, fault := reason?.map .io }

end Device

/-- A memory for octets. -/
structure Sheet where
  written : Octets := []
  /-- How many more octets it takes, if there is a limit. -/
  room : Option Nat := none
  /-- Whether it can be completed. -/
  flushes : Bool := true
  deriving DecidableEq, Repr

/-- The memory as a device. It takes what fits, and fails once it is full. -/
def Device.sheet : Device Sheet where
  offer octets sheet :=
    match sheet.room with
    | none => (.ok octets.length, { sheet with written := sheet.written ++ octets })
    | some room =>
      if room = 0 ∧ octets ≠ [] then (.error (.other "writer full"), sheet)
      else
        (.ok (min octets.length room),
          { sheet with
            written := sheet.written ++ octets.take room
            room := some (room - octets.length) })
  flush sheet := (if sheet.flushes then none else some (.other "flush failed"), sheet)

/-- The writer into a memory. -/
def Writer.sheet : Writer Sheet := Device.sheet.writer

end InstallPlan
