import InstallPlan.Proofs.Agreement

/-!
# Capacity

What is left of a script on a device that takes a limited number of octets in all
(`Device.Limited`). What is written fills the room that there is, and fails if there is
too little of it (`Device.Fills`). This holds of octets that are offered again and again,
of the texts that an event is written in and of the event, since it holds of two writes in
a row (`Fills.andThen`).

The sink may be handed more events after one has failed. The device has then taken the
first octets of all of them, cut off wherever the room ends.
-/

namespace InstallPlan

section

variable {ω : Type}

/-! ## Devices with a limit -/

namespace Device

/-- A device that takes a limited number of octets. `holds state written room` says that it
has taken `written` and takes `room` more. Of what it is offered it takes some, from the
first octet on, and it fails when it is full and only then. -/
structure Limited (device : Device ω) (holds : ω → Octets → Nat → Prop) : Prop where
  takes {state after : ω} {written octets : Octets} {room count : Nat}
    (hstate : holds state written room) (hoctets : octets ≠ [])
    (hoffer : device.offer octets state = (.ok count, after)) :
    0 < count ∧ count ≤ octets.length ∧ count ≤ room ∧
      holds after (written ++ octets.take count) (room - count)
  refuses {state after : ω} {written octets : Octets} {room : Nat} {reason : IoFault}
    (hstate : holds state written room) (hoctets : octets ≠ [])
    (hoffer : device.offer octets state = (.error reason, after)) :
    room = 0 ∧ holds after written 0
  flushes {state : ω} {written : Octets} {room : Nat} (hstate : holds state written room) :
    holds (device.flush state).2 written room

/-- What a full device fails with. -/
def Refuses (device : Device ω) (holds : ω → Octets → Nat → Prop) (reason : IoFault) : Prop :=
  ∃ state written octets, holds state written 0 ∧ octets ≠ [] ∧
    (device.offer octets state).1 = .error reason

/-- Whether a device can be completed whatever it has taken. -/
def Flushes (device : Device ω) (holds : ω → Octets → Nat → Prop) : Prop :=
  ∀ {state written room}, holds state written room → (device.flush state).1 = none

/-- The reaction of a device that has taken `written` to the writing of `octets`: it takes
what there is room for, and fails unless this is all. -/
structure Fills (device : Device ω) (holds : ω → Octets → Nat → Prop) (written octets : Octets)
    (room : Nat) (reaction : Reaction ω) : Prop where
  state : holds reaction.state (written ++ octets.take room) (room - octets.length)
  fits : octets.length ≤ room → reaction.fault = none
  full : room < octets.length →
    ∃ reason, device.Refuses holds reason ∧ reaction.fault = some (.io reason)

variable {device : Device ω} {holds : ω → Octets → Nat → Prop}

namespace Fills

variable {written octets more : Octets} {room : Nat} {reaction : Reaction ω}

theorem nil {state : ω} (hstate : holds state written room) :
    device.Fills holds written [] room { state } where
  state := by simpa using hstate
  fits _ := rfl
  full hroom := absurd hroom (Nat.not_lt_zero _)

/-- A write that there is room for. -/
theorem of_fits (hstate : holds reaction.state (written ++ octets) (room - octets.length))
    (hfits : octets.length ≤ room) (hfault : reaction.fault = none) :
    device.Fills holds written octets room reaction where
  state := by rwa [List.take_of_length_le hfits]
  fits _ := hfault
  full hroom := absurd hroom (Nat.not_lt_of_le hfits)

/-- Two writes in a row are one. -/
theorem andThen (h : device.Fills holds written octets room reaction) {next : ω → Reaction ω}
    (hnext : holds reaction.state (written ++ octets) (room - octets.length) →
      device.Fills holds (written ++ octets) more (room - octets.length)
        (next reaction.state)) :
    device.Fills holds written (octets ++ more) room (reaction.andThen next) := by
  rcases Nat.lt_or_ge room octets.length with hroom | hfits
  · -- the first write fails, and leaves no room
    obtain ⟨reason, hreason, hfault⟩ := h.full hroom
    have hlength : room ≤ (octets ++ more).length := by
      rw [List.length_append]
      omega
    rw [Reaction.andThen_of_isSome (by simp [hfault])]
    refine ⟨?_, ?_, fun _ => ⟨reason, hreason, hfault⟩⟩
    · have hstate := h.state
      rw [Nat.sub_eq_zero_of_le (Nat.le_of_lt hroom)] at hstate
      rwa [List.take_append_of_le_length (Nat.le_of_lt hroom),
        Nat.sub_eq_zero_of_le hlength]
    · intro hall
      rw [List.length_append] at hall
      omega
  · have hstate := h.state
    rw [List.take_of_length_le hfits] at hstate
    have hsecond := hnext hstate
    rw [Reaction.andThen_of_none (h.fits hfits)]
    refine ⟨?_, ?_, ?_⟩
    · have htaken := hsecond.state
      rw [List.append_assoc, Nat.sub_sub] at htaken
      rwa [List.take_append, List.take_of_length_le hfits, List.length_append]
    · intro hall
      rw [List.length_append] at hall
      exact hsecond.fits (by omega)
    · intro hroom
      rw [List.length_append] at hroom
      exact hsecond.full (by omega)

end Fills

/-! ## Writing to a device with a limit -/

namespace Limited

variable (h : device.Limited holds) {state : ω} {written : Octets} {room : Nat}
include h

theorem writeAll (octets : Octets) (hstate : holds state written room) :
    device.Fills holds written octets room (device.writeAll octets state) := by
  fun_induction device.writeAll octets state generalizing written room with
  | case1 state => exact Fills.nil hstate
  | case2 octets state hne reason after hoffer =>
    obtain ⟨rfl, hafter⟩ := h.refuses hstate hne hoffer
    refine ⟨by simpa using hafter, ?_, fun _ => ⟨reason, ?_, rfl⟩⟩
    · intro hfits
      exact absurd (List.length_eq_zero_iff.1 (Nat.le_zero.1 hfits)) hne
    · exact ⟨state, written, octets, hstate, hne, by rw [hoffer]⟩
  | case3 octets state hne after hoffer =>
    exact absurd (h.takes hstate hne hoffer).1 (Nat.lt_irrefl 0)
  | case4 octets state hne count after hoffer ih =>
    obtain ⟨-, hcount, hfits, hafter⟩ := h.takes hstate hne hoffer
    have hfirst : device.Fills holds written (octets.take (count + 1)) room { state := after } :=
      .of_fits (by rwa [List.length_take_of_le hcount]) (by rwa [List.length_take_of_le hcount])
        rfl
    have hall := hfirst.andThen ih
    rw [List.take_append_drop, Reaction.mk_andThen] at hall
    exact hall

theorem writeTexts (texts : List String) (hstate : holds state written room) :
    device.Fills holds written (Utf8.encode (String.join texts)) room
      (device.writer.writeTexts texts state) := by
  induction texts generalizing state written room with
  | nil => exact Fills.nil hstate
  | cons text rest ih =>
    rw [String.join_cons, Utf8.encode_append, Writer.writeTexts]
    exact (h.writeAll _ hstate).andThen ih

/-- An event that has a text writes it. -/
theorem react {event : Event} (hevent : event ≠ .finish) (hstate : holds state written room) :
    device.Fills holds written (Utf8.encode (Script.render event)) room
      ((Sink.script device.writer).react event state) := by
  have hwritten := h.writeTexts (Script.pieces event) hstate
  rw [Script.join_pieces] at hwritten
  rcases event with _ | ⟨name | text⟩ | _
  · exact hwritten
  · exact ⟨hwritten.state, hwritten.fits, hwritten.full⟩
  · exact ⟨hwritten.state, hwritten.fits, hwritten.full⟩
  · exact absurd rfl hevent

/-- To complete the script writes nothing. -/
theorem react_finish (hstate : holds state written room) :
    let reaction := (Sink.script device.writer).react .finish state
    holds reaction.state written room ∧
      reaction.fault = (device.flush state).1.map .io :=
  ⟨h.flushes hstate, rfl⟩

end Limited

end Device

/-! ## Events in a row -/

/-- The octets of a number of events. -/
def Script.octets (events : List Event) : Octets :=
  events.flatMap fun event => Utf8.encode (render event)

namespace Script

theorem octets_cons (event : Event) (rest : List Event) :
    octets (event :: rest) = Utf8.encode (render event) ++ octets rest := List.flatMap_cons

theorem octets_concat (events : List Event) (event : Event) :
    octets (events ++ [event]) = octets events ++ Utf8.encode (render event) := by
  simp [octets]

/-- Every event but the last has a text. -/
theorem encode_render_ne_nil {event : Event} (h : event ≠ .finish) :
    Utf8.encode (render event) ≠ [] := by
  have hline (text : String) : Utf8.encode (text ++ "\n") ≠ [] := by
    rw [Utf8.encode_append]
    exact List.append_ne_nil_of_right_ne_nil _ (by decide)
  rcases event with _ | ⟨name | text⟩ | _
  · exact hline _
  · exact hline _
  · exact hline _
  · exact absurd rfl h

end Script

namespace Sink

variable {σ : Type} (sink : Sink σ)

theorem getElem?_reactions (events : List Event) (state : σ) (i : Nat) :
    (sink.reactions events state)[i]? =
      events[i]?.map fun event => sink.react event (sink.after (events.take i) state) := by
  induction events generalizing state i with
  | nil => rfl
  | cons event rest ih =>
    cases i with
    | zero => rfl
    | succ i => exact ih _ i

end Sink

namespace Device.Limited

variable {device : Device ω} {holds : ω → Octets → Nat → Prop} (h : device.Limited holds)
  {state : ω} {written : Octets} {room : Nat}
include h

/-- Whatever fails, the first octets of the events are left. -/
theorem after (events : List Event) (hstate : holds state written room) :
    holds ((Sink.script device.writer).after events state)
      (written ++ (Script.octets events).take room) (room - (Script.octets events).length) := by
  induction events generalizing state written room with
  | nil => simpa [Script.octets, Sink.after] using hstate
  | cons event rest ih =>
    have hfirst : holds ((Sink.script device.writer).react event state).state
        (written ++ (Utf8.encode (Script.render event)).take room)
        (room - (Utf8.encode (Script.render event)).length) := by
      by_cases hevent : event = .finish
      · subst hevent
        simpa [Script.render, Utf8.encode] using (h.react_finish hstate).1
      · exact (h.react hevent hstate).state
    have hrest := ih hfirst
    rwa [List.append_assoc, ← List.take_append, Nat.sub_sub, ← List.length_append,
      ← Script.octets_cons] at hrest

/-- If the device can be completed, a run up to the first fault is one write. -/
theorem deliver (hflush : device.Flushes holds) (events : List Event)
    (hstate : holds state written room) :
    device.Fills holds written (Script.octets events) room
      ((Sink.script device.writer).deliver events state) := by
  induction events generalizing state written room with
  | nil => exact Fills.nil hstate
  | cons event rest ih =>
    have hfirst : device.Fills holds written (Utf8.encode (Script.render event)) room
        ((Sink.script device.writer).react event state) := by
      by_cases hevent : event = .finish
      · subst hevent
        obtain ⟨hafter, hfault⟩ := h.react_finish hstate
        rw [hflush hstate] at hfault
        exact .of_fits (by simpa [Script.render, Utf8.encode] using hafter) (Nat.zero_le _) hfault
      · exact h.react hevent hstate
    rw [Script.octets_cons]
    exact hfirst.andThen ih

/-- To carry out a specification is to write its script. -/
theorem apply (hflush : device.Flushes holds) (spec : Specification) (root : Path)
    (hstate : holds state written room) :
    device.Fills holds written
      (Utf8.encode (Script.render .start ++ String.join ((spec.steps root).map Script.renderStep)))
      room (spec.apply root (Sink.script device.writer) state) := by
  have hdeliver := h.deliver hflush (spec.events root) hstate
  rw [Script.octets, Script.flatMap_render] at hdeliver
  rw [Specification.apply_eq_deliver]
  exact ⟨hdeliver.state, hdeliver.fits, hdeliver.full⟩

/-- **Capacity.** A device that takes a limited number of octets has taken the first octets
of the events that a sink was handed, whatever failed. An event with a text fails exactly if
the device does not take all octets up to its last; completing the script writes nothing,
and fails if the device does. A specification is carried out exactly if there is room for
its script. -/
theorem leaves_first_octets (hstate : holds state [] room) (events : List Event) :
    let sink := Sink.script device.writer
    let octets := Script.octets events
    holds (sink.after events state) (octets.take room) (room - octets.length) ∧
    (∀ i event, events[i]? = some event → ∃ reaction,
      (sink.reactions events state)[i]? = some reaction ∧
      let earlier := Script.octets (events.take i)
      if event = .finish then
        holds reaction.state (earlier.take room) (room - earlier.length) ∧
        reaction.fault = (device.flush (sink.after (events.take i) state)).1.map .io
      else
        let length := (Script.octets (events.take (i + 1))).length
        (length ≤ room → reaction.fault = none) ∧
        (room < length →
          ∃ reason, device.Refuses holds reason ∧ reaction.fault = some (.io reason))) ∧
    (device.Flushes holds → ∀ (spec : Specification) (root : Path),
      let reaction := spec.apply root sink state
      let script := Utf8.encode
        (Script.render .start ++ String.join ((spec.steps root).map Script.renderStep))
      holds reaction.state (script.take room) (room - script.length) ∧
      (script.length ≤ room → reaction.fault = none) ∧
      ((∃ reason, reaction.fault = some (.io reason)) ↔ room < script.length)) := by
  intro sink octets
  refine ⟨h.after events hstate, ?_, ?_⟩
  · intro i event hevent
    refine ⟨sink.react event (sink.after (events.take i) state), ?_, ?_⟩
    · rw [Sink.getElem?_reactions, hevent, Option.map_some]
    · intro earlier
      have hbefore := h.after (events.take i) hstate
      rw [List.nil_append] at hbefore
      split
      · rename_i hfinish
        subst hfinish
        exact h.react_finish hbefore
      · rename_i hfinish
        have hreaction := h.react hfinish hbefore
        have hpos := List.length_pos_iff.2 (Script.encode_render_ne_nil hfinish)
        rw [List.take_add_one, hevent, Option.toList_some, Script.octets_concat,
          List.length_append]
        exact ⟨fun hroom => hreaction.fits (by omega), fun hroom => hreaction.full (by omega)⟩
  · intro hflush spec root reaction script
    have hwritten := h.apply hflush spec root hstate
    refine ⟨hwritten.state, hwritten.fits, ?_⟩
    constructor
    · rintro ⟨reason, hfault⟩
      refine Nat.lt_of_not_le fun hfits => ?_
      rw [show reaction.fault = none from hwritten.fits hfits] at hfault
      cases hfault
    · intro hroom
      obtain ⟨reason, -, hfault⟩ := hwritten.full hroom
      exact ⟨reason, hfault⟩

end Device.Limited

end

/-! ## A memory with a limit -/

section

variable {written octets : Octets} {room : Nat} {flushes : Bool}

theorem Device.sheet_offer_full (hoctets : octets ≠ []) :
    Device.sheet.offer octets ⟨written, some 0, flushes⟩ =
      (.error (.other "writer full"), ⟨written, some 0, flushes⟩) := by
  simp [sheet, hoctets]

theorem Device.sheet_offer (hroom : 0 < room) :
    Device.sheet.offer octets ⟨written, some room, flushes⟩ =
      (.ok (min octets.length room),
        ⟨written ++ octets.take room, some (room - octets.length), flushes⟩) := by
  simp [sheet, Nat.ne_of_gt hroom]

end

/-- A memory that has a limit takes a limited number of octets. -/
theorem Device.sheet_limited (flushes : Bool) :
    Device.sheet.Limited fun sheet written room => sheet = ⟨written, some room, flushes⟩ where
  takes := by
    rintro _ after written octets room count rfl hoctets hoffer
    have hpos := List.length_pos_iff.2 hoctets
    rcases Nat.eq_zero_or_pos room with rfl | hroom
    · rw [sheet_offer_full hoctets] at hoffer
      cases hoffer
    · rw [sheet_offer hroom] at hoffer
      cases hoffer
      have htaken : octets.take (min octets.length room) = octets.take room := by
        rw [Nat.min_comm, ← List.take_eq_take_min]
      have hrest : room - min octets.length room = room - octets.length := by omega
      exact ⟨by omega, by omega, by omega, by rw [htaken, hrest]⟩
  refuses := by
    rintro _ after written octets room reason rfl hoctets hoffer
    rcases Nat.eq_zero_or_pos room with rfl | hroom
    · rw [sheet_offer_full hoctets] at hoffer
      cases hoffer
      exact ⟨rfl, rfl⟩
    · rw [sheet_offer hroom] at hoffer
      cases hoffer
  flushes := by
    rintro _ written room rfl
    rfl

theorem Device.eq_of_sheet_refuses {flushes : Bool} {reason : IoFault}
    (h : Device.sheet.Refuses (fun sheet written room => sheet = ⟨written, some room, flushes⟩)
      reason) : reason = .other "writer full" := by
  obtain ⟨_, written, octets, rfl, hoctets, hoffer⟩ := h
  rw [sheet_offer_full hoctets] at hoffer
  cases hoffer
  rfl

/-- The room ends between the two octets of a letter. -/
theorem leaves_first_octets_within_letter :
    let sink := Sink.script Writer.sheet
    let sheet : Sheet := { room := some 36 }
    let events : List Event := [.start, .step (.command "é"), .finish]
    let spec : Specification := ⟨{}, ⟨"UTC", "C", "UTF-8", "us", "archie", none⟩, {}⟩
    (sink.after events sheet).written = Utf8.encode (Script.render .start) ++ [0xC3] ∧
    (sink.reactions events sheet)[1]?.map (·.fault) =
      some (some (.io (.other "writer full"))) ∧
    ∃ reason, (spec.apply (Path.ofText "/mnt") sink sheet).fault = some (.io reason) := by
  intro _ sheet events spec
  have hsheet : sheet = ⟨[], some 36, true⟩ := rfl
  have hflush : Device.sheet.Flushes
      fun sheet written room => sheet = ⟨written, some room, true⟩ := by
    rintro _ written room rfl
    rfl
  obtain ⟨hleft, hreactions, hspec⟩ :=
    (Device.sheet_limited true).leaves_first_octets hsheet events
  refine ⟨?_, ?_, ?_⟩
  · have hwritten : ((Sink.script Writer.sheet).after events sheet).written = (Script.octets events).take 36 :=
      congrArg Sheet.written hleft
    rw [hwritten]
    decide
  · obtain ⟨reaction, hreaction, -, hfull⟩ := hreactions 1 (.step (.command "é")) rfl
    obtain ⟨reason, hreason, hfault⟩ := hfull (by decide)
    exact (congrArg (Option.map (·.fault)) hreaction).trans
      (by rw [Option.map_some, hfault, Device.eq_of_sheet_refuses hreason])
  · refine (hspec hflush spec (Path.ofText "/mnt")).2.2.2 ?_
    obtain ⟨later, hlater⟩ : ∃ later, spec.steps (Path.ofText "/mnt") =
        .heading "Install Packages" :: later := ⟨_, rfl⟩
    have hstart : (Utf8.encode (Script.render .start)).length = 35 := by decide
    have hheading : (Utf8.encode (Script.renderStep (.heading "Install Packages"))).length = 20 :=
      by decide
    rw [hlater, List.map_cons, String.join_cons, Utf8.encode_append, Utf8.encode_append,
      List.length_append, List.length_append, hstart, hheading]
    omega

end InstallPlan
